import ChipEight.Proofs.Plays
import ChipEight.Proofs.Rates

namespace ChipEight.Machine

variable {τ ε τ' ε' : Type} {config : Config τ} {config' : Config τ'} {machine : Machine τ}
  {machine' : Machine τ'} {surroundings : Surroundings τ ε} {surroundings' : Surroundings τ' ε'}
  {count : ε → Nat} {count' : ε' → Nat} {script : Nat → List Bool} {world : ε} {world' : ε'}

/-- Two calls ended in the same way, but for the room that there was for entries. -/
structure Agree (limit limit' : Nat) (result : EStateM.Result Error (Machine τ × ε) Answer)
    (result' : EStateM.Result Error (Machine τ' × ε') Answer) : Prop where
  state : (left result').1.state = (left result).1.state
  status : (left result').1.status = (left result).1.status
  /-- Traces and answers are cut from the same entries, which are what a run answers with. -/
  answers : ∃ (answer : Except Error Answer) (entries : List TraceEntry),
    verdict result = answer.map (.cut limit) ∧ verdict result' = answer.map (.cut limit') ∧
    (left result).1.trace.entries = latest limit entries ∧
    (left result').1.trace.entries = latest limit' entries ∧
    ∀ kept, answer = .ok (.kept (some kept)) → kept = entries

variable [TimeScale τ] [TimeScale τ']

omit [TimeScale τ'] in
theorem mirrors_create (made : create config = .ok machine) (count : ε → Nat) (world : ε) :
    Mirrors config count (.fresh (count world)) (machine, world) where
  sound := create_sound made
  status := by rw [create_eq made]; rfl
  state := by rw [create_eq made]; rfl
  trace := by rw [create_eq made]; simp [idle, Trace.empty, Play.fresh, latest]
  unstopped := by rw [create_eq made]; rfl
  polls := rfl

/-- The clock gives readings, and no pause after a cycle fails. -/
structure Untroubled (surroundings : Surroundings τ ε) (config : Config τ) : Prop where
  reads : ∀ world, ∃ now, (surroundings.clock world).1 = .ok now
  pauses : ∀ (world : ε) (cycleStart : τ), (surroundings.clock world).1 = .ok cycleStart →
    ∀ place : Machine τ × ε, place.1.config = config →
      ∃ paused, (pace surroundings cycleStart).run place = .ok () paused

namespace Untroubled

theorem unhindered (untroubled : Untroubled surroundings config)
    (result : EStateM.Result Error (Machine τ × ε) Answer) :
    ¬ Hindered surroundings config result := by
  rintro ⟨error, _, _, obstacle⟩
  cases obstacle with
  | clock world fails =>
    obtain ⟨now, reads⟩ := untroubled.reads world
    rw [reads] at fails
    cases fails
  | pause reads settings fails =>
    obtain ⟨paused, paces⟩ := untroubled.pauses _ _ reads _ settings
    rw [paces] at fails
    cases fails

theorem serves (untroubled : Untroubled surroundings config) (requests : List Request)
    (place : Machine τ × ε) : Unhindered surroundings config requests place := by
  induction requests generalizing place with
  | nil => trivial
  | cons request requests ih => exact ⟨untroubled.unhindered _, ih _⟩

end Untroubled

omit [TimeScale τ] [TimeScale τ'] in
theorem untroubled_exact {surroundings : Surroundings Rat ε}
    (reads : ∀ world, ∃ now, (surroundings.clock world).1 = .ok now)
    (waits : ∀ seconds world, ∃ stopped, (surroundings.wait seconds world).1 = .ok stopped)
    (config : Config Rat) : Untroubled surroundings config := by
  refine ⟨reads, ?_⟩
  intro _ cycleStart _ ⟨machine, world⟩ _
  obtain ⟨period, known⟩ := cyclePeriod_exact machine.config
  obtain ⟨now, read⟩ := reads world
  simp only [pace, EStateM.run_bind, run_read, known, number, EStateM.run_pure]
  split
  · simp only [EStateM.run_bind, run_demand, read, TimeScale.sub, EStateM.run_pure]
    split
    · obtain ⟨stopped, waited⟩ := waits (period - (now - cycleStart)) (surroundings.clock world).2
      simp only [EStateM.run_bind, run_demand, waited]
      cases stopped <;> exact ⟨_, rfl⟩
    · exact ⟨_, rfl⟩
  · exact ⟨_, rfl⟩

/-- Two new machines of the same strictness, with timers that keep to the cycles and the same script
of keys, go through the same states and answer alike, whatever their rates, clocks, traces and
screens, as long as no clock or pause hinders them. -/
theorem settings_unseen (made : create config = .ok machine) (made' : create config' = .ok machine')
    (shared : config.timerRate = none) (shared' : config'.timerRate = none)
    (strict : config'.strict = config.strict) (onlooking : surroundings.Onlooking count script)
    (onlooking' : surroundings'.Onlooking count' script) (together : count' world' = count world)
    {requests : List Request} {request : Request}
    (explicit : ∀ request ∈ requests, request.Explicit) (next : request.Explicit) :
    let result := (request.answer surroundings).run (serve surroundings requests (machine, world))
    let result' :=
      (request.answer surroundings').run (serve surroundings' requests (machine', world'))
    let agree := Agree config.traceLimit.toNat config'.traceLimit.toNat result result'
    (Unhindered surroundings config requests (machine, world) →
      Unhindered surroundings' config' requests (machine', world') →
      Hindered surroundings config result ∨ Hindered surroundings' config' result' ∨ agree) ∧
    (Untroubled surroundings config → Untroubled surroundings' config' → agree) := by
  intro result result' agree
  have either : Unhindered surroundings config requests (machine, world) →
      Unhindered surroundings' config' requests (machine', world') →
      Hindered surroundings config result ∨ Hindered surroundings' config' result' ∨ agree := by
    intro unhindered unhindered'
    have mirrors := (mirrors_create made count world).serve onlooking shared explicit unhindered
    have mirrors' :=
      (mirrors_create made' count' world').serve onlooking' shared' explicit unhindered'
    rw [together, strict] at mirrors'
    have follows := mirrors.answer onlooking shared next
    have follows' := mirrors'.answer onlooking' shared' next
    rw [strict] at follows'
    rcases follows with hindered | ⟨same, mirrored⟩
    · exact .inl hindered
    · rcases follows' with hindered' | ⟨same', mirrored'⟩
      · exact .inr (.inl hindered')
      · refine .inr (.inr ⟨?_, ?_, _, _, same, same', mirrored.trace, mirrored'.trace, ?_⟩)
        · rw [mirrored.state, mirrored'.state]
        · rw [mirrored.status, mirrored'.status]
        · intro kept answered
          cases played : (Play.answer config.strict script request).run
              (Play.serve config.strict script requests (Play.fresh (count world))) with
          | ok value after =>
            rw [played] at answered
            cases answered
            exact Play.kept_answer config.strict script played
          | error error after =>
            rw [played] at answered
            cases answered
  refine ⟨either, fun untroubled untroubled' => ?_⟩
  rcases either (untroubled.serves _ _) (untroubled'.serves _ _) with hindered | hindered | agree
  · exact absurd hindered (untroubled.unhindered _)
  · exact absurd hindered (untroubled'.unhindered _)
  · exact agree

/-- A machine paced at sixty cycles a second, with room for one entry, agrees with one that is not
paced and shows every frame. At one cycle in thirty thousand years the first pause fails. -/
theorem settings_unseen_paced :
    let surroundings : Surroundings Rat Nat :=
      { clock := fun polls => (.ok polls, polls)
        poll := fun polls => (Keypad.released.held, polls + 1)
        render := fun _ polls => (⟨false, false⟩, polls)
        wait := fun _ polls => (.ok false, polls)
        note := fun _ polls => polls }
    let impatient : Surroundings Rat Nat :=
      { surroundings with
        wait := fun seconds polls =>
          (if seconds ≤ 9000000000 then .ok false else .error .waitTooLong, polls) }
    let paced : Config Rat := { (.standard : Config Rat) with traceLimit := 1 }
    let free : Config Rat := { (.standard : Config Rat) with rate := none, renderOnChange := false }
    let slow : Config Rat := { (.standard : Config Rat) with rate := some (1 / 1000000000000) }
    let run (surroundings : Surroundings Rat Nat) (config : Config Rat) :=
      ((Request.run 2 (some 2)).answer surroundings).run
        (serve surroundings [.load [0x70, 0x01, 0x12, 0x00]] (Machine.idle config, 0))
    Agree 1 1000 (run surroundings paced) (run surroundings free) ∧
      raised (run impatient slow) = some .waitTooLong ∧
      (left (run impatient slow)).1.state.map State.cycles = some 1 ∧
      (left (run impatient free)).1.state.map State.cycles = some 2 := by
  intro surroundings impatient paced free slow run
  have onlooking : surroundings.Onlooking id fun _ => Keypad.released.held :=
    { poll := fun _ => rfl
      polled := fun _ => rfl
      clock := fun _ => rfl
      rendered := fun _ _ => rfl
      waited := fun _ _ => rfl
      noted := fun _ _ => rfl
      shown := fun _ _ => rfl
      waits := fun _ _ stopped => by cases stopped }
  have reads (polls : Nat) : ∃ now, (surroundings.clock polls).1 = .ok now := ⟨polls, rfl⟩
  have untroubled (config : Config Rat) : Untroubled surroundings config :=
    untroubled_exact reads (fun _ _ => ⟨false, rfl⟩) config
  have explicit : ∀ request ∈ [Request.load [0x70, 0x01, 0x12, 0x00]], request.Explicit := by
    simp [Request.Explicit]
  have next : (Request.run 2 (some 2)).Explicit := trivial
  have created (config : Config Rat) (room : config.traceLimit ≤ Trace.greatestLimit) :
      create config = .ok (Machine.idle config) := if_neg (Int.not_lt.mpr room)
  obtain ⟨_, agree⟩ :=
    settings_unseen (created paced (by decide)) (created free (by decide)) rfl rfl
    rfl onlooking onlooking rfl explicit next
  exact ⟨agree (untroubled paced) (untroubled free), by decide +kernel, by decide +kernel,
    by decide +kernel⟩

end ChipEight.Machine
