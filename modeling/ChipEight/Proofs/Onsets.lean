import ChipEight.Proofs.Course

/-! What a step does where it is asked for. The cycles that requests come to are the `deeds`. -/

namespace ChipEight.Machine

variable {τ ε : Type} [TimeScale τ] {config : Config τ} {state : State} {world : ε}
  {surroundings : Surroundings τ ε} {here : Machine τ × ε}

/-- A step from here fetches the word at the counter of a state, with the keys that are polled in
that world. -/
structure Fetches (surroundings : Surroundings τ ε) (here : Machine τ × ε) (state : State)
    (world : ε) : Prop where
  present : here.1.state = some state
  woken : ∃ awake, (wake surroundings).run here = .ok () (awake, world)
  inside : ¬ state.AtEnd
  sixteen : (surroundings.poll world).1.length = 16

theorem Fetches.step (fetches : Fetches surroundings here state world)
    (sound : here.1.Sound config) :
    ∃ awake : Machine τ, here.1.Rests awake ∧ awake.status = .running ∧
      (Machine.step surroundings).run here =
        let keys := (surroundings.poll world).1
        let polled := (surroundings.poll world).2
        match state.fault? config.strict with
        | none =>
          (complete surroundings state.snapshot state.operation state.instruction).run
            ({ awake with state := some (state.executed keys) }, polled)
        | some cause =>
          .error (.fault (.execution state.word state.pc cause))
            ({ awake with
                state := some (state.failed keys)
                status := .faulted
                trace := awake.trace.push (state.faultEntry keys cause) },
              surroundings.note (.faulted state.pc state.word cause) polled) := by
  obtain ⟨machine, before⟩ := here
  obtain ⟨awake, woken⟩ := fetches.woken
  have formed := sound.formed state fetches.present
  have spec := wake_spec surroundings machine before
  rw [woken] at spec
  obtain ⟨⟨rests, _⟩, running, read⟩ := spec
  have strict : awake.config.strict = config.strict := by rw [rests.config, sound.settings]
  have present := rests.state.trans fetches.present
  have inside : ¬ (state.memory.size : Int) ≤ state.pc + 1 := fetches.inside
  refine ⟨awake, rests, running, ?_⟩
  rw [run_step_wake surroundings before fetches.present, EStateM.run_bind, woken]
  simp only
  have fetched := run_fetchAndExecute surroundings world present formed.shaped
    (formed.readable fetches.inside)
  simp only [if_pos fetches.sixteen, strict] at fetched
  rw [run_step_ready surroundings world present running read, if_neg inside]
  exact fetched

theorem Fetches.granted (fetches : Fetches surroundings here state world)
    (sound : here.1.Sound config) (shared : config.timerRate = none)
    (granted : state.fault? config.strict = none) :
    (left ((Machine.step surroundings).run here)).1.state =
        some (state.completed (surroundings.poll world).1) ∧
      (left ((Machine.step surroundings).run here)).1.status = .running := by
  obtain ⟨awake, rests, running, stepped⟩ := fetches.step sound
  let executing : Machine τ :=
    { awake with state := some (state.executed (surroundings.poll world).1) }
  have present : executing.state = some (state.executed (surroundings.poll world).1) := rfl
  have shared' : executing.config.timerRate = none := by
    simp only [executing, rests.config, sound.settings, shared]
  rw [stepped, granted]
  simp only
  rw [run_complete surroundings state.snapshot state.operation state.instruction
    (surroundings.poll world).2 present shared']
  simp only
  -- The frame may break the step off, but only after the timers ran.
  split
  · exact ⟨rfl, running⟩
  · exact ⟨rfl, running⟩

theorem Fetches.refused (fetches : Fetches surroundings here state world)
    (sound : here.1.Sound config) {cause : Fault}
    (refused : state.fault? config.strict = some cause) :
    ∃ reached, (Machine.step surroundings).run here =
        .error (.fault (.execution state.word state.pc cause)) reached ∧
      reached.1.status = .faulted ∧
      reached.1.state = some (state.failed (surroundings.poll world).1) ∧
      reached.1.trace = here.1.trace.push (state.faultEntry (surroundings.poll world).1 cause) := by
  obtain ⟨awake, rests, _, stepped⟩ := fetches.step sound
  rw [stepped, refused, rests.trace]
  exact ⟨_, rfl, rfl, rfl, rfl⟩

/-- A cycle that came about: the state it found, and the keys of the poll that it made, or would
have made if there had been a word to fetch. -/
structure Deed where
  found : State
  keys : List Bool

/-- The cycle that a step from here comes to, if it comes to one. A frame that is broken off does
not undo it. -/
def deed? (surroundings : Surroundings τ ε) (here : Machine τ × ε) : Option Deed :=
  match here.1.state, (wake surroundings).run here with
  | some found, .ok _ (_, world) =>
    let keys := (surroundings.poll world).1
    if found.TurnsDown keys then none else some ⟨found, keys⟩
  | _, _ => none

/-- The cycles that requests come to, in order. -/
def deeds (surroundings : Surroundings τ ε) (requests : List Request) (place : Machine τ × ε) :
    List Deed :=
  (onsets surroundings requests place).flatMap fun here => (deed? surroundings here).toList

/-- A cycle leaves what `settle` says, but for the entry when its frame was broken off. -/
theorem left_step_ready {machine : Machine τ} (shared : machine.config.timerRate = none)
    (present : machine.state = some state) (running : machine.status = .running)
    (read : machine.clockPaused = false) (formed : state.WellFormed)
    (taken : ¬ state.TurnsDown (surroundings.poll world).1) :
    ∃ trace, left ((step surroundings).run (machine, world)) =
      ({ (settle surroundings machine state world).1 with trace },
        (settle surroundings machine state world).2) := by
  rcases step_ready_cases surroundings world present running read formed.shaped formed.counter.1
  with
    ⟨atEnd, ended⟩ | ⟨inside, turned, _⟩ | ⟨cause, inside, _, refused, faulted⟩ |
      ⟨inside, _, granted, executed⟩
  · refine ⟨machine.trace.push state.endEntry, ?_⟩
    simp only [ended, settle, if_pos atEnd, State.cycle]
    rfl
  · exact absurd ⟨inside, turned⟩ taken
  · refine ⟨machine.trace.push (state.faultEntry (surroundings.poll world).1 cause), ?_⟩
    simp only [faulted, settle, if_neg inside, refused, State.cycle]
    rfl
  · let executing : Machine τ :=
      { machine with state := some (state.executed (surroundings.poll world).1) }
    have present' : executing.state = some (state.executed (surroundings.poll world).1) := rfl
    rw [executed, run_complete surroundings state.snapshot state.operation state.instruction
      (surroundings.poll world).2 present' shared]
    simp only [executing, running, settle, if_neg inside, granted, State.cycle]
    split
    · exact ⟨machine.trace, rfl⟩
    · exact ⟨machine.trace.push (state.entry (surroundings.poll world).1), rfl⟩

/-- One place leads to another by a cycle. -/
structure Makes (surroundings : Surroundings τ ε) (config : Config τ) (deed : Deed)
    (before after : Machine τ × ε) : Prop where
  sound : before.1.Sound config
  found : before.1.state = some deed.found
  state : after.1.state = some (deed.found.cycle config.strict deed.keys).state
  status : after.1.status = (deed.found.cycle config.strict deed.keys).status
  world : ∃ awake world, Resting surroundings before (awake, world) ∧
    (surroundings.poll world).1 = deed.keys ∧
    after.2 = (settle surroundings awake deed.found world).2

theorem makes_step {deed : Deed} (sound : here.1.Sound config) (shared : config.timerRate = none)
    (made : deed? surroundings here = some deed) :
    Makes surroundings config deed here (left ((step surroundings).run here)) := by
  obtain ⟨machine, before⟩ := here
  have spec := wake_spec surroundings machine before
  simp only [deed?] at made
  split at made
  · rename_i found _ awake world present woken
    rw [woken] at spec
    obtain ⟨resting, running, read⟩ := spec
    split at made
    · cases made
    · rename_i taken
      obtain rfl := Option.some.inj made
      have settings : awake.config = config := resting.1.config.trans sound.settings
      have shared' : awake.config.timerRate = none := by rw [settings, shared]
      obtain ⟨trace, same⟩ := left_step_ready shared' (resting.1.state.trans present) running read
        (sound.formed found present) taken
      obtain ⟨stopping, settled⟩ := settle_machine surroundings awake found world
      rw [settings] at settled
      rw [run_step_wake surroundings before present, EStateM.run_bind, woken]
      simp only [same]
      exact ⟨sound, present, congrArg Machine.state settled, congrArg Machine.status settled,
        awake, world, resting, rfl, rfl⟩
  · cases made

theorem left_deedless (sound : here.1.Sound config) (none : deed? surroundings here = none) :
    here.1.Rests (left ((step surroundings).run here)).1 ∧
      ((∀ world, (surroundings.poll world).1.length = 16) →
        surroundings.Passes here.2 (left ((step surroundings).run here)).2) := by
  obtain ⟨machine, before⟩ := here
  have spec := wake_spec surroundings machine before
  -- Without a state the step does nothing; with one, only the clock or a poll can keep it from a
  -- cycle.
  cases present : machine.state with
  | none =>
    rw [run_step_blank surroundings before present]
    exact ⟨.refl machine, fun _ => .same before⟩
  | some found =>
    rw [run_step_wake surroundings before present, EStateM.run_bind]
    cases woken : (wake surroundings).run (machine, before) with
    | error error rested =>
      rw [woken] at spec
      exact ⟨spec.1.1, fun _ => spec.1.2⟩
    | ok _ place =>
      rw [woken] at spec
      obtain ⟨awake, world⟩ := place
      obtain ⟨resting, running, read⟩ := spec
      have turned : found.TurnsDown (surroundings.poll world).1 := by
        apply Decidable.not_not.mp
        intro taken
        simp [deed?, present, woken, taken] at none
      have formed := sound.formed found present
      refine ⟨?_, fun sixteen => absurd (sixteen world) turned.2⟩
      rcases step_ready_cases surroundings world (resting.1.state.trans present) running read
        formed.shaped formed.counter.1 with
        ⟨atEnd, _⟩ | ⟨_, _, ended⟩ | ⟨_, _, sixteen, _⟩ | ⟨_, sixteen, _⟩
      · exact absurd atEnd turned.1
      · simp only [ended]
        exact resting.1
      · exact absurd sixteen turned.2
      · exact absurd sixteen turned.2

theorem deed?_eq_some {deed : Deed} (made : deed? surroundings here = some deed) :
    here.1.state = some deed.found ∧ (here.1.status = .loaded ∨ here.1.status = .running) ∧
      ¬ deed.found.TurnsDown deed.keys := by
  obtain ⟨machine, before⟩ := here
  have spec := wake_spec surroundings machine before
  simp only [deed?] at made
  split at made
  · rename_i found _ awake world present woken
    rw [woken] at spec
    obtain ⟨⟨rests, _⟩, running, _⟩ := spec
    split at made
    · cases made
    · rename_i taken
      obtain rfl := Option.some.inj made
      refine ⟨present, ?_, taken⟩
      rcases rests.status with same | ⟨loaded, _⟩
      · exact .inr (same.symm.trans running)
      · exact .inl loaded
  · cases made

/-- A relation that rests keep to, and cycles as well, is kept to by requests, with the cycles that
they come to. -/
theorem tracking_deeds {tracks : Machine τ × ε → List Deed → Machine τ × ε → Prop}
    (shared : config.timerRate = none)
    (sixteen : ∀ world, (surroundings.poll world).1.length = 16)
    (append : ∀ {first second third : Machine τ × ε} {made more : List Deed},
      tracks first made second → tracks second more third → tracks first (made ++ more) third)
    (rest : ∀ {before after : Machine τ × ε}, Resting surroundings before after →
      tracks before [] after)
    (cycle : ∀ {deed : Deed} {before after : Machine τ × ε},
      Makes surroundings config deed before after → tracks before [deed] after) :
    Tracking surroundings config (fun here => (deed? surroundings here).toList) tracks where
  append := append
  rest := rest
  step := by
    intro place sound
    cases made : deed? surroundings place with
    | none =>
      obtain ⟨rests, passes⟩ := left_deedless sound made
      exact rest ⟨rests, passes sixteen⟩
    | some deed => exact cycle (makes_step sound shared made)

end ChipEight.Machine
