import ChipEight.Proofs.Histories
import ChipEight.Proofs.Runs

namespace ChipEight

theorem Operation.halted_effect (operation : Operation) (instruction : Instruction)
    (state : State) : (operation.effect instruction state).halted = state.halted := by
  have skipped (condition : Bool) : (state.skipIf condition).halted = state.halted := by
    cases condition <;> rfl
  cases operation with
  | awaitKey =>
    simp only [effect, takeKeyEffect]
    split <;> rfl
  | skipEqualByte | skipUnequalByte | skipEqual | skipUnequal | skipHeld | skipReleased =>
    exact skipped _
  | _ => rfl

namespace State

theorem halted_ticks (count : Int) (state : State) :
    (state.ticks count).halted = state.halted := by
  unfold ticks
  induction count.toNat with
  | zero => rfl
  | succ count ih => exact ih

theorem Executes.halted {strict : Bool} {start current : State} {history : List State}
    (executes : Executes strict start history current) : current.halted = start.halted := by
  induction executes with
  | start => rfl
  | @next _ state keys count _ _ _ _ ih =>
    rw [halted_ticks, ← ih]
    exact Operation.halted_effect _ _ (state.fetch keys)

end State

namespace Machine

variable {τ ε : Type} {config : Config τ} {machine : Machine τ} {state : State}
  {surroundings : Surroundings τ ε} {last : Option (List UInt8)}

theorem Rests.ready {rested : Machine τ} (rests : machine.Rests rested)
    (loaded : rested.status = .loaded) : machine.status = .loaded := by
  rcases rests.status with same | ⟨_, running⟩
  · exact same.symm.trans loaded
  · rw [running] at loaded
    cases loaded

variable [TimeScale τ]

/-- The places that rests and steps lead to. -/
inductive Goes (surroundings : Surroundings τ ε) (start : Machine τ × ε) :
    Machine τ × ε → Prop where
  | start : Goes surroundings start start
  | rest {place rested : Machine τ × ε} (before : Goes surroundings start place)
      (resting : Resting surroundings place rested) : Goes surroundings start rested
  | step {place : Machine τ × ε} (before : Goes surroundings start place) :
      Goes surroundings start (left ((step surroundings).run place))

theorem Goes.trans {first second third : Machine τ × ε} (before : Goes surroundings first second)
    (after : Goes surroundings second third) : Goes surroundings first third := by
  induction after with
  | start => exact before
  | rest _ resting ih => exact ih.rest resting
  | step _ ih => exact ih.step

/-- A machine came to its end in a step that found it running, and was left alone after it. -/
def EndsIn (surroundings : Surroundings τ ε) (before after : Machine τ × ε) : Prop :=
  ∃ place, Goes surroundings before place ∧ place.1.status = .running ∧
    (left ((step surroundings).run place)).1.Ended ∧
    Resting surroundings (left ((step surroundings).run place)) after

/-- How stages follow each other while no program is loaded. -/
structure Onward (surroundings : Surroundings τ ε) (before after : Machine τ × ε) : Prop where
  goes : Goes surroundings before after
  /-- A machine that is still ready was ready all along. -/
  fresh : after.1.status = .loaded →
    before.1.status = .loaded ∧ Resting surroundings before after
  running : before.1.status = .running → after.1.status = .running ∨ after.1.Ended
  still : before.1.status ≠ .loaded → before.1.status ≠ .running →
    Resting surroundings before after
  ending : ¬ before.1.Ended → after.1.Ended → EndsIn surroundings before after

namespace Onward

theorem of_resting {before after : Machine τ × ε} (resting : Resting surroundings before after) :
    Onward surroundings before after where
  goes := .rest .start resting
  fresh ready := ⟨resting.1.ready ready, resting⟩
  running running := .inl (resting.1.running running)
  still _ _ := resting
  ending unended ended := by
    refine absurd ?_ unended
    rcases resting.1.status with same | ⟨_, running⟩
    · rwa [Ended, ← same]
    · exact absurd running ended.apart.2

theorem trans {first second third : Machine τ × ε} (before : Onward surroundings first second)
    (after : Onward surroundings second third) : Onward surroundings first third where
  goes := before.goes.trans after.goes
  fresh ready := by
    obtain ⟨middle, later⟩ := after.fresh ready
    obtain ⟨first, earlier⟩ := before.fresh middle
    exact ⟨first, Trans.trans earlier later⟩
  running started := by
    rcases before.running started with running | ended
    · exact after.running running
    · have resting := after.still ended.apart.1 ended.apart.2
      exact .inr (resting.1.ended ended).2
  still unready unstarted := by
    have earlier := before.still unready unstarted
    have same := earlier.1.status.resolve_right fun loaded => unready loaded.1
    have later := after.still (by rwa [same]) (by rwa [same])
    exact Trans.trans earlier later
  ending unended ended := by
    -- The end comes in the first part, and the second is a rest, or it comes in the second.
    by_cases middle : second.1.Ended
    · obtain ⟨place, goes, running, ended, resting⟩ := before.ending unended middle
      have later := after.still middle.apart.1 middle.apart.2
      exact ⟨place, goes, running, ended, Trans.trans resting later⟩
    · obtain ⟨place, goes, others⟩ := after.ending middle ended
      exact ⟨place, before.goes.trans goes, others⟩

/-- A cycle leaves a machine running or brings it to its end. -/
theorem of_cycle (surroundings : Surroundings τ ε) (world : ε)
    (present : machine.state = some state) (formed : state.WellFormed)
    (running : machine.status = .running) (awake : machine.clockPaused = false) :
    Onward surroundings (machine, world) (left ((step surroundings).run (machine, world))) := by
  have onward : (left ((step surroundings).run (machine, world))).1.status = .running ∨
      (left ((step surroundings).run (machine, world))).1.Ended := by
    rcases step_ready_cases surroundings world present running awake formed.shaped
      formed.counter.1 with ⟨_, ended⟩ | ⟨_, _, turned⟩ | ⟨cause, _, _, _, faulted⟩ |
        ⟨_, _, _, executed⟩
    · rw [ended]
      exact .inr (.inl rfl)
    · rw [turned]
      exact .inl running
    · rw [faulted]
      exact .inr (.inr rfl)
    · obtain ⟨_, status, _⟩ := ticks_complete surroundings state.snapshot state.operation
        state.instruction
        ({ machine with state := some (state.executed (surroundings.poll world).1) },
          (surroundings.poll world).2)
      rw [executed]
      exact .inl (status.trans running)
  have started : (left ((step surroundings).run (machine, world))).1.status ≠ .loaded := by
    rcases onward with running | ended
    · simp [running]
    · exact ended.apart.1
  exact
    { goes := .step .start
      fresh := fun ready => absurd ready started
      running := fun _ => onward
      still := fun _ stopped => absurd running stopped
      ending := fun _ ended => ⟨(machine, world), .start, running, ended, Std.Refl.refl _⟩ }

theorem of_step {place : Machine τ × ε} (sound : place.1.Sound config) :
    Onward surroundings place (left ((step surroundings).run place)) := by
  obtain ⟨machine, world⟩ := place
  cases present : machine.state with
  | none =>
    rw [run_step_blank surroundings world present]
    exact .of_resting (Std.Refl.refl _)
  | some state =>
    have formed := sound.formed state present
    have woken := wake_spec surroundings machine world
    rw [run_step_wake surroundings world present, EStateM.run_bind]
    cases outcome : (wake surroundings).run (machine, world) with
    | error error place =>
      rw [outcome] at woken
      exact .of_resting woken.1
    | ok _ place =>
      obtain ⟨awake, world'⟩ := place
      rw [outcome] at woken
      obtain ⟨resting, running, read⟩ := woken
      have cycled :=
        of_cycle surroundings world' (resting.1.state.trans present) formed running read
      exact (of_resting resting).trans cycled

theorem tracking (surroundings : Surroundings τ ε) (config : Config τ) :
    Tracking surroundings config (fun _ => ([] : List Unit)) fun before _ after =>
      Onward surroundings before after where
  append before after := before.trans after
  rest resting := .of_resting resting
  step sound := .of_step sound

end Onward

def Request.program? : Request → Option (List UInt8)
  | load program => some program
  | _ => none

theorem Request.program?_eq_none {request : Request} (plays : request.program? = none)
    (program : List UInt8) : request ≠ .load program := by
  rintro rfl
  cases plays

theorem Request.program?_eq_some {request : Request} {program : List UInt8}
    (loads : request.program? = some program) : request = .load program := by
  cases request with
  | load other => exact congrArg Request.load (Option.some.inj loads)
  | _ => cases loads

/-- The machines with accepted settings that requests lead to, in any surroundings, with the program
that was loaded last. -/
inductive Holding (config : Config τ) : Option (List UInt8) → Machine τ → Prop where
  | created {machine : Machine τ} (accepted : config.check = .ok ())
      (made : create config = .ok machine) : Holding config none machine
  | served {last : Option (List UInt8)} {machine : Machine τ} {ε : Type}
      (surroundings : Surroundings τ ε) (world : ε) (request : Request)
      (holding : Holding config last machine) :
      Holding config (request.program?.or last) (request.serve surroundings (machine, world)).1

/-- What is known of a machine from the program that was loaded last. -/
def Abides (config : Config τ) : Option (List UInt8) → Machine τ → Prop
  | none, machine => machine.status = .idle
  | some program, machine =>
    machine.Lives config.strict (State.ofProgram program) ∧
      (machine.status = .loaded →
        machine.state = some (State.ofProgram program) ∧ machine.trace.entries = [])

theorem Abides.onward {place : Machine τ × ε} (abides : Abides config last place.1)
    (sound : place.1.Sound config) {request : Request} (plays : request.program? = none) :
    Abides config last (request.serve surroundings place).1 := by
  have plays := Request.program?_eq_none plays
  have onward := (Onward.tracking surroundings config).request sound plays
  cases last with
  | none =>
    have idle : place.1.status = .idle := abides
    have resting := onward.still (by simp [idle]) (by simp [idle])
    exact (resting.1.status.resolve_right (by simp [idle])).trans idle
  | some program =>
    obtain ⟨lives, fresh⟩ := abides
    have rests (before after : Machine τ × ε) (resting : Resting surroundings before after) :
        Retains (Lives config.strict (State.ofProgram program)) before after :=
      fun lives => lives.rested resting.1
    have formed : (State.ofProgram program).WellFormed := .ofProgram program
    refine ⟨leads_request rests (lives_step formed) plays place lives, fun ready => ?_⟩
    obtain ⟨loaded, resting⟩ := onward.fresh ready
    rw [resting.1.state, resting.1.trace]
    exact fresh loaded

namespace Holding

theorem reachable (holding : Holding config last machine) : Reachable config machine := by
  induction holding with
  | created accepted made => exact .created accepted made
  | served surroundings world request _ ih => exact .served surroundings world request ih

theorem abides (holding : Holding config last machine) : Abides config last machine := by
  induction holding with
  | created accepted made =>
    rw [create_eq made]
    rfl
  | @served last machine ε surroundings world request holding ih =>
    have sound := holding.reachable.sound
    cases loads : request.program? with
    | none => exact Abides.onward ih sound loads
    | some program =>
      obtain rfl := Request.program?_eq_some loads
      obtain ⟨bytes, loaded⟩ := serve_load surroundings program (machine, world)
      have setting : machine.config.strict = config.strict := by rw [sound.settings]
      rw [loaded]
      exact ⟨⟨setting, [], _, .start, .ready (.inl rfl) rfl⟩, fun _ => ⟨rfl, rfl⟩⟩

end Holding

omit [TimeScale τ] in
theorem Stands.marked {current : State} (stands : Stands current machine)
    (unmarked : current.halted = false) :
    (∃ state, machine.state = some state ∧ state.halted = true) ↔ machine.Ended := by
  have holds {found : State} (present : machine.state = some found) :
      (∃ state, machine.state = some state ∧ state.halted = true) ↔ found.halted = true := by
    simp [present]
  cases stands with
  | ready status present =>
    rw [holds present, unmarked]
    rcases status with loaded | running
    · simp [Ended, loaded]
    · simp [Ended, running]
  | halted status _ present =>
    rw [holds present]
    simp [Ended, status]
  | faulted status _ _ _ present =>
    rw [holds present]
    simp [Ended, status, State.failed]

omit [TimeScale τ] in
theorem Abides.marked (abides : Abides config last machine) (sound : machine.Sound config) :
    (∃ state, machine.state = some state ∧ state.halted = true) ↔ machine.Ended := by
  cases last with
  | none =>
    have idle : machine.status = .idle := abides
    simp [sound.idle.mpr idle, Ended, idle]
  | some program =>
    obtain ⟨⟨_, history, current, executes, stands⟩, _⟩ := abides
    exact stands.marked executes.halted

omit [TimeScale τ] in
/-- A machine halts where no whole word is left in its memory. -/
theorem Abides.atEnd (abides : Abides config last machine) (halted : machine.status = .halted) :
    ∃ state, machine.state = some state ∧ 4096 ≤ state.pc + 1 := by
  cases last with
  | none => simp [Abides, halted] at abides
  | some program =>
    obtain ⟨⟨_, history, current, executes, stands⟩, _⟩ := abides
    have formed := executes.wellFormed (.ofProgram program)
    cases stands with
    | ready status => simp [halted] at status
    | faulted status => simp [halted] at status
    | halted _ atEnd present =>
      have size := formed.memory.1
      have beyond : (current.memory.size : Int) ≤ current.pc + 1 := atEnd
      refine ⟨_, present, ?_⟩
      simp only
      omega

omit [TimeScale τ] in
theorem Abides.fresh (abides : Abides config last machine) (ready : machine.status = .loaded) :
    ∃ program, last = some program ∧ machine.state = some (State.ofProgram program) ∧
      machine.trace.entries = [] := by
  cases last with
  | none => simp [Abides, ready] at abides
  | some program => exact ⟨program, rfl, abides.2 ready⟩

/-- The stages of a machine's life, after calls of any kind that ended in any way: what each stage
says about the state and the trace, what it refuses, and what moves a machine from it. -/
theorem stages_agree (holding : Holding config last machine) (surroundings : Surroundings τ ε)
    (world : ε) :
    (machine.state = none ↔ machine.status = .idle) ∧
    ((∃ state, machine.state = some state ∧ state.halted = true) ↔
      machine.status = .halted ∨ machine.status = .faulted) ∧
    (machine.status = .loaded → ∃ program, last = some program ∧
      machine.state = some (State.ofProgram program) ∧ machine.trace.entries = []) ∧
    (machine.status = .halted → ∃ state, machine.state = some state ∧ 4096 ≤ state.pc + 1) ∧
    (machine.status = .idle →
      (start surroundings).run (machine, world) =
        .error (.notStartable .idle) (machine, world) ∧
      (step surroundings).run (machine, world) = .error .notLoaded (machine, world) ∧
      ∀ (fuel : Nat) (limit : Option Int),
        (run surroundings fuel limit).run (machine, world) = .error .notLoaded (machine, world)) ∧
    (machine.status = .halted ∨ machine.status = .faulted →
      (start surroundings).run (machine, world) =
        .error (.notStartable machine.status) (machine, world) ∧
      (step surroundings).run (machine, world) =
        .error (.notRunning machine.status) (machine, world) ∧
      (∀ (fuel : Nat) (limit : Option Int), ∃ reached,
        (run surroundings fuel limit).run (machine, world) =
          match (surroundings.clock world).1 with
          | .ok _ => .ok (some machine.trace.entries) reached
          | .error error => .error error reached) ∧
      ∀ request : Request, (∀ program, request ≠ .load program) →
        let served := (request.serve surroundings (machine, world)).1
        served.state = machine.state ∧ served.status = machine.status ∧
          served.trace = machine.trace) ∧
    (machine.status = .running →
      ∀ request : Request, (∀ program, request ≠ .load program) →
        let served := request.serve surroundings (machine, world)
        served.1.status = .running ∨
          (served.1.status = .halted ∨ served.1.status = .faulted) ∧
            EndsIn surroundings (machine, world) served) := by
  have sound := holding.reachable.sound
  have abides := holding.abides
  have onward (request : Request) (plays : ∀ program, request ≠ .load program) :
      Onward surroundings (machine, world) (request.serve surroundings (machine, world)) :=
    (Onward.tracking surroundings config).request sound plays
  refine ⟨sound.idle, abides.marked sound, abides.fresh, abides.atEnd, ?_, ?_, ?_⟩
  · intro idle
    have blank := sound.idle.mpr idle
    refine ⟨by simp [run_start, idle], run_step_blank surroundings world blank, ?_⟩
    intro fuel limit
    exact run_run_blank surroundings fuel limit world blank
  · intro ended
    have apart := Ended.apart ended
    have busy : machine.status ≠ .idle := by
      rcases ended with halted | faulted
      · simp [halted]
      · simp [faulted]
    obtain ⟨state, present⟩ := sound.present busy
    refine ⟨by rw [run_start, if_neg apart.2, if_neg apart.1], ?_, ?_, ?_⟩
    · rw [run_step_wake surroundings world present, EStateM.run_bind, run_wake, if_neg apart.1,
        if_neg apart.2]
    · intro fuel limit
      rw [run_over surroundings world present ended]
      cases (surroundings.clock world).1 <;> exact ⟨_, rfl⟩
    · intro request plays
      have resting := (onward request plays).still apart.1 apart.2
      exact ⟨resting.1.state, (resting.1.ended ended).1, resting.1.trace⟩
  · intro running request plays
    have onward := onward request plays
    have unended : ¬ machine.Ended := fun ended => ended.apart.2 running
    rcases onward.running running with goesOn | ended
    · exact .inl goesOn
    · exact .inr ⟨ended, onward.ending unended ended⟩

/-- A jump to the last byte of memory, and the halt that follows. The machine is marked, refuses to
start, and runs again only to give its two entries. -/
theorem stages_agree_halted :
    let surroundings : Surroundings Quantity Nat := .scripted fun _ => Keypad.released.held
    let reached := serve surroundings [.load [0x1F, 0xFF], .run 3 none] (Machine.idle .standard, 0)
    (∃ state, reached.1.state = some state ∧ state.halted = true) ∧
    (start surroundings).run reached = .error (.notStartable .halted) reached ∧
    ∃ entries after, (run surroundings 3 none).run reached = .ok (some entries) after ∧
      entries.length = 2 := by
  intro surroundings reached
  have created : Holding .standard none (Machine.idle (.standard : Config Quantity)) :=
    .created rfl rfl
  have holding : Holding .standard (some [0x1F, 0xFF]) reached.1 :=
    .served surroundings _ (.run 3 none) (.served surroundings 0 (.load [0x1F, 0xFF]) created)
  have halted : reached.1.status = .halted := by decide +kernel
  have entered : reached.1.trace.entries.length = 2 := by decide +kernel
  obtain ⟨_, marked, _, _, _, ended, _⟩ := stages_agree holding surroundings reached.2
  obtain ⟨refused, _, answers, _⟩ := ended (.inl halted)
  obtain ⟨after, answered⟩ := answers 3 none
  rw [halted] at refused
  exact ⟨marked.mpr (.inl halted), refused, _, after, answered, entered⟩

end Machine

end ChipEight
