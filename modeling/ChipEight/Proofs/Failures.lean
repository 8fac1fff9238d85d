import ChipEight.Proofs.Reachable

namespace ChipEight

theorem State.shaped_of_valid {state : State} (valid : state.valid = true) : state.Shaped := by
  simp only [State.valid, Bool.and_eq_true, beq_iff_eq, decide_eq_true_eq] at valid
  obtain ⟨⟨⟨⟨⟨⟨⟨⟨⟨⟨registers, _⟩, _⟩, _⟩, stack⟩, low⟩, high⟩, _⟩, _⟩, keys⟩, _⟩ := valid
  exact ⟨registers, stack, keys, low, high⟩

theorem State.counted_of_valid {state : State} (valid : state.valid = true) : 0 ≤ state.pc := by
  simp only [State.valid, Bool.and_eq_true] at valid
  exact (State.fits_iff.mp valid.1.1.1.1.1.1.1.2).1

namespace Operation

theorem key_of_ofKey? {key : String} {operation : Operation} (found : ofKey? key = some operation) :
    operation.key = key := by
  have named := List.find?_some found
  exact eq_of_beq named

theorem ofKey?_eq_none {key : String} :
    ofKey? key = none ↔ ∀ operation : Operation, operation.key ≠ key := by
  simp only [ofKey?, List.find?_eq_none, beq_iff_eq]
  exact ⟨fun missing operation => missing operation operation.mem_all,
    fun missing operation _ => missing operation⟩

theorem spoiled_eq (operation : Operation) (state : State) :
    operation.spoiled state =
      if operation = draw then { state with registers := state.registers.set 0xF 0 }
      else state := by
  cases operation <;> rfl

end Operation

namespace OperationTable

theorem lookup_map (operations : List Operation) (effect : Operation → Instruction → Action Unit)
    (key : String) :
    (operations.map fun operation => (operation.key, effect operation)).lookup key =
      (operations.find? fun operation => operation.key == key).map effect := by
  induction operations with
  | nil => rfl
  | cons operation rest ih =>
    rw [List.map_cons, List.lookup_cons, List.find?_cons, ih]
    by_cases same : operation.key = key
    · rw [same, beq_self_eq_true]
      rfl
    · rw [beq_false_of_ne same, beq_false_of_ne (Ne.symm same)]

theorem run_execute (key : String) (instruction : Instruction) (state : State) :
    (standard.execute key instruction).run state =
      match Operation.ofKey? key with
      | none => .error (.unknownOperation key) state
      | some operation => (operation.execute instruction).run state := by
  have found : standard.entries.lookup key =
      (Operation.ofKey? key).map fun operation instruction => operation.perform instruction :=
    lookup_map Operation.all (fun operation instruction => operation.perform instruction) key
  simp only [execute, found]
  cases Operation.ofKey? key <;> rfl

theorem run_execute_error {state after : State} (shaped : state.Shaped) {key : String}
    {instruction : Instruction} {error : Error}
    (failed : (standard.execute key instruction).run state = .error error after) :
    (error = .unknownOperation key ∧ (∀ operation : Operation, operation.key ≠ key) ∨
      ∃ (operation : Operation) (cause : Fault), operation.key = key ∧ error = .fault cause) ∧
    after =
      if key = Operation.draw.key then { state with registers := state.registers.set 0xF 0 }
      else state := by
  rw [run_execute] at failed
  cases found : Operation.ofKey? key with
  | none =>
    have missing := Operation.ofKey?_eq_none.mp found
    rw [found] at failed
    cases failed
    rw [if_neg (missing .draw).symm]
    exact ⟨.inl ⟨rfl, missing⟩, rfl⟩
  | some operation =>
    have named := Operation.key_of_ofKey? found
    simp only [found, Operation.execute_eq shaped] at failed
    cases refused : operation.refusal instruction state with
    | none => simp [refused] at failed
    | some cause =>
      rw [refused] at failed
      cases failed
      refine ⟨.inr ⟨operation, cause, named, rfl⟩, ?_⟩
      have drawing : key = Operation.draw.key ↔ operation = .draw := by
        rw [← named]
        cases operation <;> decide
      simp only [Operation.spoiled_eq, drawing]

end OperationTable

namespace Machine

variable {τ ε : Type} {surroundings : Surroundings τ ε}

/-- Not the fault of a program. -/
def Outside (error : Error) : Prop :=
  ∀ cause, error ≠ .fault cause

theorem raises_look : Raises Outside (onState get : Call τ ε State) :=
  raises_onState (fun _ => Error.noConfusion) fun state error after => by simp

theorem raises_present (operation : Operation) :
    Raises Outside (present surroundings operation) := by
  refine raises_read.bind fun machine => ?_
  refine .ite (fun _ => ?_) fun _ => .pure ()
  refine raises_look.bind fun state => ?_
  refine (raises_ask _).bind fun reception => ?_
  have interrupted : Raises Outside
      (if reception.interrupt then throw .interrupted else pure () : Call τ ε Unit) :=
    .ite (fun _ => .throw fun _ => Error.noConfusion) fun _ => .pure ()
  exact .ite (fun _ => (raises_update _).bind fun _ => interrupted) fun _ => interrupted

variable [TimeScale τ]

theorem raises_resumeClock
    (apart : ∀ world error, (surroundings.clock world).1 = .error error → Outside error) :
    Raises Outside (resumeClock surroundings) :=
  (raises_demand apart).bind fun _ => raises_update _

theorem raises_start
    (apart : ∀ world error, (surroundings.clock world).1 = .error error → Outside error) :
    Raises Outside (start surroundings) := by
  refine raises_read.bind fun machine => ?_
  have started : Raises Outside
      (do
        update fun machine => { machine with status := .running, stopping := false }
        resumeClock surroundings : Call τ ε Unit) :=
    (raises_update _).bind fun _ => raises_resumeClock apart
  refine .ite (fun _ => ?_) fun _ => .pure ()
  refine .ite (fun _ => Raises.bind (.throw ?_) fun _ => started) fun _ => started
  exact fun _ => Error.noConfusion

theorem raises_wake
    (apart : ∀ world error, (surroundings.clock world).1 = .error error → Outside error) :
    Raises Outside (wake surroundings) := by
  refine raises_read.bind fun machine => ?_
  have rest : Raises Outside
      (do
        let machine ← read
        if machine.status ≠ .running then throw (.notRunning machine.status)
        if machine.clockPaused then resumeClock surroundings : Call τ ε Unit) := by
    refine raises_read.bind fun machine => ?_
    have paused : Raises Outside
        (if machine.clockPaused then resumeClock surroundings else pure () : Call τ ε Unit) :=
      .ite (fun _ => raises_resumeClock apart) fun _ => .pure ()
    refine .ite (fun _ => Raises.bind (.throw ?_) fun _ => paused) fun _ => paused
    exact fun _ => Error.noConfusion
  exact .ite (fun _ => (raises_start apart).bind fun _ => rest) fun _ => rest

theorem raises_updateTimers
    (apart : ∀ world error, (surroundings.clock world).1 = .error error → Outside error) :
    Raises Outside (updateTimers surroundings) := by
  have modified (change : State → State) :
      Raises Outside (onState (modify change) : Call τ ε Unit) :=
    raises_onState (fun _ => Error.noConfusion) fun state error after => by simp
  have unfit (α : Type) (result : Except NumberError α) :
      Raises Outside (number result : Call τ ε α) :=
    raises_number (fun _ _ => Error.noConfusion) result
  refine raises_read.bind fun machine => ?_
  cases machine.config.timerRate with
  | none => exact modified _
  | some rate =>
    refine (raises_demand apart).bind fun now => ?_
    refine raises_read.bind fun machine => ?_
    refine (unfit _ _).bind fun passed => ?_
    refine (unfit _ _).bind fun due => ?_
    refine (unfit _ _).bind fun debt => ?_
    refine (raises_update _).bind fun _ => ?_
    refine (unfit _ _).bind fun ticks => ?_
    refine (unfit _ _).bind fun rest => ?_
    exact (raises_update _).bind fun _ => modified _

theorem raises_complete
    (apart : ∀ world error, (surroundings.clock world).1 = .error error → Outside error)
    (before : Snapshot) (operation : Operation) (instruction : Instruction) :
    Raises Outside (complete surroundings before operation instruction) := by
  have rest : Raises Outside
      (do
        updateTimers surroundings
        Machine.present surroundings operation
        let state ← onState get
        let entry : TraceEntry :=
          { cycle := state.cycles - 1
            pc := before.pc
            event := .executed operation instruction
            before
            after := state.snapshot
            fault := none }
        update fun machine => { machine with trace := machine.trace.push entry }
        return entry : Call τ ε TraceEntry) := by
    refine (raises_updateTimers apart).bind fun _ => ?_
    refine (raises_present operation).bind fun _ => ?_
    refine raises_look.bind fun state => ?_
    exact (raises_update _).bind fun _ => .pure _
  exact .ite (fun _ => raises_look.bind fun state => (raises_tell _ _).bind fun _ => rest)
    fun _ => rest

variable {machine : Machine τ} {state : State}

/-- The one way in which a step ends in a fault, in settings of any kind: the instruction at the
counter is refused. What the timers and the screen do comes after that. -/
theorem step_fault (present : machine.state = some state) (shaped : state.Shaped)
    (counted : 0 ≤ state.pc)
    (apart : ∀ world error, (surroundings.clock world).1 = .error error → Outside error)
    {world : ε} {fault : Fault} {reached : Machine τ × ε}
    (raised : (step surroundings).run (machine, world) = .error (.fault fault) reached) :
    ∃ awake world' cause,
      (wake surroundings).run (machine, world) = .ok () (awake, world') ∧
      machine.Rests awake ∧ ¬ state.AtEnd ∧
      state.fault? machine.config.strict = some cause ∧
      fault = .execution state.word state.pc cause ∧
      reached =
        ({ awake with
            state := some (state.failed (surroundings.poll world').1)
            status := .faulted
            trace := machine.trace.push (state.faultEntry (surroundings.poll world').1 cause) },
          surroundings.note (.faulted state.pc state.word cause) (surroundings.poll world').2) := by
  have woken := wake_spec surroundings machine world
  rw [run_step_wake surroundings world present, EStateM.run_bind] at raised
  cases outcome : (wake surroundings).run (machine, world) with
  | error error place =>
    rw [outcome] at raised
    cases raised
    exact absurd rfl (raises_wake apart _ _ _ outcome fault)
  | ok _ place =>
    obtain ⟨awake, world'⟩ := place
    rw [outcome] at raised woken
    obtain ⟨⟨rests, _⟩, running, read⟩ := woken
    have present' : awake.state = some state := rests.state.trans present
    have settings : awake.config = machine.config := rests.config
    have kept : awake.trace = machine.trace := rests.trace
    replace raised : (step surroundings).run (awake, world') = .error (.fault fault) reached :=
      raised
    rcases step_ready_cases surroundings world' present' running read shaped counted with
      ⟨_, ended⟩ | ⟨_, _, turned⟩ | ⟨cause, inside, _, refused, faulted⟩ | ⟨_, _, _, executed⟩
    · rw [ended] at raised
      cases raised
    · rw [turned] at raised
      cases raised
    · rw [faulted] at raised
      rw [settings] at refused
      rw [kept] at raised
      cases raised
      exact ⟨awake, world', cause, rfl, rests, inside, refused, rfl, rfl⟩
    · rw [executed] at raised
      exact absurd rfl (raises_complete apart _ _ _ _ _ _ raised fault)

end Machine

theorem State.failed_eq (keys : List Bool) (state : State) :
    state.failed keys =
      { state with
        registers :=
          if state.word / 0x1000 = 0xD then state.registers.set 0xF 0 else state.registers
        pc := (state.pc + 2) % 0x10000
        keys
        halted := true } := by
  have drawing : state.operation = .draw ↔ state.word / 0x1000 = 0xD :=
    Instruction.operation_eq (state.memory.wordAt_lt _) (by decide)
  simp only [failed, Operation.spoiled_eq, drawing]
  split <;> rfl

namespace Machine

end Machine

end ChipEight
