import ChipEight.Proofs.Reachable

namespace ChipEight

namespace State

/-- The faults that a word can end with in a state: a return without a call, a call too deep, a
sprite, three digits or some registers that run past the memory, and, where that is asked for, a
word without an operation. -/
inductive Refused (strict : Bool) (state : State) (word : Nat) : Fault → Prop where
  | emptyStack (spelled : word = 0x00EE) (empty : state.sp = 0) :
    Refused strict state word .stackUnderflow
  | fullStack (spelled : word / 0x1000 = 0x2) (full : state.sp = 16) :
    Refused strict state word (.stackOverflow 16)
  | sprite {rows : Int} (spelled : word / 0x1000 = 0xD)
    (visible : rows = min ((word % 0x10 : Nat) : Int)
      (32 - state.register (word / 0x10 % 0x10) % 32))
    (drawn : 0 < rows) (past : 4096 < state.index + rows) :
    Refused strict state word (.outOfBounds state.index rows 4096)
  | decimal (spelled : word / 0x1000 = 0xF ∧ word % 0x100 = 0x33) (past : 4096 < state.index + 3) :
    Refused strict state word (.outOfBounds state.index 3 4096)
  | block {count : Int}
    (spelled : word / 0x1000 = 0xF ∧ (word % 0x100 = 0x55 ∨ word % 0x100 = 0x65))
    (counted : count = (word / 0x100 % 0x10 : Nat) + 1) (past : 4096 < state.index + count) :
    Refused strict state word (.outOfBounds state.index count 4096)
  | unmatched (asked : strict = true)
    (unspelled : ∀ operation, ¬ Instruction.Spells word operation) :
    Refused strict state word (.unknownWord word)

variable {strict : Bool} {state : State} {cause : Fault}

theorem WellFormed.refusal_eq_some (formed : state.WellFormed) {length : Int}
    (counted : 0 ≤ length) :
    state.memory.refusal state.index length = some cause ↔
      4096 < state.index + length ∧ cause = .outOfBounds state.index length 4096 := by
  have index := fits_iff.mp formed.index
  rw [formed.memory.refusal_eq index.1 counted, Option.ite_none_right_eq_some, Option.some.injEq,
    eq_comm]
  rfl

theorem visibleRows_ofWord (word : Nat) (state : State) :
    Operation.visibleRows (Instruction.ofWord word) state =
      min ((word % 0x10 : Nat) : Int) (32 - state.register (word / 0x10 % 0x10) % 32) := by
  simp only [Operation.visibleRows, Instruction.n_ofWord, Instruction.y_ofWord, screenHeight]
  rfl

theorem WellFormed.refused_of_refusal (formed : state.WellFormed) {word : Nat}
    {operation : Operation}
    (spelled : operation ≠ .unknown → Instruction.Spells word operation)
    (refused : operation.refusal (Instruction.ofWord word) state = some cause) :
    state.Refused strict word cause := by
  cases operation with
  | ret =>
    simp only [Operation.refusal, Option.ite_none_right_eq_some, Option.some.injEq] at refused
    obtain ⟨empty, rfl⟩ := refused
    exact .emptyStack (spelled (by decide)) empty
  | call =>
    simp only [Operation.refusal, Option.ite_none_right_eq_some, Option.some.injEq] at refused
    obtain ⟨full, rfl⟩ := refused
    exact .fullStack (spelled (by decide)) full
  | draw =>
    simp only [Operation.refusal, Option.ite_none_left_eq_some] at refused
    obtain ⟨drawn, refused⟩ := refused
    have visible := visibleRows_ofWord word state
    have positive : 0 < Operation.visibleRows (Instruction.ofWord word) state := by omega
    obtain ⟨past, rfl⟩ := (formed.refusal_eq_some (by omega)).mp refused
    exact .sprite (spelled (by decide)) visible positive past
  | storeDecimal =>
    obtain ⟨past, rfl⟩ := (formed.refusal_eq_some (by decide)).mp refused
    exact .decimal (spelled (by decide)) past
  | storeRegisters =>
    obtain ⟨digit, last⟩ := spelled (by decide)
    obtain ⟨past, rfl⟩ := (formed.refusal_eq_some (by omega)).mp refused
    exact .block ⟨digit, .inl last⟩ (by rw [Instruction.x_ofWord]) past
  | loadRegisters =>
    obtain ⟨digit, last⟩ := spelled (by decide)
    obtain ⟨past, rfl⟩ := (formed.refusal_eq_some (by omega)).mp refused
    exact .block ⟨digit, .inr last⟩ (by rw [Instruction.x_ofWord]) past
  | _ => simp [Operation.refusal] at refused

theorem operation_of_spells {operation : Operation}
    (spelled : Instruction.Spells state.word operation) : state.operation = operation := by
  have found : state.instruction.operation? = some operation :=
    Instruction.operation?_of_spells (state.memory.wordAt_lt _) spelled
  rw [State.operation, Instruction.operation, found]
  rfl

theorem fault?_of_spells {operation : Operation}
    (spelled : Instruction.Spells state.word operation) :
    state.fault? strict = operation.refusal state.instruction state := by
  have found : state.instruction.operation? = some operation :=
    Instruction.operation?_of_spells (state.memory.wordAt_lt _) spelled
  rw [fault?, if_neg (by simp [found]), operation_of_spells spelled]

theorem pushed_of_granted (granted : state.fault? strict = none)
    (returns : state.word = 0x00EE) : state.sp ≠ 0 := by
  have spelled : Instruction.Spells state.word .ret := returns
  intro empty
  rw [fault?_of_spells spelled, Operation.refusal, if_pos empty] at granted
  cases granted

/-- The instruction at the counter faults exactly as its word says. -/
theorem WellFormed.fault?_eq_some (formed : state.WellFormed) :
    state.fault? strict = some cause ↔ state.Refused strict state.word cause := by
  have short : state.word < 0x10000 := state.memory.wordAt_lt _
  have word : state.instruction.word = state.word := Instruction.word_ofWord short
  constructor
  · intro faulted
    rw [fault?] at faulted
    split at faulted
    · obtain ⟨asked, missing⟩ := ‹_ ∧ _›
      rw [← Option.some.inj faulted, word]
      exact .unmatched asked ((Instruction.operation?_eq_none short).mp missing)
    · exact formed.refused_of_refusal
        (fun known => (Instruction.operation_eq short known).mp rfl) faulted
  · intro refused
    cases refused with
    | unmatched asked unspelled =>
      rw [fault?, if_pos ⟨asked, (Instruction.operation?_eq_none short).mpr unspelled⟩, word]
    | emptyStack spelled empty =>
      have returned : Instruction.Spells state.word .ret := spelled
      simp [fault?_of_spells returned, Operation.refusal, empty]
    | fullStack spelled full =>
      have called : Instruction.Spells state.word .call := spelled
      simp [fault?_of_spells called, Operation.refusal, full]
    | @sprite rows spelled visible drawn past =>
      have draw : Instruction.Spells state.word .draw := spelled
      have shown : Operation.visibleRows state.instruction state = rows :=
        (visibleRows_ofWord state.word state).trans visible.symm
      rw [fault?_of_spells draw, Operation.refusal, shown, if_neg (by omega)]
      exact (formed.refusal_eq_some (Int.le_of_lt drawn)).mpr ⟨past, rfl⟩
    | decimal spelled past =>
      have stored : Instruction.Spells state.word .storeDecimal := spelled
      rw [fault?_of_spells stored]
      exact (formed.refusal_eq_some (by decide)).mpr ⟨past, rfl⟩
    | block spelled counted past =>
      have count : ((state.instruction.x : Int) + 1) =
          ((state.word / 0x100 % 0x10 : Nat) : Int) + 1 := by
        rw [State.instruction, Instruction.x_ofWord]
      obtain ⟨digit, last | last⟩ := spelled
      · have stored : Instruction.Spells state.word .storeRegisters := ⟨digit, last⟩
        rw [fault?_of_spells stored, counted, ← count]
        rw [counted, ← count] at past
        exact (formed.refusal_eq_some (by omega)).mpr ⟨past, rfl⟩
      · have loaded : Instruction.Spells state.word .loadRegisters := ⟨digit, last⟩
        rw [fault?_of_spells loaded, counted, ← count]
        rw [counted, ← count] at past
        exact (formed.refusal_eq_some (by omega)).mpr ⟨past, rfl⟩

theorem WellFormed.atEnd_iff (formed : state.WellFormed) : state.AtEnd ↔ 0xFFF ≤ state.pc := by
  rw [AtEnd, formed.memory.1]
  omega

/-- An instruction in bounds ends in an error exactly where its word is refused. -/
theorem WellFormed.error?_eq_some (formed : state.WellFormed) {error : Error} :
    state.error? strict = some error ↔
      state.pc < 0xFFF ∧ ∃ cause, error = .fault (.execution state.word state.pc cause) ∧
        state.Refused strict state.word cause := by
  by_cases atEnd : state.AtEnd
  · have past := formed.atEnd_iff.mp atEnd
    simp only [error?, if_pos atEnd, reduceCtorEq, false_iff, not_and]
    intro before
    omega
  · have before := mt formed.atEnd_iff.mpr atEnd
    simp only [error?, if_neg atEnd, Option.map_eq_some_iff, formed.fault?_eq_some]
    constructor
    · rintro ⟨cause, refused, same⟩
      exact ⟨by omega, cause, same.symm, refused⟩
    · rintro ⟨_, cause, same, refused⟩
      exact ⟨cause, refused, same.symm⟩

end State

namespace Surroundings

theorem Reliable.wake {τ ε : Type} [TimeScale τ] {surroundings : Surroundings τ ε}
    (reliable : surroundings.Reliable) {machine : Machine τ}
    (ready : machine.status = .loaded ∨ machine.status = .running) (world : ε) :
    ∃ awake world', (Machine.wake surroundings).run (machine, world) = .ok () (awake, world') ∧
      machine.Rests awake := by
  have woken := machine.wake_spec surroundings world
  cases outcome : (Machine.wake surroundings).run (machine, world) with
  | ok _ place =>
    rw [outcome] at woken
    exact ⟨place.1, place.2, rfl, woken.1.1⟩
  | error error place =>
    rw [outcome] at woken
    obtain ⟨_, failed | ⟨notLoaded, notRunning⟩⟩ := woken
    · obtain ⟨now, answered⟩ := reliable.clock world
      rw [answered] at failed
      simp at failed
    · exact absurd ready (by simp [notLoaded, notRunning])

end Surroundings

namespace Machine

variable {τ ε : Type} [TimeScale τ] {config : Config τ} {machine : Machine τ}
  {surroundings : Surroundings τ ε}

theorem Sound.run_step {state : State} (sound : machine.Sound config)
    (reliable : surroundings.Reliable) (world : ε)
    (ready : machine.status = .loaded ∨ machine.status = .running)
    (present : machine.state = some state) (shared : config.timerRate = none) :
    ∃ keys place, (step surroundings).run (machine, world) =
      conclude (state.error? config.strict) (state.cycle config.strict keys).entry place := by
  obtain ⟨awake, world', woken, _⟩ := reliable.wake ready world
  refine ⟨(surroundings.poll world').1, settle surroundings awake state world', ?_⟩
  rw [sound.step_quiet reliable.toQuiet shared world present, woken]

/-- A step finds the end of memory exactly where no whole word is left, and before that ends in an
error exactly where the word is refused, with the fault of that word. -/
theorem step_ends (reachable : Reachable config machine) (shared : config.timerRate = none)
    (reliable : surroundings.Reliable) (world : ε)
    (ready : machine.status = .loaded ∨ machine.status = .running) :
    ∃ state, machine.state = some state ∧
      ((∃ entry place, (step surroundings).run (machine, world) = .ok entry place ∧
          entry.event = .endOfMemory) ↔ 0xFFF ≤ state.pc) ∧
      (∀ error, (∃ place, (step surroundings).run (machine, world) = .error error place) ↔
        state.pc < 0xFFF ∧ ∃ (word : Nat) (cause : Fault),
          state.memory.readWord state.pc = .ok word ∧
          error = .fault (.execution word state.pc cause) ∧
          state.Refused config.strict word cause) ∧
      ((∃ entry place, (step surroundings).run (machine, world) = .ok entry place ∧
          entry.event ≠ .endOfMemory) ↔
        state.pc < 0xFFF ∧ ∃ word : Nat, state.memory.readWord state.pc = .ok word ∧
          ∀ cause, ¬ state.Refused config.strict word cause) := by
  have sound := reachable.sound
  obtain ⟨state, present⟩ := sound.present (by rcases ready with same | same <;> simp [same])
  have formed := sound.formed state present
  have bounds : state.AtEnd ↔ 0xFFF ≤ state.pc := formed.atEnd_iff
  have read (before : state.pc < 0xFFF) : state.memory.readWord state.pc = .ok state.word :=
    Memory.readWord_eq (formed.readable fun atEnd => by have := bounds.mp atEnd; omega)
  obtain ⟨keys, place, stepped⟩ := sound.run_step reliable world ready present shared
  have event := state.event_cycle config.strict keys
  have finished (property : Event → Prop) :
      (∃ entry place, (step surroundings).run (machine, world) = .ok entry place ∧
          property entry.event) ↔
        state.error? config.strict = none ∧
          property (state.cycle config.strict keys).entry.event := by
    cases failed : state.error? config.strict <;> simp [stepped, conclude, failed]
  have failed (error : Error) :
      (∃ place, (step surroundings).run (machine, world) = .error error place) ↔
        state.error? config.strict = some error := by
    cases failed : state.error? config.strict <;> simp [stepped, conclude, failed]
  refine ⟨state, present, ?_, ?_, ?_⟩
  · rw [finished (· = .endOfMemory), event, ← bounds]
    by_cases atEnd : state.AtEnd <;> simp [atEnd, State.error?]
  · intro error
    rw [failed error, formed.error?_eq_some]
    constructor
    · rintro ⟨before, cause, same, refused⟩
      exact ⟨before, state.word, cause, read before, same, refused⟩
    · rintro ⟨before, word, cause, found, same, refused⟩
      obtain rfl := Except.ok.inj ((read before).symm.trans found)
      exact ⟨before, cause, same, refused⟩
  · rw [finished (· ≠ .endOfMemory), event]
    have granted : state.error? config.strict = none ↔
        state.AtEnd ∨ ∀ cause, ¬ state.Refused config.strict state.word cause := by
      by_cases atEnd : state.AtEnd <;>
        simp [State.error?, atEnd, Option.eq_none_iff_forall_ne_some, formed.fault?_eq_some]
    rw [granted]
    constructor
    · rintro ⟨ended | unrefused, executed⟩
      · simp [ended] at executed
      · have before : state.pc < 0xFFF := by
          by_cases atEnd : state.AtEnd
          · simp [atEnd] at executed
          · have := mt bounds.mpr atEnd
            omega
        exact ⟨before, state.word, read before, unrefused⟩
    · rintro ⟨before, word, found, unrefused⟩
      obtain rfl := Except.ok.inj ((read before).symm.trans found)
      have inside : ¬ state.AtEnd := fun atEnd => by have := bounds.mp atEnd; omega
      exact ⟨.inr unrefused, by simp [inside]⟩

/-- A program that begins with a return faults in its first step. -/
theorem step_ends_return :
    let surroundings : Surroundings Quantity Nat := .scripted fun _ => Keypad.released.held
    let loaded := ((Request.load [0x00, 0xEE]).serve surroundings (Machine.idle .standard, 0)).1
    ∃ place, (step surroundings).run (loaded, 0) =
      .error (.fault (.execution 0x00EE 0x200 .stackUnderflow)) place := by
  intro surroundings loaded
  have reachable : Reachable .standard loaded :=
    .served surroundings 0 (.load [0x00, 0xEE]) (.created rfl rfl)
  have reliable : surroundings.Reliable := Surroundings.reliable_scripted fun _ => rfl
  obtain ⟨state, present, _, failed, _⟩ := step_ends reachable rfl reliable 0 (.inl rfl)
  obtain rfl : State.ofProgram [0x00, 0xEE] = state := Option.some.inj present
  have read : (State.ofProgram [0x00, 0xEE]).memory.readWord 0x200 = .ok 0x00EE := by
    have word : (State.ofProgram [0x00, 0xEE]).memory.wordAt 0x200 = 0x00EE := by decide +kernel
    exact (Memory.readWord_eq (by decide)).trans (congrArg Except.ok word)
  exact (failed _).mpr ⟨by decide, 0x00EE, _, read, rfl, .emptyStack rfl rfl⟩

end Machine

end ChipEight
