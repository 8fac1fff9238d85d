import ChipEight.Proofs.Course

namespace ChipEight

namespace Operation

theorem cycles_effect (instruction : Instruction) (state : State) (operation : Operation) :
    (operation.effect instruction state).cycles = state.cycles := by
  have skipped (condition : Bool) : (state.skipIf condition).cycles = state.cycles := by
    cases condition <;> rfl
  cases operation with
  | awaitKey =>
    simp only [effect, takeKeyEffect]
    split <;> rfl
  | skipEqualByte | skipUnequalByte | skipEqual | skipUnequal | skipHeld | skipReleased =>
    exact skipped _
  | _ => rfl

end Operation

/-- An entry after which a machine is not running. -/
def TraceEntry.Closes (entry : TraceEntry) : Prop :=
  entry.event = .endOfMemory ∨ entry.fault ≠ none

/-- An entry that takes up where another left off. At the end of memory both snapshots show the
halted machine. -/
structure TraceEntry.Follows (entry next : TraceEntry) : Prop where
  opened : ¬ entry.Closes
  pc : next.pc = entry.after.pc
  before : next.before = entry.after ∨
    next.event = .endOfMemory ∧ next.before = { entry.after with halted := true }

/-- The entry has the word that its state held at the counter, under the key and the spelling that
permissive decoding gives it, in strict settings and for faults as well. -/
def Record.Faithful (record : Record) : Prop :=
  record.entry.pc = record.found.pc ∧
    (record.entry.event = .endOfMemory ∨
      ∃ (word : Nat) (operation : Operation) (instruction : Instruction),
        record.found.memory.readWord record.entry.pc = .ok word ∧
        decode false word = .ok (operation, instruction) ∧
        record.entry.event.word? = some (word : Int) ∧
        record.entry.event.key = operation.key ∧
        record.entry.event.mnemonic = instruction.disassemble)

theorem Trace.entries_push {trace : Trace} {all : List TraceEntry}
    (kept : trace.entries = all.drop (all.length - trace.limit)) (entry : TraceEntry) :
    (trace.push entry).entries = (all ++ [entry]).drop ((all ++ [entry]).length - trace.limit) := by
  have dropped : all.length - trace.limit ≤ all.length := Nat.sub_le _ _
  have rest : all.length - trace.limit +
      ((all.drop (all.length - trace.limit) ++ [entry]).length - trace.limit) =
        (all ++ [entry]).length - trace.limit := by
    simp only [List.length_drop, List.length_append, List.length_singleton]
    omega
  rw [← rest, ← List.drop_drop, List.drop_append_of_le_length dropped]
  simp only [Trace.push, kept]

namespace State

variable {state : State} {keys : List Bool}

theorem cycles_completed (keys : List Bool) (state : State) :
    (state.completed keys).cycles = state.cycles + 1 := by
  have counted := Operation.cycles_effect state.instruction (state.fetch keys) state.operation
  exact congrArg (· + 1) counted

/-- What the entry of a cycle says of the state it found and of what it left. -/
structure Entered (state : State) (outcome : Outcome) : Prop where
  cycle : outcome.entry.cycle = state.cycles
  pc : outcome.entry.pc = state.pc
  before : outcome.entry.before = state.snapshot ∨
    outcome.entry.event = .endOfMemory ∧
      outcome.entry.before = { state.snapshot with halted := true }
  after : outcome.entry.after = outcome.state.snapshot
  halted : outcome.status = .halted ↔ outcome.entry.event = .endOfMemory
  faulted : outcome.status = .faulted ↔ outcome.entry.fault ≠ none
  counted : outcome.status ≠ .halted → outcome.status ≠ .faulted →
    outcome.state.cycles = state.cycles + 1

theorem entered_cycle (strict : Bool) (keys : List Bool) (state : State) :
    state.Entered (state.cycle strict keys) := by
  rcases state.cycle_cases strict keys with ⟨_, same⟩ | ⟨_, _, same⟩ | ⟨_, _, _, same⟩ <;> rw [same]
  · exact
      { cycle := rfl
        pc := rfl
        before := .inr ⟨rfl, rfl⟩
        after := rfl
        halted := by simp [endEntry]
        faulted := by simp [endEntry]
        counted := by simp }
  · have counted := cycles_completed keys state
    exact
      { cycle := by simp only [entry, counted]; omega
        pc := rfl
        before := .inl rfl
        after := rfl
        halted := by simp [entry]
        faulted := by simp [entry]
        counted := fun _ _ => counted }
  · exact
      { cycle := rfl
        pc := rfl
        before := .inl rfl
        after := rfl
        halted := by simp [faultEntry]
        faulted := by simp [faultEntry]
        counted := by simp }

theorem WellFormed.faithful (formed : state.WellFormed) (strict : Bool) (keys : List Bool) :
    Record.Faithful ⟨state, (state.cycle strict keys).entry⟩ := by
  have executed (inside : ¬ state.AtEnd) {entry : TraceEntry} (pc : entry.pc = state.pc)
      (event : entry.event = .executed state.operation state.instruction) :
      Record.Faithful ⟨state, entry⟩ := by
    have short : state.word < 0x10000 := state.memory.wordAt_lt _
    have word : state.instruction.word = state.word := Instruction.word_ofWord short
    refine ⟨pc, .inr ⟨state.word, state.operation, state.instruction, ?_, ?_, ?_, ?_, ?_⟩⟩
    · rw [pc]
      exact Memory.readWord_eq (formed.readable inside)
    · rw [decode_word]
      rfl
    · rw [event, Event.word?, word]
    · rw [event]
      rfl
    · rw [event, Event.mnemonic, Instruction.disassemble, word]
      rfl
  rcases state.cycle_cases strict keys with ⟨_, same⟩ | ⟨inside, _, same⟩ | ⟨_, inside, _, same⟩ <;>
    rw [same]
  · exact ⟨rfl, .inl rfl⟩
  · exact executed inside rfl rfl
  · exact executed inside rfl rfl

end State

namespace Machine

variable {τ ε : Type} {config : Config τ} {machine : Machine τ}
  {surroundings : Surroundings τ ε}

/-- What the records of a machine since its program was loaded say. -/
structure Ledger (records : List Record) (machine : Machine τ) : Prop where
  numbered : ∀ place (inside : place < records.length), records[place].entry.cycle = place
  kept : machine.trace.entries =
    (records.map Record.entry).drop ((records.map Record.entry).length - machine.trace.limit)
  faithful : ∀ record ∈ records, record.Faithful
  linked : ∀ place (inside : place + 1 < records.length),
    records[place].entry.Follows records[place + 1].entry
  counted : ∀ state, machine.state = some state →
    machine.status ≠ .halted → machine.status ≠ .faulted → state.cycles = records.length
  current : ∀ state, machine.state = some state →
    ∀ last ∈ records.getLast?, last.entry.after = state.snapshot
  halted : machine.status = .halted ↔
    ∃ last ∈ records.getLast?, last.entry.event = .endOfMemory
  faulted : machine.status = .faulted ↔ ∃ last ∈ records.getLast?, last.entry.fault ≠ none

theorem Ledger.rest {records : List Record} {rested : Machine τ} (ledger : Ledger records machine)
    (rests : machine.Rests rested) : Ledger records rested := by
  have status (status : Status) (apart : status ≠ .loaded) (other : status ≠ .running) :
      rested.status = status ↔ machine.status = status := by
    rcases rests.status with same | ⟨loaded, running⟩
    · rw [same]
    · rw [loaded, running]
      exact ⟨fun same => absurd same.symm other, fun same => absurd same.symm apart⟩
  have halted := status .halted (by decide) (by decide)
  have faulted := status .faulted (by decide) (by decide)
  exact
    { ledger with
      kept := by rw [rests.trace, ledger.kept]
      counted := by
        rw [rests.state, Ne, halted, Ne, faulted]
        exact ledger.counted
      current := by
        rw [rests.state]
        exact ledger.current
      halted := halted.trans ledger.halted
      faulted := faulted.trans ledger.faulted }

/-- One more cycle is entered under the next number, and takes up where the ledger left off. -/
theorem Ledger.cycle {records : List Record} {state : State} (ledger : Ledger records machine)
    (present : machine.state = some state) (running : machine.status = .running)
    (formed : state.WellFormed) (world : ε) :
    Ledger
      (records ++
        [⟨state, (state.cycle machine.config.strict (surroundings.poll world).1).entry⟩])
      (settle surroundings machine state world).1 := by
  obtain ⟨stopping, settled⟩ := settle_machine surroundings machine state world
  have entered := state.entered_cycle machine.config.strict (surroundings.poll world).1
  have faithful := formed.faithful machine.config.strict (surroundings.poll world).1
  rw [settled]
  generalize state.cycle machine.config.strict (surroundings.poll world).1 = outcome
    at entered faithful
  have count : state.cycles = records.length :=
    ledger.counted state present (by simp [running]) (by simp [running])
  have last : (records ++ [Record.mk state outcome.entry]).getLast? = some ⟨state, outcome.entry⟩ :=
    List.getLast?_concat
  constructor
  case numbered =>
    intro place inside
    rw [List.getElem_append]
    split
    · exact ledger.numbered place ‹_›
    · rw [List.length_append, List.length_singleton] at inside
      have same : place = records.length := by omega
      simp [entered.cycle, count, same]
  case kept =>
    simp only [List.map_append, List.map_cons, List.map_nil]
    exact Trace.entries_push ledger.kept outcome.entry
  case faithful =>
    intro record member
    rcases List.mem_append.mp member with old | new
    · exact ledger.faithful record old
    · rw [List.mem_singleton.mp new]
      exact faithful
  case linked =>
    intro place inside
    rw [List.length_append, List.length_singleton] at inside
    by_cases old : place + 1 < records.length
    · rw [List.getElem_append_left old, List.getElem_append_left (by omega)]
      exact ledger.linked place old
    -- The old last record is the one that the machine's state was left by.
    · have here : place < records.length := by omega
      have ended : records.getLast? = some records[place] := by
        rw [List.getLast?_eq_getElem?, List.getElem?_eq_getElem (by omega)]
        congr 2
        omega
      have after := ledger.current state present records[place] ended
      have next : (records ++ [Record.mk state outcome.entry])[place + 1] =
          ⟨state, outcome.entry⟩ := by
        rw [List.getElem_append_right (by omega)]
        simp
      rw [List.getElem_append_left here, next]
      refine ⟨?_, ?_, ?_⟩
      · rintro (halt | fault)
        · have halted := ledger.halted.mpr ⟨records[place], ended, halt⟩
          rw [running] at halted
          simp at halted
        · have faulted := ledger.faulted.mpr ⟨records[place], ended, fault⟩
          rw [running] at faulted
          simp at faulted
      · rw [after]
        exact entered.pc
      · rw [after]
        exact entered.before
  case counted =>
    intro after same notHalted notFaulted
    rw [← Option.some.inj same, entered.counted notHalted notFaulted, count]
    simp
  case current =>
    intro after same record ended
    rw [last] at ended
    rw [← Option.some.inj ended, ← Option.some.inj same]
    exact entered.after
  case halted =>
    rw [last]
    simp [entered.halted]
  case faulted =>
    rw [last]
    simp [entered.faulted]

theorem Course.ledger (quiet : surroundings.Quiet) {start place : Machine τ × ε}
    {records : List Record} (course : Course surroundings start records place)
    (sound : start.1.Sound config) (opened : Ledger [] start.1) : Ledger records place.1 := by
  induction course with
  | start => exact opened
  | rest _ resting ih => exact ih.rest resting.1
  | cycle before present running ih =>
    exact ih.cycle present running ((before.sound quiet sound).formed _ present) _

variable [TimeScale τ]

theorem ledger_load (surroundings : Surroundings τ ε) (program : List UInt8)
    (place : Machine τ × ε) :
    Ledger [] ((Request.load program).serve surroundings place).1 := by
  obtain ⟨bytes, loaded⟩ := serve_load surroundings program place
  rw [loaded]
  exact
    { numbered := fun place inside => absurd inside (Nat.not_lt_zero place)
      kept := by simp [Trace.clear]
      faithful := fun record member => absurd member (List.not_mem_nil)
      linked := fun place inside => absurd inside (Nat.not_lt_zero (place + 1))
      counted := by
        intro state same _ _
        rw [← Option.some.inj same]
        rfl
      current := fun _ _ _ ended => by simp at ended
      halted := by simp
      faulted := by simp }

end Machine

end ChipEight
