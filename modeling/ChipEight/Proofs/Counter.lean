import ChipEight.Proofs.Faults
import ChipEight.Proofs.Failures
import ChipEight.Proofs.Histories
import ChipEight.Proofs.Onsets

/-! Where the counter goes can be read off the word, the registers, the stack and the keys as the
instruction finds them. -/

namespace ChipEight

namespace State

/-- The words that pass over the one behind them, with what each asks of registers and keys. -/
def PassesOver (state : State) (keys : List Bool) (word : Nat) : Prop :=
  let vx := state.register (word / 0x100 % 0x10)
  let vy := state.register (word / 0x10 % 0x10)
  let held := keys.getD (vx % 16).toNat false = true
  word / 0x1000 = 0x3 ∧ vx = (word % 0x100 : Nat) ∨
    word / 0x1000 = 0x4 ∧ vx ≠ (word % 0x100 : Nat) ∨
    word / 0x1000 = 0x5 ∧ vx = vy ∨
    word / 0x1000 = 0x9 ∧ vx ≠ vy ∨
    word / 0x1000 = 0xE ∧ word % 0x100 = 0x9E ∧ held ∨
    word / 0x1000 = 0xE ∧ word % 0x100 = 0xA1 ∧ ¬ held

instance (state : State) (keys : List Bool) (word : Nat) : Decidable (state.PassesOver keys word) :=
  inferInstanceAs (Decidable (_ ∧ _ ∨ _ ∧ _ ∨ _ ∧ _ ∨ _ ∧ _ ∨ _ ∧ _ ∧ _ ∨ _ ∧ _ ∧ _))

/-- Where the counter goes from a word that is executed while these keys are held. -/
def target (state : State) (keys : List Bool) (word : Nat) : Int :=
  if word / 0x1000 = 0x1 ∨ word / 0x1000 = 0x2 then (word % 0x1000 : Nat)
  else if word / 0x1000 = 0xB then (word % 0x1000 : Nat) + state.register 0
  else if word = 0x00EE then state.slot (state.sp - 1).toNat
  else if word / 0x1000 = 0xF ∧ word % 0x100 = 0x0A ∧ true ∉ keys then state.pc
  else if state.PassesOver keys word then state.pc + 4
  else state.pc + 2

end State

namespace Operation

/-- The operations that set the counter, or may. -/
def steers : Operation → Bool
  | ret | jump | call | jumpOffset | skipEqualByte | skipUnequalByte | skipEqual | skipUnequal
  | skipHeld | skipReleased | awaitKey => true
  | _ => false

theorem pc_effect (instruction : Instruction) (state : State) {operation : Operation}
    (straight : operation.steers = false) :
    (operation.effect instruction state).pc = state.pc := by
  cases operation with
  | ret | jump | call | jumpOffset | skipEqualByte | skipUnequalByte | skipEqual | skipUnequal
  | skipHeld | skipReleased | awaitKey => cases straight
  | _ => rfl

end Operation

namespace State

variable {state : State} {keys : List Bool} {word : Nat}

theorem target_straight
    (unspelled : ∀ operation, Operation.steers operation = true →
      ¬ Instruction.Spells word operation) :
    state.target keys word = state.pc + 2 := by
  have unskipped : ¬ state.PassesOver keys word := by
    rintro (⟨digit, _⟩ | ⟨digit, _⟩ | ⟨digit, _⟩ | ⟨digit, _⟩ | ⟨digit, last, _⟩ | ⟨digit, last, _⟩)
    · exact unspelled .skipEqualByte rfl digit
    · exact unspelled .skipUnequalByte rfl digit
    · exact unspelled .skipEqual rfl digit
    · exact unspelled .skipUnequal rfl digit
    · exact unspelled .skipHeld rfl ⟨digit, last⟩
    · exact unspelled .skipReleased rfl ⟨digit, last⟩
  have unjumped : ¬ (word / 0x1000 = 0x1 ∨ word / 0x1000 = 0x2) := by
    rintro (digit | digit)
    · exact unspelled .jump rfl digit
    · exact unspelled .call rfl digit
  have offset : ¬ word / 0x1000 = 0xB := unspelled .jumpOffset rfl
  have returned : ¬ word = 0x00EE := unspelled .ret rfl
  have waits : ¬ (word / 0x1000 = 0xF ∧ word % 0x100 = 0x0A ∧ true ∉ keys) :=
    fun ⟨digit, last, _⟩ => unspelled .awaitKey rfl ⟨digit, last⟩
  rw [target, if_neg unjumped, if_neg offset, if_neg returned, if_neg waits, if_neg unskipped]

theorem pc_skipIf (low : 0 ≤ state.pc) (high : state.pc < 0xFFFE) (condition : Bool) :
    (state.skipIf condition).pc = if condition then state.pc + 2 else state.pc := by
  cases condition with
  | false => rfl
  | true =>
    simp only [skipIf, if_true, advance]
    omega

theorem target_skip {condition : Bool}
    (digit : word / 0x1000 = 0x3 ∨ word / 0x1000 = 0x4 ∨ word / 0x1000 = 0x5 ∨
      word / 0x1000 = 0x9 ∨ word / 0x1000 = 0xE)
    (agrees : state.PassesOver keys word ↔ condition = true) :
    state.target keys word = if condition then state.pc + 2 + 2 else state.pc + 2 := by
  rw [target, if_neg (by omega), if_neg (by omega), if_neg (by omega), if_neg (by omega)]
  simp only [agrees]
  split <;> omega

theorem WellFormed.pc_skipped (formed : state.WellFormed) (inside : ¬ state.AtEnd)
    {condition : Bool}
    (digit : word / 0x1000 = 0x3 ∨ word / 0x1000 = 0x4 ∨ word / 0x1000 = 0x5 ∨
      word / 0x1000 = 0x9 ∨ word / 0x1000 = 0xE)
    (agrees : state.PassesOver keys word ↔ condition = true) :
    ((state.fetch keys).skipIf condition).pc = state.target keys word := by
  have fetched : (state.fetch keys).pc = state.pc + 2 := formed.pc_fetch inside keys
  have first := formed.counter.1
  have last := mt formed.atEnd_iff.mpr inside
  rw [pc_skipIf (by omega) (by omega), fetched, target_skip digit agrees]

theorem WellFormed.pc_waited (formed : state.WellFormed) (inside : ¬ state.AtEnd)
    (digit : word / 0x1000 = 0xF) (last : word % 0x100 = 0x0A) :
    (Operation.takeKeyEffect state.instruction (state.fetch keys)).pc = state.target keys word := by
  have fetched : (state.fetch keys).pc = state.pc + 2 := formed.pc_fetch inside keys
  have counter := formed.counter
  have unskipped : ¬ state.PassesOver keys word := by simp [PassesOver, digit]
  have found : (state.fetch keys).keys = keys := rfl
  rw [target, if_neg (by omega), if_neg (by omega), if_neg (by omega), if_neg unskipped,
    Operation.takeKeyEffect, found]
  cases searched : keys.idxOf? true with
  | none =>
    have empty : true ∉ keys := List.idxOf?_eq_none_iff.mp searched
    rw [if_pos ⟨digit, last, empty⟩]
    change ((state.fetch keys).pc + -2) % 0x10000 = state.pc
    omega
  | some key =>
    have held : ¬ (word / 0x1000 = 0xF ∧ word % 0x100 = 0x0A ∧ true ∉ keys) := by
      rintro ⟨_, _, empty⟩
      rw [List.idxOf?_eq_none_iff.mpr empty] at searched
      cases searched
    rw [if_neg held]
    exact fetched

/-- The counter of a state after an instruction is where its word leads. -/
theorem WellFormed.pc_executed (formed : state.WellFormed) (inside : ¬ state.AtEnd)
    (keys : List Bool) : (state.executed keys).pc = state.target keys state.word := by
  have x : state.instruction.x = state.word / 0x100 % 0x10 := Instruction.x_ofWord state.word
  have y : state.instruction.y = state.word / 0x10 % 0x10 := Instruction.y_ofWord state.word
  have nn : state.instruction.nn = state.word % 0x100 := Instruction.nn_ofWord state.word
  have nnn : state.instruction.nnn = state.word % 0x1000 := Instruction.nnn_ofWord state.word
  have register (number : Nat) : (state.fetch keys).register number = state.register number := rfl
  have polled : (state.fetch keys).keys = keys := rfl
  have operation_iff {operation : Operation} (known : operation ≠ .unknown) :
      state.operation = operation ↔ Instruction.Spells state.word operation :=
    Instruction.operation_eq (state.memory.wordAt_lt _) known
  change (state.operation.effect state.instruction (state.fetch keys)).pc = _
  by_cases straight : state.operation.steers = false
  · rw [Operation.pc_effect state.instruction _ straight, formed.pc_fetch inside, target_straight]
    intro operation steers spelled
    have known : operation ≠ .unknown := by
      rintro rfl
      cases steers
    rw [(operation_iff known).mpr spelled, steers] at straight
    cases straight
  cases named : state.operation with
  | jump =>
    have digit : state.word / 0x1000 = 0x1 := (operation_iff (by decide)).mp named
    rw [target, if_pos (.inl digit), ← nnn]
    rfl
  | call =>
    have digit : state.word / 0x1000 = 0x2 := (operation_iff (by decide)).mp named
    rw [target, if_pos (.inr digit), ← nnn]
    rfl
  | jumpOffset =>
    have digit : state.word / 0x1000 = 0xB := (operation_iff (by decide)).mp named
    rw [target, if_neg (by omega), if_pos digit, ← nnn, Int.add_comm]
    rfl
  | ret =>
    have same : state.word = 0x00EE := (operation_iff (by decide)).mp named
    rw [target, if_neg (by omega), if_neg (by omega), if_pos same]
    rfl
  | skipEqualByte =>
    have digit : state.word / 0x1000 = 0x3 := (operation_iff (by decide)).mp named
    refine formed.pc_skipped inside (.inl digit) ?_
    simp [PassesOver, digit, x, nn, register]
  | skipUnequalByte =>
    have digit : state.word / 0x1000 = 0x4 := (operation_iff (by decide)).mp named
    refine formed.pc_skipped inside (.inr (.inl digit)) ?_
    simp [PassesOver, digit, x, nn, register]
  | skipEqual =>
    have digit : state.word / 0x1000 = 0x5 := (operation_iff (by decide)).mp named
    refine formed.pc_skipped inside (.inr (.inr (.inl digit))) ?_
    simp [PassesOver, digit, x, y, register]
  | skipUnequal =>
    have digit : state.word / 0x1000 = 0x9 := (operation_iff (by decide)).mp named
    refine formed.pc_skipped inside (.inr (.inr (.inr (.inl digit)))) ?_
    simp [PassesOver, digit, x, y, register]
  | skipHeld =>
    obtain ⟨digit, last⟩ : _ ∧ _ := (operation_iff (by decide)).mp named
    refine formed.pc_skipped inside (.inr (.inr (.inr (.inr digit)))) ?_
    simp [PassesOver, digit, last, x, Operation.keyHeld, register, polled]
  | skipReleased =>
    obtain ⟨digit, last⟩ : _ ∧ _ := (operation_iff (by decide)).mp named
    refine formed.pc_skipped inside (.inr (.inr (.inr (.inr digit)))) ?_
    simp [PassesOver, digit, last, x, Operation.keyHeld, register, polled]
  | awaitKey =>
    obtain ⟨digit, last⟩ : _ ∧ _ := (operation_iff (by decide)).mp named
    exact formed.pc_waited inside digit last
  | _ => exact absurd (by rw [named]; rfl) straight

theorem WellFormed.pc_failed (formed : state.WellFormed) (inside : ¬ state.AtEnd)
    (keys : List Bool) : (state.failed keys).pc = state.pc + 2 := by
  rw [← formed.pc_fetch inside keys, State.failed]
  cases state.operation <;> rfl

end State

namespace Machine

variable {τ ε : Type} [TimeScale τ] {config : Config τ} {machine awake : Machine τ} {state : State}
  {surroundings : Surroundings τ ε} {world world' : ε}

/-- A step that faults leaves the counter behind the word that was fetched, and any other where the
word leads; no address on the way there is cut to sixteen bits. -/
theorem counter_moves (reachable : Reachable config machine) (present : machine.state = some state)
    (inside : state.pc + 1 < 4096)
    (apart : ∀ world error, (surroundings.clock world).1 = .error error → Outside error)
    (woken : (wake surroundings).run (machine, world) = .ok () (awake, world'))
    (sixteen : (surroundings.poll world').1.length = 16) :
    let keys := (surroundings.poll world').1
    let result := (step surroundings).run (machine, world)
    ∃ word after, state.memory.readWord state.pc = .ok word ∧
      (left result).1.state = some after ∧
      ((∃ fault, raised result = some (.fault fault)) → after.pc = state.pc + 2) ∧
      ((∀ fault, raised result ≠ some (.fault fault)) →
        after.pc = state.target keys word ∧ (word = 0x00EE → 0 < state.sp)) := by
  intro keys result
  have sound := reachable.sound
  have formed := sound.formed state present
  have within : ¬ state.AtEnd := fun atEnd => by
    have past := formed.atEnd_iff.mp atEnd
    omega
  have fetches : Fetches surroundings (machine, world) state world' :=
    ⟨present, ⟨awake, woken⟩, within, sixteen⟩
  obtain ⟨ready, _, _, stepped⟩ := fetches.step sound
  have stepped : result = _ := stepped
  refine ⟨state.word, ?_⟩
  cases refused : state.fault? config.strict with
  | some cause =>
    rw [refused] at stepped
    refine ⟨state.failed keys, Memory.readWord_eq (formed.readable within), ?_, ?_, ?_⟩
    · rw [stepped]
      rfl
    · exact fun _ => formed.pc_failed within keys
    · intro faultless
      rw [stepped] at faultless
      exact absurd rfl (faultless _)
  | none =>
    rw [refused] at stepped
    let executing : Machine τ := { ready with state := some (state.executed keys) }
    obtain ⟨_, _, count, passed⟩ := ticks_complete surroundings state.snapshot state.operation
      state.instruction (executing, (surroundings.poll world').2)
    obtain ⟨delay, sound, ticked⟩ := (state.executed keys).ticks_eq count
    have counter : ((state.executed keys).ticks count).pc = state.target keys state.word := by
      rw [ticked]
      exact formed.pc_executed within keys
    refine ⟨(state.executed keys).ticks count, Memory.readWord_eq (formed.readable within), ?_, ?_,
      ?_⟩
    · rw [stepped]
      exact passed
    · rintro ⟨fault, failed⟩
      obtain ⟨place, ended⟩ := raised_eq_some failed
      exact absurd rfl (raises_complete apart _ _ _ _ _ _ (stepped.symm.trans ended) fault)
    · refine fun _ => ⟨counter, fun returns => ?_⟩
      have pushed := State.pushed_of_granted refused returns
      have depth := formed.depth
      omega

/-- A jump by an offset may leave the memory, and is not brought back. -/
theorem counter_moves_beyond :
    let surroundings : Surroundings Quantity Nat := .scripted fun _ => Keypad.released.held
    let loaded := (Request.load [0x60, 0xFF, 0xBF, 0xFF]).serve surroundings
      (Machine.idle .standard, 0)
    let place := Request.step.serve surroundings loaded
    ∃ after, (left ((step surroundings).run place)).1.state = some after ∧ after.pc = 0x10FE := by
  intro surroundings loaded place
  have created : Reachable .standard (Machine.idle (.standard : Config Quantity)) :=
    .created rfl rfl
  have reachable : Reachable .standard place.1 :=
    .served surroundings loaded.2 .step
      (.served surroundings 0 (.load [0x60, 0xFF, 0xBF, 0xFF]) created)
  have facts : place.1.state.map (fun found => (found.pc, found.register 0,
      (found.memory.readWord found.pc).toOption)) = some (0x202, 0xFF, some 0xBFFF) := by
    decide +kernel
  obtain ⟨found, present, facts⟩ := Option.map_eq_some_iff.mp facts
  simp only [Prod.mk.injEq] at facts
  obtain ⟨counter, offset, spelled⟩ := facts
  have apart (world : Nat) (error : Error) (failed : (surroundings.clock world).1 = .error error) :
      Outside error := by
    cases failed
  have running : place.1.status = .running := by decide +kernel
  have read : place.1.clockPaused = false := by decide +kernel
  have woken : (wake surroundings).run (place.1, place.2) = .ok () (place.1, place.2) := by
    rw [run_wake, if_neg (by rw [running]; decide), if_pos running, read]
    rfl
  have faultless : raised ((step surroundings).run place) = none := by decide +kernel
  obtain ⟨word, after, fetched, left, _, moved⟩ :=
    counter_moves reachable present (by rw [counter]; decide) apart woken rfl
  obtain rfl : word = 0xBFFF := by
    rw [fetched] at spelled
    exact Option.some.inj spelled
  refine ⟨after, left, ?_⟩
  rw [(moved (by simp [faultless])).1, State.target, if_neg (by decide), if_pos (by decide), offset]
  rfl

end Machine

end ChipEight
