import ChipEight.Proofs.Failures
import ChipEight.Proofs.Validity

namespace ChipEight

namespace Instruction

/-- The registers that a word may write. -/
def WritesRegister (word number : Nat) : Prop :=
  let x := word / 0x100 % 0x10
  word / 0x1000 = 0x6 ∧ number = x ∨
    word / 0x1000 = 0x7 ∧ number = x ∨
    word / 0x1000 = 0x8 ∧ word % 0x10 ≤ 0x3 ∧ number = x ∨
    word / 0x1000 = 0x8 ∧ (0x4 ≤ word % 0x10 ∧ word % 0x10 ≤ 0x7 ∨ word % 0x10 = 0xE) ∧
      (number = x ∨ number = 0xF) ∨
    word / 0x1000 = 0xD ∧ number = 0xF ∨
    word / 0x1000 = 0xF ∧ (word % 0x100 = 0x07 ∨ word % 0x100 = 0x0A) ∧ number = x ∨
    word / 0x1000 = 0xF ∧ word % 0x100 = 0x65 ∧ number ≤ x

/-- The addresses that a word may write to, which lie from the index on. -/
def WritesByte (word : Nat) (index : Int) (address : Nat) : Prop :=
  word / 0x1000 = 0xF ∧ word % 0x100 = 0x33 ∧ index ≤ address ∧ address ≤ index + 2 ∨
    word / 0x1000 = 0xF ∧ word % 0x100 = 0x55 ∧
      index ≤ address ∧ address ≤ index + (word / 0x100 % 0x10 : Nat)

end Instruction

namespace State

open Instruction

/-- Whatever differs between two states is something that a word may write, found where the first
of them says. The counter and the count of cycles are left open. -/
structure Confined (word : Nat) (before after : State) : Prop where
  memorySize : after.memory.size = before.memory.size
  storeSize : after.memory.bytes.size = before.memory.bytes.size
  bytes : ∀ address, ¬ WritesByte word before.index address →
    after.memory.byteAt address = before.memory.byteAt address
  display : word ≠ 0x00E0 → word / 0x1000 ≠ 0xD → after.display = before.display
  sp : word / 0x1000 ≠ 0x2 → word ≠ 0x00EE → after.sp = before.sp
  slotCount : after.stack.length = before.stack.length
  slots : ∀ number : Nat, ¬ (word / 0x1000 = 0x2 ∧ (number : Int) = before.sp) →
    after.slot number = before.slot number
  index : word / 0x1000 ≠ 0xA → ¬ (word / 0x1000 = 0xF ∧ word % 0x100 = 0x1E) →
    after.index = before.index
  delay : ¬ (word / 0x1000 = 0xF ∧ word % 0x100 = 0x15) → after.delayTimer = before.delayTimer
  sound : ¬ (word / 0x1000 = 0xF ∧ word % 0x100 = 0x18) → after.soundTimer = before.soundTimer
  awaitingKey : ¬ (word / 0x1000 = 0xF ∧ word % 0x100 = 0x0A) →
    after.awaitingKey = before.awaitingKey
  keys : after.keys = before.keys
  halted : after.halted = before.halted
  registerCount : after.registers.length = before.registers.length
  registers : ∀ number, ¬ WritesRegister word number →
    after.register number = before.register number

namespace Confined

variable {word : Nat} {before after : State}

theorem same (word : Nat) (state : State) : Confined word state state where
  memorySize := rfl
  storeSize := rfl
  bytes _ _ := rfl
  display _ _ := rfl
  sp _ _ := rfl
  slotCount := rfl
  slots _ _ := rfl
  index _ _ := rfl
  delay _ := rfl
  sound _ := rfl
  awaitingKey _ := rfl
  keys := rfl
  halted := rfl
  registerCount := rfl
  registers _ _ := rfl

theorem setRegister (confined : Confined word before after) {target : Nat}
    (writes : WritesRegister word target) (value : Int) :
    Confined word before (after.setRegister target value) :=
  { confined with
    registerCount := (length_setRegister after target value).trans confined.registerCount
    registers := by
      intro number untouched
      have apart : target ≠ number := fun same => untouched (same ▸ writes)
      rw [← confined.registers number untouched]
      simp only [register, State.setRegister, List.getD_eq_getElem?_getD,
        List.getElem?_set_ne apart] }

theorem setFlag (confined : Confined word before after) (writes : WritesRegister word 0xF)
    (flag : Bool) : Confined word before (after.setFlag flag) :=
  confined.setRegister writes _

theorem skipIf (confined : Confined word before after) (condition : Bool) :
    Confined word before (after.skipIf condition) := by
  cases condition with
  | false => exact confined
  | true => exact { confined with }

theorem pushed {state : State} (calls : word / 0x1000 = 0x2) (low : 0 ≤ state.sp)
    (address : Int) :
    Confined word state
      { state with stack := state.stack.set state.sp.toNat address, sp := state.sp + 1 } :=
  { same word state with
    sp := fun other _ => absurd calls other
    slotCount := List.length_set
    slots := by
      intro number untouched
      have apart : state.sp.toNat ≠ number := by
        intro top
        exact untouched ⟨calls, by omega⟩
      simp only [slot, List.getD_eq_getElem?_getD, List.getElem?_set_ne apart] }

theorem stored {state : State} {values : List Int}
    (whole : state.memory.bytes.size = state.memory.size)
    (covered : state.memory.Covers state.index values.length)
    (writes : ∀ address : Nat, state.index ≤ address → address < state.index + values.length →
      WritesByte word state.index address) :
    Confined word state { state with memory := state.memory.putBlock state.index values } :=
  { same word state with
    storeSize := Memory.size_overwrite _ _ _
    bytes := by
      intro address untouched
      refine (Memory.byteAt_putBlock whole covered address).trans (if_neg ?_)
      exact fun inside => untouched (writes address inside.1 inside.2) }

end Confined

end State

namespace Operation

open State

variable {state : State} {word : Nat}

theorem takeKeyEffect_confined (spelled : Instruction.Spells word .awaitKey) :
    Confined word state (takeKeyEffect (.ofWord word) state) := by
  have same := Confined.same word state
  have writes : Instruction.WritesRegister word (Instruction.ofWord word).x := by
    simp [Instruction.WritesRegister, Instruction.x_ofWord, spelled.1, spelled.2]
  unfold takeKeyEffect
  split
  · exact { same.setRegister writes _ with awaitingKey := fun other => absurd spelled other }
  · exact { same with awaitingKey := fun other => absurd spelled other }

theorem loadEffect_confined (shaped : state.Shaped)
    (whole : state.memory.bytes.size = state.memory.size)
    (spelled : Instruction.Spells word .loadRegisters)
    (covered : state.memory.Covers state.index ((Instruction.ofWord word).x + 1)) :
    Confined word state (loadEffect (.ofWord word) state) := by
  have inside := (Instruction.ofWord word).x_lt
  have count := Memory.length_block whole covered
  refine { Confined.same word state with registerCount := ?_, registers := ?_ }
  · simp only [loadEffect, List.length_append, List.length_map, List.length_drop, count,
      shaped.registers]
    omega
  · intro number untouched
    have beyond : (Instruction.ofWord word).x < number := by
      rw [Instruction.x_ofWord, ← Nat.not_le]
      exact fun listed =>
        untouched (by simp [Instruction.WritesRegister, spelled.1, spelled.2, listed])
    simp only [register, loadEffect, List.getD_eq_getElem?_getD]
    rw [List.getElem?_append_right (by rw [List.length_map, count]; omega), List.getElem?_drop,
      List.length_map, count]
    congr 2
    omega

/-- No operation writes more than its words may. -/
theorem effect_confined (shaped : state.Shaped)
    (whole : state.memory.bytes.size = state.memory.size) {operation : Operation}
    (spelled : operation ≠ .unknown → Instruction.Spells word operation)
    (granted : operation.refusal (.ofWord word) state = none) :
    Confined word state (operation.effect (.ofWord word) state) := by
  have same := Confined.same word state
  by_cases unknown : operation = .unknown
  · rw [unknown]
    exact same
  have spelled := spelled unknown
  have x : (Instruction.ofWord word).x = word / 0x100 % 0x10 := Instruction.x_ofWord word
  have setX (listed : Instruction.WritesRegister word (word / 0x100 % 0x10)) (value : Int) :
      Confined word state (state.setRegister (Instruction.ofWord word).x value) :=
    same.setRegister (x ▸ listed) value
  cases operation with
  | clearScreen => exact { same with display := fun other _ => absurd spelled other }
  | ret => exact { same with sp := fun _ other => absurd spelled other }
  | jump | jumpOffset => exact { same with }
  | call => exact { Confined.pushed spelled shaped.depth.1 _ with }
  | skipEqualByte | skipUnequalByte | skipEqual | skipUnequal | skipHeld | skipReleased =>
    exact same.skipIf _
  | loadByte | addByte =>
    have digit : word / 0x1000 = _ := spelled
    exact setX (by simp [Instruction.WritesRegister, digit]) _
  | copy | or | and | xor =>
    obtain ⟨digit, last⟩ : _ ∧ _ := spelled
    exact setX (by simp [Instruction.WritesRegister, digit, last]) _
  | add | subtract | shiftRight | subtractFrom | shiftLeft =>
    obtain ⟨digit, last⟩ : _ ∧ _ := spelled
    refine (setX ?_ _).setFlag ?_ _ <;> simp [Instruction.WritesRegister, digit, last]
  | loadIndex => exact { same with index := fun other _ => absurd spelled other }
  | draw =>
    have digit : word / 0x1000 = 0xD := spelled
    have flagged := same.setFlag (by simp [Instruction.WritesRegister, digit])
    exact { flagged _ with display := fun _ other => absurd digit other }
  | awaitKey => exact takeKeyEffect_confined spelled
  | readDelay =>
    obtain ⟨digit, last⟩ : _ ∧ _ := spelled
    exact setX (by simp [Instruction.WritesRegister, digit, last]) _
  | setDelay => exact { same with delay := fun other => absurd spelled other }
  | setSound => exact { same with sound := fun other => absurd spelled other }
  | addIndex => exact { same with index := fun _ other => absurd spelled other }
  | storeDecimal =>
    refine Confined.stored whole (Memory.refusal_eq_none.mp granted) fun address first last => ?_
    have last : (address : Int) < state.index + 3 := last
    exact .inl ⟨spelled.1, spelled.2, first, by omega⟩
  | storeRegisters =>
    have count := length_stored shaped.registers (.ofWord word)
    have covered := Memory.refusal_eq_none.mp granted
    refine Confined.stored whole (count ▸ covered) fun address first last => ?_
    rw [count, x] at last
    exact .inr ⟨spelled.1, spelled.2, first, by omega⟩
  | loadRegisters =>
    exact loadEffect_confined shaped whole spelled (Memory.refusal_eq_none.mp granted)
  | unknown => exact spelled.elim

theorem spoiled_confined {operation : Operation}
    (spelled : operation ≠ .unknown → Instruction.Spells word operation) :
    Confined word state (operation.spoiled state) := by
  have same := Confined.same word state
  cases operation with
  | draw =>
    have digit : word / 0x1000 = 0xD := spelled (by decide)
    exact same.setFlag (by simp [Instruction.WritesRegister, digit]) false
  | _ => exact same

/-- A word that is executed, in either mode, writes what such a word may write and nothing else,
whether it succeeds or fails; keys and the halt are never touched. -/
theorem executeWord_confined (valid : state.valid = true) {size : Nat}
    (whole : state.memory.Whole size) (strict : Bool) (short : word < 0x10000) :
    Confined word state (left ((executeWord strict word).run state)) := by
  have shaped := shaped_of_valid valid
  have advanced : (state.advance 2).Shaped := { shaped with }
  have full : (state.advance 2).memory.bytes.size = (state.advance 2).memory.size :=
    whole.2.trans whole.1.symm
  have spelled (known : (Instruction.ofWord word).operation ≠ .unknown) :=
    (Instruction.operation_eq short known).mp rfl
  rcases executeWord_cases shaped strict word with ⟨fault, failed⟩ | ⟨granted, succeeded⟩
  · rw [failed]
    have confined : Confined word (state.advance 2)
        ((Instruction.ofWord word).operation.spoiled (state.advance 2)) := spoiled_confined spelled
    exact { confined with }
  · rw [succeeded]
    exact { effect_confined advanced full spelled granted with }

/-- Two registers stored at the end of the memory leave the byte before them as it was. -/
theorem executeWord_confined_end :
    let state := { State.blank with registers := List.replicate 16 7, index := 0xFFE }
    let after := left ((executeWord true 0xF155).run state)
    state.valid = true ∧ state.memory.Whole 4096 ∧ 0xF155 < 0x10000 ∧
      after.memory.byteAt 0xFFD = state.memory.byteAt 0xFFD ∧ after.memory.byteAt 0xFFE = 7 ∧
      after.index = 0xFFE := by
  intro state after
  have valid : state.valid = true := by decide +kernel
  have short : 0xF155 < 0x10000 := by decide
  have confined := executeWord_confined valid Memory.whole_standard true short
  have before : ¬ Instruction.WritesByte 0xF155 state.index 0xFFD := by
    rintro (⟨_, last, _⟩ | ⟨_, _, first, _⟩)
    · cases last
    · exact absurd first (by decide)
  have written : after.memory.byteAt 0xFFE = 7 := by decide +kernel
  exact ⟨valid, Memory.whole_standard, short, confined.bytes _ before, written,
    confined.index (by decide) (by decide)⟩

end Operation

end ChipEight
