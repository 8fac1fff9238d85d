import ChipEight.Proofs.Effects

/-! The states that a machine can come to. A counter that fetches in bounds then stands between 2
and 0x1000, so what a call pushes lies there too, and every way of setting it stays below 0x10FF. -/

namespace ChipEight

theorem State.fits_iff {bits : Nat} {value : Int} :
    State.fits bits value = true ↔ 0 ≤ value ∧ value < (1 <<< bits : Nat) := by
  simp only [State.fits, Bool.and_eq_true, decide_eq_true_eq]

theorem State.fits_getD {bits : Nat} {values : List Int}
    (bounded : ∀ value ∈ values, State.fits bits value) (place : Nat) :
    State.fits bits (values.getD place 0) := by
  rw [List.getD_eq_getElem?_getD]
  cases found : values[place]? with
  | none =>
    rw [Option.getD_none, fits_iff, Nat.one_shiftLeft]
    exact ⟨Int.le_refl 0, Int.natCast_pos.mpr (Nat.two_pow_pos bits)⟩
  | some value => exact bounded value (List.mem_of_getElem? found)

namespace Bits

variable {bits : Nat} {left right : Int}

private theorem fits_binary {operator : Int → Int → Int} {exact : Nat → Nat → Nat}
    (agrees : ∀ left right : Nat, operator left right = exact left right)
    (bounded : ∀ {left right : Nat}, left < 1 <<< bits → right < 1 <<< bits →
      exact left right < 1 <<< bits)
    (first : State.fits bits left) (second : State.fits bits right) :
    State.fits bits (operator left right) := by
  obtain ⟨leftLow, leftHigh⟩ := State.fits_iff.mp first
  obtain ⟨rightLow, rightHigh⟩ := State.fits_iff.mp second
  obtain ⟨left, rfl⟩ := Int.eq_ofNat_of_zero_le leftLow
  obtain ⟨right, rfl⟩ := Int.eq_ofNat_of_zero_le rightLow
  rw [agrees]
  exact State.fits_iff.mpr
    ⟨by omega, by exact_mod_cast bounded (by exact_mod_cast leftHigh) (by exact_mod_cast rightHigh)⟩

theorem fits_or (first : State.fits bits left) (second : State.fits bits right) :
    State.fits bits (or left right) := by
  refine fits_binary (fun _ _ => rfl) ?_ first second
  simp only [Nat.one_shiftLeft]
  exact Nat.or_lt_two_pow

theorem fits_and (first : State.fits bits left) (second : State.fits bits right) :
    State.fits bits (and left right) := by
  refine fits_binary (fun _ _ => rfl) ?_ first second
  simp only [Nat.one_shiftLeft]
  exact fun _ => Nat.and_lt_two_pow _

theorem fits_xor (first : State.fits bits left) (second : State.fits bits right) :
    State.fits bits (xor left right) := by
  refine fits_binary (fun _ _ => rfl) ?_ first second
  simp only [Nat.one_shiftLeft]
  exact Nat.xor_lt_two_pow

end Bits

namespace Memory

/-- An access to a memory whose store has all its bytes finds and leaves them all. -/
def Whole (memory : Memory) (size : Nat) : Prop :=
  memory.size = size ∧ memory.bytes.size = size

theorem Whole.putBlock {memory : Memory} {size : Nat} (whole : memory.Whole size) (address : Int)
    (values : List Int) : (memory.putBlock address values).Whole size :=
  ⟨whole.1, (size_overwrite _ _ _).trans whole.2⟩

theorem load_reaching {memory : Memory} (reaching : programStart ≤ memory.size)
    (program : List UInt8) :
    memory.load program =
      (((min program.length (memory.size - programStart) : Nat) : Int),
        { memory with
          bytes := overwrite memory.bytes programStart
            (program.take (memory.size - programStart)) }) := by
  have counted : min (program.length : Int) ((memory.size : Int) - programStart) =
      (min program.length (memory.size - programStart) : Nat) := by
    omega
  have image : program.take (min program.length (memory.size - programStart)) =
      program.take (memory.size - programStart) := by
    rw [Nat.min_comm, ← List.take_eq_take_min]
  simp only [load, counted, Int.natCast_nonneg, if_true, Slots.before_ofNat, image]

theorem Whole.load {memory : Memory} {size : Nat} (whole : memory.Whole size)
    (large : programStart ≤ size)
    (program : List UInt8) : (memory.load program).2.Whole size := by
  have reaching : programStart ≤ memory.size := Nat.le_trans large (Nat.le_of_eq whole.1.symm)
  rw [load_reaching reaching]
  refine ⟨whole.1, ?_⟩
  simp only [size_overwrite]
  exact whole.2

theorem Whole.refusal_eq {memory : Memory} {size : Nat} (whole : memory.Whole size)
    {address length : Int} (first : 0 ≤ address) (counted : 0 ≤ length) :
    memory.refusal address length =
      if size < address + length then some (.outOfBounds address length size) else none := by
  have covers : memory.Covers address length ↔ ¬ (size < address + length) := by
    simp only [Covers, whole.1]
    omega
  simp only [refusal, whole.1, covers, ite_not]

theorem whole_blank (size : Nat) : (blank size).Whole size :=
  ⟨rfl, Array.size_replicate⟩

theorem whole_standard : standard.Whole 4096 :=
  whole_blank 4096

end Memory

namespace Display

/-- 32 rows of 64 bits. -/
structure WellFormed (display : Display) : Prop where
  count : display.rows.length = 32
  rows : ∀ row ∈ display.rows, State.fits 64 row

theorem WellFormed.blank : blank.WellFormed where
  count := rfl
  rows row member := by
    rw [List.eq_of_mem_replicate member]
    rfl

theorem spriteMask_lt {column : Nat} (inside : column < 64) (byte : UInt8) :
    spriteMask column byte < 1 <<< 64 := by
  have small : byte.toNat < 2 ^ 8 := byte.toNat_lt
  unfold spriteMask
  split
  · calc byte.toNat <<< (screenWidth - 8 - column)
        = byte.toNat * 2 ^ (56 - column) := Nat.shiftLeft_eq _ _
      _ < 2 ^ 8 * 2 ^ (56 - column) := Nat.mul_lt_mul_of_pos_right small (Nat.two_pow_pos _)
      _ = 2 ^ (8 + (56 - column)) := (Nat.pow_add _ _ _).symm
      _ ≤ 2 ^ 64 := Nat.pow_le_pow_right (by decide) (by omega)
  · calc byte.toNat >>> (column - (screenWidth - 8))
        ≤ byte.toNat := Nat.shiftRight_le _ _
      _ < 2 ^ 64 := Nat.lt_trans small (by decide)

theorem rows_drawInto {column : Nat} (inside : column < 64) (sprite : List UInt8)
    (rows : List Int) (bounded : ∀ row ∈ rows, State.fits 64 row) :
    ∀ row ∈ (drawInto column sprite rows).1, State.fits 64 row := by
  fun_induction drawInto column sprite rows with
  | case1 byte sprite row rows mask rest hit shape ih =>
    have drawn : State.fits 64 (Bits.xor row mask) :=
      Bits.fits_xor (bounded row (by simp)) (State.fits_iff.mpr
        ⟨Int.natCast_nonneg _, Int.ofNat_lt.mpr (spriteMask_lt inside byte)⟩)
    rw [shape] at ih
    intro other member
    rcases List.mem_cons.mp member with same | member
    · rw [same]
      exact drawn
    · exact ih (fun row member => bounded row (List.mem_cons_of_mem _ member)) other member
  | case2 => exact bounded

theorem WellFormed.draw {display : Display} (formed : display.WellFormed) (x y : Int)
    (sprite : List UInt8) : (display.draw x y sprite).1.WellFormed where
  count := (length_rows_draw display x y sprite).trans formed.count
  rows row member := by
    have inside : (x % screenWidth).toNat < 64 := by
      simp only [screenWidth]
      omega
    rcases List.mem_append.mp member with upper | lower
    · exact formed.rows row (List.mem_of_mem_take upper)
    · exact rows_drawInto inside sprite _
        (fun row member => formed.rows row (List.mem_of_mem_drop member)) row lower

end Display

namespace State

/-- What holds of every state that a machine comes to. Slots of the stack that are not in use may
hold anything. -/
structure WellFormed (state : State) : Prop where
  registerCount : state.registers.length = 16
  registers : ∀ value ∈ state.registers, fits 8 value
  index : fits 16 state.index
  counter : 0 ≤ state.pc ∧ state.pc ≤ 0x10FE
  slots : state.stack.length = 16
  depth : 0 ≤ state.sp ∧ state.sp ≤ 16
  active : ∀ number : Nat, number < state.sp → 2 ≤ state.slot number ∧ state.slot number ≤ 0x1000
  timers : fits 8 state.delayTimer ∧ fits 8 state.soundTimer
  keys : state.keys.length = 16
  cycles : 0 ≤ state.cycles
  memory : state.memory.Whole 4096
  display : state.display.WellFormed

variable {state : State}

theorem WellFormed.shaped (formed : state.WellFormed) : state.Shaped :=
  ⟨formed.registerCount, formed.slots, formed.keys, formed.depth⟩

theorem WellFormed.valid (formed : state.WellFormed) : state.valid = true := by
  have counter : fits 16 state.pc :=
    fits_iff.mpr ⟨formed.counter.1, by have := formed.counter; omega⟩
  simp only [State.valid, Bool.and_eq_true, beq_iff_eq, List.all_eq_true, decide_eq_true_eq]
  exact ⟨⟨⟨⟨⟨⟨⟨⟨⟨⟨formed.registerCount, formed.registers⟩, formed.index⟩, counter⟩, formed.slots⟩,
    formed.depth.1⟩, formed.depth.2⟩, formed.timers.1⟩, formed.timers.2⟩, formed.keys⟩,
    formed.cycles⟩

theorem WellFormed.register (formed : state.WellFormed) (number : Nat) :
    fits 8 (state.register number) :=
  fits_getD formed.registers number

theorem WellFormed.setRegister (formed : state.WellFormed) (number : Nat) {value : Int}
    (bounded : fits 8 value) : (state.setRegister number value).WellFormed :=
  { formed with
    registerCount := (formed.shaped.setRegister number value).registers
    registers := by
      intro other member
      rcases List.mem_or_eq_of_mem_set member with member | same
      · exact formed.registers other member
      · rw [same]
        exact bounded }

theorem WellFormed.setFlag (formed : state.WellFormed) (flag : Bool) :
    (state.setFlag flag).WellFormed :=
  formed.setRegister _ (by cases flag <;> rfl)

theorem WellFormed.setCounter (formed : state.WellFormed) {address : Int}
    (bounded : 0 ≤ address ∧ address ≤ 0x10FE) : { state with pc := address }.WellFormed :=
  { formed with counter := bounded }

theorem WellFormed.tick (formed : state.WellFormed) : state.tick.WellFormed :=
  { formed with
    timers := by
      obtain ⟨delay, sound⟩ := formed.timers
      simp only [fits_iff] at delay sound
      simp only [State.tick, fits_iff]
      omega }

theorem WellFormed.ticks (formed : state.WellFormed) (count : Int) :
    (state.ticks count).WellFormed := by
  unfold State.ticks
  induction count.toNat with
  | zero => exact formed
  | succ count ih => exact ih.tick

theorem WellFormed.ofProgram (program : List UInt8) : (ofProgram program).WellFormed where
  registerCount := rfl
  registers value member := by
    rw [List.eq_of_mem_replicate member]
    rfl
  index := rfl
  counter := (by decide : (0 : Int) ≤ programStart ∧ (programStart : Int) ≤ 0x10FE)
  slots := rfl
  depth := ⟨Int.le_refl 0, (by decide : (0 : Int) ≤ 16)⟩
  active number below := by
    simp only [State.ofProgram, State.blank] at below
    omega
  timers := ⟨rfl, rfl⟩
  keys := rfl
  cycles := Int.le_refl 0
  memory := Memory.whole_standard.load (by decide) program
  display := .blank

/-- A state whose counter stands behind an instruction that was fetched in bounds. -/
structure Fetched (state : State) : Prop extends state.WellFormed where
  behind : 2 ≤ state.pc ∧ state.pc ≤ 0x1000

theorem WellFormed.advance (formed : state.WellFormed) (inside : state.pc + 1 < 4096) :
    (state.advance 2).Fetched := by
  have counter := formed.counter
  have moved : (state.advance 2).pc = state.pc + 2 := by
    simp only [State.advance]
    omega
  exact { formed with counter := by omega, behind := by omega }

namespace Fetched

theorem skipIf (fetched : state.Fetched) (condition : Bool) :
    (state.skipIf condition).WellFormed := by
  have behind := fetched.behind
  cases condition with
  | false => exact fetched.toWellFormed
  | true =>
    apply fetched.toWellFormed.setCounter
    omega

theorem call (fetched : state.Fetched) (room : state.sp ≠ 16) {address : Int}
    (bounded : 0 ≤ address ∧ address ≤ 0x10FE) :
    { state with
      stack := state.stack.set state.sp.toNat (state.pc % 0x10000)
      sp := state.sp + 1
      pc := address }.WellFormed :=
  { fetched with
    counter := bounded
    slots := by rw [List.length_set, fetched.slots]
    depth := by
      have depth := fetched.depth
      exact show 0 ≤ state.sp + 1 ∧ state.sp + 1 ≤ 16 by omega
    active := by
      intro number below
      have below : (number : Int) < state.sp + 1 := below
      have behind := fetched.behind
      have depth := fetched.depth
      simp only [State.slot, List.getD_eq_getElem?_getD, List.getElem?_set, fetched.slots]
      by_cases top : state.sp.toNat = number
      · rw [if_pos top, if_pos (by omega), Option.getD_some]
        omega
      · rw [if_neg top, ← List.getD_eq_getElem?_getD]
        exact fetched.active number (by omega) }

theorem ret (fetched : state.Fetched) (pushed : state.sp ≠ 0) :
    { state with pc := state.slot (state.sp - 1).toNat, sp := state.sp - 1 }.WellFormed :=
  { fetched with
    counter := by
      have depth := fetched.depth
      have top := fetched.active (state.sp - 1).toNat (by omega)
      exact ⟨Int.le_trans (by decide) top.1, Int.le_trans top.2 (by decide)⟩
    depth := by
      have depth := fetched.depth
      exact show 0 ≤ state.sp - 1 ∧ state.sp - 1 ≤ 16 by omega
    active := by
      intro number below
      have below : (number : Int) < state.sp - 1 := below
      exact fetched.active number (by omega) }

end Fetched

end State

namespace Operation

open State

variable {state : State}

theorem arithmeticEffect_wellFormed (formed : state.WellFormed) (instruction : Instruction)
    (compute : Int → Int → Int × Bool) :
    (arithmeticEffect instruction compute state).WellFormed := by
  refine (formed.setRegister _ (fits_iff.mpr ?_)).setFlag _
  omega

theorem takeKeyEffect_wellFormed (fetched : state.Fetched) (instruction : Instruction) :
    (takeKeyEffect instruction state).WellFormed := by
  unfold takeKeyEffect
  split
  · rename_i held found
    have below : held < 16 := by
      rw [← fetched.keys]
      exact (List.idxOf?_eq_some_iff.mp found).1
    have stored := fetched.toWellFormed.setRegister instruction.x
      (fits_iff.mpr ⟨Int.natCast_nonneg held, by omega⟩)
    exact { stored with }
  · have behind := fetched.behind
    have rewound : (state.pc + -2) % 0x10000 = state.pc - 2 := by omega
    refine { fetched with counter := ?_ }
    simp only [State.advance, rewound]
    omega

theorem drawEffect_wellFormed (formed : state.WellFormed) (instruction : Instruction) :
    (drawEffect instruction state).WellFormed := by
  have flagged (hit : Bool) := formed.setFlag hit
  exact { flagged _ with display := formed.display.draw _ _ _ }

theorem loadEffect_wellFormed (formed : state.WellFormed) (instruction : Instruction)
    (granted : state.memory.refusal state.index (instruction.x + 1) = none) :
    (loadEffect instruction state).WellFormed := by
  have covered := Memory.refusal_eq_none.mp granted
  have whole : state.memory.bytes.size = state.memory.size :=
    formed.memory.2.trans formed.memory.1.symm
  have inside := instruction.x_lt
  refine { formed with registerCount := ?_, registers := ?_ }
  · simp only [loadEffect, List.length_append, List.length_map, Memory.length_block whole covered,
      List.length_drop, formed.registerCount]
    omega
  · intro value member
    rcases List.mem_append.mp member with loaded | old
    · obtain ⟨byte, _, rfl⟩ := List.mem_map.mp loaded
      have small := byte.toNat_lt
      exact fits_iff.mpr ⟨Int.natCast_nonneg _, by omega⟩
    · exact formed.registers value (List.mem_of_mem_drop old)

/-- Every operation that is not refused leads from an instruction fetched in bounds to a
well-formed state. -/
theorem effect_wellFormed (fetched : state.Fetched) (instruction : Instruction)
    (operation : Operation) (granted : operation.refusal instruction state = none) :
    (operation.effect instruction state).WellFormed := by
  have formed := fetched.toWellFormed
  have vx := formed.register instruction.x
  have vy := formed.register instruction.y
  have setX {value : Int} (bounded : fits 8 value) := formed.setRegister instruction.x bounded
  have nnn : 0 ≤ (instruction.nnn : Int) ∧ (instruction.nnn : Int) < 0x1000 :=
    ⟨Int.natCast_nonneg _, Int.ofNat_lt.mpr instruction.nnn_lt⟩
  cases operation with
  | clearScreen => exact { formed with display := .blank }
  | ret => exact fetched.ret (by simpa [refusal] using granted)
  | jump => exact formed.setCounter ⟨nnn.1, by omega⟩
  | call => exact fetched.call (by simpa [refusal] using granted) ⟨nnn.1, by omega⟩
  | jumpOffset =>
    have first := fits_iff.mp (formed.register 0)
    exact formed.setCounter (by omega)
  | skipEqualByte | skipUnequalByte | skipEqual | skipUnequal | skipHeld | skipReleased =>
    exact fetched.skipIf _
  | loadByte => exact setX (fits_iff.mpr ⟨Int.natCast_nonneg _, Int.ofNat_lt.mpr instruction.nn_lt⟩)
  | addByte => exact setX (fits_iff.mpr (by omega))
  | copy => exact setX vy
  | or => exact setX (Bits.fits_or vx vy)
  | and => exact setX (Bits.fits_and vx vy)
  | xor => exact setX (Bits.fits_xor vx vy)
  | add | subtract | subtractFrom =>
    simp only [effect]
    exact arithmeticEffect_wellFormed formed instruction _
  | shiftRight =>
    rw [fits_iff] at vx
    exact (setX (fits_iff.mpr (by omega))).setFlag _
  | shiftLeft => exact (setX (fits_iff.mpr (by omega))).setFlag _
  | loadIndex =>
    have index : fits 16 (instruction.nnn : Int) := fits_iff.mpr ⟨nnn.1, by omega⟩
    exact { formed with index }
  | draw => exact drawEffect_wellFormed formed instruction
  | awaitKey => exact takeKeyEffect_wellFormed fetched instruction
  | readDelay => exact setX formed.timers.1
  | setDelay => exact { formed with timers := ⟨vx, formed.timers.2⟩ }
  | setSound => exact { formed with timers := ⟨formed.timers.1, vx⟩ }
  | addIndex =>
    have index : fits 16 ((state.index + state.register instruction.x) % 0x10000) :=
      fits_iff.mpr (by omega)
    exact { formed with index }
  | storeDecimal | storeRegisters => exact { formed with memory := formed.memory.putBlock _ _ }
  | loadRegisters => exact loadEffect_wellFormed formed instruction granted
  | unknown => exact formed

theorem spoiled_wellFormed (formed : state.WellFormed) (operation : Operation) :
    (operation.spoiled state).WellFormed := by
  cases operation with
  | draw => exact formed.setFlag false
  | _ => exact formed

end Operation

end ChipEight
