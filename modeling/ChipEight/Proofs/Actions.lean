import ChipEight.Machine.OperationTable

/-! What the elementary actions do to a state that has all its registers, stack slots and keys.
Each is worked out once, so that no later proof opens an action again. -/

namespace ChipEight

namespace State

/-- A register, 0 where there is none. -/
def register (state : State) (number : Nat) : Int :=
  state.registers.getD number 0

/-- The return address in a slot, 0 where there is none. -/
def slot (state : State) (number : Nat) : Int :=
  state.stack.getD number 0

def setRegister (number : Nat) (value : Int) (state : State) : State :=
  { state with registers := state.registers.set number value }

def setFlag (flag : Bool) (state : State) : State :=
  state.setRegister 0xF (if flag then 1 else 0)

def skipIf (condition : Bool) (state : State) : State :=
  if condition then state.advance 2 else state

/-- No register, slot or key that an operation can name is missing. -/
structure Shaped (state : State) : Prop where
  registers : state.registers.length = 16
  stack : state.stack.length = 16
  keys : state.keys.length = 16
  depth : 0 ≤ state.sp ∧ state.sp ≤ 16

theorem length_setRegister (state : State) (number : Nat) (value : Int) :
    (state.setRegister number value).registers.length = state.registers.length :=
  List.length_set

theorem register_setRegister {state : State} {number : Nat}
    (inside : number < state.registers.length)
    (value : Int) (other : Nat) :
    (state.setRegister number value).register other =
      if number = other then value else state.register other := by
  simp only [State.register, State.setRegister, List.getD_eq_getElem?_getD, List.getElem?_set,
    inside, if_true]
  split <;> rfl

theorem Shaped.setRegister {state : State} (shaped : state.Shaped) (number : Nat) (value : Int) :
    (state.setRegister number value).Shaped where
  registers := (length_setRegister state number value).trans shaped.registers
  stack := shaped.stack
  keys := shaped.keys
  depth := shaped.depth

end State

namespace Memory

/-- The fault that an access is refused with. -/
def refusal (memory : Memory) (address length : Int) : Option Fault :=
  if memory.Covers address length then none
  else some (.outOfBounds address length memory.size)

theorem refusal_eq_none {memory : Memory} {address length : Int} :
    memory.refusal address length = none ↔ memory.Covers address length := by
  by_cases covered : memory.Covers address length <;> simp [refusal, covered]

/-- Bytes one after the other from an address on. -/
def block (memory : Memory) (address length : Int) : List UInt8 :=
  (memory.bytes.extract address.toNat (address + length).toNat).toList

def putBlock (memory : Memory) (address : Int) (values : List Int) : Memory :=
  { memory with bytes := overwrite memory.bytes address.toNat (values.map lowByte) }

/-- The word at an address, its first byte being the high one. -/
def wordAt (memory : Memory) (address : Nat) : Nat :=
  (memory.byteAt address).toNat * 256 + (memory.byteAt (address + 1)).toNat

theorem wordAt_lt (memory : Memory) (address : Nat) : memory.wordAt address < 0x10000 := by
  have high := (memory.byteAt address).toNat_lt
  have low := (memory.byteAt (address + 1)).toNat_lt
  simp only [wordAt]
  omega

theorem check_bind (memory : Memory) (address length : Int) (act : Unit → Except Fault α) :
    (memory.check address length >>= act) =
      match memory.refusal address length with
      | none => act ()
      | some fault => .error fault := by
  by_cases covered : memory.Covers address length <;>
    simp [check, refusal, covered, bind, Except.bind]

theorem read_eq {memory : Memory} {address : Int} (covered : memory.Covers address 1) :
    memory.read address = .ok (memory.byteAt address.toNat) := by
  rw [read, check_bind, refusal_eq_none.mpr covered]
  rfl

theorem readWord_eq {memory : Memory} {address : Int} (covered : memory.Covers address 2) :
    memory.readWord address = .ok (memory.wordAt address.toNat) := by
  rw [readWord, check_bind, refusal_eq_none.mpr covered]
  rfl

theorem readBlock_eq (memory : Memory) (address length : Int) :
    memory.readBlock address length =
      match memory.refusal address length with
      | none => .ok (memory.block address length)
      | some fault => .error fault :=
  check_bind memory address length _

theorem writeBlock_eq (memory : Memory) (address : Int) (values : List Int) :
    memory.writeBlock address values =
      match memory.refusal address values.length with
      | none => .ok (memory.putBlock address values)
      | some fault => .error fault :=
  check_bind memory address values.length _

theorem toNat_lowByte_emod (value : Int) : (lowByte value).toNat = (value % 256).toNat := by
  simp only [lowByte, UInt8.toNat_ofNat']
  omega

theorem block_zero (memory : Memory) (address : Int) : memory.block address 0 = [] := by
  simp [block]

theorem length_block {memory : Memory} {address length : Int}
    (whole : memory.bytes.size = memory.size) (covered : memory.Covers address length) :
    (memory.block address length).length = length.toNat := by
  obtain ⟨first, count, last⟩ := covered
  simp only [block, Array.length_toList, Array.size_extract, whole]
  omega

theorem block_eq_map {memory : Memory} {address : Int} {count : Nat}
    (whole : memory.bytes.size = memory.size) (covered : memory.Covers address count) :
    memory.block address count =
      (List.range count).map fun offset => memory.byteAt (address.toNat + offset) := by
  have long := length_block whole covered
  obtain ⟨first, _, last⟩ := covered
  refine List.ext_getElem (by simp [long]) fun offset inside inside' => ?_
  have stored : address.toNat + offset < memory.bytes.size := by omega
  simp only [block, byteAt, Array.getElem_toList, Array.getElem_extract, List.getElem_map,
    List.getElem_range, Array.getD_eq_getD_getElem?]
  rw [Array.getElem?_eq_getElem stored, Option.getD_some]

theorem byteAt_putBlock {memory : Memory} {address : Int} {values : List Int}
    (whole : memory.bytes.size = memory.size) (covered : memory.Covers address values.length)
    (other : Nat) :
    (memory.putBlock address values).byteAt other =
      if address ≤ other ∧ other < address + values.length then
        lowByte (values.getD (other - address.toNat) 0)
      else memory.byteAt other := by
  obtain ⟨first, _, last⟩ := covered
  have room : address.toNat + (values.map lowByte).length ≤ memory.bytes.size := by
    rw [List.length_map]
    omega
  simp only [putBlock, byteAt, Array.getD_eq_getD_getElem?, getElem?_overwrite _ _ _ _ room,
    List.length_map]
  by_cases inside : address ≤ other ∧ other < address + values.length
  · have position : other - address.toNat < values.length := by omega
    rw [if_pos (by omega), if_pos inside]
    simp [List.getD_eq_getElem?_getD, position]
  · rw [if_neg (by omega), if_neg inside]

end Memory

theorem Display.draw_nil (display : Display) (x y : Int) :
    display.draw x y [] = (display, false) := by
  simp [draw, drawInto]

namespace Action

variable {state : State}

theorem run_register (sixteen : state.registers.length = 16) {number : Nat}
    (inside : number < 16) :
    (register number).run state = .ok (state.register number) state := by
  have found : state.registers[number]? = some (state.register number) := by
    rw [State.register, List.getD_eq_getElem?_getD,
      List.getElem?_eq_getElem (by rw [sixteen]; exact inside)]
    rfl
  simp only [register, EStateM.run_bind, EStateM.run_get, found, EStateM.run_pure]

theorem run_setRegister (sixteen : state.registers.length = 16) {number : Nat}
    (inside : number < 16) (value : Int) :
    (setRegister number value).run state = .ok () (state.setRegister number value) := by
  simp [setRegister, State.setRegister, sixteen, inside]

theorem run_setFlag (sixteen : state.registers.length = 16) (flag : Bool) :
    (setFlag flag).run state = .ok () (state.setFlag flag) :=
  run_setRegister sixteen (by decide) _

theorem run_jump (address : Int) :
    (jump address).run state = .ok () { state with pc := address } := rfl

theorem run_skipIf (condition : Bool) :
    (skipIf condition).run state = .ok () (state.skipIf condition) := by
  cases condition <;> rfl

theorem run_key (shaped : state.Shaped) {number : Nat} (inside : number < 16) :
    (key number).run state = .ok (state.keys.getD number false) state := by
  have found : state.keys[number]? = some (state.keys.getD number false) := by
    rw [List.getD_eq_getElem?_getD, List.getElem?_eq_getElem (by rw [shaped.keys]; exact inside)]
    rfl
  simp only [key, EStateM.run_bind, EStateM.run_get, found, EStateM.run_pure]

theorem run_setKeys (keys : List Bool) :
    (setKeys keys).run state =
      if keys.length = 16 then .ok () { state with keys }
      else .error (.keyCount keys.length) state := by
  by_cases sixteen : keys.length = 16 <;> simp [setKeys, sixteen]

theorem run_push (shaped : state.Shaped) (address : Int) :
    (push address).run state =
      if state.sp = 16 then .error (.fault (.stackOverflow 16)) state
      else .ok ()
        { state with
          stack := state.stack.set state.sp.toNat (address % 0x10000)
          sp := state.sp + 1 } := by
  obtain ⟨low, high⟩ := shaped.depth
  by_cases full : state.sp = 16
  · simp [push, full]
  · have room : ¬ (16 ≤ state.sp) := by omega
    have position : Slots.position? state.stack.length state.sp = some state.sp.toNat := by
      simp [Slots.position?, shaped.stack]
      omega
    simp [push, full, room, Slots.set?, position]

theorem run_pop (shaped : state.Shaped) :
    pop.run state =
      if state.sp = 0 then .error (.fault .stackUnderflow) state
      else .ok (state.slot (state.sp - 1).toNat) { state with sp := state.sp - 1 } := by
  obtain ⟨low, high⟩ := shaped.depth
  by_cases empty : state.sp = 0
  · simp [pop, empty]
  · have found : Slots.get? state.stack (state.sp - 1) =
        some (state.slot (state.sp - 1).toNat) := by
      obtain ⟨below, same⟩ := Int.eq_ofNat_of_zero_le (show 0 ≤ state.sp - 1 by omega)
      have inside : below < state.stack.length := by rw [shaped.stack]; omega
      rw [same, Slots.get?_ofNat, State.slot]
      simp [inside]
    simp only [pop, EStateM.run_bind, EStateM.run_get, empty, if_false, EStateM.run_pure,
      EStateM.run_set, found]

theorem run_readBlock (address length : Int) :
    (readBlock address length).run state =
      match state.memory.refusal address length with
      | none => .ok (state.memory.block address length) state
      | some fault => .error (.fault fault) state := by
  simp only [readBlock, EStateM.run_bind, EStateM.run_get, Memory.readBlock_eq]
  cases state.memory.refusal address length <;> rfl

theorem run_writeBlock (address : Int) (values : List Int) :
    (writeBlock address values).run state =
      match state.memory.refusal address values.length with
      | none => .ok () { state with memory := state.memory.putBlock address values }
      | some fault => .error (.fault fault) state := by
  simp only [writeBlock, EStateM.run_bind, EStateM.run_get, Memory.writeBlock_eq]
  cases state.memory.refusal address values.length <;> rfl

end Action

end ChipEight
