import ChipEight.Proofs.Actions
import ChipEight.Proofs.Decoding

/-! Operations as functions of the state: refused with a fault, or with an effect that can be
written down. -/

namespace ChipEight.Operation

open ChipEight.Action

def combineEffect (instruction : Instruction) (combine : Int → Int → Int) (state : State) :
    State :=
  state.setRegister instruction.x
    (combine (state.register instruction.x) (state.register instruction.y))

def arithmeticEffect (instruction : Instruction) (compute : Int → Int → Int × Bool)
    (state : State) : State :=
  let (result, flag) := compute (state.register instruction.x) (state.register instruction.y)
  (state.setRegister instruction.x (result % 256)).setFlag flag

def shiftRightEffect (instruction : Instruction) (state : State) : State :=
  let value := state.register instruction.x
  (state.setRegister instruction.x (value / 2)).setFlag (value % 2 == 1)

def shiftLeftEffect (instruction : Instruction) (state : State) : State :=
  let value := state.register instruction.x
  (state.setRegister instruction.x (value * 2 % 256)).setFlag (value / 128 % 2 == 1)

def skipEffect (instruction : Instruction) (condition : Int → Int → Bool) (state : State) :
    State :=
  state.skipIf (condition (state.register instruction.x) (state.register instruction.y))

/-- How many rows of a sprite land on the screen. -/
def visibleRows (instruction : Instruction) (state : State) : Int :=
  min (instruction.n : Int) (screenHeight - state.register instruction.y % screenHeight)

def drawEffect (instruction : Instruction) (state : State) : State :=
  let sprite := state.memory.block state.index (visibleRows instruction state)
  let (display, hit) :=
    state.display.draw (state.register instruction.x % screenWidth)
      (state.register instruction.y % screenHeight) sprite
  { state.setFlag hit with display }

/-- Whether the key that a register names is held. -/
def keyHeld (instruction : Instruction) (state : State) : Bool :=
  state.keys.getD (state.register instruction.x % 16).toNat false

def takeKeyEffect (instruction : Instruction) (state : State) : State :=
  match state.keys.idxOf? true with
  | some held => { state.setRegister instruction.x held with awaitingKey := false }
  | none => State.advance (-2) { state with awaitingKey := true }

def loadEffect (instruction : Instruction) (state : State) : State :=
  let block := state.memory.block state.index (instruction.x + 1)
  { state with
    registers :=
      block.map (fun byte => (byte.toNat : Int)) ++ state.registers.drop (instruction.x + 1) }

/-- What an operation does to a state when it is not refused. -/
def effect (instruction : Instruction) (state : State) (operation : Operation) : State :=
  let vx := state.register instruction.x
  let vy := state.register instruction.y
  match operation with
  | clearScreen => { state with display := Display.blank }
  | ret => { state with pc := state.slot (state.sp - 1).toNat, sp := state.sp - 1 }
  | jump => { state with pc := instruction.nnn }
  | call =>
    { state with
      stack := state.stack.set state.sp.toNat (state.pc % 0x10000)
      sp := state.sp + 1
      pc := instruction.nnn }
  | jumpOffset => { state with pc := state.register 0 + instruction.nnn }
  | skipEqualByte => state.skipIf (vx == instruction.nn)
  | skipUnequalByte => state.skipIf (vx != instruction.nn)
  | skipEqual => skipEffect instruction (· == ·) state
  | skipUnequal => skipEffect instruction (· != ·) state
  | loadByte => state.setRegister instruction.x instruction.nn
  | addByte => state.setRegister instruction.x ((vx + instruction.nn) % 256)
  | copy => state.setRegister instruction.x vy
  | or => combineEffect instruction Bits.or state
  | and => combineEffect instruction Bits.and state
  | xor => combineEffect instruction Bits.xor state
  | add =>
    arithmeticEffect instruction (fun left right => (left + right, 0xFF < left + right)) state
  | subtract =>
    arithmeticEffect instruction (fun left right => (left - right, right ≤ left)) state
  | shiftRight => shiftRightEffect instruction state
  | subtractFrom =>
    arithmeticEffect instruction (fun left right => (right - left, left ≤ right)) state
  | shiftLeft => shiftLeftEffect instruction state
  | loadIndex => { state with index := instruction.nnn }
  | draw => drawEffect instruction state
  | skipHeld => state.skipIf (keyHeld instruction state)
  | skipReleased => state.skipIf (!keyHeld instruction state)
  | awaitKey => takeKeyEffect instruction state
  | readDelay => state.setRegister instruction.x state.delayTimer
  | setDelay => { state with delayTimer := vx }
  | setSound => { state with soundTimer := vx }
  | addIndex => { state with index := (state.index + vx) % 0x10000 }
  | storeDecimal =>
    { state with memory := state.memory.putBlock state.index (decimalDigits vx) }
  | storeRegisters =>
    { state with
      memory := state.memory.putBlock state.index (state.registers.take (instruction.x + 1)) }
  | loadRegisters => loadEffect instruction state
  | unknown => state

/-- The fault that an operation is refused with, if it is. -/
def refusal (instruction : Instruction) (state : State) (operation : Operation) : Option Fault :=
  match operation with
  | ret => if state.sp = 0 then some .stackUnderflow else none
  | call => if state.sp = 16 then some (.stackOverflow 16) else none
  | draw =>
    if visibleRows instruction state = 0 then none
    else state.memory.refusal state.index (visibleRows instruction state)
  | storeDecimal => state.memory.refusal state.index 3
  | storeRegisters | loadRegisters => state.memory.refusal state.index (instruction.x + 1)
  | _ => none

/-- What a refused operation leaves behind: drawing has cleared the flag by then. -/
def spoiled (state : State) : Operation → State
  | draw => state.setFlag false
  | _ => state

variable {state : State}

theorem run_combine (sixteen : state.registers.length = 16) (instruction : Instruction)
    (operator : Int → Int → Int) :
    (combine instruction operator).run state =
      .ok () (combineEffect instruction operator state) := by
  simp [combine, combineEffect, run_register sixteen instruction.x_lt,
    run_register sixteen instruction.y_lt, run_setRegister sixteen instruction.x_lt]

theorem run_setFlag_setRegister (sixteen : state.registers.length = 16) (number : Nat)
    (value : Int) (flag : Bool) :
    (setFlag flag).run (state.setRegister number value) =
      .ok () ((state.setRegister number value).setFlag flag) :=
  run_setFlag ((state.length_setRegister number value).trans sixteen) flag

theorem run_arithmetic (sixteen : state.registers.length = 16) (instruction : Instruction)
    (compute : Int → Int → Int × Bool) :
    (arithmetic instruction compute).run state =
      .ok () (arithmeticEffect instruction compute state) := by
  simp [arithmetic, arithmeticEffect, run_register sixteen instruction.x_lt,
    run_register sixteen instruction.y_lt, run_setRegister sixteen instruction.x_lt,
    run_setFlag_setRegister sixteen]

theorem run_shiftRightOne (sixteen : state.registers.length = 16) (instruction : Instruction) :
    (shiftRightOne instruction).run state = .ok () (shiftRightEffect instruction state) := by
  simp [shiftRightOne, shiftRightEffect, run_register sixteen instruction.x_lt,
    run_setRegister sixteen instruction.x_lt, run_setFlag_setRegister sixteen]

theorem run_shiftLeftOne (sixteen : state.registers.length = 16) (instruction : Instruction) :
    (shiftLeftOne instruction).run state = .ok () (shiftLeftEffect instruction state) := by
  simp [shiftLeftOne, shiftLeftEffect, run_register sixteen instruction.x_lt,
    run_setRegister sixteen instruction.x_lt, run_setFlag_setRegister sixteen]

/-- The operations that compute a register from registers. -/
def isArithmetic : Operation → Bool
  | addByte | copy | or | and | xor | add | subtract | shiftRight | subtractFrom | shiftLeft => true
  | _ => false

theorem perform_of_isArithmetic (sixteen : state.registers.length = 16) (instruction : Instruction)
    {operation : Operation} (arithmetical : operation.isArithmetic = true) :
    (operation.perform instruction).run state =
      .ok () (operation.effect instruction state) := by
  have vx := run_register sixteen instruction.x_lt
  have vy := run_register sixteen instruction.y_lt
  have setX := run_setRegister sixteen instruction.x_lt
  cases operation with
  | addByte | copy => simp [perform, effect, vx, vy, setX]
  | or | and | xor => simp only [perform, effect, run_combine sixteen]
  | add | subtract | subtractFrom => simp only [perform, effect, run_arithmetic sixteen]
  | shiftRight => exact run_shiftRightOne sixteen instruction
  | shiftLeft => exact run_shiftLeftOne sixteen instruction
  | _ => cases arithmetical

theorem run_skipWhen (shaped : state.Shaped) (instruction : Instruction)
    (condition : Int → Int → Bool) :
    (skipWhen instruction condition).run state =
      .ok () (skipEffect instruction condition state) := by
  simp [skipWhen, skipEffect, run_register shaped.registers instruction.x_lt,
    run_register shaped.registers instruction.y_lt, run_skipIf]

theorem run_heldKey (shaped : state.Shaped) (instruction : Instruction) :
    (heldKey instruction).run state = .ok (keyHeld instruction state) state := by
  have inside : (state.register instruction.x % 16).toNat < 16 := by omega
  simp [heldKey, keyHeld, run_register shaped.registers instruction.x_lt, run_key shaped inside]

theorem run_takeKey (shaped : state.Shaped) (instruction : Instruction) :
    (takeKey instruction).run state = .ok () (takeKeyEffect instruction state) := by
  cases found : state.keys.idxOf? true with
  | none => simp [takeKey, takeKeyEffect, found]
  | some held =>
    simp [takeKey, takeKeyEffect, found, run_setRegister shaped.registers instruction.x_lt]

theorem run_drawSprite (shaped : state.Shaped) (instruction : Instruction) :
    (drawSprite instruction).run state =
      match refusal instruction state draw with
      | none => .ok () (drawEffect instruction state)
      | some fault => .error (.fault fault) (state.setFlag false) := by
  have rows : min (instruction.n : Int)
      (screenHeight - state.register instruction.y % screenHeight) =
        visibleRows instruction state := rfl
  simp only [drawSprite, EStateM.run_bind, run_register shaped.registers instruction.x_lt,
    run_register shaped.registers instruction.y_lt, run_setFlag shaped.registers, rows]
  by_cases nothing : visibleRows instruction state = 0
  · simp [nothing, refusal, drawEffect, Memory.block_zero, Display.draw_nil]
    rfl
  · simp only [nothing, refusal, run_readBlock, EStateM.run_get, ne_eq, not_false_eq_true,
      if_true, EStateM.run_bind, if_false, State.setFlag, State.setRegister]
    cases state.memory.refusal state.index (visibleRows instruction state) with
    | some fault => rfl
    | none =>
      rcases drawn : state.display.draw (state.register instruction.x % screenWidth)
        (state.register instruction.y % screenHeight)
        (state.memory.block state.index (visibleRows instruction state)) with ⟨display, _ | _⟩
      · simp [drawEffect, drawn, State.setFlag, State.setRegister]
      · simp [drawEffect, drawn, State.setFlag, State.setRegister, setFlag, setRegister,
          shaped.registers]

theorem length_stored (sixteen : state.registers.length = 16) (instruction : Instruction) :
    ((state.registers.take (instruction.x + 1)).length : Int) = instruction.x + 1 := by
  have inside := instruction.x_lt
  rw [List.length_take, sixteen]
  omega

/-- An operation with every register it names is refused as `refusal` says, or has its effect. -/
theorem perform_eq (shaped : state.Shaped) (instruction : Instruction) (operation : Operation) :
    (operation.perform instruction).run state =
      match operation.refusal instruction state with
      | none => .ok () (operation.effect instruction state)
      | some fault => .error (.fault fault) (operation.spoiled state) := by
  have vx := run_register shaped.registers instruction.x_lt
  have setX := run_setRegister shaped.registers instruction.x_lt
  cases operation with
  | ret =>
    by_cases empty : state.sp = 0 <;>
      simp [perform, effect, refusal, spoiled, run_pop shaped, empty, run_jump]
  | call =>
    by_cases full : state.sp = 16 <;>
      simp [perform, effect, refusal, spoiled, run_push shaped, full, run_jump]
  | draw => exact run_drawSprite shaped instruction
  | awaitKey => exact run_takeKey shaped instruction
  | addByte | copy | or | and | xor | add | subtract | shiftRight | subtractFrom | shiftLeft =>
    exact perform_of_isArithmetic shaped.registers instruction rfl
  | storeDecimal =>
    cases refused : state.memory.refusal state.index 3 <;>
      simp [perform, refusal, effect, spoiled, vx, run_writeBlock, decimalDigits, refused]
  | storeRegisters =>
    have count := length_stored shaped.registers instruction
    cases refused : state.memory.refusal state.index (instruction.x + 1) <;>
      simp only [perform, refusal, effect, spoiled, EStateM.run_bind, EStateM.run_get,
        run_writeBlock, count, refused]
  | loadRegisters =>
    cases refused : state.memory.refusal state.index (instruction.x + 1) <;>
      simp [perform, refusal, effect, spoiled, loadEffect, run_readBlock, refused]
  | jumpOffset =>
    simp [perform, effect, refusal, run_register shaped.registers (show 0 < 16 by decide), run_jump]
  | _ =>
    simp [perform, effect, refusal, vx, setX, run_jump, run_skipIf, run_skipWhen shaped,
      run_heldKey shaped]

theorem execute_eq (shaped : state.Shaped) (instruction : Instruction) (operation : Operation) :
    (operation.execute instruction).run state =
      match operation.refusal instruction state with
      | none =>
        .ok () { operation.effect instruction state with
          cycles := (operation.effect instruction state).cycles + 1 }
      | some fault => .error (.fault fault) (operation.spoiled state) := by
  simp only [execute, EStateM.run_bind, perform_eq shaped]
  cases operation.refusal instruction state <;> rfl

theorem run_executeWord {word : Nat} (short : word < 0x10000) {operation : Operation}
    (spelled : Instruction.Spells word operation) (strict : Bool) (state : State) :
    (executeWord strict word).run state =
      match (operation.execute (.ofWord word)).run (state.advance 2) with
      | .ok _ after => .ok operation after
      | .error error after => .error error after := by
  have found := Instruction.operation?_of_spells short spelled
  have decoded : decode strict word = .ok (operation, .ofWord word) := by
    simp only [decode, found]
  simp only [executeWord, EStateM.run_bind, EStateM.run_modify, decoded]
  cases (operation.execute (.ofWord word)).run (state.advance 2) <;> rfl

/-- Executing a word that spells an operation is refused as the operation is, with the counter
behind the word, or has its effect and is counted. -/
theorem run_executeWord_eq (shaped : state.Shaped) {word : Nat} (short : word < 0x10000)
    {operation : Operation} (spelled : Instruction.Spells word operation) (strict : Bool) :
    (executeWord strict word).run state =
      match operation.refusal (.ofWord word) (state.advance 2) with
      | none =>
        .ok operation { operation.effect (.ofWord word) (state.advance 2) with
          cycles := (operation.effect (.ofWord word) (state.advance 2)).cycles + 1 }
      | some fault => .error (.fault fault) (operation.spoiled (state.advance 2)) := by
  have advanced : (state.advance 2).Shaped := { shaped with }
  rw [run_executeWord short spelled, execute_eq advanced]
  cases operation.refusal (.ofWord word) (state.advance 2) <;> rfl

end ChipEight.Operation
