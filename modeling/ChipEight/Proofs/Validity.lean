import ChipEight.Proofs.CallStack

namespace ChipEight

namespace State

/-- All that validity asks for except the counter, over a memory that has all its bytes. -/
structure Sized (state : State) : Prop where
  registerCount : state.registers.length = 16
  registers : ∀ value ∈ state.registers, fits 8 value
  index : fits 16 state.index
  slots : state.stack.length = 16
  depth : 0 ≤ state.sp ∧ state.sp ≤ 16
  delay : fits 8 state.delayTimer
  sound : fits 8 state.soundTimer
  keys : state.keys.length = 16
  cycles : 0 ≤ state.cycles
  memory : state.memory.Whole 4096

/-- The slots in use hold addresses of sixteen bits. -/
def Addressed (state : State) : Prop :=
  ∀ number : Nat, (number : Int) < state.sp → fits 16 (state.slot number)

variable {state : State}

theorem valid_iff (whole : state.memory.Whole 4096) :
    state.valid = true ↔ state.Sized ∧ fits 16 state.pc = true := by
  simp only [State.valid, Bool.and_eq_true, beq_iff_eq, List.all_eq_true, decide_eq_true_eq]
  constructor
  · rintro ⟨⟨⟨⟨⟨⟨⟨⟨⟨⟨registerCount, registers⟩, index⟩, counter⟩, slots⟩, low⟩, high⟩, delay⟩,
      sound⟩, keys⟩, cycles⟩
    exact ⟨⟨registerCount, registers, index, slots, ⟨low, high⟩, delay, sound, keys, cycles,
      whole⟩, counter⟩
  · rintro ⟨sized, counter⟩
    exact ⟨⟨⟨⟨⟨⟨⟨⟨⟨⟨sized.registerCount, sized.registers⟩, sized.index⟩, counter⟩, sized.slots⟩,
      sized.depth.1⟩, sized.depth.2⟩, sized.delay⟩, sized.sound⟩, sized.keys⟩, sized.cycles⟩

namespace Sized

theorem shaped (sized : state.Sized) : state.Shaped :=
  ⟨sized.registerCount, sized.slots, sized.keys, sized.depth⟩

theorem register (sized : state.Sized) (number : Nat) : fits 8 (state.register number) :=
  fits_getD sized.registers number

theorem setRegister (sized : state.Sized) (number : Nat) {value : Int} (bounded : fits 8 value) :
    (state.setRegister number value).Sized :=
  { sized with
    registerCount := (sized.shaped.setRegister number value).registers
    registers := by
      intro other member
      rcases List.mem_or_eq_of_mem_set member with member | same
      · exact sized.registers other member
      · rw [same]
        exact bounded }

theorem setFlag (sized : state.Sized) (flag : Bool) : (state.setFlag flag).Sized :=
  sized.setRegister _ (by cases flag <;> rfl)

theorem skipIf (sized : state.Sized) (condition : Bool) : (state.skipIf condition).Sized := by
  cases condition with
  | false => exact sized
  | true => exact { sized with }

end Sized

theorem fits_advance (amount : Int) (state : State) : fits 16 (state.advance amount).pc := by
  refine fits_iff.mpr ?_
  simp only [State.advance]
  omega

theorem fits_skipIf (counter : fits 16 state.pc) (condition : Bool) :
    fits 16 (state.skipIf condition).pc := by
  cases condition with
  | false => exact counter
  | true => exact state.fits_advance 2

end State

namespace Operation

open State

variable {state : State}

theorem takeKeyEffect_sized (sized : state.Sized) (instruction : Instruction) :
    (takeKeyEffect instruction state).Sized := by
  unfold takeKeyEffect
  split
  · rename_i held found
    have below : held < 16 := by
      rw [← sized.keys]
      exact (List.idxOf?_eq_some_iff.mp found).1
    have stored := sized.setRegister instruction.x
      (fits_iff.mpr ⟨Int.natCast_nonneg held, by omega⟩)
    exact { stored with }
  · exact { sized with }

theorem loadEffect_sized (sized : state.Sized) (instruction : Instruction)
    (granted : state.memory.refusal state.index (instruction.x + 1) = none) :
    (loadEffect instruction state).Sized := by
  have covered := Memory.refusal_eq_none.mp granted
  have whole : state.memory.bytes.size = state.memory.size :=
    sized.memory.2.trans sized.memory.1.symm
  have inside := instruction.x_lt
  refine { sized with registerCount := ?_, registers := ?_ }
  · simp only [loadEffect, List.length_append, List.length_map, Memory.length_block whole covered,
      List.length_drop, sized.registerCount]
    omega
  · intro value member
    rcases List.mem_append.mp member with loaded | old
    · obtain ⟨byte, _, rfl⟩ := List.mem_map.mp loaded
      have small := byte.toNat_lt
      exact fits_iff.mpr ⟨Int.natCast_nonneg _, by omega⟩
    · exact sized.registers value (List.mem_of_mem_drop old)

theorem effect_sized (sized : state.Sized) (instruction : Instruction) (operation : Operation)
    (granted : operation.refusal instruction state = none) :
    (operation.effect instruction state).Sized := by
  have vx := sized.register instruction.x
  have vy := sized.register instruction.y
  have depth := sized.depth
  have setX {value : Int} (bounded : fits 8 value) := sized.setRegister instruction.x bounded
  have cut (value : Int) : fits 8 (value % 256) := fits_iff.mpr (by omega)
  cases operation with
  | clearScreen | jump | jumpOffset | unknown => exact { sized with }
  | ret =>
    have pushed : state.sp ≠ 0 := by simpa [refusal] using granted
    exact { sized with depth := show 0 ≤ state.sp - 1 ∧ state.sp - 1 ≤ 16 by omega }
  | call =>
    have room : state.sp ≠ 16 := by simpa [refusal] using granted
    exact
      { sized with
        slots := (List.length_set ..).trans sized.slots
        depth := show 0 ≤ state.sp + 1 ∧ state.sp + 1 ≤ 16 by omega }
  | skipEqualByte | skipUnequalByte | skipEqual | skipUnequal | skipHeld | skipReleased =>
    exact sized.skipIf _
  | loadByte => exact setX (fits_iff.mpr ⟨Int.natCast_nonneg _, Int.ofNat_lt.mpr instruction.nn_lt⟩)
  | addByte => exact setX (cut _)
  | copy => exact setX vy
  | or => exact setX (Bits.fits_or vx vy)
  | and => exact setX (Bits.fits_and vx vy)
  | xor => exact setX (Bits.fits_xor vx vy)
  | add | subtract | subtractFrom | shiftLeft => exact (setX (cut _)).setFlag _
  | shiftRight =>
    rw [fits_iff] at vx
    exact (setX (fits_iff.mpr (by omega))).setFlag _
  | loadIndex =>
    have bounded := instruction.nnn_lt
    have index : fits 16 (instruction.nnn : Int) :=
      fits_iff.mpr ⟨Int.natCast_nonneg _, by omega⟩
    exact { sized with index }
  | draw => exact { sized.setFlag _ with }
  | awaitKey => exact takeKeyEffect_sized sized instruction
  | readDelay => exact setX sized.delay
  | setDelay => exact { sized with delay := vx }
  | setSound => exact { sized with sound := vx }
  | addIndex =>
    have index : fits 16 ((state.index + state.register instruction.x) % 0x10000) :=
      fits_iff.mpr (by omega)
    exact { sized with index }
  | storeDecimal | storeRegisters => exact { sized with memory := sized.memory.putBlock _ _ }
  | loadRegisters => exact loadEffect_sized sized instruction granted

theorem spoiled_sized (sized : state.Sized) (operation : Operation) :
    (operation.spoiled state).Sized := by
  cases operation with
  | draw => exact sized.setFlag false
  | _ => exact sized

/-- The counter stays within sixteen bits, except behind a return, which takes what the slot has. -/
theorem effect_counter (sized : state.Sized) (counter : fits 16 state.pc)
    (instruction : Instruction) {operation : Operation} (onward : operation ≠ .ret) :
    fits 16 (operation.effect instruction state).pc := by
  have address := instruction.nnn_lt
  cases operation with
  | ret => exact absurd rfl onward
  | jump | call => exact fits_iff.mpr ⟨Int.natCast_nonneg _, by simp only [effect]; omega⟩
  | jumpOffset =>
    have first := fits_iff.mp (sized.register 0)
    refine fits_iff.mpr ?_
    simp only [effect]
    omega
  | skipEqualByte | skipUnequalByte | skipEqual | skipUnequal | skipHeld | skipReleased =>
    exact fits_skipIf counter _
  | awaitKey =>
    simp only [effect, takeKeyEffect]
    split
    · exact counter
    · exact fits_advance _ _
  | _ => exact counter

theorem effect_addressed (sized : state.Sized) (addressed : state.Addressed)
    (instruction : Instruction) (operation : Operation) :
    (operation.effect instruction state).Addressed := by
  intro number below
  by_cases returned : operation = ret
  · subst returned
    have below : (number : Int) < state.sp - 1 := below
    exact addressed number (by omega)
  by_cases called : operation = call
  · subst called
    have below : (number : Int) < state.sp + 1 := below
    have depth := sized.depth
    simp only [effect, State.slot, List.getD_eq_getElem?_getD, List.getElem?_set]
    by_cases top : state.sp.toNat = number
    · rw [if_pos top]
      split
      · rw [Option.getD_some, fits_iff]
        omega
      · rfl
    · rw [if_neg top, ← List.getD_eq_getElem?_getD]
      exact addressed number (by omega)
  · obtain ⟨stack, sp⟩ := stack_effect instruction state called returned
    rw [sp] at below
    rw [State.slot, stack]
    exact addressed number below

theorem spoiled_addressed (addressed : state.Addressed) (operation : Operation) :
    (operation.spoiled state).Addressed := by
  cases operation <;> exact addressed

theorem spoiled_counter (operation : Operation) : (operation.spoiled state).pc = state.pc := by
  cases operation <;> rfl

theorem decode_cases (strict : Bool) (word : Int) :
    decode strict word = .ok ((Instruction.ofWord word).operation, .ofWord word) ∨
      (Instruction.ofWord word).operation = .unknown ∧
        ∃ fault, decode strict word = .error fault := by
  simp only [decode, Instruction.operation]
  cases (Instruction.ofWord word).operation? with
  | some operation => exact .inl rfl
  | none =>
    cases strict with
    | false => exact .inl rfl
    | true => exact .inr ⟨rfl, _, rfl⟩

/-- Executing a word without fetching it ends in a fault, with the counter behind the word and no
more than a flag cleared, or has the effect of its operation and is counted. -/
theorem executeWord_cases (shaped : state.Shaped) (strict : Bool) (word : Int) :
    let instruction := Instruction.ofWord word
    let operation := instruction.operation
    (∃ fault, (executeWord strict word).run state =
      .error (.fault fault) (operation.spoiled (state.advance 2))) ∨
    operation.refusal instruction (state.advance 2) = none ∧
      (executeWord strict word).run state =
        .ok operation { operation.effect instruction (state.advance 2) with
          cycles := (operation.effect instruction (state.advance 2)).cycles + 1 } := by
  intro instruction operation
  have advanced : (state.advance 2).Shaped := { shaped with }
  simp only [executeWord, EStateM.run_bind, EStateM.run_modify]
  rcases decode_cases strict word with decoded | ⟨unknown, fault, failed⟩
  · simp only [decoded, EStateM.run_bind, execute_eq advanced]
    cases granted : operation.refusal instruction (state.advance 2) with
    | some fault => exact .inl ⟨fault, rfl⟩
    | none => exact .inr ⟨rfl, rfl⟩
  · refine .inl ⟨fault, ?_⟩
    rw [failed, show operation = .unknown from unknown]
    rfl

theorem executeWord_sized (sized : state.Sized) (strict : Bool) (word : Int) :
    (left ((executeWord strict word).run state)).Sized := by
  have advanced : (state.advance 2).Sized := { sized with }
  rcases executeWord_cases sized.shaped strict word with
    ⟨fault, failed⟩ | ⟨granted, succeeded⟩
  · rw [failed]
    exact spoiled_sized advanced _
  · have done := effect_sized advanced _ _ granted
    have counted := Int.add_nonneg done.cycles (show (0 : Int) ≤ 1 by decide)
    rw [succeeded]
    exact { done with cycles := counted }

theorem executeWord_addressed (sized : state.Sized) (addressed : state.Addressed) (strict : Bool)
    (word : Int) : (left ((executeWord strict word).run state)).Addressed := by
  have advanced : (state.advance 2).Sized := { sized with }
  have addressed' : (state.advance 2).Addressed := addressed
  rcases executeWord_cases sized.shaped strict word with
    ⟨fault, failed⟩ | ⟨_, succeeded⟩
  · rw [failed]
    exact spoiled_addressed addressed' _
  · rw [succeeded]
    exact effect_addressed advanced addressed' _ _

theorem run_executeWord_ret (shaped : state.Shaped) (pushed : state.sp ≠ 0) (strict : Bool) :
    ∃ after, (executeWord strict 0x00EE).run state = .ok .ret after ∧
      after.pc = state.slot (state.sp - 1).toNat := by
  have spelled : Instruction.Spells 0x00EE .ret := rfl
  have granted : ret.refusal (.ofWord (0x00EE : Nat)) (state.advance 2) = none := if_neg pushed
  have ran := run_executeWord_eq shaped (by decide) spelled strict
  rw [granted] at ran
  exact ⟨_, ran, rfl⟩

theorem executeWord_counter (sized : state.Sized) (strict : Bool) {word : Int}
    (returned : (Instruction.ofWord word).operation = .ret → 0 < state.sp →
      fits 16 (state.slot (state.sp - 1).toNat)) :
    fits 16 (left ((executeWord strict word).run state)).pc := by
  have depth := sized.depth
  have advanced : (state.advance 2).Sized := { sized with }
  rcases executeWord_cases sized.shaped strict word with
    ⟨fault, failed⟩ | ⟨granted, succeeded⟩
  · rw [failed, left, spoiled_counter]
    exact fits_advance 2 state
  · rw [succeeded]
    by_cases returns : (Instruction.ofWord word).operation = ret
    · rw [returns] at granted ⊢
      have pushed : state.sp ≠ 0 := by
        intro empty
        rw [refusal, if_pos (show (state.advance 2).sp = 0 from empty)] at granted
        cases granted
      exact returned returns (by omega)
    · exact effect_counter advanced (fits_advance 2 state) _ returns

theorem executeWord_counter_iff (sized : state.Sized) (strict : Bool) {word : Nat}
    (short : word < 0x10000) :
    fits 16 (left ((executeWord strict word).run state)).pc = false ↔
      word = 0x00EE ∧ 0 < state.sp ∧ fits 16 (state.slot (state.sp - 1).toNat) = false := by
  have returning : (Instruction.ofWord word).operation = .ret ↔ word = 0x00EE :=
    Instruction.operation_eq short (by decide)
  constructor
  · intro outside
    have returned : ¬ ((Instruction.ofWord word).operation = .ret → 0 < state.sp →
        fits 16 (state.slot (state.sp - 1).toNat) = true) := by
      intro returned
      rw [executeWord_counter sized strict returned] at outside
      cases outside
    simpa only [returning, Decidable.not_imp_iff_and_not, Bool.not_eq_true] using returned
  · rintro ⟨rfl, pushed, outside⟩
    obtain ⟨after, ran, popped⟩ := run_executeWord_ret sized.shaped (by omega) strict
    rw [show ((0x00EE : Nat) : Int) = 0x00EE from rfl, ran, left, popped, outside]

/-- Words executed one after the other, whether they succeed or fail. -/
def executeWords (strict : Bool) (words : List Int) (state : State) : State :=
  words.foldl (fun state word => left ((executeWord strict word).run state)) state

theorem executeWords_sized (sized : state.Sized) (strict : Bool) (words : List Int) :
    (executeWords strict words state).Sized := by
  induction words generalizing state with
  | nil => exact sized
  | cons word words ih => exact ih (executeWord_sized sized strict word)

/-- Where the slots in use hold addresses, they go on doing so, and every word keeps the state
valid. -/
theorem executeWords_addressed (sized : state.Sized) (counter : fits 16 state.pc)
    (addressed : state.Addressed) (strict : Bool) (words : List Int) :
    (executeWords strict words state).Sized ∧ fits 16 (executeWords strict words state).pc ∧
      (executeWords strict words state).Addressed := by
  induction words generalizing state with
  | nil => exact ⟨sized, counter, addressed⟩
  | cons word words ih =>
    have top : 0 < state.sp → fits 16 (state.slot (state.sp - 1).toNat) :=
      fun pushed => addressed _ (by omega)
    exact ih (executeWord_sized sized strict word)
      (executeWord_counter sized strict fun _ => top)
      (executeWord_addressed sized addressed strict word)

/-- Every word keeps a valid state valid, whether it succeeds or ends in a fault, but for a return
to a slot that holds no number of sixteen bits, which the counter takes as it is. -/
theorem executeWord_valid (valid : state.valid = true) (whole : state.memory.Whole 4096)
    (strict : Bool) {word : Nat} (short : word < 0x10000) :
    let result := (executeWord strict word).run state
    (∀ error, raised result = some error → ∃ cause, error = .fault cause) ∧
    ((left result).valid = false ↔
      word = 0x00EE ∧ 0 < state.sp ∧ fits 16 (state.slot (state.sp - 1).toNat) = false) ∧
    (word = 0x00EE → 0 < state.sp →
      raised result = none ∧ (left result).pc = state.slot (state.sp - 1).toNat) ∧
    { left result with pc := state.pc }.valid = true ∧
    (state.Addressed → ∀ words, (executeWords strict words state).valid = true ∧
      (executeWords strict words state).Addressed) := by
  intro result
  obtain ⟨sized, counter⟩ := (valid_iff whole).mp valid
  have after : (left result).Sized := executeWord_sized sized strict word
  refine ⟨?_, ?_, ?_, ?_, ?_⟩
  · intro error failed
    obtain ⟨place, ended⟩ := raised_eq_some failed
    have outcome : (executeWord strict word).run state = .error error place := ended
    rcases executeWord_cases sized.shaped strict word with ⟨fault, other⟩ | ⟨_, other⟩
    · rw [outcome] at other
      cases other
      exact ⟨fault, rfl⟩
    · rw [outcome] at other
      cases other
  · have spoiled : (left result).valid = false ↔ fits 16 (left result).pc = false := by
      rw [← Bool.not_eq_true, ← Bool.not_eq_true, valid_iff after.memory]
      simp only [after, true_and]
    exact spoiled.trans (executeWord_counter_iff sized strict short)
  · rintro rfl pushed
    obtain ⟨after, ran, popped⟩ := run_executeWord_ret sized.shaped (by omega) strict
    rw [show result = .ok .ret after from ran]
    exact ⟨rfl, popped⟩
  · have restored : { left result with pc := state.pc }.Sized := { after with }
    exact (valid_iff restored.memory).mpr ⟨restored, counter⟩
  · intro addressed words
    obtain ⟨sized', counter', addressed'⟩ :=
      executeWords_addressed sized counter addressed strict words
    exact ⟨(valid_iff sized'.memory).mpr ⟨sized', counter'⟩, addressed'⟩

/-- Slots that are not in use may hold anything; what a return and a call read and write are the
others. -/
theorem executeWord_valid_littered :
    let state := { State.blank with stack := 0x300 :: List.replicate 15 70000, sp := 1 }
    state.valid = true ∧ state.memory.Whole 4096 ∧ 0x00EE < 0x10000 ∧ state.Addressed ∧
      (left ((executeWord true 0x00EE).run state)).valid = true ∧
      (executeWords true [0x00EE, 0x2400, 0x2500, 0x00EE, 0x0000] state).valid = true := by
  intro state
  have valid : state.valid = true := by decide +kernel
  have short : 0x00EE < 0x10000 := by decide
  have addressed : state.Addressed := by
    intro number below
    have below : (number : Int) < 1 := below
    have first : number = 0 := by omega
    subst first
    decide
  obtain ⟨_, spoiled, _, _, kept⟩ := executeWord_valid valid Memory.whole_standard true short
  refine ⟨valid, Memory.whole_standard, short, addressed, ?_, (kept addressed _).1⟩
  rw [← Bool.not_eq_false]
  intro lost
  have outside : fits 16 0x300 = false := (spoiled.mp lost).2.2
  cases outside

/-- A valid state may hold 70000 in the slot that a return reads, and the return goes there. -/
theorem return_to_no_address :
    let state := { State.blank with stack := 70000 :: List.replicate 15 0, sp := 1 }
    let result := (executeWord false 0x00EE).run state
    state.valid = true ∧ state.memory.Whole 4096 ∧ state.display.WellFormed ∧
      raised result = none ∧ (left result).pc = 70000 ∧ (left result).valid = false := by
  intro state result
  have facts : state.valid = true ∧ raised result = none ∧ (left result).pc = 70000 ∧
      (left result).valid = false := by decide +kernel
  exact ⟨facts.1, Memory.whole_standard, .blank, facts.2⟩

end Operation

end ChipEight
