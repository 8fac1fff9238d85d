import ChipEight.Proofs.Validity

namespace ChipEight

namespace Memory

variable {memory later : Memory} {address : Int} {values : List Int}

theorem toNat_lowByte {value : Int} (byte : State.fits 8 value = true) :
    ((lowByte value).toNat : Int) = value := by
  have bounds := State.fits_iff.mp byte
  rw [toNat_lowByte_emod]
  omega

theorem lowByte_toNat (byte : UInt8) : lowByte byte.toNat = byte := by
  have small := byte.toNat_lt
  rw [← UInt8.toNat_inj, toNat_lowByte_emod]
  omega

theorem eq_of_bytes (size : later.size = memory.size)
    (store : later.bytes.size = memory.bytes.size)
    (bytes : ∀ place, later.byteAt place = memory.byteAt place) : later = memory := by
  obtain ⟨laterSize, laterBytes⟩ := later
  obtain rfl : laterSize = memory.size := size
  have same : laterBytes = memory.bytes := by
    refine Array.ext store fun place inside inside' => ?_
    have byte := bytes place
    simp only [byteAt, Array.getD_eq_getD_getElem?] at byte
    rwa [Array.getElem?_eq_getElem inside, Array.getElem?_eq_getElem inside'] at byte
  rw [same]

theorem block_of_putBlock (whole : memory.bytes.size = memory.size)
    (covered : memory.Covers address values.length) (whole' : later.bytes.size = later.size)
    (covered' : later.Covers address values.length)
    (kept : ∀ place : Nat, address ≤ place → place < address + values.length →
      later.byteAt place = (memory.putBlock address values).byteAt place) :
    later.block address values.length = values.map lowByte := by
  have first := covered.1
  rw [block_eq_map whole' covered']
  refine List.ext_getElem (by simp) fun offset _ inside => ?_
  rw [List.length_map] at inside
  have near : address ≤ (address.toNat + offset : Nat) ∧
      ((address.toNat + offset : Nat) : Int) < address + values.length := by omega
  rw [List.getElem_map, List.getElem_range, List.getElem_map, kept _ near.1 near.2,
    byteAt_putBlock whole covered, if_pos near, Nat.add_sub_cancel_left]
  simp [List.getD_eq_getElem?_getD, inside]

theorem putBlock_block {count : Nat} (whole : memory.bytes.size = memory.size)
    (covered : memory.Covers address count) :
    memory.putBlock address ((memory.block address count).map fun byte => (byte.toNat : Int)) =
      memory := by
  have first := covered.1
  have length := length_block whole covered
  have covered' : memory.Covers address
      ((memory.block address count).map fun byte => (byte.toNat : Int)).length := by
    rwa [List.length_map, length]
  refine eq_of_bytes rfl (size_overwrite _ _ _) fun place => ?_
  rw [byteAt_putBlock whole covered']
  split
  · rename_i inside
    rw [List.length_map, length] at inside
    have offset : place - address.toNat < count := by omega
    have back : address.toNat + (place - address.toNat) = place := by omega
    simp [block_eq_map whole covered, List.getD_eq_getElem?_getD, offset, lowByte_toNat, back]
  · rfl

end Memory

namespace State

variable {state later : State}

/-- A word was executed that put values down from the index on. -/
def stored (values : List Int) (state : State) : State :=
  { state.advance 2 with
    memory := state.memory.putBlock state.index values
    cycles := state.cycles + 1 }

/-- A word was executed that picked up registers from the index on. -/
def loaded (count : Nat) (state : State) : State :=
  { state.advance 2 with
    registers := (state.memory.block state.index count).map (fun byte => (byte.toNat : Int)) ++
      state.registers.drop count
    cycles := state.cycles + 1 }

theorem Sized.full (sized : state.Sized) : state.memory.bytes.size = state.memory.size :=
  sized.memory.2.trans sized.memory.1.symm

theorem Sized.covers (sized : state.Sized) {count : Nat} (room : state.index + count ≤ 4096) :
    state.memory.Covers state.index count := by
  have index := fits_iff.mp sized.index
  exact ⟨index.1, Int.natCast_nonneg count, by rw [sized.memory.1]; exact room⟩

theorem Sized.stored (sized : state.Sized) (values : List Int) : (state.stored values).Sized :=
  { sized with
    cycles := Int.add_nonneg sized.cycles (by decide)
    memory := sized.memory.putBlock _ _ }

/-- What is put down touches nothing outside its block. -/
theorem byteAt_stored (sized : state.Sized) {values : List Int}
    (room : state.index + values.length ≤ 4096) {address : Nat}
    (outside : ¬ (state.index ≤ address ∧ address < state.index + values.length)) :
    (state.stored values).memory.byteAt address = state.memory.byteAt address :=
  (Memory.byteAt_putBlock sized.full (sized.covers room) address).trans (if_neg outside)

theorem toNat_byteAt_stored (sized : state.Sized) {values : List Int}
    (bytes : ∀ value ∈ values, fits 8 value = true) (room : state.index + values.length ≤ 4096)
    {offset : Nat} (inside : offset < values.length) :
    (((state.stored values).memory.byteAt (state.index.toNat + offset)).toNat : Int) =
      values[offset] := by
  have first := (fits_iff.mp sized.index).1
  have written := Memory.byteAt_putBlock sized.full (sized.covers room) (state.index.toNat + offset)
  rw [if_pos (by omega), Nat.add_sub_cancel_left, List.getD_eq_getElem?_getD,
    List.getElem?_eq_getElem inside, Option.getD_some] at written
  exact (congrArg (fun byte => (byte.toNat : Int)) written).trans
    (Memory.toNat_lowByte (bytes _ (List.getElem_mem inside)))

/-- What was put down is picked up, if neither the index nor the bytes were changed since. -/
theorem loaded_stored (sized : state.Sized) (sized' : later.Sized) {values : List Int}
    (bytes : ∀ value ∈ values, fits 8 value = true) (room : state.index + values.length ≤ 4096)
    (index : later.index = state.index)
    (kept : ∀ address : Nat, state.index ≤ address → address < state.index + values.length →
      later.memory.byteAt address = (state.stored values).memory.byteAt address) :
    (later.loaded values.length).registers = values ++ later.registers.drop values.length := by
  have room' : later.index + values.length ≤ 4096 := index ▸ room
  have block : later.memory.block state.index values.length = values.map Memory.lowByte :=
    Memory.block_of_putBlock sized.full (sized.covers room) sized'.full
      (index ▸ sized'.covers room') kept
  have exact : (values.map Memory.lowByte).map (fun byte => (byte.toNat : Int)) = values := by
    rw [List.map_map]
    exact (List.map_congr_left fun value member => Memory.toNat_lowByte (bytes value member)).trans
      (List.map_id values)
  simp only [loaded, index, block, exact]

theorem stored_loaded (sized : state.Sized) {count : Nat} (room : state.index + count ≤ 4096) :
    ((state.loaded count).stored ((state.loaded count).registers.take count)).memory =
      state.memory := by
  have length := Memory.length_block sized.full (sized.covers room)
  have taken : (state.loaded count).registers.take count =
      (state.memory.block state.index count).map fun byte => (byte.toNat : Int) := by
    rw [loaded, List.take_append_of_le_length (by simp [length]),
      List.take_of_length_le (by simp [length])]
  rw [taken]
  exact Memory.putBlock_block sized.full (sized.covers room)

end State

namespace Operation

open State

variable {state : State} {x : Nat}

theorem x_ofWord_add {word : Nat} (low : word % 0x1000 < 0x100) (inside : x < 16) :
    (Instruction.ofWord (word + 0x100 * x : Nat)).x = x := by
  rw [Instruction.x_ofWord]
  omega

theorem run_storeWord (sized : state.Sized) (inside : x < 16) (room : state.index + x + 1 ≤ 4096)
    (strict : Bool) :
    (executeWord strict (0xF055 + 0x100 * x : Nat)).run state =
      .ok .storeRegisters (state.stored (state.registers.take (x + 1))) := by
  have spelled : Instruction.Spells (0xF055 + 0x100 * x) .storeRegisters := ⟨by omega, by omega⟩
  have named := x_ofWord_add (show 0xF055 % 0x1000 < 0x100 by decide) inside
  have covered : state.memory.Covers state.index (x + 1 : Nat) := sized.covers (by omega)
  have granted : storeRegisters.refusal (.ofWord (0xF055 + 0x100 * x : Nat)) (state.advance 2) =
      none := by
    rw [refusal, named]
    exact Memory.refusal_eq_none.mpr covered
  rw [run_executeWord_eq sized.shaped (by omega) spelled strict, granted]
  simp only [effect, named]
  rfl

theorem run_loadWord (sized : state.Sized) (inside : x < 16) (room : state.index + x + 1 ≤ 4096)
    (strict : Bool) :
    (executeWord strict (0xF065 + 0x100 * x : Nat)).run state =
      .ok .loadRegisters (state.loaded (x + 1)) := by
  have spelled : Instruction.Spells (0xF065 + 0x100 * x) .loadRegisters := ⟨by omega, by omega⟩
  have named := x_ofWord_add (show 0xF065 % 0x1000 < 0x100 by decide) inside
  have covered : state.memory.Covers state.index (x + 1 : Nat) := sized.covers (by omega)
  have granted : loadRegisters.refusal (.ofWord (0xF065 + 0x100 * x : Nat)) (state.advance 2) =
      none := by
    rw [refusal, named]
    exact Memory.refusal_eq_none.mpr covered
  rw [run_executeWord_eq sized.shaped (by omega) spelled strict, granted]
  simp only [effect, loadEffect, named]
  rfl

theorem run_decimalWord (sized : state.Sized) (inside : x < 16) (room : state.index + 3 ≤ 4096)
    (strict : Bool) :
    (executeWord strict (0xF033 + 0x100 * x : Nat)).run state =
      .ok .storeDecimal (state.stored (decimalDigits (state.register x))) := by
  have spelled : Instruction.Spells (0xF033 + 0x100 * x) .storeDecimal := ⟨by omega, by omega⟩
  have named := x_ofWord_add (show 0xF033 % 0x1000 < 0x100 by decide) inside
  have covered : state.memory.Covers state.index (3 : Nat) := sized.covers room
  have granted : storeDecimal.refusal (.ofWord (0xF033 + 0x100 * x : Nat)) (state.advance 2) =
      none := Memory.refusal_eq_none.mpr covered
  rw [run_executeWord_eq sized.shaped (by omega) spelled strict, granted]
  simp only [effect, named]
  rfl

theorem decimalDigits_exact {value : Int} (byte : fits 8 value = true) :
    ∃ a b c, decimalDigits value = [a, b, c] ∧ (∀ digit ∈ [a, b, c], 0 ≤ digit ∧ digit ≤ 9) ∧
      100 * a + 10 * b + c = value := by
  have bounds := fits_iff.mp byte
  refine ⟨_, _, _, rfl, ?_, by omega⟩
  simp only [List.forall_mem_cons, List.not_mem_nil, false_imp_iff, implies_true, and_true]
  omega

/-- Registers that are stored are loaded again, whatever was executed in between, if it left the
index and the block alone; loading and then storing leaves the memory as it was; a conversion writes
the three digits of its register. -/
theorem transfers_inverse (valid : state.valid = true) (whole : state.memory.Whole 4096)
    (strict : Bool) (inside : x < 16) :
    (state.index + x + 1 ≤ 4096 →
      (∃ stored, (executeWord strict (0xF055 + 0x100 * x : Nat)).run state =
          .ok .storeRegisters stored ∧ stored.index = state.index ∧
        (∀ address : Nat, ¬ (state.index ≤ address ∧ address ≤ state.index + x) →
          stored.memory.byteAt address = state.memory.byteAt address) ∧
        ∀ words,
          let later := executeWords strict words stored
          later.index = state.index →
          (∀ address : Nat, state.index ≤ address → address ≤ state.index + x →
            later.memory.byteAt address = stored.memory.byteAt address) →
          ∃ restored, (executeWord strict (0xF065 + 0x100 * x : Nat)).run later =
              .ok .loadRegisters restored ∧
            restored.registers = state.registers.take (x + 1) ++ later.registers.drop (x + 1) ∧
            restored.index = later.index ∧ restored.memory = later.memory) ∧
      ∃ loaded stored, (executeWord strict (0xF065 + 0x100 * x : Nat)).run state =
          .ok .loadRegisters loaded ∧
        (executeWord strict (0xF055 + 0x100 * x : Nat)).run loaded = .ok .storeRegisters stored ∧
        loaded.index = state.index ∧ loaded.memory = state.memory ∧
        stored.index = state.index ∧ stored.memory = state.memory) ∧
    (state.index + 3 ≤ 4096 →
      ∃ stored a b c, (executeWord strict (0xF033 + 0x100 * x : Nat)).run state =
          .ok .storeDecimal stored ∧ stored.index = state.index ∧
        (∀ digit ∈ [a, b, c], 0 ≤ digit ∧ digit ≤ 9) ∧
        100 * a + 10 * b + c = state.register x ∧
        ((stored.memory.byteAt state.index.toNat).toNat : Int) = a ∧
        ((stored.memory.byteAt (state.index.toNat + 1)).toNat : Int) = b ∧
        ((stored.memory.byteAt (state.index.toNat + 2)).toNat : Int) = c ∧
        (∀ address : Nat, ¬ (state.index ≤ address ∧ address < state.index + 3) →
          stored.memory.byteAt address = state.memory.byteAt address) ∧
        ∃ loaded, (executeWord strict 0xF265).run stored = .ok .loadRegisters loaded ∧
          loaded.registers = [a, b, c] ++ stored.registers.drop 3) := by
  obtain ⟨sized, _⟩ := (valid_iff whole).mp valid
  refine ⟨fun room => ⟨?_, ?_⟩, fun room => ?_⟩
  · have count : (state.registers.take (x + 1)).length = x + 1 := by
      rw [List.length_take, sized.registerCount]
      omega
    have room' : state.index + (state.registers.take (x + 1)).length ≤ 4096 := by omega
    refine ⟨_, run_storeWord sized inside room strict, rfl, fun address outside => ?_, ?_⟩
    · exact byteAt_stored sized room' (by omega)
    · intro words later index kept
      have sized' : later.Sized := executeWords_sized (sized.stored _) strict words
      have loads := run_loadWord sized' inside (by omega) strict
      refine ⟨_, loads, ?_, rfl, rfl⟩
      have bytes : ∀ value ∈ state.registers.take (x + 1), fits 8 value = true :=
        fun value member => sized.registers value (List.mem_of_mem_take member)
      have restored := loaded_stored sized sized' bytes room' index
        fun address first last => kept address first (by omega)
      rwa [count] at restored
  · have loads := run_loadWord sized inside room strict
    have sized' : (state.loaded (x + 1)).Sized := by
      have kept := executeWord_sized sized strict (0xF065 + 0x100 * x : Nat)
      rwa [loads] at kept
    exact ⟨_, _, loads, run_storeWord sized' inside room strict, rfl, rfl, rfl,
      stored_loaded sized (by omega)⟩
  · obtain ⟨a, b, c, digits, small, exact⟩ := decimalDigits_exact (sized.register x)
    have stores := run_decimalWord sized inside room strict
    rw [digits] at stores
    have bytes : ∀ value ∈ [a, b, c], fits 8 value = true := by
      intro value member
      have bounds := small value member
      exact fits_iff.mpr (by omega)
    have room' : state.index + ([a, b, c] : List Int).length ≤ 4096 := room
    have written (offset : Nat) (within : offset < 3) :
        (((state.stored [a, b, c]).memory.byteAt (state.index.toNat + offset)).toNat : Int) =
          [a, b, c][offset] :=
      toNat_byteAt_stored sized bytes room' within
    have indexed : (state.stored [a, b, c]).index = state.index := rfl
    have loads := run_loadWord (sized.stored [a, b, c]) (show 2 < 16 by decide) (by omega) strict
    have loaded := loaded_stored sized (sized.stored [a, b, c]) bytes room' rfl fun _ _ _ => rfl
    refine ⟨_, a, b, c, stores, rfl, small, exact, written 0 (by decide), written 1 (by decide),
      written 2 (by decide), fun address outside => ?_, _, loads, loaded⟩
    exact byteAt_stored sized room' outside

/-- Three registers fit in front of the end of the memory, and survive being overwritten. -/
theorem transfers_inverse_end :
    let state :=
      { State.blank with registers := [7, 9, 254] ++ List.replicate 13 3, index := 0xFFD }
    ∃ stored restored, (executeWord true 0xF255).run state = .ok .storeRegisters stored ∧
      (executeWord true 0xF265).run (executeWords true [0x6001, 0x6202, 0x6305] stored) =
        .ok .loadRegisters restored ∧
      restored.registers = [7, 9, 254, 5] ++ List.replicate 12 3 ∧
      ∃ converted loaded a b c, (executeWord true 0xF233).run state = .ok .storeDecimal converted ∧
        100 * a + 10 * b + c = 254 ∧
        (executeWord true 0xF265).run converted = .ok .loadRegisters loaded ∧
        loaded.registers.take 3 = [a, b, c] := by
  intro state
  have valid : state.valid = true := by decide +kernel
  obtain ⟨transfers, conversion⟩ :=
    transfers_inverse valid Memory.whole_standard true (show 2 < 16 by decide)
  obtain ⟨⟨stored, stores, _, _, restores⟩, _⟩ := transfers (by decide)
  have found : left ((executeWord true 0xF255).run state) = stored := congrArg left stores
  subst found
  have facts :
      let later := executeWords true [0x6001, 0x6202, 0x6305]
        (left ((executeWord true 0xF255).run state))
      later.index = state.index ∧
        (∀ offset < 3, later.memory.byteAt (0xFFD + offset) =
          (left ((executeWord true 0xF255).run state)).memory.byteAt (0xFFD + offset)) ∧
        later.registers.drop 3 = 5 :: List.replicate 12 3 := by decide +kernel
  obtain ⟨index, kept, above⟩ := facts
  have bytes (address : Nat) (first : state.index ≤ address) (last : address ≤ state.index + 2) :
      (executeWords true [0x6001, 0x6202, 0x6305]
        (left ((executeWord true 0xF255).run state))).memory.byteAt address =
        (left ((executeWord true 0xF255).run state)).memory.byteAt address := by
    have first : (0xFFD : Int) ≤ address := first
    have last : (address : Int) ≤ 0xFFD + 2 := last
    have same := kept (address - 0xFFD) (by omega)
    rwa [Nat.add_sub_cancel' (by omega)] at same
  obtain ⟨restored, loads, registers, _⟩ := restores [0x6001, 0x6202, 0x6305] index bytes
  obtain ⟨converted, a, b, c, converts, _, _, exact, _, _, _, _, loaded, reads, digits⟩ :=
    conversion (by decide)
  refine ⟨_, restored, stores, loads, ?_, converted, loaded, a, b, c, converts, exact, reads, ?_⟩
  · rw [registers, above]
    rfl
  · rw [digits]
    rfl

end Operation

end ChipEight
