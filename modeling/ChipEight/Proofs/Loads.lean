import ChipEight.Proofs.WellFormed

namespace ChipEight.Memory

variable {size : Nat} {memory : Memory}

/-- The first `count` bytes of a program are at their place, what was dropped would lie past the
end, and every other byte is the one it was. -/
structure Loaded (memory : Memory) (program : List UInt8) (count : Int) (later : Memory) :
    Prop where
  counted : 0 ≤ count ∧ count ≤ program.length
  placed : ∀ offset : Nat, offset < count → later.bytes[programStart + offset]? = program[offset]?
  dropped : count < program.length → programStart + count = memory.size
  kept : ∀ address : Nat, ¬ (programStart ≤ address ∧ address < programStart + count) →
    later.bytes[address]? = memory.bytes[address]?
  whole : later.Whole memory.size

/-- What a memory that ends before the place of programs becomes. -/
theorem load_ending (whole : memory.Whole size) (ending : size < programStart)
    (program : List UInt8) :
    memory.load program =
      ((size : Int) - programStart,
        { memory with
          bytes := memory.bytes ++
            (program.take (program.length - (programStart - size))).toArray }) := by
  have counted : min (program.length : Int) ((memory.size : Int) - programStart) =
      (size : Int) - programStart := by
    rw [whole.1]
    omega
  have negative : (size : Int) - programStart < 0 := by omega
  have image : Slots.before program ((size : Int) - programStart) =
      program.take (program.length - (programStart - size)) := by
    rw [Slots.before, if_pos negative]
    congr 1
    omega
  -- All of the store lies before the place of programs, so the image is put behind its end.
  have front : memory.bytes.extract 0 programStart = memory.bytes :=
    Array.extract_eq_self_of_le (by rw [whole.2]; omega)
  have behind : memory.bytes.extract programStart memory.bytes.size = #[] :=
    Array.extract_empty_of_size_le_start (by rw [whole.2]; omega)
  simp only [load, counted, if_neg (Int.not_le.mpr negative), image, front, behind,
    Array.append_empty]

theorem Loaded.of_reaching (whole : memory.Whole size) (reaching : programStart ≤ size)
    (program : List UInt8) :
    Loaded memory program (memory.load program).1 (memory.load program).2 := by
  have kept := whole.load reaching program
  rw [load_reaching (whole.1 ▸ reaching)] at kept ⊢
  rw [whole.1] at kept ⊢
  have image : (program.take (size - programStart)).length =
      min program.length (size - programStart) := by
    rw [List.length_take, Nat.min_comm]
  have room : programStart + (program.take (size - programStart)).length ≤ memory.bytes.size := by
    rw [image, whole.2]
    omega
  constructor
  · omega
  · intro offset inside
    rw [getElem?_overwrite _ _ _ _ room, if_pos (by omega), Nat.add_sub_cancel_left,
      List.getElem?_take_of_lt (by omega)]
  · intro short
    rw [whole.1]
    omega
  · intro address outside
    rw [getElem?_overwrite _ _ _ _ room, if_neg (by omega)]
  · rwa [whole.1]

/-- Loading is exact in the memories that reach as far as the place of programs, and in no others:
where one ends before it, the count is negative and the store may grow. -/
theorem load_exact (whole : memory.Whole size) (program : List UInt8) :
    (Loaded memory program (memory.load program).1 (memory.load program).2 ↔
      programStart ≤ size) ∧
    (size < programStart →
      (memory.load program).1 = (size : Int) - programStart ∧
      (memory.load program).2.size = size ∧
      (memory.load program).2.bytes = memory.bytes ++
        (program.take (program.length - (programStart - size))).toArray) := by
  refine ⟨⟨fun loaded => ?_, fun reaching => .of_reaching whole reaching program⟩, fun ending => ?_⟩
  · refine Nat.not_lt.mp fun ending => ?_
    have counted := loaded.counted.1
    rw [load_ending whole ending] at counted
    omega
  · rw [load_ending whole ending]
    exact ⟨rfl, whole.1, rfl⟩

/-- Two of three bytes fit into a memory that ends two bytes behind the place of programs. In one
that ends a byte before it, one byte is missing and two go behind the store. -/
theorem load_exact_edges :
    Loaded (blank 0x202) [1, 2, 3] 2 ((blank 0x202).load [1, 2, 3]).2 ∧
    (blank 0x1FF).Whole 0x1FF ∧ ((blank 0x1FF).load [1, 2, 3]).1 = -1 ∧
    ((blank 0x1FF).load [1, 2, 3]).2.bytes.size = 0x201 := by
  have reaching : (blank 0x202).Whole 0x202 := whole_blank 0x202
  have ending : (blank 0x1FF).Whole 0x1FF := whole_blank 0x1FF
  have loaded := (load_exact reaching [1, 2, 3]).1.mpr (by decide)
  obtain ⟨count, _, bytes⟩ := (load_exact ending [1, 2, 3]).2 (by decide)
  refine ⟨loaded, ending, count, ?_⟩
  rw [bytes, Array.size_append, ending.2]
  rfl

end ChipEight.Memory
