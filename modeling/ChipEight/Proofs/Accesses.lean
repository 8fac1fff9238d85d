import ChipEight.Proofs.WellFormed

namespace ChipEight

inductive Access where
  | read (address : Int)
  | write (address value : Int)
  | readWord (address : Int)
  | readBlock (address length : Int)
  | writeBlock (address : Int) (values : List Int)
  | dump (start : Int) (stop : Option Int)
  | clear

/-- What a successful access answers with. -/
inductive Reply where
  | nothing
  | number (value : Nat)
  | bytes (values : List Nat)

namespace Access

/-- The error of an access that is refused. It names how many bytes were asked for, so a number
that cannot be written ends the call in its place. -/
def failure (length : Int) (fault : Fault) : Error :=
  if Reading.isWritable length then .fault fault else .tooManyDigits

def reading (memory : Memory) (length : Int) (result : Except Fault Reply) :
    Except Error Reply × Memory :=
  (result.mapError (failure length), memory)

def writing (memory : Memory) (length : Int) (result : Except Fault Memory) :
    Except Error Reply × Memory :=
  match result with
  | .ok later => (.ok .nothing, later)
  | .error fault => (.error (failure length fault), memory)

/-- What a memory answers to an access, and what becomes of it. -/
def answer (memory : Memory) : Access → Except Error Reply × Memory
  | read address => reading memory 1 ((memory.read address).map fun byte => .number byte.toNat)
  | write address value => writing memory 1 (memory.write address value)
  | readWord address => reading memory 2 ((memory.readWord address).map .number)
  | readBlock address length =>
    reading memory length ((memory.readBlock address length).map fun bytes =>
      .bytes (bytes.map UInt8.toNat))
  | writeBlock address values => writing memory values.length (memory.writeBlock address values)
  | dump start stop =>
    ((memory.dump start stop).map fun bytes => .bytes (bytes.map UInt8.toNat), memory)
  | clear => (.ok .nothing, memory.clear)

/-- The first address of an access and the number of its bytes, in a memory of a size. Clearing
has none. -/
def span? (size : Nat) : Access → Option (Int × Int)
  | read address | write address _ => some (address, 1)
  | readWord address => some (address, 2)
  | readBlock address length => some (address, length)
  | writeBlock address values => some (address, values.length)
  | dump start stop => some (start, stop.getD size - start)
  | clear => none

/-- All bytes of an access are in a memory of a size. -/
def Granted (size : Nat) (access : Access) : Prop :=
  ∀ span ∈ access.span? size, 0 ≤ span.1 ∧ 0 ≤ span.2 ∧ span.1 + span.2 ≤ size

instance (size : Nat) (access : Access) : Decidable (access.Granted size) :=
  inferInstanceAs (Decidable (∀ span ∈ access.span? size, _))

/-- The value that an access would put at an address, if it would change it. -/
def value? (address : Nat) : Access → Option Int
  | write first value => if first = address then some value else none
  | writeBlock first values =>
    if first ≤ address then values[(address - first).toNat]? else none
  | clear => some 0
  | _ => none

/-- What an access puts at an address, if it succeeds and changes it. -/
def put? (size address : Nat) (access : Access) : Option Nat :=
  if access.Granted size then (access.value? address).map fun value => (value % 256).toNat
  else none

def block (contents : Nat → Nat) (start length : Int) : List Nat :=
  (List.range length.toNat).map fun offset => contents (start.toNat + offset)

/-- What a successful access answers with, where `contents` are the bytes of the memory. -/
def reply (size : Nat) (contents : Nat → Nat) : Access → Reply
  | read address => .number (contents address.toNat)
  | readWord address => .number (256 * contents address.toNat + contents (address.toNat + 1))
  | readBlock address length => .bytes (block contents address length)
  | dump start stop => .bytes (block contents start (stop.getD size - start))
  | write .. | writeBlock .. | clear => .nothing

/-- What the last of some accesses that put something at an address put there, 0 if none did.
Clearing puts 0 at every address. -/
def lastPut (size : Nat) (history : List Access) (address : Nat) : Nat :=
  (history.reverse.findSome? (put? size address)).getD 0

example : lastPut 4 [clear, writeBlock 1 [7, -2], write 2 300, writeBlock 2 [1, 2, 3]] 2 = 44 := by
  decide

end Access

namespace Memory

/-- The memory after some accesses, the first of them first. -/
def after (memory : Memory) (history : List Access) : Memory :=
  history.foldl (fun memory access => (access.answer memory).2) memory

/-- A memory has all its bytes and no more, each the one that a map has at its address. -/
structure Carries (memory : Memory) (size : Nat) (contents : Nat → Nat) : Prop where
  whole : memory.Whole size
  bytes : ∀ address < size, (memory.byteAt address).toNat = contents address

variable {memory : Memory} {size : Nat} {contents : Nat → Nat} {access : Access}

theorem dump_eq (memory : Memory) (start : Int) (stop : Option Int) :
    memory.dump start stop =
      (memory.readBlock start (stop.getD memory.size - start)).mapError
        (Access.failure (stop.getD memory.size - start)) := by
  simp only [dump]
  cases memory.readBlock start (stop.getD memory.size - start) with
  | ok bytes => rfl
  | error fault => exact (apply_ite Except.error _ _ _).symm

theorem Carries.blank (size : Nat) : (blank size).Carries size fun _ => 0 where
  whole := whole_blank size
  bytes address inside := by
    simp [byteAt, Memory.blank, Array.getD_eq_getD_getElem?, inside]

theorem Carries.block (carries : memory.Carries size contents) {start length : Int}
    (covered : memory.Covers start length) :
    (memory.block start length).map UInt8.toNat = Access.block contents start length := by
  obtain ⟨count, rfl⟩ := Int.eq_ofNat_of_zero_le covered.2.1
  have first := covered.1
  have last := covered.2.2
  rw [carries.whole.1] at last
  rw [block_eq_map (carries.whole.2.trans carries.whole.1.symm) covered, List.map_map]
  refine List.map_congr_left fun offset member => carries.bytes _ ?_
  rw [List.mem_range] at member
  omega

theorem granted_iff (whole : memory.Whole size) {start length : Int}
    (spanned : access.span? size = some (start, length)) :
    access.Granted size ↔ memory.Covers start length := by
  simp only [Access.Granted, spanned, Option.mem_def, Option.some.injEq, forall_eq', Covers,
    whole.1]

theorem answer_write (memory : Memory) (address value : Int) :
    (Access.write address value).answer memory =
      (Access.writeBlock address [value]).answer memory := rfl

theorem answer_dump (whole : memory.Whole size) (start : Int) (stop : Option Int) :
    (Access.dump start stop).answer memory =
      (Access.readBlock start (stop.getD size - start)).answer memory := by
  simp only [Access.answer, Access.reading, dump_eq, whole.1]
  cases memory.readBlock start (stop.getD size - start) <;> rfl

theorem answer_uncovered (whole : memory.Whole size) {start length : Int}
    (spanned : access.span? size = some (start, length))
    (uncovered : ¬ memory.Covers start length) :
    access.answer memory =
      (.error (Access.failure length (.outOfBounds start length size)), memory) := by
  -- Each access begins with a check of its span, and nothing behind the check is reached.
  have refused : memory.refusal start length = some (.outOfBounds start length size) := by
    rw [refusal, if_neg uncovered, whole.1]
  cases access with
  | read | write | readWord | readBlock | writeBlock =>
    cases spanned
    simp only [Access.answer, read, readWord, readBlock, write, writeBlock, check_bind, refused]
    rfl
  | dump start stop =>
    cases spanned
    rw [answer_dump whole]
    simp only [Access.answer, readBlock_eq, refused]
    rfl
  | clear => cases spanned

/-- An access that is refused changes nothing, and its error names its first address and its
number of bytes. -/
theorem answer_refused (whole : memory.Whole size) (refused : ¬ access.Granted size) :
    ∃ start length, access.span? size = some (start, length) ∧
      access.answer memory =
        (.error (Access.failure length (.outOfBounds start length size)), memory) := by
  cases spanned : access.span? size with
  | none => exact absurd (by simp [Access.Granted, spanned]) refused
  | some span =>
    have uncovered := mt (granted_iff whole spanned).mpr refused
    exact ⟨span.1, span.2, rfl, answer_uncovered whole spanned uncovered⟩

theorem answer_readBlock {start length : Int} (covered : memory.Covers start length) :
    (Access.readBlock start length).answer memory =
      (.ok (.bytes ((memory.block start length).map UInt8.toNat)), memory) := by
  simp only [Access.answer, readBlock_eq, refusal_eq_none.mpr covered]
  rfl

theorem answer_writeBlock {address : Int} {values : List Int}
    (covered : memory.Covers address values.length) :
    (Access.writeBlock address values).answer memory =
      (.ok .nothing, memory.putBlock address values) := by
  simp only [Access.answer, writeBlock_eq, refusal_eq_none.mpr covered]
  rfl

theorem Carries.reply (carries : memory.Carries size contents) (granted : access.Granted size) :
    (access.answer memory).1 = .ok (access.reply size contents) := by
  have whole := carries.whole
  cases access with
  | read address =>
    have covered := (granted_iff whole rfl).mp granted
    have ⟨first, _, last⟩ := covered
    rw [whole.1] at last
    simp only [Access.answer, read_eq covered, Access.reply,
      ← carries.bytes address.toNat (by omega)]
    rfl
  | readWord address =>
    have covered := (granted_iff whole rfl).mp granted
    have ⟨first, _, last⟩ := covered
    rw [whole.1] at last
    simp only [Access.answer, readWord_eq covered, Access.reply,
      ← carries.bytes address.toNat (by omega), ← carries.bytes (address.toNat + 1) (by omega)]
    rw [Nat.mul_comm]
    rfl
  | readBlock address length =>
    have covered := (granted_iff whole rfl).mp granted
    rw [answer_readBlock covered, carries.block covered]
    rfl
  | dump start stop =>
    have covered := (granted_iff whole rfl).mp granted
    rw [answer_dump whole, answer_readBlock covered, carries.block covered]
    rfl
  | write address value =>
    have covered := (granted_iff whole rfl).mp granted
    rw [answer_write, answer_writeBlock covered]
    rfl
  | writeBlock address values =>
    rw [answer_writeBlock ((granted_iff whole rfl).mp granted)]
    rfl
  | clear => rfl

theorem Carries.putBlock (carries : memory.Carries size contents) {address : Int}
    {values : List Int} (covered : memory.Covers address values.length) :
    (memory.putBlock address values).Carries size fun place =>
      (((Access.writeBlock address values).value? place).map fun value =>
        (value % 256).toNat).getD (contents place) where
  whole := carries.whole.putBlock address values
  bytes place inside := by
    have first := covered.1
    rw [byteAt_putBlock (carries.whole.2.trans carries.whole.1.symm) covered, Access.value?]
    by_cases written : address ≤ place ∧ place < address + values.length
    · have offset : ((place : Int) - address).toNat = place - address.toNat := by omega
      have near : place - address.toNat < values.length := by omega
      rw [if_pos written, if_pos written.1, toNat_lowByte_emod, List.getD_eq_getElem?_getD, offset,
        List.getElem?_eq_getElem near]
      rfl
    · have absent :
          (if address ≤ place then values[((place : Int) - address).toNat]? else none) = none := by
        split
        · exact List.getElem?_eq_none (by omega)
        · rfl
      rw [if_neg written, absent, carries.bytes place inside]
      rfl

theorem value?_write (address value : Int) (place : Nat) :
    (Access.write address value).value? place =
      (Access.writeBlock address [value]).value? place := by
  simp only [Access.value?]
  by_cases same : address = place
  · subst same
    rw [if_pos rfl, if_pos (Int.le_refl _), Int.sub_self]
    rfl
  · rw [if_neg same]
    split
    · exact (List.getElem?_eq_none (by rw [List.length_singleton]; omega)).symm
    · rfl

theorem Carries.clear (carries : memory.Carries size contents) :
    memory.clear.Carries size fun _ => 0 := by
  rw [Memory.clear, carries.whole.1]
  exact .blank size

/-- A memory that carries a map carries it after an access too, with what that put down. -/
theorem Carries.later (carries : memory.Carries size contents) (access : Access) :
    (access.answer memory).2.Carries size fun place =>
      (access.put? size place).getD (contents place) := by
  have whole := carries.whole
  by_cases granted : access.Granted size
  · simp only [Access.put?, if_pos granted]
    -- Only the writes and the clearing make another memory, and a byte is a block of one.
    cases access with
    | read | readWord | readBlock | dump => exact carries
    | write address value =>
      have covered := (granted_iff whole rfl).mp granted
      simp only [value?_write]
      rw [answer_write, answer_writeBlock covered]
      exact carries.putBlock covered
    | writeBlock address values =>
      have covered := (granted_iff whole rfl).mp granted
      rw [answer_writeBlock covered]
      exact carries.putBlock covered
    | clear => exact carries.clear
  · obtain ⟨_, _, _, refused⟩ := answer_refused whole granted
    simp only [refused, Access.put?, if_neg granted]
    exact carries

theorem lastPut_append (size : Nat) (history : List Access) (access : Access) (address : Nat) :
    Access.lastPut size (history ++ [access]) address =
      (access.put? size address).getD (Access.lastPut size history address) := by
  rw [Access.lastPut, List.reverse_append, List.reverse_singleton, List.singleton_append,
    List.findSome?_cons]
  cases access.put? size address <;> rfl

/-- A memory that carries what was put down so far does so after any further accesses. -/
theorem Carries.after {earlier : List Access} (history : List Access)
    (carries : memory.Carries size (Access.lastPut size earlier)) :
    (memory.after history).Carries size (Access.lastPut size (earlier ++ history)) := by
  induction history generalizing memory earlier with
  | nil => rwa [List.append_nil]
  | cons access history ih =>
    have next : (access.answer memory).2.Carries size
        (Access.lastPut size (earlier ++ [access])) := by
      rw [funext (lastPut_append size earlier access)]
      exact carries.later access
    rw [List.append_cons]
    exact ih next

/-- A memory that was blank behaves as a map with a bound: an access succeeds exactly if it lies
within the memory, and answers with what was put there last; otherwise it changes nothing. -/
theorem accesses_exact (size : Nat) (history : List Access) (access : Access) :
    let memory := (blank size).after history
    let contents := Access.lastPut size history
    memory.Carries size contents ∧
    (access.Granted size → (access.answer memory).1 = .ok (access.reply size contents)) ∧
    (¬ access.Granted size → ∃ start length, access.span? size = some (start, length) ∧
      access.answer memory =
        (.error (Access.failure length (.outOfBounds start length size)), memory)) ∧
    (access.answer memory).2.Carries size (Access.lastPut size (history ++ [access])) := by
  intro memory contents
  have blank : (blank size).Carries size (Access.lastPut size []) := .blank size
  have carries : memory.Carries size contents := blank.after history
  refine ⟨carries, carries.reply, answer_refused carries.whole, ?_⟩
  rw [funext (lastPut_append size history access)]
  exact carries.later access

/-- Where a dump starts far enough below zero, the number of its bytes cannot be written. -/
example (fault : Fault) : Access.failure (Nat.pow 10 4300 : Nat) fault = .tooManyDigits :=
  if_neg (by decide +kernel)

end Memory

end ChipEight
