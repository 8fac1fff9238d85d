import ChipEight.Error

/-! The address space. An access names its first address and its length, both whole numbers, and is
checked as a whole before anything is read or written. -/

namespace ChipEight

/-- Where a program is put. -/
def programStart : Nat := 0x200

/-- `bytes` is the store behind the addresses `0` to `size - 1`. -/
structure Memory where
  size : Nat
  bytes : Array UInt8
  deriving DecidableEq

namespace Memory

def blank (size : Nat) : Memory :=
  ⟨size, Array.replicate size 0⟩

/-- The greatest size that is given out. -/
def greatestSize : Nat := 0x100000000

/-- A blank memory of a size that was asked for. -/
def create (size : Int) : Except Error Memory :=
  if !Slots.isSlotNumber size then .error .sizeOutOfRange
  else if size < 0 then .error .negativeSize
  else if greatestSize < size then .error .outOfMemory
  else .ok (blank size.toNat)

/-- The address space of the machine. -/
def standard : Memory := blank 4096

/-- The whole access lies in the memory. -/
def Covers (memory : Memory) (address length : Int) : Prop :=
  0 ≤ address ∧ 0 ≤ length ∧ address + length ≤ memory.size

instance (memory : Memory) (address length : Int) :
    Decidable (memory.Covers address length) :=
  inferInstanceAs (Decidable (_ ∧ _ ∧ _))

def check (memory : Memory) (address length : Int) : Except Fault Unit :=
  if memory.Covers address length then .ok ()
  else .error (.outOfBounds address length memory.size)

/-- The byte at an address, 0 where there is none. -/
def byteAt (memory : Memory) (address : Nat) : UInt8 :=
  memory.bytes.getD address 0

/-- Write bytes one after the other from a position on. -/
def overwrite (bytes : Array UInt8) (position : Nat) : List UInt8 → Array UInt8
  | [] => bytes
  | byte :: rest => overwrite (bytes.setIfInBounds position byte) (position + 1) rest

/-- The lowest eight bits of a number. -/
def lowByte (value : Int) : UInt8 :=
  UInt8.ofNat (value % 256).toNat

def read (memory : Memory) (address : Int) : Except Fault UInt8 := do
  memory.check address 1
  return memory.byteAt address.toNat

def write (memory : Memory) (address value : Int) : Except Fault Memory := do
  memory.check address 1
  return { memory with bytes := memory.bytes.setIfInBounds address.toNat (lowByte value) }

/-- Two bytes as one word, the first byte being the high one. -/
def readWord (memory : Memory) (address : Int) : Except Fault Nat := do
  memory.check address 2
  return (memory.byteAt address.toNat).toNat * 256 + (memory.byteAt (address.toNat + 1)).toNat

def readBlock (memory : Memory) (address length : Int) : Except Fault (List UInt8) := do
  memory.check address length
  return (memory.bytes.extract address.toNat (address + length).toNat).toList

def writeBlock (memory : Memory) (address : Int) (values : List Int) : Except Fault Memory := do
  memory.check address values.length
  return { memory with bytes := overwrite memory.bytes address.toNat (values.map lowByte) }

/-- The bytes from `start` up to `stop`, or to the end. A fault names their number, so one that
cannot be written ends the call in its place. -/
def dump (memory : Memory) (start : Int) (stop : Option Int) : Except Error (List UInt8) :=
  let length := stop.getD memory.size - start
  match memory.readBlock start length with
  | .ok bytes => .ok bytes
  | .error fault =>
    if Reading.isWritable length then .error (.fault fault) else .error .tooManyDigits

def clear (memory : Memory) : Memory :=
  blank memory.size

/-- Put a program at its place and count its bytes. What runs past the end is dropped. In a
memory that ends before that place the count is negative, and what is left of the program when
that many bytes are dropped goes behind the store, where no address reaches it. -/
def load (memory : Memory) (program : List UInt8) : Int × Memory :=
  let count : Int := min (program.length : Int) ((memory.size : Int) - programStart)
  let image := Slots.before program count
  let bytes :=
    if 0 ≤ count then overwrite memory.bytes programStart image
    else
      memory.bytes.extract 0 programStart ++ image.toArray ++
        memory.bytes.extract programStart memory.bytes.size
  (count, { memory with bytes })

@[simp] theorem size_overwrite (bytes : Array UInt8) (position : Nat) (image : List UInt8) :
    (overwrite bytes position image).size = bytes.size := by
  induction image generalizing bytes position with
  | nil => rfl
  | cons byte rest ih => simp [overwrite, ih]

theorem getElem?_overwrite (bytes : Array UInt8) (position address : Nat) (image : List UInt8)
    (fits : position + image.length ≤ bytes.size) :
    (overwrite bytes position image)[address]? =
      if position ≤ address ∧ address < position + image.length then image[address - position]?
      else bytes[address]? := by
  induction image generalizing bytes position with
  | nil =>
    rw [overwrite, if_neg]
    simp only [List.length_nil]
    omega
  | cons byte rest ih =>
    rw [List.length_cons] at fits ⊢
    have room : position + 1 + rest.length ≤ (bytes.setIfInBounds position byte).size := by
      rw [Array.size_setIfInBounds]
      omega
    rw [overwrite, ih _ _ room, Array.getElem?_setIfInBounds]
    by_cases here : position = address
    · rw [if_neg (by omega), if_pos here, if_pos (by omega), if_pos (by omega)]
      rw [show address - position = 0 by omega, List.getElem?_cons_zero]
    · by_cases covered : position ≤ address ∧ address < position + (rest.length + 1)
      · rw [if_pos (by omega), if_pos covered]
        rw [show address - position = address - (position + 1) + 1 by omega,
          List.getElem?_cons_succ]
      · rw [if_neg (by omega), if_neg here, if_neg covered]

end Memory

end ChipEight
