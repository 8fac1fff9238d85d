import ChipEight.Error

/-! The screen: 32 rows of 64 pixels. A row is one number whose bit 63 is the leftmost pixel, so a
sprite byte is drawn into a row by one exclusive or. -/

namespace ChipEight

def screenWidth : Nat := 64
def screenHeight : Nat := 32

structure Display where
  rows : List Int
  deriving Repr, DecidableEq

namespace Display

def blank : Display := ⟨List.replicate screenHeight 0⟩

/-- Whether a row's pixel in a column of the screen is on. -/
def lit (row : Int) (column : Nat) : Bool :=
  Bits.test row (screenWidth - 1 - column)

/-- One row as 64 pixels from left to right. -/
def pixels (row : Int) : List Bool :=
  (List.range screenWidth).map (lit row)

/-- Rows are slots, so row -1 is the lowest one. Columns left of the screen repeat the sign of
the row's number, and there are none right of it. -/
def pixel (display : Display) (x y : Int) : Except Error Bool :=
  match Slots.get? display.rows y with
  | none => .error (.missingSlot y)
  | some row =>
    if screenWidth - 1 < x then .error .pixelPastRightEdge
    else .ok (Bits.test row (screenWidth - 1 - x).toNat)

def setRow (display : Display) (y row : Int) : Except Error Display :=
  match Slots.set? display.rows y row with
  | none => .error (.missingTarget y)
  | some rows => .ok ⟨rows⟩

/-- The pixels of a row that a sprite byte at a column stands for. -/
def spriteMask (column : Nat) (byte : UInt8) : Nat :=
  if column ≤ screenWidth - 8 then byte.toNat <<< (screenWidth - 8 - column)
  else byte.toNat >>> (column - (screenWidth - 8))

/-- Draw a sprite downwards from the first of some rows on; the rows end where the screen does.
The flag tells whether a pixel that was on went off. -/
def drawInto (column : Nat) : List UInt8 → List Int → List Int × Bool
  | byte :: sprite, row :: rows =>
    let mask : Int := spriteMask column byte
    let (rest, hit) := drawInto column sprite rows
    (Bits.xor row mask :: rest, Bits.and row mask != 0 || hit)
  | _, rows => (rows, false)

def draw (display : Display) (x y : Int) (sprite : List UInt8) : Display × Bool :=
  let column := (x % screenWidth).toNat
  let first := (y % screenHeight).toNat
  let (lower, hit) := drawInto column sprite (display.rows.drop first)
  (⟨display.rows.take first ++ lower⟩, hit)

def matrix (display : Display) : List (List Bool) :=
  display.rows.map pixels

/-- How many pixels are on. -/
def litCount (display : Display) : Nat :=
  display.rows.foldl (fun count row => count + Bits.ones row.natAbs) 0

/-- One line a row, a hash for a pixel that is on and a dot for one that is off. -/
def text (display : Display) : String :=
  let line row := String.ofList ((pixels row).map fun on => if on then '#' else '.')
  "\n".intercalate (display.rows.map line)

@[simp] theorem length_drawInto (column : Nat) (sprite : List UInt8) (rows : List Int) :
    (drawInto column sprite rows).1.length = rows.length := by
  fun_induction drawInto column sprite rows with
  | case1 byte sprite row rows mask rest hit shape ih => simp_all
  | case2 => rfl

@[simp] theorem length_rows_draw (display : Display) (x y : Int) (sprite : List UInt8) :
    (display.draw x y sprite).1.rows.length = display.rows.length := by
  simp only [draw, List.length_append, length_drawInto, List.length_take, List.length_drop]
  omega

end Display

namespace Frame

def block : Char := '█'

/-- A pixel is two characters wide. -/
def line (row : Int) : List Char :=
  (Display.pixels row).flatMap fun on => if on then [block, block] else [' ', ' ']

def chars (rows : List Int) : List Char :=
  ['\n'].intercalate (rows.map line) ++ ['\n']

def text (rows : List Int) : String :=
  String.ofList (chars rows)

/-- A frame as a terminal receives it: the cursor goes home first. -/
def redraw (rows : List Int) : String :=
  "\x1b[H" ++ text rows

/-- What empties the terminal. -/
def clearScreen : String := "\x1b[2J"

end Frame

/-- The side of a block. -/
def blockSide : Nat := 8

/-- Lines of picture elements, each a list of samples. -/
structure Image where
  width : Nat
  lines : List (List (List UInt8))

namespace Image

def shade (on : Bool) : List UInt8 :=
  List.replicate 3 (if on then 255 else 0)

/-- One line of a row of blocks. -/
def scanline (row : Int) : List (List UInt8) :=
  (Display.pixels row).flatMap fun on => List.replicate blockSide (shade on)

/-- No rows at all make one row of blocks without width. -/
def ofRows (rows : List Int) : Image :=
  if rows.isEmpty then ⟨0, List.replicate blockSide []⟩
  else
    ⟨blockSide * screenWidth,
      rows.flatMap fun row => List.replicate blockSide (scanline row)⟩

def height (image : Image) : Nat :=
  image.lines.length

/-- The image of a screen with all pixels off. -/
def blank : Image :=
  ofRows Display.blank.rows

end Image

end ChipEight
