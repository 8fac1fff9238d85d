import ChipEight.Proofs.Dumps
import ChipEight.Proofs.Lights

namespace ChipEight

section Blocks

variable {α β : Type} {block : α → List β} {width : Nat}

theorem length_flatMap_blocks (wide : ∀ item, (block item).length = width) (row : List α) :
    (row.flatMap block).length = width * row.length := by
  induction row with
  | nil => rfl
  | cons item row ih =>
    rw [List.flatMap_cons, List.length_append, wide, ih, List.length_cons, Nat.mul_succ,
      Nat.add_comm]

/-- A place in a row of blocks of one width is a place in one of the blocks. -/
theorem getElem?_flatMap_blocks (wide : ∀ item, (block item).length = width) (row : List α)
    (place : Nat) {offset : Nat} (inside : offset < width) :
    (row.flatMap block)[width * place + offset]? =
      row[place]?.bind fun item => (block item)[offset]? := by
  induction row generalizing place with
  | nil => rfl
  | cons item row ih =>
    rw [List.flatMap_cons]
    cases place with
    | zero =>
      rw [List.getElem?_append_left (by rw [wide]; omega), Nat.mul_zero, Nat.zero_add]
      rfl
    | succ place =>
      have behind : width * (place + 1) + offset = width + (width * place + offset) := by
        rw [Nat.mul_succ]
        omega
      rw [behind, List.getElem?_append_right (by rw [wide]; omega), wide, Nat.add_sub_cancel_left,
        ih, List.getElem?_cons_succ]

end Blocks

namespace Text

theorem lines_intercalate_ended {text : List Char} {texts : List (List Char)}
    (unbroken : ∀ line ∈ text :: texts, ∀ char ∈ line, isLineBreak char = false) :
    lines (['\n'].intercalate (text :: texts) ++ ['\n']) = text :: texts := by
  induction texts generalizing text with
  | nil =>
    rw [List.intercalate_singleton, lines_ended (unbroken text (List.mem_singleton_self text))]
    rfl
  | cons next texts ih =>
    obtain ⟨first, others⟩ := List.forall_mem_cons.mp unbroken
    rw [List.intercalate_cons_cons, List.append_assoc, List.append_assoc, List.singleton_append,
      lines_ended first, ih others]

end Text

namespace Display

open Text (isLineBreak)

variable {display other : Display} {column row : Nat} {on : Bool}

theorem length_pixels (bits : Int) : (pixels bits).length = 64 := by
  rw [pixels, List.length_map, List.length_range]
  rfl

theorem getElem?_pixels (bits : Int) (wide : column < 64) :
    (pixels bits)[column]? = some (lit bits column) := by
  have inside : column < screenWidth := wide
  simp [pixels, inside]

theorem WellFormed.getElem?_rows (formed : display.WellFormed) (high : row < 32) :
    display.rows[row]? = some (display.rows.getD row 0) := by
  rw [List.getD_eq_getElem?_getD, List.getElem?_eq_getElem (by rw [formed.count]; exact high)]
  rfl

theorem lines_text (display : Display) :
    Text.lines display.text.toList =
      display.rows.map fun bits => (pixels bits).map fun on => if on then '#' else '.' := by
  have listed : display.text.toList = ['\n'].intercalate
      (display.rows.map fun bits => (pixels bits).map fun on => if on then '#' else '.') := by
    rw [text, String.toList_intercalate, List.map_map]
    simp [Function.comp_def]
  rw [listed, Text.lines_intercalate]
  intro line member
  obtain ⟨bits, _, rfl⟩ := List.mem_map.mp member
  refine ⟨fun empty => ?_, fun char inside => ?_⟩
  · have wide := length_pixels bits
    rw [List.map_eq_nil_iff.mp empty] at wide
    cases wide
  · obtain ⟨on, _, rfl⟩ := List.mem_map.mp inside
    cases on <;> decide

theorem lines_frame {rows : List Int} (filled : rows ≠ []) :
    Text.lines (Frame.text rows).toList = rows.map Frame.line := by
  obtain ⟨first, others, rfl⟩ := List.exists_cons_of_ne_nil filled
  rw [Frame.text, String.toList_ofList, Frame.chars, List.map_cons, Text.lines_intercalate_ended]
  rw [← List.map_cons]
  intro line member char inside
  obtain ⟨bits, _, rfl⟩ := List.mem_map.mp member
  obtain ⟨on, _, shown⟩ := List.mem_flatMap.mp inside
  cases on
  · obtain rfl : char = ' ' := by simpa using shown
    decide
  · obtain rfl : char = Frame.block := by simpa using shown
    decide

theorem length_frameBlock (on : Bool) :
    (if on then [Frame.block, Frame.block] else [' ', ' ']).length = 2 := by
  cases on <;> rfl

theorem length_frameLine (bits : Int) : (Frame.line bits).length = 128 := by
  rw [Frame.line, length_flatMap_blocks length_frameBlock, length_pixels]

theorem getElem?_frameLine (bits : Int) (wide : column < 64) {half : Nat} (within : half < 2) :
    (Frame.line bits)[2 * column + half]? = some (if lit bits column then '█' else ' ') := by
  rw [Frame.line, getElem?_flatMap_blocks length_frameBlock _ _ within, getElem?_pixels bits wide,
    Option.bind_some]
  generalize lit bits column = on
  revert half on
  decide

theorem length_shades (on : Bool) : (List.replicate blockSide (Image.shade on)).length = 8 :=
  List.length_replicate

theorem length_scanline (bits : Int) : (Image.scanline bits).length = 512 := by
  rw [Image.scanline, length_flatMap_blocks length_shades, length_pixels]

theorem getElem?_scanline (bits : Int) (wide : column < 64) {right : Nat} (near : right < 8) :
    (Image.scanline bits)[8 * column + right]? =
      some (List.replicate 3 (if lit bits column then 255 else 0)) := by
  rw [Image.scanline, getElem?_flatMap_blocks length_shades _ _ near, getElem?_pixels bits wide,
    Option.bind_some, List.getElem?_replicate, if_pos (by exact near), Image.shade]

theorem length_scanlines (row : Int) :
    (List.replicate blockSide (Image.scanline row)).length = 8 :=
  List.length_replicate

theorem lines_image {rows : List Int} (filled : rows ≠ []) :
    (Image.ofRows rows).lines =
      rows.flatMap fun row => List.replicate blockSide (Image.scanline row) := by
  rw [Image.ofRows, if_neg (by simpa using filled)]

/-- How a pixel looks in the views, each with its lines from above and its columns from the left. -/
structure Looks (display : Display) (column row : Nat) (on : Bool) : Prop where
  pixel : display.pixel column row = .ok on
  matrix : (display.matrix[row]?.bind fun dots => dots[column]?) = some on
  text : ((Text.lines display.text.toList)[row]?.bind fun dots => dots[column]?) =
    some (if on then '#' else '.')
  frame : ∀ half < 2, ((Text.lines (Frame.text display.rows).toList)[row]?.bind fun dots =>
    dots[2 * column + half]?) = some (if on then '█' else ' ')
  image : ∀ down < 8, ∀ right < 8, ((Image.ofRows display.rows).lines[8 * row + down]?.bind
    fun dots => dots[8 * column + right]?) = some (List.replicate 3 (if on then 255 else 0))

theorem WellFormed.looks (formed : display.WellFormed) (inside : column < 64 ∧ row < 32) :
    display.Looks column row (decide ((column, row) ∈ display.lights)) := by
  have filled : display.rows ≠ [] := List.length_pos_iff.mp (by rw [formed.count]; decide)
  have found := formed.getElem?_rows inside.2
  have shown : decide ((column, row) ∈ display.lights) = lit (display.rows.getD row 0) column := by
    rw [Bool.eq_iff_iff, decide_eq_true_eq, mem_lights]
    exact ⟨fun both => both.2, fun on => ⟨inside, on⟩⟩
  have there := getElem?_pixels (display.rows.getD row 0) inside.1
  constructor
  · exact formed.pixel_eq inside
  · rw [matrix, List.getElem?_map, found, Option.map_some, Option.bind_some, there, shown]
  · rw [lines_text, List.getElem?_map, found, Option.map_some, Option.bind_some, List.getElem?_map,
      there, Option.map_some, shown]
  · intro half within
    rw [lines_frame filled, List.getElem?_map, found, Option.map_some, Option.bind_some,
      getElem?_frameLine _ inside.1 within, shown]
  · intro down low right near
    rw [lines_image filled, getElem?_flatMap_blocks length_scanlines _ _ low, found,
      Option.bind_some, List.getElem?_replicate, if_pos (by exact low), Option.bind_some,
      getElem?_scanline _ inside.1 near, shown]

/-- A pixel is on where its bit is set. Bit 63 of a row is its leftmost pixel. -/
def shines (display : Display) (column row : Nat) : Bool :=
  (display.rows.getD row 0).toNat.testBit (63 - column)

theorem WellFormed.shines_eq (formed : display.WellFormed) (column row : Nat) :
    display.shines column row = lit (display.rows.getD row 0) column := by
  obtain ⟨bits, same, _⟩ := Bits.eq_natCast (formed.fits_getD row)
  rw [shines, same, lit, Bits.test_natCast, Int.toNat_natCast]
  rfl

theorem WellFormed.litCount_shines (formed : display.WellFormed) :
    display.litCount = ((Finset.range 64 ×ˢ Finset.range 32).filter fun pixel =>
      display.shines pixel.1 pixel.2).card := by
  simp only [formed.shines_eq]
  rw [formed.litCount_eq, lights]
  unfold screen
  rfl

/-- An image of some pixels: eight by eight points for each, white for a pixel that is on and black
for one that is off. -/
structure Pictured (display : Display) (image : Image) : Prop where
  width : image.width = 512
  lines : image.lines.map List.length = List.replicate 256 512
  points : ∀ column < 64, ∀ row < 32, ∀ down < 8, ∀ right < 8,
    (image.lines[8 * row + down]?.bind fun points => points[8 * column + right]?) =
      some (List.replicate 3 (if display.shines column row then 255 else 0))

theorem WellFormed.eq_of_looks (formed : display.WellFormed) (formed' : other.WellFormed)
    (same : ∀ column row on on', display.Looks column row on →
      other.Looks column row on' → on = on') :
    display = other := by
  refine formed.eq_of_lights formed' (Finset.ext fun pixel => ?_)
  obtain ⟨column, row⟩ := pixel
  by_cases inside : column < 64 ∧ row < 32
  · simpa using same _ _ _ _ (formed.looks inside) (formed'.looks inside)
  · simp only [mem_lights, inside, false_and]

theorem map_length_eq {α : Type} {lines : List (List α)} {height width : Nat}
    (tall : lines.length = height) (wide : ∀ line ∈ lines, line.length = width) :
    lines.map List.length = List.replicate height width := by
  refine List.eq_replicate_iff.mpr ⟨by rw [List.length_map, tall], fun length member => ?_⟩
  obtain ⟨line, inside, rfl⟩ := List.mem_map.mp member
  exact wide line inside

theorem WellFormed.lengths_image (formed : display.WellFormed) :
    (Image.ofRows display.rows).lines.map List.length = List.replicate 256 512 := by
  have filled : display.rows ≠ [] := List.length_pos_iff.mp (by rw [formed.count]; decide)
  rw [lines_image filled]
  refine map_length_eq (by rw [length_flatMap_blocks length_scanlines, formed.count])
    fun line member => ?_
  obtain ⟨bits, _, inside⟩ := List.mem_flatMap.mp member
  rw [List.eq_of_mem_replicate inside, length_scanline]

theorem WellFormed.pictured (formed : display.WellFormed) :
    display.Pictured (Image.ofRows display.rows) where
  width := by
    have filled : display.rows ≠ [] := List.length_pos_iff.mp (by rw [formed.count]; decide)
    rw [Image.ofRows, if_neg (by simpa using filled)]
    rfl
  lines := formed.lengths_image
  points column wide row high down low right near := by
    rw [(formed.looks ⟨wide, high⟩).image down low right near, formed.shines_eq]
    simp only [mem_lights, wide, high, and_self, true_and, Bool.decide_eq_true]

theorem lines_imageBlank :
    Image.blank.lines = List.replicate 256 (List.replicate 512 [0, 0, 0]) := by
  have dark : Image.scanline 0 = List.replicate 512 [0, 0, 0] := by
    rw [Image.scanline, show pixels 0 = List.replicate 64 false from rfl, List.flatMap_replicate]
    exact List.flatten_replicate_replicate
  have filled : blank.rows ≠ [] := List.cons_ne_nil _ _
  rw [Image.blank, lines_image filled, show blank.rows = List.replicate 32 0 from rfl,
    List.flatMap_replicate, dark]
  exact List.flatten_replicate_replicate

theorem WellFormed.lights_eq (formed : display.WellFormed) :
    display.lights = (Finset.range 64 ×ˢ Finset.range 32).filter fun pixel =>
      display.pixel pixel.1 pixel.2 = .ok true := by
  ext ⟨column, row⟩
  rw [Finset.mem_filter, Finset.mem_product, Finset.mem_range, Finset.mem_range]
  constructor
  · intro on
    have inside := (mem_lights.mp on).1
    exact ⟨inside, by rw [formed.pixel_eq inside, decide_eq_true on]⟩
  · rintro ⟨inside, on⟩
    rw [formed.pixel_eq inside] at on
    exact of_decide_eq_true (Except.ok.inj on)

/-- All views of the screen agree pixel by pixel, have no other places than those of pixels, and no
two pictures have the same text, the same frame or the same image. -/
theorem views_agree (formed : display.WellFormed) :
    (∀ column row, column < 64 → row < 32 → ∃ on, display.Looks column row on) ∧
    display.matrix.map List.length = List.replicate 32 64 ∧
    (Text.lines display.text.toList).map List.length = List.replicate 32 64 ∧
    (Text.lines (Frame.text display.rows).toList).map List.length = List.replicate 32 128 ∧
    (Image.ofRows display.rows).lines.map List.length = List.replicate 256 512 ∧
    display.litCount = ((Finset.range 64 ×ˢ Finset.range 32).filter fun pixel =>
      display.pixel pixel.1 pixel.2 = .ok true).card ∧
    ∀ other : Display, other.WellFormed →
      display.text = other.text ∨ Frame.text display.rows = Frame.text other.rows ∨
        Image.ofRows display.rows = Image.ofRows other.rows → display.rows = other.rows := by
  have filled : display.rows ≠ [] := List.length_pos_iff.mp (by rw [formed.count]; decide)
  have tall {α : Type} (view : Int → List α) : (display.rows.map view).length = 32 := by
    rw [List.length_map, formed.count]
  refine ⟨fun column row wide high => ⟨_, formed.looks ⟨wide, high⟩⟩, ?_, ?_, ?_, ?_, ?_, ?_⟩
  · refine map_length_eq (tall pixels) fun line member => ?_
    obtain ⟨bits, _, rfl⟩ := List.mem_map.mp member
    exact length_pixels bits
  · rw [lines_text]
    refine map_length_eq (tall _) fun line member => ?_
    obtain ⟨bits, _, rfl⟩ := List.mem_map.mp member
    rw [List.length_map, length_pixels]
  · rw [lines_frame filled]
    refine map_length_eq (tall _) fun line member => ?_
    obtain ⟨bits, _, rfl⟩ := List.mem_map.mp member
    exact length_frameLine bits
  · exact formed.lengths_image
  · rw [formed.litCount_eq, formed.lights_eq]
  · intro other formed' same
    refine congrArg Display.rows (formed.eq_of_looks formed' fun column row on on' here there => ?_)
    rcases same with text | frame | image
    · have alike := here.text.symm.trans (text ▸ there.text)
      revert alike
      cases on <;> cases on' <;> decide
    · have alike := (here.frame 0 (by decide)).symm.trans (frame ▸ there.frame 0 (by decide))
      revert alike
      cases on <;> cases on' <;> decide
    · have alike := (here.image 0 (by decide) 0 (by decide)).symm.trans
        (image ▸ there.image 0 (by decide) 0 (by decide))
      revert alike
      cases on <;> cases on' <;> decide

/-- A picture with one pixel on, in the upper right corner. -/
theorem views_agree_corner :
    let display : Display := ⟨1 :: List.replicate 31 0⟩
    display.pixel 63 0 = .ok true ∧ display.Looks 63 0 true ∧ display.litCount = 1 ∧
      display.text ≠ blank.text := by
  intro display
  have formed : display.WellFormed := ⟨rfl, by decide⟩
  obtain ⟨looks, _, _, _, _, _, alone⟩ := views_agree formed
  have read : display.pixel 63 0 = .ok true := rfl
  obtain ⟨on, corner⟩ := looks 63 0 (by decide) (by decide)
  obtain rfl : true = on := Except.ok.inj (read.symm.trans corner.pixel)
  refine ⟨read, corner, by decide +kernel, fun same => ?_⟩
  have rows := alone blank .blank (.inl same)
  exact absurd rows (by decide)

end Display

end ChipEight
