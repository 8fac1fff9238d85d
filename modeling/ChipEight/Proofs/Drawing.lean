import ChipEight.Proofs.Lights
import Mathlib.Data.List.Perm.Basic

/-! Drawing as a change of pixels. A sprite covers the pixels that its set bits fall on, and drawing
it turns exactly these over: the picture becomes the symmetric difference of the two sets. -/

namespace ChipEight

/-- One drawing of a sprite. -/
structure Stroke where
  x : Int
  y : Int
  sprite : List UInt8

namespace Stroke

/-- The column that the left edge comes to, around the screen. -/
def column (stroke : Stroke) : Nat := (stroke.x % screenWidth).toNat

/-- The row that the upper edge comes to, around the screen. -/
def row (stroke : Stroke) : Nat := (stroke.y % screenHeight).toNat

/-- A set bit of the sprite falls on a place, which may lie off the screen. -/
def Covers (stroke : Stroke) (column row : Nat) : Prop :=
  stroke.column ≤ column ∧ column < stroke.column + 8 ∧
    stroke.row ≤ row ∧ row - stroke.row < stroke.sprite.length ∧
      (stroke.sprite.getD (row - stroke.row) 0).toNat.testBit (7 - (column - stroke.column)) = true

instance (stroke : Stroke) (column row : Nat) : Decidable (stroke.Covers column row) :=
  inferInstanceAs (Decidable (_ ∧ _ ∧ _ ∧ _ ∧ _))

/-- The pixels of the screen that are covered. -/
def paint (stroke : Stroke) : Finset (Nat × Nat) :=
  Display.screen.filter fun pixel => stroke.Covers pixel.1 pixel.2

/-- Where a bit of the sprite falls, which is named by its distance from the upper left one. -/
def place (stroke : Stroke) (bit : Nat × Nat) : Nat × Nat :=
  (stroke.column + bit.1, stroke.row + bit.2)

/-- The set bits of the sprite that land on the screen. -/
def landing (stroke : Stroke) : Finset (Nat × Nat) :=
  (Finset.range 8 ×ˢ Finset.range stroke.sprite.length).filter fun bit =>
    (stroke.sprite.getD bit.2 0).toNat.testBit (7 - bit.1) = true ∧
      (stroke.place bit).1 < screenWidth ∧ (stroke.place bit).2 < screenHeight

variable {stroke : Stroke} {column row : Nat}

theorem column_lt (stroke : Stroke) : stroke.column < 64 := by
  simp only [Stroke.column, screenWidth]
  omega

theorem mem_paint : (column, row) ∈ stroke.paint ↔
    (column < 64 ∧ row < 32) ∧ stroke.Covers column row := by
  rw [paint, Finset.mem_filter, Display.mem_screen]

theorem place_injective (stroke : Stroke) : Function.Injective stroke.place := by
  rintro ⟨across, down⟩ ⟨across', down'⟩ same
  simp only [place, Prod.mk.injEq, Nat.add_left_cancel_iff] at same
  rw [same.1, same.2]

theorem mem_landing {across down : Nat} : (across, down) ∈ stroke.landing ↔
    (across < 8 ∧ down < stroke.sprite.length) ∧
      (stroke.sprite.getD down 0).toNat.testBit (7 - across) = true ∧
        stroke.column + across < 64 ∧ stroke.row + down < 32 := by
  rw [landing, Finset.mem_filter, Finset.mem_product, Finset.mem_range, Finset.mem_range]
  rfl

theorem image_landing (stroke : Stroke) : stroke.landing.image stroke.place = stroke.paint := by
  ext ⟨column, row⟩
  simp only [Finset.mem_image, mem_paint, mem_landing, Prod.exists, place, Prod.mk.injEq]
  constructor
  · rintro ⟨across, down, ⟨⟨near, inside⟩, set, shown⟩, rfl, rfl⟩
    refine ⟨shown, by omega, by omega, by omega, by omega, ?_⟩
    rw [Nat.add_sub_cancel_left, Nat.add_sub_cancel_left]
    exact set
  · rintro ⟨shown, left, right, top, bottom, set⟩
    refine ⟨column - stroke.column, row - stroke.row, ⟨⟨by omega, bottom⟩, set, ?_⟩,
      Nat.add_sub_of_le left, Nat.add_sub_of_le top⟩
    rw [Nat.add_sub_of_le left, Nat.add_sub_of_le top]
    exact shown

theorem card_landing (stroke : Stroke) : stroke.landing.card = stroke.paint.card := by
  rw [← image_landing, Finset.card_image_of_injective _ stroke.place_injective]

theorem card_landing_on (stroke : Stroke) (pixels : Finset (Nat × Nat)) :
    (stroke.landing.filter fun bit => stroke.place bit ∈ pixels).card =
      (pixels ∩ stroke.paint).card := by
  rw [Finset.inter_comm, ← Finset.filter_mem_eq_inter, ← image_landing, Finset.filter_image,
    Finset.card_image_of_injective _ stroke.place_injective]

end Stroke

namespace Display

variable {display : Display} {column row : Nat}

theorem testBit_spriteMask {origin : Nat} (start : origin < 64) (byte : UInt8)
    (inside : column < 64) :
    (spriteMask origin byte).testBit (63 - column) =
      (decide (origin ≤ column ∧ column < origin + 8) &&
        byte.toNat.testBit (7 - (column - origin))) := by
  have small : byte.toNat < 2 ^ 8 := byte.toNat_lt
  have above {place : Nat} (far : 8 ≤ place) : byte.toNat.testBit place = false :=
    Nat.testBit_lt_two_pow (Nat.lt_of_lt_of_le small (Nat.pow_le_pow_right (by decide) far))
  -- Both ways of shifting bring the bit for this column from the same place.
  have shifted : (spriteMask origin byte).testBit (63 - column) =
      (decide (column < origin + 8) && byte.toNat.testBit (origin + 7 - column)) := by
    have wide : screenWidth - 8 = 56 := rfl
    rw [spriteMask, wide]
    by_cases room : origin ≤ 56
    · rw [if_pos room, Nat.testBit_shiftLeft]
      by_cases right : column < origin + 8
      · rw [show 63 - column - (56 - origin) = origin + 7 - column by omega]
        rw [decide_eq_true right, decide_eq_true (by omega)]
      · rw [decide_eq_false right, decide_eq_false (by omega), Bool.false_and, Bool.false_and]
    · rw [if_neg room, Nat.testBit_shiftRight, decide_eq_true (by omega), Bool.true_and]
      rw [show origin - 56 + (63 - column) = origin + 7 - column by omega]
  rw [shifted]
  by_cases left : origin ≤ column
  · by_cases right : column < origin + 8
    · rw [show origin + 7 - column = 7 - (column - origin) by omega]
      simp only [left, right, and_self]
    · simp only [right, and_false, decide_false, Bool.false_and]
  · rw [above (by omega)]
    simp only [left, false_and, decide_false, Bool.false_and, Bool.and_false]

theorem spriteMask_zero (origin : Nat) : spriteMask origin 0 = 0 := by
  simp [spriteMask]

theorem drawInto_nil (origin : Nat) (rows : List Int) :
    drawInto origin [] rows = (rows, false) := by
  simp [drawInto]

theorem getD_drawInto (origin : Nat) (sprite : List UInt8) (rows : List Int) {down : Nat}
    (inside : down < rows.length) :
    (drawInto origin sprite rows).1.getD down 0 =
      Bits.xor (rows.getD down 0) (spriteMask origin (sprite.getD down 0)) := by
  induction sprite generalizing rows down with
  | nil => rw [drawInto_nil, List.getD_nil, spriteMask_zero, Int.natCast_zero, Bits.xor_zero]
  | cons byte sprite ih =>
    cases rows with
    | nil => cases inside
    | cons row rows =>
      cases down with
      | zero => rfl
      | succ down => exact ih rows (Nat.lt_of_succ_lt_succ inside)

theorem hit_drawInto (origin : Nat) (sprite : List UInt8) (rows : List Int) :
    (drawInto origin sprite rows).2 = true ↔ ∃ down < rows.length,
      Bits.and (rows.getD down 0) (spriteMask origin (sprite.getD down 0)) ≠ 0 := by
  induction sprite generalizing rows with
  | nil => simp [drawInto_nil, spriteMask_zero, Bits.and_zero]
  | cons byte sprite ih =>
    cases rows with
    | nil => simp [drawInto]
    | cons row rows =>
      simp only [drawInto, Bool.or_eq_true, bne_iff_ne, ih, List.length_cons]
      constructor
      · rintro (first | ⟨down, inside, below⟩)
        · exact ⟨0, Nat.succ_pos _, first⟩
        · exact ⟨down + 1, Nat.succ_lt_succ inside, below⟩
      · rintro ⟨_ | down, inside, hit⟩
        · exact .inl hit
        · exact .inr ⟨down, Nat.lt_of_succ_lt_succ inside, hit⟩

theorem covers_iff {stroke : Stroke} (inside : column < 64) :
    stroke.Covers column row ↔ stroke.row ≤ row ∧
      (spriteMask stroke.column (stroke.sprite.getD (row - stroke.row) 0)).testBit (63 - column) =
        true := by
  rw [testBit_spriteMask stroke.column_lt _ inside, Bool.and_eq_true, decide_eq_true_eq]
  constructor
  · rintro ⟨left, right, top, _, set⟩
    exact ⟨top, ⟨left, right⟩, set⟩
  · rintro ⟨top, ⟨left, right⟩, set⟩
    refine ⟨left, right, top, ?_, set⟩
    by_contra below
    rw [List.getD_eq_default _ _ (Nat.le_of_not_lt below), UInt8.toNat_zero,
      Nat.zero_testBit] at set
    cases set

/-- The picture after a drawing. -/
def drawn (display : Display) (stroke : Stroke) : Display :=
  (display.draw stroke.x stroke.y stroke.sprite).1

/-- Whether a drawing turns a pixel off. -/
def hits (display : Display) (stroke : Stroke) : Bool :=
  (display.draw stroke.x stroke.y stroke.sprite).2

theorem rows_drawn (display : Display) (stroke : Stroke) :
    (display.drawn stroke).rows = display.rows.take stroke.row ++
      (drawInto stroke.column stroke.sprite (display.rows.drop stroke.row)).1 := rfl

theorem getD_drop (rows : List Int) (first down : Nat) :
    (rows.drop first).getD down 0 = rows.getD (first + down) 0 := by
  rw [List.getD_eq_getElem?_getD, List.getElem?_drop, List.getD_eq_getElem?_getD]

theorem getD_drawn (display : Display) (stroke : Stroke) (inside : row < display.rows.length) :
    (display.drawn stroke).rows.getD row 0 =
      if stroke.row ≤ row then
        Bits.xor (display.rows.getD row 0)
          (spriteMask stroke.column (stroke.sprite.getD (row - stroke.row) 0))
      else display.rows.getD row 0 := by
  have upper : (display.rows.take stroke.row).length = min stroke.row display.rows.length :=
    List.length_take
  rw [rows_drawn]
  by_cases top : stroke.row ≤ row
  · have below : row - stroke.row < (display.rows.drop stroke.row).length := by
      rw [List.length_drop]
      omega
    rw [if_pos top, List.getD_append_right _ _ _ _ (by omega), upper, Nat.min_eq_left (by omega),
      getD_drawInto _ _ _ below, getD_drop, Nat.add_sub_of_le top]
  · rw [if_neg top, List.getD_append _ _ _ _ (by omega), List.getD_eq_getElem?_getD,
      List.getElem?_take_of_lt (by omega), List.getD_eq_getElem?_getD]

variable {stroke : Stroke}

theorem lit_drawn (formed : display.WellFormed) (inside : column < 64 ∧ row < 32) :
    lit ((display.drawn stroke).rows.getD row 0) column =
      (lit (display.rows.getD row 0) column ^^ decide (stroke.Covers column row)) := by
  have covered : stroke.Covers column row ↔ stroke.row ≤ row ∧ _ := covers_iff inside.1
  rw [getD_drawn display stroke (by rw [formed.count]; exact inside.2)]
  by_cases top : stroke.row ≤ row
  · have bit : (spriteMask stroke.column (stroke.sprite.getD (row - stroke.row) 0)).testBit
        (63 - column) = decide (stroke.Covers column row) := by
      rw [Bool.eq_iff_iff, decide_eq_true_eq, covered]
      exact ⟨fun set => ⟨top, set⟩, fun both => both.2⟩
    rw [if_pos top, lit, Bits.test_xor (formed.fits_getD row), lit, ← bit]
    rfl
  · rw [if_neg top, decide_eq_false fun covers => top (covered.mp covers).1, Bool.xor_false]

/-- Drawing turns the covered pixels over. -/
theorem WellFormed.lights_drawn (formed : display.WellFormed) (stroke : Stroke) :
    (display.drawn stroke).lights = symmDiff display.lights stroke.paint := by
  ext ⟨column, row⟩
  rw [Finset.mem_symmDiff, mem_lights, mem_lights, Stroke.mem_paint]
  by_cases inside : column < 64 ∧ row < 32
  · rw [lit_drawn formed inside, Bool.xor_iff_ne]
    by_cases covered : stroke.Covers column row <;> simp [inside, covered]
  · simp [inside]

theorem WellFormed.drawn (formed : display.WellFormed) (stroke : Stroke) :
    (display.drawn stroke).WellFormed :=
  formed.draw _ _ _

/-- A drawing hits where it covers a pixel that is on. -/
theorem WellFormed.hits_iff (formed : display.WellFormed) (stroke : Stroke) :
    display.hits stroke = true ↔ (display.lights ∩ stroke.paint).Nonempty := by
  have drawn : display.hits stroke =
      (drawInto stroke.column stroke.sprite (display.rows.drop stroke.row)).2 := rfl
  rw [drawn, hit_drawInto, List.length_drop, formed.count]
  simp only [getD_drop, Finset.Nonempty, Prod.exists, Finset.mem_inter, mem_lights,
    Stroke.mem_paint]
  constructor
  · rintro ⟨down, inside, common⟩
    obtain ⟨place, on, set⟩ := (Bits.and_ne_zero (formed.fits_getD _) _).mp common
    have near : place < 64 := by
      by_contra far
      rw [Bits.test_beyond (formed.fits_getD _) (Nat.le_of_not_lt far)] at on
      cases on
    have shown : 63 - place < 64 ∧ stroke.row + down < 32 := by omega
    have column : 63 - (63 - place) = place := by omega
    refine ⟨63 - place, stroke.row + down, ⟨shown, ?_⟩, shown, ?_⟩
    · rw [lit, screenWidth, show 64 - 1 - (63 - place) = place from column]
      exact on
    · rw [covers_iff shown.1, Nat.add_sub_cancel_left, column]
      exact ⟨Nat.le_add_right _ _, set⟩
  · rintro ⟨column, row, ⟨inside, on⟩, _, covers⟩
    obtain ⟨top, set⟩ := (covers_iff inside.1).mp covers
    refine ⟨row - stroke.row, by omega, ?_⟩
    rw [Nat.add_sub_of_le top, Bits.and_ne_zero (formed.fits_getD row)]
    exact ⟨63 - column, on, set⟩

theorem WellFormed.hits_iff_off (formed : display.WellFormed) (stroke : Stroke) :
    display.hits stroke = true ↔
      ∃ pixel ∈ display.lights, pixel ∉ (display.drawn stroke).lights := by
  rw [formed.hits_iff, formed.lights_drawn]
  refine exists_congr fun pixel => ?_
  rw [Finset.mem_inter, Finset.mem_symmDiff]
  tauto

/-- A drawing turns over the pixels that the set bits of its sprite fall on, from an origin that
wraps around and with no wrapping behind it, and tells whether one of them was on. -/
theorem draw_flips (formed : display.WellFormed) (stroke : Stroke) :
    let drawing := display.draw stroke.x stroke.y stroke.sprite
    (∀ column row : Nat, column < 64 → row < 32 → ∃ before after : Bool,
      display.pixel column row = .ok before ∧ drawing.1.pixel column row = .ok after ∧
        (after ≠ before ↔ stroke.Covers column row)) ∧
    (drawing.2 = true ↔ ∃ column row : Nat, (column < 64 ∧ row < 32) ∧
      stroke.Covers column row ∧ display.pixel column row = .ok true) ∧
    drawing.1.rows.length = 32 ∧ ∀ row ∈ drawing.1.rows, 0 ≤ row ∧ row < 2 ^ 64 := by
  intro drawing
  have formed' : drawing.1.WellFormed := formed.drawn stroke
  have flipped : drawing.1.lights = symmDiff display.lights stroke.paint :=
    formed.lights_drawn stroke
  refine ⟨fun column row near high => ?_, ?_, formed'.count, fun row member => ?_⟩
  · refine ⟨_, _, formed.pixel_eq ⟨near, high⟩, formed'.pixel_eq ⟨near, high⟩, ?_⟩
    have painted : (column, row) ∈ stroke.paint ↔ stroke.Covers column row :=
      Stroke.mem_paint.trans (and_iff_right ⟨near, high⟩)
    rw [flipped, ← painted, ne_eq, decide_eq_decide, Finset.mem_symmDiff]
    tauto
  · refine (formed.hits_iff stroke).trans ?_
    simp only [Finset.Nonempty, Prod.exists, Finset.mem_inter]
    refine exists_congr fun column => exists_congr fun row => ?_
    rw [Stroke.mem_paint]
    constructor
    · rintro ⟨on, inside, covers⟩
      exact ⟨inside, covers, by rw [formed.pixel_eq inside, decide_eq_true on]⟩
    · rintro ⟨inside, covers, on⟩
      rw [formed.pixel_eq inside] at on
      exact ⟨of_decide_eq_true (Except.ok.inj on), inside, covers⟩
  · exact State.fits_iff.mp (formed'.rows row member)

/-- In the lower right corner nothing comes out on the other side. -/
theorem draw_flips_corner :
    let display : Display := ⟨List.replicate 31 0 ++ [1]⟩
    let drawing := display.draw (-4) 63 [0x1F, 0xFF]
    display.WellFormed ∧ drawing.2 = true ∧ drawing.1.pixel (63 : Nat) (31 : Nat) = .ok false ∧
      drawing.1.pixel (0 : Nat) (31 : Nat) = .ok false := by
  intro display drawing
  have formed : display.WellFormed := ⟨rfl, by decide⟩
  obtain ⟨flips, hits, _⟩ := draw_flips formed ⟨-4, 63, [0x1F, 0xFF]⟩
  have corner : display.pixel (63 : Nat) (31 : Nat) = .ok true := by decide
  refine ⟨formed, hits.mpr ⟨63, 31, by decide, by decide, corner⟩, ?_, ?_⟩
  · obtain ⟨before, after, was, now, changed⟩ := flips 63 31 (by decide) (by decide)
    have on : before = true := Except.ok.inj (was.symm.trans corner)
    have off : after = false := by
      rw [on] at changed
      simpa using changed.mpr (by decide)
    rw [off] at now
    exact now
  · obtain ⟨before, after, was, now, changed⟩ := flips 0 31 (by decide) (by decide)
    have off : before = false := Except.ok.inj (was.symm.trans (by decide))
    have kept : after = before := by
      by_contra turned
      exact absurd (changed.mp turned) (by decide)
    rw [kept, off] at now
    exact now

/-- The picture after some drawings, one after the other. -/
def drawnAll (display : Display) (strokes : List Stroke) : Display :=
  strokes.foldl drawn display

theorem WellFormed.drawnAll (formed : display.WellFormed) (strokes : List Stroke) :
    (display.drawnAll strokes).WellFormed := by
  induction strokes generalizing display with
  | nil => exact formed
  | cons stroke strokes ih => exact ih (formed.drawn stroke)

theorem WellFormed.lights_drawnAll (formed : display.WellFormed) (strokes : List Stroke) :
    (display.drawnAll strokes).lights =
      strokes.foldl (fun lights stroke => symmDiff lights stroke.paint) display.lights := by
  induction strokes generalizing display with
  | nil => rfl
  | cons stroke strokes ih =>
    rw [List.foldl_cons, ← formed.lights_drawn]
    exact ih (formed.drawn stroke)

theorem WellFormed.drawnAll_perm (formed : display.WellFormed) {strokes others : List Stroke}
    (moved : strokes.Perm others) : display.drawnAll strokes = display.drawnAll others := by
  apply (formed.drawnAll strokes).eq_of_lights (formed.drawnAll others)
  have free : RightCommutative fun (lights : Finset (Nat × Nat)) (stroke : Stroke) =>
      symmDiff lights stroke.paint :=
    ⟨fun _ _ _ => symmDiff_right_comm _ _ _⟩
  rw [formed.lights_drawnAll, formed.lights_drawnAll, moved.foldl_eq]

theorem WellFormed.drawn_twice (formed : display.WellFormed) (stroke : Stroke) :
    (display.drawn stroke).drawn stroke = display := by
  apply ((formed.drawn stroke).drawn stroke).eq_of_lights formed
  rw [(formed.drawn stroke).lights_drawn, formed.lights_drawn, symmDiff_symmDiff_cancel_right]

theorem card_symmDiff (lights paint : Finset (Nat × Nat)) :
    (symmDiff lights paint).card + 2 * (lights ∩ paint).card = lights.card + paint.card := by
  have apart : Disjoint (lights \ paint) (paint \ lights) := disjoint_sdiff_sdiff
  have kept := Finset.card_inter_add_card_sdiff lights paint
  have added := Finset.card_inter_add_card_sdiff paint lights
  rw [Finset.inter_comm] at added
  rw [symmDiff_def, Finset.sup_eq_union, Finset.card_union_of_disjoint apart]
  omega

/-- The order of drawings does not matter, two that are the same cancel, and of the set bits on the
screen those that meet a pixel that is on turn it off. -/
theorem drawings_settle (formed : display.WellFormed) :
    (∀ strokes others : List Stroke, strokes.Perm others →
      (display.drawnAll strokes).rows = (display.drawnAll others).rows) ∧
    (∀ before between after stroke,
      (display.drawnAll (before ++ stroke :: (between ++ stroke :: after))).rows =
        (display.drawnAll (before ++ (between ++ after))).rows) ∧
    ∀ stroke : Stroke,
      let m := stroke.landing.card
      let c := (stroke.landing.filter fun bit => stroke.place bit ∈ display.lights).card
      ((display.drawn stroke).litCount : Int) = display.litCount + m - 2 * c ∧
      (display.hits stroke = true ↔ 0 < c) ∧
      ((display.drawn stroke).hits stroke = true ↔ c < m) := by
  refine ⟨fun strokes others moved => ?_, fun before between after stroke => ?_, fun stroke => ?_⟩
  · rw [formed.drawnAll_perm moved]
  · have gathered : (before ++ stroke :: (between ++ stroke :: after)).Perm
        (stroke :: stroke :: (before ++ (between ++ after))) := by
      refine List.perm_middle.trans (List.Perm.cons _ ?_)
      rw [← List.append_assoc, ← List.append_assoc]
      exact List.perm_middle
    have cancelled : display.drawnAll (stroke :: stroke :: (before ++ (between ++ after))) =
        display.drawnAll (before ++ (between ++ after)) :=
      congrArg (Display.drawnAll · _) (formed.drawn_twice stroke)
    rw [formed.drawnAll_perm gathered, cancelled]
  · intro m c
    have formed' := formed.drawn stroke
    have bits : m = stroke.paint.card := stroke.card_landing
    have met : c = (display.lights ∩ stroke.paint).card := stroke.card_landing_on _
    have total := card_symmDiff display.lights stroke.paint
    have fresh := Finset.card_inter_add_card_sdiff stroke.paint display.lights
    refine ⟨?_, ?_, ?_⟩
    · rw [formed'.litCount_eq, formed.litCount_eq, formed.lights_drawn]
      omega
    · rw [formed.hits_iff, met, Finset.card_pos]
    · have again :
          (display.drawn stroke).lights ∩ stroke.paint = stroke.paint \ display.lights := by
        rw [formed.lights_drawn]
        ext pixel
        simp only [Finset.mem_inter, Finset.mem_symmDiff, Finset.mem_sdiff]
        tauto
      rw [Finset.inter_comm] at fresh
      rw [formed'.hits_iff, again, ← Finset.card_pos]
      omega

/-- Drawn before and after another one, a sprite leaves only that one behind. -/
theorem drawings_settle_around :
    let wide : Stroke := ⟨60, 0, [0xFF, 0x81]⟩
    let tall : Stroke := ⟨61, 30, [0x80, 0x80, 0x80]⟩
    blank.WellFormed ∧
      (blank.drawnAll [wide, tall, wide]).rows = (blank.drawnAll [tall]).rows ∧
      (blank.drawn wide).litCount = 5 ∧ (blank.drawn wide).hits wide = true := by
  intro wide tall
  obtain ⟨_, cancel, account⟩ := drawings_settle .blank
  obtain ⟨count, _, again⟩ := account wide
  have bits : wide.landing.card = 5 := by decide +kernel
  have met : (wide.landing.filter fun bit => wide.place bit ∈ blank.lights).card = 0 := by
    simp [lights_blank]
  rw [bits, met] at count again
  have before : blank.litCount = 0 := rfl
  refine ⟨.blank, cancel [] [tall] [] wide, ?_, again.mpr (by decide)⟩
  rw [before] at count
  omega

end Display

end ChipEight
