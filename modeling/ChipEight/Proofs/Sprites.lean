import ChipEight.Proofs.Drawing
import ChipEight.Proofs.Validity

namespace ChipEight

namespace Memory

/-- The byte at an address of a memory that goes on behind its end. -/
def extended (memory : Memory) (beyond : Nat → UInt8) (address : Nat) : UInt8 :=
  if address < memory.size then memory.byteAt address else beyond (address - memory.size)

/-- Bytes one after the other from an address of the extended memory on. -/
def extendedBlock (memory : Memory) (beyond : Nat → UInt8) (address count : Nat) : List UInt8 :=
  (List.range count).map fun offset => memory.extended beyond (address + offset)

theorem length_extendedBlock (memory : Memory) (beyond : Nat → UInt8) (address count : Nat) :
    (memory.extendedBlock beyond address count).length = count := by
  rw [extendedBlock, List.length_map, List.length_range]

theorem block_eq_take {memory : Memory} {address length : Int}
    (whole : memory.bytes.size = memory.size) (covered : memory.Covers address length)
    (beyond : Nat → UInt8) {count : Nat} (enough : length ≤ count) :
    memory.block address length =
      (memory.extendedBlock beyond address.toNat count).take length.toNat := by
  obtain ⟨length, rfl⟩ := Int.eq_ofNat_of_zero_le covered.2.1
  rw [block_eq_map whole covered, extendedBlock, Int.toNat_natCast, ← List.map_take,
    List.take_range, Nat.min_eq_left (by omega)]
  obtain ⟨first, _, last⟩ := covered
  refine List.map_congr_left fun offset near => ?_
  have stored : address.toNat + offset < memory.size := by
    have := List.mem_range.mp near
    omega
  rw [extended, if_pos stored]

end Memory

namespace Display

theorem drawInto_take (origin : Nat) (sprite : List UInt8) (rows : List Int) {count : Nat}
    (enough : rows.length ≤ count) :
    drawInto origin (sprite.take count) rows = drawInto origin sprite rows := by
  induction sprite generalizing rows count with
  | nil => rw [List.take_nil]
  | cons byte sprite ih =>
    cases rows with
    | nil => simp [drawInto]
    | cons row rows =>
      cases count with
      | zero => cases enough
      | succ count =>
        rw [List.take_succ_cons, drawInto, drawInto, ih rows (Nat.le_of_succ_le_succ enough)]

theorem draw_wrapped (display : Display) (x y : Int) (sprite : List UInt8) :
    display.draw (x % screenWidth) (y % screenHeight) sprite = display.draw x y sprite := by
  simp only [draw, Int.emod_emod]

theorem draw_take {display : Display} (formed : display.WellFormed) (x y : Int)
    (sprite : List UInt8) {count : Nat}
    (enough : sprite.length ≤ count ∨ 32 - (y % 32).toNat ≤ count) :
    display.draw x y (sprite.take count) = display.draw x y sprite := by
  rcases enough with short | low
  · rw [List.take_of_length_le short]
  · have below : (display.rows.drop (y % screenHeight).toNat).length ≤ count := by
      rw [List.length_drop, formed.count]
      exact low
    simp only [draw, drawInto_take _ _ _ below]

end Display

namespace Operation

open State

variable {state : State}

theorem visibleRows_bounds (instruction : Instruction) (state : State) :
    0 ≤ visibleRows instruction state ∧ visibleRows instruction state ≤ instruction.n := by
  simp only [visibleRows, screenHeight]
  omega

/-- A sprite is refused for the rows that would be seen. -/
theorem refusal_draw (whole : state.memory.Whole 4096) (index : 0 ≤ state.index)
    {instruction : Instruction} {rows : Int} (visible : visibleRows instruction state = rows) :
    draw.refusal instruction state =
      if 0 < rows ∧ 4096 < state.index + rows then some (.outOfBounds state.index rows 4096)
      else none := by
  have bounds := visibleRows_bounds instruction state
  rw [refusal, visible]
  by_cases nothing : rows = 0
  · rw [if_pos nothing, if_neg (by omega)]
  · have positive : 0 < rows := by omega
    rw [if_neg nothing, whole.refusal_eq index (by omega)]
    simp only [positive, true_and]
    rfl

theorem block_sprite (whole : state.memory.Whole 4096) (instruction : Instruction)
    (granted : draw.refusal instruction state = none) (beyond : Nat → UInt8) :
    state.memory.block state.index (visibleRows instruction state) =
      (state.memory.extendedBlock beyond state.index.toNat instruction.n).take
        (visibleRows instruction state).toNat := by
  by_cases nothing : visibleRows instruction state = 0
  · rw [nothing, Memory.block_zero, Int.toNat_zero, List.take_zero]
  · rw [refusal, if_neg nothing] at granted
    exact Memory.block_eq_take (whole.2.trans whole.1.symm) (Memory.refusal_eq_none.mp granted)
      beyond (visibleRows_bounds instruction state).2

/-- All rows of a sprite are drawn, also those that are not read. -/
theorem drawEffect_eq (whole : state.memory.Whole 4096) (formed : state.display.WellFormed)
    (instruction : Instruction) (granted : draw.refusal instruction state = none)
    (beyond : Nat → UInt8) :
    let stroke : Stroke :=
      ⟨state.register instruction.x, state.register instruction.y,
        state.memory.extendedBlock beyond state.index.toNat instruction.n⟩
    drawEffect instruction state =
      { state.setFlag (state.display.hits stroke) with display := state.display.drawn stroke } := by
  intro stroke
  have seen : stroke.sprite.length ≤ (visibleRows instruction state).toNat ∨
      32 - (state.register instruction.y % 32).toNat ≤ (visibleRows instruction state).toNat := by
    rw [Memory.length_extendedBlock]
    simp only [visibleRows, screenHeight]
    omega
  have drawn : state.display.draw (stroke.x % screenWidth) (stroke.y % screenHeight)
      (state.memory.block state.index (visibleRows instruction state)) =
        state.display.draw stroke.x stroke.y stroke.sprite := by
    rw [Display.draw_wrapped, block_sprite whole instruction granted beyond]
    exact Display.draw_take formed _ _ _ seen
  have effect : drawEffect instruction state =
      let drawing := state.display.draw (stroke.x % screenWidth) (stroke.y % screenHeight)
        (state.memory.block state.index (visibleRows instruction state))
      { state.setFlag drawing.2 with display := drawing.1 } := rfl
  rw [effect, drawn]
  rfl

/-- A sprite is refused exactly when rows that land on the screen lie behind the end of memory.
Otherwise it is drawn as if all its rows were read, from a memory that goes on with any bytes. -/
theorem sprite_drawn_whole (valid : state.valid = true) (whole : state.memory.Whole 4096)
    (formed : state.display.WellFormed) (strict : Bool) {word : Nat}
    (drawing : word / 0x1000 = 0xD) (beyond : Nat → UInt8) :
    let x := state.register (word / 0x100 % 0x10)
    let y := state.register (word / 0x10 % 0x10)
    let rows := min ((word % 0x10 : Nat) : Int) (32 - y % 32)
    let plain : Stroke :=
      ⟨x, y, state.memory.extendedBlock beyond state.index.toNat (word % 0x10)⟩
    let result := (executeWord strict word).run state
    ((∃ address length size, raised result = some (.fault (.outOfBounds address length size))) ↔
      0 < rows ∧ 4096 < state.index + rows) ∧
    (¬ (0 < rows ∧ 4096 < state.index + rows) → ∃ after, result = .ok .draw after ∧
      after.display = state.display.drawn plain ∧
      after.display.lights = symmDiff state.display.lights plain.paint ∧
      after.register 0xF =
        (if ∃ pixel ∈ state.display.lights, pixel ∉ after.display.lights then 1 else 0) ∧
      (∀ number, number ≠ 0xF → after.register number = state.register number) ∧
      { after with registers := state.registers, display := state.display } =
        { state with pc := (state.pc + 2) % 0x10000, cycles := state.cycles + 1 }) := by
  intro x y rows plain result
  obtain ⟨sized, _⟩ := (valid_iff whole).mp valid
  have index : 0 ≤ state.index := (fits_iff.mp sized.index).1
  have visible : visibleRows (.ofWord word) (state.advance 2) = rows :=
    visibleRows_ofWord word (state.advance 2)
  have refused : draw.refusal (.ofWord word) (state.advance 2) =
      if 0 < rows ∧ 4096 < state.index + rows then some (.outOfBounds state.index rows 4096)
      else none :=
    refusal_draw whole index visible
  have spelled : Instruction.Spells word .draw := drawing
  have ran : result = _ := run_executeWord_eq sized.shaped (by omega) spelled strict
  rw [refused] at ran
  by_cases past : 0 < rows ∧ 4096 < state.index + rows
  · rw [if_pos past] at ran
    refine ⟨iff_of_true ⟨_, _, _, by rw [ran]; rfl⟩ past, fun within => absurd past within⟩
  · rw [if_neg past] at refused ran
    refine ⟨iff_of_false ?_ past, fun _ => ⟨_, ran, ?_⟩⟩
    · rintro ⟨_, _, _, failed⟩
      rw [ran] at failed
      cases failed
    have drawn : draw.effect (.ofWord word) (state.advance 2) =
        { (state.advance 2).setFlag (state.display.hits plain) with
          display := state.display.drawn plain } := by
      have whole' : (state.advance 2).memory.Whole 4096 := whole
      have effect := drawEffect_eq whole' formed (.ofWord word) refused beyond
      rw [Instruction.x_ofWord, Instruction.y_ofWord, Instruction.n_ofWord] at effect
      exact effect
    rw [drawn]
    have flag := register_setRegister
      (by rw [sized.registerCount]; decide : 0xF < state.registers.length)
      (if state.display.hits plain then 1 else 0)
    refine ⟨rfl, formed.lights_drawn plain, ?_, fun number other => ?_, rfl⟩
    · refine (flag 0xF).trans ((if_pos rfl).trans ?_)
      simp only [formed.hits_iff_off]
    · exact (flag number).trans (if_neg other.symm)

/-- Of six rows at the end of the memory three are on the screen, and the last one turns off the
pixel in the corner. -/
theorem sprite_drawn_whole_edge :
    let state := { State.blank with
      registers := [62, 29] ++ List.replicate 14 0
      index := 4093
      memory := ⟨4096, Array.replicate 4096 0xFF⟩
      display := ⟨List.replicate 31 0 ++ [1]⟩ }
    state.valid = true ∧ state.memory.Whole 4096 ∧ state.display.WellFormed ∧
      0xD016 / 0x1000 = 0xD ∧
      ∃ after, (executeWord true 0xD016).run state = .ok .draw after ∧ after.register 0xF = 1 := by
  intro state
  have valid : state.valid = true := by decide +kernel
  have whole : state.memory.Whole 4096 := ⟨rfl, Array.size_replicate⟩
  have formed : state.display.WellFormed := ⟨rfl, by decide⟩
  have drawing : 0xD016 / 0x1000 = 0xD := by decide
  obtain ⟨_, succeeds⟩ := sprite_drawn_whole valid whole formed true drawing fun _ => 0
  obtain ⟨after, ran, _, flipped, flag, _⟩ := succeeds (by decide)
  refine ⟨valid, whole, formed, drawing, after, ran, flag.trans (if_pos ?_)⟩
  have corner : (63, 31) ∈ state.display.lights :=
    Display.mem_lights.mpr ⟨by decide, by decide⟩
  have byte : (state.memory.extendedBlock (fun _ => 0) 4093 6).getD 2 0 = 0xFF := by
    simp [state, Memory.extendedBlock, Memory.extended, Memory.byteAt]
  have bit :
      ((state.memory.extendedBlock (fun _ => 0) 4093 6).getD 2 0).toNat.testBit 6 = true := by
    rw [byte]
    rfl
  refine ⟨(63, 31), corner, ?_⟩
  rw [flipped, Finset.mem_symmDiff]
  rintro (⟨_, uncovered⟩ | ⟨_, off⟩)
  · refine uncovered (Stroke.mem_paint.mpr ⟨by decide, ?_⟩)
    exact ⟨by decide, by decide, by decide, by decide, bit⟩
  · exact off corner

end Operation

end ChipEight
