import ChipEight.Proofs.Dumps
import ChipEight.Proofs.Stepping
import ChipEight.Report

/-! Printed texts by their lines. Numbers, names, instructions and the messages of faults have no
line break in them, so a report can be taken apart into the lines it was made of. -/

namespace ChipEight

namespace Text

/-- There is no line break in a text. -/
def Unbroken (text : String) : Prop :=
  ∀ char ∈ text.toList, isLineBreak char = false

instance (text : String) : Decidable (Unbroken text) :=
  List.decidableBAll (fun char => isLineBreak char = false) text.toList

/-- The lines of a text. -/
def linesOf (text : String) : List String :=
  (lines text.toList).map String.ofList

variable {text line between : String} {texts : List String}

@[simp]
theorem unbroken_append {first second : String} :
    Unbroken (first ++ second) ↔ Unbroken first ∧ Unbroken second := by
  simp only [Unbroken, String.toList_append, List.forall_mem_append]

theorem unbroken_ofList {chars : List Char} :
    Unbroken (String.ofList chars) ↔ ∀ char ∈ chars, isLineBreak char = false := by
  rw [Unbroken, String.toList_ofList]

theorem isLineBreak_leftpad {pad : Char} {chars : List Char} (plain : isLineBreak pad = false)
    (each : ∀ char ∈ chars, isLineBreak char = false) (width : Nat) :
    ∀ char ∈ chars.leftpad width pad, isLineBreak char = false := by
  rw [List.leftpad]
  refine List.forall_mem_append.mpr ⟨fun char member => ?_, each⟩
  rwa [List.eq_of_mem_replicate member]

theorem unbroken_intercalate (joint : Unbroken between) (each : ∀ text ∈ texts, Unbroken text) :
    Unbroken (between.intercalate texts) := by
  induction texts with
  | nil => simp [Unbroken]
  | cons text texts ih =>
    obtain ⟨first, others⟩ := List.forall_mem_cons.mp each
    cases texts with
    | nil => rwa [String.intercalate_singleton]
    | cons next texts =>
      rw [String.intercalate_cons_cons, unbroken_append, unbroken_append]
      exact ⟨⟨first, joint⟩, ih others⟩

theorem linesOf_ended (unbroken : Unbroken line) (text : String) :
    linesOf (line ++ "\n" ++ text) = line :: linesOf text := by
  have joined : (line ++ "\n" ++ text).toList = line.toList ++ '\n' :: text.toList := by
    simp
  rw [linesOf, joined, lines_ended unbroken, List.map_cons, String.ofList_toList, linesOf]

theorem linesOf_whole (unbroken : Unbroken line) (filled : line ≠ "") :
    linesOf line = [line] := by
  have filled : line.toList ≠ [] := by simpa using filled
  rw [linesOf, lines_unbroken filled unbroken, List.map_singleton, String.ofList_toList]

theorem ofLines_cons (line : String) (texts : List String) :
    Report.ofLines (line :: texts) = line ++ "\n" ++ Report.ofLines texts := by
  simp [Report.ofLines]

theorem ofLines_append (texts others : List String) :
    Report.ofLines (texts ++ others) = Report.ofLines texts ++ Report.ofLines others := by
  simp [Report.ofLines]

theorem linesOf_ofLines_append (unbroken : ∀ line ∈ texts, Unbroken line) (text : String) :
    linesOf (Report.ofLines texts ++ text) = texts ++ linesOf text := by
  induction texts with
  | nil => simp [Report.ofLines]
  | cons line texts ih =>
    obtain ⟨first, others⟩ := List.forall_mem_cons.mp unbroken
    rw [ofLines_cons, String.append_assoc, linesOf_ended first, ih others, List.cons_append]

theorem linesOf_ofLines (unbroken : ∀ line ∈ texts, Unbroken line) :
    linesOf (Report.ofLines texts) = texts := by
  have ended := linesOf_ofLines_append unbroken ""
  rwa [String.append_empty, show linesOf "" = [] from rfl, List.append_nil] at ended

theorem joined_ended (filled : texts ≠ []) :
    "\n".intercalate texts ++ "\n" = Report.ofLines texts := by
  induction texts with
  | nil => exact absurd rfl filled
  | cons line texts ih =>
    cases texts with
    | nil => simp [Report.ofLines]
    | cons next texts =>
      rw [String.intercalate_cons_cons, String.append_assoc, ih (List.cons_ne_nil next texts),
        ofLines_cons line]

/-- Some lines that are printed together, of which the last is not empty. -/
structure Block (block : List String) : Prop where
  unbroken : ∀ line ∈ block, Unbroken line
  filled : ∃ last, block.getLast? = some last ∧ last ≠ ""

theorem Block.ne_nil {block : List String} (whole : Block block) : block ≠ [] := by
  obtain ⟨last, ends, _⟩ := whole.filled
  rintro rfl
  cases ends

theorem block_line (unbroken : Unbroken line) (filled : line ≠ "") : Block [line] :=
  ⟨List.forall_mem_singleton.mpr unbroken, line, rfl, filled⟩

theorem block_apart (unbroken : Unbroken line) (filled : line ≠ "") : Block ["", line] :=
  ⟨by simpa +decide using unbroken, line, rfl, filled⟩

theorem linesOf_block {block : List String} (whole : Block block) :
    linesOf ("\n".intercalate block) = block := by
  obtain ⟨unbroken, last, ends, filled⟩ := whole
  induction block with
  | nil => rfl
  | cons line block ih =>
    obtain ⟨first, others⟩ := List.forall_mem_cons.mp unbroken
    cases block with
    | nil =>
      obtain rfl : line = last := Option.some.inj ends
      rw [String.intercalate_singleton, linesOf_whole first filled]
    | cons next block =>
      rw [List.getLast?_cons_cons] at ends
      rw [String.intercalate_cons_cons, linesOf_ended first, ih others ends]

/-- Blocks that are joined can be taken apart into their lines. -/
theorem linesOf_blocks {blocks : List (List String)} (whole : ∀ block ∈ blocks, Block block) :
    linesOf ("\n".intercalate (blocks.map "\n".intercalate)) = blocks.flatten := by
  induction blocks with
  | nil => rfl
  | cons block blocks ih =>
    obtain ⟨first, others⟩ := List.forall_mem_cons.mp whole
    cases blocks with
    | nil =>
      rw [List.map_singleton, String.intercalate_singleton, linesOf_block first,
        List.flatten_singleton]
    | cons next blocks =>
      rw [List.flatten_cons, List.map_cons, List.map_cons, String.intercalate_cons_cons,
        ← List.map_cons, joined_ended first.ne_nil, linesOf_ofLines_append first.unbroken,
          ih others]

/-- A line begins with a mark. -/
def Begins (mark line : String) : Prop :=
  mark.toList <+: line.toList

theorem begins_append (mark line : String) : Begins mark (mark ++ line) :=
  ⟨line.toList, String.toList_append.symm⟩

theorem not_begins {mark : String} (first : Char) (front : mark.toList.head? = some first)
    (other : line.toList.head? ≠ some first) : ¬ Begins mark line := by
  rintro ⟨rest, same⟩
  rw [← same, List.head?_append, front] at other
  exact other rfl

end Text

open Text (Unbroken isLineBreak isLineBreak_leftpad unbroken_ofList unbroken_intercalate)

theorem unbroken_capitals : Unbroken "0123456789ABCDEF" := by
  decide

@[simp]
theorem unbroken_natRepr (number : Nat) : Unbroken number.repr := by
  intro char member
  rw [Nat.toList_repr] at member
  exact Text.isDigit_cases (motive := fun char => isLineBreak char = false) (by decide)
    (Nat.isDigit_of_mem_toDigits (by decide) (by decide) member)

@[simp]
theorem unbroken_intRepr (number : Int) : Unbroken number.repr := by
  rw [Int.repr_eq_if]
  split
  · exact unbroken_natRepr _
  · exact Text.unbroken_append.mpr ⟨by decide, unbroken_natRepr _⟩

@[simp]
theorem unbroken_padded (width : Nat) (number : Int) : Unbroken (Hex.padded width number) := by
  have plain (width number : Nat) :
      ∀ digit ∈ (Hex.digits number).leftpad width '0', isLineBreak digit = false :=
    isLineBreak_leftpad (by decide) (fun digit member =>
      unbroken_capitals digit (Hex.capital_of_mem_digits member)) width
  rw [Hex.padded, unbroken_ofList, Hex.paddedChars]
  split
  · exact List.forall_mem_cons.mpr ⟨by decide, plain _ _⟩
  · exact plain _ _

@[simp]
theorem unbroken_registerName (register : Nat) : Unbroken (registerName register) :=
  Text.unbroken_append.mpr ⟨by decide, unbroken_padded 1 register⟩

@[simp]
theorem unbroken_status (status : Status) : Unbroken status.name := by
  cases status <;> decide

@[simp]
theorem unbroken_key (operation : Operation) : Unbroken operation.key := by
  cases operation <;> decide

theorem unbroken_rule {char : Char} (plain : isLineBreak char = false) (width : Nat) :
    Unbroken (Report.rule char width) := by
  rw [Report.rule, unbroken_ofList]
  intro other member
  rwa [List.eq_of_mem_replicate member]

theorem Operation.unbroken_operands (instruction : Instruction) (operation : Operation) :
    ∀ operand ∈ operation.operands instruction, Unbroken operand.text := by
  cases operation <;> simp +decide [operands, Operand.text]

theorem Operand.unbroken_listed {texts : List String} (each : ∀ text ∈ texts, Unbroken text) :
    ∀ text ∈ listed texts, Unbroken text := by
  induction texts using listed.induct with
  | case1 => simp [listed]
  | case2 last => simpa [listed] using each
  | case3 first second rest ih =>
    obtain ⟨front, others⟩ := List.forall_mem_cons.mp each
    rw [listed]
    refine List.forall_mem_cons.mpr ⟨?_, ih others⟩
    exact Text.unbroken_append.mpr ⟨front, by decide⟩

@[simp]
theorem Instruction.unbroken_assembly (instruction : Instruction) (operation : Operation) :
    Unbroken (instruction.assembly operation) := by
  rw [Operation.assembly_eq]
  refine unbroken_intercalate (by decide) (List.forall_mem_cons.mpr ⟨?_, ?_⟩)
  · cases operation <;> decide
  · refine Operand.unbroken_listed fun text member => ?_
    obtain ⟨operand, one, rfl⟩ := List.mem_map.mp member
    exact operation.unbroken_operands instruction operand one

@[simp]
theorem Event.unbroken_mnemonic (event : Event) : Unbroken event.mnemonic := by
  cases event with
  | executed operation instruction => exact instruction.unbroken_assembly operation
  | endOfMemory => decide

@[simp]
theorem Event.unbroken_key (event : Event) : Unbroken event.key := by
  cases event with
  | executed operation _ => exact ChipEight.unbroken_key operation
  | endOfMemory => decide

theorem Fault.unbroken_outOfBounds (address length size : Int) :
    Unbroken (Fault.outOfBounds address length size).message := by
  change Unbroken ((if length = 1 then "Address 0x" ++ Hex.padded 4 address
    else "Range 0x" ++ Hex.padded 4 address ++ "+" ++ toString length) ++
      " outside memory [0x000, 0x" ++ Hex.padded 3 size ++ ")")
  split <;> simp +decide

theorem Fault.Arises.unbroken {cause : Fault} (arises : cause.Arises) :
    Unbroken cause.message := by
  obtain ⟨strict, state, refused⟩ := arises
  cases refused with
  | emptyStack | fullStack => decide +kernel
  | unmatched =>
    change Unbroken ("Unknown opcode: " ++ Hex.padded 4 _)
    simp +decide
  | sprite | decimal | block => exact Fault.unbroken_outOfBounds _ _ _

theorem Fault.unbroken_execution (word pc : Int) {cause : Fault} (arises : cause.Arises) :
    Unbroken (Fault.execution word pc cause).message := by
  have told : (Fault.execution word pc cause).message =
      "Fault at PC=0x" ++ Hex.padded 3 pc ++ " executing " ++ Hex.padded 4 word ++ ": " ++
        cause.message := rfl
  rw [told]
  simp +decide [arises.unbroken]

theorem Walk.Sound.unbroken {limit : Nat} {walk : Walk} (sound : walk.Sound limit)
    {fault : Option Fault} (ended : walk.error? = fault.map Error.fault) :
    ∀ cause, fault = some cause → Unbroken cause.message := by
  rintro cause rfl
  obtain ⟨word, pc, inner, same, arises⟩ := sound.error _ ended
  obtain rfl := Error.fault.inj same
  exact Fault.unbroken_execution word pc arises

namespace Text

theorem not_isVisible_of_isLineBreak {char : Char} (broken : isLineBreak char = true) :
    isVisible char = false := by
  have hidden : ∀ code ∈ [0xA, 0xB, 0xC, 0xD, 0x1C, 0x1D, 0x1E, 0x85, 0x2028, 0x2029],
      isVisible (Char.ofNat code) = false := by
    decide +kernel
  rw [← Char.ofNat_toNat char]
  apply hidden
  simp only [isLineBreak, Bool.or_eq_true, Bool.and_eq_true, decide_eq_true_eq,
    beq_iff_eq] at broken
  simp only [List.mem_cons, List.not_mem_nil, or_false]
  omega

theorem isLineBreak_hexadecimal {number : Nat} {digit : Char}
    (member : digit ∈ Nat.toDigits 16 number) : isLineBreak digit = false := by
  have plain : ∀ value < 16, isLineBreak (Nat.digitChar value) = false := by decide
  induction number using Nat.strongRecOn with
  | ind number shorter =>
    rcases Nat.lt_or_ge number 16 with small | large
    · rw [Nat.toDigits_of_lt_base small, List.mem_singleton] at member
      rw [member]
      exact plain number small
    · rw [Nat.toDigits_of_base_le (by decide) large, List.mem_append, List.mem_singleton] at member
      rcases member with before | rfl
      · exact shorter (number / 16) (by omega) before
      · exact plain _ (Nat.mod_lt number (by decide))

theorem isLineBreak_code (letter : Char) (plain : isLineBreak letter = false) (width number : Nat) :
    ∀ char ∈ '\\' :: letter :: (Nat.toDigits 16 number).leftpad width '0',
      isLineBreak char = false := by
  refine List.forall_mem_cons.mpr ⟨by decide, List.forall_mem_cons.mpr ⟨plain, ?_⟩⟩
  exact isLineBreak_leftpad (by decide) (fun _ => isLineBreak_hexadecimal) width

theorem isLineBreak_pair {letter : Char} (plain : isLineBreak letter = false) :
    ∀ char ∈ ['\\', letter], isLineBreak char = false :=
  List.forall_mem_cons.mpr ⟨by decide, List.forall_mem_singleton.mpr plain⟩

theorem isLineBreak_escapeChar {mark : Char} (plain : isLineBreak mark = false) (char : Char) :
    ∀ shown ∈ escapeChar mark char, isLineBreak shown = false := by
  rw [escapeChar]
  split_ifs with special feed back tabulator visible byte short
  · refine isLineBreak_pair ?_
    rcases Bool.or_eq_true_iff.mp special with same | same
    · rwa [eq_of_beq same]
    · rw [eq_of_beq same]
      decide
  · exact isLineBreak_pair (by decide)
  · exact isLineBreak_pair (by decide)
  · exact isLineBreak_pair (by decide)
  · rw [List.forall_mem_singleton, Bool.eq_false_iff]
    intro broken
    rw [not_isVisible_of_isLineBreak broken] at visible
    cases visible
  · exact isLineBreak_code 'x' (by decide) 2 _
  · exact isLineBreak_code 'u' (by decide) 4 _
  · exact isLineBreak_code 'U' (by decide) 8 _

/-- Whatever is quoted, it is shown in one line. -/
@[simp]
theorem unbroken_quoted (text : String) : Unbroken (quotedString text) := by
  have plain : isLineBreak (quoteMark text.toList) = false := by
    rw [quoteMark]
    split <;> decide
  have marks : ∀ char ∈ [quoteMark text.toList], isLineBreak char = false :=
    List.forall_mem_singleton.mpr plain
  rw [quotedString, unbroken_ofList, quoted, List.cons_append]
  refine List.forall_mem_cons.mpr ⟨plain, List.forall_mem_append.mpr ⟨?_, marks⟩⟩
  intro shown member
  obtain ⟨char, _, escaped⟩ := List.mem_flatMap.mp member
  exact isLineBreak_escapeChar plain char shown escaped

end Text

/-- The dump of a program, as its lines. -/
def dumpBlock (image : List UInt8) : List String :=
  (Hexdump.lines 0x200 image).map String.ofList

namespace Hexdump

variable {image : List UInt8}

theorem text_eq_joined (image : List UInt8) :
    text programStart image = "\n".intercalate (dumpBlock image) := by
  rw [← String.toList_inj, text, String.toList_ofList, String.toList_intercalate, dumpBlock,
    List.map_map]
  simp [Function.comp_def, programStart]

theorem block_dump (filled : image ≠ []) : Text.Block (dumpBlock image) := by
  have whole := lines_whole (show (0 : Int) ≤ 0x200 by decide) image
  have some : lines 0x200 image ≠ [] := by
    rw [lines_cons filled]
    exact List.cons_ne_nil _ _
  constructor
  · intro line member
    obtain ⟨chars, inside, rfl⟩ := List.mem_map.mp member
    exact unbroken_ofList.mpr (whole chars inside).2
  · have inside := List.getLast_mem some
    refine ⟨String.ofList ((lines 0x200 image).getLast some), ?_, ?_⟩
    · rw [dumpBlock, List.getLast?_map, List.getLast?_eq_some_getLast some]
      rfl
    · simpa using (whole _ inside).1

theorem capitals_lines {address : Int} (natural : 0 ≤ address) (image : List UInt8) :
    ∀ chars ∈ lines address image, ∃ digits words, chars = digits ++ words ∧ 4 ≤ digits.length ∧
      ∀ digit ∈ digits, digit ∈ "0123456789ABCDEF".toList := by
  induction address, image using lines.induct with
  | case1 address image empty =>
    obtain rfl : image = [] := by simpa using empty
    rw [lines_nil]
    simp
  | case2 address image filled ih =>
    rw [lines_cons (by simpa using filled)]
    refine List.forall_mem_cons.mpr ⟨?_, ih (by omega)⟩
    obtain ⟨number, rfl⟩ := Int.eq_ofNat_of_zero_le natural
    have written := Hex.written_paddedChars (show 0 < 4 by decide) number
    exact ⟨_, _, rfl, written.wide, written.capitals⟩

theorem not_begins_dump {mark : String}
    (strange : (mark.toList.take 4).all "0123456789ABCDEF".toList.contains = false)
    (image : List UInt8) : ∀ line ∈ dumpBlock image, ¬ Text.Begins mark line := by
  rintro line member ⟨rest, same⟩
  obtain ⟨chars, inside, rfl⟩ := List.mem_map.mp member
  obtain ⟨digits, words, rfl, long, capitals⟩ :=
    capitals_lines (show (0 : Int) ≤ 0x200 by decide) image chars inside
  rw [String.toList_ofList] at same
  have plain : ∀ char ∈ mark.toList.take 4, char ∈ digits := by
    intro char front
    have early : char ∈ (mark.toList ++ rest).take 4 := by
      rw [List.take_append]
      exact List.mem_append_left _ front
    rw [same, List.take_append_of_le_length long] at early
    exact List.mem_of_mem_take early
  refine Bool.eq_false_iff.mp strange (List.all_eq_true.mpr fun char front => ?_)
  exact List.contains_iff_mem.mpr (capitals char (plain char front))

end Hexdump

namespace State

theorem namedRegisters_eq {registers : List Int} (sixteen : registers.length = 16) :
    namedRegisters registers =
      (List.range 16).map fun number => (registerName number, registers.getD number 0) := by
  refine List.ext_getElem (by simp [namedRegisters, sixteen]) fun number inside _ => ?_
  have within : number < registers.length := by simpa [namedRegisters] using inside
  simp [namedRegisters, within]

end State

end ChipEight
