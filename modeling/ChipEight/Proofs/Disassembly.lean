import ChipEight.Machine.OperationTable
import ChipEight.Proofs.Decoding

/-! The written form of an instruction can be taken apart again: the mnemonic and the kinds of the
operands name the operation, and the operands are all that it reads of its word. -/

namespace ChipEight

namespace Hex

/-- The number that digits stand for. Anything that is no digit counts as 0. -/
def value (digits : List Char) : Nat :=
  digits.foldl (fun total digit => 16 * total + (digitValue? digit).getD 0) 0

theorem value_append (digits : List Char) (last : Char) :
    value (digits ++ [last]) = 16 * value digits + (digitValue? last).getD 0 := by
  simp [value, List.foldl_append]

theorem digits_of_lt {number : Nat} (small : number < 16) :
    ∃ digit, digits number = [digit] ∧ digitValue? digit = some number := by
  have worth : ∀ number < 16,
      digitValue? (if number.digitChar.isLower then number.digitChar.toUpper
        else number.digitChar) = some number := by
    decide
  rw [digits, Nat.toDigits_of_lt_base small]
  exact ⟨_, rfl, worth number small⟩

theorem digits_of_le {number : Nat} (large : 16 ≤ number) :
    ∃ last, digits number = digits (number / 16) ++ [last] ∧
      digitValue? last = some (number % 16) := by
  obtain ⟨last, alone, worth⟩ := digits_of_lt (Nat.mod_lt number (show 0 < 16 by decide))
  rw [digits, Nat.toDigits_of_lt_base (Nat.mod_lt number (by decide))] at alone
  refine ⟨last, ?_, worth⟩
  rw [digits, Nat.toDigits_of_base_le (by decide) large, List.map_append, alone, digits]

theorem value_digits (number : Nat) : value (digits number) = number := by
  induction number using Nat.strongRecOn with
  | ind number shorter =>
    rcases Nat.lt_or_ge number 16 with small | large
    · obtain ⟨digit, alone, worth⟩ := digits_of_lt small
      simp [alone, value, worth]
    · obtain ⟨last, more, worth⟩ := digits_of_le large
      rw [more, value_append, shorter (number / 16) (by omega), worth, Option.getD_some]
      omega

theorem digitValue?_of_mem_digits {digit : Char} {number : Nat} (member : digit ∈ digits number) :
    (digitValue? digit).isSome := by
  induction number using Nat.strongRecOn with
  | ind number shorter =>
    rcases Nat.lt_or_ge number 16 with small | large
    · obtain ⟨only, alone, worth⟩ := digits_of_lt small
      rw [alone, List.mem_singleton] at member
      rw [member, worth, Option.isSome_some]
    · obtain ⟨last, more, worth⟩ := digits_of_le large
      rw [more, List.mem_append, List.mem_singleton] at member
      rcases member with before | rfl
      · exact shorter (number / 16) (by omega) before
      · rw [worth, Option.isSome_some]

theorem value_leftpad (width : Nat) (digits : List Char) :
    value (digits.leftpad width '0') = value digits := by
  have zeros : ∀ count, value (List.replicate count '0') = 0 := by
    intro count
    induction count with
    | zero => rfl
    | succ count zero =>
      rw [List.replicate_succ', value_append, zero]
      rfl
  rw [List.leftpad, value, List.foldl_append]
  rw [show List.foldl _ 0 _ = 0 from zeros _]
  rfl

variable {width : Nat} {number : Int}

theorem value_paddedChars (unsigned : 0 ≤ number) :
    value (paddedChars width number) = number.toNat := by
  rw [paddedChars, if_neg (by omega), value_leftpad, value_digits]
  omega

theorem length_paddedChars (wide : 0 < width) (unsigned : 0 ≤ number)
    (short : number < (1 <<< (4 * width) : Nat)) : (paddedChars width number).length = width := by
  have fewer : (digits number.natAbs).length ≤ width := by
    rw [digits, List.length_map, Nat.length_toDigits_le_iff (by decide) wide]
    calc number.natAbs
        < 1 <<< (4 * width) := by omega
      _ = 2 ^ (4 * width) := Nat.one_shiftLeft _
      _ = (2 ^ 4) ^ width := Nat.pow_mul ..
  rw [paddedChars, if_neg (by omega), List.length_leftpad]
  omega

theorem digitValue?_of_mem_paddedChars {digit : Char} (unsigned : 0 ≤ number)
    (member : digit ∈ paddedChars width number) : (digitValue? digit).isSome := by
  rw [paddedChars, if_neg (by omega), List.leftpad, List.mem_append] at member
  rcases member with zero | digit
  · rw [List.eq_of_mem_replicate zero]
    rfl
  · exact digitValue?_of_mem_digits digit

theorem padded_inj {other : Int} {places : Nat} (unsigned : 0 ≤ number) (natural : 0 ≤ other)
    (alike : padded width number = padded places other) : number = other := by
  have values := congrArg value (String.ofList_inj.mp alike)
  rw [value_paddedChars unsigned, value_paddedChars natural] at values
  omega

end Hex

/-- What a mnemonic is followed by. Numbers are written in base sixteen with a width, row counts
in base ten, and anything else of the machine by its name. -/
inductive Operand where
  | register (index : Nat)
  | number (width : Nat) (value : Int)
  | rows (count : Nat)
  | named (name : String)
  deriving DecidableEq

namespace Operand

def text : Operand → String
  | .register index => registerName index
  | .number width value => "0x" ++ Hex.padded width value
  | .rows count => toString count
  | .named name => name

/-- The operands that an instruction can have. -/
def Fits : Operand → Prop
  | .register index => index < 16
  | .number width value => 0 < width ∧ 0 ≤ value ∧ value < (1 <<< (4 * width) : Nat)
  | .rows count => count < 16
  | .named name => name ∈ ["I", "DT", "ST", "K", "B", "[I]"]

/-- An operand without its number. -/
inductive Kind where
  | register
  | number (width : Nat)
  | rows
  | named (name : List Char)
  deriving DecidableEq

def kind : Operand → Kind
  | .register _ => .register
  | .number width _ => .number width
  | .rows _ => .rows
  | .named name => .named name.toList

/-- The kind of a written operand. A register starts with its letter, a number with its base, and
no name starts like one of them. -/
def Kind.ofText : List Char → Kind
  | 'V' :: _ => .register
  | '0' :: 'x' :: digits => .number digits.length
  | first :: rest => if first.isDigit then .rows else .named (first :: rest)
  | [] => .named []

variable {operand left right : Operand}

theorem ofText_text (fits : operand.Fits) : Kind.ofText operand.text.toList = operand.kind := by
  cases operand with
  | register index => simp [text, registerName, Kind.ofText, kind]
  | number width value =>
    obtain ⟨wide, unsigned, short⟩ := fits
    simp [text, Hex.padded, Kind.ofText, kind, Hex.length_paddedChars wide unsigned short]
  | rows count =>
    have every : ∀ count < 16, Kind.ofText (toString count).toList = .rows := by decide
    exact every count fits
  | named name =>
    have every : ∀ name ∈ ["I", "DT", "ST", "K", "B", "[I]"],
        Kind.ofText name.toList = .named name.toList := by decide
    exact every name fits

theorem text_inj (fits : left.Fits) (suits : right.Fits) (alike : left.text = right.text) :
    left = right := by
  -- The kind is read off the text, so only operands of one kind are left to compare.
  have same : left.kind = right.kind := by rw [← ofText_text fits, alike, ofText_text suits]
  cases left with
  | register index =>
    cases right with
    | register other =>
      have digits : Hex.padded 1 (index : Int) = Hex.padded 1 (other : Int) := by
        simpa [text, registerName] using alike
      rw [Int.ofNat_inj.mp (Hex.padded_inj (by omega) (by omega) digits)]
    | _ => simp [kind] at same
  | number width value =>
    cases right with
    | number places other =>
      have digits : Hex.padded width value = Hex.padded places other := by
        simpa [text] using alike
      rw [Hex.padded_inj fits.2.1 suits.2.1 digits, Kind.number.inj same]
    | _ => simp [kind] at same
  | rows count =>
    cases right with
    | rows other =>
      have every : ∀ left < 16, ∀ right < 16, (toString left : String) = toString right →
          left = right := by decide
      rw [every count fits other suits alike]
    | _ => simp [kind] at same
  | named name =>
    cases right with
    | named other => exact congrArg named alike
    | _ => simp [kind] at same

theorem texts_inj {left right : List Operand} (fits : ∀ operand ∈ left, operand.Fits)
    (suits : ∀ operand ∈ right, operand.Fits) (alike : left.map text = right.map text) :
    left = right := by
  induction left generalizing right with
  | nil => exact (List.map_eq_nil_iff.mp alike.symm).symm
  | cons operand rest same =>
    obtain ⟨other, others, rfl, heads, tails⟩ := List.map_eq_cons_iff.mp alike.symm
    rw [List.forall_mem_cons] at fits suits
    rw [text_inj suits.1 fits.1 heads, same fits.2 suits.2 tails.symm]

theorem not_space (fits : operand.Fits) : ' ' ∉ operand.text.toList := by
  have digit : ¬ (Hex.digitValue? ' ').isSome := by decide
  cases operand with
  | register index =>
    have absent : ' ' ∉ Hex.paddedChars 1 (index : Int) := fun member =>
      digit (Hex.digitValue?_of_mem_paddedChars (by omega) member)
    simpa [text, registerName, Hex.padded] using absent
  | number width value =>
    have absent : ' ' ∉ Hex.paddedChars width value := fun member =>
      digit (Hex.digitValue?_of_mem_paddedChars fits.2.1 member)
    simpa [text, Hex.padded] using absent
  | rows count =>
    have every : ∀ count < 16, ' ' ∉ (toString count).toList := by decide
    exact every count fits
  | named name =>
    have every : ∀ name ∈ ["I", "DT", "ST", "K", "B", "[I]"], ' ' ∉ name.toList := by decide
    exact every name fits

/-- Operands with a comma after all but the last. -/
def listed : List String → List String
  | [] => []
  | [last] => [last]
  | first :: second :: rest => (first ++ ",") :: listed (second :: rest)

theorem length_listed (texts : List String) : (listed texts).length = texts.length := by
  induction texts using listed.induct with
  | case1 => rfl
  | case2 last => rfl
  | case3 first second rest same => simp [listed, same]

theorem listed_inj {left right : List String} (same : listed left = listed right) :
    left = right := by
  have length := congrArg List.length same
  rw [length_listed, length_listed] at length
  induction left using listed.induct generalizing right with
  | case1 => exact (List.eq_nil_of_length_eq_zero length.symm).symm
  | case2 last =>
    obtain ⟨other, rfl⟩ := List.length_eq_one_iff.mp length.symm
    exact same
  | case3 first second rest rests =>
    match right, length with
    | head :: next :: tail, length =>
      obtain ⟨heads, tails⟩ := List.cons_eq_cons.mp same
      rw [(String.append_left_inj ",").mp heads, rests tails (by simpa using length)]

theorem not_space_listed {texts : List String} (joined : ∀ text ∈ texts, ' ' ∉ text.toList) :
    ∀ word ∈ listed texts, ' ' ∉ word.toList := by
  induction texts using listed.induct with
  | case1 => simp [listed]
  | case2 last => simpa [listed] using joined
  | case3 first second rest others =>
    simp only [listed, List.forall_mem_cons] at joined ⊢
    refine ⟨?_, others (by simpa using joined.2)⟩
    simpa using joined.1

end Operand

namespace Operation

open Operand

def mnemonic : Operation → String
  | clearScreen => "CLS"
  | ret => "RET"
  | jump | jumpOffset => "JP"
  | call => "CALL"
  | skipEqualByte | skipEqual => "SE"
  | skipUnequalByte | skipUnequal => "SNE"
  | loadByte | copy | loadIndex | awaitKey | readDelay | setDelay | setSound | storeDecimal |
    storeRegisters | loadRegisters => "LD"
  | addByte | add | addIndex => "ADD"
  | or => "OR"
  | and => "AND"
  | xor => "XOR"
  | subtract => "SUB"
  | shiftRight => "SHR"
  | subtractFrom => "SUBN"
  | shiftLeft => "SHL"
  | draw => "DRW"
  | skipHeld => "SKP"
  | skipReleased => "SKNP"
  | unknown => "DW"

/-- The operands of an operation. Nothing else of an instruction is written down. -/
def operands (instruction : Instruction) : Operation → List Operand
  | clearScreen | ret => []
  | jump | call => [number 3 instruction.nnn]
  | jumpOffset => [register 0, number 3 instruction.nnn]
  | skipEqualByte | skipUnequalByte | loadByte | addByte =>
    [register instruction.x, number 2 instruction.nn]
  | skipEqual | skipUnequal | copy | or | and | xor | add | subtract | subtractFrom =>
    [register instruction.x, register instruction.y]
  | shiftRight | shiftLeft | skipHeld | skipReleased => [register instruction.x]
  | loadIndex => [named "I", number 3 instruction.nnn]
  | draw => [register instruction.x, register instruction.y, rows instruction.n]
  | awaitKey => [register instruction.x, named "K"]
  | readDelay => [register instruction.x, named "DT"]
  | setDelay => [named "DT", register instruction.x]
  | setSound => [named "ST", register instruction.x]
  | addIndex => [named "I", register instruction.x]
  | storeDecimal => [named "B", register instruction.x]
  | storeRegisters => [named "[I]", register instruction.x]
  | loadRegisters => [register instruction.x, named "[I]"]
  | unknown => [number 4 instruction.word]

theorem assembly_eq (instruction : Instruction) (operation : Operation) :
    instruction.assembly operation =
      " ".intercalate
        (operation.mnemonic :: listed ((operation.operands instruction).map Operand.text)) := by
  cases operation <;>
    simp [Instruction.assembly, mnemonic, operands, listed, String.intercalate_cons_cons,
      ← String.toList_inj]
  case draw =>
    simp [Operand.text]
    rfl
  case unknown => simp [Instruction.dataDirective, Operand.text]
  all_goals rfl

theorem operands_fit (word : Int) (operation : Operation) :
    ∀ operand ∈ operation.operands (.ofWord word), operand.Fits := by
  have x := (Instruction.ofWord word).x_lt
  have y := (Instruction.ofWord word).y_lt
  have n := (Instruction.ofWord word).n_lt
  have nn := (Instruction.ofWord word).nn_lt
  have nnn := (Instruction.ofWord word).nnn_lt
  have whole : 0 ≤ (Instruction.ofWord word).word ∧ (Instruction.ofWord word).word < 0x10000 := by
    simp only [Instruction.ofWord]
    omega
  cases operation <;> simp [operands, Fits, Nat.one_shiftLeft] <;> omega

/-- The kinds of the operands, whatever the instruction. -/
def kinds (operation : Operation) : List Operand.Kind :=
  (operation.operands (.ofWord 0)).map Operand.kind

theorem kinds_eq (instruction : Instruction) (operation : Operation) :
    (operation.operands instruction).map Operand.kind = operation.kinds := by
  cases operation <;> rfl

theorem eq_of_shape {left right : Operation} (mnemonic : left.mnemonic = right.mnemonic)
    (kinds : left.kinds = right.kinds) : left = right := by
  have every : ∀ left ∈ all, ∀ right ∈ all,
      left.mnemonic = right.mnemonic → left.kinds = right.kinds → left = right := by
    decide +kernel
  exact every left left.mem_all right right.mem_all mnemonic kinds

theorem not_space_words (operation : Operation) (word : Int) :
    ∀ part ∈ operation.mnemonic ::
        listed ((operation.operands (.ofWord word)).map Operand.text), ' ' ∉ part.toList := by
  have mnemonics : ∀ operation ∈ all, ' ' ∉ operation.mnemonic.toList := by decide
  rw [List.forall_mem_cons]
  refine ⟨mnemonics operation operation.mem_all, not_space_listed ?_⟩
  rw [List.forall_mem_map]
  exact fun operand member => not_space (operands_fit word operation operand member)

/-- The written form tells the operation and its operands. -/
theorem assembly_inj {first second : Int} {left right : Operation}
    (alike : (Instruction.ofWord first).assembly left =
      (Instruction.ofWord second).assembly right) :
    left = right ∧ left.operands (.ofWord first) = right.operands (.ofWord second) := by
  rw [assembly_eq, assembly_eq, show " " = String.singleton ' ' from rfl] at alike
  -- No word has a space in it, so the text falls apart into the words it was put together from.
  have words := congrArg (fun text => (text.split ' ').toList.map fun part => part.copy) alike
  rw [String.toList_split_intercalate (not_space_words left first),
    String.toList_split_intercalate (not_space_words right second), if_neg (List.cons_ne_nil _ _),
    if_neg (List.cons_ne_nil _ _)] at words
  obtain ⟨mnemonics, texts⟩ := List.cons_eq_cons.mp words
  have operands : left.operands (.ofWord first) = right.operands (.ofWord second) :=
    texts_inj (operands_fit first left) (operands_fit second right) (listed_inj texts)
  have kinds : left.kinds = right.kinds := by
    rw [← kinds_eq (.ofWord first), operands, kinds_eq]
  exact ⟨eq_of_shape mnemonics kinds, operands⟩

/-- An operation reads no more of its word than its operands. -/
theorem perform_congr {first second : Instruction} {operation : Operation}
    (same : operation.operands first = operation.operands second) :
    operation.perform first = operation.perform second := by
  cases operation <;>
    simp only [operands, List.cons.injEq, Operand.register.injEq, Operand.number.injEq,
      Operand.rows.injEq, true_and, and_true, Int.ofNat_inj] at same <;>
    simp only [perform, combine, arithmetic, shiftRightOne, shiftLeftOne, skipWhen, drawSprite,
      heldKey, takeKey, same]

end Operation

namespace Instruction

theorem ofWord_eq (word : Int) : ∃ short : Nat, short < 0x10000 ∧ ofWord word = ofWord short := by
  refine ⟨(word % 0x10000).toNat, by omega, ?_⟩
  simp only [ofWord, mk.injEq]
  omega

theorem operation?_eq_some_of_known {word : Int} (known : (ofWord word).operation ≠ .unknown) :
    (ofWord word).operation? = some (ofWord word).operation := by
  rw [operation] at known ⊢
  cases found : (ofWord word).operation? with
  | some operation => rfl
  | none =>
    rw [found] at known
    exact absurd rfl known

theorem operation?_eq_none_of_unknown {word : Int} (unknown : (ofWord word).operation = .unknown) :
    (ofWord word).operation? = none := by
  obtain ⟨short, inside, same⟩ := ofWord_eq word
  rw [same] at unknown ⊢
  rw [operation] at unknown
  cases found : (ofWord short).operation? with
  | none => rfl
  | some operation =>
    rw [found, Option.getD_some] at unknown
    rw [unknown] at found
    exact (spells_of_operation? inside found).elim

theorem disassemble_ofWord (word : Int) :
    (ofWord word).disassemble = (ofWord word).assembly (ofWord word).operation := by
  have again : ofWord (ofWord word).word = ofWord word := by
    simp only [ofWord, mk.injEq]
    omega
  rw [disassemble, again]

variable {first second : Int}

theorem ofWord_eq_of_unknown (unknown : (ofWord first).operation = .unknown)
    (alike : (ofWord first).disassemble = (ofWord second).disassemble) :
    ofWord first = ofWord second := by
  rw [disassemble_ofWord, disassemble_ofWord] at alike
  have operands := (Operation.assembly_inj alike).2
  rw [← (Operation.assembly_inj alike).1, unknown] at operands
  simpa [Operation.operands, ofWord] using operands

end Instruction

open Instruction

theorem decode_of_known {word : Int} (known : (ofWord word).operation ≠ .unknown)
    (strict : Bool) : decode strict word = .ok ((ofWord word).operation, ofWord word) := by
  simp only [decode, operation?_eq_some_of_known known]

/-- Words that are written alike are one instruction to the machine: they decode to one operation
or are refused alike, and no state tells their executions apart. -/
theorem executeWord_of_disassemble_eq {first second : Int}
    (alike : (ofWord first).disassemble = (ofWord second).disassemble) :
    (∃ operation, decode false first = .ok (operation, ofWord first) ∧
      decode false second = .ok (operation, ofWord second)) ∧
    (decode true first).map Prod.fst = (decode true second).map Prod.fst ∧
    ∀ strict state, (Operation.executeWord strict first).run state =
      (Operation.executeWord strict second).run state := by
  -- A word without an operation is written out whole, so two such words are the same word.
  by_cases unknown : (ofWord first).operation = .unknown
  · have same := ofWord_eq_of_unknown unknown alike
    have decoded : ∀ strict, decode strict first = decode strict second := by
      intro strict
      simp only [decode, same]
    have permitted : decode false first = .ok (.unknown, ofWord first) := by
      simp only [decode, operation?_eq_none_of_unknown unknown, Bool.false_eq_true, if_false]
    refine ⟨⟨.unknown, permitted, ?_⟩, by rw [decoded], ?_⟩
    · rw [← decoded, permitted, same]
    · intro strict state
      simp only [Operation.executeWord, decoded]
  · rw [disassemble_ofWord, disassemble_ofWord] at alike
    obtain ⟨operations, operands⟩ := Operation.assembly_inj alike
    have known : (ofWord second).operation ≠ .unknown := operations ▸ unknown
    have decoded := decode_of_known unknown
    have matched := decode_of_known known
    rw [← operations] at matched operands
    refine ⟨⟨_, decoded false, matched false⟩, by rw [decoded, matched]; rfl, ?_⟩
    intro strict state
    simp only [Operation.executeWord, decoded, matched, Operation.execute,
      Operation.perform_congr operands]

/-- The last digit but one of a shift is not written, and not read. -/
theorem executeWord_of_disassemble_eq_shift :
    (ofWord 0x8016).disassemble = (ofWord 0x80F6).disassemble ∧
    (decode true 0x8016).map Prod.fst = (decode true 0x80F6).map Prod.fst ∧
    (Operation.executeWord true 0x8016).run State.blank =
      (Operation.executeWord true 0x80F6).run State.blank := by
  have alike : (ofWord 0x8016).disassemble = (ofWord 0x80F6).disassemble := by decide +kernel
  obtain ⟨-, decoded, executed⟩ := executeWord_of_disassemble_eq alike
  exact ⟨alike, decoded, executed true State.blank⟩

end ChipEight
