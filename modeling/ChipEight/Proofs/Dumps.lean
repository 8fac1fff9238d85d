import ChipEight.Proofs.Sources

namespace ChipEight

namespace Hex

theorem upperDigit_capital : ∀ value < 16, upperDigit value ∈ "0123456789ABCDEF".toList := by
  decide

theorem digits_small {number : Nat} (small : number < 16) :
    digits number = [upperDigit number] := by
  have capital : ∀ number < 16, (if number.digitChar.isLower then number.digitChar.toUpper
      else number.digitChar) = upperDigit number := by
    decide
  rw [digits, Nat.toDigits_of_lt_base small, List.map_singleton, capital number small]

theorem digits_large {number : Nat} (large : 16 ≤ number) :
    digits number = digits (number / 16) ++ [upperDigit (number % 16)] := by
  have last := digits_small (Nat.mod_lt number (show 0 < 16 by decide))
  rw [digits, Nat.toDigits_of_lt_base (Nat.mod_lt number (by decide))] at last
  rw [digits, Nat.toDigits_of_base_le (by decide) large, List.map_append, last, digits]

theorem capital_of_mem_digits {digit : Char} {number : Nat} (member : digit ∈ digits number) :
    digit ∈ "0123456789ABCDEF".toList := by
  induction number using Nat.strongRecOn with
  | ind number shorter =>
    rcases Nat.lt_or_ge number 16 with small | large
    · rw [digits_small small, List.mem_singleton] at member
      rw [member]
      exact upperDigit_capital number small
    · rw [digits_large large, List.mem_append, List.mem_singleton] at member
      rcases member with before | rfl
      · exact shorter (number / 16) (by omega) before
      · exact upperDigit_capital _ (Nat.mod_lt number (by decide))

theorem head?_digits {number : Nat} (positive : 0 < number) :
    ∃ first, (digits number).head? = some first ∧ first ≠ '0' := by
  induction number using Nat.strongRecOn with
  | ind number shorter =>
    rcases Nat.lt_or_ge number 16 with small | large
    · have leading : ∀ number < 16, 0 < number → upperDigit number ≠ '0' := by decide
      exact ⟨_, by rw [digits_small small]; rfl, leading number small positive⟩
    · obtain ⟨first, front, leading⟩ := shorter (number / 16) (by omega) (by omega)
      exact ⟨first, by rw [digits_large large, List.head?_append, front]; rfl, leading⟩

/-- How a natural number is written in capitals with at least `width` digits. -/
structure Written (width number : Nat) (text : List Char) : Prop where
  wide : width ≤ text.length
  capitals : ∀ digit ∈ text, digit ∈ "0123456789ABCDEF".toList
  worth : value text = number
  padding : width < text.length → text.head? ≠ some '0'

theorem written_paddedChars {width : Nat} (wide : 0 < width) (number : Nat) :
    Written width number (paddedChars width number) := by
  have unsigned : ¬ (number : Int) < 0 := by omega
  have padded : paddedChars width number = (digits number).leftpad width '0' := by
    rw [paddedChars, if_neg unsigned, Int.natAbs_natCast]
  constructor
  · rw [padded, List.length_leftpad]
    omega
  · intro digit member
    rw [padded, List.leftpad, List.mem_append] at member
    rcases member with zero | member
    · rw [List.eq_of_mem_replicate zero]
      decide
    · exact capital_of_mem_digits member
  · rw [value_paddedChars (Int.natCast_nonneg number), Int.toNat_natCast]
  · intro long
    rw [padded, List.length_leftpad] at long
    rw [padded, List.leftpad, show width - (digits number).length = 0 by omega]
    have positive : 0 < number := by
      rw [Nat.pos_iff_ne_zero]
      rintro rfl
      rw [digits_small (by decide)] at long
      simp only [List.length_singleton] at long
      omega
    obtain ⟨first, front, leading⟩ := head?_digits positive
    rw [List.replicate_zero, List.nil_append, front]
    exact fun same => leading (Option.some.inj same)

end Hex

namespace Text

theorem forall_mem_intercalate {property : Char → Prop} {between : Char} {texts : List (List Char)}
    (joint : property between) (each : ∀ text ∈ texts, ∀ char ∈ text, property char) :
    ∀ char ∈ [between].intercalate texts, property char := by
  induction texts with
  | nil => simp [List.intercalate_nil]
  | cons text texts ih =>
    obtain ⟨first, others⟩ := List.forall_mem_cons.mp each
    cases texts with
    | nil =>
      rw [List.intercalate_singleton]
      exact first
    | cons next texts =>
      rw [List.intercalate_cons_cons]
      exact List.forall_mem_append.mpr
        ⟨List.forall_mem_append.mpr ⟨first, List.forall_mem_singleton.mpr joint⟩, ih others⟩

theorem lines_intercalate {texts : List (List Char)}
    (whole : ∀ text ∈ texts, text ≠ [] ∧ ∀ char ∈ text, isLineBreak char = false) :
    lines (['\n'].intercalate texts) = texts := by
  induction texts with
  | nil => rfl
  | cons text texts ih =>
    obtain ⟨⟨filled, unbroken⟩, others⟩ := List.forall_mem_cons.mp whole
    cases texts with
    | nil => rw [List.intercalate_singleton, lines_unbroken filled unbroken]
    | cons next texts =>
      rw [List.intercalate_cons_cons, List.append_assoc, List.singleton_append,
        lines_append unbroken lines_feed, ih others]

end Text

namespace HexSource

open Text

variable {byte : UInt8} {digits : List Char}

theorem pairs?_byteChars (byte : UInt8) (digits : List Char) :
    pairs? (Hex.byteChars byte ++ digits) = (pairs? digits).map (byte :: ·) := by
  have small := byte.toNat_lt
  have high := Hex.digitValue?_upperDigit (byte.toNat / 16) (by omega)
  have low := Hex.digitValue?_upperDigit (byte.toNat % 16) (by omega)
  have whole : UInt8.ofNat (16 * (byte.toNat / 16) + byte.toNat % 16) = byte := by
    rw [Nat.div_add_mod, UInt8.ofNat_toNat]
  simp only [Hex.byteChars, List.cons_append, List.nil_append, pairs?, high, low,
    Option.bind_eq_bind, Option.bind_some, whole]
  cases pairs? digits <;> rfl

/-- Tokens with single blanks between them, in front of a source that does not begin with another
token. -/
theorem Layout.row {row tokens : List (List Char)} {source : List Char}
    (whole : ∀ token ∈ row, token ≠ [] ∧ ∀ char ∈ token, isSolid char = true)
    (apart : ∀ char ∈ source.head?, isSolid char = false) (rest : Layout tokens source) :
    Layout (row ++ tokens) ([' '].intercalate row ++ source) := by
  induction row with
  | nil => exact rest
  | cons token row ih =>
    obtain ⟨⟨filled, solid⟩, others⟩ := List.forall_mem_cons.mp whole
    cases row with
    | nil =>
      rw [List.intercalate_singleton]
      exact .token filled solid apart rest
    | cons next row =>
      rw [List.intercalate_cons_cons, List.append_assoc, List.append_assoc]
      refine .token filled solid ?_ (.blank (by decide) (ih others))
      rintro char ⟨⟩
      decide

theorem groups_spec (bytes : List UInt8) :
    ∃ pieces, pieces.flatten = bytes ∧
      List.Forall₂ (fun group piece => group ≠ [] ∧ pairs? group = some piece)
        (Hexdump.groups bytes) pieces := by
  have single (byte : UInt8) : pairs? (Hex.byteChars byte) = some [byte] := by
    rw [← List.append_nil (Hex.byteChars byte), pairs?_byteChars]
    rfl
  induction bytes using Hexdump.groups.induct with
  | case1 => exact ⟨[], rfl, .nil⟩
  | case2 byte => exact ⟨[[byte]], rfl, .cons ⟨by simp [Hex.byteChars], single byte⟩ .nil⟩
  | case3 high low rest ih =>
    obtain ⟨pieces, joined, read⟩ := ih
    have pair : pairs? (Hex.byteChars high ++ Hex.byteChars low) = some [high, low] := by
      rw [pairs?_byteChars, single low]
      rfl
    exact ⟨[high, low] :: pieces, by rw [List.flatten_cons, joined]; rfl,
      .cons ⟨by simp [Hex.byteChars], pair⟩ read⟩

theorem groups_solid (bytes : List UInt8) : ∀ group ∈ Hexdump.groups bytes,
    group ≠ [] ∧ ∀ char ∈ group, isSolid char = true := by
  obtain ⟨pieces, _, read⟩ := groups_spec bytes
  have whole : List.Forall₂
      (fun group piece => (group ≠ [] ∧ ∀ char ∈ group, isSolid char = true) ∧
        pairs? group = some piece)
      (Hexdump.groups bytes) pieces := by
    refine read.imp fun group piece paired => ⟨⟨paired.1, ?_⟩, paired.2⟩
    exact fun char inside => isSolid_digit ((pairs?_eq_some paired.2).2 char inside)
  exact ((List.forall₂_and_left _ _).mp whole).1

end HexSource

namespace Hexdump

open HexSource

open Text (isLineBreak)

variable {address : Int} {image : List UInt8}

/-- A line without everything up to its first colon. -/
def afterColon (line : List Char) : List Char :=
  (line.dropWhile (· != ':')).drop 1

theorem lines_nil (address : Int) : lines address [] = [] := by
  rw [lines]
  rfl

theorem lines_cons (filled : image ≠ []) :
    lines address image =
      line address (image.take bytesPerLine) ::
        lines (address + bytesPerLine) (image.drop bytesPerLine) := by
  rw [lines, if_neg (by simpa using filled)]

theorem afterColon_line (natural : 0 ≤ address) (bytes : List UInt8) :
    afterColon (line address bytes) = ' ' :: [' '].intercalate (groups bytes) := by
  have free : ∀ digit ∈ Hex.paddedChars 4 address, (digit != ':') = true := by
    intro digit member
    rw [bne_iff_ne]
    rintro rfl
    exact absurd (Hex.digitValue?_of_mem_paddedChars natural member) (by decide)
  rw [afterColon, line, List.dropWhile_append_of_pos free]
  rfl

theorem lines_length (address : Int) (image : List UInt8) :
    (lines address image).length = (image.length + 15) / 16 := by
  induction address, image using lines.induct with
  | case1 address image empty =>
    obtain rfl : image = [] := by simpa using empty
    rw [lines_nil]
    rfl
  | case2 address image filled ih =>
    have positive : 0 < image.length := List.length_pos_iff.mpr (by simpa using filled)
    rw [lines_cons (by simpa using filled), List.length_cons, ih, List.length_drop, bytesPerLine]
    omega

theorem lines_getElem? (image : List UInt8) (row : Nat) (inside : 16 * row < image.length) :
    (lines address image)[row]? =
      some (line (address + 16 * row) ((image.drop (16 * row)).take bytesPerLine)) := by
  induction row generalizing address image with
  | zero =>
    have filled : image ≠ [] := List.length_pos_iff.mp (by omega)
    rw [lines_cons filled, List.getElem?_cons_zero]
    simp
  | succ row ih =>
    have filled : image ≠ [] := List.length_pos_iff.mp (by omega)
    rw [lines_cons filled, List.getElem?_cons_succ, ih]
    · rw [List.drop_drop, bytesPerLine, show 16 + 16 * row = 16 * (row + 1) by omega,
        show address + (16 : Nat) + 16 * row = address + 16 * (row + 1 : Nat) by omega]
    · rw [List.length_drop, bytesPerLine]
      omega

theorem line_unbroken (natural : 0 ≤ address) (bytes : List UInt8) :
    ∀ char ∈ line address bytes, isLineBreak char = false := by
  have front : ∀ digit ∈ Hex.paddedChars 4 address, isLineBreak digit = false := by
    intro digit member
    have worth := Hex.digitValue?_of_mem_paddedChars natural member
    exact isLineBreak_of_isSolid (isSolid_digit worth)
  have row : ∀ char ∈ [' '].intercalate (groups bytes), isLineBreak char = false :=
    Text.forall_mem_intercalate (by decide) fun group member char inside =>
      isLineBreak_of_isSolid ((groups_solid bytes group member).2 char inside)
  rw [line]
  exact List.forall_mem_append.mpr ⟨front,
    List.forall_mem_cons.mpr ⟨by decide, List.forall_mem_cons.mpr ⟨by decide, row⟩⟩⟩

theorem lines_whole (natural : 0 ≤ address) (image : List UInt8) :
    ∀ text ∈ lines address image, text ≠ [] ∧ ∀ char ∈ text, isLineBreak char = false := by
  induction address, image using lines.induct with
  | case1 address image empty =>
    obtain rfl : image = [] := by simpa using empty
    rw [lines_nil]
    simp
  | case2 address image filled ih =>
    rw [lines_cons (by simpa using filled)]
    refine List.forall_mem_cons.mpr ⟨⟨by simp [line], line_unbroken natural _⟩, ih (by omega)⟩

/-- Without their addresses the lines are a source whose words make the bytes. -/
theorem layout_lines (natural : 0 ≤ address) (image : List UInt8) :
    ∃ tokens pieces,
      Layout tokens (['\n'].intercalate ((lines address image).map afterColon)) ∧
      pieces.flatten = image ∧
      List.Forall₂ (fun token piece => wordBytes token = .ok piece) tokens pieces := by
  induction address, image using lines.induct with
  | case1 address image empty =>
    obtain rfl : image = [] := by simpa using empty
    exact ⟨[], [], by rw [lines_nil]; exact .done, rfl, .nil⟩
  | case2 address image filled ih =>
    obtain ⟨tokens, pieces, laid, joined, read⟩ := ih (by omega)
    obtain ⟨front, taken, paired⟩ := groups_spec (image.take bytesPerLine)
    have solid := groups_solid (image.take bytesPerLine)
    have readable : List.Forall₂ (fun group piece => wordBytes group = .ok piece)
        (groups (image.take bytesPerLine)) front :=
      paired.imp fun _ _ pair => wordBytes_pairs pair.2 (List.mem_cons_self)
    refine ⟨groups (image.take bytesPerLine) ++ tokens, front ++ pieces, ?_, ?_,
      List.rel_append readable read⟩
    · rw [lines_cons (by simpa using filled), List.map_cons, afterColon_line natural]
      cases rest : (lines (address + bytesPerLine) (image.drop bytesPerLine)).map afterColon with
      | nil =>
        rw [rest] at laid
        have row := Layout.row solid (by simp) laid
        rw [List.intercalate_nil, List.append_nil] at row
        rw [List.intercalate_singleton]
        exact .blank (by decide) row
      | cons next others =>
        rw [rest] at laid
        rw [List.intercalate_cons_cons, List.append_assoc]
        refine .blank (by decide) (Layout.row solid ?_ (.blank (by decide) laid))
        rintro char ⟨⟩
        decide
    · rw [List.flatten_append, taken, joined, List.take_append_drop]

/-- A dump has a line for each sixteen bytes and one for those that are left, each begins with its
address, and without the addresses they are read as the bytes that were dumped. -/
theorem dump_reads_back (base : Nat) (image : List UInt8) :
    let listed := Text.lines (text base image).toList
    listed.length = (image.length + 15) / 16 ∧
    (∀ row, (inside : row < listed.length) → ∃ digits words,
      listed[row] = digits ++ ':' :: ' ' :: words ∧ Hex.Written 4 (base + 16 * row) digits) ∧
    parse (['\n'].intercalate (listed.map afterColon)) = .ok image := by
  intro listed
  have natural : (0 : Int) ≤ base := Int.natCast_nonneg base
  have same : listed = lines base image := by
    rw [show listed = Text.lines (text base image).toList from rfl, text, String.toList_ofList]
    exact Text.lines_intercalate (lines_whole natural image)
  rw [same]
  refine ⟨lines_length base image, ?_, ?_⟩
  · intro row inside
    have within : 16 * row < image.length := by
      rw [lines_length] at inside
      omega
    have found : (lines base image)[row]? =
        some (line (base + 16 * row) ((image.drop (16 * row)).take bytesPerLine)) :=
      lines_getElem? image row within
    rw [List.getElem?_eq_getElem inside] at found
    refine ⟨_, _, Option.some.inj found, ?_⟩
    exact Hex.written_paddedChars (by decide) (base + 16 * row)
  · obtain ⟨tokens, pieces, laid, joined, read⟩ := layout_lines natural image
    rw [parse_of_words laid.sourceWords read, joined]

end Hexdump

end ChipEight
