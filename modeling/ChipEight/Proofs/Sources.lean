import ChipEight.Program
import ChipEight.Proofs.Disassembly
import ChipEight.Proofs.Straight
import Mathlib.Data.List.Forall2
import Mathlib.Data.List.TakeWhile

/-! Sources: programs as they are typed. A source is laid out from tokens, with blanks and comments
around them, and every source can be read back as the tokens it is laid out from. -/

namespace ChipEight

namespace Hex

variable {digit : Char} {value : Nat}

theorem digitValue?_cases (worth : digitValue? digit = some value) :
    (48 ≤ digit.toNat ∧ digit.toNat ≤ 57 ∧ value = digit.toNat - 48) ∨
      (65 ≤ digit.toNat ∧ digit.toNat ≤ 70 ∧ value = digit.toNat - 55) ∨
      (97 ≤ digit.toNat ∧ digit.toNat ≤ 102 ∧ value = digit.toNat - 87) := by
  simp only [digitValue?] at worth
  split at worth
  · cases worth
    omega
  · split at worth
    · cases worth
      omega
    · split at worth
      · cases worth
        omega
      · cases worth

theorem digitValue?_lt (worth : digitValue? digit = some value) : value < 16 := by
  rcases digitValue?_cases worth with run | run | run <;> omega

theorem digitValue?_upperDigit : ∀ value < 16, digitValue? (upperDigit value) = some value := by
  decide

theorem upperChar_digit (worth : digitValue? digit = some value) :
    Text.upperChar digit = [upperDigit value] := by
  have low : digit.toNat < 103 := by
    rcases digitValue?_cases worth with run | run | run <;> omega
  have capitals : ∀ code < 103, ∀ value < 16, digitValue? (Char.ofNat code) = some value →
      Text.upperChar (Char.ofNat code) = [upperDigit value] := by
    decide +kernel
  have same : Char.ofNat digit.toNat = digit := Char.ofNat_toNat digit
  rw [← same] at worth ⊢
  exact capitals digit.toNat low value (digitValue?_lt worth) worth

end Hex

namespace Text

variable {char : Char} {line source text token : List Char} {later : List (List Char)}

theorem isDigit_cases {motive : Char → Prop} (each : ∀ value < 10, motive (Char.ofNat (48 + value)))
    (digit : char.isDigit = true) : motive char := by
  obtain ⟨low, high⟩ : 48 ≤ char.toNat ∧ char.toNat ≤ 57 := Char.isDigit_iff_toNat.mp digit
  have holds := each (char.toNat - 48) (by omega)
  rwa [show 48 + (char.toNat - 48) = char.toNat by omega, Char.ofNat_toNat] at holds

theorem isBlank_of_isLineBreak (broken : isLineBreak char = true) : isBlank char = true := by
  simp only [isLineBreak, isBlank, Bool.or_eq_true, Bool.and_eq_true, decide_eq_true_eq,
    beq_iff_eq] at broken ⊢
  omega

theorem isLineBreak_of_not_isBlank (plain : isBlank char = false) : isLineBreak char = false := by
  rw [Bool.eq_false_iff]
  intro broken
  rw [isBlank_of_isLineBreak broken] at plain
  cases plain

theorem words_blank (blank : isBlank char = true) : words (char :: text) = words text := by
  rw [words, List.splitOnP_cons_eq_if_modifyHead, if_pos blank]
  rfl

theorem words_token (filled : token ≠ []) (solid : ∀ char ∈ token, isBlank char = false)
    (apart : ∀ char ∈ text.head?, isBlank char = true) :
    words (token ++ text) = token :: words text := by
  have kept : (!token.isEmpty) = true := by simpa using filled
  cases text with
  | nil =>
    rw [List.append_nil, words, List.splitOnP_eq_singleton solid, List.filter_cons, if_pos kept]
    rfl
  | cons char rest =>
    have blank : isBlank char = true := apart char rfl
    rw [words_blank blank, words, List.splitOnP_append_cons_of_forall_mem solid char blank,
      List.filter_cons, if_pos kept, words]

theorem lines_plain (plain : isLineBreak char = false) :
    lines (char :: text) = (char :: (lines text).headD []) :: (lines text).tail := by
  have single : ∀ rest, char = '\r' → text = '\n' :: rest → False := by
    rintro rest rfl
    exact absurd plain (by decide)
  rw [lines.eq_3 char text single, if_neg (by rw [plain]; decide)]
  cases lines text <;> rfl

theorem lines_break (broken : isLineBreak char = true) :
    ∃ later, lines (char :: text) = [] :: later := by
  by_cases pair : char = '\r' ∧ text.head? = some '\n'
  · obtain ⟨rfl, next⟩ := pair
    obtain ⟨rest, rfl⟩ := List.head?_eq_some_iff.mp next
    exact ⟨_, by rw [lines]⟩
  · rw [lines, if_pos broken]
    · exact ⟨_, rfl⟩
    · rintro rest rfl rfl
      exact pair ⟨rfl, rfl⟩

theorem lines_feed : lines ('\n' :: text) = [] :: lines text := by
  rw [lines, if_pos (by decide)]
  exact fun _ same => absurd same (by decide)

theorem lines_unbroken (filled : line ≠ []) (unbroken : ∀ char ∈ line, isLineBreak char = false) :
    lines line = [line] := by
  induction line with
  | nil => exact absurd rfl filled
  | cons char line ih =>
    obtain ⟨plain, others⟩ := List.forall_mem_cons.mp unbroken
    rw [lines_plain plain]
    cases line with
    | nil => rfl
    | cons next rest =>
      rw [ih (List.cons_ne_nil _ _) others, List.headD_cons, List.tail_cons]

theorem lines_append (unbroken : ∀ char ∈ line, isLineBreak char = false)
    (broken : lines text = [] :: later) : lines (line ++ text) = line :: later := by
  induction line with
  | nil => exact broken
  | cons char line ih =>
    obtain ⟨plain, others⟩ := List.forall_mem_cons.mp unbroken
    rw [List.cons_append, lines_plain plain, ih others, List.headD_cons, List.tail_cons]

theorem lines_ended (unbroken : ∀ char ∈ line, isLineBreak char = false) :
    lines (line ++ '\n' :: text) = line :: lines text :=
  lines_append unbroken lines_feed

end Text

namespace HexSource

open Text

variable {char mark : Char} {body line source token : List Char} {tokens : List (List Char)}

/-- A comment begins here. -/
def isMark (char : Char) : Bool :=
  char == ';' || char == '#'

/-- A character of a token. -/
def isSolid (char : Char) : Bool :=
  !isBlank char && !isMark char

theorem isMark_iff : isMark char = true ↔ char = ';' ∨ char = '#' := by
  rw [isMark, Bool.or_eq_true, beq_iff_eq, beq_iff_eq]

theorem isMark_of_isBlank (blank : isBlank char = true) : isMark char = false := by
  rw [Bool.eq_false_iff]
  intro marked
  rcases isMark_iff.mp marked with rfl | rfl <;> exact absurd blank (by decide)

theorem isBlank_of_isMark (marked : isMark mark = true) : isBlank mark = false := by
  rcases isMark_iff.mp marked with rfl | rfl <;> decide

theorem isSolid_iff : isSolid char = true ↔ isBlank char = false ∧ isMark char = false := by
  simp [isSolid]

theorem isLineBreak_of_isSolid (solid : isSolid char = true) : isLineBreak char = false :=
  isLineBreak_of_not_isBlank (isSolid_iff.mp solid).1

theorem withoutComment_mark (marked : isMark mark = true) : withoutComment (mark :: line) = [] := by
  rcases isMark_iff.mp marked with rfl | rfl <;> rfl

theorem withoutComment_cons (unmarked : isMark char = false) :
    withoutComment (char :: line) = char :: withoutComment line := by
  simp only [isMark, Bool.or_eq_false_iff, beq_eq_false_iff_ne] at unmarked
  simp [withoutComment, unmarked]

theorem withoutComment_append (unmarked : ∀ char ∈ token, isMark char = false) :
    withoutComment (token ++ line) = token ++ withoutComment line := by
  induction token with
  | nil => rfl
  | cons char token ih =>
    obtain ⟨first, others⟩ := List.forall_mem_cons.mp unmarked
    rw [List.cons_append, withoutComment_cons first, ih others, List.cons_append]

theorem sourceWords_line (unbroken : ∀ char ∈ line, isLineBreak char = false)
    (ends : ∀ char ∈ source.head?, isLineBreak char = true) :
    sourceWords (line ++ source) = words (withoutComment line) ++ sourceWords source := by
  cases source with
  | nil =>
    by_cases empty : line = []
    · subst empty
      rfl
    · rw [List.append_nil, sourceWords, lines_unbroken empty unbroken, List.flatMap_singleton,
        sourceWords]
      exact (List.append_nil _).symm
  | cons char rest =>
    obtain ⟨later, broken⟩ : ∃ later, lines (char :: rest) = [] :: later :=
      lines_break (ends char rfl)
    rw [sourceWords, lines_append unbroken broken, sourceWords, broken, List.flatMap_cons,
      List.flatMap_cons]
    rfl

theorem sourceWords_break (broken : isLineBreak char = true) :
    sourceWords (char :: source) = sourceWords source := by
  by_cases pair : char = '\r' ∧ source.head? = some '\n'
  · obtain ⟨rfl, next⟩ := pair
    obtain ⟨rest, rfl⟩ := List.head?_eq_some_iff.mp next
    -- The line feed is a line break of its own where no carriage return precedes it.
    rw [sourceWords, lines, sourceWords, lines_feed]
  · rw [sourceWords, lines, if_pos broken, List.flatMap_cons, sourceWords]
    · rfl
    · rintro rest rfl rfl
      exact pair ⟨rfl, rfl⟩

/-- A text is a run of characters of one kind, and one of another kind after it, if there is any. -/
theorem exists_run (kind : Char → Bool) (text : List Char) :
    ∃ run rest, text = run ++ rest ∧ (∀ char ∈ run, kind char = true) ∧
      ∀ char ∈ rest.head?, kind char = false := by
  refine ⟨text.takeWhile kind, text.dropWhile kind, List.takeWhile_append_dropWhile.symm,
    fun char member => List.mem_takeWhile_imp member, ?_⟩
  intro char first
  have stopped := List.head?_dropWhile_not kind text
  rw [Option.mem_def.mp first] at stopped
  simpa using stopped

theorem exists_line (source : List Char) :
    ∃ line rest, source = line ++ rest ∧ (∀ char ∈ line, isLineBreak char = false) ∧
      ∀ char ∈ rest.head?, isLineBreak char = true := by
  obtain ⟨line, rest, same, unbroken, ends⟩ := exists_run (fun char => !isLineBreak char) source
  exact ⟨line, rest, same, by simpa using unbroken, by simpa using ends⟩

theorem sourceWords_blank (blank : isBlank char = true) :
    sourceWords (char :: source) = sourceWords source := by
  cases broken : isLineBreak char with
  | true => exact sourceWords_break broken
  | false =>
    obtain ⟨line, rest, rfl, unbroken, ends⟩ := exists_line source
    have longer : ∀ next ∈ char :: line, isLineBreak next = false :=
      List.forall_mem_cons.mpr ⟨broken, unbroken⟩
    rw [← List.cons_append, sourceWords_line longer ends, sourceWords_line unbroken ends,
      withoutComment_cons (isMark_of_isBlank blank), words_blank blank]

theorem sourceWords_comment (marked : isMark mark = true)
    (unbroken : ∀ char ∈ body, isLineBreak char = false)
    (ends : ∀ char ∈ source.head?, isLineBreak char = true) :
    sourceWords (mark :: body ++ source) = sourceWords source := by
  have plain : isLineBreak mark = false := isLineBreak_of_not_isBlank (isBlank_of_isMark marked)
  have longer : ∀ next ∈ mark :: body, isLineBreak next = false :=
    List.forall_mem_cons.mpr ⟨plain, unbroken⟩
  rw [sourceWords_line longer ends, withoutComment_mark marked]
  rfl

theorem sourceWords_token (filled : token ≠ []) (solid : ∀ char ∈ token, isSolid char = true)
    (apart : ∀ char ∈ source.head?, isSolid char = false) :
    sourceWords (token ++ source) = token :: sourceWords source := by
  have kinds : ∀ char ∈ token, isBlank char = false ∧ isMark char = false :=
    fun char member => isSolid_iff.mp (solid char member)
  obtain ⟨line, rest, rfl, unbroken, ends⟩ := exists_line source
  have longer : ∀ char ∈ token ++ line, isLineBreak char = false :=
    List.forall_mem_append.mpr
      ⟨fun char member => isLineBreak_of_isSolid (solid char member), unbroken⟩
  -- What is left of the line without its comment is empty or begins with a blank.
  have blank : ∀ char ∈ (withoutComment line).head?, isBlank char = true := by
    cases line with
    | nil => exact fun char first => by cases first
    | cons next line =>
      have other : isSolid next = false := apart next rfl
      cases marked : isMark next with
      | true =>
        rw [withoutComment_mark marked]
        exact fun char first => by cases first
      | false =>
        rw [withoutComment_cons marked]
        rintro char ⟨⟩
        simpa [isSolid, marked] using other
  rw [← List.append_assoc, sourceWords_line longer ends, sourceWords_line unbroken ends,
    withoutComment_append fun char member => (kinds char member).2,
    words_token filled (fun char member => (kinds char member).1) blank, List.cons_append]

/-- How a source is laid out from tokens. Tokens are runs of characters that are neither blanks nor
begin a comment, blanks or comments stand between them, and a comment ends with its line. -/
inductive Layout : List (List Char) → List Char → Prop where
  | done : Layout [] []
  | blank {tokens : List (List Char)} {char : Char} {source : List Char}
      (blank : isBlank char = true) (rest : Layout tokens source) : Layout tokens (char :: source)
  | comment {tokens : List (List Char)} {mark : Char} {body source : List Char}
      (marked : isMark mark = true) (unbroken : ∀ char ∈ body, isLineBreak char = false)
      (ends : ∀ char ∈ source.head?, isLineBreak char = true) (rest : Layout tokens source) :
      Layout tokens (mark :: body ++ source)
  | token {tokens : List (List Char)} {token source : List Char} (filled : token ≠ [])
      (solid : ∀ char ∈ token, isSolid char = true)
      (apart : ∀ char ∈ source.head?, isSolid char = false) (rest : Layout tokens source) :
      Layout (token :: tokens) (token ++ source)

theorem Layout.sourceWords (layout : Layout tokens source) : sourceWords source = tokens := by
  induction layout with
  | done => rfl
  | blank blank _ ih => rw [sourceWords_blank blank, ih]
  | comment marked unbroken ends _ ih => rw [sourceWords_comment marked unbroken ends, ih]
  | token filled solid apart _ ih => rw [sourceWords_token filled solid apart, ih]

/-- Every source is laid out from its words. -/
theorem layout_sourceWords (source : List Char) : Layout (sourceWords source) source := by
  induction size : source.length using Nat.strongRecOn generalizing source with
  | ind size shorter =>
    subst size
    cases source with
    | nil => exact .done
    | cons char rest =>
      -- The first character decides whether a blank, a comment or a token comes first.
      cases blank : isBlank char with
      | true =>
        rw [sourceWords_blank blank]
        exact .blank blank (shorter _ (by simp) rest rfl)
      | false =>
        cases marked : isMark char with
        | true =>
          obtain ⟨body, source, rfl, unbroken, ends⟩ := exists_line rest
          rw [← List.cons_append, sourceWords_comment marked unbroken ends]
          refine .comment marked unbroken ends (shorter _ ?_ source rfl)
          simp only [List.length_cons, List.length_append]
          omega
        | false =>
          have solid : isSolid char = true := isSolid_iff.mpr ⟨blank, marked⟩
          obtain ⟨token, source, rfl, others, apart⟩ := exists_run isSolid rest
          have whole : ∀ next ∈ char :: token, isSolid next = true :=
            List.forall_mem_cons.mpr ⟨solid, others⟩
          rw [← List.cons_append, sourceWords_token (List.cons_ne_nil _ _) whole apart]
          refine .token (List.cons_ne_nil _ _) whole apart (shorter _ ?_ source rfl)
          simp only [List.length_cons, List.length_append]
          omega

/-- The words of a source are the tokens that it is laid out from, and no others. -/
theorem sourceWords_eq_iff : sourceWords source = tokens ↔ Layout tokens source :=
  ⟨fun same => same ▸ layout_sourceWords source, Layout.sourceWords⟩

variable {digits : List Char} {bytes : List UInt8}

theorem isSolid_digit (digit : (Hex.digitValue? char).isSome) : isSolid char = true := by
  obtain ⟨value, worth⟩ := Option.isSome_iff_exists.mp digit
  have codes := Hex.digitValue?_cases worth
  have unmarked : isMark char = false := by
    rw [Bool.eq_false_iff]
    intro marked
    rcases isMark_iff.mp marked with rfl | rfl <;> simp at codes
  have solid : isBlank char = false := by
    rw [Bool.eq_false_iff]
    simp only [isBlank, ne_eq, Bool.or_eq_true, Bool.and_eq_true, decide_eq_true_eq, beq_iff_eq]
    omega
  exact isSolid_iff.mpr ⟨solid, unmarked⟩

theorem pairs?_cons_eq_some {high low : Char}
    (paired : pairs? (high :: low :: digits) = some bytes) :
    ∃ left right others, Hex.digitValue? high = some left ∧ Hex.digitValue? low = some right ∧
      pairs? digits = some others ∧ bytes = UInt8.ofNat (16 * left + right) :: others := by
  simp only [pairs?, Option.bind_eq_bind, Option.pure_def, Option.bind_eq_some_iff,
    Option.some.injEq] at paired
  obtain ⟨left, worth, right, worth', others, paired, rfl⟩ := paired
  exact ⟨left, right, others, worth, worth', paired, rfl⟩

theorem pairs?_eq_some (paired : pairs? digits = some bytes) :
    digits.length = 2 * bytes.length ∧ ∀ digit ∈ digits, (Hex.digitValue? digit).isSome := by
  induction digits using pairs?.induct generalizing bytes with
  | case1 =>
    cases paired
    exact ⟨rfl, by simp⟩
  | case2 high low rest ih =>
    obtain ⟨left, right, others, worth, worth', behind, rfl⟩ := pairs?_cons_eq_some paired
    obtain ⟨length, digits⟩ := ih behind
    refine ⟨by simp only [List.length_cons, length]; omega, ?_⟩
    exact List.forall_mem_cons.mpr ⟨by rw [worth]; rfl,
      List.forall_mem_cons.mpr ⟨by rw [worth']; rfl, digits⟩⟩
  | case3 => cases paired

theorem upper_pair {high low : Char} {left right : Nat} (worth : Hex.digitValue? high = some left)
    (worth' : Hex.digitValue? low = some right) :
    upper (high :: low :: digits) =
      Hex.upperDigit left :: Hex.upperDigit right :: upper digits := by
  rw [upper, List.flatMap_cons, List.flatMap_cons, Hex.upperChar_digit worth,
    Hex.upperChar_digit worth']
  rfl

theorem pairs?_upper (paired : pairs? digits = some bytes) :
    pairs? (upper digits) = some bytes := by
  induction digits using pairs?.induct generalizing bytes with
  | case1 => exact paired
  | case2 high low rest ih =>
    obtain ⟨left, right, others, worth, worth', behind, rfl⟩ := pairs?_cons_eq_some paired
    have capital := Hex.digitValue?_upperDigit left (Hex.digitValue?_lt worth)
    have capital' := Hex.digitValue?_upperDigit right (Hex.digitValue?_lt worth')
    rw [upper_pair worth worth', pairs?, capital, capital', ih behind]
    rfl
  | case3 => cases paired

theorem withoutMark_upper (paired : pairs? digits = some bytes) :
    withoutMark (upper digits) = upper digits := by
  have plain : ∀ value < 16, Hex.upperDigit value ≠ 'X' := by decide
  cases digits using pairs?.induct with
  | case1 => rfl
  | case2 high low rest ih =>
    obtain ⟨left, right, _, worth, worth', _⟩ := pairs?_cons_eq_some paired
    rw [upper_pair worth worth', withoutMark]
    intro rest same
    have second := (List.cons.inj (List.cons.inj same).2).1
    exact plain right (Hex.digitValue?_lt worth') second
  | case3 => cases paired

/-- The marks that may stand before digits. -/
def marks : List (List Char) :=
  [[], ['0', 'x'], ['0', 'X']]

theorem wordBytes_pairs (paired : pairs? digits = some bytes) {mark : List Char}
    (marked : mark ∈ marks) : wordBytes (mark ++ digits) = .ok bytes := by
  have bare : body (mark ++ digits) = upper digits := by
    simp only [marks, List.mem_cons, List.not_mem_nil, or_false] at marked
    have small : upper ['0', 'x'] = ['0', 'X'] := by decide +kernel
    have capital : upper ['0', 'X'] = ['0', 'X'] := by decide +kernel
    have joined (mark : List Char) : upper (mark ++ digits) = upper mark ++ upper digits :=
      List.flatMap_append
    rcases marked with rfl | rfl | rfl
    · exact withoutMark_upper paired
    · rw [body, joined, small]
      rfl
    · rw [body, joined, capital]
      rfl
  have capitals := pairs?_upper paired
  have even : (upper digits).length % 2 ≠ 1 := by
    rw [(pairs?_eq_some capitals).1]
    omega
  simp only [wordBytes, bare, if_neg even, capitals]

theorem parse_of_words (words : sourceWords source = tokens) {chunks : List (List UInt8)}
    (readable : List.Forall₂ (fun token bytes => wordBytes token = .ok bytes) tokens chunks) :
    parse source = .ok chunks.flatten := by
  have all : tokens.mapM wordBytes = .ok chunks := by
    clear words
    induction readable with
    | nil => rfl
    | cons first _ ih =>
      rw [List.mapM_cons, first, ih]
      rfl
  rw [parse, words, all]
  rfl

end HexSource

end ChipEight
