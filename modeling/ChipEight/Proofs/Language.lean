import ChipEight.Proofs.Sources

namespace ChipEight

namespace Text

variable {char first : Char} {text rest : List Char}

/-- What is true of the characters that the tables do not have, of those of the runs, and of those
with several capitals, is true of all characters and their capitals. -/
theorem upperChar_cases {motive : Char → List Char → Prop} (same : ∀ char, motive char [char])
    (runs : ∀ run ∈ caseRuns, ∀ offset < run.last + 1 - run.first,
      motive (Char.ofNat (run.first + offset)) [run.capital (run.first + offset)])
    (expansions : ∀ entry ∈ caseExpansions,
      motive (Char.ofNat entry.1) (entry.2.map Char.ofNat)) (char : Char) :
    motive char (upperChar char) := by
  rw [upperChar]
  cases found : caseRuns.find? (·.contains char.toNat) with
  | some run =>
    have within := List.find?_some found
    simp only [CaseRun.contains, Bool.and_eq_true, decide_eq_true_eq] at within
    have holds := runs run (List.mem_of_find?_eq_some found) (char.toNat - run.first) (by omega)
    rwa [show run.first + (char.toNat - run.first) = char.toNat by omega,
      Char.ofNat_toNat] at holds
  | none =>
    cases listed : caseExpansions.lookup char.toNat with
    | some letters =>
      obtain ⟨before, after, split, _⟩ := List.lookup_eq_some_iff.mp listed
      have holds := expansions (char.toNat, letters) (by simp [split])
      rwa [Char.ofNat_toNat] at holds
    | none => exact same char

/-- Two letters `f` that are written as one character. -/
def ligature : Char := '\ufb00'

/-- A text with its ligatures written out in letters. -/
def spelledOut (text : List Char) : List Char :=
  text.flatMap fun char => if char = ligature then ['F', 'F'] else [char]

/-- Capitals that are digits are those of digits, or of the ligature. -/
theorem digit_of_capitals
    (digits : ∀ capital ∈ upperChar char, (Hex.digitValue? capital).isSome) :
    (Hex.digitValue? char).isSome ∨ char = ligature := by
  have holds : (upperChar char).all (fun capital => (Hex.digitValue? capital).isSome) →
      (Hex.digitValue? char).isSome ∨ char = ligature := by
    refine upperChar_cases (motive := fun char capitals =>
      capitals.all (fun capital => (Hex.digitValue? capital).isSome) →
        (Hex.digitValue? char).isSome ∨ char = ligature) ?_ (by decide +kernel) (by decide +kernel)
      char
    exact fun char digit => .inl (by simpa using digit)
  exact holds (List.all_eq_true.mpr digits)

theorem upperChar_ne_nil (char : Char) : upperChar char ≠ [] :=
  upperChar_cases (motive := fun _ capitals => capitals ≠ []) (by simp) (by simp)
    (by decide +kernel) char

theorem upperChar_mark (marked : first = '0' ∨ first = 'X')
    (begins : (upperChar char).head? = some first) :
    upperChar char = [first] ∧ (char = first ∨ char = 'x' ∧ first = 'X') := by
  have alone (char : Char) (begins : [char].head? = some first) :
      [char] = [first] ∧ (char = first ∨ char = 'x' ∧ first = 'X') := by
    obtain rfl : char = first := Option.some.inj begins
    exact ⟨rfl, .inl rfl⟩
  revert begins
  rcases marked with rfl | rfl
  · exact upperChar_cases (motive := fun char capitals => capitals.head? = some '0' →
      capitals = ['0'] ∧ (char = '0' ∨ char = 'x' ∧ '0' = 'X')) alone (by decide +kernel)
      (by decide +kernel) char
  · exact upperChar_cases (motive := fun char capitals => capitals.head? = some 'X' →
      capitals = ['X'] ∧ (char = 'X' ∨ char = 'x' ∧ 'X' = 'X')) alone (by decide +kernel)
      (by decide +kernel) char

theorem upper_mark (marked : first = '0' ∨ first = 'X') (begins : upper text = first :: rest) :
    ∃ char later, text = char :: later ∧ (char = first ∨ char = 'x' ∧ first = 'X') ∧
      upper later = rest := by
  cases text with
  | nil => cases begins
  | cons char later =>
    rw [upper, List.flatMap_cons] at begins
    have front : (upperChar char).head? = some first := by
      rw [← List.head?_append_of_ne_nil _ (upperChar_ne_nil char), begins, List.head?_cons]
    obtain ⟨single, same⟩ := upperChar_mark marked front
    rw [single] at begins
    exact ⟨char, later, rfl, same, (List.cons.inj begins).2⟩

theorem spelledOut_append (text rest : List Char) :
    spelledOut (text ++ rest) = spelledOut text ++ spelledOut rest :=
  List.flatMap_append

theorem spelledOut_cons_of_ne (other : char ≠ ligature) (text : List Char) :
    spelledOut (char :: text) = char :: spelledOut text := by
  rw [spelledOut, List.flatMap_cons, if_neg other]
  rfl

theorem spelledOut_eq_self (letters : ligature ∉ text) : spelledOut text = text := by
  induction text with
  | nil => rfl
  | cons char text ih =>
    rw [spelledOut_cons_of_ne (List.ne_of_not_mem_cons letters).symm,
      ih (List.not_mem_of_not_mem_cons letters)]

theorem upper_spelledOut (text : List Char) : upper (spelledOut text) = upper text := by
  rw [upper, spelledOut, List.flatMap_assoc]
  refine List.flatMap_congr fun char _ => ?_
  split
  · subst char
    decide +kernel
  · exact List.flatMap_singleton _ _

end Text

namespace HexSource

open Text

variable {source token digits : List Char} {tokens : List (List Char)} {bytes : List UInt8}

/-- Two digits for each byte, the high one first. -/
inductive Pairs : List Char → List UInt8 → Prop where
  | none : Pairs [] []
  | pair {high low : Char} {byte : UInt8} {digits : List Char} {bytes : List UInt8}
      (left : Hex.digitValue? high = some (byte.toNat / 16))
      (right : Hex.digitValue? low = some (byte.toNat % 16)) (rest : Pairs digits bytes) :
      Pairs (high :: low :: digits) (byte :: bytes)

theorem pairs?_eq_some_iff : pairs? digits = some bytes ↔ Pairs digits bytes := by
  constructor
  · intro paired
    induction digits using pairs?.induct generalizing bytes with
    | case1 =>
      cases paired
      exact .none
    | case2 high low rest ih =>
      obtain ⟨left, right, others, worth, worth', behind, rfl⟩ := pairs?_cons_eq_some paired
      have small := Hex.digitValue?_lt worth
      have small' := Hex.digitValue?_lt worth'
      have whole : (UInt8.ofNat (16 * left + right)).toNat = 16 * left + right := by
        rw [UInt8.toNat_ofNat']
        omega
      refine .pair ?_ ?_ (ih behind)
      · rw [worth, whole, show (16 * left + right) / 16 = left by omega]
      · rw [worth', whole, show (16 * left + right) % 16 = right by omega]
    | case3 => cases paired
  · intro paired
    induction paired with
    | none => rfl
    | @pair high low byte digits bytes left right _ ih =>
      have whole : UInt8.ofNat (16 * (byte.toNat / 16) + byte.toNat % 16) = byte := by
        rw [Nat.div_add_mod, UInt8.ofNat_toNat]
      simp only [pairs?, left, right, ih, Option.bind_eq_bind, Option.bind_some, whole,
        Option.pure_def]

theorem exists_pairs_iff : (∃ bytes, Pairs digits bytes) ↔
    digits.length % 2 = 0 ∧ ∀ digit ∈ digits, (Hex.digitValue? digit).isSome := by
  simp only [← pairs?_eq_some_iff]
  constructor
  · rintro ⟨bytes, paired⟩
    obtain ⟨length, all⟩ := pairs?_eq_some paired
    exact ⟨by omega, all⟩
  · rintro ⟨even, all⟩
    induction digits using pairs?.induct with
    | case1 => exact ⟨[], rfl⟩
    | case2 high low rest ih =>
      obtain ⟨first, second, others⟩ : (Hex.digitValue? high).isSome ∧
          (Hex.digitValue? low).isSome ∧ ∀ digit ∈ rest, (Hex.digitValue? digit).isSome := by
        simpa using all
      obtain ⟨left, worth⟩ := Option.isSome_iff_exists.mp first
      obtain ⟨right, worth'⟩ := Option.isSome_iff_exists.mp second
      simp only [List.length_cons] at even
      obtain ⟨bytes, paired⟩ := ih (by omega) others
      exact ⟨UInt8.ofNat (16 * left + right) :: bytes, by simp [pairs?, worth, worth', paired]⟩
    | case3 => simp at even

theorem length_upper_digits (all : ∀ digit ∈ digits, (Hex.digitValue? digit).isSome) :
    (upper digits).length = digits.length := by
  induction digits with
  | nil => rfl
  | cons digit digits ih =>
    obtain ⟨first, others⟩ := List.forall_mem_cons.mp all
    obtain ⟨value, worth⟩ := Option.isSome_iff_exists.mp first
    rw [upper, List.flatMap_cons, Hex.upperChar_digit worth, List.length_append, ← upper, ih others,
      List.length_singleton, List.length_cons, Nat.add_comm]

/-- Capitals that are pairs are those of the same pairs, with ligatures for some letters. -/
theorem pairs?_of_upper (paired : pairs? (upper digits) = some bytes) :
    pairs? (spelledOut digits) = some bytes := by
  obtain ⟨length, capitals⟩ := pairs?_eq_some paired
  have all : ∀ digit ∈ spelledOut digits, (Hex.digitValue? digit).isSome := by
    intro digit member
    obtain ⟨char, inside, written⟩ := List.mem_flatMap.mp member
    have read := digit_of_capitals fun capital inner =>
      capitals capital (List.mem_flatMap.mpr ⟨char, inside, inner⟩)
    split at written
    · rcases (by simpa using written : digit = 'F')
      rfl
    · rcases (by simpa using written : digit = char)
      exact read.resolve_right ‹_›
  have even : (spelledOut digits).length % 2 = 0 := by
    rw [← length_upper_digits all, upper_spelledOut, length]
    omega
  obtain ⟨others, read⟩ := exists_pairs_iff.mpr ⟨even, all⟩
  have same := pairs?_upper (pairs?_eq_some_iff.mpr read)
  rw [upper_spelledOut, paired] at same
  rw [pairs?_eq_some_iff.mpr read, same]

/-- A token can be read as bytes: behind a mark, or without one, it has two digits for each. -/
def Reads (token : List Char) (bytes : List UInt8) : Prop :=
  ∃ mark ∈ marks, ∃ digits, token = mark ++ digits ∧ Pairs digits bytes

theorem spelledOut_mark {mark : List Char} (marked : mark ∈ marks) : spelledOut mark = mark := by
  revert mark
  decide

theorem wordBytes_eq_ok_iff : wordBytes token = .ok bytes ↔ Reads (spelledOut token) bytes := by
  constructor
  · intro read
    have paired : pairs? (body token) = some bytes := by
      simp only [wordBytes] at read
      split at read
      · cases read
      · split at read
        · rename_i paired
          cases read
          exact paired
        · cases read
    by_cases marked : ∃ rest, upper token = '0' :: 'X' :: rest
    · obtain ⟨rest, marked⟩ := marked
      rw [body, marked, withoutMark] at paired
      obtain ⟨zero, behind, rfl, same, marked⟩ := upper_mark (.inl rfl) marked
      obtain ⟨letter, digits, rfl, same', rfl⟩ := upper_mark (.inr rfl) marked
      obtain rfl : zero = '0' := by simpa using same
      have mark : ['0', letter] ∈ marks := by
        rcases same' with rfl | ⟨rfl, _⟩ <;> decide
      refine ⟨_, mark, spelledOut digits, ?_, pairs?_eq_some_iff.mp (pairs?_of_upper paired)⟩
      rw [← spelledOut_mark mark, ← spelledOut_append]
      rfl
    · rw [body, withoutMark] at paired
      · exact ⟨[], by decide, _, rfl, pairs?_eq_some_iff.mp (pairs?_of_upper paired)⟩
      · exact fun rest same => marked ⟨rest, same⟩
  · rintro ⟨mark, marked, digits, same, paired⟩
    have read := wordBytes_pairs (pairs?_eq_some_iff.mpr paired) marked
    rw [← same] at read
    rwa [wordBytes, body, upper_spelledOut] at read

theorem forall₂_of_mapM {chunks : List (List UInt8)} (read : tokens.mapM wordBytes = .ok chunks) :
    List.Forall₂ (fun token chunk => wordBytes token = .ok chunk) tokens chunks := by
  induction tokens generalizing chunks with
  | nil =>
    cases read
    exact .nil
  | cons token tokens ih =>
    rw [List.mapM_cons] at read
    cases first : wordBytes token with
    | error error =>
      rw [first] at read
      cases read
    | ok chunk =>
      cases others : tokens.mapM wordBytes with
      | error error =>
        rw [first, others] at read
        cases read
      | ok later =>
        rw [first, others] at read
        cases read
        exact .cons first (ih others)

theorem parse_eq_ok_iff : parse source = .ok bytes ↔ ∃ chunks,
    List.Forall₂ (fun token chunk => wordBytes token = .ok chunk) (sourceWords source) chunks ∧
      bytes = chunks.flatten := by
  constructor
  · intro read
    rw [parse] at read
    cases chunked : (sourceWords source).mapM wordBytes with
    | error error =>
      rw [chunked] at read
      cases read
    | ok chunks =>
      rw [chunked] at read
      cases read
      exact ⟨chunks, forall₂_of_mapM chunked, rfl⟩
  · rintro ⟨chunks, readable, rfl⟩
    exact parse_of_words rfl readable

theorem exists_chunks_iff {reads : List Char → List UInt8 → Prop} :
    (∃ chunks, List.Forall₂ reads tokens chunks) ↔
      ∀ token ∈ tokens, ∃ chunk, reads token chunk := by
  induction tokens with
  | nil => simp
  | cons token tokens ih =>
    rw [List.forall_mem_cons, ← ih]
    constructor
    · rintro ⟨_, _ | ⟨first, others⟩⟩
      exact ⟨⟨_, first⟩, _, others⟩
    · rintro ⟨⟨chunk, first⟩, chunks, others⟩
      exact ⟨chunk :: chunks, .cons first others⟩

theorem Layout.mem_source {char : Char} (layout : Layout tokens source) (filled : token ∈ tokens)
    (inside : char ∈ token) : char ∈ source := by
  induction layout with
  | done => cases filled
  | blank _ _ ih => exact List.mem_cons_of_mem _ (ih filled)
  | comment _ _ _ _ ih => exact List.mem_append_right _ (ih filled)
  | token _ _ _ _ ih =>
    rcases List.mem_cons.mp filled with rfl | later
    · exact List.mem_append_left _ inside
    · exact List.mem_append_right _ (ih later)

/-- Every source has one layout, and is read exactly where each of its tokens, behind a mark or
without one, is an even number of hexadecimal digits, a ligature standing for its two letters. -/
theorem parse_language (source : List Char) :
    let tokens := (sourceWords source).map spelledOut
    (∀ words, Layout words source ↔ sourceWords source = words) ∧
    (∀ bytes, parse source = .ok bytes ↔
      ∃ chunks, List.Forall₂ Reads tokens chunks ∧ bytes = chunks.flatten) ∧
    ((∃ bytes, parse source = .ok bytes) ↔
      ∀ token ∈ tokens, ∃ mark ∈ marks, ∃ digits, token = mark ++ digits ∧
        digits.length % 2 = 0 ∧ ∀ digit ∈ digits, (Hex.digitValue? digit).isSome) ∧
    ((∃ error, parse source = .error error) ↔ ¬ ∃ bytes, parse source = .ok bytes) ∧
    (ligature ∉ source → tokens = sourceWords source) := by
  intro tokens
  have read (bytes : List UInt8) : parse source = .ok bytes ↔
      ∃ chunks, List.Forall₂ Reads tokens chunks ∧ bytes = chunks.flatten := by
    simp only [parse_eq_ok_iff, tokens, List.forall₂_map_left_iff, wordBytes_eq_ok_iff]
  refine ⟨fun words => sourceWords_eq_iff.symm, read, ?_, ?_, ?_⟩
  · have readable : (∃ bytes, parse source = .ok bytes) ↔
        ∃ chunks, List.Forall₂ Reads tokens chunks := by
      simp only [read]
      exact ⟨fun ⟨_, chunks, all, _⟩ => ⟨chunks, all⟩, fun ⟨chunks, all⟩ => ⟨_, chunks, all, rfl⟩⟩
    rw [readable, exists_chunks_iff]
    refine forall₂_congr fun token _ => ?_
    constructor
    · rintro ⟨bytes, mark, marked, digits, same, paired⟩
      exact ⟨mark, marked, digits, same, exists_pairs_iff.mp ⟨bytes, paired⟩⟩
    · rintro ⟨mark, marked, digits, same, even⟩
      obtain ⟨bytes, paired⟩ := exists_pairs_iff.mpr even
      exact ⟨bytes, mark, marked, digits, same, paired⟩
  · cases parse source <;> simp
  · intro letters
    have plain : ∀ token ∈ sourceWords source, spelledOut token = token := fun token member =>
      spelledOut_eq_self fun inside =>
        letters ((layout_sourceWords source).mem_source member inside)
    exact (List.map_congr_left plain).trans (List.map_id _)

/-- The ligature is read as the byte of its two letters. -/
example : parse [ligature] = .ok [0xFF] := by decide +kernel

end HexSource

end ChipEight
