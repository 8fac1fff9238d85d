import ChipEight.Proofs.Sources

namespace ChipEight

namespace HexSource

open Text

variable {word : UInt16} {words : List UInt16} {token source : List Char}
  {tokens : List (List Char)}

/-- A token that stands for a word: four digits in either case, with or without a mark. -/
def Spells (token : List Char) (word : UInt16) : Prop :=
  ∃ mark ∈ marks, ∃ digits, token = mark ++ digits ∧ digits.length = 4 ∧
    (∀ digit ∈ digits, (Hex.digitValue? digit).isSome) ∧ Hex.value digits = word.toNat

/-- The two bytes of a word, the high one first. -/
def wordPair (word : UInt16) : List UInt8 :=
  [UInt8.ofNat (word.toNat / 256), UInt8.ofNat (word.toNat % 256)]

def wordsBytes (words : List UInt16) : List UInt8 :=
  words.flatMap wordPair

theorem length_wordsBytes (words : List UInt16) :
    (wordsBytes words).length = 2 * words.length := by
  induction words with
  | nil => rfl
  | cons word words ih =>
    rw [wordsBytes, List.flatMap_cons, List.length_append, ← wordsBytes, ih, List.length_cons]
    simp only [wordPair, List.length_cons, List.length_nil]
    omega

theorem getElem?_wordsBytes (words : List UInt16) (place : Nat) :
    (wordsBytes words)[2 * place]? =
        words[place]?.map (fun word => UInt8.ofNat (word.toNat / 256)) ∧
      (wordsBytes words)[2 * place + 1]? =
        words[place]?.map fun word => UInt8.ofNat (word.toNat % 256) := by
  induction words generalizing place with
  | nil => exact ⟨rfl, rfl⟩
  | cons word words ih =>
    have front : wordsBytes (word :: words) =
        UInt8.ofNat (word.toNat / 256) :: UInt8.ofNat (word.toNat % 256) :: wordsBytes words := rfl
    cases place with
    | zero => exact ⟨rfl, rfl⟩
    | succ place =>
      rw [front, show 2 * (place + 1) = 2 * place + 1 + 1 by omega]
      exact ih place

theorem wordBytes_spelled (spelled : Spells token word) :
    wordBytes token = .ok (wordPair word) := by
  obtain ⟨mark, marked, digits, rfl, four, hexadecimal, worth⟩ := spelled
  refine wordBytes_pairs ?_ marked
  match digits, four with
  | [first, second, third, fourth], _ =>
    simp only [List.forall_mem_cons, Option.isSome_iff_exists] at hexadecimal
    obtain ⟨⟨a, first⟩, ⟨b, second⟩, ⟨c, third⟩, ⟨d, fourth⟩, _⟩ := hexadecimal
    have small := Hex.digitValue?_lt third
    have small' := Hex.digitValue?_lt fourth
    simp only [Hex.value, List.foldl_cons, List.foldl_nil, first, second, third, fourth,
      Option.getD_some] at worth
    have high : word.toNat / 256 = 16 * a + b := by omega
    have low : word.toNat % 256 = 16 * c + d := by omega
    rw [wordPair, high, low]
    simp [pairs?, first, second, third, fourth]

theorem parse_words (spelled : List.Forall₂ Spells tokens words) (laid : Layout tokens source) :
    parse source = .ok (wordsBytes words) := by
  have readable : List.Forall₂ (fun token bytes => wordBytes token = .ok bytes) tokens
      (words.map wordPair) := by
    rw [List.forall₂_map_right_iff]
    exact spelled.imp fun _ _ => wordBytes_spelled
  rw [parse_of_words laid.sourceWords readable, wordsBytes, List.flatMap]

end HexSource

open HexSource

namespace State

theorem read_ofProgram_outside (program : List UInt8) {address : Nat}
    (outside : address < 0x200 ∨ 0x200 + program.length ≤ address ∧ address < 0x1000) :
    (ofProgram program).memory.read address = .ok 0 := by
  have start : programStart = 0x200 := rfl
  have zero : (ofProgram program).memory.byteAt address = 0 := by
    rcases outside with before | ⟨behind, inside⟩
    · exact byteAt_ofProgram_before _ (by omega)
    · rw [byteAt_ofProgram _ (by omega) inside, List.getD_eq_getElem?_getD,
        List.getElem?_eq_none (by omega)]
      rfl
  have covered : (ofProgram program).memory.Covers address 1 := by
    refine ⟨by omega, by decide, ?_⟩
    exact show (address : Int) + 1 ≤ 4096 by omega
  rw [Memory.read_eq covered, Int.toNat_natCast, zero]

theorem readWord_ofProgram_words (words : List UInt16) {place : Nat} (inside : place < words.length)
    (room : place < 1792) :
    (ofProgram (wordsBytes words)).memory.readWord (0x200 + 2 * place) =
      .ok words[place].toNat := by
  have start : programStart = 0x200 := rfl
  have readable : (ofProgram (wordsBytes words)).memory.Covers (0x200 + 2 * place) 2 := by
    refine ⟨by omega, by decide, ?_⟩
    exact show (0x200 + 2 * place : Int) + 2 ≤ 4096 by omega
  have address : (0x200 + 2 * (place : Int)).toNat = 0x200 + 2 * place := by omega
  obtain ⟨high, low⟩ := getElem?_wordsBytes words place
  rw [List.getElem?_eq_getElem inside, Option.map_some] at high low
  have small := words[place].toNat_lt
  rw [Memory.readWord_eq readable, address, Memory.wordAt, byteAt_ofProgram _ (by omega) (by omega),
    byteAt_ofProgram _ (by omega) (by omega), List.getD_eq_getElem?_getD,
    List.getD_eq_getElem?_getD, start, Nat.add_sub_cancel_left,
    show 0x200 + 2 * place + 1 - 0x200 = 2 * place + 1 by omega, high, low]
  simp only [Option.getD_some, UInt8.toNat_ofNat']
  congr 1
  omega

end State

namespace Machine

variable {τ ε : Type}

/-- However words are typed, four digits each, those that find room are fetched from their places
once their bytes are loaded, and all other bytes are zero. -/
theorem typed_words_fetched {words : List UInt16} {tokens : List (List Char)} {source : List Char}
    (spelled : List.Forall₂ Spells tokens words) (laid : Layout tokens source)
    (surroundings : Surroundings τ ε) (machine : Machine τ) (world : ε) :
    parse source = .ok (wordsBytes words) ∧
    ∃ loaded after state,
      (load surroundings (wordsBytes words)).run (machine, world) = .ok loaded after ∧
      loaded = min (2 * (words.length : Int)) 3584 ∧
      after.1.loadedBytes = min (2 * (words.length : Int)) 3584 ∧
      after.1.state = some state ∧
      state.memory.size = 4096 ∧
      (∀ address : Nat, address < 0x200 ∨ 0x200 + 2 * words.length ≤ address ∧ address < 0x1000 →
        state.memory.read address = .ok 0) ∧
      ∀ (place : Nat) (inside : place < words.length), place < 1792 →
        state.memory.readWord (0x200 + 2 * place) = .ok words[place].toNat := by
  have length := length_wordsBytes words
  have count : min ((wordsBytes words).length : Int) ((Memory.standard.size : Int) - programStart) =
      min (2 * (words.length : Int)) 3584 := by
    have room : (Memory.standard.size : Int) - programStart = 3584 := rfl
    omega
  refine ⟨parse_words spelled laid, _, _, State.ofProgram (wordsBytes words),
    run_load surroundings (wordsBytes words) machine world, count, count, rfl, rfl, ?_, ?_⟩
  · intro address outside
    exact State.read_ofProgram_outside _ (by omega)
  · exact fun place inside room => State.readWord_ofProgram_words words inside room

/-- Two words in different spellings, with comments and blanks of several kinds. -/
theorem typed_words_fetched_commented :
    let source := "0x6101;LD V1\r\n\t 00e0 # CLS\n".toList
    let surroundings : Surroundings Rat Nat := .scripted fun _ => Keypad.released.held
    parse source = .ok [0x61, 0x01, 0x00, 0xE0] ∧
      ∃ after state,
        (load surroundings [0x61, 0x01, 0x00, 0xE0]).run (.idle .standard, 0) = .ok 4 after ∧
        after.1.state = some state ∧
        state.memory.read 0x204 = .ok 0 ∧
        state.memory.readWord 0x200 = .ok 0x6101 ∧ state.memory.readWord 0x202 = .ok 0x00E0 := by
  intro source surroundings
  have first : Spells "0x6101".toList 0x6101 :=
    ⟨['0', 'x'], by decide, "6101".toList, rfl, rfl, List.all_eq_true.mp rfl, rfl⟩
  have second : Spells "00e0".toList 0x00E0 :=
    ⟨[], by decide, "00e0".toList, rfl, rfl, List.all_eq_true.mp rfl, rfl⟩
  have laid : Layout ["0x6101".toList, "00e0".toList] source :=
    sourceWords_eq_iff.mp (by decide)
  obtain ⟨read, loaded, after, state, ran, rfl, _, present, _, zeros, fetched⟩ :=
    typed_words_fetched (.cons first (.cons second .nil)) laid surroundings (.idle .standard) 0
  exact ⟨read, after, state, ran, present, zeros 0x204 (by decide),
    fetched 0 (by decide) (by decide), fetched 1 (by decide) (by decide)⟩

end Machine

end ChipEight
