import ChipEight.Command.Session
import ChipEight.Proofs.Sources

namespace ChipEight

namespace Reading

open Text

variable {text : List Char}

theorem prepared_of_digits (digits : ∀ char ∈ text, char.isDigit = true) :
    prepared text = text := by
  have inside (text : List Char) (digits : ∀ char ∈ text, char.isDigit = true) :
      text.dropWhile isMargin = text := by
    cases text with
    | nil => rfl
    | cons char text =>
      have margin : isMargin char = false :=
        isDigit_cases (motive := fun char => isMargin char = false) (by decide)
          (digits char List.mem_cons_self)
      rw [List.dropWhile_cons, margin, if_neg Bool.false_ne_true]
  have plain : ∀ char ∈ text, plain char = char := fun char member =>
    isDigit_cases (motive := fun char => Reading.plain char = char) (by decide +kernel)
      (digits char member)
  rw [prepared, trimBlanks, inside text digits,
    inside _ fun char member => digits char (List.mem_reverse.mp member), List.reverse_reverse,
    List.map_congr_left plain, List.map_id']

theorem takeSign_of_digits (digits : ∀ char ∈ text, char.isDigit = true) :
    takeSign text = (false, text) := by
  rw [takeSign.eq_def]
  split
  · cases digits _ List.mem_cons_self
  · cases digits _ List.mem_cons_self
  · rfl

theorem digits?_of_digits (filled : text ≠ []) (digits : ∀ char ∈ text, char.isDigit = true) :
    digits? 10 text = some (text.map fun char => char.toNat - 48) := by
  have joined : '_' ∉ text := fun member => by cases digits '_' member
  have present : text.isEmpty = false := by simpa using filled
  have opened : digits? 10 text =
      text.mapM fun char => (Hex.digitValue? char).filter (· < 10) := by
    simp only [digits?, List.splitOn_eq_singleton joined, List.any_cons, present, List.any_nil,
      Bool.or_false, Bool.false_eq_true, if_false, List.flatten_singleton]
  rw [opened]
  clear filled joined present opened
  induction text with
  | nil => rfl
  | cons char text ih =>
    obtain ⟨first, others⟩ := List.forall_mem_cons.mp digits
    have worth : (Hex.digitValue? char).filter (· < 10) = some (char.toNat - 48) :=
      isDigit_cases (motive := fun char =>
        (Hex.digitValue? char).filter (· < 10) = some (char.toNat - 48)) (by decide) first
    rw [List.mapM_cons, worth, ih others]
    rfl

theorem lt_length_natRepr_tens {factors : Nat} (positive : 0 < factors) :
    factors < (toString (factors.repeat (10 * ·) 1)).length := by
  have power : factors.repeat (10 * ·) 1 = Nat.pow 10 factors := by
    clear positive
    induction factors with
    | zero => rfl
    | succ factors ih =>
      show 10 * factors.repeat (10 * ·) 1 = Nat.pow 10 factors * 10
      rw [ih, Nat.mul_comm]
  refine Nat.lt_of_not_le fun short => ?_
  rw [power, ← String.length_toList, show (toString (Nat.pow 10 factors)).toList = _ from
    Nat.toList_repr] at short
  exact Nat.lt_irrefl _ ((Nat.length_toDigits_le_iff (by decide) positive).mp short)

theorem valueOf_digits (text : List Char) :
    valueOf 10 (text.map fun char => char.toNat - 48) = Nat.ofDigitChars 10 text 0 := by
  rw [valueOf, List.foldl_map, Nat.ofDigitChars_eq_foldl]
  simp only [Nat.mul_comm]
  rfl

/-- A number is read from the digits it is written in, unless there are too many. -/
theorem decimal?_natRepr (number : Nat) :
    decimal? number.repr = if number.repr.length ≤ 4300 then some (number : Int) else none := by
  have digits : ∀ char ∈ number.repr.toList, char.isDigit = true := fun char member =>
    Nat.isDigit_of_mem_toDigits (by decide) (by decide) (Nat.toList_repr ▸ member)
  have filled : number.repr.toList ≠ [] := Nat.toList_repr ▸ Nat.toDigits_ne_nil
  have worth : Nat.ofDigitChars 10 number.repr.toList 0 = number := by
    rw [Nat.toList_repr, Nat.ofDigitChars_ten_toDigits]
  have opened : decimal? number.repr = if number.repr.toList.length > 4300 then none
      else some (number : Int) := by
    simp only [decimal?, prepared_of_digits digits, takeSign_of_digits digits,
      digits?_of_digits filled digits, Option.bind_eq_bind, Option.bind_some, valueOf_digits, worth,
      List.length_map, digitLimit, Bool.false_eq_true, if_false]
  rw [opened, String.length_toList]
  split
  · rw [if_neg (by omega)]
  · rw [if_pos (by omega)]

end Reading

namespace Command

variable {text value : List Char} {rest : List (List Char)} {token : Token} {chosen : List Token}
  {flags : List String}

theorem tokens_cons (plain : text ≠ ['-', '-']) (means : classify text = .ok token)
    (others : tokens rest = .ok chosen) : tokens (text :: rest) = .ok (token :: chosen) := by
  rw [tokens, if_neg plain, means]
  simp only [others]
  rfl

theorem classify_operand (named : text.head? ≠ some '-') : classify text = .ok (.operand text) :=
  if_pos named

theorem tokens_operand (named : text.head? ≠ some '-') (others : tokens rest = .ok chosen) :
    tokens (text :: rest) = .ok (.operand text :: chosen) := by
  refine tokens_cons ?_ (classify_operand named) others
  rintro rfl
  exact named rfl

/-- The flags that only add to what is printed, or make a machine strict. -/
def plainFlags : List String :=
  ["--strict", "--quiet", "--hexdump"]

/-- Options after some flags. -/
def Options.withFlags (options : Options) (flags : List String) : Options :=
  { options with
    strict := options.strict || flags.contains "--strict"
    quiet := options.quiet || flags.contains "--quiet"
    hexdump := options.hexdump || flags.contains "--hexdump" }

theorem Options.withFlags_nil (options : Options) : options.withFlags [] = options := by
  simp [withFlags]

theorem Options.withFlags_cons (options : Options) (flag : String) (flags : List String) :
    options.withFlags (flag :: flags) = (options.withFlags [flag]).withFlags flags := by
  simp [withFlags, Bool.or_assoc]

theorem token_flag : ∀ flag ∈ plainFlags, flag.toList ≠ ['-', '-'] ∧
    ∃ name, classify flag.toList = .ok (.choice ⟨name, flag.toList, none⟩) ∧
      name.takesValue = false ∧
      ∀ options, setFlag options name = .ok (options.withFlags [flag]) := by
  simp only [plainFlags, List.forall_mem_cons, List.not_mem_nil, false_imp_iff, implies_true,
    and_true]
  refine ⟨⟨by decide, .strict, by decide +kernel, rfl, fun options => ?_⟩,
    ⟨by decide, .quiet, by decide +kernel, rfl, fun options => ?_⟩,
    ⟨by decide, .hexdump, by decide +kernel, rfl, fun options => ?_⟩⟩ <;>
    simp [setFlag, Options.withFlags]

theorem tokens_flags (known : ∀ flag ∈ flags, flag ∈ plainFlags) :
    ∃ chosen, tokens (flags.map String.toList) = .ok chosen ∧
      ∀ progress, carryOutAll progress chosen =
        .ok { progress with options := progress.options.withFlags flags } := by
  induction flags with
  | nil => exact ⟨[], rfl, fun progress => by rw [Options.withFlags_nil]; rfl⟩
  | cons flag flags ih =>
    obtain ⟨first, others⟩ := List.forall_mem_cons.mp known
    obtain ⟨chosen, read, carried⟩ := ih others
    obtain ⟨apart, name, means, alone, sets⟩ := token_flag flag first
    refine ⟨_, tokens_cons apart means read, fun progress => ?_⟩
    have one : carryOut progress ⟨name, flag.toList, none⟩ =
        .ok { progress with options := progress.options.withFlags [flag] } := by
      simp only [carryOut, sets]
      rfl
    have passed : carryOutAll progress (.choice ⟨name, flag.toList, none⟩ :: chosen) =
        carryOutAll { progress with options := progress.options.withFlags [flag] } chosen := by
      rw [carryOutAll.eq_def]
      simp only [alone, Bool.false_and, Bool.false_eq_true, if_false, one]
      rfl
    rw [passed, carried, ← Options.withFlags_cons]

theorem setValue_maxCycles (options : Options) (other : value ≠ ['-', '-']) :
    setValue options .maxCycles value = (Reading.decimal? (String.ofList value)).elim
      (.error (.misuse ("argument --max-cycles: invalid int value: " ++
        String.ofList (Text.quoted value))))
      fun limit => .ok { options with maxCycles := some (.value limit) } := by
  have title : OptionName.maxCycles.title = "--max-cycles" := by decide +kernel
  have message : "argument " ++ OptionName.maxCycles.title ++ ": " ++
      ("invalid " ++ "int" ++ " value: " ++ String.ofList (Text.quoted value)) =
        "argument --max-cycles: invalid int value: " ++ String.ofList (Text.quoted value) := by
    simp [title, ← String.append_assoc]
  refine (congrArg (· >>= _) (if_neg other)).trans ?_
  rw [← message]
  cases Reading.decimal? (String.ofList value) <;> rfl

theorem setValue_rate (options : Options) :
    setValue options .rate ['0'] = .ok { options with rate := .value (.real 0.0) } := by
  have zero : Reading.real? (String.ofList ['0']) = some 0.0 := by decide +kernel
  have given : setValue options .rate ['0'] =
      (((Reading.real? (String.ofList ['0'])).map Quantity.real).elim
        (.error (.misuse ("argument " ++ OptionName.rate.title ++ ": " ++
            ("invalid " ++ "float" ++ " value: " ++ String.ofList (Text.quoted ['0'])))))
          (fun rate => .ok (.value rate)) : Except Halt (Given Quantity)).map
        fun rate => { options with rate } := rfl
  rw [given, zero]
  rfl

/-- Arguments to run an image without a screen, without waiting, and for some cycles at most. -/
def headless (rom : String) (count : Nat) (flags : List String) : List String :=
  [rom, "--no-render", "--no-wait", "--hz", "0", "--max-cycles", toString count] ++ flags

/-- What these arguments ask for. -/
def headlessOptions (rom : String) (limit : Int) (flags : List String) : Options :=
  { Options.standard with
    rom
    rate := .value (.real 0.0)
    maxCycles := some (.value limit)
    noRender := true
    noWait := true
    strict := flags.contains "--strict"
    quiet := flags.contains "--quiet"
    hexdump := flags.contains "--hexdump" }

/-- The tokens of these arguments, with those of the flags. -/
def headlessTokens (rom number : List Char) (chosen : List Token) : List Token :=
  [.operand rom, .choice ⟨.noRender, "--no-render".toList, none⟩,
    .choice ⟨.noWait, "--no-wait".toList, none⟩, .choice ⟨.rate, "--hz".toList, none⟩,
    .operand ['0'], .choice ⟨.maxCycles, "--max-cycles".toList, none⟩, .operand number] ++ chosen

variable {rom : String}

theorem head?_natRepr (number : Nat) : number.repr.toList.head? ≠ some '-' := by
  intro dash
  have member := List.mem_of_head? dash
  rw [Nat.toList_repr] at member
  cases Nat.isDigit_of_mem_toDigits (by decide) (by decide) member

theorem tokens_headless (named : rom.toList.head? ≠ some '-') (count : Nat)
    (read : tokens (flags.map String.toList) = .ok chosen) :
    tokens ((headless rom count flags).map String.toList) =
      .ok (headlessTokens rom.toList count.repr.toList chosen) := by
  refine tokens_operand named ?_
  refine tokens_cons (by decide) (by decide +kernel) ?_
  refine tokens_cons (by decide) (by decide +kernel) ?_
  refine tokens_cons (by decide) (by decide +kernel) ?_
  refine tokens_operand (by decide) ?_
  refine tokens_cons (by decide) (by decide +kernel) ?_
  exact tokens_operand (head?_natRepr count) read

theorem carryOutAll_headless (count : Nat)
    (carried : ∀ progress, carryOutAll progress chosen =
      .ok { progress with options := progress.options.withFlags flags }) :
    carryOutAll ⟨Options.standard, none, []⟩
        (headlessTokens rom.toList count.repr.toList chosen) =
      (Reading.decimal? count.repr).elim
        (.error (.misuse ("argument --max-cycles: invalid int value: " ++
          Text.quotedString count.repr)))
        fun limit => .ok ⟨headlessOptions "" limit flags, some rom.toList, []⟩ := by
  have other : count.repr.toList ≠ ['-', '-'] := fun same =>
    head?_natRepr count (by rw [same]; rfl)
  let options : Options :=
    { Options.standard with noRender := true, noWait := true, rate := .value (.real 0.0) }
  calc carryOutAll ⟨Options.standard, none, []⟩
        (headlessTokens rom.toList count.repr.toList chosen)
      = setValue { Options.standard with noRender := true, noWait := true } .rate ['0'] >>=
          fun options => setValue options .maxCycles count.repr.toList >>=
            fun options => carryOutAll ⟨options, some rom.toList, []⟩ chosen := rfl
    _ = setValue options .maxCycles count.repr.toList >>=
          fun options => carryOutAll ⟨options, some rom.toList, []⟩ chosen := by
        rw [setValue_rate]
        rfl
    _ = _ := by
        rw [setValue_maxCycles _ other, String.ofList_toList]
        cases Reading.decimal? count.repr with
        | none => rfl
        | some limit => exact carried _

/-- The arguments of a session without a screen are read in their order. Only the number of cycles
can be refused, when it has too many digits. -/
theorem ofArguments_headless (named : rom.toList.head? ≠ some '-') (count : Nat)
    (known : ∀ flag ∈ flags, flag ∈ plainFlags) :
    Request.ofArguments (headless rom count flags) =
      if count.repr.length ≤ 4300 then .run (headlessOptions rom count flags)
      else .misuse
        ("argument --max-cycles: invalid int value: " ++ Text.quotedString count.repr) := by
  obtain ⟨chosen, read, carried⟩ := tokens_flags known
  rw [Request.ofArguments, tokens_headless named count read]
  simp only [carryOutAll_headless count carried, Reading.decimal?_natRepr]
  by_cases short : count.repr.length ≤ 4300
  · rw [if_pos short, if_pos short]
    simp [Progress.request, headlessOptions]
  · rw [if_neg short, if_neg short]
    simp

end Command

end ChipEight
