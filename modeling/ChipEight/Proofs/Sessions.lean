import ChipEight.Proofs.Arguments
import ChipEight.Proofs.Printed

namespace ChipEight.Command

open Machine Text

/-- The lines in front of a run: the size of the image, and its dump with an empty line. -/
def openingLines (quiet hexdump : Bool) (image : List UInt8) : List String :=
  (if quiet then [] else ["rom size: " ++ toString image.length ++ " bytes"]) ++
    (if hexdump then (if image = [] then [""] else dumpBlock image) ++ [""] else [])

/-- The sixteen registers, in braces. -/
def registersText (state : State) : String :=
  "\x7b" ++ ", ".intercalate ((List.range 16).map fun number =>
    "'" ++ registerName number ++ "': " ++ toString (state.register number)) ++ "\x7d"

/-- The lines behind a run: the state that the machine was left in, or only the registers that are
not zero. -/
def closingLines (quiet : Bool) (status : Status) (state : State) (errors : List String) :
    List String :=
  if quiet then
    (List.range 16).filterMap fun number =>
      if state.register number = 0 then none
      else some (registerName number ++ "=" ++ toString (state.register number))
  else
    ["",
      "Status: " ++ status.name,
      "Cycles: " ++ toString state.cycles,
      "PC: 0x" ++ Hex.padded 3 state.pc ++ "  I: 0x" ++ Hex.padded 3 state.index,
      "Registers: " ++ registersText state] ++
      (if errors = [] then [] else ["Errors: " ++ Report.textList errors])

/-- All that a session prints about an image and the fault that ended its run, if one did. -/
def transcript (quiet hexdump : Bool) (image : List UInt8) (fault : Option Fault) (status : Status)
    (state : State) (errors : List String) : List String :=
  openingLines quiet hexdump image ++
    (fault.elim [] fun fault => ["Execution error: " ++ fault.message]) ++
    closingLines quiet status state errors

section Lines

variable {quiet hexdump : Bool} {image : List UInt8} {fault : Option Fault} {status : Status}
  {state : State} {errors : List String}

theorem unbroken_openingLines : ∀ line ∈ openingLines quiet hexdump image, Unbroken line := by
  have size : Unbroken ("rom size: " ++ toString image.length ++ " bytes") := by
    simp +decide
  have dump : ∀ line ∈ (if image = [] then [""] else dumpBlock image) ++ [""],
      Unbroken line := by
    refine List.forall_mem_append.mpr ⟨?_, by decide⟩
    split
    · decide
    · rename_i filled
      exact (Hexdump.block_dump filled).unbroken
  rw [openingLines]
  refine List.forall_mem_append.mpr ⟨?_, ?_⟩
  · split
    · exact List.forall_mem_nil _
    · exact List.forall_mem_singleton.mpr size
  · split
    · exact dump
    · exact List.forall_mem_nil _

theorem unbroken_textList (texts : List String) : Unbroken (Report.textList texts) := by
  have quoted : Unbroken (", ".intercalate (texts.map quotedString)) := by
    refine unbroken_intercalate (by decide) fun text member => ?_
    obtain ⟨inner, _, rfl⟩ := List.mem_map.mp member
    exact unbroken_quoted inner
  rw [Report.textList]
  simp +decide [quoted]

theorem unbroken_registersText (state : State) : Unbroken (registersText state) := by
  have cells : Unbroken (", ".intercalate ((List.range 16).map fun number =>
      "'" ++ registerName number ++ "': " ++ toString (state.register number))) := by
    refine unbroken_intercalate (by decide) fun text member => ?_
    obtain ⟨number, _, rfl⟩ := List.mem_map.mp member
    simp +decide
  exact unbroken_append.mpr ⟨unbroken_append.mpr ⟨by decide, cells⟩, by decide⟩

theorem unbroken_closingLines :
    ∀ line ∈ closingLines quiet status state errors, Unbroken line := by
  rw [closingLines]
  split
  · intro line member
    obtain ⟨number, _, shown⟩ := List.mem_filterMap.mp member
    simp only [Option.ite_none_left_eq_some, Option.some.injEq] at shown
    rw [← shown.2]
    simp +decide
  · refine List.forall_mem_append.mpr ⟨?_, ?_⟩
    · simp +decide [unbroken_registersText]
    · split
      · exact List.forall_mem_nil _
      · refine List.forall_mem_singleton.mpr ?_
        simp +decide [unbroken_textList]

theorem unbroken_transcript (told : ∀ cause, fault = some cause → Unbroken cause.message) :
    ∀ line ∈ transcript quiet hexdump image fault status state errors, Unbroken line := by
  rw [transcript]
  refine List.forall_mem_append.mpr ⟨List.forall_mem_append.mpr ⟨unbroken_openingLines, ?_⟩,
    unbroken_closingLines⟩
  cases fault with
  | none => exact List.forall_mem_nil _
  | some cause =>
    refine List.forall_mem_singleton.mpr ?_
    simp +decide [told cause rfl]

theorem opening_tells : ∀ line ∈ openingLines quiet hexdump image,
    ¬ Begins "Execution error:" line := by
  have empty : ¬ Begins "Execution error:" "" := not_begins 'E' rfl (by decide)
  rw [openingLines]
  refine List.forall_mem_append.mpr ⟨?_, ?_⟩
  · split
    · exact List.forall_mem_nil _
    · exact List.forall_mem_singleton.mpr (not_begins 'E' rfl (by simp))
  · split
    · refine List.forall_mem_append.mpr ⟨?_, List.forall_mem_singleton.mpr empty⟩
      split
      · exact List.forall_mem_singleton.mpr empty
      · exact Hexdump.not_begins_dump (by decide) image
    · exact List.forall_mem_nil _

theorem closing_tells : ∀ line ∈ closingLines quiet status state errors,
    ¬ Begins "Execution error:" line := by
  rw [closingLines]
  split
  · intro line member
    obtain ⟨number, _, shown⟩ := List.mem_filterMap.mp member
    simp only [Option.ite_none_left_eq_some, Option.some.injEq] at shown
    rw [← shown.2]
    refine not_begins 'E' rfl ?_
    simp [registerName]
  · refine List.forall_mem_append.mpr ⟨?_, ?_⟩
    · simp only [List.forall_mem_cons, List.not_mem_nil, false_imp_iff, implies_true, and_true]
      refine ⟨?_, ?_, ?_, ?_, ?_⟩ <;> refine not_begins 'E' rfl ?_ <;> simp
    · split
      · exact List.forall_mem_nil _
      · refine List.forall_mem_singleton.mpr ?_
        simp [Begins]

theorem transcript_tells :
    (∃ line ∈ transcript quiet hexdump image fault status state errors,
      Begins "Execution error:" line) ↔
      fault ≠ none := by
  constructor
  · rintro ⟨line, member, tells⟩ rfl
    rw [transcript, Option.elim_none, List.append_nil, List.mem_append] at member
    rcases member with front | back
    · exact opening_tells line front tells
    · exact closing_tells line back tells
  · intro present
    obtain ⟨cause, rfl⟩ := Option.ne_none_iff_exists'.mp present
    refine ⟨"Execution error: " ++ cause.message, by simp [transcript], ?_⟩
    exact begins_append "Execution error:" (" " ++ cause.message)

end Lines

variable {entry : String → FileEntry} {rom : String} {image : List UInt8} {flags : List String}

theorem opening_eq (options : Options) (image : List UInt8) :
    options.opening image = Report.ofLines (openingLines options.quiet options.hexdump image) := by
  have dump : Hexdump.text programStart image ++ "\n\n" =
      Report.ofLines ((if image = [] then [""] else dumpBlock image) ++ [""]) := by
    have feeds : "\n\n" = "\n" ++ Report.ofLines [""] := rfl
    rw [Hexdump.text_eq_joined, ofLines_append, feeds, ← String.append_assoc]
    split
    · subst image
      rw [dumpBlock, Hexdump.lines_nil]
      rfl
    · rename_i filled
      rw [joined_ended (Hexdump.block_dump filled).ne_nil]
  have size : (if options.quiet then ""
      else "rom size: " ++ toString image.length ++ " bytes\n") =
      Report.ofLines (if options.quiet then []
        else ["rom size: " ++ toString image.length ++ " bytes"]) := by
    split <;> simp [Report.ofLines, String.append_assoc]
  rw [openingLines, ofLines_append, Options.opening, size, dump,
    apply_ite Report.ofLines options.hexdump]
  rfl

theorem registerTable_eq {state : State} (sixteen : state.registers.length = 16) :
    Report.registerTable state.registers = registersText state := by
  have named : ∀ number < 16, quotedString (registerName number) =
      "'" ++ registerName number ++ "'" := by
    decide +kernel
  have cells : (List.range 16).map (fun number =>
      quotedString (registerName number) ++ ": " ++ toString (state.register number)) =
        (List.range 16).map fun number =>
          "'" ++ registerName number ++ "': " ++ toString (state.register number) := by
    refine List.map_congr_left fun number member => ?_
    have mark : "'" ++ registerName number ++ "'" ++ ": " =
        "'" ++ registerName number ++ "': " := by
      rw [String.append_assoc]
      rfl
    rw [named number (List.mem_range.mp member), mark]
  rw [Report.registerTable, State.namedRegisters_eq sixteen, List.map_map, registersText, ← cells]
  rfl

theorem closing_eq {options : Options} (untraced : options.trace = false) {limit : Nat}
    {walk : Walk} (sound : walk.Sound limit) {place : Machine Quantity × Console}
    (reaches : Reaches walk place) :
    options.closing place.1 = Report.ofLines
      (closingLines options.quiet walk.status walk.state walk.trace.errors) := by
  have sixteen := sound.formed.registerCount
  rw [Options.closing, if_neg (by simp [untraced]), closingLines]
  simp only [Report.summary, reaches.state, reaches.status, reaches.trace, Option.elim_some,
    registerTable_eq sixteen, State.namedRegisters_eq sixteen, List.filterMap_map,
    List.isEmpty_iff]
  split <;> rfl

/-- The settings of a session without a screen. -/
def headlessConfig (count : Nat) (flags : List String) : Config Quantity :=
  { Config.standard with
    rate := some (.real 0.0)
    strict := flags.contains "--strict"
    maxCycles := some (count : Int) }

theorem config_headless (rom : String) (count : Nat) (flags : List String) :
    (headlessOptions rom count flags).config = .ok (headlessConfig count flags) :=
  rfl

theorem prepare_headless (named : rom.toList.head? ≠ some '-')
    (found : Files.find? entry rom = .ok (some image)) {count : Nat}
    (short : (toString count).length ≤ 4300) (known : ∀ flag ∈ flags, flag ∈ plainFlags) :
    prepare entry (headless rom count flags) =
      .ready (headlessOptions rom count flags) (headlessConfig count flags) image := by
  have named' : (headlessOptions rom count flags).rom = rom := rfl
  rw [prepare, ofArguments_headless named count known, if_pos (by exact short)]
  simp only [config_headless, named', found]

theorem steady_surroundings :
    (surroundings false).Steady Console.output fun _ => Keypad.released.held where
  clock console := ⟨console.now, rfl⟩
  poll _ := rfl
  render _ _ := rfl
  clocked _ := rfl
  polled _ := rfl
  rendered _ _ := rfl
  noted _ _ := rfl

theorem runMachine_eq (drawing : Bool) (config : Config Quantity) (image : List UInt8) (fuel : Nat)
    (console : Console) :
    let ran := (playThrough (surroundings drawing) image fuel none).run (idle config, console)
    runMachine drawing config image fuel console = (raised ran, (left ran).1, (left ran).2) := by
  intro ran
  simp only [runMachine]
  split
  · rename_i machine console ended
    rw [show ran = .ok () (machine, console) from ended]
    rfl
  · rename_i error machine console ended
    rw [show ran = .error error (machine, console) from ended]
    rfl

theorem session_run {arguments : List String} {options : Options} {config : Config Quantity}
    (ready : prepare entry arguments = .ready options config image) (quick : options.noWait = true)
    (blind : options.noRender = true) (typed : Bool) (interruptAt : Option Nat) (fuel : Nat) :
    let console := (Console.fresh interruptAt).print (options.opening image)
    let ran := (playThrough (surroundings false) image fuel none).run (idle config, console)
    ∀ text code, runEnding (raised ran) = .ok (text, code) →
      session entry arguments typed interruptAt fuel =
        ((left ran).2.output ++ text ++ options.closing (left ran).1, .code code) := by
  intro console ran text code ends
  simp only [console, ran] at ends
  rw [session, ready]
  simp only [quick, blind, runMachine_eq, Bool.not_true, Bool.false_and, Bool.false_eq_true,
    if_true, if_false, String.append_empty, ends]
  rfl

/-- A whole session, from the walk that its machine takes. -/
theorem session_headless (named : rom.toList.head? ≠ some '-')
    (found : Files.find? entry rom = .ok (some image)) {count : Nat}
    (short : (toString count).length ≤ 4300) (known : ∀ flag ∈ flags, flag ∈ plainFlags)
    (typed : Bool) (interruptAt : Option Nat) {fuel : Nat} (enough : count ≤ fuel) :
    let walk := (Walk.next (flags.contains "--strict") Keypad.released.held)^[count]
      (Walk.ofProgram 1000 image)
    ∃ fault, walk.error? = fault.map Error.fault ∧
      session entry (headless rom count flags) typed interruptAt fuel =
        (Report.ofLines (transcript (flags.contains "--quiet") (flags.contains "--hexdump") image
          fault walk.status walk.state walk.trace.errors), .code (fault.elim 0 fun _ => 1)) := by
  intro walk
  have sound : walk.Sound 1000 := (Walk.sound_ofProgram 1000 image).after rfl _
  have ready := prepare_headless named found short known
  have runs := session_run ready rfl rfl typed interruptAt fuel
  extract_lets console ran at runs
  have unthrottled : Unthrottled (headlessConfig count flags) :=
    ⟨TimeScale.zero, rfl, by decide +kernel⟩
  obtain ⟨raised, reaches, seen⟩ : Concludes Console.output console.output walk ran :=
    playThrough_concludes steady_surroundings rfl unthrottled rfl image rfl enough
  have output : (left ran).2.output = Report.ofLines
      (openingLines (flags.contains "--quiet") (flags.contains "--hexdump") image) :=
    seen.trans ((String.empty_append).trans (opening_eq _ image))
  have untraced : (headlessOptions rom count flags).trace = false := rfl
  have closing := closing_eq untraced sound reaches
  rw [output, closing] at runs
  obtain ⟨fault, ended⟩ := sound.ended
  refine ⟨fault, ended, ?_⟩
  rw [transcript, ofLines_append, ofLines_append]
  rw [raised, ended] at runs
  cases fault with
  | none => exact runs "" 0 rfl
  | some cause => exact runs _ 1 rfl

/-- A session without a screen prints, and ends with, what as many steps of a machine lead to: code
1 and a line about the fault exactly where one of them faults, and the state at the end. -/
theorem session_faithful (named : rom.toList.head? ≠ some '-')
    (found : Files.find? entry rom = .ok (some image)) {count : Nat}
    (short : (toString count).length ≤ 4300) (known : ∀ flag ∈ flags, flag ∈ plainFlags)
    (typed : Bool) (interruptAt : Option Nat) {fuel : Nat} (enough : count ≤ fuel)
    {ε β : Type} {surroundings : Surroundings Quantity ε} {view : ε → β} {keys : β → List Bool}
    (steady : surroundings.Steady view keys) (world : ε)
    (released : keys (view world) = Keypad.released.held) :
    let config : Config Quantity := { Config.standard with strict := flags.contains "--strict" }
    let stepped := (stepThrough surroundings image count).run (idle config, world)
    let machine := (left stepped).1
    let outcome := session entry (headless rom count flags) typed interruptAt fuel
    ∃ state fault, machine.state = some state ∧ raised stepped = fault.map Error.fault ∧
      outcome.2 = .code (fault.elim 0 fun _ => 1) ∧
      linesOf outcome.1 = transcript (flags.contains "--quiet") (flags.contains "--hexdump") image
        fault machine.status state machine.trace.errors ∧
      ((∃ line ∈ linesOf outcome.1, Begins "Execution error:" line) ↔ outcome.2 = .code 1) := by
  intro config stepped machine outcome
  let walk := (Walk.next (flags.contains "--strict") Keypad.released.held)^[count]
    (Walk.ofProgram 1000 image)
  have sound : walk.Sound 1000 := (Walk.sound_ofProgram 1000 image).after rfl _
  have sixteen : (keys (view world)).length = 16 := by
    rw [released]
    rfl
  have shared : config.timerRate = none := rfl
  obtain ⟨raised, reaches, _⟩ : Concludes view (view world) walk stepped := by
    have concluded := stepThrough_concludes steady shared sixteen image count
    rwa [released] at concluded
  obtain ⟨fault, ended, same⟩ :=
    session_headless named found short known typed interruptAt enough
  have printed : linesOf outcome.1 = transcript (flags.contains "--quiet")
      (flags.contains "--hexdump") image fault walk.status walk.state walk.trace.errors := by
    rw [congrArg Prod.fst same, linesOf_ofLines (unbroken_transcript (sound.unbroken ended))]
  have code : outcome.2 = .code (fault.elim 0 fun _ => 1) := congrArg Prod.snd same
  refine ⟨walk.state, fault, reaches.state, raised.trans ended, code, ?_, ?_⟩
  · rw [reaches.status, reaches.trace]
    exact printed
  · rw [printed, transcript_tells, code]
    cases fault <;> simp

/-- A return with nothing to return to: the session ends with code 1, and says why. -/
theorem session_faithful_return :
    let entry : String → FileEntry := fun _ => .file [0x00, 0xEE]
    let outcome := session entry (headless "rom.ch8" 5 ["--quiet"]) true none 5
    outcome.2 = .code 1 ∧ ∃ line ∈ linesOf outcome.1, Begins "Execution error:" line := by
  intro entry outcome
  have named : "rom.ch8".toList.head? ≠ some '-' := by decide
  have found : Files.find? entry "rom.ch8" = .ok (some [0x00, 0xEE]) := by decide +kernel
  have short : (toString 5).length ≤ 4300 := by decide
  have known : ∀ flag ∈ ["--quiet"], flag ∈ plainFlags := by decide
  let surroundings : Surroundings Quantity Nat := .scripted fun _ => Keypad.released.held
  have steady : surroundings.Steady _ _ := Surroundings.steady_scripted Keypad.released.held
  obtain ⟨state, fault, _, raised, code, _, tells⟩ :=
    session_faithful named found short known true none (Nat.le_refl 5) steady 0 rfl
  cases fault with
  | none => exact absurd raised (by decide +kernel)
  | some cause => exact ⟨code, tells.mpr code⟩

theorem session_refused (named : rom.toList.head? ≠ some '-') {count : Nat}
    (long : 4300 < (toString count).length) (known : ∀ flag ∈ flags, flag ∈ plainFlags)
    (typed : Bool) (interruptAt : Option Nat) (fuel : Nat) :
    session entry (headless rom count flags) typed interruptAt fuel =
      ("", .misuse ("argument --max-cycles: invalid int value: " ++
        quotedString (toString count))) := by
  have refused := ofArguments_headless named count known
  rw [if_neg (by exact Nat.not_le_of_lt long)] at refused
  rw [session, prepare, refused]
  rfl

/-- One more digit than are read: nothing is run, although the machine would come to a halt in its
second step. -/
theorem session_refused_halting :
    let surroundings : Surroundings Quantity Nat := .scripted fun _ => Keypad.released.held
    let count := Nat.repeat (10 * ·) 4300 1
    let stepped := (stepThrough surroundings [0x1F, 0xFF] count).run (idle Config.standard, 0)
    let outcome := session (fun _ => .file [0x1F, 0xFF]) (headless "rom.ch8" count []) true none
      count
    raised stepped = none ∧ (∃ message, outcome.2 = .misuse message) ∧
      ∀ code, outcome.2 ≠ .code code := by
  intro surroundings count stepped outcome
  have steady : surroundings.Steady _ _ := Surroundings.steady_scripted Keypad.released.held
  let walk := Walk.ofProgram 1000 [0x1F, 0xFF]
  have healthy (count : Nat) :
      ((Walk.next false Keypad.released.held)^[count] walk).error? = none := by
    rcases count with _ | _ | rest
    · rfl
    · decide +kernel
    · have ended : ((walk.next false Keypad.released.held).next false
          Keypad.released.held).status ≠ .running := by
        decide +kernel
      rw [Function.iterate_succ_apply, Function.iterate_succ_apply, iterate_ended ended]
      decide +kernel
  have halts (count : Nat) : raised ((stepThrough surroundings [0x1F, 0xFF] count).run
      (idle Config.standard, 0)) = none :=
    (stepThrough_concludes steady rfl rfl [0x1F, 0xFF] count).raised.trans (healthy count)
  have misused : outcome = _ :=
    session_refused (show "rom.ch8".toList.head? ≠ some '-' by decide)
      (Reading.lt_length_natRepr_tens (by decide)) (List.forall_mem_nil (· ∈ plainFlags)) true
      none count
  rw [misused]
  refine ⟨halts count, ⟨_, rfl⟩, fun code ended => ?_⟩
  cases ended

end ChipEight.Command
