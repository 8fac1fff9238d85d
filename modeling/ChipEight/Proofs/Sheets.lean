import ChipEight.Proofs.Printed
import ChipEight.Proofs.Views
import ChipEight.Workbench

namespace ChipEight.Workbench

open Machine Text

/-- The labels of the sixteen keys, in their order. -/
def keyLabels : List String :=
  ["0", "1", "2", "3", "4", "5", "6", "7", "8", "9", "A", "B", "C", "D", "E", "F"]

/-- The keys that are held, from a list of labels. -/
def heldKeys (labels : List String) : List Bool :=
  keyLabels.map labels.contains

theorem length_heldKeys (labels : List String) : (heldKeys labels).length = 16 := by
  rw [heldKeys, List.length_map]
  rfl

theorem hexadecimal?_keyLabels :
    ∀ place : Fin 16, Reading.hexadecimal? keyLabels[place] = some (place.val : Int) := by
  decide +kernel

/-- Press the key of a label. -/
def pressLabel (keypad : Keypad) (label : String) : Except Error Keypad :=
  match Reading.hexadecimal? label with
  | some key => keypad.press key
  | none => .error (.unreadableKey label)

theorem pressLabel_eq {label : String} (known : label ∈ keyLabels) (before : String → Bool) :
    pressLabel ⟨keyLabels.map before⟩ label =
      .ok ⟨keyLabels.map fun other => other == label || before other⟩ := by
  obtain ⟨place, inside, rfl⟩ := List.getElem_of_mem known
  have apart : keyLabels.Nodup := by decide
  have short : (place : Int) < 16 := Int.ofNat_lt.mpr inside
  have pressed : (keyLabels.map before).set place true =
      keyLabels.map fun other => other == keyLabels[place] || before other := by
    refine List.ext_getElem (by simp) fun other here _ => ?_
    have within : other < keyLabels.length := by simpa using here
    rw [List.getElem_set, List.getElem_map, List.getElem_map]
    by_cases same : place = other
    · subst same
      simp
    · have different : keyLabels[other] ≠ keyLabels[place] := fun alike =>
        same ((List.getElem_inj apart).mp alike).symm
      simp [same, different]
  have read : Reading.hexadecimal? keyLabels[place] = some (place : Int) :=
    hexadecimal?_keyLabels ⟨place, inside⟩
  have held : (Keypad.mk (keyLabels.map before)).press place =
      if 0 ≤ (place : Int) ∧ (place : Int) < 16 then
        .ok ⟨(keyLabels.map before).set (place : Int).toNat true⟩
      else if Reading.isWritable place then .error (.keyOutOfRange place)
      else .error .tooManyDigits := rfl
  rw [pressLabel, read]
  simp only
  rw [held, if_pos ⟨Int.natCast_nonneg place, short⟩, Int.toNat_natCast, pressed]

theorem foldlM_pressLabel {labels : List String} (known : ∀ label ∈ labels, label ∈ keyLabels)
    (before : String → Bool) :
    labels.foldlM pressLabel ⟨keyLabels.map before⟩ =
      .ok ⟨keyLabels.map fun other => labels.contains other || before other⟩ := by
  induction labels generalizing before with
  | nil => rfl
  | cons label labels ih =>
    obtain ⟨first, others⟩ := List.forall_mem_cons.mp known
    have alike : (fun other => labels.contains other || (other == label || before other)) =
        fun other => (label :: labels).contains other || before other := by
      funext other
      rw [List.contains_cons, ← Bool.or_assoc, Bool.or_comm (labels.contains other)]
    rw [List.foldlM_cons, pressLabel_eq first before]
    exact (ih others _).trans (by rw [alike])

theorem keypadOf_eq {labels : List String} (known : ∀ label ∈ labels, label ∈ keyLabels) :
    keypadOf labels = .ok ⟨heldKeys labels⟩ := by
  have pressed := foldlM_pressLabel known fun _ => false
  simp only [Bool.or_false] at pressed
  exact pressed

/-- A register on a sheet: two hexadecimal digits, the number in a column, and a star unless it is
zero. -/
def registerLine (name : String) (value : Int) : String :=
  "  " ++ name ++ ": 0x" ++ Hex.padded 2 value ++ " (" ++
    String.ofList ((toString value).toList.leftpad 3 ' ') ++ ")" ++
    (if value = 0 then "" else " *")

/-- The registers that differ, in order. -/
def changesBetween (before after : List Int) : List String :=
  (List.range 16).filterMap fun number =>
    if before.getD number 0 = after.getD number 0 then none
    else some (registerName number ++ ": " ++ toString (before.getD number 0) ++ " -> " ++
      toString (after.getD number 0))

/-- An entry on a sheet, block by block. -/
def entryBlocks (entry : TraceEntry) : List (List String) :=
  let changes := changesBetween entry.before.registers entry.after.registers
  [["", "--- Cycle " ++ toString entry.cycle ++ " (PC=0x" ++ Hex.padded 3 entry.pc ++ ") ---"],
    ["Instruction: " ++ entry.event.mnemonic],
    ["Decoded Key: " ++ entry.event.key]] ++
    (if changes = [] then [] else [["Changes:     " ++ ", ".intercalate changes]]) ++
    (entry.fault.elim [] fun fault => [["Error:       " ++ fault.message]])

/-- The lines that describe an entry. -/
def described (entry : TraceEntry) : List String :=
  (entryBlocks entry).flatten

/-- What a sheet tells about a program: its picture, its summary with the fault that ended it, its
registers, and the first entries of its trace with the number of the others. -/
structure Sheet.Reports (image : List UInt8) (status : Status) (state : State)
    (entries : List TraceEntry) (fault : Option Fault) (sheet : Sheet) : Prop where
  picture : state.display.Pictured sheet.image
  summary : linesOf sheet.summary =
    ["EXECUTION SUMMARY", Report.rule '=' 40,
      "Program: " ++ toString image.length ++ " bytes",
      "Status: " ++ status.name,
      "Cycles: " ++ toString state.cycles,
      "Lit pixels: " ++ toString ((Finset.range 64 ×ˢ Finset.range 32).filter fun pixel =>
        state.display.shines pixel.1 pixel.2).card] ++
    (fault.elim [] fun fault => ["", "Runtime: " ++ fault.message]) ++
    ["", "HEXDUMP"] ++ dumpBlock image
  registers : linesOf sheet.registers =
    ["REGISTERS", Report.rule '=' 30] ++
    ((List.range 16).map fun number =>
      registerLine (registerName number) (state.register number)) ++
    ["", "SPECIAL", Report.rule '-' 30,
      "  I:  0x" ++ Hex.padded 3 state.index,
      "  PC: 0x" ++ Hex.padded 3 state.pc,
      "  DT: " ++ toString state.delayTimer,
      "  ST: " ++ toString state.soundTimer]
  trace : linesOf sheet.trace =
    ["EXECUTION TRACE", Report.rule '=' 60] ++ (entries.take 100).flatMap described ++
    (if 100 < entries.length then
      ["", "... (" ++ toString (entries.length - 100) ++ " more entries)"]
    else [])

theorem block_rule (mark : Char) (plain : isLineBreak mark = false) (width : Nat) :
    Block [Report.rule mark (width + 1)] := by
  refine block_line (unbroken_rule plain _) fun empty => ?_
  have long := congrArg String.toList empty
  simp [Report.rule] at long

theorem linesOf_summaryText {image : List UInt8} (filled : image ≠ []) (summary : Report.Summary)
    {fault : Option Fault} (told : ∀ cause, fault = some cause → Unbroken cause.message) :
    linesOf (summaryText image summary fault) =
      ["EXECUTION SUMMARY", Report.rule '=' 40,
        "Program: " ++ toString image.length ++ " bytes",
        "Status: " ++ summary.status.name,
        "Cycles: " ++ toString summary.cycles,
        "Lit pixels: " ++ toString summary.litPixels] ++
      (fault.elim [] fun fault => ["", "Runtime: " ++ fault.message]) ++
      ["", "HEXDUMP"] ++ dumpBlock image := by
  let front : List (List String) :=
    [["EXECUTION SUMMARY"], [Report.rule '=' 40],
      ["Program: " ++ toString image.length ++ " bytes"],
      ["Status: " ++ summary.status.name],
      ["Cycles: " ++ toString summary.cycles],
      ["Lit pixels: " ++ toString summary.litPixels]]
  let blocks := front ++ (fault.elim [] fun fault => [["", "Runtime: " ++ fault.message]]) ++
    [["", "HEXDUMP"], dumpBlock image]
  have opened : ∀ block ∈ front, Block block := by
    simp only [front, List.forall_mem_cons, List.not_mem_nil, false_imp_iff, implies_true, and_true]
    refine ⟨?_, block_rule '=' (by decide) 39, ?_, ?_, ?_, ?_⟩ <;>
      refine block_line ?_ ?_ <;> simp +decide
  have ended : ∀ block ∈ [["", "HEXDUMP"], dumpBlock image], Block block := by
    simpa using ⟨block_apart (by decide) (by decide), Hexdump.block_dump filled⟩
  have joined : summaryText image summary fault =
      "\n".intercalate (blocks.map "\n".intercalate) := by
    cases fault <;>
      simp [summaryText, blocks, front, Hexdump.text_eq_joined, ← String.append_assoc]
  have whole : ∀ block ∈ blocks, Block block := by
    refine List.forall_mem_append.mpr ⟨List.forall_mem_append.mpr ⟨opened, ?_⟩, ended⟩
    cases fault with
    | none => simp
    | some cause =>
      have unbroken : Unbroken ("Runtime: " ++ cause.message) := by simp +decide [told cause rfl]
      exact List.forall_mem_singleton.mpr (block_apart unbroken (by simp))
  rw [joined, linesOf_blocks whole]
  cases fault <;> simp [blocks, front]

theorem unbroken_changesBetween (before after : List Int) :
    ∀ change ∈ changesBetween before after, Unbroken change := by
  intro change member
  obtain ⟨number, _, changed⟩ := List.mem_filterMap.mp member
  simp only [Option.ite_none_left_eq_some, Option.some.injEq] at changed
  rw [← changed.2]
  simp +decide

theorem registerChanges_eq {before after : List Int} (sixteen : before.length = 16)
    (sixteen' : after.length = 16) :
    Report.registerChanges "->" before after = changesBetween before after := by
  have listed : after = (List.range 16).map fun number => after.getD number 0 := by
    refine List.ext_getElem (by simp [sixteen']) fun number inside _ => ?_
    simp [inside]
  have joint : " " ++ "->" ++ " " = " -> " := rfl
  rw [Report.registerChanges, State.namedRegisters_eq sixteen]
  nth_rewrite 1 [listed]
  rw [List.zip_map', List.filterMap_map, changesBetween]
  refine List.filterMap_congr fun number _ => ?_
  simp only [Function.comp_apply, Report.change, ← joint, String.append_assoc]

theorem block_entry {entry : TraceEntry}
    (told : ∀ cause, entry.fault = some cause → Unbroken cause.message) :
    ∀ block ∈ entryBlocks entry, Block block := by
  have changes : Unbroken (", ".intercalate
      (changesBetween entry.before.registers entry.after.registers)) :=
    unbroken_intercalate (by decide) (unbroken_changesBetween _ _)
  rw [entryBlocks]
  refine List.forall_mem_append.mpr ⟨List.forall_mem_append.mpr ⟨?_, ?_⟩, ?_⟩
  · simp only [List.forall_mem_cons, List.not_mem_nil, false_imp_iff, implies_true, and_true]
    exact ⟨block_apart (by simp +decide) (by simp), block_line (by simp +decide) (by simp),
      block_line (by simp +decide) (by simp)⟩
  · split
    · simp
    · exact List.forall_mem_singleton.mpr (block_line (by simp +decide [changes]) (by simp))
  · cases failed : entry.fault with
    | none => simp
    | some cause =>
      have unbroken := told cause failed
      exact List.forall_mem_singleton.mpr (block_line (by simp +decide [unbroken]) (by simp))

theorem entryLines_eq {entry : TraceEntry} (sound : Walk.EntrySound entry) :
    entryLines entry = (entryBlocks entry).map "\n".intercalate := by
  have changes := registerChanges_eq sound.before sound.after
  by_cases same : changesBetween entry.before.registers entry.after.registers = [] <;>
    cases failed : entry.fault <;>
      simp [entryLines, entryBlocks, failed, changes, same, ← String.append_assoc]

theorem linesOf_traceText {entries : List TraceEntry}
    (sound : ∀ entry ∈ entries, Walk.EntrySound entry) :
    linesOf (traceText entries) =
      ["EXECUTION TRACE", Report.rule '=' 60] ++ (entries.take 100).flatMap described ++
      (if 100 < entries.length then
        ["", "... (" ++ toString (entries.length - 100) ++ " more entries)"]
      else []) := by
  let rest : List (List String) :=
    if 100 < entries.length then
      [["", "... (" ++ toString (entries.length - 100) ++ " more entries)"]]
    else []
  let blocks := [["EXECUTION TRACE"], [Report.rule '=' 60]] ++
    (entries.take 100).flatMap entryBlocks ++ rest
  have joined : traceText entries = "\n".intercalate (blocks.map "\n".intercalate) := by
    have shown : (entries.take 100).flatMap entryLines =
        ((entries.take 100).flatMap entryBlocks).map "\n".intercalate := by
      rw [List.map_flatMap]
      exact List.flatMap_congr fun entry taken =>
        entryLines_eq (sound entry (List.mem_of_mem_take taken))
    have hidden : (if entries.length - 100 = 0 then []
        else ["\n... (" ++ toString (entries.length - 100) ++ " more entries)"]) =
          rest.map "\n".intercalate := by
      by_cases more : 100 < entries.length
      · rw [if_neg (by omega)]
        simp [rest, more, ← String.append_assoc]
      · rw [if_pos (by omega)]
        simp [rest, more]
    rw [traceText, shownEntries, shown]
    simp only [hidden, blocks, List.map_append]
    simp
  have whole : ∀ block ∈ blocks, Block block := by
    refine List.forall_mem_append.mpr ⟨List.forall_mem_append.mpr ⟨?_, ?_⟩, ?_⟩
    · simpa using ⟨block_line (by decide) (by decide), block_rule '=' (by decide) 59⟩
    · intro block member
      obtain ⟨entry, taken, one⟩ := List.mem_flatMap.mp member
      have arises := (sound entry (List.mem_of_mem_take taken)).fault
      exact block_entry (fun cause failed => (arises cause failed).unbroken) block one
    · simp only [rest]
      split
      · exact List.forall_mem_singleton.mpr (block_apart (by simp +decide) (by simp))
      · simp
  rw [joined, linesOf_blocks whole]
  have same : ((entries.take 100).flatMap entryBlocks).flatten =
      (entries.take 100).flatMap described := by
    rw [List.flatMap_def, List.flatten_flatten, List.map_map]
    rfl
  simp only [blocks, rest, List.flatten_append, same]
  split <;> simp

theorem unbroken_registerLine (number : Nat) (value : Int) :
    Unbroken (registerLine (registerName number) value) := by
  have column : Unbroken (String.ofList ((toString value).toList.leftpad 3 ' ')) := by
    rw [unbroken_ofList]
    exact isLineBreak_leftpad (by decide) (unbroken_intRepr value) 3
  rw [registerLine]
  generalize String.ofList ((toString value).toList.leftpad 3 ' ') = shown at column ⊢
  have star : Unbroken (if value = 0 then "" else " *") := by split <;> decide
  simp +decide [column, star]

theorem linesOf_registersText (summary : Report.Summary) (sixteen : summary.registers.length = 16) :
    linesOf (registersText summary) =
      ["REGISTERS", Report.rule '=' 30] ++
      ((List.range 16).map fun number =>
        registerLine (registerName number) (summary.registers.getD number 0)) ++
      ["", "SPECIAL", Report.rule '-' 30,
        "  I:  0x" ++ Hex.padded 3 summary.index,
        "  PC: 0x" ++ Hex.padded 3 summary.pc,
        "  DT: " ++ toString summary.delayTimer,
        "  ST: " ++ toString summary.soundTimer] := by
  have joined : registersText summary = "\n".intercalate
      (["REGISTERS", Report.rule '=' 30] ++
      ((List.range 16).map fun number =>
        registerLine (registerName number) (summary.registers.getD number 0)) ++
      ["", "SPECIAL", Report.rule '-' 30,
        "  I:  0x" ++ Hex.padded 3 summary.index,
        "  PC: 0x" ++ Hex.padded 3 summary.pc,
        "  DT: " ++ toString summary.delayTimer,
        "  ST: " ++ toString summary.soundTimer]) := by
    rw [registersText, State.namedRegisters_eq sixteen, List.map_map]
    rfl
  have unbroken : ∀ line ∈ ((List.range 16).map fun number =>
      registerLine (registerName number) (summary.registers.getD number 0)), Unbroken line := by
    intro line member
    obtain ⟨number, _, rfl⟩ := List.mem_map.mp member
    exact unbroken_registerLine number _
  rw [joined, linesOf_block]
  have special : ∀ line ∈ ["", "SPECIAL", Report.rule '-' 30,
      "  I:  0x" ++ Hex.padded 3 summary.index, "  PC: 0x" ++ Hex.padded 3 summary.pc,
      "  DT: " ++ toString summary.delayTimer, "  ST: " ++ toString summary.soundTimer],
      Unbroken line := by
    simp +decide
  refine ⟨List.forall_mem_append.mpr ⟨List.forall_mem_append.mpr ⟨by decide, unbroken⟩, special⟩,
    "  ST: " ++ toString summary.soundTimer, ?_, by simp⟩
  rw [List.getLast?_append]
  rfl

theorem Sheet.Reports.runtime {image : List UInt8} {status : Status} {state : State}
    {entries : List TraceEntry} {fault : Option Fault} {sheet : Sheet}
    (reports : sheet.Reports image status state entries fault) :
    (∃ line ∈ linesOf sheet.summary, Begins "Runtime:" line) ↔ fault ≠ none := by
  rw [reports.summary]
  constructor
  · rintro ⟨line, member, tells⟩ rfl
    revert tells
    simp only [Option.elim_none, List.append_nil, List.mem_append] at member
    rcases member with (front | middle) | last
    · refine not_begins 'R' rfl ?_
      revert line
      simp only [List.forall_mem_cons, List.not_mem_nil, false_imp_iff, implies_true, and_true]
      simp +decide
    · revert line
      simp only [List.forall_mem_cons, List.not_mem_nil, false_imp_iff, implies_true, and_true]
      exact ⟨not_begins 'R' rfl (by decide), not_begins 'R' rfl (by decide)⟩
    · exact Hexdump.not_begins_dump (by decide) image line last
  · intro present
    obtain ⟨cause, rfl⟩ := Option.ne_none_iff_exists'.mp present
    refine ⟨"Runtime: " ++ cause.message, by simp, ?_⟩
    exact begins_append "Runtime:" (" " ++ cause.message)

/-- The sheet of a machine at the end of a walk. -/
theorem reports_walk {image : List UInt8} (filled : image ≠ []) {limit : Nat} {walk : Walk}
    (sound : walk.Sound limit) {fault : Option Fault} (ended : walk.error? = fault.map Error.fault)
    {place : Machine Quantity × Keypad} (reaches : Reaches walk place) :
    Sheet.Reports image walk.status walk.state walk.trace.entries fault
      { image := Image.ofRows (place.1.state.elim [] fun state => state.display.rows)
        summary := summaryText image (Report.summary place.1) fault
        trace := traceText place.1.trace.entries
        registers := registersText (Report.summary place.1) } := by
  have told := sound.unbroken ended
  have sixteen : (Report.summary place.1).registers.length = 16 := by
    simpa only [Report.summary, reaches.state, Option.elim_some] using sound.formed.registerCount
  constructor
  · simp only [reaches.state, Option.elim_some]
    exact sound.formed.display.pictured
  · rw [linesOf_summaryText filled _ told]
    simp only [Report.summary, reaches.state, reaches.status, Option.elim_some,
      sound.formed.display.litCount_shines]
  · rw [linesOf_registersText _ sixteen]
    simp only [Report.summary, reaches.state, Option.elim_some, State.register]
  · simp only [reaches.trace]
    exact linesOf_traceText sound.entries

theorem steady_surroundings : surroundings.Steady Keypad.held id where
  clock _ := ⟨TimeScale.zero, rfl⟩
  poll _ := rfl
  render _ _ := rfl
  clocked _ := rfl
  polled _ := rfl
  rendered _ _ := rfl
  noted _ _ := rfl

theorem unthrottled_config : Unthrottled config :=
  ⟨TimeScale.zero, rfl, by decide +kernel⟩

theorem runMachine_eq (image : List UInt8) (keypad : Keypad) (cycles : Int) :
    runMachine image keypad (.whole cycles) =
      match (playThrough surroundings image cycles.toNat (some cycles)).run
        (idle config, keypad) with
      | .ok _ (machine, _) => .ok (machine, none)
      | .error (.fault fault) (machine, _) => .ok (machine, some fault)
      | .error error _ => .error error := rfl

theorem runImage_eq {image : List UInt8} (filled : image ≠ []) {labels : List String}
    (known : ∀ label ∈ labels, label ∈ keyLabels) (cycles : Int) :
    let walk := (Walk.next false (heldKeys labels))^[cycles.toNat] (Walk.ofProgram 200 image)
    ∃ sheet fault, runImage image labels (.whole cycles) = .ok sheet ∧
      walk.error? = fault.map Error.fault ∧
      sheet.Reports image walk.status walk.state walk.trace.entries fault := by
  intro walk
  have sixteen := length_heldKeys labels
  have sound : walk.Sound 200 := (Walk.sound_ofProgram 200 image).after sixteen _
  have concluded : Concludes Keypad.held (heldKeys labels) walk
      ((playThrough surroundings image cycles.toNat (some cycles)).run
        (idle config, ⟨heldKeys labels⟩)) :=
    playThrough_concludes steady_surroundings rfl unthrottled_config sixteen image rfl
      (Nat.le_refl _)
  have some : image.isEmpty = false := by simpa using filled
  have opened : runImage image labels (.whole cycles) = do
      let ran ← runMachine image ⟨heldKeys labels⟩ (.whole cycles)
      return {
        image := Image.ofRows (ran.1.state.elim [] fun state => state.display.rows)
        summary := summaryText image (Report.summary ran.1) ran.2
        trace := traceText ran.1.trace.entries
        registers := registersText (Report.summary ran.1) } := by
    rw [runImage, some, keypadOf_eq known]
    rfl
  rw [opened, runMachine_eq]
  obtain ⟨raised, reaches, _⟩ := concluded
  cases outcome : (playThrough surroundings image cycles.toNat (.some cycles)).run
      (idle config, ⟨heldKeys labels⟩) with
  | ok _ place =>
    rw [outcome] at raised reaches
    have ended : walk.error? = Option.map Error.fault none := raised.symm
    exact ⟨_, none, rfl, ended, reports_walk filled sound ended reaches⟩
  | error error place =>
    rw [outcome] at raised reaches
    obtain ⟨word, pc, cause, rfl, _⟩ := sound.error error raised.symm
    have ended : walk.error? = Option.map Error.fault (.some (.execution word pc cause)) :=
      raised.symm
    exact ⟨_, _, rfl, ended, reports_walk filled sound ended reaches⟩

end ChipEight.Workbench
