import ChipEight.Proofs.Ledger

namespace ChipEight

namespace Surroundings

variable {τ ε : Type} {surroundings : Surroundings τ ε} {frames : ε → List (List Int)}

/-- `frames` tells which frames a world was shown, the latest last. -/
structure Recorded (surroundings : Surroundings τ ε) (frames : ε → List (List Int)) : Prop
    extends surroundings.Keeps frames where
  rendered : ∀ rows world, frames (surroundings.render rows world).2 = frames world ++ [rows]
  polled : ∀ world, frames (surroundings.poll world).2 = frames world

theorem Recorded.frame (recorded : surroundings.Recorded frames) (due : Bool) (rows : List Int)
    (world : ε) :
    frames (surroundings.frame due rows world).2 =
      frames world ++ if due then [rows] else [] := by
  cases due with
  | false => exact (List.append_nil _).symm
  | true => exact recorded.rendered rows world

end Surroundings

/-- The record of an instruction that was executed and changes the screen: `00E0` or `DXYN`. -/
def Record.draws (record : Record) : Bool :=
  record.entry.fault.isNone &&
    record.entry.event.word?.any fun word => word == 0x00E0 || word / 0x1000 == 0xD

theorem Operation.drawsScreen_iff {operation : Operation} :
    operation.drawsScreen = true ↔ operation = clearScreen ∨ operation = draw := by
  cases operation <;> decide

theorem Operation.display_effect (instruction : Instruction) (state : State)
    {operation : Operation} (other : operation.drawsScreen = false) :
    (operation.effect instruction state).display = state.display := by
  have skipped (condition : Bool) : (state.skipIf condition).display = state.display := by
    cases condition <;> rfl
  cases operation with
  | clearScreen | draw => cases other
  | awaitKey =>
    simp only [effect, takeKeyEffect]
    split <;> rfl
  | skipEqualByte | skipUnequalByte | skipEqual | skipUnequal | skipHeld | skipReleased =>
    exact skipped _
  | _ => rfl

namespace State

variable {state : State} {keys : List Bool} {strict onChange : Bool}

theorem drawsScreen_eq (state : State) :
    state.operation.drawsScreen = (state.word == 0x00E0 || state.word / 0x1000 == 0xD) := by
  have short : state.word < 0x10000 := state.memory.wordAt_lt _
  have clears : state.operation = .clearScreen ↔ Instruction.Spells state.word .clearScreen :=
    Instruction.operation_eq short (by decide)
  have draws : state.operation = .draw ↔ Instruction.Spells state.word .draw :=
    Instruction.operation_eq short (by decide)
  rw [Bool.eq_iff_iff, Operation.drawsScreen_iff, clears, draws]
  simp [Instruction.Spells]

theorem draws_entry (keys : List Bool) (state : State) :
    Record.draws ⟨state, state.entry keys⟩ = state.operation.drawsScreen := by
  have word : state.instruction.word = state.word :=
    Instruction.word_ofWord (state.memory.wordAt_lt _)
  rw [drawsScreen_eq]
  simp only [Record.draws, State.entry, Event.word?, word, Option.isNone_none, Bool.true_and,
    Option.any_some]
  rw [Bool.eq_iff_iff]
  simp only [Bool.or_eq_true, beq_iff_eq]
  omega

theorem display_completed (other : state.operation.drawsScreen = false) (keys : List Bool) :
    (state.completed keys).display = state.display :=
  Operation.display_effect state.instruction (state.fetch keys) other

theorem display_failed (keys : List Bool) (state : State) :
    (state.failed keys).display = state.display := by
  simp only [failed]
  cases state.operation <;> rfl

/-- The frames of a cycle. -/
def frames (strict onChange : Bool) (keys : List Bool) (state : State) : List (List Int) :=
  if state.AtEnd ∨ state.fault? strict ≠ none then []
  else if state.operation.drawsScreen || !onChange then [(state.completed keys).display.rows]
  else []

/-- What was shown since a program was loaded is in step with the cycles since then. -/
structure Shown (onChange : Bool) (records : List Record) (shown : List (List Int))
    (state : State) : Prop where
  current : shown.getLast?.getD Display.blank.rows = state.display.rows
  drawn : onChange = true → shown.length = records.countP Record.draws
  counted : onChange = false → (shown.length : Int) = state.cycles

theorem Shown.cycle {records : List Record} {shown : List (List Int)}
    (before : Shown onChange records shown state) (strict : Bool) (keys : List Bool) :
    let outcome := state.cycle strict keys
    Shown onChange (records ++ [⟨state, outcome.entry⟩])
      (shown ++ state.frames strict onChange keys) outcome.state := by
  rcases state.cycle_cases strict keys with
    ⟨atEnd, same⟩ | ⟨inside, granted, same⟩ | ⟨cause, inside, refused, same⟩
  · have nothing : state.frames strict onChange keys = [] := if_pos (.inl atEnd)
    have undrawn : Record.draws ⟨state, state.endEntry⟩ = false := rfl
    simp only [same, nothing, List.append_nil]
    refine ⟨before.current, fun asked => ?_, before.counted⟩
    simp [before.drawn asked, List.countP_append, undrawn]
  · have drawing := state.draws_entry keys
    have counted := state.cycles_completed keys
    have some : state.frames strict onChange keys =
        if state.operation.drawsScreen || !onChange then [(state.completed keys).display.rows]
        else [] :=
      if_neg (by simp [inside, granted])
    simp only [same, some]
    cases due : state.operation.drawsScreen || !onChange with
    | true =>
      refine ⟨by simp, fun asked => ?_, fun always => ?_⟩
      · have drew : state.operation.drawsScreen = true := by simpa [asked] using due
        simp [before.drawn asked, List.countP_append, drawing, drew]
      · have level := before.counted always
        simp only [if_true, List.length_append, List.length_singleton, counted]
        omega
    | false =>
      obtain ⟨other, asked⟩ : state.operation.drawsScreen = false ∧ onChange = true := by
        simpa using due
      simp only [Bool.false_eq_true, if_false, List.append_nil]
      refine ⟨by rw [before.current, display_completed other], fun _ => ?_, fun always => ?_⟩
      · simp [before.drawn asked, List.countP_append, drawing, other]
      · rw [asked] at always
        cases always
  · have nothing : state.frames strict onChange keys = [] := if_pos (.inr (by simp [refused]))
    have undrawn : Record.draws ⟨state, state.faultEntry keys cause⟩ = false := rfl
    simp only [same, nothing, List.append_nil]
    refine ⟨by rw [before.current, display_failed], fun asked => ?_, fun always => ?_⟩
    · simp [before.drawn asked, List.countP_append, undrawn]
    · rw [before.counted always, cycles_failed]

end State

namespace Machine

variable {τ ε : Type} {config : Config τ} {machine : Machine τ} {state : State}
  {surroundings : Surroundings τ ε} {frames : ε → List (List Int)}

theorem frames_settle (recorded : surroundings.Recorded frames) (machine : Machine τ)
    (state : State) (world : ε) :
    frames (settle surroundings machine state world).2 =
      frames world ++ state.frames machine.config.strict machine.config.renderOnChange
        (surroundings.poll world).1 := by
  by_cases atEnd : state.AtEnd
  · simp only [settle, State.frames, atEnd, true_or, if_true, List.append_nil]
    exact recorded.noted _ world
  · cases granted : state.fault? machine.config.strict with
    | some cause =>
      simp only [settle, State.frames, if_neg atEnd, granted, ne_eq, reduceCtorEq,
        not_false_eq_true, or_true, if_true, List.append_nil]
      rw [recorded.noted, recorded.polled]
    | none =>
      simp only [settle, State.frames, granted, atEnd, ne_eq, not_true_eq_false,
        or_self, if_false]
      rw [recorded.frame, Surroundings.view_remark recorded.noted, recorded.polled]
      rfl

/-- A machine has a program, and its screen is in step with the cycles since that was loaded, when
`onset` was what it had been shown before. -/
def InStep (frames : ε → List (List Int)) (config : Config τ) (onset : List (List Int))
    (records : List Record) (place : Machine τ × ε) : Prop :=
  ∃ state shown, place.1.state = some state ∧ frames place.2 = onset ++ shown ∧
    state.Shown config.renderOnChange records shown

theorem InStep.rest (recorded : surroundings.Recorded frames) {onset : List (List Int)}
    {records : List Record} {before after : Machine τ × ε}
    (inStep : InStep frames config onset records before)
    (resting : Resting surroundings before after) :
    InStep frames config onset records after := by
  obtain ⟨state, shown, present, framed, level⟩ := inStep
  exact ⟨state, shown, resting.1.state.trans present, (recorded.passes resting.2).trans framed,
    level⟩

variable [TimeScale τ]

theorem InStep.step (recorded : surroundings.Recorded frames) (unbroken : surroundings.Unbroken)
    (shared : config.timerRate = none) {onset : List (List Int)} {records : List Record}
    {place : Machine τ × ε} (inStep : InStep frames config onset records place)
    (sound : place.1.Sound config) :
    InStep frames config onset (records ++ stepLog surroundings place)
      (left ((step surroundings).run place)) := by
  have ⟨state, _, present, _⟩ := inStep
  obtain ⟨machine, world⟩ := place
  have formed := sound.formed state present
  have shared' : machine.config.timerRate = none := by rw [sound.settings, shared]
  have woken := wake_spec surroundings machine world
  rw [stepLog_unbroken unbroken sound shared present,
    run_step_unbroken unbroken world present shared' formed.shaped formed.counter.1]
  cases outcome : (wake surroundings).run (machine, world) with
  | error error place =>
    rw [outcome] at woken
    simp only [List.append_nil]
    exact inStep.rest recorded woken.1
  | ok _ place =>
    obtain ⟨awake, world'⟩ := place
    rw [outcome] at woken
    have settings : awake.config = config := woken.1.1.config.trans sound.settings
    obtain ⟨found, shown, same, framed, level⟩ := inStep.rest recorded woken.1
    obtain rfl : state = found :=
      Option.some.inj ((woken.1.1.state.trans present).symm.trans same)
    simp only [cycled]
    by_cases turned : state.TurnsDown (surroundings.poll world').1
    · rw [if_pos turned, if_pos turned, List.append_nil]
      exact ⟨state, shown, same, (recorded.polled world').trans framed, level⟩
    · rw [if_neg turned, if_neg turned, left_conclude]
      obtain ⟨stopping, settled⟩ := settle_machine surroundings awake state world'
      refine ⟨_, shown ++ state.frames config.strict config.renderOnChange
        (surroundings.poll world').1, congrArg Machine.state settled, ?_, ?_⟩
      · rw [frames_settle recorded, settings, framed, List.append_assoc]
      · rw [settings]
        exact level.cycle _ _

/-- The last frame since the program was loaded is what the screen holds, and there were as many
frames as instructions that change the screen, or as cycles where each asks for one. -/
theorem frames_current (reachable : Reachable config machine) (shared : config.timerRate = none)
    (recorded : surroundings.Recorded frames) (unbroken : surroundings.Unbroken) (world : ε)
    (program : List UInt8) {requests : List Request}
    (plays : ∀ request ∈ requests, ∀ program, request ≠ .load program) :
    let loaded := (Request.load program).serve surroundings (machine, world)
    let records := log surroundings requests loaded
    let reached := serve surroundings requests loaded
    ∃ state shown, reached.1.state = some state ∧ frames reached.2 = frames loaded.2 ++ shown ∧
      (∀ last ∈ shown.getLast?, last = state.display.rows) ∧
      (shown = [] → state.display.rows = List.replicate 32 0) ∧
      (config.renderOnChange = true → shown.length = records.countP Record.draws) ∧
      (config.renderOnChange = false → (shown.length : Int) = state.cycles) := by
  intro loaded records reached
  have sound : loaded.1.Sound config :=
    keeps_call surroundings (.load program) (machine, world) reachable.sound
  obtain ⟨bytes, fresh⟩ := serve_load surroundings program (machine, world)
  have began : InStep frames config (frames loaded.2) [] loaded :=
    ⟨State.ofProgram program, [], by rw [fresh], (List.append_nil _).symm, rfl, fun _ => rfl,
      fun _ => rfl⟩
  have tracking : Tracking surroundings config (stepLog surroundings) fun before records after =>
      ∀ earlier, InStep frames config (frames loaded.2) earlier before →
        InStep frames config (frames loaded.2) (earlier ++ records) after :=
    { append := by
        intro first second third records more before after earlier inStep
        rw [← List.append_assoc]
        exact after _ (before _ inStep)
      rest := by
        intro before after resting earlier inStep
        rw [List.append_nil]
        exact inStep.rest recorded resting
      step := fun sound earlier inStep => inStep.step recorded unbroken shared sound }
  have played := tracking.serve plays sound [] began
  rw [← log_eq] at played
  obtain ⟨state, shown, present, framed, level⟩ := played
  refine ⟨state, shown, present, framed, ?_, ?_, level.drawn, level.counted⟩
  · intro last ended
    have current := level.current
    rw [ended] at current
    exact current
  · intro nothing
    rw [← level.current, nothing]
    rfl

/-- A program that clears the screen, draws a digit and goes round in a loop shows two frames. The
second of them is what the screen holds at the end. -/
theorem frames_current_drawn :
    let surroundings : Surroundings Quantity (List (List Int)) :=
      { clock := fun shown => (.ok TimeScale.zero, shown)
        poll := fun shown => (Keypad.released.held, shown)
        render := fun rows shown => (⟨false, false⟩, shown ++ [rows])
        wait := fun _ shown => (.ok false, shown)
        note := fun _ shown => shown }
    let loaded := (Request.load [0x00, 0xE0, 0xD0, 0x05, 0x12, 0x04]).serve surroundings
      (Machine.idle .standard, [])
    let reached := serve surroundings [.step, .run 3 (some 3)] loaded
    ∃ state, reached.1.state = some state ∧ reached.2.length = 2 ∧
      reached.2.getLast? = some state.display.rows := by
  intro surroundings loaded reached
  have created : Reachable .standard (Machine.idle (.standard : Config Quantity)) :=
    .created rfl rfl
  have recorded : surroundings.Recorded id :=
    { clock := fun _ => rfl
      waited := fun _ _ => rfl
      noted := fun _ _ => rfl
      rendered := fun _ _ => rfl
      polled := fun _ => rfl }
  have plays : ∀ request ∈ [Request.step, .run 3 (some 3)],
      ∀ program, request ≠ .load program := by
    simp
  have drawn : (log surroundings [.step, .run 3 (some 3)] loaded).countP Record.draws = 2 := by
    decide +kernel
  obtain ⟨state, shown, present, framed, current, _, drawings, _⟩ :=
    frames_current created rfl recorded (fun _ _ => rfl) [] [0x00, 0xE0, 0xD0, 0x05, 0x12, 0x04]
      plays
  have two : shown.length = 2 := (drawings rfl).trans drawn
  replace framed : reached.2 = shown := framed
  refine ⟨state, by rw [← present], by rw [framed, two], ?_⟩
  rw [framed]
  cases ended : shown.getLast? with
  | none =>
    rw [List.getLast?_eq_none_iff.mp ended] at two
    cases two
  | some last => rw [current last ended]

end Machine

end ChipEight
