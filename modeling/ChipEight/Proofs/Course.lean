import ChipEight.Proofs.Reachable

/-! The course of a machine: cycles, each with the state it found and its entry, and rests between
them. Every request, of whatever kind, is such a course. -/

namespace ChipEight

/-- A cycle as it is remembered. -/
structure Record where
  found : State
  entry : TraceEntry

namespace Machine

variable {τ ε α : Type} {config : Config τ} {machine : Machine τ} {state : State}
  {surroundings : Surroundings τ ε}

/-- A call that is only a rest, however it ends. -/
abbrev Idles (surroundings : Surroundings τ ε) (call : Call τ ε α) : Prop :=
  Leads (Resting surroundings) call

theorem idles_update {change : Machine τ → Machine τ}
    (rests : ∀ machine : Machine τ, machine.Rests (change machine)) :
    Idles surroundings (update change : Call τ ε Unit) :=
  fun place => ⟨rests place.1, .same place.2⟩

theorem idles_stop : Idles surroundings (stop : Call τ ε Unit) :=
  idles_update fun _ => ⟨rfl, rfl, rfl, .inl rfl⟩

theorem idles_clock (surroundings : Surroundings τ ε) :
    Idles surroundings (demand surroundings.clock : Call τ ε τ) :=
  leads_demand fun machine world => ⟨.refl machine, (Surroundings.Passes.same world).clock⟩

theorem settle_machine (surroundings : Surroundings τ ε) (machine : Machine τ) (state : State)
    (world : ε) :
    let outcome := state.cycle machine.config.strict (surroundings.poll world).1
    ∃ stopping, (settle surroundings machine state world).1 =
      { machine with
        state := some outcome.state
        status := outcome.status
        trace := machine.trace.push outcome.entry
        stopping } := by
  simp only [settle]
  split
  · exact ⟨machine.stopping, rfl⟩
  · split
    · exact ⟨_, rfl⟩
    · exact ⟨machine.stopping, rfl⟩

/-- From one place to another, by cycles with these records and rests between them. -/
inductive Course (surroundings : Surroundings τ ε) (start : Machine τ × ε) :
    List Record → Machine τ × ε → Prop where
  | start : Course surroundings start [] start
  | rest {records : List Record} {place rested : Machine τ × ε}
      (before : Course surroundings start records place)
      (resting : Resting surroundings place rested) : Course surroundings start records rested
  | cycle {records : List Record} {machine : Machine τ} {world : ε} {state : State}
      (before : Course surroundings start records (machine, world))
      (present : machine.state = some state) (running : machine.status = .running) :
      Course surroundings start
        (records ++
          [⟨state, (state.cycle machine.config.strict (surroundings.poll world).1).entry⟩])
        (settle surroundings machine state world)

theorem Course.trans {first second third : Machine τ × ε} {records more : List Record}
    (before : Course surroundings first records second)
    (after : Course surroundings second more third) :
    Course surroundings first (records ++ more) third := by
  induction after with
  | start => simpa using before
  | rest _ resting ih => exact ih.rest resting
  | cycle _ present running ih =>
    rw [← List.append_assoc]
    exact ih.cycle present running

theorem Course.of_resting {place rested : Machine τ × ε}
    (resting : Resting surroundings place rested) : Course surroundings place [] rested :=
  Course.start.rest resting

theorem Course.sound (quiet : surroundings.Quiet) {start place : Machine τ × ε}
    {records : List Record} (course : Course surroundings start records place)
    (sound : start.1.Sound config) : place.1.Sound config := by
  induction course with
  | start => exact sound
  | rest _ resting ih => exact ih.rested resting.1
  | @cycle _ machine world state _ present _ ih =>
    obtain ⟨stopping, settled⟩ := settle_machine surroundings machine state world
    have formed := (ih.formed state present).cycle machine.config.strict (quiet.keys world)
    have busy := state.status_cycle machine.config.strict (surroundings.poll world).1
    have placed := (ih.put formed busy).push
      (state.cycle machine.config.strict (surroundings.poll world).1).entry
    rw [settled]
    exact { placed with }

variable [TimeScale τ]

theorem idles_resumeClock (surroundings : Surroundings τ ε) :
    Idles surroundings (resumeClock surroundings) :=
  (idles_clock surroundings).bind fun _ => idles_update fun _ => ⟨rfl, rfl, rfl, .inl rfl⟩

theorem idles_start (surroundings : Surroundings τ ε) :
    Idles surroundings (start surroundings) :=
  leads_start (fun _ world loaded => ⟨⟨rfl, rfl, rfl, .inr ⟨loaded, rfl⟩⟩, .same world⟩)
    (idles_resumeClock surroundings)

theorem idles_wake (surroundings : Surroundings τ ε) : Idles surroundings (wake surroundings) :=
  leads_wake (idles_start surroundings) (idles_resumeClock surroundings)

theorem idles_pace (surroundings : Surroundings τ ε) (cycleStart : τ) :
    Idles surroundings (pace surroundings cycleStart) := by
  refine leads_pace cycleStart (idles_clock surroundings) (fun time => ?_) idles_stop
  exact leads_demand fun machine world =>
    ⟨.refl machine, (Surroundings.Passes.same world).wait time⟩

theorem idles_beginRun (surroundings : Surroundings τ ε) :
    Idles surroundings (beginRun surroundings) :=
  leads_beginRun (idles_start surroundings) (idles_update fun _ => ⟨rfl, rfl, rfl, .inl rfl⟩)
    (idles_resumeClock surroundings)

theorem run_beginRun_resume (surroundings : Surroundings τ ε) (world : ε)
    (present : machine.state = some state) :
    (beginRun surroundings).run (machine, world) =
      (resumeClock surroundings).run
        ({ machine with
            stopping := false
            status := if machine.status = .loaded then .running else machine.status }, world) := by
  have ready : machine.state.isNone = false := by rw [present]; rfl
  by_cases loaded : machine.status = .loaded
  · have started : machine.status ≠ .running := by rw [loaded]; decide
    simp only [beginRun, EStateM.run_bind, run_read, ready, Bool.false_eq_true, if_false,
      if_pos loaded, run_start, if_neg started]
  · simp only [beginRun, EStateM.run_bind, run_read, ready, Bool.false_eq_true, if_false,
      if_neg loaded, run_update]

/-- The record of the cycle that a step comes to, if it comes to one. It is what the step enters in
an empty trace with room for one entry. -/
def stepLog (surroundings : Surroundings τ ε) (place : Machine τ × ε) : List Record :=
  match place.1.state with
  | none => []
  | some found =>
    let after :=
      left ((step surroundings).run ({ place.1 with trace := Trace.empty 1 }, place.2))
    after.1.trace.entries.map (Record.mk found)

def turnLog (surroundings : Surroundings τ ε) (place : Machine τ × ε) : List Record :=
  match (demand surroundings.clock).run place with
  | .ok _ place => stepLog surroundings place
  | .error _ _ => []

def cyclesLog (surroundings : Surroundings τ ε) :
    Nat → Option Nat → Machine τ × ε → List Record
  | 0, _, _ => []
  | fuel + 1, remaining, place =>
    if goesOn place.1 remaining then
      turnLog surroundings place ++
        match (turn surroundings).run place with
        | .ok _ place => cyclesLog surroundings fuel (remaining.map (· - 1)) place
        | .error _ _ => []
    else []

/-- The records of the cycles that a request comes to, in order. -/
def Request.log (surroundings : Surroundings τ ε) (place : Machine τ × ε) : Request → List Record
  | step => stepLog surroundings place
  | run fuel limit =>
    match (beginRun surroundings).run place with
    | .ok _ place => cyclesLog surroundings fuel (allowance place.1 limit) place
    | .error _ _ => []
  | _ => []

def serve (surroundings : Surroundings τ ε) (requests : List Request) (place : Machine τ × ε) :
    Machine τ × ε :=
  requests.foldl (Request.serve surroundings) place

def log (surroundings : Surroundings τ ε) : List Request → Machine τ × ε → List Record
  | [], _ => []
  | request :: requests, place =>
    request.log surroundings place ++
      log surroundings requests (request.serve surroundings place)

/-- The place at which a turn asks for its cycle. -/
def turnOnsets (surroundings : Surroundings τ ε) (place : Machine τ × ε) :
    List (Machine τ × ε) :=
  match (demand surroundings.clock).run place with
  | .ok _ place => [place]
  | .error _ _ => []

def cyclesOnsets (surroundings : Surroundings τ ε) :
    Nat → Option Nat → Machine τ × ε → List (Machine τ × ε)
  | 0, _, _ => []
  | fuel + 1, remaining, place =>
    if goesOn place.1 remaining then
      turnOnsets surroundings place ++
        match (turn surroundings).run place with
        | .ok _ place => cyclesOnsets surroundings fuel (remaining.map (· - 1)) place
        | .error _ _ => []
    else []

/-- The places at which a request asks for its cycles, in order. -/
def Request.onsets (surroundings : Surroundings τ ε) (place : Machine τ × ε) :
    Request → List (Machine τ × ε)
  | step => [place]
  | run fuel limit =>
    match (beginRun surroundings).run place with
    | .ok _ place => cyclesOnsets surroundings fuel (allowance place.1 limit) place
    | .error _ _ => []
  | _ => []

def onsets (surroundings : Surroundings τ ε) :
    List Request → Machine τ × ε → List (Machine τ × ε)
  | [], _ => []
  | request :: requests, place =>
    request.onsets surroundings place ++
      onsets surroundings requests (request.serve surroundings place)

theorem turnLog_eq (surroundings : Surroundings τ ε) (place : Machine τ × ε) :
    turnLog surroundings place =
      (turnOnsets surroundings place).flatMap (stepLog surroundings) := by
  rw [turnLog, turnOnsets]
  cases (demand surroundings.clock).run place with
  | ok cycleStart reached => simp
  | error error reached => rfl

theorem cyclesLog_eq (surroundings : Surroundings τ ε) (fuel : Nat) (remaining : Option Nat)
    (place : Machine τ × ε) :
    cyclesLog surroundings fuel remaining place =
      (cyclesOnsets surroundings fuel remaining place).flatMap (stepLog surroundings) := by
  induction fuel generalizing remaining place with
  | zero => rfl
  | succ fuel ih =>
    rw [cyclesLog, cyclesOnsets]
    split
    · rw [List.flatMap_append, turnLog_eq]
      cases (turn surroundings).run place with
      | ok _ next => exact congrArg _ (ih _ next)
      | error error next => rfl
    · rfl

/-- A log is made of the logs of the steps at its onsets. -/
theorem Request.log_eq (surroundings : Surroundings τ ε) (place : Machine τ × ε)
    (request : Request) :
    request.log surroundings place =
      (request.onsets surroundings place).flatMap (stepLog surroundings) := by
  cases request with
  | step => exact (List.flatMap_singleton _ _).symm
  | run fuel limit =>
    rw [Request.log, Request.onsets]
    cases (beginRun surroundings).run place with
    | ok _ begun => exact cyclesLog_eq surroundings fuel _ begun
    | error error begun => rfl
  | _ => rfl

theorem log_eq (surroundings : Surroundings τ ε) (requests : List Request)
    (place : Machine τ × ε) :
    log surroundings requests place =
      (onsets surroundings requests place).flatMap (stepLog surroundings) := by
  induction requests generalizing place with
  | nil => rfl
  | cons request requests ih => rw [log, onsets, List.flatMap_append, Request.log_eq, ih]

theorem run_wake_trace (trace : Trace) (machine : Machine τ) (world : ε) :
    (wake surroundings).run ({ machine with trace }, world) =
      match (wake surroundings).run (machine, world) with
      | .ok result (awake, world') => .ok result ({ awake with trace }, world')
      | .error error (rested, world') => .error error ({ rested with trace }, world') := by
  obtain ⟨_, _, status, _, _, _, _, _, paused⟩ := machine
  simp only [run_wake, run_start, run_resumeClock]
  cases status with
  | loaded => cases (surroundings.clock world).1 <;> rfl
  | running =>
    cases paused with
    | false => rfl
    | true => cases (surroundings.clock world).1 <;> rfl
  | _ => rfl

/-- The log of a step in surroundings that break off no frame: a record, unless the keys of the poll
are turned down. -/
theorem stepLog_unbroken (unbroken : surroundings.Unbroken) (sound : machine.Sound config)
    (shared : config.timerRate = none) (present : machine.state = some state) (world : ε) :
    stepLog surroundings (machine, world) =
      match (wake surroundings).run (machine, world) with
      | .ok _ (_, world') =>
        if state.TurnsDown (surroundings.poll world').1 then []
        else [⟨state, (state.cycle config.strict (surroundings.poll world').1).entry⟩]
      | .error _ _ => [] := by
  have formed := sound.formed state present
  have emptied : ({ machine with trace := Trace.empty 1 } : Machine τ).state = some state := present
  have shared' : machine.config.timerRate = none := by rw [sound.settings, shared]
  have woken := wake_spec surroundings machine world
  have produced : stepLog surroundings (machine, world) =
      (left ((step surroundings).run
        ({ machine with trace := Trace.empty 1 }, world))).1.trace.entries.map
        (Record.mk state) := by
    unfold stepLog
    split
    · rename_i missing
      rw [present] at missing
      simp at missing
    · rename_i found same
      rw [Option.some.inj (same.symm.trans present)]
  rw [produced, run_step_unbroken unbroken world emptied shared' formed.shaped formed.counter.1,
    run_wake_trace]
  cases outcome : (wake surroundings).run (machine, world) with
  | error error place => rfl
  | ok _ place =>
    obtain ⟨awake, world'⟩ := place
    rw [outcome] at woken
    simp only [cycled]
    by_cases turned : state.TurnsDown (surroundings.poll world').1
    · rw [if_pos turned, if_pos turned]
      rfl
    · rw [if_neg turned, if_neg turned, left_conclude]
      obtain ⟨stopping, settled⟩ := settle_machine surroundings
        { awake with trace := Trace.empty 1 } state world'
      have settings : awake.config = config := woken.1.1.config.trans sound.settings
      rw [settled]
      simp [Trace.push, Trace.empty, settings]

theorem stepLog_eq (quiet : surroundings.Quiet) (sound : machine.Sound config)
    (shared : config.timerRate = none) (present : machine.state = some state) (world : ε) :
    stepLog surroundings (machine, world) =
      match (wake surroundings).run (machine, world) with
      | .ok _ (_, world') =>
        [⟨state, (state.cycle config.strict (surroundings.poll world').1).entry⟩]
      | .error _ _ => [] := by
  rw [stepLog_unbroken quiet.frames sound shared present]
  cases (wake surroundings).run (machine, world) with
  | error error place => rfl
  | ok _ place => exact if_neg fun turned => turned.2 (quiet.keys place.2)

theorem course_step (quiet : surroundings.Quiet) (shared : config.timerRate = none)
    {place : Machine τ × ε} (sound : place.1.Sound config) :
    Course surroundings place (stepLog surroundings place)
      (left ((step surroundings).run place)) := by
  obtain ⟨machine, world⟩ := place
  cases present : machine.state with
  | none =>
    rw [run_step_blank surroundings world present]
    simp only [stepLog, present]
    exact .start
  | some state =>
    have woken := wake_spec surroundings machine world
    rw [stepLog_eq quiet sound shared present, sound.step_quiet quiet shared world present]
    cases outcome : (wake surroundings).run (machine, world) with
    | error error place =>
      rw [outcome] at woken
      exact .of_resting woken.1
    | ok _ place =>
      obtain ⟨awake, world'⟩ := place
      rw [outcome] at woken
      obtain ⟨resting, running, _⟩ := woken
      have settings : awake.config = config := resting.1.config.trans sound.settings
      have cycled := (Course.of_resting resting).cycle (resting.1.state.trans present) running
      rw [settings] at cycled
      simp only [left_conclude]
      exact cycled

theorem run_turn (surroundings : Surroundings τ ε) (place : Machine τ × ε) :
    (turn surroundings).run place =
      match (demand surroundings.clock).run place with
      | .error error reached => .error error reached
      | .ok cycleStart reached =>
        match (step surroundings).run reached with
        | .error error after => .error error after
        | .ok _ after =>
          if after.1.status = .running then (pace surroundings cycleStart).run after
          else .ok () after := by
  simp only [turn, EStateM.run_bind]
  cases (demand surroundings.clock).run place with
  | error error reached => rfl
  | ok cycleStart reached =>
    simp only
    cases (step surroundings).run reached with
    | error error after => rfl
    | ok entry after =>
      obtain ⟨machine, world⟩ := after
      simp only [run_read]
      split <;> rfl

theorem run_cycles_zero (surroundings : Surroundings τ ε) (remaining : Option Nat)
    (place : Machine τ × ε) :
    (cycles surroundings 0 remaining).run place = .ok (!goesOn place.1 remaining) place := by
  obtain ⟨machine, world⟩ := place
  rw [cycles]
  simp only [EStateM.run_bind, run_read]
  cases goesOn machine remaining <;> rfl

theorem run_cycles_succ (surroundings : Surroundings τ ε) (fuel : Nat) (remaining : Option Nat)
    (place : Machine τ × ε) :
    (cycles surroundings (fuel + 1) remaining).run place =
      if goesOn place.1 remaining then
        match (turn surroundings).run place with
        | .ok _ next => (cycles surroundings fuel (remaining.map (· - 1))).run next
        | .error error next => .error error next
      else .ok true place := by
  obtain ⟨machine, world⟩ := place
  rw [cycles]
  simp only [EStateM.run_bind, run_read]
  cases goesOn machine remaining with
  | false => rfl
  | true =>
    simp only [Bool.not_true, Bool.false_eq_true, if_false, if_true, EStateM.run_bind]
    cases (turn surroundings).run (machine, world) <;> rfl

theorem run_cycles_over (surroundings : Surroundings τ ε) (fuel : Nat) {remaining : Option Nat}
    {place : Machine τ × ε} (closed : goesOn place.1 remaining = false) :
    (cycles surroundings fuel remaining).run place = .ok true place := by
  cases fuel with
  | zero => rw [run_cycles_zero, closed, Bool.not_false]
  | succ fuel => rw [run_cycles_succ, closed, if_neg Bool.false_ne_true]

theorem run_run (surroundings : Surroundings τ ε) (fuel : Nat) (limit : Option Int)
    (place : Machine τ × ε) :
    (run surroundings fuel limit).run place =
      match (beginRun surroundings).run place with
      | .error error begun => .error error begun
      | .ok _ begun =>
        match (cycles surroundings fuel (allowance begun.1 limit)).run begun with
        | .error error ended => .error error ended
        | .ok finished ended =>
          if finished then
            .ok (some ended.1.trace.entries) ({ ended.1 with clockPaused := true }, ended.2)
          else .ok none ended := by
  simp only [run, EStateM.run_bind]
  cases (beginRun surroundings).run place with
  | error error begun => rfl
  | ok _ begun =>
    obtain ⟨machine, world⟩ := begun
    simp only [run_read]
    cases (cycles surroundings fuel (allowance machine limit)).run (machine, world) with
    | error error ended => rfl
    | ok finished ended => cases finished <;> rfl

theorem run_run_blank (surroundings : Surroundings τ ε) (fuel : Nat) (limit : Option Int)
    (world : ε) (blank : machine.state = none) :
    (run surroundings fuel limit).run (machine, world) = .error .notLoaded (machine, world) := by
  have begins : (beginRun surroundings).run (machine, world) =
      .error .notLoaded (machine, world) := by
    simp [beginRun, run_read, blank]
  rw [run_run, begins]

omit [TimeScale τ] in
theorem run_load (surroundings : Surroundings τ ε) (program : List UInt8) (machine : Machine τ)
    (world : ε) :
    let bytes := min (program.length : Int) ((Memory.standard.size : Int) - programStart)
    (load surroundings program).run (machine, world) =
      .ok bytes
        ({ machine with
            state := some (State.ofProgram program)
            loadedBytes := bytes
            status := .loaded
            trace := machine.trace.clear
            stopping := false },
          surroundings.note (.loaded bytes)
            (if bytes < program.length then
              surroundings.note (.truncated bytes program.length) world
            else world)) := by
  intro bytes
  by_cases truncated : bytes < program.length
  · simp only [load, bytes, truncated, if_true]
    rfl
  · simp only [load, bytes, truncated, if_false]
    rfl

theorem serve_load (surroundings : Surroundings τ ε) (program : List UInt8)
    (place : Machine τ × ε) :
    ∃ bytes, ((Request.load program).serve surroundings place).1 =
      { place.1 with
        state := some (State.ofProgram program)
        loadedBytes := bytes
        status := .loaded
        trace := place.1.trace.clear
        stopping := false } := by
  have left_load : (Request.load program).serve surroundings place =
      left ((load surroundings program).run place) := left_discard _ place
  rw [left_load, run_load]
  exact ⟨_, rfl⟩

theorem serve_step (surroundings : Surroundings τ ε) (place : Machine τ × ε) :
    Request.step.serve surroundings place = left ((step surroundings).run place) :=
  left_discard _ place

theorem serve_run (surroundings : Surroundings τ ε) (fuel : Nat) (limit : Option Int)
    (place : Machine τ × ε) :
    (Request.run fuel limit).serve surroundings place =
      left ((run surroundings fuel limit).run place) :=
  left_discard _ place

/-- A relation that rests keep to, and steps with the marks that they make where they begin. -/
structure Tracking (surroundings : Surroundings τ ε) (config : Config τ)
    (marks : Machine τ × ε → List β) (tracks : Machine τ × ε → List β → Machine τ × ε → Prop) :
    Prop where
  append : ∀ {first second third : Machine τ × ε} {made more : List β},
    tracks first made second → tracks second more third → tracks first (made ++ more) third
  rest : ∀ {before after : Machine τ × ε}, Resting surroundings before after →
    tracks before [] after
  step : ∀ {place : Machine τ × ε}, place.1.Sound config →
    tracks place (marks place) (left ((step surroundings).run place))

namespace Tracking

variable {marks : Machine τ × ε → List β} {tracks : Machine τ × ε → List β → Machine τ × ε → Prop}
  {first second third place : Machine τ × ε} {made : List β}

theorem after (tracking : Tracking surroundings config marks tracks)
    (resting : Resting surroundings first second) (later : tracks second made third) :
    tracks first made third :=
  tracking.append (tracking.rest resting) later

theorem before (tracking : Tracking surroundings config marks tracks)
    (earlier : tracks first made second) (resting : Resting surroundings second third) :
    tracks first made third := by
  rw [← List.append_nil made]
  exact tracking.append earlier (tracking.rest resting)

theorem turn (tracking : Tracking surroundings config marks tracks) (sound : place.1.Sound config) :
    tracks place ((turnOnsets surroundings place).flatMap marks)
      (left ((turn surroundings).run place)) := by
  have clocked := idles_clock surroundings place
  rw [run_turn, turnOnsets]
  cases read : (demand surroundings.clock).run place with
  | error error reached =>
    rw [read] at clocked
    exact tracking.rest clocked
  | ok cycleStart reached =>
    replace clocked : Resting surroundings place reached := by rwa [read] at clocked
    have stepped := tracking.after clocked (tracking.step (sound.rested clocked.1))
    simp only [List.flatMap_singleton]
    cases outcome : (Machine.step surroundings).run reached with
    | error error after =>
      rw [outcome] at stepped
      exact stepped
    | ok entry after =>
      rw [outcome] at stepped
      simp only
      split
      · exact tracking.before stepped (idles_pace surroundings cycleStart after)
      · exact stepped

theorem cycles (tracking : Tracking surroundings config marks tracks) (fuel : Nat)
    (remaining : Option Nat) (sound : place.1.Sound config) :
    tracks place ((cyclesOnsets surroundings fuel remaining place).flatMap marks)
      (left ((cycles surroundings fuel remaining).run place)) := by
  induction fuel generalizing remaining place with
  | zero =>
    rw [run_cycles_zero]
    exact tracking.rest (Std.Refl.refl _)
  | succ fuel ih =>
    rw [run_cycles_succ, cyclesOnsets]
    by_cases more : goesOn place.1 remaining
    · rw [if_pos more, if_pos more]
      have turned := tracking.turn sound
      have kept := keeps_turn surroundings place sound
      cases outcome : (Machine.turn surroundings).run place with
      | error error next =>
        rw [outcome] at turned
        simp only [List.append_nil]
        exact turned
      | ok _ next =>
        rw [outcome] at turned kept
        rw [List.flatMap_append]
        exact tracking.append turned (ih _ kept)
    · rw [if_neg more, if_neg more]
      exact tracking.rest (Std.Refl.refl _)

theorem run (tracking : Tracking surroundings config marks tracks) (fuel : Nat) (limit : Option Int)
    (sound : place.1.Sound config) :
    tracks place (((Request.run fuel limit).onsets surroundings place).flatMap marks)
      (left ((run surroundings fuel limit).run place)) := by
  have begun := idles_beginRun surroundings place
  rw [run_run, Request.onsets]
  cases outcome : (beginRun surroundings).run place with
  | error error reached =>
    rw [outcome] at begun
    exact tracking.rest begun
  | ok _ reached =>
    replace begun : Resting surroundings place reached := by rwa [outcome] at begun
    have played := tracking.after begun
      (tracking.cycles fuel (allowance reached.1 limit) (sound.rested begun.1))
    simp only
    cases finished : (Machine.cycles surroundings fuel (allowance reached.1 limit)).run reached with
    | error error ended =>
      rw [finished] at played
      exact played
    | ok through ended =>
      rw [finished] at played
      cases through with
      | false => exact played
      | true => exact tracking.before played ⟨⟨rfl, rfl, rfl, .inl rfl⟩, .same _⟩

theorem request (tracking : Tracking surroundings config marks tracks)
    (sound : place.1.Sound config)
    {request : Request} (plays : ∀ program, request ≠ .load program) :
    tracks place ((request.onsets surroundings place).flatMap marks)
      (request.serve surroundings place) := by
  cases request with
  | load program => exact absurd rfl (plays program)
  | start => exact tracking.rest (idles_start surroundings place)
  | stop => exact tracking.rest (idles_stop place)
  | step =>
    rw [serve_step, Request.onsets, List.flatMap_singleton]
    exact tracking.step sound
  | run fuel limit =>
    rw [serve_run]
    exact tracking.run fuel limit sound

/-- Requests after a program is loaded keep to the relation, with the marks of their onsets. -/
theorem serve (tracking : Tracking surroundings config marks tracks) {requests : List Request}
    (plays : ∀ request ∈ requests, ∀ program, request ≠ .load program)
    (sound : place.1.Sound config) :
    tracks place ((onsets surroundings requests place).flatMap marks)
      (Machine.serve surroundings requests place) := by
  induction requests generalizing place with
  | nil => exact tracking.rest (Std.Refl.refl _)
  | cons request requests ih =>
    obtain ⟨first, others⟩ := List.forall_mem_cons.mp plays
    have played := tracking.request sound first
    have kept := keeps_call surroundings request place sound
    rw [onsets, List.flatMap_append]
    exact tracking.append played (ih others kept)

end Tracking

theorem sound_serve (surroundings : Surroundings τ ε) (requests : List Request)
    {place : Machine τ × ε} (sound : place.1.Sound config) :
    (serve surroundings requests place).1.Sound config := by
  induction requests generalizing place with
  | nil => exact sound
  | cons request requests ih => exact ih (keeps_call surroundings request place sound)

theorem Request.sound_onsets (surroundings : Surroundings τ ε) (request : Request)
    {place : Machine τ × ε} (sound : place.1.Sound config) :
    ∀ here ∈ request.onsets surroundings place, here.1.Sound config := by
  have tracking : Tracking surroundings config (fun here => [here]) fun _ places _ =>
      ∀ here ∈ places, here.1.Sound config :=
    { append := fun first second => List.forall_mem_append.mpr ⟨first, second⟩
      rest := fun _ => by simp
      step := fun sound => List.forall_mem_singleton.mpr sound }
  by_cases loads : ∃ program, request = .load program
  · obtain ⟨program, rfl⟩ := loads
    simp [Request.onsets]
  · have played := tracking.request sound fun program same => loads ⟨program, same⟩
    rwa [List.flatMap_singleton'] at played

theorem sound_onsets (surroundings : Surroundings τ ε) (requests : List Request)
    {place : Machine τ × ε} (sound : place.1.Sound config) :
    ∀ here ∈ onsets surroundings requests place, here.1.Sound config := by
  induction requests generalizing place with
  | nil => simp [onsets]
  | cons request requests ih =>
    rw [onsets]
    exact List.forall_mem_append.mpr ⟨request.sound_onsets surroundings sound,
      ih (keeps_call surroundings request place sound)⟩

/-- Requests after the program is loaded are one course, whose records are their log. -/
theorem course_log (quiet : surroundings.Quiet) (shared : config.timerRate = none)
    {requests : List Request} (plays : ∀ request ∈ requests, ∀ program, request ≠ .load program)
    {place : Machine τ × ε} (sound : place.1.Sound config) :
    Course surroundings place (log surroundings requests place)
      (serve surroundings requests place) := by
  have tracking : Tracking surroundings config (stepLog surroundings) (Course surroundings) :=
    ⟨Course.trans, Course.of_resting, course_step quiet shared⟩
  rw [log_eq]
  exact tracking.serve plays sound

end Machine

end ChipEight
