import ChipEight.Proofs.Runs
import Mathlib.Logic.Function.Iterate

/-! Schedules: however the cycles of a machine are asked for, by steps, by runs, or by runs that are
cut short, they are the cycles that a script of key polls determines. -/

namespace ChipEight

section Cycles

variable {α : Type} {status : α → Status} {cycle : α → α} {start : α}

/-- One more cycle of what has a status, if it is running. -/
def whileRunning (status : α → Status) (cycle : α → α) (start : α) : α :=
  if status start = .running then cycle start else start

theorem whileRunning_eq (running : status start = .running) :
    whileRunning status cycle start = cycle start :=
  if_pos running

theorem iterate_ended (ended : status start ≠ .running) (cycles : Nat) :
    (whileRunning status cycle)^[cycles] start = start := by
  have still : whileRunning status cycle start = start := if_neg ended
  exact Function.iterate_fixed still cycles

theorem iterate_beyond {cycles more : Nat}
    (ended : status ((whileRunning status cycle)^[cycles] start) ≠ .running)
    (further : cycles ≤ more) :
    (whileRunning status cycle)^[more] start = (whileRunning status cycle)^[cycles] start := by
  obtain ⟨extra, rfl⟩ := Nat.exists_eq_add_of_le' further
  rw [Function.iterate_add_apply, iterate_ended ended]

end Cycles

namespace Surroundings

variable {τ ε : Type} {surroundings : Surroundings τ ε} {count : ε → Nat}
  {script : Nat → List Bool}

/-- The keys are read from a script of polls of any length, in which only polls move on. `count`
tells how many polls a world has seen. -/
structure Counted (surroundings : Surroundings τ ε) (count : ε → Nat)
    (script : Nat → List Bool) : Prop extends surroundings.Keeps count where
  poll : ∀ world, (surroundings.poll world).1 = script (count world)
  polled : ∀ world, count (surroundings.poll world).2 = count world + 1
  rendered : ∀ rows world, count (surroundings.render rows world).2 = count world

/-- The script has sixteen keys in each of its polls, and no frame is broken off. -/
structure Scripted (surroundings : Surroundings τ ε) (count : ε → Nat)
    (script : Nat → List Bool) : Prop extends surroundings.Counted count script where
  keys : ∀ place, (script place).length = 16
  frames : ∀ rows world, (surroundings.render rows world).1.interrupt = false

theorem counted_scripted [TimeScale τ] (script : Nat → List Bool) :
    (scripted script : Surroundings τ Nat).Counted id script where
  clock _ := rfl
  waited _ _ := rfl
  noted _ _ := rfl
  poll _ := rfl
  polled _ := rfl
  rendered _ _ := rfl

theorem Scripted.quiet (scripted : surroundings.Scripted count script) : surroundings.Quiet where
  keys world := by rw [scripted.poll, scripted.keys]
  frames := scripted.frames

end Surroundings

/-- How far a machine has come on a script: its entries, and how many polls it has read. -/
structure Progress where
  status : Status
  state : State
  entries : List TraceEntry
  polls : Nat

namespace Progress

/-- One more cycle, if there is one. -/
abbrev next (strict : Bool) (script : Nat → List Bool) : Progress → Progress :=
  whileRunning status fun progress =>
    let outcome := progress.state.cycle strict (script progress.polls)
    { status := outcome.status
      state := outcome.state
      entries := progress.entries ++ [outcome.entry]
      polls := if progress.state.AtEnd then progress.polls else progress.polls + 1 }

end Progress

namespace Machine

variable {τ ε : Type} {config : Config τ} {machine : Machine τ} {state : State}
  {surroundings : Surroundings τ ε} {count : ε → Nat} {script : Nat → List Bool}

/-- The progress of a machine that has a state, before its cycles. -/
def progress (machine : Machine τ) (state : State) (polls : Nat) : Progress where
  status := if machine.status = .loaded then .running else machine.status
  state := state
  entries := []
  polls := polls

/-- A place shows some progress: its machine has that state and status, its trace took up those
entries, and its world has seen that many polls. -/
structure Shows (count : ε → Nat) (trace : Trace) (progress : Progress)
    (records : List Record) (place : Machine τ × ε) : Prop where
  state : place.1.state = some progress.state
  started : progress.status ≠ .loaded
  status : place.1.status = progress.status ∨
    place.1.status = .loaded ∧ progress.status = .running ∧ records = []
  entries : records.map Record.entry = progress.entries
  trace : place.1.trace = progress.entries.foldl Trace.push trace
  polls : count place.2 = progress.polls

/-- The world that a cycle leaves has seen one more poll, unless there was nothing to fetch. -/
theorem count_settle (counted : surroundings.Counted count script) (machine : Machine τ)
    (state : State) (world : ε) :
    count (settle surroundings machine state world).2 =
      if state.AtEnd then count world else count world + 1 := by
  simp only [settle]
  split
  · rw [counted.noted]
  · split
    · rw [Surroundings.view_frame counted.rendered, Surroundings.view_remark counted.noted,
        counted.polled]
    · rw [counted.noted, counted.polled]

theorem shows_progress (count : ε → Nat) {place : Machine τ × ε}
    (present : place.1.state = some state) :
    Shows count place.1.trace (place.1.progress state (count place.2)) [] place where
  state := present
  started := by
    simp only [progress]
    split
    · decide
    · exact ‹_›
  status := by
    by_cases loaded : place.1.status = .loaded
    · exact .inr ⟨loaded, if_pos loaded, rfl⟩
    · exact .inl (if_neg loaded).symm
  entries := rfl
  trace := rfl
  polls := rfl

theorem Shows.rest (scripted : surroundings.Scripted count script) {trace : Trace}
    {progress : Progress} {records : List Record} {place rested : Machine τ × ε}
    (shows' : Shows count trace progress records place)
    (resting : Resting surroundings place rested) : Shows count trace progress records rested where
  state := resting.1.state.trans shows'.state
  started := shows'.started
  status := by
    rcases resting.1.status with same | ⟨loaded, running⟩
    · rw [same]
      exact shows'.status
    · rcases shows'.status with same | ⟨_, ran, _⟩
      · exact absurd (same.symm.trans loaded) shows'.started
      · exact .inl (running.trans ran.symm)
  entries := shows'.entries
  trace := resting.1.trace.trans shows'.trace
  polls := (scripted.passes resting.2).trans shows'.polls

theorem Shows.cycle (scripted : surroundings.Scripted count script) {trace : Trace}
    {progress : Progress} {records : List Record} {world : ε}
    (shows' : Shows count trace progress records (machine, world))
    (present : machine.state = some state) (running : machine.status = .running) :
    Shows count trace (progress.next machine.config.strict script)
      (records ++
        [⟨state, (state.cycle machine.config.strict (surroundings.poll world).1).entry⟩])
      (settle surroundings machine state world) := by
  obtain ⟨stopping, settled⟩ := settle_machine surroundings machine state world
  obtain rfl : state = progress.state := Option.some.inj (present.symm.trans shows'.state)
  have ran : progress.status = .running := by
    rcases shows'.status with same | ⟨_, ran, _⟩
    · exact same.symm.trans running
    · exact ran
  have keys : (surroundings.poll world).1 = script progress.polls := by
    rw [scripted.poll, shows'.polls]
  rw [keys] at settled ⊢
  have advanced : progress.next machine.config.strict script =
      { status := (progress.state.cycle machine.config.strict (script progress.polls)).status
        state := (progress.state.cycle machine.config.strict (script progress.polls)).state
        entries := progress.entries ++
          [(progress.state.cycle machine.config.strict (script progress.polls)).entry]
        polls := if progress.state.AtEnd then progress.polls else progress.polls + 1 } :=
    whileRunning_eq ran
  rw [advanced]
  exact
    { state := congrArg Machine.state settled
      started := State.started_cycle _ _ _
      status := .inl (congrArg Machine.status settled)
      entries := by simp [shows'.entries]
      trace := by
        rw [congrArg Machine.trace settled, List.foldl_append, ← shows'.trace]
        rfl
      polls := by rw [count_settle scripted.toCounted, shows'.polls] }

theorem Course.settings {start place : Machine τ × ε} {records : List Record}
    (course : Course surroundings start records place) : place.1.config = start.1.config := by
  induction course with
  | start => rfl
  | rest _ resting ih => exact resting.1.config.trans ih
  | @cycle _ machine world state _ _ _ ih =>
    obtain ⟨stopping, settled⟩ := settle_machine surroundings machine state world
    exact (congrArg Machine.config settled).trans ih

/-- The course of a machine on a script is the progress on that script. -/
theorem Course.shows (scripted : surroundings.Scripted count script) {start place : Machine τ × ε}
    {records : List Record} (course : Course surroundings start records place)
    (present : start.1.state = some state) :
    Shows count start.1.trace
      ((Progress.next start.1.config.strict script)^[records.length]
        (start.1.progress state (count start.2)))
      records place := by
  induction course with
  | start => exact shows_progress count present
  | rest _ resting ih => exact ih.rest scripted resting
  | cycle before found running ih =>
    rw [List.length_append, List.length_singleton, Function.iterate_succ_apply',
      ← before.settings]
    rw [← before.settings] at ih
    exact ih.cycle scripted found running

/-- A place that is reached in a number of cycles, or where the machine ended before that. -/
def ReachedIn (cycles : Nat) (records : List Record) (place : Machine τ × ε) : Prop :=
  records.length = cycles ∨ place.1.Ended ∧ records.length ≤ cycles

theorem Course.progress (scripted : surroundings.Scripted count script)
    {start place : Machine τ × ε} {records : List Record}
    (course : Course surroundings start records place) (present : start.1.state = some state)
    {cycles : Nat} (some : 1 ≤ cycles) (reached : ReachedIn cycles records place) :
    let progress :=
      (Progress.next start.1.config.strict script)^[cycles]
        (start.1.progress state (count start.2))
    place.1.state = .some progress.state ∧ place.1.status = progress.status ∧
      place.1.trace = progress.entries.foldl Trace.push start.1.trace ∧
      records.map Record.entry = progress.entries := by
  have shown := course.shows scripted present
  have status : place.1.status = ((Progress.next start.1.config.strict script)^[records.length]
      (start.1.progress state (count start.2))).status := by
    rcases shown.status with same | ⟨loaded, _, nothing⟩
    · exact same
    · rcases reached with all | ⟨ended, _⟩
      · rw [nothing] at all
        simp at all
        omega
      · exact absurd loaded ended.apart.1
  have far : (Progress.next start.1.config.strict script)^[cycles]
        (start.1.progress state (count start.2)) =
      (Progress.next start.1.config.strict script)^[records.length]
        (start.1.progress state (count start.2)) := by
    rcases reached with all | ⟨ended, before⟩
    · rw [all]
    · refine iterate_beyond ?_ before
      rw [← status]
      exact ended.apart.2
  intro progress
  rw [show progress = _ from far]
  exact ⟨shown.state, status, shown.trace, shown.entries⟩

theorem Course.ended {start place : Machine τ × ε} {records : List Record}
    (course : Course surroundings start records place) (ended : start.1.Ended) :
    records = [] ∧ place.1.state = start.1.state ∧ place.1.status = start.1.status ∧
      place.1.trace = start.1.trace := by
  induction course with
  | start => exact ⟨rfl, rfl, rfl, rfl⟩
  | @rest _ place _ _ resting ih =>
    obtain ⟨nothing, state, status, trace⟩ := ih
    have ended' : place.1.Ended := by rwa [Ended, status]
    exact ⟨nothing, resting.1.state.trans state, (resting.1.ended ended').1.trans status,
      resting.1.trace.trans trace⟩
  | cycle _ _ running ih =>
    exact absurd (ih.2.2.1.symm.trans running) ended.apart.2

theorem Course.busy {start place : Machine τ × ε} {records : List Record}
    (course : Course surroundings start records place) (busy : start.1.status ≠ .idle) :
    place.1.status ≠ .idle := by
  induction course with
  | start => exact busy
  | rest _ resting ih =>
    rcases resting.1.status with same | ⟨_, running⟩
    · rwa [same]
    · simp [running]
  | @cycle _ machine world state _ _ _ ih =>
    obtain ⟨stopping, settled⟩ := settle_machine surroundings machine state world
    rw [congrArg Machine.status settled]
    exact State.status_cycle _ _ _

variable [TimeScale τ]

theorem length_stepLog (reliable : surroundings.Reliable) (shared : config.timerRate = none)
    {place : Machine τ × ε} (sound : place.1.Sound config) (present : place.1.state = some state)
    (ready : place.1.status = .loaded ∨ place.1.status = .running) :
    (stepLog surroundings place).length = 1 := by
  obtain ⟨awake, world', woken, _⟩ := reliable.wake ready place.2
  rw [stepLog_eq reliable.toQuiet sound shared present, woken]
  rfl

theorem reachedIn_steps (reliable : surroundings.Reliable) (shared : config.timerRate = none)
    {place : Machine τ × ε} (sound : place.1.Sound config)
    (present : place.1.state = some state) (cycles : Nat) :
    ReachedIn cycles (log surroundings (List.replicate cycles .step) place)
      (serve surroundings (List.replicate cycles .step) place) := by
  induction cycles generalizing place state with
  | zero => exact .inl rfl
  | succ cycles ih =>
    have plays : ∀ request ∈ List.replicate (cycles + 1) Request.step,
        ∀ program, request ≠ .load program := by
      intro request member program
      rw [List.eq_of_mem_replicate member]
      simp
    have ready : place.1.Ended ∨ place.1.status = .loaded ∨ place.1.status = .running := by
      have busy := sound.busy present
      unfold Ended
      cases status : place.1.status <;> simp [status] at busy ⊢
    rcases ready with ended | ready
    · obtain ⟨nothing, _, status, _⟩ :=
        (course_log reliable.toQuiet shared plays sound).ended ended
      rw [nothing]
      exact .inr ⟨by rwa [Ended, status], Nat.zero_le _⟩
    · have one := length_stepLog reliable shared sound present ready
      have stepped := course_step reliable.toQuiet shared sound
      rw [← serve_step] at stepped
      have sound' := stepped.sound reliable.toQuiet sound
      obtain ⟨state', present'⟩ := sound'.present (stepped.busy (sound.busy present))
      have rest := ih sound' present'
      simp only [ReachedIn, List.replicate_succ, log, Request.log, List.length_append, one]
      rcases rest with all | ⟨ended, before⟩
      · exact .inl (by omega)
      · exact .inr ⟨ended, by omega⟩

/-- Requests that come to some cycles on a script leave the machine that as many steps leave. -/
theorem serve_eq_steps {ε' : Type} {surroundings' : Surroundings τ ε'} {count' : ε' → Nat}
    (scripted : surroundings.Scripted count script) (reliable : surroundings.Reliable)
    (scripted' : surroundings'.Scripted count' script) (shared : config.timerRate = none)
    (sound : machine.Sound config) (present : machine.state = some state) {world : ε}
    {world' : ε'} (together : count' world' = count world) {requests : List Request}
    (plays : ∀ request ∈ requests, ∀ program, request ≠ .load program) {cycles : Nat}
    (some : 1 ≤ cycles)
    (reached : ReachedIn cycles (log surroundings' requests (machine, world'))
      (serve surroundings' requests (machine, world'))) :
    let steps := List.replicate cycles .step
    let stepped := (serve surroundings steps (machine, world)).1
    let served := (serve surroundings' requests (machine, world')).1
    served.state = stepped.state ∧ served.status = stepped.status ∧
      served.trace = stepped.trace ∧
      (log surroundings' requests (machine, world')).map Record.entry =
        (log surroundings steps (machine, world)).map Record.entry := by
  intro steps stepped served
  have walks : ∀ request ∈ steps, ∀ program, request ≠ .load program := by
    intro request member program
    rw [List.eq_of_mem_replicate member]
    simp
  have served' : Course surroundings' (machine, world')
      (log surroundings' requests (machine, world'))
      (serve surroundings' requests (machine, world')) :=
    course_log scripted'.quiet shared plays sound
  have stepped' : Course surroundings (machine, world) (log surroundings steps (machine, world))
      (serve surroundings steps (machine, world)) :=
    course_log scripted.quiet shared walks sound
  have arrived : ReachedIn cycles (log surroundings steps (machine, world))
      (serve surroundings steps (machine, world)) :=
    reachedIn_steps reliable shared sound present cycles
  have there := served'.progress scripted' present some reached
  have here := stepped'.progress scripted present some arrived
  simp only [together] at there
  exact ⟨there.1.trans here.1.symm, there.2.1.trans here.2.1.symm,
    there.2.2.1.trans here.2.2.1.symm, there.2.2.2.trans here.2.2.2.symm⟩

/-- A run ends at its limit, in a halt, in a fault or after a stop, unless the length of its pauses
cannot be computed; and on a script of keys all schedules of a number of cycles leave the same
machine. -/
theorem runs_compose (reachable : Reachable config machine) (shared : config.timerRate = none)
    (present : machine.state = some state) (reliable : surroundings.Reliable) (world : ε) :
    (machine.status = .loaded ∨ machine.status = .running →
      ∀ (limit : Int) (fuel : Nat), limit.toNat ≤ fuel →
        RunEnd surroundings config state limit (fun kept => kept.isSome)
          ((run surroundings fuel (some limit)).run (machine, world)) ∧
        (Paceable surroundings config → ∀ error,
          (∃ reached, (run surroundings fuel (some limit)).run (machine, world) =
              .error error reached ∧ reached.1.status = .running) ↔
            1 ≤ limit ∧ ¬ state.AtEnd ∧ state.fault? config.strict = none ∧
              ∃ cause, config.cyclePeriod = .error cause ∧ error = .number cause)) ∧
    (∀ (place next : Machine τ × ε) (fuel : Nat) (remaining : Option Nat),
      place.1.Sound config → goesOn place.1 remaining = true →
      (turn surroundings).run place = .ok () next → ¬ next.1.Unstopped →
        (cycles surroundings (fuel + 1) remaining).run place = .ok true next ∧
          next.1.status = .running) ∧
    (∀ (limit : Option Int) (fuel : Nat) answer reached,
      (run surroundings fuel limit).run (machine, world) = .ok answer reached →
      ¬ reached.1.Unstopped →
        answer.isSome ∧ reached.1.status = .running ∧ ∀ more, fuel ≤ more →
          (run surroundings more limit).run (machine, world) = .ok answer reached) ∧
    (machine.Ended →
      (∀ (limit : Option Int) (fuel : Nat), ∃ reached,
        (run surroundings fuel limit).run (machine, world) =
          .ok (some machine.trace.entries) reached) ∧
      ∀ requests : List Request, (∀ request ∈ requests, ∀ program, request ≠ .load program) →
        let served := (serve surroundings requests (machine, world)).1
        log surroundings requests (machine, world) = [] ∧ served.state = machine.state ∧
          served.status = machine.status ∧ served.trace = machine.trace) ∧
    (∀ (count : ε → Nat) (script : Nat → List Bool), surroundings.Scripted count script →
      ∀ {ε' : Type} (surroundings' : Surroundings τ ε') (count' : ε' → Nat),
      surroundings'.Scripted count' script → ∀ world', count' world' = count world →
      ∀ requests : List Request, (∀ request ∈ requests, ∀ program, request ≠ .load program) →
      ∀ cycles, 1 ≤ cycles →
      ReachedIn cycles (log surroundings' requests (machine, world'))
        (serve surroundings' requests (machine, world')) →
      let steps := List.replicate cycles .step
      let stepped := (serve surroundings steps (machine, world)).1
      let served := (serve surroundings' requests (machine, world')).1
      served.state = stepped.state ∧ served.status = stepped.status ∧
        served.trace = stepped.trace ∧
        (log surroundings' requests (machine, world')).map Record.entry =
          (log surroundings steps (machine, world)).map Record.entry) := by
  have sound := reachable.sound
  refine ⟨fun ready limit fuel enough => ⟨?_, fun paceable error => ?_⟩, ?_, ?_, ?_, ?_⟩
  · exact run_end reliable shared sound present ready world limit enough
  · exact run_unpaced reliable paceable shared sound present ready world enough error
  · intro place next fuel remaining sound' more turned stopped
    exact cycles_stop reliable.toQuiet shared fuel sound' more turned stopped
  · intro limit fuel answer reached ended stopped
    exact run_stopped reliable shared sound present world ended stopped
  · intro ended
    refine ⟨fun limit fuel => run_ended reliable world present ended fuel limit,
      fun requests plays => ?_⟩
    exact (course_log reliable.toQuiet shared plays sound).ended ended
  · intro count script scripted ε' surroundings' count' scripted' world' together requests plays
      cycles some reached
    exact serve_eq_steps scripted reliable scripted' shared sound present together plays some
      reached

/-- At a rate too large for the computer's numbers a run of two cycles ends in an error after the
first. With another step after it, it leaves the machine that two steps leave. -/
theorem runs_compose_unpaced :
    let surroundings : Surroundings Quantity Nat := .scripted fun _ => Keypad.released.held
    let config : Config Quantity :=
      { Config.standard with rate := some (.whole (1 <<< 1024)) }
    let loaded :=
      (Request.load [0x70, 0x01, 0x12, 0x00]).serve surroundings (Machine.idle config, 0)
    (∃ cause reached, (run surroundings 2 (some 2)).run loaded = .error (.number cause) reached ∧
      reached.1.status = .running) ∧
    (serve surroundings [.run 2 (some 2), .step] loaded).1.state =
      (serve surroundings [.step, .step] loaded).1.state := by
  intro surroundings config loaded
  have reachable : Reachable config loaded.1 :=
    .served surroundings 0 (.load _) (.created rfl rfl)
  have reliable : surroundings.Reliable := Surroundings.reliable_scripted fun _ => rfl
  have scripted : surroundings.Scripted id fun _ => Keypad.released.held :=
    ⟨Surroundings.counted_scripted _, fun _ => rfl, fun _ _ => rfl⟩
  obtain ⟨cause, unpaced⟩ : ∃ cause, config.cyclePeriod = .error cause := by
    cases known : config.cyclePeriod with
    | ok period =>
      have refused : (config.cyclePeriod matches .error _) = true := by decide +kernel
      simp [known] at refused
    | error cause => exact ⟨cause, rfl⟩
  have paceable : Paceable surroundings config := by
    intro period known
    simp [unpaced] at known
  have present : loaded.1.state = some (State.ofProgram [0x70, 0x01, 0x12, 0x00]) := rfl
  have plays : ∀ request ∈ [Request.run 2 (some 2), .step], ∀ program, request ≠ .load program := by
    simp
  obtain ⟨ends, _, _, _, schedules⟩ := runs_compose reachable rfl present reliable loaded.2
  constructor
  · have inside : ¬ (State.ofProgram [0x70, 0x01, 0x12, 0x00]).AtEnd := by decide +kernel
    have granted : (State.ofProgram [0x70, 0x01, 0x12, 0x00]).fault? config.strict = none := by
      decide +kernel
    have failed := (ends (.inl rfl) 2 2 (by decide)).2 paceable (.number cause)
    exact ⟨cause, failed.mpr ⟨by decide, inside, granted, cause, unpaced, rfl⟩⟩
  · have reached : (log surroundings [.run 2 (some 2), .step] loaded).length = 2 := by
      decide +kernel
    exact (schedules id _ scripted surroundings id scripted loaded.2 rfl _ plays 2 (by decide)
      (.inl reached)).1

end Machine

end ChipEight
