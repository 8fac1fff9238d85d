import ChipEight.Proofs.Course

namespace ChipEight.Machine

variable {τ ε α : Type} {machine : Machine τ} {state : State} {surroundings : Surroundings τ ε}

/-- The timers count from the reading that they have. -/
def Awake (machine : Machine τ) : Prop :=
  machine.clockPaused = false

theorem awake_update {change : Machine τ → Machine τ}
    (kept : ∀ machine, (change machine).clockPaused = machine.clockPaused) :
    Keeps Awake (update change : Call τ ε Unit) :=
  keeps_update fun machine awake => (kept machine).trans awake

theorem awake_onState (action : Action α) : Keeps Awake (onState action : Call τ ε α) := by
  intro ⟨machine, world⟩ awake
  cases present : machine.state with
  | none =>
    simp only [onState, EStateM.run_bind, EStateM.run_get, present, run_throw]
    exact awake
  | some state =>
    rw [run_onState action world present]
    cases action.run state <;> exact awake

theorem awake_halt (surroundings : Surroundings τ ε) (state : State) :
    Keeps Awake (halt surroundings state) := by
  refine Leads.bind (awake_update ?_) fun _ => (keeps_tell _ _).bind fun _ => ?_
  · exact fun _ => rfl
  · refine Leads.bind (awake_update ?_) fun _ => Leads.pure _
    exact fun _ => rfl

theorem awake_fail (surroundings : Surroundings τ ε) (before : Snapshot) (word : Nat)
    (operation : Operation) (cause : Fault) :
    Keeps Awake (fail surroundings before word operation cause) := by
  refine (awake_onState _).bind fun _ => ?_
  refine Leads.bind (awake_update ?_) fun _ => (keeps_tell _ _).bind fun _ => ?_
  · exact fun _ => rfl
  · refine (awake_onState _).bind fun state => Leads.bind (awake_update ?_) fun _ => Leads.throw _
    exact fun _ => rfl

variable [TimeScale τ]

theorem awake_complete (surroundings : Surroundings τ ε) (before : Snapshot)
    (operation : Operation) (instruction : Instruction) :
    Keeps Awake (complete surroundings before operation instruction) := by
  have updates : Keeps Awake (updateTimers surroundings) :=
    leads_updateTimers (keeps_demand _) (fun _ _ => awake_update fun _ => rfl) fun _ =>
      awake_onState _
  have presents : Keeps Awake (Machine.present surroundings operation) :=
    leads_present operation keeps_look (fun _ => keeps_ask _) (awake_update fun _ => rfl)
  exact leads_complete before operation instruction keeps_look (keeps_tell surroundings) updates
    presents fun _ => awake_update fun _ => rfl

theorem awake_fetchAndExecute (surroundings : Surroundings τ ε) :
    Keeps Awake (fetchAndExecute surroundings) := by
  refine (keeps_ask _).bind fun keys => ?_
  refine (awake_onState _).bind fun _ => ?_
  refine (awake_onState _).bind fun state => ?_
  cases state.memory.readWord state.pc with
  | error fault => exact Leads.throw _
  | ok word =>
    refine (awake_onState _).bind fun _ => ?_
    refine leads_read.bind fun machine => ?_
    cases decode machine.config.strict word with
    | error fault => exact awake_fail surroundings _ _ _ _
    | ok decoded =>
      refine (awake_onState _).bind fun outcome => ?_
      cases outcome with
      | ok _ => exact awake_complete surroundings _ _ _
      | error error =>
        cases error with
        | fault cause => exact awake_fail surroundings _ _ _ _
        | _ => exact Leads.throw _

theorem awake_resumeClock (surroundings : Surroundings τ ε) :
    Keeps Awake (resumeClock surroundings) :=
  (keeps_demand _).bind fun _ => keeps_update fun _ _ => rfl

theorem awake_wake (surroundings : Surroundings τ ε) : Keeps Awake (wake surroundings) :=
  leads_wake (leads_start (fun _ _ _ awake => awake) (awake_resumeClock surroundings))
    (awake_resumeClock surroundings)

theorem awake_step (surroundings : Surroundings τ ε) : Keeps Awake (step surroundings) := by
  refine leads_step (awake_wake surroundings) ?_
  intro machine state world present running awake still
  rw [run_step_ready surroundings world present running awake]
  split
  · exact awake_halt surroundings state (machine, world) still
  · exact awake_fetchAndExecute surroundings (machine, world) still

theorem awake_turn (surroundings : Surroundings τ ε) : Keeps Awake (turn surroundings) :=
  leads_turn (keeps_demand _) (awake_step surroundings) fun cycleStart =>
    leads_pace cycleStart (keeps_demand _) (fun _ => keeps_demand _) (awake_update fun _ => rfl)

/-- A run that ends has paused the clock exactly where it returned, but for one that could not even
read the clock before its cycles, which leaves it paused if it was. -/
theorem clockPaused_run {fuel : Nat} {limit : Option Int} {world : ε}
    (present : machine.state = some state)
    (through : ∀ place, (run surroundings fuel limit).run (machine, world) ≠ .ok none place) :
    (left ((run surroundings fuel limit).run (machine, world))).1.clockPaused = true ↔
      (∃ entries place, (run surroundings fuel limit).run (machine, world) = .ok entries place) ∨
        machine.clockPaused = true ∧ ∃ error, (surroundings.clock world).1 = .error error := by
  rw [run_run, run_beginRun_resume surroundings world present, run_resumeClock] at through ⊢
  cases answered : (surroundings.clock world).1 with
  | error error => simp [left]
  | ok now =>
    simp only [answered] at through ⊢
    generalize begins : ({ machine with
      stopping := false
      status := if machine.status = .loaded then .running else machine.status
      timerBase := now
      timerDebt := TimeScale.zero
      clockPaused := false } : Machine τ) = begun at through ⊢
    have awake : begun.Awake := by rw [← begins]; rfl
    -- The clock was read, and no cycle pauses it: only the end of the run itself can.
    have still := leads_cycles (awake_turn surroundings) fuel (allowance begun limit)
      (begun, (surroundings.clock world).2) awake
    cases outcome : (cycles surroundings fuel (allowance begun limit)).run
        (begun, (surroundings.clock world).2) with
    | error error place =>
      rw [outcome] at still
      have unpaused : place.1.clockPaused = false := still
      simp [left, unpaused]
    | ok finished place =>
      cases finished with
      | false =>
        rw [outcome] at through
        exact absurd rfl (through place)
      | true => simp [left]

theorem serve_idle (surroundings : Surroundings τ ε) (world : ε)
    (running : machine.status = .running) {requests : List Request}
    (idle : ∀ request ∈ requests, request = .start ∨ request = .stop) :
    ∃ stopping, serve surroundings requests (machine, world) =
      ({ machine with stopping }, world) := by
  induction requests generalizing machine with
  | nil => exact ⟨machine.stopping, rfl⟩
  | cons request requests ih =>
    obtain ⟨first, others⟩ := List.forall_mem_cons.mp idle
    rcases first with rfl | rfl
    · have started : Request.start.serve surroundings (machine, world) = (machine, world) := by
        rw [Request.serve, Request.call, run_start, if_pos running]
        rfl
      obtain ⟨stopping, served⟩ := ih running others
      exact ⟨stopping, by rw [serve, List.foldl_cons, started]; exact served⟩
    · have going : ({ machine with stopping := true } : Machine τ).status = .running := running
      exact ih going others

/-- A running machine whose timers count from a reading, with nothing left over from before. -/
def resumed (now : τ) (machine : Machine τ) : Machine τ :=
  { machine with timerBase := now, timerDebt := TimeScale.zero, clockPaused := false }

/-- What a step comes to once the machine is awake. -/
def fetchOrHalt (surroundings : Surroundings τ ε) (state : State) : Call τ ε TraceEntry :=
  if state.AtEnd then halt surroundings state else fetchAndExecute surroundings

theorem run_step_running (surroundings : Surroundings τ ε) (world : ε)
    (present : machine.state = some state) (running : machine.status = .running) :
    (step surroundings).run (machine, world) =
      if machine.clockPaused then
        match (surroundings.clock world).1 with
        | .ok now =>
          (fetchOrHalt surroundings state).run (machine.resumed now, (surroundings.clock world).2)
        | .error error => .error error (machine, (surroundings.clock world).2)
      else (fetchOrHalt surroundings state).run (machine, world) := by
  have ready (awake : Machine τ) (world : ε) (present : awake.state = some state)
      (running : awake.status = .running) (read : awake.clockPaused = false) :
      (step surroundings).run (awake, world) =
        (fetchOrHalt surroundings state).run (awake, world) := by
    rw [run_step_ready surroundings world present running read]
    by_cases atEnd : state.AtEnd
    · rw [fetchOrHalt, if_pos atEnd]
      exact if_pos atEnd
    · rw [fetchOrHalt, if_neg atEnd]
      exact if_neg atEnd
  have started : machine.status ≠ .loaded := by rw [running]; decide
  cases paused : machine.clockPaused with
  | false => exact ready machine world present running paused
  | true =>
    rw [run_step_wake surroundings world present, EStateM.run_bind, run_wake, if_neg started,
      if_pos running, paused, if_pos rfl, run_resumeClock]
    cases (surroundings.clock world).1 with
    | error error => rfl
    | ok now => exact ready (machine.resumed now) _ present running rfl

theorem run_beginRun_running (surroundings : Surroundings τ ε) (world : ε)
    (present : machine.state = some state) (running : machine.status = .running) :
    (beginRun surroundings).run (machine, world) =
      match (surroundings.clock world).1 with
      | .ok now =>
        .ok () (resumed now { machine with stopping := false }, (surroundings.clock world).2)
      | .error error =>
        .error error ({ machine with stopping := false }, (surroundings.clock world).2) := by
  rw [run_beginRun_resume surroundings world present, run_resumeClock, running]
  rfl

/-- A run that returns leaves the clock paused; one that an error breaks off does not, once it has
read the clock. The next step counts the time since then where the clock is not paused, a run never
does. -/
theorem clock_after_run {config : Config τ} (reachable : Reachable config machine)
    (surroundings : Surroundings τ ε) (world : ε) (fuel : Nat) (limit : Option Int)
    (through : ∀ place, (run surroundings fuel limit).run (machine, world) ≠ .ok none place)
    (running : (left ((run surroundings fuel limit).run (machine, world))).1.status = .running) :
    let result := (run surroundings fuel limit).run (machine, world)
    let ended := (left result).1
    (ended.clockPaused = true ↔
      (∃ entries place, result = .ok entries place) ∨
        machine.clockPaused = true ∧ ∃ error, (surroundings.clock world).1 = .error error) ∧
    ∀ {ε' : Type} (surroundings' : Surroundings τ ε') (world' : ε') (requests : List Request),
      (∀ request ∈ requests, request = .start ∨ request = .stop) →
      ∃ found stopping,
        ended.state = some found ∧
        serve surroundings' requests (ended, world') = ({ ended with stopping }, world') ∧
        (beginRun surroundings').run ({ ended with stopping }, world') =
          (match (surroundings'.clock world').1 with
          | .ok now =>
            .ok () (resumed now { ended with stopping := false }, (surroundings'.clock world').2)
          | .error error =>
            .error error ({ ended with stopping := false }, (surroundings'.clock world').2)) ∧
        (step surroundings').run ({ ended with stopping }, world') =
          if ended.clockPaused then
            match (surroundings'.clock world').1 with
            | .ok now =>
              (fetchOrHalt surroundings' found).run
                (resumed now { ended with stopping }, (surroundings'.clock world').2)
            | .error error => .error error ({ ended with stopping }, (surroundings'.clock world').2)
          else (fetchOrHalt surroundings' found).run ({ ended with stopping }, world') := by
  intro result ended
  have sound : ended.Sound config :=
    keeps_run surroundings fuel limit (machine, world) reachable.sound
  obtain ⟨found, present⟩ := sound.present (by rw [running]; decide)
  constructor
  · cases loaded : machine.state with
    | none =>
      have blank : result = .error .notLoaded (machine, world) := by
        have missing : machine.state.isNone = true := by rw [loaded]; rfl
        simp only [result, run_run, beginRun, EStateM.run_bind, run_read, missing, if_true,
          run_throw]
      have same : ended = machine := by rw [show ended = (left result).1 from rfl, blank]; rfl
      rw [same, loaded] at present
      cases present
    | some state => exact clockPaused_run loaded through
  · intro ε' surroundings' world' requests idle
    obtain ⟨stopping, served⟩ := serve_idle surroundings' world' running idle
    have running : ({ ended with stopping } : Machine τ).status = .running := running
    exact ⟨found, stopping, present, served,
      run_beginRun_running surroundings' world' present running,
      run_step_running surroundings' world' present running⟩

/-- A run that is broken off by a poll of fifteen keys leaves the clock as it is, and the minute
before the next step takes the delay timer down with it. -/
theorem clock_after_run_broken :
    let script (poll : Nat) : List Bool := List.replicate (if poll = 2 then 15 else 16) false
    let clocked (time : Rat) : Surroundings Rat Nat :=
      { Surroundings.scripted script with clock := fun polls => (.ok time, polls) }
    let config : Config Rat :=
      { (.standard : Config Rat) with rate := some 0, timerRate := some 64 }
    let loaded := (Request.load [0x60, 0x0A, 0xF0, 0x15, 0x12, 0x04]).serve (clocked 0)
      (Machine.idle config, 0)
    let place := (Request.run 2 (some 2)).serve (clocked 0) loaded
    let ended := left ((run (clocked 0) 1 (some 1)).run place)
    raised ((run (clocked 0) 1 (some 1)).run place) = some (.keyCount 15) ∧
      ended.1.status = .running ∧ ended.1.clockPaused = false ∧
      ended.1.state.map State.delayTimer = some 10 ∧
      (left ((step (clocked 60)).run ended)).1.state.map State.delayTimer = some 0 := by
  intro script clocked config loaded place ended
  have ready : Reachable config loaded.1 := .served (clocked 0) 0 (.load _) (.created rfl rfl)
  have reachable : Reachable config place.1 := .served (clocked 0) loaded.2 (.run 2 (some 2)) ready
  have running : ended.1.status = .running := by decide +kernel
  have broken : raised ((run (clocked 0) 1 (some 1)).run place) = some (.keyCount 15) := by
    decide +kernel
  have unanswered (answer : Option (List TraceEntry)) (reached : Machine Rat × Nat) :
      (run (clocked 0) 1 (some 1)).run place ≠ .ok answer reached := by
    obtain ⟨after, failed⟩ := raised_eq_some broken
    simp [failed]
  obtain ⟨paused, _⟩ :=
    clock_after_run reachable (clocked 0) place.2 1 (some 1) (unanswered none) running
  refine ⟨broken, running, ?_, by decide +kernel, by decide +kernel⟩
  rw [Bool.eq_false_iff, ne_eq, paused]
  rintro (⟨entries, reached, answered⟩ | ⟨_, error, failed⟩)
  · exact unanswered entries reached answered
  · cases failed

end ChipEight.Machine
