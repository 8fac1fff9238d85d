import ChipEight.Proofs.Faults
import ChipEight.Proofs.Ledger

/-! How runs end: at their limit, at a halt, in a fault, or, where a pause between two cycles cannot
be made, in the error of that pause. A stop that is asked for ends a run after its cycle. -/

namespace ChipEight

namespace Machine

variable {τ ε α : Type} {config : Config τ} {machine : Machine τ} {state : State}
  {surroundings : Surroundings τ ε}

/-- No stop is asked for. -/
def Unstopped (machine : Machine τ) : Prop :=
  machine.stopping = false

theorem settle_stopped (surroundings : Surroundings τ ε) (state : State) (world : ε)
    (unstopped : machine.Unstopped)
    (stopped : ¬ (settle surroundings machine state world).1.Unstopped) :
    (settle surroundings machine state world).1.status = .running := by
  by_cases atEnd : state.AtEnd
  · simp only [settle, if_pos atEnd] at stopped
    exact absurd unstopped stopped
  · cases granted : state.fault? machine.config.strict with
    | none => simp only [settle, if_neg atEnd, granted, State.cycle]
    | some cause =>
      simp only [settle, if_neg atEnd, granted] at stopped
      exact absurd unstopped stopped

/-- The machine has come to a halt or a fault. -/
def Ended (machine : Machine τ) : Prop :=
  machine.status = .halted ∨ machine.status = .faulted

theorem Ended.apart (ended : machine.Ended) :
    machine.status ≠ .loaded ∧ machine.status ≠ .running := by
  rcases ended with halted | faulted
  · simp [halted]
  · simp [faulted]

theorem Ended.closed (ended : machine.Ended) (remaining : Option Nat) :
    goesOn machine remaining = false := by
  simp [goesOn, ended.apart.2]

theorem Rests.ended {rested : Machine τ} (rests : machine.Rests rested) (ended : machine.Ended) :
    rested.status = machine.status ∧ rested.Ended := by
  rcases rests.status with same | ⟨loaded, _⟩
  · exact ⟨same, by rwa [Ended, same]⟩
  · exact absurd loaded ended.apart.1

variable [TimeScale τ]

theorem unstopped_resumeClock (surroundings : Surroundings τ ε) :
    Keeps Unstopped (resumeClock surroundings) :=
  (keeps_demand _).bind fun _ => keeps_update fun _ unstopped => unstopped

theorem unstopped_wake (surroundings : Surroundings τ ε) :
    Keeps Unstopped (wake surroundings) :=
  leads_wake (leads_start (fun _ _ _ _ => rfl) (unstopped_resumeClock surroundings))
    (unstopped_resumeClock surroundings)

theorem step_stopped (quiet : surroundings.Quiet) (shared : config.timerRate = none)
    {place : Machine τ × ε} (sound : place.1.Sound config) (unstopped : place.1.Unstopped)
    (stopped : ¬ (left ((step surroundings).run place)).1.Unstopped) :
    (left ((step surroundings).run place)).1.status = .running := by
  obtain ⟨machine, world⟩ := place
  cases present : machine.state with
  | none =>
    rw [run_step_blank surroundings world present] at stopped
    exact absurd unstopped stopped
  | some state =>
    have woken := unstopped_wake surroundings (machine, world) unstopped
    rw [sound.step_quiet quiet shared world present] at stopped ⊢
    cases outcome : (wake surroundings).run (machine, world) with
    | error error rested =>
      rw [outcome] at woken stopped
      exact absurd woken stopped
    | ok _ awake =>
      rw [outcome] at woken stopped
      simp only [left_conclude] at stopped ⊢
      exact settle_stopped surroundings state _ woken stopped

/-- A stop that is asked for during a turn leaves the machine running, and no turn follows. -/
theorem turn_stopped (quiet : surroundings.Quiet) (shared : config.timerRate = none)
    {place next : Machine τ × ε} (sound : place.1.Sound config) {remaining : Option Nat}
    (more : goesOn place.1 remaining = true)
    (turned : (turn surroundings).run place = .ok () next) (stopped : ¬ next.1.Unstopped) :
    (∀ remaining, goesOn next.1 remaining = false) ∧ next.1.status = .running := by
  have stopping : next.1.stopping = true := Bool.not_eq_false _ ▸ stopped
  refine ⟨fun _ => by simp [goesOn, stopping], ?_⟩
  have unstopped : place.1.Unstopped := by
    simp only [goesOn, Bool.and_eq_true, Bool.not_eq_true'] at more
    exact more.1.2
  have clocked := idles_clock surroundings place
  have still : (left ((demand surroundings.clock).run place)).1.Unstopped :=
    keeps_demand surroundings.clock place unstopped
  rw [run_turn] at turned
  cases read : (demand surroundings.clock).run place with
  | error error reached => simp [read] at turned
  | ok cycleStart reached =>
    rw [read] at turned clocked still
    cases outcome : (step surroundings).run reached with
    | error error after => simp [outcome] at turned
    | ok entry after =>
      simp only [outcome] at turned
      split at turned
      · have rested := idles_pace surroundings cycleStart after
        rw [turned] at rested
        exact rested.1.running ‹_›
      · obtain rfl : after = next := by simpa using turned
        have ran := step_stopped quiet shared (sound.rested clocked.1) still
        rw [show (left (EStateM.Result.ok cycleStart reached)) = reached from rfl, outcome] at ran
        exact ran stopped

/-- How a run of up to `limit` cycles ends that begins in a state: at its limit, in a halt, in a
fault, after the cycle in which a stop was asked for, or where the pause after a cycle could not
be made. An answer that comes is one of a run that came to its end. -/
inductive RunEnd (surroundings : Surroundings τ ε) (config : Config τ) (state : State) (limit : Int)
    (finished : α → Prop) : EStateM.Result Error (Machine τ × ε) α → Prop where
  | limit {answer : α} {reached : Machine τ × ε} {after : State} (through : finished answer)
      (running : reached.1.status = .running) (present : reached.1.state = some after)
      (counted : after.cycles = state.cycles + max limit 0) :
      RunEnd surroundings config state limit finished (.ok answer reached)
  | halt {answer : α} {reached : Machine τ × ε} {after : State} (through : finished answer)
      (halted : reached.1.status = .halted) (present : reached.1.state = some after)
      (counted : after.cycles < state.cycles + limit) :
      RunEnd surroundings config state limit finished (.ok answer reached)
  | fault {word pc : Int} {cause : Fault} {reached : Machine τ × ε} {after : State}
      (faulted : reached.1.status = .faulted) (present : reached.1.state = some after)
      (counted : after.cycles < state.cycles + limit) :
      RunEnd surroundings config state limit finished
        (.error (.fault (.execution word pc cause)) reached)
  | stop {answer : α} {reached : Machine τ × ε} {after : State} (through : finished answer)
      (running : reached.1.status = .running) (stopped : ¬ reached.1.Unstopped)
      (present : reached.1.state = some after)
      (counted : state.cycles < after.cycles ∧ after.cycles ≤ state.cycles + limit) :
      RunEnd surroundings config state limit finished (.ok answer reached)
  | unpaced {error : Error} {reached place : Machine τ × ε} {after : State} {cycleStart : τ}
      (running : reached.1.status = .running) (present : reached.1.state = some after)
      (counted : state.cycles < after.cycles ∧ after.cycles ≤ state.cycles + limit)
      (settings : place.1.config = config)
      (refused : (pace surroundings cycleStart).run place = .error error reached) :
      RunEnd surroundings config state limit finished (.error error reached)

theorem run_turn_cycle (reliable : surroundings.Reliable) (shared : config.timerRate = none)
    {place : Machine τ × ε} (sound : place.1.Sound config) (present : place.1.state = some state)
    (running : place.1.status = .running) :
    ∃ cycleStart keys after,
      (turn surroundings).run place =
        (match state.error? config.strict with
        | some error => .error error after
        | none =>
          if after.1.status = .running then (pace surroundings cycleStart).run after
          else .ok () after) ∧
      after.1.config = config ∧ after.1.status = (state.cycle config.strict keys).status ∧
      after.1.state = some (state.cycle config.strict keys).state := by
  obtain ⟨machine, world⟩ := place
  have settings : machine.config = config := sound.settings
  obtain ⟨now, answered⟩ := reliable.clock world
  obtain ⟨awake, world', woken, rests⟩ :=
    reliable.wake (.inr running) (surroundings.clock world).2
  obtain ⟨stopping, settled⟩ := settle_machine surroundings awake state world'
  rw [rests.config, settings] at settled
  refine ⟨now, (surroundings.poll world').1, settle surroundings awake state world', ?_,
    congrArg Machine.config settled, congrArg Machine.status settled,
    congrArg Machine.state settled⟩
  rw [run_turn, run_demand, answered]
  simp only
  rw [Sound.step_quiet sound reliable.toQuiet shared _ present, woken]
  cases state.error? config.strict <;> rfl

theorem turn_end (reliable : surroundings.Reliable) (shared : config.timerRate = none)
    {place : Machine τ × ε} (sound : place.1.Sound config) (present : place.1.state = some state)
    (running : place.1.status = .running) :
    RunEnd surroundings config state 1 (fun _ => True) ((turn surroundings).run place) := by
  obtain ⟨cycleStart, keys, after, turned, settings, status, kept⟩ :=
    run_turn_cycle reliable shared sound present running
  rw [turned]
  rcases state.cycle_cases config.strict keys with
    ⟨atEnd, same⟩ | ⟨inside, granted, same⟩ | ⟨cause, inside, refused, same⟩
  · rw [same] at status kept
    have error := State.error?_atEnd config.strict atEnd
    simp only [error, status, reduceCtorEq, if_false]
    exact .halt trivial status kept (Int.lt_succ state.cycles)
  · rw [same] at status kept
    have error := State.error?_granted inside granted
    have counted : (state.completed keys).cycles = state.cycles + 1 := state.cycles_completed keys
    have kept : after.1.state = some (state.completed keys) := kept
    have rested := idles_pace surroundings cycleStart after
    simp only [error, status, if_true]
    cases paced : (pace surroundings cycleStart).run after with
    | ok _ next =>
      rw [paced] at rested
      exact .limit trivial (rested.1.running status) (rested.1.state.trans kept) counted
    | error error next =>
      rw [paced] at rested
      have within : state.cycles < (state.completed keys).cycles ∧
          (state.completed keys).cycles ≤ state.cycles + 1 := by omega
      exact .unpaced (rested.1.running status) (rested.1.state.trans kept) within settings paced
  · rw [same] at status kept
    have error := State.error?_refused inside refused
    have uncounted := state.cycles_failed keys
    simp only [error]
    exact .fault status kept (uncounted ▸ Int.lt_succ state.cycles)

theorem pace_unpaced (surroundings : Surroundings τ ε) (cycleStart : τ) {place : Machine τ × ε}
    {cause : NumberError} (unpaced : place.1.config.cyclePeriod = .error cause) :
    (pace surroundings cycleStart).run place = .error (.number cause) place := by
  obtain ⟨machine, world⟩ := place
  have unpaced : machine.config.cyclePeriod = .error cause := unpaced
  simp only [pace, EStateM.run_bind, run_read, unpaced, number, run_throw]

/-- A run of one cycle and a run of some more make one run. -/
theorem RunEnd.later {next : State} {count : Nat} {finished : α → Prop}
    {result : EStateM.Result Error (Machine τ × ε) α}
    (ends : RunEnd surroundings config next count finished result)
    (counted : next.cycles = state.cycles + 1) :
    RunEnd surroundings config state (count + 1 : Nat) finished result := by
  cases ends with
  | limit through running present reached =>
    exact .limit through running present (by omega)
  | halt through halted present reached => exact .halt through halted present (by omega)
  | fault faulted present reached => exact .fault faulted present (by omega)
  | stop through running stopped present reached =>
    exact .stop through running stopped present (by omega)
  | unpaced running present reached settings refused =>
    exact .unpaced running present (by omega) settings refused

theorem cycles_end (reliable : surroundings.Reliable) (shared : config.timerRate = none)
    {fuel count : Nat} (enough : count ≤ fuel) {place : Machine τ × ε}
    (sound : place.1.Sound config) (unstopped : place.1.Unstopped)
    (present : place.1.state = some state) (running : place.1.status = .running) :
    RunEnd surroundings config state count (· = true)
      ((cycles surroundings fuel (some count)).run place) := by
  induction fuel generalizing count place state with
  | zero =>
    obtain rfl : count = 0 := by omega
    rw [run_cycles_zero]
    exact .limit (by simp [goesOn]) running present (by omega)
  | succ fuel ih =>
    rw [run_cycles_succ]
    cases count with
    | zero =>
      rw [if_neg (by simp [goesOn])]
      exact .limit rfl running present (by omega)
    | succ count =>
      have more : goesOn place.1 (some (count + 1)) = true := by
        simp [goesOn, running, show place.1.stopping = false from unstopped]
      rw [if_pos more]
      have turned := turn_end reliable shared sound present running
      have kept := keeps_turn surroundings place sound
      cases outcome : (turn surroundings).run place with
      | error error next =>
        rw [outcome] at turned
        cases turned with
        | fault faulted present' counted => exact .fault faulted present' (by omega)
        | unpaced running' present' counted settings refused =>
          exact .unpaced running' present' (by omega) settings refused
      | ok _ next =>
        rw [outcome] at turned kept
        simp only [Option.map_some, Nat.add_sub_cancel]
        -- The rest of the run counts from the state of `next`, unless a stop is pending there.
        by_cases still : next.1.Unstopped
        · cases turned with
          | limit _ running' present' counted =>
            have rest := ih (show count ≤ fuel by omega) kept still present' running'
            exact rest.later (by omega)
          | halt _ halted present' counted =>
            have closed : goesOn next.1 (some count) = false := by simp [goesOn, halted]
            rw [run_cycles_over surroundings fuel closed]
            exact .halt rfl halted present' (by omega)
          | stop _ _ stopped => exact absurd still stopped
        · obtain ⟨closed, running'⟩ :=
            turn_stopped reliable.toQuiet shared sound more outcome still
          rw [run_cycles_over surroundings fuel (closed _)]
          cases turned with
          | limit _ _ present' counted => exact .stop rfl running' still present' (by omega)
          | halt _ halted => simp [running'] at halted
          | stop _ _ _ present' counted => exact .stop rfl running' still present' (by omega)

theorem run_beginRun (reliable : surroundings.Reliable) (world : ε)
    (present : machine.state = some state) :
    ∃ begun, (beginRun surroundings).run (machine, world) = .ok () begun ∧
      machine.Rests begun.1 ∧ begun.1.Unstopped ∧
      (machine.status = .loaded ∨ machine.status = .running → begun.1.status = .running) := by
  obtain ⟨now, answered⟩ := reliable.clock world
  have rested := idles_beginRun surroundings (machine, world)
  rw [run_beginRun_resume surroundings world present, run_resumeClock, answered] at rested ⊢
  refine ⟨_, rfl, rested.1, rfl, fun ready => ?_⟩
  rcases ready with loaded | running
  · exact if_pos loaded
  · simp only [running, reduceCtorEq, if_false]

theorem run_end (reliable : surroundings.Reliable) (shared : config.timerRate = none)
    (sound : machine.Sound config) (present : machine.state = some state)
    (ready : machine.status = .loaded ∨ machine.status = .running) (world : ε) (limit : Int)
    {fuel : Nat} (enough : limit.toNat ≤ fuel) :
    RunEnd surroundings config state limit (fun kept => kept.isSome)
      ((run surroundings fuel (some limit)).run (machine, world)) := by
  obtain ⟨begun, begins, rests, unstopped, started⟩ := run_beginRun reliable world present
  have running := started ready
  have present' : begun.1.state = some state := rests.state.trans present
  have allowed : allowance begun.1 (some limit) = some limit.toNat := rfl
  rw [run_run, begins]
  simp only [allowed]
  by_cases none : limit ≤ 0
  · have closed : goesOn begun.1 (some limit.toNat) = false := by
      simp [goesOn, show limit.toNat = 0 by omega]
    rw [run_cycles_over surroundings fuel closed]
    exact .limit rfl running present' (by omega)
  · have ends :=
      cycles_end reliable shared enough (sound.rested rests) unstopped present' running
    have exactly : (limit.toNat : Int) = limit := by omega
    rw [exactly] at ends
    cases outcome : (cycles surroundings fuel (some limit.toNat)).run begun with
    | error error ended =>
      rw [outcome] at ends
      cases ends with
      | fault faulted present counted => exact .fault faulted present counted
      | unpaced running present counted settings refused =>
        exact .unpaced running present counted settings refused
    | ok finished ended =>
      rw [outcome] at ends
      cases ends with
      | limit through running present counted =>
        rw [through]
        exact .limit rfl running present counted
      | halt through halted present counted =>
        rw [through]
        exact .halt rfl halted present counted
      | stop through running stopped present counted =>
        rw [through]
        exact .stop rfl running stopped present counted

theorem run_over (surroundings : Surroundings τ ε) (world : ε)
    (present : machine.state = some state) (ended : machine.Ended) (fuel : Nat)
    (limit : Option Int) :
    (run surroundings fuel limit).run (machine, world) =
      match (surroundings.clock world).1 with
      | .ok now =>
        .ok (some machine.trace.entries)
          ({ machine with
              stopping := false
              timerBase := now
              timerDebt := TimeScale.zero
              clockPaused := true },
            (surroundings.clock world).2)
      | .error error =>
        .error error ({ machine with stopping := false }, (surroundings.clock world).2) := by
  have begins := run_beginRun_resume surroundings world present
  rw [if_neg ended.apart.1, run_resumeClock] at begins
  rw [run_run, begins]
  cases (surroundings.clock world).1 with
  | error error => rfl
  | ok now =>
    have rested : ({ machine with
        stopping := false
        timerBase := now
        timerDebt := TimeScale.zero
        clockPaused := false } : Machine τ).Ended := ended
    simp only
    rw [run_cycles_over surroundings fuel (rested.closed _)]
    rfl

theorem run_ended (reliable : surroundings.Reliable) (world : ε)
    (present : machine.state = some state) (ended : machine.Ended) (fuel : Nat)
    (limit : Option Int) :
    ∃ reached, (run surroundings fuel limit).run (machine, world) =
      .ok (some machine.trace.entries) reached := by
  obtain ⟨now, answered⟩ := reliable.clock world
  rw [run_over surroundings world present ended, answered]
  exact ⟨_, rfl⟩

theorem cycles_more {fuel more : Nat} (further : fuel ≤ more) {remaining : Option Nat}
    {place next : Machine τ × ε}
    (through : (cycles surroundings fuel remaining).run place = .ok true next) :
    (cycles surroundings more remaining).run place = .ok true next := by
  induction fuel generalizing more remaining place with
  | zero =>
    rw [run_cycles_zero] at through
    simp only [EStateM.Result.ok.injEq, Bool.not_eq_true'] at through
    rw [run_cycles_over surroundings more through.1, through.2]
  | succ fuel ih =>
    obtain ⟨more, rfl⟩ : ∃ rest, more = rest + 1 := ⟨more - 1, by omega⟩
    rw [run_cycles_succ] at through ⊢
    split at through
    · rw [if_pos ‹_›]
      cases outcome : (turn surroundings).run place with
      | error error after => simp [outcome] at through
      | ok _ after =>
        simp only [outcome] at through ⊢
        exact ih (by omega) through
    · rw [if_neg ‹_›]
      exact through

theorem cycles_stop (quiet : surroundings.Quiet) (shared : config.timerRate = none) (fuel : Nat)
    {remaining : Option Nat} {place next : Machine τ × ε} (sound : place.1.Sound config)
    (more : goesOn place.1 remaining = true)
    (turned : (turn surroundings).run place = .ok () next) (stopped : ¬ next.1.Unstopped) :
    (cycles surroundings (fuel + 1) remaining).run place = .ok true next ∧
      next.1.status = .running := by
  obtain ⟨closed, running⟩ := turn_stopped quiet shared sound more turned stopped
  rw [run_cycles_succ, if_pos more, turned]
  exact ⟨run_cycles_over surroundings fuel (closed _), running⟩

theorem cycles_stopped (quiet : surroundings.Quiet) (shared : config.timerRate = none)
    {fuel : Nat} {remaining : Option Nat} {place next : Machine τ × ε} {finished : Bool}
    (sound : place.1.Sound config) (unstopped : place.1.Unstopped)
    (ended : (cycles surroundings fuel remaining).run place = .ok finished next)
    (stopped : ¬ next.1.Unstopped) : finished = true ∧ next.1.status = .running := by
  induction fuel generalizing remaining place with
  | zero =>
    rw [run_cycles_zero] at ended
    simp only [EStateM.Result.ok.injEq] at ended
    rw [← ended.2] at stopped
    exact absurd unstopped stopped
  | succ fuel ih =>
    rw [run_cycles_succ] at ended
    split at ended
    · rename_i more
      have kept := keeps_turn surroundings place sound
      cases outcome : (turn surroundings).run place with
      | error error after => simp [outcome] at ended
      | ok _ after =>
        rw [outcome] at kept
        simp only [outcome] at ended
        by_cases still : after.1.Unstopped
        · exact ih kept still ended
        · obtain ⟨closed, running⟩ := turn_stopped quiet shared sound more outcome still
          rw [run_cycles_over surroundings fuel (closed _)] at ended
          simp only [EStateM.Result.ok.injEq] at ended
          rw [← ended.1, ← ended.2]
          exact ⟨rfl, running⟩
    · simp only [EStateM.Result.ok.injEq] at ended
      rw [← ended.2] at stopped
      exact absurd unstopped stopped

/-- A run that leaves a stop pending has ended by that: the machine is running, and with any more
fuel it is the same run. -/
theorem run_stopped (reliable : surroundings.Reliable) (shared : config.timerRate = none)
    (sound : machine.Sound config) (present : machine.state = some state) (world : ε) {fuel : Nat}
    {limit : Option Int} {answer : Option (List TraceEntry)} {reached : Machine τ × ε}
    (ended : (run surroundings fuel limit).run (machine, world) = .ok answer reached)
    (stopped : ¬ reached.1.Unstopped) :
    answer.isSome ∧ reached.1.status = .running ∧
      ∀ more, fuel ≤ more →
        (run surroundings more limit).run (machine, world) = .ok answer reached := by
  obtain ⟨begun, begins, rests, unstopped, _⟩ := run_beginRun reliable world present
  simp only [run_run, begins] at ended ⊢
  cases outcome : (cycles surroundings fuel (allowance begun.1 limit)).run begun with
  | error error after => simp [outcome] at ended
  | ok finished after =>
    have left_stopped : ¬ after.1.Unstopped := by
      rw [outcome] at ended
      cases finished <;> simp only [Bool.false_eq_true, if_true, if_false, EStateM.Result.ok.injEq]
        at ended <;> rw [← ended.2] at stopped <;> exact stopped
    obtain ⟨rfl, running⟩ := cycles_stopped reliable.toQuiet shared (sound.rested rests) unstopped
      outcome left_stopped
    simp only [outcome, if_true, EStateM.Result.ok.injEq] at ended
    obtain ⟨rfl, rfl⟩ := ended
    refine ⟨rfl, running, fun more further => ?_⟩
    rw [cycles_more further outcome]
    rfl

theorem run_first (reliable : surroundings.Reliable) (shared : config.timerRate = none)
    (sound : machine.Sound config) (present : machine.state = some state)
    (ready : machine.status = .loaded ∨ machine.status = .running) (world : ε) {limit : Int}
    (some : 1 ≤ limit) {fuel : Nat} (enough : limit.toNat ≤ fuel) :
    ∃ cycleStart keys after,
      after.1.config = config ∧ after.1.status = (state.cycle config.strict keys).status ∧
      after.1.state = .some (state.cycle config.strict keys).state ∧
      (∀ error, state.error? config.strict = .some error →
        (run surroundings fuel (.some limit)).run (machine, world) = .error error after) ∧
      (state.AtEnd → ∃ answer, (run surroundings fuel (.some limit)).run (machine, world) =
        .ok answer ({ after.1 with clockPaused := true }, after.2)) ∧
      (¬ state.AtEnd → state.fault? config.strict = none → ∀ error next,
        (pace surroundings cycleStart).run after = .error error next →
          (run surroundings fuel (.some limit)).run (machine, world) = .error error next) := by
  obtain ⟨begun, begins, rests, unstopped, started⟩ := run_beginRun reliable world present
  have running := started ready
  obtain ⟨cycleStart, keys, after, turned, settings, status, kept⟩ :=
    run_turn_cycle reliable shared (sound.rested rests) (rests.state.trans present) running
  have more : goesOn begun.1 (.some limit.toNat) = true := by
    have stopping : begun.1.stopping = false := unstopped
    have positive : limit.toNat ≠ 0 := by omega
    simp [goesOn, running, stopping, positive]
  obtain ⟨rest, rfl⟩ : ∃ rest, fuel = rest + 1 := ⟨fuel - 1, by omega⟩
  have allowed : allowance begun.1 (.some limit) = .some limit.toNat := rfl
  simp only [run_run, begins, allowed, run_cycles_succ, if_pos more, turned]
  refine ⟨cycleStart, keys, after, settings, status, kept, ?_, ?_, ?_⟩
  · intro error failed
    simp only [failed]
  · intro atEnd
    have error := State.error?_atEnd config.strict atEnd
    have halted : after.1.status = .halted := by rw [status, State.cycle, if_pos atEnd]
    have closed (remaining : Option Nat) : goesOn after.1 remaining = false := by
      simp [goesOn, halted]
    simp only [error, halted, reduceCtorEq, if_false, run_cycles_over surroundings rest (closed _)]
    exact ⟨_, rfl⟩
  · intro inside granted error next paced
    have error := State.error?_granted inside granted
    have running' : after.1.status = .running := by
      rw [status, State.cycle, if_neg inside, granted]
    simp only [error, running', if_true, paced]

/-- Every pause whose length is known can be made. -/
def Paceable (surroundings : Surroundings τ ε) (config : Config τ) : Prop :=
  ∀ period, config.cyclePeriod = .ok period → ∀ (cycleStart : τ) (place : Machine τ × ε),
    place.1.config = config → ∃ paced, (pace surroundings cycleStart).run place = .ok () paced

/-- A run of a machine that goes on running ends in an error exactly when the length of its pauses
cannot be computed and its first cycle, which is counted before that, completes. -/
theorem run_unpaced (reliable : surroundings.Reliable) (paceable : Paceable surroundings config)
    (shared : config.timerRate = none) (sound : machine.Sound config)
    (present : machine.state = some state)
    (ready : machine.status = .loaded ∨ machine.status = .running) (world : ε) {limit : Int}
    {fuel : Nat} (enough : limit.toNat ≤ fuel) (error : Error) :
    (∃ reached, (run surroundings fuel (some limit)).run (machine, world) =
        .error error reached ∧ reached.1.status = .running) ↔
      1 ≤ limit ∧ ¬ state.AtEnd ∧ state.fault? config.strict = none ∧
        ∃ cause, config.cyclePeriod = .error cause ∧ error = .number cause := by
  constructor
  · rintro ⟨reached, failed, running⟩
    have ends := run_end reliable shared sound present ready world limit enough
    rw [failed] at ends
    cases ends with
    | fault faulted => simp [running] at faulted
    | unpaced _ _ counted settings refused =>
      have some : 1 ≤ limit := by omega
      obtain ⟨cycleStart, keys, after, _, status, _, erred, halted, _⟩ :=
        run_first reliable shared sound present ready world some enough
      have inside : ¬ state.AtEnd := by
        intro atEnd
        obtain ⟨answer, answered⟩ := halted atEnd
        simp [failed] at answered
      have granted : state.fault? config.strict = none := by
        cases refusal : state.fault? config.strict with
        | none => rfl
        | some cause =>
          have faulted : after.1.status = .faulted := by
            rw [status, State.cycle, if_neg inside, refusal]
          have same := erred _ (State.error?_refused inside refusal)
          rw [failed] at same
          simp only [EStateM.Result.error.injEq] at same
          rw [same.2, faulted] at running
          simp at running
      refine ⟨some, inside, granted, ?_⟩
      cases known : config.cyclePeriod with
      | ok period =>
        obtain ⟨paced, made⟩ := paceable period known _ _ settings
        rw [refused] at made
        simp at made
      | error cause =>
        rw [pace_unpaced surroundings _ (by rw [settings, known])] at refused
        simp only [EStateM.Result.error.injEq] at refused
        exact ⟨cause, rfl, refused.1.symm⟩
  · rintro ⟨some, inside, granted, cause, unpaced, rfl⟩
    obtain ⟨cycleStart, keys, after, settings, status, _, _, _, refused⟩ :=
      run_first reliable shared sound present ready world some enough
    have unpaced' : after.1.config.cyclePeriod = .error cause := by rw [settings, unpaced]
    have paced := pace_unpaced surroundings cycleStart unpaced'
    refine ⟨after, refused inside granted _ _ paced, ?_⟩
    rw [status, State.cycle, if_neg inside, granted]

end Machine

end ChipEight
