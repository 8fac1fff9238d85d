import ChipEight.Proofs.Reset
import ChipEight.Proofs.Schedules

/-! Plays: what a script of keys makes of requests, where no time passes, nothing is shown, and
every entry is kept. A machine follows the play on its script, unless its clock or a pause hinders
it. -/

namespace ChipEight

/-- The last entries, as many as there is room for. -/
def latest (limit : Nat) (entries : List TraceEntry) : List TraceEntry :=
  entries.drop (entries.length - limit)

/-- The keys are read from a script, nobody at the screen interferes, and no stop is asked for while
the machine waits. -/
structure Surroundings.Onlooking {τ ε : Type} (surroundings : Surroundings τ ε) (count : ε → Nat)
    (script : Nat → List Bool) : Prop extends surroundings.Counted count script where
  shown : ∀ rows world, (surroundings.render rows world).1 = ⟨false, false⟩
  waits : ∀ time world, (surroundings.wait time world).1 ≠ .ok true

theorem Surroundings.onlooking_scripted {τ : Type} [TimeScale τ] (script : Nat → List Bool) :
    (scripted script : Surroundings τ Nat).Onlooking id script where
  toCounted := counted_scripted script
  shown _ _ := rfl
  waits _ _ stopped := by cases stopped

theorem Surroundings.Onlooking.unbroken {τ ε : Type} {surroundings : Surroundings τ ε}
    {count : ε → Nat} {script : Nat → List Bool} (onlooking : surroundings.Onlooking count script) :
    surroundings.Unbroken := by
  intro rows world
  rw [onlooking.shown]

theorem verdict_conclude (error? : Option Error) (value : α) (place : σ) (place' : ρ) :
    verdict (conclude error? value place) = verdict (conclude error? value place') := by
  cases error? <;> rfl

/-- How far a play has come. -/
structure Play where
  status : Status
  state : Option State
  entries : List TraceEntry
  polls : Nat

namespace Play

open Machine (Answer Request)

def fresh (polls : Nat) : Play :=
  ⟨.idle, none, [], polls⟩

/-- A play that is ready begins. -/
def begun (play : Play) : Play :=
  { play with status := if play.status = .loaded then .running else play.status }

def load (program : List UInt8) : EStateM Error Play Int := fun play =>
  .ok (min (program.length : Int) ((Memory.standard.size : Int) - programStart))
    { play with status := .loaded, state := some (State.ofProgram program), entries := [] }

def start : EStateM Error Play Unit := fun play =>
  if play.begun.status = .running then .ok () play.begun
  else .error (.notStartable play.status) play

variable (strict : Bool) (script : Nat → List Bool)

/-- One cycle, from a state. -/
def cycle (state : State) : EStateM Error Play TraceEntry := fun play =>
  let keys := script play.polls
  if state.TurnsDown keys then
    .error (.keyCount keys.length) { play with polls := play.polls + 1 }
  else
    let outcome := state.cycle strict keys
    conclude (state.error? strict) outcome.entry
      { status := outcome.status
        state := some outcome.state
        entries := play.entries ++ [outcome.entry]
        polls := if state.AtEnd then play.polls else play.polls + 1 }

def step : EStateM Error Play TraceEntry := fun play =>
  match play.state with
  | none => .error .notLoaded play
  | some state =>
    if play.begun.status = .running then cycle strict script state play.begun
    else .error (.notRunning play.status) play

def goesOn (play : Play) (remaining : Option Nat) : Bool :=
  play.status == .running && remaining != some 0

def cycles : Nat → Option Nat → EStateM Error Play Bool
  | 0, remaining => fun play => .ok (!play.goesOn remaining) play
  | fuel + 1, remaining => fun play =>
    if play.goesOn remaining then
      match (step strict script).run play with
      | .ok _ next => cycles fuel (remaining.map (· - 1)) next
      | .error error next => .error error next
    else .ok true play

def run (fuel : Nat) (limit : Option Int) : EStateM Error Play (Option (List TraceEntry)) :=
  fun play =>
    match play.state with
    | none => .error .notLoaded play
    | some _ =>
      match (cycles strict script fuel (limit.map Int.toNat)).run play.begun with
      | .ok finished ended => .ok (if finished then some ended.entries else none) ended
      | .error error ended => .error error ended

def answer : Request → EStateM Error Play Answer
  | .load program => do return .bytes (← load program)
  | .start => do return (fun _ => .nothing) (← start)
  | .stop => return .nothing
  | .step => do return .entry (← step strict script)
  | .run fuel limit => do return .kept (← run strict script fuel limit)

/-- The play after some requests. -/
def serve (requests : List Request) (play : Play) : Play :=
  requests.foldl (fun play request => left ((answer strict script request).run play)) play

variable (play : Play)

theorem run_load (program : List UInt8) :
    (load program).run play =
      .ok (min (program.length : Int) ((Memory.standard.size : Int) - programStart))
        { play with status := .loaded, state := some (State.ofProgram program), entries := [] } :=
  rfl

theorem run_start :
    start.run play =
      if play.begun.status = .running then .ok () play.begun
      else .error (.notStartable play.status) play :=
  rfl

theorem run_cycle (state : State) :
    (cycle strict script state).run play =
      if state.TurnsDown (script play.polls) then
        .error (.keyCount (script play.polls).length) { play with polls := play.polls + 1 }
      else
        let outcome := state.cycle strict (script play.polls)
        conclude (state.error? strict) outcome.entry
          { status := outcome.status
            state := some outcome.state
            entries := play.entries ++ [outcome.entry]
            polls := if state.AtEnd then play.polls else play.polls + 1 } :=
  rfl

theorem run_step :
    (step strict script).run play =
      match play.state with
      | none => .error .notLoaded play
      | some state =>
        if play.begun.status = .running then (cycle strict script state).run play.begun
        else .error (.notRunning play.status) play :=
  rfl

theorem run_cycles_zero (remaining : Option Nat) :
    (cycles strict script 0 remaining).run play = .ok (!play.goesOn remaining) play :=
  rfl

theorem run_cycles_succ (fuel : Nat) (remaining : Option Nat) :
    (cycles strict script (fuel + 1) remaining).run play =
      if play.goesOn remaining then
        match (step strict script).run play with
        | .ok _ next => (cycles strict script fuel (remaining.map (· - 1))).run next
        | .error error next => .error error next
      else .ok true play :=
  rfl

theorem run_run (fuel : Nat) (limit : Option Int) :
    (run strict script fuel limit).run play =
      match play.state with
      | none => .error .notLoaded play
      | some _ =>
        match (cycles strict script fuel (limit.map Int.toNat)).run play.begun with
        | .ok finished ended => .ok (if finished then some ended.entries else none) ended
        | .error error ended => .error error ended :=
  rfl

omit play in
theorem begun_started {play : Play} (started : play.status ≠ .loaded) : play.begun = play := by
  rw [begun, if_neg started]

omit play in
theorem begun_running {play : Play} :
    play.begun.status = .running ↔ play.status = .loaded ∨ play.status = .running := by
  by_cases loaded : play.status = .loaded
  · simp [begun, loaded]
  · simp [begun, loaded]

omit play in
theorem kept_answer {request : Request} {play after : Play} {kept : List TraceEntry}
    (answered : (answer strict script request).run play = .ok (.kept (some kept)) after) :
    kept = after.entries := by
  cases request with
  | run fuel limit =>
    simp only [answer, EStateM.run_bind, run_run] at answered
    cases present : play.state with
    | none => simp [present] at answered
    | some state =>
      rw [present] at answered
      cases outcome : (cycles strict script fuel (limit.map Int.toNat)).run play.begun with
      | error error ended => simp [outcome] at answered
      | ok finished ended =>
        cases finished with
        | false => simp [outcome] at answered
        | true =>
          simp only [outcome, if_true, EStateM.run_pure, EStateM.Result.ok.injEq,
            Answer.kept.injEq, Option.some.injEq] at answered
          rw [← answered.1, ← answered.2]
  | stop => simp [answer] at answered
  | load program =>
    simp only [answer, EStateM.run_bind] at answered
    cases outcome : (load program).run play <;> simp [outcome] at answered
  | start =>
    simp only [answer, EStateM.run_bind] at answered
    cases outcome : start.run play <;> simp [outcome] at answered
  | step =>
    simp only [answer, EStateM.run_bind] at answered
    cases outcome : (step strict script).run play <;> simp [outcome] at answered

end Play

namespace Machine

variable {τ ε α β : Type} {config : Config τ} {machine : Machine τ} {state : State}
  {surroundings : Surroundings τ ε} {count : ε → Nat} {script : Nat → List Bool} {play : Play}
  {place : Machine τ × ε} {world : ε}

/-- What a machine with room for fewer entries answers. -/
def Answer.cut (limit : Nat) : Answer → Answer
  | kept entries => kept (entries.map (latest limit))
  | answer => answer

/-- Nothing is left to the settings, and no stop is asked for. -/
def Request.Explicit : Request → Prop
  | stop | run _ none => False
  | _ => True

/-- A place shows a play, with a trace of as many entries as there is room for. -/
structure Mirrors (config : Config τ) (count : ε → Nat) (play : Play) (place : Machine τ × ε) :
    Prop where
  sound : place.1.Sound config
  status : place.1.status = play.status
  state : place.1.state = play.state
  trace : place.1.trace.entries = latest config.traceLimit.toNat play.entries
  unstopped : place.1.Unstopped
  polls : count place.2 = play.polls

theorem stopping_settle (onlooking : surroundings.Onlooking count script) (machine : Machine τ)
    (state : State) (world : ε) :
    (settle surroundings machine state world).1.stopping = machine.stopping := by
  have unasked (due : Bool) (rows : List Int) (world : ε) :
      (surroundings.frame due rows world).1.stop = false :=
    Surroundings.frame_cases (fun shown => ∀ rows world, (shown rows world).1.stop = false)
      (fun _ _ => rfl) (fun rows world => congrArg Reception.stop (onlooking.shown rows world))
      due rows world
  simp only [settle]
  split
  · rfl
  · split
    · rw [unasked, Bool.or_false]
    · rfl

variable [TimeScale τ]

/-- An error of the clock, or of a pause in these settings after a cycle that the clock began. -/
inductive Obstacle (surroundings : Surroundings τ ε) (config : Config τ) (error : Error) :
    Prop where
  | clock (world : ε) (fails : (surroundings.clock world).1 = .error error) :
      Obstacle surroundings config error
  | pause {world : ε} {cycleStart : τ} {place after : Machine τ × ε}
      (reads : (surroundings.clock world).1 = .ok cycleStart) (settings : place.1.config = config)
      (fails : (pace surroundings cycleStart).run place = .error error after) :
      Obstacle surroundings config error

/-- A call ended in an error of the clock or of a pause. -/
def Hindered (surroundings : Surroundings τ ε) (config : Config τ)
    (result : EStateM.Result Error (Machine τ × ε) α) : Prop :=
  ∃ error place, result = .error error place ∧ Obstacle surroundings config error

/-- A call goes as in a play, with the answer of the play changed, unless it is hindered. -/
def Follows (surroundings : Surroundings τ ε) (config : Config τ) (count : ε → Nat) (change : β → α)
    (played : EStateM.Result Error Play β) (result : EStateM.Result Error (Machine τ × ε) α) :
    Prop :=
  Hindered surroundings config result ∨
    verdict result = (verdict played).map change ∧
      Mirrors config count (left played) (left result)

theorem Hindered.of_clock {error : Error} {world' : ε}
    (fails : (surroundings.clock world').1 = .error error) (place : Machine τ × ε) :
    Hindered surroundings config (.error error place : EStateM.Result Error (Machine τ × ε) α) :=
  ⟨error, place, rfl, .clock world' fails⟩

theorem Hindered.elsewhere {error : Error} {place : Machine τ × ε}
    (hindered : Hindered surroundings config
      (.error error place : EStateM.Result Error (Machine τ × ε) β)) :
    Hindered surroundings config (.error error place : EStateM.Result Error (Machine τ × ε) α) := by
  obtain ⟨_, _, same, obstacle⟩ := hindered
  cases same
  exact ⟨error, place, rfl, obstacle⟩

namespace Follows

variable {change : β → α} {played : EStateM.Result Error Play β}

theorem of_ok {value : α} {after : Machine τ × ε}
    (follows : Follows surroundings config count change played (.ok value after)) :
    ∃ value' play', played = .ok value' play' ∧ change value' = value ∧
      Mirrors config count play' after := by
  rcases follows with ⟨error, place, failed, _⟩ | ⟨same, mirrors⟩
  · cases failed
  · cases played with
    | ok value' play' =>
      cases same
      exact ⟨value', play', rfl, rfl, mirrors⟩
    | error error play' => cases same

theorem of_error {error : Error} {after : Machine τ × ε}
    (follows : Follows surroundings config count change played (.error error after)) :
    Hindered surroundings config (.error error after : EStateM.Result Error (Machine τ × ε) α) ∨
      ∃ play', played = .error error play' ∧ Mirrors config count play' after := by
  rcases follows with hindered | ⟨same, mirrors⟩
  · exact .inl hindered
  · cases played with
    | ok value' play' => cases same
    | error error' play' =>
      cases same
      exact .inr ⟨play', rfl, mirrors⟩

theorem map {γ δ : Type} {played : EStateM Error Play β} {call : Call τ ε α}
    (follows : Follows surroundings config count change (played.run play) (call.run place))
    {first : α → γ} {second : δ → γ} {third : β → δ}
    (agree : ∀ value, first (change value) = second (third value)) :
    Follows surroundings config count second
      ((do return third (← played) : EStateM Error Play δ).run play)
      ((do return first (← call) : Call τ ε γ).run place) := by
  rw [EStateM.run_bind, EStateM.run_bind]
  cases outcome : call.run place with
  | ok value after =>
    rw [outcome] at follows
    obtain ⟨value', play', went, rfl, mirrors⟩ := follows.of_ok
    rw [went]
    exact .inr ⟨congrArg Except.ok (agree value'), mirrors⟩
  | error error after =>
    rw [outcome] at follows
    rcases follows.of_error with hindered | ⟨play', went, mirrors⟩
    · exact .inl hindered.elsewhere
    · rw [went]
      exact .inr ⟨rfl, mirrors⟩

end Follows

omit [TimeScale τ] in
theorem Mirrors.rest (mirrors : Mirrors config count play place)
    (counted : surroundings.Counted count script) {rested : Machine τ × ε}
    (resting : Resting surroundings place rested) (unstopped : rested.1.Unstopped) :
    Mirrors config count { play with status := rested.1.status } rested where
  sound := mirrors.sound.rested resting.1
  status := rfl
  state := resting.1.state.trans mirrors.state
  trace := by rw [resting.1.trace, mirrors.trace]
  unstopped := unstopped
  polls := (counted.passes resting.2).trans mirrors.polls

omit [TimeScale τ] in
theorem Mirrors.still (mirrors : Mirrors config count play place)
    (counted : surroundings.Counted count script) {rested : Machine τ × ε}
    (resting : Resting surroundings place rested) (unstopped : rested.1.Unstopped)
    (started : play.status ≠ .loaded) : Mirrors config count play rested := by
  have same : rested.1.status = play.status := by
    rw [← mirrors.status]
    exact resting.1.status.resolve_right fun loaded => started (mirrors.status.symm.trans loaded.1)
  have rest := mirrors.rest counted resting unstopped
  rw [same] at rest
  exact rest

theorem Mirrors.wake (mirrors : Mirrors config count play (machine, world))
    (counted : surroundings.Counted count script) :
    Hindered surroundings config ((wake surroundings).run (machine, world)) ∨
    (∃ awake, (wake surroundings).run (machine, world) = .ok () awake ∧
      Mirrors config count play.begun awake ∧ play.begun.status = .running ∧
      awake.1.clockPaused = false) ∨
    (wake surroundings).run (machine, world) =
        .error (.notRunning play.status) (machine, world) ∧
      play.begun.status ≠ .running := by
  have status : machine.status = play.status := mirrors.status
  have woken := wake_spec surroundings machine world
  have unstopped := unstopped_wake surroundings (machine, world) mirrors.unstopped
  by_cases ready : play.begun.status = .running
  · cases outcome : (Machine.wake surroundings).run (machine, world) with
    | ok _ awake =>
      rw [outcome] at woken unstopped
      obtain ⟨resting, running, read⟩ := woken
      have rest := mirrors.rest counted resting unstopped
      rw [running, ← ready] at rest
      exact .inr (.inl ⟨awake, rfl, rest, ready, read⟩)
    | error error rested =>
      rw [outcome] at woken
      rcases woken.2 with fails | ⟨unloaded, stopped⟩
      · exact .inl (.of_clock fails rested)
      · rw [status] at unloaded stopped
        rcases Play.begun_running.mp ready with loaded | running
        · exact absurd loaded unloaded
        · exact absurd running stopped
  · refine .inr (.inr ⟨?_, ready⟩)
    obtain ⟨unloaded, stopped⟩ := not_or.mp fun either => ready (Play.begun_running.mpr either)
    rw [run_wake, status, if_neg unloaded, if_neg stopped]

theorem Mirrors.cycle (mirrors : Mirrors config count play (machine, world))
    (onlooking : surroundings.Onlooking count script) (shared : config.timerRate = none)
    (present : machine.state = some state) (running : machine.status = .running)
    (awake : machine.clockPaused = false) :
    Follows surroundings config count id ((Play.cycle config.strict script state).run play)
      ((step surroundings).run (machine, world)) := by
  have sound : machine.Sound config := mirrors.sound
  have formed := sound.formed state present
  have kept : (left ((step surroundings).run (machine, world))).1.Sound config :=
    keeps_step surroundings (machine, world) sound
  have polls : count world = play.polls := mirrors.polls
  have keys : (surroundings.poll world).1 = script play.polls := by rw [onlooking.poll, polls]
  have shared' : machine.config.timerRate = none := by rw [sound.settings, shared]
  have cycled := run_step_cycled onlooking.unbroken world present running awake shared'
    formed.shaped formed.counter.1
  rw [cycled] at kept ⊢
  simp only [Machine.cycled, sound.settings, keys] at kept ⊢
  rw [Play.run_cycle]
  by_cases turned : state.TurnsDown (script play.polls)
  · rw [if_pos turned, if_pos turned]
    refine .inr ⟨rfl, { mirrors with polls := ?_ }⟩
    simp only [left]
    rw [onlooking.polled, polls]
  · rw [if_neg turned] at kept
    rw [if_neg turned, if_neg turned]
    simp only [left_conclude] at kept
    refine .inr ⟨?_, ?_⟩
    · rw [verdict_conclude]
      cases verdict (conclude _ _ _) <;> rfl
    · obtain ⟨stopping, settled⟩ := settle_machine surroundings machine state world
      have full : machine.trace.entries =
          play.entries.drop (play.entries.length - machine.trace.limit) := by
        rw [sound.room]
        exact mirrors.trace
      have pushed :=
        Trace.entries_push full (state.cycle config.strict (script play.polls)).entry
      rw [sound.room] at pushed
      simp only [left_conclude]
      exact
        { sound := kept
          status := by rw [settled, sound.settings, keys]
          state := by rw [settled, sound.settings, keys]
          trace := by
            rw [settled, sound.settings, keys]
            exact pushed
          unstopped := (stopping_settle onlooking machine state world).trans mirrors.unstopped
          polls := by rw [count_settle onlooking.toCounted, polls] }

theorem Mirrors.step (mirrors : Mirrors config count play place)
    (onlooking : surroundings.Onlooking count script) (shared : config.timerRate = none) :
    Follows surroundings config count id ((Play.step config.strict script).run play)
      ((step surroundings).run place) := by
  obtain ⟨machine, world⟩ := place
  have state : machine.state = play.state := mirrors.state
  rw [Play.run_step]
  cases present : play.state with
  | none =>
    rw [run_step_blank surroundings world (state.trans present)]
    exact .inr ⟨rfl, mirrors⟩
  | some found =>
    rw [run_step_wake surroundings world (state.trans present), EStateM.run_bind]
    rcases mirrors.wake onlooking.toCounted with
      ⟨error, after, failed, obstacle⟩ | ⟨awake, woken, begun, ready, read⟩ | ⟨refused, unready⟩
    · rw [failed]
      exact .inl ⟨error, after, rfl, obstacle⟩
    · simp only [woken, if_pos ready]
      exact begun.cycle onlooking shared (begun.state.trans present) (begun.status.trans ready) read
    · simp only [refused, if_neg unready]
      exact .inr ⟨rfl, mirrors⟩

theorem unstopped_pace (onlooking : surroundings.Onlooking count script) (cycleStart : τ) :
    Keeps Unstopped (pace surroundings cycleStart) := by
  refine leads_pauses cycleStart (keeps_demand _) fun time => ?_
  intro ⟨machine, world⟩ unstopped
  have unasked := onlooking.waits time world
  rw [EStateM.run_bind, run_demand]
  cases answered : (surroundings.wait time world).1 with
  | error error => exact unstopped
  | ok stopped =>
    cases stopped with
    | false => exact unstopped
    | true => exact absurd answered unasked

/-- A turn is a cycle, whatever its clock and its pause do, unless they fail. -/
theorem Mirrors.turn (mirrors : Mirrors config count play place)
    (onlooking : surroundings.Onlooking count script) (shared : config.timerRate = none)
    (running : play.status = .running) :
    Follows surroundings config count (fun _ => ()) ((Play.step config.strict script).run play)
      ((turn surroundings).run place) := by
  obtain ⟨machine, world⟩ := place
  have clocked : Resting surroundings (machine, world) (machine, (surroundings.clock world).2) :=
    ⟨.refl machine, (Surroundings.Passes.same world).clock⟩
  have timed := mirrors.still onlooking.toCounted clocked mirrors.unstopped (by simp [running])
  have stepped := timed.step onlooking shared
  rw [run_turn, run_demand]
  cases answered : (surroundings.clock world).1 with
  | error error => exact .inl (.of_clock answered _)
  | ok cycleStart =>
    simp only
    cases outcome : (Machine.step surroundings).run (machine, (surroundings.clock world).2) with
    | error error after =>
      rw [outcome] at stepped
      rcases stepped.of_error with hindered | ⟨play', went, mirrors'⟩
      · exact .inl hindered.elsewhere
      · rw [went]
        exact .inr ⟨rfl, mirrors'⟩
    | ok entry after =>
      rw [outcome] at stepped
      obtain ⟨value, play', went, _, mirrors'⟩ := stepped.of_ok
      rw [went]
      simp only
      split
      · rename_i goesOn
        have resting := idles_pace surroundings cycleStart after
        have unstopped := unstopped_pace onlooking cycleStart after mirrors'.unstopped
        cases paced : (pace surroundings cycleStart).run after with
        | error error paused =>
          exact .inl ⟨error, paused, rfl, .pause answered mirrors'.sound.settings paced⟩
        | ok _ paused =>
          rw [paced] at resting unstopped
          have started : play'.status ≠ .loaded := by simp [← mirrors'.status, goesOn]
          exact .inr ⟨rfl, mirrors'.still onlooking.toCounted resting unstopped started⟩
      · exact .inr ⟨rfl, mirrors'⟩

omit [TimeScale τ] in
theorem Mirrors.goesOn (mirrors : Mirrors config count play place) (remaining : Option Nat) :
    Machine.goesOn place.1 remaining = play.goesOn remaining := by
  have unstopped : place.1.stopping = false := mirrors.unstopped
  simp [Machine.goesOn, Play.goesOn, mirrors.status, unstopped]

theorem Mirrors.cycles (mirrors : Mirrors config count play place)
    (onlooking : surroundings.Onlooking count script) (shared : config.timerRate = none)
    (fuel : Nat) (remaining : Option Nat) :
    Follows surroundings config count id
      ((Play.cycles config.strict script fuel remaining).run play)
      ((cycles surroundings fuel remaining).run place) := by
  induction fuel generalizing remaining play place with
  | zero =>
    rw [run_cycles_zero, mirrors.goesOn, Play.run_cycles_zero]
    exact .inr ⟨rfl, mirrors⟩
  | succ fuel ih =>
    rw [run_cycles_succ, mirrors.goesOn, Play.run_cycles_succ]
    by_cases more : play.goesOn remaining
    · have running : play.status = .running := by
        simp only [Play.goesOn, Bool.and_eq_true, beq_iff_eq] at more
        exact more.1
      have turned := mirrors.turn onlooking shared running
      rw [if_pos more, if_pos more]
      -- An error of the turn ends both; otherwise the rest starts where the turn left off.
      cases outcome : (Machine.turn surroundings).run place with
      | error error next =>
        rw [outcome] at turned
        rcases turned.of_error with hindered | ⟨play', went, mirrors'⟩
        · exact .inl hindered.elsewhere
        · rw [went]
          exact .inr ⟨rfl, mirrors'⟩
      | ok _ next =>
        rw [outcome] at turned
        obtain ⟨entry, play', went, _, mirrors'⟩ := turned.of_ok
        rw [went]
        exact ih mirrors' _
    · rw [if_neg more, if_neg more]
      exact .inr ⟨rfl, mirrors⟩

theorem Mirrors.beginRun (mirrors : Mirrors config count play (machine, world))
    (counted : surroundings.Counted count script) (present : machine.state = some state) :
    Hindered surroundings config ((beginRun surroundings).run (machine, world)) ∨
      ∃ begun, (beginRun surroundings).run (machine, world) = .ok () begun ∧
        Mirrors config count play.begun begun := by
  have resting := idles_beginRun surroundings (machine, world)
  have status : machine.status = play.status := mirrors.status
  rw [run_beginRun_resume surroundings world present, run_resumeClock] at resting ⊢
  cases answered : (surroundings.clock world).1 with
  | error error => exact .inl (.of_clock answered _)
  | ok now =>
    rw [answered] at resting
    have rest := mirrors.rest counted resting rfl
    refine .inr ⟨_, rfl, ?_⟩
    simp only [left, status] at rest ⊢
    exact rest

theorem Mirrors.run (mirrors : Mirrors config count play place)
    (onlooking : surroundings.Onlooking count script) (shared : config.timerRate = none)
    (fuel : Nat) (limit : Int) :
    Follows surroundings config count (Option.map (latest config.traceLimit.toNat))
      ((Play.run config.strict script fuel (some limit)).run play)
      ((run surroundings fuel (some limit)).run place) := by
  obtain ⟨machine, world⟩ := place
  have state : machine.state = play.state := mirrors.state
  rw [Play.run_run]
  cases present : play.state with
  | none =>
    rw [run_run_blank surroundings fuel (some limit) world (state.trans present)]
    exact .inr ⟨rfl, mirrors⟩
  | some found =>
    rw [run_run]
    rcases mirrors.beginRun onlooking.toCounted (state.trans present) with
      ⟨error, begun, failed, obstacle⟩ | ⟨begun, begins, mirrors'⟩
    · rw [failed]
      exact .inl ⟨error, begun, rfl, obstacle⟩
    · have cycled := mirrors'.cycles onlooking shared fuel (some limit.toNat)
      have allowed : allowance begun.1 (some limit) = some limit.toNat := rfl
      simp only [begins, allowed, Option.map_some]
      cases outcome : (Machine.cycles surroundings fuel (some limit.toNat)).run begun with
      | error error ended =>
        rw [outcome] at cycled
        rcases cycled.of_error with hindered | ⟨play', played, mirrors''⟩
        · exact .inl hindered.elsewhere
        · rw [played]
          exact .inr ⟨rfl, mirrors''⟩
      | ok finished ended =>
        rw [outcome] at cycled
        obtain ⟨finished', play', played, rfl, mirrors''⟩ := cycled.of_ok
        rw [played]
        cases finished' with
        | false => exact .inr ⟨rfl, mirrors''⟩
        | true =>
          have kept := mirrors''.trace
          refine .inr ⟨by simp [verdict, kept, Except.map], ?_⟩
          exact { mirrors'' with sound := { mirrors''.sound with } }

theorem Mirrors.start (mirrors : Mirrors config count play place)
    (counted : surroundings.Counted count script) :
    Follows surroundings config count id (Play.start.run play)
      ((start surroundings).run place) := by
  obtain ⟨machine, world⟩ := place
  have status : machine.status = play.status := mirrors.status
  have resting := idles_start surroundings (machine, world)
  rw [run_start, status] at resting
  rw [run_start, status, Play.run_start]
  by_cases running : play.status = .running
  · rw [if_pos running, Play.begun_started (by simp [running]), if_pos running]
    exact .inr ⟨rfl, mirrors⟩
  · rw [if_neg running] at resting ⊢
    by_cases loaded : play.status = .loaded
    · have begun : play.begun = { play with status := .running } := by simp [Play.begun, loaded]
      rw [if_pos loaded, run_resumeClock] at resting ⊢
      rw [begun, if_pos rfl]
      cases answered : (surroundings.clock world).1 with
      | error error => exact .inl (.of_clock answered _)
      | ok now =>
        rw [answered] at resting
        have rest := mirrors.rest counted resting rfl
        exact .inr ⟨rfl, rest⟩
    · have unready : play.begun.status ≠ .running := fun ready =>
        (Play.begun_running.mp ready).elim loaded running
      rw [if_neg loaded, if_neg unready]
      exact .inr ⟨rfl, mirrors⟩

theorem Mirrors.load (mirrors : Mirrors config count play place) (surroundings : Surroundings τ ε)
    (counted : surroundings.Counted count script) (program : List UInt8) :
    Follows surroundings config count id ((Play.load program).run play)
      ((load surroundings program).run place) := by
  obtain ⟨machine, world⟩ := place
  have kept := keeps_load surroundings program (machine, world) mirrors.sound
  have polls : count world = play.polls := mirrors.polls
  rw [run_load] at kept ⊢
  rw [Play.run_load]
  refine .inr ⟨rfl, kept, rfl, rfl, by simp [Trace.clear, latest, left], rfl, ?_⟩
  simp only [left]
  split
  · rw [counted.noted, counted.noted, polls]
  · rw [counted.noted, polls]

theorem Mirrors.answer (mirrors : Mirrors config count play place)
    (onlooking : surroundings.Onlooking count script) (shared : config.timerRate = none)
    {request : Request} (explicit : request.Explicit) :
    Follows surroundings config count (Answer.cut config.traceLimit.toNat)
      ((Play.answer config.strict script request).run play)
      ((request.answer surroundings).run place) := by
  cases request with
  | load program => exact (mirrors.load surroundings onlooking.toCounted program).map fun _ => rfl
  | start => exact (mirrors.start onlooking.toCounted).map fun _ => rfl
  | stop => cases explicit
  | step => exact (mirrors.step onlooking shared).map fun _ => rfl
  | run fuel limit =>
    cases limit with
    | none => cases explicit
    | some limit => exact (mirrors.run onlooking shared fuel limit).map fun _ => rfl

/-- No request is hindered. -/
def Unhindered (surroundings : Surroundings τ ε) (config : Config τ) :
    List Request → Machine τ × ε → Prop
  | [], _ => True
  | request :: requests, place =>
    ¬ Hindered surroundings config ((request.answer surroundings).run place) ∧
      Unhindered surroundings config requests (request.serve surroundings place)

/-- Requests that nothing hinders lead where they lead the play. -/
theorem Mirrors.serve (mirrors : Mirrors config count play place)
    (onlooking : surroundings.Onlooking count script) (shared : config.timerRate = none)
    {requests : List Request} (explicit : ∀ request ∈ requests, request.Explicit)
    (unhindered : Unhindered surroundings config requests place) :
    Mirrors config count (Play.serve config.strict script requests play)
      (serve surroundings requests place) := by
  induction requests generalizing play place with
  | nil => exact mirrors
  | cons request requests ih =>
    obtain ⟨first, others⟩ := List.forall_mem_cons.mp explicit
    obtain ⟨free, unhindered⟩ := unhindered
    have followed := (mirrors.answer onlooking shared first).resolve_left free
    rw [left_answer] at followed
    exact ih followed.2 others unhindered

end Machine

end ChipEight
