import ChipEight.Proofs.Pauses
import ChipEight.Proofs.Schedules

/-! Timers with a rate of their own, on a clock without rounding. In each call they make as many
ticks by each of its cycles as whole periods have passed since the call began. -/

namespace ChipEight

/-- Keys are read from a script on a clock without rounding, and nothing asks for a stop. With the
poll of each cycle it becomes as late as `elapsed` tells for that number of polls, and no note takes
time; all else happens in between. -/
structure Surroundings.Clocked {ε : Type} (surroundings : Surroundings Rat ε) (count : ε → Nat)
    (script : Nat → List Bool) (time : ε → Rat) (elapsed : Nat → Rat) : Prop
    extends surroundings.Scripted count script where
  monotone : ∀ polls, elapsed polls ≤ elapsed (polls + 1)
  reads : ∀ world, (surroundings.clock world).1 = .ok (time world)
  unstopped : ∀ rows world, (surroundings.render rows world).1.stop = false
  waits : ∀ seconds world, (surroundings.wait seconds world).1 = .ok false
  updated : ∀ world, time (surroundings.poll world).2 = elapsed (count world + 1)
  still : ∀ note world, time (surroundings.note note world) = time world
  between : ∀ world, elapsed (count world) ≤ time world ∧ time world ≤ elapsed (count world + 1)

theorem Surroundings.Clocked.frame {ε : Type} {surroundings : Surroundings Rat ε} {count : ε → Nat}
    {script : Nat → List Bool} {time : ε → Rat} {elapsed : Nat → Rat}
    (clocked : surroundings.Clocked count script time elapsed) (due : Bool) (rows : List Int)
    (world : ε) : (surroundings.frame due rows world).1 = ⟨false, false⟩ :=
  frame_cases (fun shown => ∀ rows world, (shown rows world).1 = ⟨false, false⟩) (fun _ _ => rfl)
    (fun rows world =>
      congr (congrArg Reception.mk (clocked.unstopped rows world)) (clocked.frames rows world))
    due rows world

/-- The ticks that a call begun at a time makes until the cycle with some number of polls. -/
def ticked (rate : Rat) (elapsed : Nat → Rat) (begun : Rat) (polls : Nat) : Nat :=
  (rate * (elapsed polls - begun)).floor.toNat

/-- The ticks of the cycle that follows some number of polls. -/
def due (rate : Rat) (elapsed : Nat → Rat) (begun : Rat) (polls : Nat) : Int :=
  ticked rate elapsed begun (polls + 1) - ticked rate elapsed begun polls

theorem floor_sub_whole (value : Rat) (whole : Int) :
    (value - whole).floor = value.floor - whole := by
  have moved : value - whole = value + ((-whole : Int) : Rat) := by
    rw [Rat.intCast_neg]
    grind
  rw [moved, Rat.floor_add_intCast]
  omega

theorem floor_nonneg {value : Rat} (positive : 0 ≤ value) : 0 ≤ value.floor :=
  Rat.le_floor_iff.mpr positive

theorem truncate_exact {value : Rat} (positive : 0 ≤ value) :
    TimeScale.truncate value = .ok value.floor := by
  rw [TimeScale.truncate, instTimeScaleRat]
  simp only [if_neg (Rat.not_lt.mpr positive)]

theorem ticked_early {rate begun : Rat} {elapsed : Nat → Rat} {polls : Nat} (positive : 0 ≤ rate)
    (early : elapsed polls ≤ begun) : ticked rate elapsed begun polls = 0 := by
  have low : rate * (elapsed polls - begun) ≤ ((0 : Int) : Rat) := by
    have scaled := Rat.mul_le_mul_of_nonneg_left early positive
    grind
  have floor := Rat.floor_monotone low
  rw [Rat.floor_intCast] at floor
  rw [ticked]
  omega

theorem ticked_late {rate begun : Rat} {elapsed : Nat → Rat} {polls : Nat} (positive : 0 ≤ rate)
    (late : begun ≤ elapsed polls) :
    (ticked rate elapsed begun polls : Int) = (rate * (elapsed polls - begun)).floor := by
  have high : 0 ≤ rate * (elapsed polls - begun) := by
    have scaled := Rat.mul_le_mul_of_nonneg_left late positive
    grind
  exact Int.toNat_of_nonneg (floor_nonneg high)

/-- What a machine on a script has come to, when its cycles are followed by ticks in some number. -/
structure Standing where
  status : Status
  state : State
  polls : Nat

namespace Standing

/-- One more cycle, if there is one. -/
abbrev next (strict : Bool) (script : Nat → List Bool) (ticks : Nat → Int) :
    Standing → Standing :=
  whileRunning status fun standing =>
    let keys := script standing.polls
    if standing.state.AtEnd then
      ⟨.halted, { standing.state with halted := true }, standing.polls⟩
    else
      match standing.state.fault? strict with
      | none =>
        let after := (standing.state.executed keys).ticks (min (ticks standing.polls) 0xFF)
        ⟨.running, after, standing.polls + 1⟩
      | some _ => ⟨.faulted, standing.state.failed keys, standing.polls + 1⟩

end Standing

namespace Machine

variable {ε : Type} {machine : Machine Rat} {state : State} {surroundings : Surroundings Rat ε}

/-- The debt that an update finds at a reading. -/
def debtAt (rate now : Rat) (machine : Machine Rat) : Rat :=
  machine.timerDebt + (now - machine.timerBase) * rate

theorem run_updateTimers_exact {rate now : Rat} {world : ε} (present : machine.state = some state)
    (own : machine.config.timerRate = some rate) (read : (surroundings.clock world).1 = .ok now)
    (forward : 0 ≤ machine.debtAt rate now) :
    (updateTimers surroundings).run (machine, world) =
      .ok ()
        ({ machine with
            state := some (state.ticks (min (machine.debtAt rate now).floor 0xFF))
            timerBase := now
            timerDebt := machine.debtAt rate now - (machine.debtAt rate now).floor },
          (surroundings.clock world).2) := by
  have whole := truncate_exact forward
  let counted : Machine Rat :=
    { machine with
      timerBase := now
      timerDebt := machine.debtAt rate now - (machine.debtAt rate now).floor }
  have kept : counted.state = some state := present
  simp only [debtAt] at whole
  simp only [updateTimers, EStateM.run_bind, run_read, own, run_demand, read, number,
    TimeScale.sub, TimeScale.mul, TimeScale.add, whole, TimeScale.ofInt, run_update,
    EStateM.run_pure]
  exact run_onState (modify (State.ticks _)) _ kept

/-- Within a call begun at a time: the base is a reading since then, and the debt is the part of a
tick that the ticks so far have left of the time up to it. -/
structure Counting (rate : Rat) (elapsed : Nat → Rat) (begun : Rat) (polls : Nat)
    (machine : Machine Rat) : Prop where
  since : begun ≤ machine.timerBase
  before : machine.timerBase ≤ elapsed (polls + 1)
  made : (ticked rate elapsed begun polls : Int) = (rate * (machine.timerBase - begun)).floor
  debt : machine.timerDebt =
    rate * (machine.timerBase - begun) - (rate * (machine.timerBase - begun)).floor

variable {config : Config Rat} {count : ε → Nat} {script : Nat → List Bool} {time : ε → Rat}
  {elapsed : Nat → Rat} {rate begun : Rat} {polls : Nat}

theorem Counting.begin (positive : 0 ≤ rate) (early : elapsed polls ≤ begun)
    (late : begun ≤ elapsed (polls + 1)) :
    Counting rate elapsed begun polls (machine.resumed begun) := by
  have nothing : rate * (begun - begun) = ((0 : Int) : Rat) := by grind
  refine ⟨Rat.le_refl, late, ?_, ?_⟩
  · rw [ticked_early positive early]
    simp only [resumed, nothing, Rat.floor_intCast]
    rfl
  · simp only [resumed, nothing, Rat.floor_intCast]
    exact Rat.sub_self.symm

/-- The debt at the next update is what has accrued, less the ticks that were made. -/
theorem Counting.debtAt (counting : Counting rate elapsed begun polls machine) :
    machine.debtAt rate (elapsed (polls + 1)) =
      rate * (elapsed (polls + 1) - begun) - (ticked rate elapsed begun polls : Int) := by
  have debt := counting.debt
  rw [counting.made, Machine.debtAt, debt]
  grind

theorem Counting.floor_debtAt (positive : 0 ≤ rate)
    (counting : Counting rate elapsed begun polls machine) :
    (machine.debtAt rate (elapsed (polls + 1))).floor = due rate elapsed begun polls := by
  have later := Rat.le_trans counting.since counting.before
  rw [counting.debtAt, floor_sub_whole, due, ticked_late positive later]

theorem Counting.debtAt_nonneg (positive : 0 ≤ rate)
    (counting : Counting rate elapsed begun polls machine) :
    0 ≤ machine.debtAt rate (elapsed (polls + 1)) := by
  have made := counting.made
  have below := Rat.floor_le (rate * (machine.timerBase - begun))
  have scaled := Rat.mul_le_mul_of_nonneg_left counting.before positive
  rw [counting.debtAt, made]
  grind

theorem Counting.run_updateTimers (positive : 0 ≤ rate)
    (forward : elapsed (polls + 1) ≤ elapsed (polls + 2))
    (counting : Counting rate elapsed begun polls machine) {world : ε}
    (present : machine.state = some state) (own : machine.config.timerRate = some rate)
    (read : (surroundings.clock world).1 = .ok (elapsed (polls + 1))) :
    ∃ updated,
      (updateTimers surroundings).run (machine, world) =
        .ok () (updated, (surroundings.clock world).2) ∧
      updated.state = some (state.ticks (min (due rate elapsed begun polls) 0xFF)) ∧
      updated.status = machine.status ∧ updated.stopping = machine.stopping ∧
      Counting rate elapsed begun (polls + 1) updated := by
  have later := Rat.le_trans counting.since counting.before
  have updates := run_updateTimers_exact present own read (counting.debtAt_nonneg positive)
  rw [counting.floor_debtAt positive] at updates
  refine ⟨_, updates, rfl, rfl, rfl, later, forward, ticked_late positive later, ?_⟩
  simp only
  rw [counting.debtAt, due, ← ticked_late positive later, Rat.intCast_sub]
  grind

theorem complete_timed (clocked : surroundings.Clocked count script time elapsed)
    (positive : 0 ≤ rate) (counting : Counting rate elapsed begun polls machine)
    (present : machine.state = some state) (own : machine.config.timerRate = some rate) {world : ε}
    (polled : count world = polls + 1) (late : time world = elapsed (polls + 1))
    (before : Snapshot) (operation : Operation) (instruction : Instruction) :
    ∃ entry after,
      (complete surroundings before operation instruction).run (machine, world) = .ok entry after ∧
      after.1.state = some (state.ticks (min (due rate elapsed begun polls) 0xFF)) ∧
      after.1.status = machine.status ∧ after.1.stopping = machine.stopping ∧
      count after.2 = polls + 1 ∧ Counting rate elapsed begun (polls + 1) after.1 := by
  let noted := surroundings.remark operation instruction state world
  have read : (surroundings.clock noted).1 = .ok (elapsed (polls + 1)) := by
    rw [clocked.reads, Surroundings.view_remark clocked.still, late]
  obtain ⟨updated, updates, kept, status, stopping, counts⟩ :=
    counting.run_updateTimers positive (clocked.monotone _) present own read
  have followed := run_complete_updated surroundings before operation instruction world present
    updates kept
  simp only [clocked.frame, Bool.false_eq_true, if_false, Bool.or_false] at followed
  refine ⟨_, _, followed, kept, status, stopping, ?_, { counts with }⟩
  rw [Surroundings.view_frame clocked.rendered, clocked.clock,
    Surroundings.view_remark clocked.noted, polled]

/-- A place shows a standing, in a call that began at a time. -/
structure Timed (rate : Rat) (elapsed : Nat → Rat) (begun : Rat) (count : ε → Nat)
    (standing : Standing) (place : Machine Rat × ε) : Prop where
  state : place.1.state = some standing.state
  status : place.1.status = standing.status
  polls : count place.2 = standing.polls
  counting : standing.status = .running → Counting rate elapsed begun standing.polls place.1

variable {standing : Standing} {place : Machine Rat × ε}

/-- A cycle of a call, in its step: the next standing is shown, and no stop is asked for. A step
that ends in an error has ended the machine. -/
theorem step_timed (clocked : surroundings.Clocked count script time elapsed) (positive : 0 ≤ rate)
    (own : config.timerRate = some rate) (sound : place.1.Sound config)
    (timed : Timed rate elapsed begun count standing place)
    (running : standing.status = .running) (unstopped : place.1.Unstopped)
    (awake : place.1.Awake) :
    let next := standing.next config.strict script (due rate elapsed begun)
    let stepped := (step surroundings).run place
    Timed rate elapsed begun count next (left stepped) ∧ (left stepped).1.Unstopped ∧
      ∀ error after, stepped = .error error after → next.status ≠ .running := by
  obtain ⟨machine, world⟩ := place
  obtain ⟨present, status, polls, counting⟩ := timed
  have present : machine.state = some standing.state := present
  have polls : count world = standing.polls := polls
  have counting : Counting rate elapsed begun standing.polls machine := counting running
  have formed := sound.formed standing.state present
  obtain rfl : machine.config = config := sound.settings
  intro next stepped
  simp only [next, stepped, whileRunning_eq running]
  rw [run_step_ready surroundings world present (status.trans running) awake]
  by_cases atEnd : standing.state.AtEnd
  · have ended : (standing.state.memory.size : Int) ≤ standing.state.pc + 1 := atEnd
    rw [if_pos ended, run_halt, if_pos atEnd]
    refine ⟨⟨rfl, rfl, (clocked.noted _ _).trans polls, fun other => by cases other⟩, unstopped, ?_⟩
    intro error after failed
    cases failed
  · have inside : ¬ (standing.state.memory.size : Int) ≤ standing.state.pc + 1 := atEnd
    have keys : (surroundings.poll world).1 = script standing.polls := by rw [clocked.poll, polls]
    have polled : count (surroundings.poll world).2 = standing.polls + 1 := by
      rw [clocked.polled, polls]
    rw [if_neg inside, if_neg atEnd, run_fetchAndExecute surroundings world present formed.shaped
      (formed.readable atEnd), keys, if_pos (clocked.keys _)]
    cases granted : standing.state.fault? machine.config.strict with
    | some cause =>
      refine ⟨⟨rfl, rfl, (clocked.noted _ _).trans polled, fun other => by cases other⟩,
        unstopped, ?_⟩
      intro error after failed other
      cases other
    | none =>
      let executed : Machine Rat :=
        { machine with state := some (standing.state.executed (script standing.polls)) }
      have counting : Counting rate elapsed begun standing.polls executed := { counting with }
      have late : time (surroundings.poll world).2 = elapsed (standing.polls + 1) := by
        rw [clocked.updated, polls]
      obtain ⟨entry, after, completed, kept, ran, stopping, seen, counts⟩ :=
        complete_timed clocked positive counting rfl own polled late standing.state.snapshot
          standing.state.operation standing.state.instruction
      simp only [executed] at completed
      simp only [completed]
      refine ⟨⟨kept, ran.trans (status.trans running), seen, fun _ => counts⟩,
        stopping.trans unstopped, ?_⟩
      intro error after failed
      cases failed

theorem cyclePeriod_exact (config : Config Rat) : ∃ period, config.cyclePeriod = .ok period := by
  unfold Config.cyclePeriod
  cases config.rate with
  | none => exact ⟨0, rfl⟩
  | some rate =>
    simp only [TimeScale.period]
    split
    · exact ⟨0, rfl⟩
    · exact ⟨rate⁻¹, rfl⟩

theorem pace_timed (clocked : surroundings.Clocked count script time elapsed) (cycleStart : Rat)
    (machine : Machine Rat) (world : ε) :
    ∃ world', (pace surroundings cycleStart).run (machine, world) = .ok () (machine, world') ∧
      count world' = count world := by
  obtain ⟨period, known⟩ := cyclePeriod_exact machine.config
  simp only [pace, EStateM.run_bind, run_read, known, number, EStateM.run_pure]
  split
  · simp only [EStateM.run_bind, run_demand, clocked.reads, TimeScale.sub, EStateM.run_pure]
    split
    · simp only [EStateM.run_bind, run_demand, clocked.waits, Bool.false_eq_true, if_false,
        EStateM.run_pure]
      refine ⟨_, rfl, ?_⟩
      rw [clocked.waited, clocked.clock]
    · exact ⟨_, rfl, clocked.clock world⟩
  · exact ⟨world, rfl, rfl⟩

theorem Timed.elsewhere {world world' : ε}
    (timed : Timed rate elapsed begun count standing (machine, world))
    (same : count world' = count world) :
    Timed rate elapsed begun count standing (machine, world') :=
  { timed with polls := same.trans timed.polls }

theorem turn_timed (clocked : surroundings.Clocked count script time elapsed) (positive : 0 ≤ rate)
    (own : config.timerRate = some rate) (sound : place.1.Sound config)
    (timed : Timed rate elapsed begun count standing place)
    (running : standing.status = .running) (unstopped : place.1.Unstopped)
    (awake : place.1.Awake) :
    let next := standing.next config.strict script (due rate elapsed begun)
    let turned := (turn surroundings).run place
    Timed rate elapsed begun count next (left turned) ∧ (left turned).1.Unstopped ∧
      ∀ error after, turned = .error error after → next.status ≠ .running := by
  obtain ⟨machine, world⟩ := place
  intro next turned
  have timed := timed.elsewhere (clocked.clock world)
  have sound : (machine, (surroundings.clock world).2).1.Sound config := sound
  have stepped := step_timed clocked positive own sound timed running unstopped awake
  simp only [turned, run_turn, run_demand, clocked.reads]
  cases outcome : (step surroundings).run (machine, (surroundings.clock world).2) with
  | error error after =>
    rw [outcome] at stepped
    refine ⟨stepped.1, stepped.2.1, fun _ _ _ => stepped.2.2 error after rfl⟩
  | ok entry after =>
    rw [outcome] at stepped
    obtain ⟨shows', unstopped, _⟩ := stepped
    obtain ⟨machine, world⟩ := after
    simp only
    split
    · obtain ⟨world', paced, same⟩ := pace_timed clocked (time _) machine world
      rw [paced]
      refine ⟨shows'.elsewhere same, unstopped, ?_⟩
      intro error after failed
      cases failed
    · refine ⟨shows', unstopped, ?_⟩
      intro error after failed
      cases failed

theorem cycles_timed (clocked : surroundings.Clocked count script time elapsed)
    (positive : 0 ≤ rate) (own : config.timerRate = some rate) (cycles : Nat)
    (sound : place.1.Sound config)
    (timed : Timed rate elapsed begun count standing place) (unstopped : place.1.Unstopped)
    (awake : place.1.Awake) :
    Timed rate elapsed begun count
      ((Standing.next config.strict script (due rate elapsed begun))^[cycles] standing)
      (left ((Machine.cycles surroundings cycles (some cycles)).run place)) := by
  -- The fuel and the allowance run out together, so a run is never left unfinished.
  induction cycles generalizing standing place with
  | zero =>
    rw [run_cycles_zero]
    exact timed
  | succ cycles ih =>
    rw [run_cycles_succ]
    by_cases running : standing.status = .running
    · have more : goesOn place.1 (some (cycles + 1)) = true := by
        simp [goesOn, timed.status.trans running, show place.1.stopping = false from unstopped]
      have turned := turn_timed clocked positive own sound timed running unstopped awake
      have kept := keeps_turn surroundings place sound
      have still := awake_turn surroundings place awake
      rw [if_pos more, Function.iterate_succ_apply]
      cases outcome : (turn surroundings).run place with
      | error error next =>
        rw [outcome] at turned
        rw [iterate_ended (turned.2.2 error next rfl)]
        exact turned.1
      | ok _ next =>
        rw [outcome] at turned kept still
        exact ih kept turned.1 turned.2.1 still
    · have closed : ¬ goesOn place.1 (some (cycles + 1)) = true := by
        simp [goesOn, timed.status, running]
      rw [if_neg closed, iterate_ended running]
      exact timed

/-- The standing of a machine that has a state, at the outset of a call. -/
def outset (machine : Machine Rat) (state : State) (polls : Nat) : Standing where
  status := if machine.status = .loaded then .running else machine.status
  state := state
  polls := polls

/-- A run of some cycles shows what that many cycles come to, with the ticks of a call that began
when the run did. -/
theorem run_timed (clocked : surroundings.Clocked count script time elapsed) (positive : 0 ≤ rate)
    (own : config.timerRate = some rate) (sound : machine.Sound config)
    (present : machine.state = some state) (world : ε) (cycles : Nat) :
    Timed rate elapsed (time world) count
      ((Standing.next config.strict script (due rate elapsed (time world)))^[cycles]
        (machine.outset state (count world)))
      ((Request.run cycles (some cycles)).serve surroundings (machine, world)) := by
  let begun : Machine Rat := resumed (time world)
    { machine with
      stopping := false
      status := if machine.status = .loaded then .running else machine.status }
  have begins : (beginRun surroundings).run (machine, world) =
      .ok () (begun, (surroundings.clock world).2) := by
    rw [run_beginRun_resume surroundings world present, run_resumeClock, clocked.reads]
    rfl
  have rested := idles_beginRun surroundings (machine, world)
  rw [begins] at rested
  have timed : Timed rate elapsed (time world) count (machine.outset state (count world))
      (begun, (surroundings.clock world).2) := by
    obtain ⟨early, late⟩ := clocked.between world
    exact ⟨present, rfl, clocked.clock world, fun _ => .begin positive early late⟩
  have sound : (begun, (surroundings.clock world).2).1.Sound config := sound.rested rested.1
  have ended := cycles_timed clocked positive own cycles sound timed rfl rfl
  have allowed : allowance begun (some (cycles : Int)) = some cycles := rfl
  rw [serve_run, run_run, begins]
  simp only [allowed]
  cases outcome : (Machine.cycles surroundings cycles (some cycles)).run
      (begun, (surroundings.clock world).2) with
  | error error place =>
    rw [outcome] at ended
    exact ended
  | ok finished place =>
    rw [outcome] at ended
    have counting : Timed rate elapsed (time world) count _
        ({ place.1 with clockPaused := true }, place.2) :=
      ⟨ended.state, ended.status, ended.polls, fun running => { ended.counting running with }⟩
    cases finished with
    | false => exact ended
    | true => exact counting

end Machine

end ChipEight
