import ChipEight.Proofs.Onsets
import ChipEight.Proofs.Pauses
import ChipEight.Proofs.Reset

/-! A step whose keys are turned down is no more than a rest to the machine. Where the timers keep
to the cycles, no later request can tell a rest. -/

namespace ChipEight

/-- Worlds that are the same but for the time. The clock can be read in all of them, and reading it
leads to no other world. Everything else goes alike, a pause by whichever of their readings. -/
structure Surroundings.Timeless {τ ε : Type} [TimeScale τ] (surroundings : Surroundings τ ε)
    (config : Config τ) (same : ε → ε → Prop) : Prop where
  reads : ∀ world, ∃ now, (surroundings.clock world).1 = .ok now
  sooner : ∀ {world world'}, same world world' → same (surroundings.clock world).2 world'
  later : ∀ {world world'}, same world world' → same world (surroundings.clock world').2
  poll : ∀ {world world'}, same world world' →
    (surroundings.poll world').1 = (surroundings.poll world).1 ∧
      same (surroundings.poll world).2 (surroundings.poll world').2
  render : ∀ rows {world world'}, same world world' →
    (surroundings.render rows world').1 = (surroundings.render rows world).1 ∧
      same (surroundings.render rows world).2 (surroundings.render rows world').2
  note : ∀ note {world world'}, same world world' →
    same (surroundings.note note world) (surroundings.note note world')
  pause : ∀ {before before' world world' : ε} {start start' : τ}, same before before' →
    (surroundings.clock before).1 = .ok start → (surroundings.clock before').1 = .ok start' →
    same world world' → ∀ machine : Machine τ, machine.config = config →
      let paused := (Machine.pace surroundings start).run (machine, world)
      let paused' := (Machine.pace surroundings start').run (machine, world')
      verdict paused' = verdict paused ∧
        (left paused').1.stopping = (left paused).1.stopping ∧
        same (left paused).2 (left paused').2

namespace Machine

variable {τ ε α β : Type} {config : Config τ} {machine other : Machine τ} {state : State}
  {surroundings : Surroundings τ ε} {same : ε → ε → Prop} {place place' : Machine τ × ε}
  {world world' : ε}

/-- The second place is the first after a rest, in a world that is the same but for the time.
During a run the machines are also at the same stage, and asked to stop or not. -/
structure Resembles (same : ε → ε → Prop) (during : Prop) (place place' : Machine τ × ε) :
    Prop where
  rests : place.1.Rests place'.1
  bytes : place'.1.loadedBytes = place.1.loadedBytes
  world : same place.2 place'.2
  level : during → place'.1.status = place.1.status ∧ place'.1.stopping = place.1.stopping

/-- A rest that starts no machine. -/
structure Aligned (same : ε → ε → Prop) (during : Prop) (place place' : Machine τ × ε) : Prop
    extends Resembles same during place place' where
  status : place'.1.status = place.1.status

/-- Calls that end alike, and leave places in a relation. -/
structure Tallies (relation : Machine τ × ε → Machine τ × ε → Prop)
    (result result' : EStateM.Result Error (Machine τ × ε) α) : Prop where
  verdict : verdict result' = verdict result
  left : relation (left result) (left result')

namespace Tallies

variable {relation : Machine τ × ε → Machine τ × ε → Prop} {call : Call τ ε α}
  {result result' : EStateM.Result Error (Machine τ × ε) α}

theorem alike (tallies : Tallies relation result result') :
    (∃ value after after', result = .ok value after ∧ result' = .ok value after' ∧
      relation after after') ∨
    ∃ error after after', result = .error error after ∧ result' = .error error after' ∧
      relation after after' := by
  obtain ⟨verdict, left⟩ := tallies
  cases result <;> cases result' <;> cases verdict
  · exact .inl ⟨_, _, _, rfl, rfl, left⟩
  · exact .inr ⟨_, _, _, rfl, rfl, left⟩

theorem bind {next : α → Call τ ε β} (first : Tallies relation (call.run place) (call.run place'))
    (rest : ∀ value after after', call.run place = .ok value after →
      call.run place' = .ok value after' → relation after after' →
        Tallies relation ((next value).run after) ((next value).run after')) :
    Tallies relation ((call >>= next).run place) ((call >>= next).run place') := by
  rw [EStateM.run_bind, EStateM.run_bind]
  rcases first.alike with ⟨value, after, after', ran, ran', related⟩ |
    ⟨error, after, after', ran, ran', related⟩
  · rw [ran, ran']
    exact rest value after after' ran ran' related
  · rw [ran, ran']
    exact ⟨rfl, related⟩

theorem map (tallies : Tallies relation (call.run place) (call.run place')) (change : α → β) :
    Tallies relation ((do return change (← call) : Call τ ε β).run place)
      ((do return change (← call) : Call τ ε β).run place') :=
  tallies.bind fun _ _ _ _ _ related => ⟨rfl, related⟩

end Tallies

/-- A call that goes the same for all machines, and does no more to them than ask them to stop. -/
def StopsAtMost (call : Call τ ε α) : Prop :=
  ∀ world, ∃ result : EStateM.Result Error ε α, ∃ asked, ∀ machine : Machine τ,
    let place := ({ machine with stopping := machine.stopping || asked }, left result)
    call.run (machine, world) =
      match result with
      | .ok value _ => .ok value place
      | .error error _ => .error error place

namespace StopsAtMost

theorem bind {call : Call τ ε α} {next : α → Call τ ε β} (first : StopsAtMost call)
    (rest : ∀ value, StopsAtMost (next value)) : StopsAtMost (call >>= next) := by
  intro world
  obtain ⟨result, asked, ran⟩ := first world
  cases result with
  | error error world' =>
    refine ⟨.error error world', asked, fun machine => ?_⟩
    rw [EStateM.run_bind, ran machine]
    rfl
  | ok value between =>
    obtain ⟨result, asked', ran'⟩ := rest value between
    refine ⟨result, asked || asked', fun machine => ?_⟩
    rw [EStateM.run_bind, ran machine, ← Bool.or_assoc]
    exact ran' _

theorem pure (value : α) : StopsAtMost (Pure.pure value : Call τ ε α) := fun world =>
  ⟨.ok value world, false, fun machine => by rw [Bool.or_false]; rfl⟩

theorem throw (error : Error) : StopsAtMost (MonadExcept.throw error : Call τ ε α) := fun world =>
  ⟨.error error world, false, fun machine => by rw [Bool.or_false]; rfl⟩

theorem ite {condition : Prop} [Decidable condition] {call other : Call τ ε α}
    (yes : StopsAtMost call)
    (no : StopsAtMost other) : StopsAtMost (if condition then call else other) := by
  split
  · exact yes
  · exact no

end StopsAtMost

theorem stopsAtMost_number (result : Except NumberError α) :
    StopsAtMost (number result : Call τ ε α) := by
  cases result with
  | ok value => exact .pure value
  | error cause => exact .throw (.number cause)

theorem stopsAtMost_demand (request : ε → Except Error α × ε) :
    StopsAtMost (demand request : Call τ ε α) := by
  intro world
  cases answered : (request world).1 with
  | ok answer =>
    refine ⟨.ok answer (request world).2, false, fun machine => ?_⟩
    rw [run_demand, answered, Bool.or_false]
    rfl
  | error error =>
    refine ⟨.error error (request world).2, false, fun machine => ?_⟩
    rw [run_demand, answered, Bool.or_false]
    rfl

theorem stopsAtMost_stop : StopsAtMost (stop : Call τ ε Unit) := fun world =>
  ⟨.ok () world, true, fun machine => by rw [run_stop, Bool.or_true]; rfl⟩

variable [TimeScale τ]

theorem stopsAtMost_pace (surroundings : Surroundings τ ε) (config : Config τ) (start : τ) :
    ∃ call : Call τ ε Unit, StopsAtMost call ∧
      ∀ (machine : Machine τ) world, machine.config = config →
      (pace surroundings start).run (machine, world) = call.run (machine, world) := by
  have rest (period : τ) : StopsAtMost
      (do
        if !TimeScale.isNonPositive period then
          let now ← demand surroundings.clock
          let passed ← number (TimeScale.sub now start)
          let remaining ← number (TimeScale.sub period passed)
          if TimeScale.isPositive remaining then
            let stopped ← demand (surroundings.wait remaining)
            if stopped then stop : Call τ ε Unit) := by
    refine .ite ?_ (.pure ())
    refine (stopsAtMost_demand _).bind fun now => ?_
    refine (stopsAtMost_number _).bind fun passed => ?_
    refine (stopsAtMost_number _).bind fun remaining => ?_
    refine .ite ?_ (.pure ())
    exact (stopsAtMost_demand _).bind fun stopped => .ite stopsAtMost_stop (.pure ())
  refine ⟨_, (stopsAtMost_number config.cyclePeriod).bind rest, ?_⟩
  rintro machine world rfl
  rfl

omit [TimeScale τ] in
theorem with_awake (awake : machine.clockPaused = false) (running : machine.status = .running) :
    { machine with status := .running, clockPaused := false } = machine := by
  rw [← awake, ← running]

theorem run_wake_ready (surroundings : Surroundings τ ε)
    (ready : machine.status = .loaded ∨ machine.status = .running)
    (reads : machine.status = .loaded ∨ machine.clockPaused = true →
      ∃ now, (surroundings.clock world).1 = .ok now) :
    ∃ base debt, (wake surroundings).run (machine, world) =
      .ok ()
        ({ machine with
            status := .running
            stopping := if machine.status = .loaded then false else machine.stopping
            timerBase := base
            timerDebt := debt
            clockPaused := false },
          if machine.status = .loaded ∨ machine.clockPaused = true then (surroundings.clock world).2
          else world) := by
  rw [run_wake]
  rcases ready with loaded | running
  · obtain ⟨now, read⟩ := reads (.inl loaded)
    refine ⟨now, TimeScale.zero, ?_⟩
    simp [loaded, run_start, run_resumeClock, read]
  · cases paused : machine.clockPaused with
    | true =>
      obtain ⟨now, read⟩ := reads (.inr paused)
      refine ⟨now, TimeScale.zero, ?_⟩
      simp [running, run_resumeClock, read]
    | false =>
      refine ⟨machine.timerBase, machine.timerDebt, ?_⟩
      simp [running, with_awake paused running]

namespace Resembles

variable {during : Prop}

omit [TimeScale τ] in
/-- Where the first machine is not ready for a start, both are at the same stage. -/
theorem aligned (resembles : Resembles same during place place')
    (started : place.1.status ≠ .loaded) : Aligned same during place place' where
  toResembles := resembles
  status := by
    rcases resembles.rests.status with same | ⟨loaded, _⟩
    · exact same
    · exact absurd loaded started

theorem wake (timeless : surroundings.Timeless config same)
    (resembles : Resembles same during place place') :
    Tallies (Aligned same during) ((wake surroundings).run place)
      ((Machine.wake surroundings).run place') := by
  obtain ⟨machine, world⟩ := place
  obtain ⟨other, world'⟩ := place'
  by_cases ready : machine.status = .loaded ∨ machine.status = .running
  · have ready' : other.status = .loaded ∨ other.status = .running := by
      rcases resembles.rests.status with same | ⟨_, running⟩
      · rwa [same]
      · exact .inr running
    obtain ⟨base, debt, woken⟩ := run_wake_ready surroundings ready fun _ => timeless.reads world
    obtain ⟨base', debt', woken'⟩ :=
      run_wake_ready surroundings ready' fun _ => timeless.reads world'
    obtain ⟨rests, bytes, near, level⟩ := resembles
    rw [woken, woken']
    refine ⟨rfl, ⟨⟨rests.config, rests.state, rests.trace, .inl rfl⟩, bytes, ?_, ?_⟩, rfl⟩
    · simp only [left]
      split
      · split
        · exact timeless.later (timeless.sooner near)
        · exact timeless.sooner near
      · split
        · exact timeless.later near
        · exact near
    · intro inside
      obtain ⟨status, stopping⟩ : other.status = machine.status ∧
        other.stopping = machine.stopping := level inside
      simp only [left, status, stopping, and_self]
  · obtain ⟨loaded, running⟩ := not_or.mp ready
    have aligned := resembles.aligned loaded
    have status : other.status = machine.status := aligned.status
    rw [run_wake, run_wake, status, if_neg loaded, if_neg running, if_neg loaded, if_neg running]
    exact ⟨rfl, aligned⟩

end Resembles

namespace Aligned

variable {during : Prop}

theorem complete (timeless : surroundings.Timeless config same) (shared : config.timerRate = none)
    (aligned : Aligned same during place place') (settings : place.1.config = config)
    (present : place.1.state = some state) (before : Snapshot) (operation : Operation)
    (instruction : Instruction) :
    Tallies (Aligned same during) ((complete surroundings before operation instruction).run place)
      ((Machine.complete surroundings before operation instruction).run place') := by
  obtain ⟨machine, world⟩ := place
  obtain ⟨other, world'⟩ := place'
  obtain ⟨⟨⟨settings', kept, entered, _⟩, bytes, near, level⟩, status⟩ := aligned
  simp only at settings present settings' kept entered bytes near level status
  have shared : machine.config.timerRate = none := by rw [settings, shared]
  have shared' : other.config.timerRate = none := by rw [settings', shared]
  have shows : other.shows operation = machine.shows operation := by rw [shows, settings', shows]
  have remarked := Surroundings.remark_cases
    (fun told => ∀ {world world'}, same world world' → same (told world) (told world'))
    id timeless.note operation instruction state near
  obtain ⟨shown, near'⟩ := Surroundings.frame_cases
    (fun shown => ∀ rows {world world'}, same world world' →
      (shown rows world').1 = (shown rows world).1 ∧
        same (shown rows world).2 (shown rows world').2)
    (fun _ _ _ near => ⟨rfl, near⟩) timeless.render (machine.shows operation)
    state.tick.display.rows remarked
  rw [run_complete surroundings before operation instruction world present shared,
    run_complete surroundings before operation instruction world' (kept.trans present) shared']
  simp only [shows, shown, entered]
  have stopping inside := congrArg (· || (surroundings.frame (machine.shows operation)
    state.tick.display.rows (surroundings.remark operation instruction state world)).1.stop)
    (level inside).2
  split
  · exact ⟨rfl, ⟨⟨settings', rfl, rfl, .inl status⟩, bytes, near',
      fun inside => ⟨status, stopping inside⟩⟩, status⟩
  · exact ⟨rfl, ⟨⟨settings', rfl, rfl, .inl status⟩, bytes, near',
      fun inside => ⟨status, stopping inside⟩⟩, status⟩

theorem cycle (timeless : surroundings.Timeless config same) (shared : config.timerRate = none)
    (aligned : Aligned same during place place') (sound : place.1.Sound config)
    (running : place.1.status = .running) (awake : place.1.clockPaused = false)
    (awake' : place'.1.clockPaused = false) :
    Tallies (Aligned same during) ((step surroundings).run place)
      ((step surroundings).run place') := by
  obtain ⟨machine, world⟩ := place
  obtain ⟨other, world'⟩ := place'
  obtain ⟨state, present⟩ := sound.present (by rw [running]; decide)
  obtain ⟨⟨⟨settings', kept, entered, _⟩, bytes, near, level⟩, status⟩ := aligned
  simp only at running present settings' kept entered bytes near level status
  have formed := sound.formed state present
  have present' := kept.trans present
  rw [run_step_ready surroundings world present running awake,
    run_step_ready surroundings world' present' (status.trans running) awake']
  by_cases atEnd : (state.memory.size : Int) ≤ state.pc + 1
  · rw [if_pos atEnd, if_pos atEnd, run_halt, run_halt, entered]
    exact ⟨rfl, ⟨⟨settings', rfl, rfl, .inl rfl⟩, bytes, timeless.note _ near,
      fun inside => ⟨rfl, (level inside).2⟩⟩, rfl⟩
  · have readable := formed.readable atEnd
    obtain ⟨polled, near'⟩ := timeless.poll near
    rw [if_neg atEnd, if_neg atEnd,
      run_fetchAndExecute surroundings world present formed.shaped readable,
      run_fetchAndExecute surroundings world' present' formed.shaped readable]
    simp only [polled, show other.config.strict = machine.config.strict by rw [settings']]
    by_cases sixteen : (surroundings.poll world).1.length = 16
    · rw [if_pos sixteen, if_pos sixteen]
      cases state.fault? machine.config.strict with
      | some cause =>
        simp only [entered]
        exact ⟨rfl, ⟨⟨settings', rfl, rfl, .inl rfl⟩, bytes, timeless.note _ near',
          fun inside => ⟨rfl, (level inside).2⟩⟩, rfl⟩
      | none =>
        have executing : Aligned same during
            ({ machine with state := some (state.executed (surroundings.poll world).1) },
              (surroundings.poll world).2)
            ({ other with state := some (state.executed (surroundings.poll world).1) },
              (surroundings.poll world').2) :=
          ⟨⟨⟨settings', rfl, entered, .inl status⟩, bytes, near', level⟩, status⟩
        exact executing.complete timeless shared sound.settings rfl _ _ _
    · rw [if_neg sixteen, if_neg sixteen]
      exact ⟨rfl, ⟨⟨settings', kept, entered, .inl status⟩, bytes, near', level⟩, status⟩

theorem pace (timeless : surroundings.Timeless config same) (settings : place.1.config = config)
    (aligned : Aligned same during place place') (before : same world world') {start start' : τ}
    (read : (surroundings.clock world).1 = .ok start)
    (read' : (surroundings.clock world').1 = .ok start') :
    Tallies (Aligned same during) ((pace surroundings start).run place)
      ((Machine.pace surroundings start').run place') := by
  obtain ⟨machine, between⟩ := place
  obtain ⟨other, between'⟩ := place'
  obtain ⟨⟨⟨settings', kept, entered, _⟩, bytes, near, level⟩, status⟩ := aligned
  simp only at settings settings' kept entered bytes near level status
  obtain ⟨call, atMost, paced⟩ := stopsAtMost_pace surroundings config start
  obtain ⟨call', atMost', paced'⟩ := stopsAtMost_pace surroundings config start'
  obtain ⟨result, asked, ran⟩ := atMost between
  obtain ⟨result', asked', ran'⟩ := atMost' between'
  -- The surroundings speak of one machine; here it is one that is not asked to stop.
  let unstopped : Machine τ := { machine with stopping := false }
  obtain ⟨verdict, stopping, near'⟩ := timeless.pause before read read' near unstopped settings
  rw [paced unstopped between settings, paced' unstopped between' settings, ran, ran']
    at verdict stopping near'
  rw [paced machine between settings, paced' other between' (settings'.trans settings), ran, ran']
  cases result <;> cases result' <;> cases verdict
  all_goals
    obtain rfl : asked' = asked := by simpa [left, unstopped] using stopping
    refine ⟨rfl, ⟨⟨settings', kept, entered, .inl status⟩, bytes, near', fun inside => ?_⟩, status⟩
    exact ⟨status, congrArg (· || asked') (level inside).2⟩

end Aligned

namespace Resembles

variable {during : Prop}

theorem step (timeless : surroundings.Timeless config same) (shared : config.timerRate = none)
    (resembles : Resembles same during place place') (sound : place.1.Sound config) :
    Tallies (Aligned same during) ((step surroundings).run place)
      ((Machine.step surroundings).run place') := by
  obtain ⟨machine, world⟩ := place
  obtain ⟨other, world'⟩ := place'
  have kept : other.state = machine.state := resembles.rests.state
  cases present : machine.state with
  | none =>
    have idle : machine.status = .idle := sound.idle.mp present
    rw [run_step_blank surroundings world present,
      run_step_blank surroundings world' (kept.trans present)]
    exact ⟨rfl, resembles.aligned (by simp [idle])⟩
  | some state =>
    rw [run_step_wake surroundings world present,
      run_step_wake surroundings world' (kept.trans present)]
    refine (resembles.wake timeless).bind ?_
    intro _ after after' woken woken' aligned
    have spec := wake_spec surroundings machine world
    have spec' := wake_spec surroundings other world'
    rw [woken] at spec
    rw [woken'] at spec'
    exact aligned.cycle timeless shared (sound.rested spec.1.1) spec.2.1 spec.2.2 spec'.2.2

theorem turn (timeless : surroundings.Timeless config same) (shared : config.timerRate = none)
    (resembles : Resembles same during place place') (sound : place.1.Sound config) :
    Tallies (Aligned same during) ((turn surroundings).run place)
      ((Machine.turn surroundings).run place') := by
  obtain ⟨machine, world⟩ := place
  obtain ⟨other, world'⟩ := place'
  obtain ⟨start, read⟩ := timeless.reads world
  obtain ⟨start', read'⟩ := timeless.reads world'
  have clocked : Resembles same during (machine, (surroundings.clock world).2)
      (other, (surroundings.clock world').2) :=
    { resembles with world := timeless.later (timeless.sooner resembles.world) }
  have kept := keeps_step surroundings (machine, (surroundings.clock world).2) sound
  simp only [run_turn, run_demand, read, read']
  rcases (clocked.step timeless shared sound).alike with ⟨_, after, after', ran, ran', aligned⟩ |
    ⟨error, after, after', ran, ran', aligned⟩
  · rw [ran] at kept
    simp only [ran, ran', aligned.status]
    split
    · exact aligned.pace timeless kept.settings resembles.world read read'
    · exact ⟨rfl, aligned⟩
  · simp only [ran, ran']
    exact ⟨rfl, aligned⟩

end Resembles

namespace Aligned

theorem cycles (timeless : surroundings.Timeless config same) (shared : config.timerRate = none)
    (aligned : Aligned same True place place') (sound : place.1.Sound config) (fuel : Nat)
    (remaining : Option Nat) :
    Tallies (Aligned same True) ((cycles surroundings fuel remaining).run place)
      ((Machine.cycles surroundings fuel remaining).run place') := by
  induction fuel generalizing remaining place place' with
  | zero =>
    rw [run_cycles_zero, run_cycles_zero, goesOn, goesOn, aligned.status, (aligned.level trivial).2]
    exact ⟨rfl, aligned⟩
  | succ fuel ih =>
    have on : goesOn place'.1 remaining = goesOn place.1 remaining := by
      rw [goesOn, goesOn, aligned.status, (aligned.level trivial).2]
    rw [run_cycles_succ, run_cycles_succ, on]
    split
    · have kept := keeps_turn surroundings place sound
      rcases (aligned.turn timeless shared sound).alike with
        ⟨_, after, after', ran, ran', further⟩ | ⟨error, after, after', ran, ran', further⟩
      · rw [ran] at kept
        simp only [ran, ran']
        exact ih further kept _
      · simp only [ran, ran']
        exact ⟨rfl, further⟩
    · exact ⟨rfl, aligned⟩

end Aligned

namespace Resembles

variable {during : Prop}

theorem beginRun (timeless : surroundings.Timeless config same)
    (resembles : Resembles same during place place') (present : place.1.state = some state) :
    ∃ begun begun', (beginRun surroundings).run place = .ok () begun ∧
      (Machine.beginRun surroundings).run place' = .ok () begun' ∧
      Aligned same True begun begun' := by
  obtain ⟨machine, world⟩ := place
  obtain ⟨other, world'⟩ := place'
  obtain ⟨now, read⟩ := timeless.reads world
  obtain ⟨now', read'⟩ := timeless.reads world'
  obtain ⟨⟨settings', kept, entered, status⟩, bytes, near, _⟩ := resembles
  simp only at present settings' kept entered status bytes near
  have level : (if other.status = .loaded then .running else other.status) =
      if machine.status = .loaded then Status.running else machine.status := by
    rcases status with same | ⟨loaded, running⟩
    · rw [same]
    · simp [loaded, running]
  rw [run_beginRun_resume surroundings world present,
    run_beginRun_resume surroundings world' (kept.trans present), run_resumeClock, run_resumeClock,
    read, read']
  exact ⟨_, _, rfl, rfl, ⟨⟨settings', kept, entered, .inl level⟩, bytes,
    timeless.later (timeless.sooner near), fun _ => ⟨level, rfl⟩⟩, level⟩

theorem run (timeless : surroundings.Timeless config same) (shared : config.timerRate = none)
    (resembles : Resembles same during place place') (sound : place.1.Sound config) (fuel : Nat)
    (limit : Option Int) :
    Tallies (Aligned same during) ((run surroundings fuel limit).run place)
      ((Machine.run surroundings fuel limit).run place') := by
  cases present : place.1.state with
  | none =>
    have idle : place.1.status = .idle := sound.idle.mp present
    rw [run_run_blank surroundings fuel limit place.2 present,
      run_run_blank surroundings fuel limit place'.2 (resembles.rests.state.trans present)]
    exact ⟨rfl, resembles.aligned (by simp [idle])⟩
  | some state =>
    obtain ⟨begun, begun', begins, begins', aligned⟩ := resembles.beginRun timeless present
    have rests := idles_beginRun surroundings place
    rw [begins] at rests
    have allowed : allowance begun'.1 limit = allowance begun.1 limit := by
      rw [allowance, allowance, aligned.rests.config]
    rw [run_run, run_run, begins, begins']
    simp only [allowed]
    rcases (aligned.cycles timeless shared (sound.rested rests.1) fuel
        (allowance begun.1 limit)).alike with
      ⟨finished, ended, ended', ran, ran', left⟩ | ⟨error, ended, ended', ran, ran', left⟩
    · simp only [ran, ran']
      obtain ⟨⟨⟨settings', kept, entered, status⟩, bytes, near, level⟩, staged⟩ := left
      cases finished with
      | false =>
        exact ⟨rfl, ⟨⟨settings', kept, entered, status⟩, bytes, near, fun _ => level trivial⟩,
          staged⟩
      | true =>
        refine ⟨?_, ⟨⟨settings', kept, entered, status⟩, bytes, near, fun _ => level trivial⟩,
          staged⟩
        exact congrArg (fun trace : Trace => Except.ok (some trace.entries)) entered
    · simp only [ran, ran']
      exact ⟨rfl, { left with level := fun _ => left.level trivial }⟩

theorem start (timeless : surroundings.Timeless config same)
    (resembles : Resembles same during place place') :
    Tallies (Aligned same during) ((start surroundings).run place)
      ((Machine.start surroundings).run place') := by
  obtain ⟨machine, world⟩ := place
  obtain ⟨other, world'⟩ := place'
  obtain ⟨now, read⟩ := timeless.reads world
  obtain ⟨now', read'⟩ := timeless.reads world'
  rw [run_start, run_start]
  by_cases loaded : machine.status = .loaded
  · obtain ⟨⟨settings', kept, entered, status⟩, bytes, near, level⟩ := resembles
    simp only at settings' kept entered status bytes near level
    have started : machine.status ≠ .running := by rw [loaded]; decide
    rw [if_neg started, if_pos loaded, run_resumeClock, read]
    rcases status with ready | ⟨_, running⟩
    · replace ready := ready.trans loaded
      rw [if_neg (by rw [ready]; decide), if_pos ready, run_resumeClock, read']
      exact ⟨rfl, ⟨⟨settings', kept, entered, .inl rfl⟩, bytes,
        timeless.later (timeless.sooner near), fun _ => ⟨rfl, rfl⟩⟩, rfl⟩
    · -- Only between runs can one machine be running and the other still be ready.
      have outside (inside : during) : False := by
        have together := (level inside).1
        rw [loaded, running] at together
        cases together
      rw [if_pos running]
      exact ⟨rfl, ⟨⟨settings', kept, entered, .inl running⟩, bytes, timeless.sooner near,
        fun inside => (outside inside).elim⟩, running⟩
  · have aligned := resembles.aligned loaded
    have status : other.status = machine.status := aligned.status
    simp only [status, if_neg loaded]
    split
    · exact ⟨rfl, aligned⟩
    · exact ⟨rfl, aligned⟩

theorem load (timeless : surroundings.Timeless config same) (program : List UInt8)
    (resembles : Resembles same during place place') :
    Tallies (Aligned same during) ((load surroundings program).run place)
      ((Machine.load surroundings program).run place') := by
  obtain ⟨machine, world⟩ := place
  obtain ⟨other, world'⟩ := place'
  obtain ⟨⟨settings', _, entered, _⟩, _, near, _⟩ := resembles
  simp only at settings' entered near
  have cleared : other.trace.clear = machine.trace.clear := by rw [entered]
  rw [run_load, run_load]
  refine ⟨rfl, ⟨⟨settings', rfl, cleared, .inl rfl⟩, rfl, ?_, fun _ => ⟨rfl, rfl⟩⟩, rfl⟩
  apply timeless.note
  split
  · exact timeless.note _ near
  · exact near

/-- Every request is answered alike, and all but a wish to stop bring the machines to the same
stage. -/
theorem answer (timeless : surroundings.Timeless config same) (shared : config.timerRate = none)
    (resembles : Resembles same False place place') (sound : place.1.Sound config)
    (request : Request) :
    Tallies (fun after after' => Resembles same False after after' ∧
        (request ≠ .stop → after'.1.status = after.1.status))
      ((request.answer surroundings).run place) ((request.answer surroundings).run place') := by
  have aligned {result result' : EStateM.Result Error (Machine τ × ε) Answer}
      (tallies : Tallies (Aligned same False) result result') :
      Tallies (fun after after' => Resembles same False after after' ∧
        (request ≠ .stop → after'.1.status = after.1.status)) result result' :=
    ⟨tallies.verdict, tallies.left.toResembles, fun _ => tallies.left.status⟩
  cases request with
  | load program => exact aligned ((resembles.load timeless program).map _)
  | start => exact aligned ((resembles.start timeless).map _)
  | stop =>
    obtain ⟨⟨settings', kept, entered, status⟩, bytes, near, _⟩ := resembles
    exact ⟨rfl, ⟨⟨settings', kept, entered, status⟩, bytes, near, False.elim⟩,
      fun other => absurd rfl other⟩
  | step => exact aligned ((resembles.step timeless shared sound).map _)
  | run fuel limit => exact aligned ((resembles.run timeless shared sound fuel limit).map _)

theorem serve (timeless : surroundings.Timeless config same) (shared : config.timerRate = none)
    (resembles : Resembles same False place place') (sound : place.1.Sound config)
    (requests : List Request) :
    Resembles same False (serve surroundings requests place)
      (Machine.serve surroundings requests place') := by
  induction requests generalizing place place' with
  | nil => exact resembles
  | cons request requests ih =>
    have answered := (resembles.answer timeless shared sound request).left.1
    rw [left_answer, left_answer] at answered
    exact ih answered (keeps_call surroundings request place sound)

end Resembles

/-- Nobody can tell that one machine is in the place of the other, in worlds that are the same but
for the time: every request after others gets the same answer or error, with the same state, trace
and bytes, and in worlds that are the same. A start may be ahead until something else than a stop
is asked for. -/
def Unnoticed (config : Config τ) (machine other : Machine τ) : Prop :=
  ∀ (ε : Type) (surroundings : Surroundings τ ε) (same : ε → ε → Prop),
    surroundings.Timeless config same → ∀ world world', same world world' →
      ∀ (requests : List Request) (request : Request),
        let result :=
          (request.answer surroundings).run (serve surroundings requests (machine, world))
        let result' :=
          (request.answer surroundings).run (serve surroundings requests (other, world'))
        verdict result' = verdict result ∧
          (left result).1.Rests (left result').1 ∧
          (left result').1.loadedBytes = (left result).1.loadedBytes ∧
          (request ≠ .stop → (left result').1.status = (left result).1.status) ∧
          same (left result).2 (left result').2

/-- A rest is not noticed where the timers keep to the cycles. -/
theorem Rests.unnoticed (rests : machine.Rests other) (sound : machine.Sound config)
    (shared : config.timerRate = none) (bytes : other.loadedBytes = machine.loadedBytes) :
    Unnoticed config machine other := by
  intro ε surroundings same timeless world world' near requests request
  have resembles : Resembles same False (machine, world) (other, world') :=
    ⟨rests, bytes, near, False.elim⟩
  have served := resembles.serve timeless shared sound requests
  obtain ⟨verdict, left, staged⟩ := served.answer timeless shared
    (sound_serve surroundings requests sound) request
  exact ⟨verdict, left.rests, left.bytes, staged, left.world⟩

/-- A run asks for its cycles with the machine running and its clock read, and an error of a cycle
ends the run. -/
theorem cyclesOnsets_spec (surroundings : Surroundings τ ε) (fuel : Nat) (remaining : Option Nat)
    (awake : place.1.Awake) : ∀ here ∈ cyclesOnsets surroundings fuel remaining place,
      here.1.status = .running ∧ here.1.Awake ∧ ∀ error reached,
        (step surroundings).run here = .error error reached →
          (cycles surroundings fuel remaining).run place = .error error reached := by
  induction fuel generalizing remaining place with
  | zero => simp [cyclesOnsets]
  | succ fuel ih =>
    intro here asked
    rw [cyclesOnsets] at asked
    by_cases more : goesOn place.1 remaining
    · rw [if_pos more, List.mem_append] at asked
      rw [run_cycles_succ, if_pos more]
      have running : place.1.status = .running := by
        simp only [goesOn, Bool.and_eq_true, beq_iff_eq] at more
        exact more.1.1
      rcases asked with first | later
      · obtain ⟨machine, world⟩ := place
        rw [turnOnsets, run_demand] at first
        rw [run_turn, run_demand]
        cases read : (surroundings.clock world).1 with
        | error error => simp [read] at first
        | ok now =>
          simp only [read, List.mem_singleton] at first
          subst first
          refine ⟨running, awake, fun error reached failed => ?_⟩
          simp only [failed]
      · have kept := awake_turn surroundings place awake
        cases turned : (turn surroundings).run place with
        | error error next => simp [turned] at later
        | ok _ next =>
          rw [turned] at later kept
          exact ih _ kept here later
    · rw [if_neg more] at asked
      cases asked

theorem awake_begun {begun : Machine τ × ε}
    (begins : (beginRun surroundings).run place = .ok () begun) : begun.1.Awake := by
  obtain ⟨machine, world⟩ := place
  cases present : machine.state with
  | none => simp [beginRun, run_read, present] at begins
  | some state =>
    rw [run_beginRun_resume surroundings world present, run_resumeClock] at begins
    cases read : (surroundings.clock world).1 <;> rw [read] at begins <;> cases begins
    rfl

theorem run_onsets_spec (surroundings : Surroundings τ ε) (fuel : Nat) (limit : Option Int)
    (place : Machine τ × ε) : ∀ here ∈ (Request.run fuel limit).onsets surroundings place,
      here.1.status = .running ∧ here.1.Awake ∧ ∀ error reached,
        (step surroundings).run here = .error error reached →
          (run surroundings fuel limit).run place = .error error reached := by
  intro here asked
  rw [Request.onsets] at asked
  cases begins : (beginRun surroundings).run place with
  | error error begun => simp [begins] at asked
  | ok _ begun =>
    simp only [begins] at asked
    obtain ⟨running, still, ends⟩ :=
      cyclesOnsets_spec surroundings fuel _ (awake_begun begins) here asked
    refine ⟨running, still, fun error reached failed => ?_⟩
    rw [run_run, begins]
    simp only [ends error reached failed]

theorem run_step_turnsDown (surroundings : Surroundings τ ε) (world : ε)
    (sound : machine.Sound config) (present : machine.state = some state)
    (running : machine.status = .running) (awake : machine.Awake)
    (turned : state.TurnsDown (surroundings.poll world).1) :
    (step surroundings).run (machine, world) =
      .error (.keyCount (surroundings.poll world).1.length)
        (machine, (surroundings.poll world).2) := by
  have formed := sound.formed state present
  rcases step_ready_cases surroundings world present running awake formed.shaped
    formed.counter.1 with ⟨atEnd, _⟩ | ⟨_, _, refused⟩ | ⟨_, _, sixteen, _⟩ | ⟨_, sixteen, _⟩
  · exact absurd atEnd turned.1
  · exact refused
  · exact absurd sixteen turned.2
  · exact absurd sixteen turned.2

theorem run_pace_free {period : τ} (paced : config.cyclePeriod = .ok period)
    (free : TimeScale.isNonPositive period = true) (settings : machine.config = config) (start : τ)
    (world : ε) : (pace surroundings start).run (machine, world) = .ok () (machine, world) := by
  simp [pace, run_read, settings, paced, number, free]

/-- Keys that are turned down leave no trace: the machine is left as it was when its cycle was asked
for, and as far as anybody can tell later, the step or the cycle of a run was not attempted. -/
theorem turned_down_unnoticed (reachable : Reachable config machine)
    (shared : config.timerRate = none) (surroundings : Surroundings τ ε) (world : ε) :
    (∀ state, machine.state = some state → machine.status = .loaded ∨ machine.status = .running →
      (machine.status = .loaded ∨ machine.clockPaused = true →
        ∃ now, (surroundings.clock world).1 = .ok now) →
      let polling :=
        if machine.status = .loaded ∨ machine.clockPaused = true then (surroundings.clock world).2
        else world
      let keys := (surroundings.poll polling).1
      state.TurnsDown keys →
      ∃ base debt,
        let after : Machine τ :=
          { machine with
              status := .running
              stopping := if machine.status = .loaded then false else machine.stopping
              timerBase := base
              timerDebt := debt
              clockPaused := false }
        (step surroundings).run (machine, world) =
            .error (.keyCount keys.length) (after, (surroundings.poll polling).2) ∧
          Unnoticed config machine after) ∧
    ∀ fuel limit asking polling state,
      (asking, polling) ∈ (Request.run fuel limit).onsets surroundings (machine, world) →
      asking.state = some state →
      let keys := (surroundings.poll polling).1
      state.TurnsDown keys →
      (run surroundings fuel limit).run (machine, world) =
          .error (.keyCount keys.length) (asking, (surroundings.poll polling).2) ∧
        asking.status = .running ∧
        ∀ paused, Unnoticed config { asking with clockPaused := paused } asking := by
  have sound := reachable.sound
  constructor
  · intro state present ready reads polling keys turned
    obtain ⟨base, debt, woken⟩ := run_wake_ready surroundings ready reads
    let after : Machine τ :=
      { machine with
          status := .running
          stopping := if machine.status = .loaded then false else machine.stopping
          timerBase := base
          timerDebt := debt
          clockPaused := false }
    have rests : machine.Rests after := by
      refine ⟨rfl, rfl, rfl, ?_⟩
      rcases ready with loaded | running
      · exact .inr ⟨loaded, rfl⟩
      · exact .inl running.symm
    have formed : after.Sound config := sound.rested rests
    refine ⟨base, debt, ?_, rests.unnoticed sound shared rfl⟩
    rw [run_step_wake surroundings world present, EStateM.run_bind, woken]
    exact run_step_turnsDown surroundings polling formed present rfl rfl turned
  · intro fuel limit asking polling state asked present keys turned
    obtain ⟨running, awake, ends⟩ := run_onsets_spec surroundings fuel limit _ _ asked
    have formed : asking.Sound config :=
      (Request.run fuel limit).sound_onsets surroundings sound _ asked
    have refused := run_step_turnsDown surroundings polling formed present running awake turned
    refine ⟨ends _ _ refused, running, fun paused => ?_⟩
    have unpaused : ({ asking with clockPaused := paused } : Machine τ).Rests asking :=
      ⟨rfl, rfl, rfl, .inl rfl⟩
    exact unpaused.unnoticed { formed with } shared rfl

/-- Fifteen keys are turned down, and the run after them goes as if there had been no step. -/
theorem turned_down_unnoticed_fifteen :
    let surroundings : Surroundings Rat (Nat × Nat) :=
      { clock := fun (readings, polls) => (.ok readings, readings + 1, polls)
        poll := fun (readings, polls) =>
          (List.replicate (if polls = 0 then 15 else 16) false, readings, polls + 1)
        render := fun _ world => (⟨false, false⟩, world)
        wait := fun _ world => (.ok false, world)
        note := fun _ world => world }
    let fresh : Machine Rat := .idle { (.standard : Config Rat) with rate := none }
    let loaded :=
      (Request.load [0x60, 0x05, 0xF0, 0x15, 0x12, 0x00]).serve surroundings (fresh, 0, 0)
    let turned := Request.step.serve surroundings loaded
    raised ((step surroundings).run loaded) = some (.keyCount 15) ∧
      turned.1.status = .running ∧ turned.2 = (1, 1) ∧
      verdict (((Request.run 3 (some 3)).answer surroundings).run turned) =
        verdict (((Request.run 3 (some 3)).answer surroundings).run (loaded.1, 7, 1)) := by
  intro surroundings fresh loaded turned
  have reachable : Reachable fresh.config loaded.1 :=
    .served surroundings (0, 0) (.load _) (.created rfl rfl)
  have timeless : surroundings.Timeless fresh.config fun world world' => world'.2 = world.2 :=
    { reads := fun _ => ⟨_, rfl⟩
      sooner := fun near => near
      later := fun near => near
      poll := fun near => by simp [surroundings, near]
      render := fun _ _ _ near => ⟨rfl, near⟩
      note := fun _ _ _ near => near
      pause := by
        intro before before' world world' start start' _ _ _ near machine settings
        simp only [run_pace_free (show fresh.config.cyclePeriod = .ok 0 from rfl) rfl settings]
        exact ⟨rfl, rfl, near⟩ }
  obtain ⟨stepped, _⟩ := turned_down_unnoticed reachable rfl surroundings loaded.2
  have ready : loaded.1.status = .loaded := rfl
  obtain ⟨base, debt, refused, unnoticed⟩ :=
    stepped _ rfl (.inl ready) (fun _ => ⟨_, rfl⟩) (by decide +kernel)
  have served : turned = _ := (serve_step surroundings loaded).trans (congrArg left refused)
  obtain ⟨answered, _⟩ := unnoticed _ surroundings _ timeless (7, 1) (1, 1) rfl [] (.run 3 (some 3))
  have world : turned.2 = (1, 1) := by decide +kernel
  have place : turned = (turned.1, 1, 1) := by rw [← world]
  refine ⟨by rw [refused]; rfl, by rw [served]; rfl, world, ?_⟩
  rw [place, served]
  exact answered

end Machine

end ChipEight
