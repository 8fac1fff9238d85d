import ChipEight.Proofs.Accounts
import ChipEight.Proofs.Floats

namespace ChipEight

namespace Quantity

theorem sub_real (left right : Float) :
    TimeScale.sub (real left) (real right) = .ok (real (left - right)) :=
  rfl

theorem add_real (left right : Float) :
    TimeScale.add (real left) (real right) = .ok (real (left + right)) :=
  rfl

theorem mul_toFloat {left float : Float} {right : Quantity}
    (converted : right.toFloat = .ok float) :
    TimeScale.mul (real left) right = .ok (real (left * float)) := by
  cases right with
  | real right =>
    cases converted
    rfl
  | whole right =>
    show (do return real (left * (← (whole right).toFloat)) : Except NumberError Quantity) = _
    rw [converted]
    rfl

theorem mul_fails {left : Float} {right : Quantity} {cause : NumberError}
    (failed : right.toFloat = .error cause) :
    TimeScale.mul (real left) right = .error cause := by
  cases right with
  | real right => cases failed
  | whole right =>
    show (do return real (left * (← (whole right).toFloat)) : Except NumberError Quantity) = _
    rw [failed]
    rfl

theorem sub_toFloat {left float : Float} {count : Int}
    (converted : (whole count).toFloat = .ok float) :
    TimeScale.sub (real left) (TimeScale.ofInt count) = .ok (real (left - float)) := by
  show (do return real (left - (← (whole count).toFloat)) : Except NumberError Quantity) = _
  rw [converted]
  rfl

/-- At a reading of the clock the ticks of a rate that are due can be counted. -/
def Counts (rate : Quantity) (base debt now : Float) : Prop :=
  ∃ float, rate.toFloat = .ok float ∧ (debt + (now - base) * float).isFinite = true

/-- Not a number that time can be measured with: it is too large, or not finite. -/
def Boundless : Quantity → Prop
  | whole count => Binary64.limit ≤ count.natAbs
  | real value => value.isFinite = false

instance : DecidablePred Boundless
  | whole count => inferInstanceAs (Decidable (Binary64.limit ≤ count.natAbs))
  | real value => inferInstanceAs (Decidable (value.isFinite = false))

theorem Boundless.uncounted {rate : Quantity} (boundless : rate.Boundless)
    (base debt now : Float) : ¬ rate.Counts base debt now := by
  rintro ⟨float, converted, finite⟩
  cases rate with
  | whole count =>
    have failed := toFloat_fails.mpr ⟨rfl, count, rfl, boundless⟩
    cases converted.symm.trans failed
  | real value =>
    obtain rfl : value = float := Except.ok.inj converted
    have unbounded := Binary64.isFinite_add debt
      (Binary64.isFinite_mul (now - base) boundless)
    cases finite.symm.trans unbounded

end Quantity

variable {ε : Type}

/-- The clock reads floating-point numbers. -/
def Surroundings.Floating (surroundings : Surroundings Quantity ε) : Prop :=
  ∀ world, ∃ now, (surroundings.clock world).1 = .ok (.real now)

theorem Config.cyclePeriod_cases (config : Config Quantity) :
    (∃ period, config.cyclePeriod = .ok (.real period)) ∨
      config.cyclePeriod = .error .tooLarge ∧
        ∃ count, config.rate = some (.whole count) ∧ Binary64.limit ≤ count.natAbs := by
  cases chosen : config.rate with
  | none => exact .inl ⟨0.0, by rw [cyclePeriod, chosen]; rfl⟩
  | some rate =>
    rw [cyclePeriod, chosen]
    simp only [TimeScale.period]
    split
    · exact .inl ⟨0.0, rfl⟩
    · cases converted : rate.toFloat with
      | ok float =>
        refine .inl ⟨1.0 / float, ?_⟩
        simp only [TimeScale.reciprocal, converted]
        rfl
      | error cause =>
        obtain ⟨rfl, count, rfl, above⟩ := Quantity.toFloat_fails.mp converted
        refine .inr ⟨?_, count, rfl, above⟩
        simp only [TimeScale.reciprocal, converted]
        rfl

theorem Config.cyclePeriod_fails {config : Config Quantity} :
    (∃ cause, config.cyclePeriod = .error cause) ↔
      ∃ count, config.rate = some (.whole count) ∧ Binary64.limit ≤ count.natAbs := by
  constructor
  · rintro ⟨cause, unknown⟩
    rcases config.cyclePeriod_cases with ⟨period, known⟩ | ⟨_, large⟩
    · cases unknown.symm.trans known
    · exact large
  · rintro ⟨count, chosen, above⟩
    have failed := Quantity.toFloat_fails.mpr ⟨rfl, count, rfl, above⟩
    have apart : TimeScale.isZero (Quantity.whole count) = false := by
      have some : 0 < Binary64.limit := by decide +kernel
      show (count == 0) = false
      rw [beq_eq_false_iff_ne]
      omega
    refine ⟨.tooLarge, ?_⟩
    rw [cyclePeriod, chosen]
    simp only [TimeScale.period, apart, Bool.false_eq_true, if_false, TimeScale.reciprocal, failed]
    rfl

/-- A rate of these settings is one that no time can be measured with: the timers' rate is too large
or not finite, or the rate of the cycles is too large. -/
def Config.Unmeasured (config : Config Quantity) : Prop :=
  (∃ rate, config.timerRate = some rate ∧ rate.Boundless) ∨
    ∃ count, config.rate = some (.whole count) ∧ Binary64.limit ≤ count.natAbs

namespace Machine

variable {config : Config Quantity} {machine : Machine Quantity} {state : State}
  {surroundings : Surroundings Quantity ε}

/-- The timers' clock and debt are floating-point numbers. -/
def TellsTime (machine : Machine Quantity) : Prop :=
  ∃ base debt, machine.timerBase = .real base ∧ machine.timerDebt = .real debt

/-- How an update of the timers ends. -/
inductive Updates (rate : Quantity) (base debt now : Float) :
    EStateM.Result Error (Machine Quantity × ε) Unit → Prop where
  | counted {reached : Machine Quantity × ε} (counts : rate.Counts base debt now)
      (tells : reached.1.TellsTime) : Updates rate base debt now (.ok () reached)
  | uncounted {cause : NumberError} {reached : Machine Quantity × ε}
      (fails : ¬ rate.Counts base debt now) (tells : reached.1.TellsTime) :
      Updates rate base debt now (.error (.number cause) reached)

theorem updateTimers_updates {rate : Quantity} {base debt now : Float} {world : ε}
    (present : machine.state = some state) (own : machine.config.timerRate = some rate)
    (since : machine.timerBase = .real base) (owing : machine.timerDebt = .real debt)
    (read : (surroundings.clock world).1 = .ok (.real now)) :
    Updates rate base debt now ((updateTimers surroundings).run (machine, world)) := by
  have started : (updateTimers surroundings).run (machine, world) =
      (do
        let due ← number (TimeScale.mul (.real (now - base)) rate)
        let owed ← number (TimeScale.add (.real debt) due)
        update fun machine => { machine with timerDebt := owed, timerBase := .real now }
        let ticks ← number (TimeScale.truncate owed)
        let rest ← number (TimeScale.sub owed (TimeScale.ofInt ticks))
        update fun machine => { machine with timerDebt := rest }
        onState (modify (State.ticks (min ticks 0xFF))) : Call Quantity ε Unit).run
          (machine, (surroundings.clock world).2) := by
    simp only [updateTimers, EStateM.run_bind, run_read, own, run_demand, read, since, owing,
      Quantity.sub_real]
    rfl
  rw [started]
  cases converted : rate.toFloat with
  | error cause =>
    have fails : ¬ rate.Counts base debt now := by
      rintro ⟨float, known, _⟩
      cases converted.symm.trans known
    simp only [EStateM.run_bind, Quantity.mul_fails converted, number, run_throw]
    exact .uncounted fails ⟨base, debt, since, owing⟩
  | ok float =>
    have owed := Quantity.add_real debt ((now - base) * float)
    have mine (other : Float) (same : rate.toFloat = .ok other) : float = other :=
      Except.ok.inj (converted.symm.trans same)
    rcases Quantity.truncate_real (debt + (now - base) * float) with
      ⟨finite, ticks, taken, truncated, back⟩ | ⟨unbounded, cause, failed⟩
    · have truncated : TimeScale.truncate (Quantity.real (debt + (now - base) * float)) =
          .ok ticks :=
        truncated
      let counted : Machine Quantity :=
        { machine with
          timerBase := .real now
          timerDebt := .real (debt + (now - base) * float - taken) }
      have present' : counted.state = some state := present
      simp only [EStateM.run_bind, Quantity.mul_toFloat converted, owed, number, EStateM.run_pure,
        run_update, truncated, Quantity.sub_toFloat back]
      rw [run_onState _ _ present', EStateM.run_modify]
      exact .counted ⟨float, converted, finite⟩ ⟨now, _, rfl, rfl⟩
    · have failed : TimeScale.truncate (Quantity.real (debt + (now - base) * float)) =
          .error cause :=
        failed
      have fails : ¬ rate.Counts base debt now := by
        rintro ⟨other, same, finite⟩
        rw [← mine other same, unbounded] at finite
        cases finite
      simp only [EStateM.run_bind, Quantity.mul_toFloat converted, owed, number, EStateM.run_pure,
        run_update, failed, run_throw]
      exact .uncounted fails ⟨now, _, rfl, rfl⟩

/-- A machine that runs tells the time. -/
def KeepsTime (machine : Machine Quantity) : Prop :=
  machine.status = .running → machine.TellsTime

/-- What holds of every machine with these settings that was loaded in such surroundings. -/
def Punctual (config : Config Quantity) (machine : Machine Quantity) : Prop :=
  machine.Sound config ∧ machine.KeepsTime

variable (floating : surroundings.Floating)

include floating

theorem keepsTime_resumeClock : Keeps KeepsTime (resumeClock surroundings) := by
  intro ⟨machine, world⟩ _ _
  obtain ⟨now, read⟩ := floating world
  rw [run_resumeClock, read]
  exact ⟨now, 0.0, rfl, rfl⟩

theorem keepsTime_start : Keeps KeepsTime (start surroundings) := by
  intro ⟨machine, world⟩ keeps
  obtain ⟨now, read⟩ := floating world
  rw [run_start]
  split
  · exact keeps
  · split
    · rw [run_resumeClock, read]
      exact fun _ => ⟨now, 0.0, rfl, rfl⟩
    · exact keeps

theorem keepsTime_updateTimers :
    Keeps (fun machine => machine.state ≠ none ∧ machine.KeepsTime)
      (updateTimers surroundings) := by
  intro ⟨machine, world⟩ ⟨loaded, keeps⟩
  obtain ⟨state, present⟩ : ∃ state, machine.state = some state :=
    Option.ne_none_iff_exists'.mp loaded
  obtain ⟨_, status, count, left⟩ :
      Ticks (machine, world) (left ((updateTimers surroundings).run (machine, world))) :=
    ticks_updateTimers (machine, world)
  refine ⟨by simp [left, present], fun running => ?_⟩
  obtain ⟨base, debt, since, owing⟩ := keeps (status.symm.trans running)
  cases own : machine.config.timerRate with
  | none =>
    rw [run_updateTimers surroundings world present own]
    exact ⟨base, debt, since, owing⟩
  | some rate =>
    obtain ⟨now, read⟩ := floating world
    have updates := updateTimers_updates present own since owing read
    cases outcome : (updateTimers surroundings).run (machine, world) with
    | ok _ reached =>
      rw [outcome] at updates
      cases updates with
      | counted _ tells => exact tells
    | error error reached =>
      rw [outcome] at updates
      cases updates with
      | uncounted _ tells => exact tells

theorem keepsTime_complete (before : Snapshot) (operation : Operation) (instruction : Instruction) :
    Keeps (fun machine => machine.state ≠ none ∧ machine.KeepsTime)
      (complete surroundings before operation instruction) :=
  leads_complete before operation instruction keeps_look (keeps_tell surroundings)
    (keepsTime_updateTimers floating)
    (leads_present operation keeps_look (fun _ => keeps_ask _) (keeps_update fun _ holds => holds))
    fun _ => keeps_update fun _ holds => holds

omit floating in
theorem keeps_both {first second : Machine Quantity → Prop} {α : Type}
    {call : Call Quantity ε α} (one : Keeps first call) (other : Keeps second call) :
    Keeps (fun machine => first machine ∧ second machine) call :=
  fun place holds => ⟨one place holds.1, other place holds.2⟩

omit floating in
theorem punctual_stop : Keeps (Punctual config) (stop : Call Quantity ε Unit) :=
  keeps_update fun _ holds => ⟨{ holds.1 with }, holds.2⟩

theorem punctual_step : Keeps (Punctual config) (step surroundings) := by
  have wakes : Keeps (Punctual config) (wake surroundings) :=
    keeps_both (leads_wake (keeps_start surroundings) (keeps_resumeClock surroundings))
      (leads_wake (keepsTime_start floating) (keepsTime_resumeClock floating))
  apply leads_step wakes
  intro machine state world present running read ⟨sound, keeps⟩
  have formed := sound.formed state present
  refine ⟨sound.step_ready surroundings world present running read, ?_⟩
  rcases step_ready_cases surroundings world present running read formed.shaped formed.counter.1
    with ⟨_, ended⟩ | ⟨_, _, turned⟩ | ⟨_, _, _, _, faulted⟩ | ⟨_, _, _, executed⟩
  · rw [ended]
    exact fun running => by cases running
  · rw [turned]
    exact keeps
  · rw [faulted]
    exact fun running => by cases running
  · let counted : Machine Quantity :=
      { machine with state := some (state.executed (surroundings.poll world).1) }
    have kept := keepsTime_complete floating state.snapshot state.operation state.instruction
      (counted, (surroundings.poll world).2) ⟨Option.some_ne_none _, keeps⟩
    rw [executed]
    exact kept.2

theorem punctual_turn : Keeps (Punctual config) (turn surroundings) :=
  leads_turn (keeps_demand _) (punctual_step floating) fun cycleStart =>
    leads_pace cycleStart (keeps_demand _) (fun _ => keeps_demand _) punctual_stop

theorem punctual_beginRun : Keeps (Punctual config) (beginRun surroundings) :=
  keeps_both
    (leads_beginRun (keeps_start surroundings) (keeps_update fun _ sound => { sound with })
      (keeps_resumeClock surroundings))
    (leads_beginRun (keepsTime_start floating) (keeps_update fun _ holds => holds)
      (keepsTime_resumeClock floating))

theorem punctual_run (fuel : Nat) (limit : Option Int) :
    Keeps (Punctual config) (run surroundings fuel limit) := by
  have pauses : Keeps (Punctual config)
      (update fun machine => { machine with clockPaused := true } : Call Quantity ε Unit) :=
    keeps_update fun _ holds => ⟨{ holds.1 with }, holds.2⟩
  exact leads_run (punctual_beginRun floating) (punctual_turn floating) pauses fuel limit

/-- Requests after a program was loaded keep the time. -/
theorem punctual_serve {requests : List Request}
    (plays : ∀ request ∈ requests, ∀ program, request ≠ .load program)
    {place : Machine Quantity × ε} (punctual : place.1.Punctual config) :
    (serve surroundings requests place).1.Punctual config := by
  induction requests generalizing place with
  | nil => exact punctual
  | cons request requests ih =>
    obtain ⟨first, others⟩ := List.forall_mem_cons.mp plays
    apply ih others
    cases request with
    | load program => exact absurd rfl (first program)
    | start => exact keeps_both (keeps_start surroundings) (keepsTime_start floating) place punctual
    | stop => exact punctual_stop place punctual
    | step =>
      rw [serve_step]
      exact punctual_step floating place punctual
    | run fuel limit =>
      rw [serve_run]
      exact punctual_run floating fuel limit place punctual

omit floating in
theorem punctual_load (sound : machine.Sound config) (program : List UInt8) (world : ε) :
    ((Request.load program).serve surroundings (machine, world)).1.Punctual config := by
  obtain ⟨bytes, same⟩ := serve_load surroundings program (machine, world)
  refine ⟨keeps_call surroundings (.load program) (machine, world) sound, fun running => ?_⟩
  rw [same] at running
  cases running

/-- What a step from here finds for its timers once its instruction is executed: when they were last
updated, the ticks left over from then, and what the clock reads now. -/
def Finds (surroundings : Surroundings Quantity ε) (here : Machine Quantity × ε) (state : State)
    (base debt now : Float) : Prop :=
  ∃ awake world, (wake surroundings).run here = .ok () (awake, world) ∧
    awake.timerBase = .real base ∧ awake.timerDebt = .real debt ∧
    (surroundings.clock (surroundings.remark state.operation state.instruction
      (state.executed (surroundings.poll world).1) (surroundings.poll world).2)).1 = .ok (.real now)

/-- If the timers have a rate of their own, the ticks that are due in a step from here can be
counted. -/
def Ticking (surroundings : Surroundings Quantity ε) (here : Machine Quantity × ε) (state : State) :
    Prop :=
  ∀ rate, here.1.config.timerRate = some rate →
    ∃ base debt now, Finds surroundings here state base debt now ∧ rate.Counts base debt now

omit floating in
theorem Finds.ticking_iff {here : Machine Quantity × ε} {base debt now : Float}
    (finds : Finds surroundings here state base debt now) :
    Ticking surroundings here state ↔
      ∀ rate, here.1.config.timerRate = some rate → rate.Counts base debt now := by
  constructor
  · intro ticking rate own
    obtain ⟨_, _, _, ⟨awake, world, woken, since, owing, read⟩, counts⟩ := ticking rate own
    obtain ⟨_, _, woken', since', owing', read'⟩ := finds
    cases woken.symm.trans woken'
    cases since.symm.trans since'
    cases owing.symm.trans owing'
    cases read.symm.trans read'
    exact counts
  · exact fun counts rate own => ⟨base, debt, now, finds, counts rate own⟩

omit floating in
/-- Where no frame is interrupted, only ticks that cannot be counted break a step off. -/
theorem breaksOff_uncounted (quiet : surroundings.Quiet) {operation : Operation} {world : ε}
    {base debt now : Float} {error : Error} (present : machine.state = some state)
    (since : machine.timerBase = .real base) (owing : machine.timerDebt = .real debt)
    (read : (surroundings.clock world).1 = .ok (.real now))
    (breaks : BreaksOff surroundings operation (machine, world) error) :
    (∃ cause, error = .number cause) ∧
      ∃ rate, machine.config.timerRate = some rate ∧ ¬ rate.Counts base debt now := by
  cases breaks with
  | timers failed =>
    cases own : machine.config.timerRate with
    | none =>
      rw [run_updateTimers surroundings world present own] at failed
      cases failed
    | some rate =>
      have updates := updateTimers_updates present own since owing read
      rw [failed] at updates
      cases updates with
      | uncounted fails _ => exact ⟨⟨_, rfl⟩, rate, rfl, fails⟩
  | frame _ _ _ interrupted =>
    rw [quiet.frames] at interrupted
    cases interrupted

omit floating in
theorem uncounted_breaksOff (operation : Operation) {world : ε} {rate : Quantity}
    {base debt now : Float} (present : machine.state = some state)
    (own : machine.config.timerRate = some rate) (since : machine.timerBase = .real base)
    (owing : machine.timerDebt = .real debt)
    (read : (surroundings.clock world).1 = .ok (.real now)) (fails : ¬ rate.Counts base debt now) :
    ∃ error, BreaksOff surroundings operation (machine, world) error := by
  have updates := updateTimers_updates present own since owing read
  cases failed : (updateTimers surroundings).run (machine, world) with
  | ok _ reached =>
    rw [failed] at updates
    cases updates with
    | counted counts _ => exact absurd counts fails
  | error error reached => exact ⟨error, .timers failed⟩

/-- How a step ends. In an error it ends where its instruction is refused, and where the ticks that
are due cannot be counted, behind an instruction that is executed and counted. -/
inductive StepEnd (surroundings : Surroundings Quantity ε) (config : Config Quantity)
    (here : Machine Quantity × ε) (state : State) :
    EStateM.Result Error (Machine Quantity × ε) TraceEntry → Prop where
  | halt {entry : TraceEntry} {reached : Machine Quantity × ε} (atEnd : state.AtEnd)
      (halted : reached.1.status = .halted) :
      StepEnd surroundings config here state (.ok entry reached)
  | fault {cause : Fault} {reached : Machine Quantity × ε} (inside : ¬ state.AtEnd)
      (refused : state.fault? config.strict = some cause) (faulted : reached.1.status = .faulted) :
      StepEnd surroundings config here state
        (.error (.fault (.execution state.word state.pc cause)) reached)
  | ticked {entry : TraceEntry} {reached : Machine Quantity × ε} {after : State}
      (inside : ¬ state.AtEnd) (granted : state.fault? config.strict = none)
      (ticking : Ticking surroundings here state) (running : reached.1.status = .running)
      (present : reached.1.state = some after) (counted : after.cycles = state.cycles + 1) :
      StepEnd surroundings config here state (.ok entry reached)
  | unticked {cause : NumberError} {reached : Machine Quantity × ε} {after : State}
      (inside : ¬ state.AtEnd) (granted : state.fault? config.strict = none)
      (uncounted : ¬ Ticking surroundings here state) (running : reached.1.status = .running)
      (present : reached.1.state = some after) (counted : after.cycles = state.cycles + 1) :
      StepEnd surroundings config here state (.error (.number cause) reached)

variable (quiet : surroundings.Quiet) {here : Machine Quantity × ε}

include quiet

theorem reliable_floating : surroundings.Reliable :=
  { quiet with clock := fun world => (floating world).imp' Quantity.real fun _ read => read }

theorem step_end (punctual : here.1.Punctual config)
    (ready : here.1.status = .loaded ∨ here.1.status = .running)
    (present : here.1.state = some state) :
    StepEnd surroundings config here state ((step surroundings).run here) := by
  obtain ⟨machine, before⟩ := here
  obtain ⟨sound, keeps⟩ := punctual
  have present : machine.state = some state := present
  have formed := sound.formed state present
  obtain ⟨awake, world, woken, rests⟩ := (reliable_floating floating quiet).wake ready before
  have spec := wake_spec surroundings machine before
  have kept : Retains KeepsTime (machine, before)
      (left ((wake surroundings).run (machine, before))) :=
    leads_wake (keepsTime_start floating) (keepsTime_resumeClock floating) (machine, before)
  rw [woken] at spec kept
  obtain ⟨_, running, read⟩ := spec
  have running : awake.status = .running := running
  have settings : awake.config = config := rests.config.trans sound.settings
  obtain ⟨base, debt, since, owing⟩ := kept keeps running
  let keys := (surroundings.poll world).1
  let counted : Machine Quantity := { awake with state := some (state.executed keys) }
  let remarked :=
    surroundings.remark state.operation state.instruction (state.executed keys)
      (surroundings.poll world).2
  obtain ⟨now, answered⟩ : ∃ now, (surroundings.clock remarked).1 = .ok (.real now) :=
    floating remarked
  have finds : Finds surroundings (machine, before) state base debt now :=
    ⟨awake, world, woken, since, owing, answered⟩
  have found : counted.state = some (state.executed keys) := rfl
  have same : machine.config = awake.config := rests.config.symm
  rw [run_step_wake surroundings before present, EStateM.run_bind, woken]
  simp only
  rcases step_ready_cases surroundings world (rests.state.trans present) running read formed.shaped
    formed.counter.1 with ⟨atEnd, ended⟩ | ⟨inside, turned, refused⟩ |
      ⟨cause, inside, sixteen, refused, faulted⟩ | ⟨inside, sixteen, granted, executed⟩
  · rw [ended]
    exact .halt atEnd rfl
  · exact absurd (quiet.keys world) turned
  · rw [faulted]
    exact .fault inside (settings ▸ refused) rfl
  · have granted : state.fault? config.strict = none := settings ▸ granted
    -- From here on only the timers can break the step off, and whatever they do is not undone.
    have completes := complete_completes surroundings state.snapshot state.operation
      state.instruction (surroundings.poll world).2 found
    obtain ⟨status, after, passed, cycles⟩ :=
      complete_counted surroundings awake state keys (surroundings.poll world).2
    have status : _ = Status.running := status.trans running
    rw [executed]
    cases outcome : (complete surroundings state.snapshot state.operation state.instruction).run
        (counted, (surroundings.poll world).2) with
    | error error reached =>
      rw [outcome] at completes passed status
      cases completes with
      | broken breaks _ =>
        obtain ⟨⟨cause, rfl⟩, rate, own, fails⟩ :=
          breaksOff_uncounted quiet found since owing answered breaks
        have uncounted : ¬ Ticking surroundings (machine, before) state := fun ticking =>
          fails (finds.ticking_iff.mp ticking rate (same ▸ own))
        exact .unticked inside granted uncounted status passed cycles
    | ok entry reached =>
      rw [outcome] at completes passed status
      cases completes with
      | entered _ _ unbroken =>
        have ticking : Ticking surroundings (machine, before) state := by
          rw [finds.ticking_iff]
          intro rate own
          apply Classical.byContradiction
          intro fails
          have own : counted.config.timerRate = some rate := same ▸ own
          obtain ⟨error, breaks⟩ :=
            uncounted_breaksOff state.operation found own since owing answered fails
          exact unbroken error breaks
        exact .ticked inside granted ticking status passed cycles

/-- What goes wrong behind an instruction of a run that asks for its steps at these places: the
ticks that are due cannot be counted, the length of the pauses is unknown, or a pause is refused. -/
inductive Falters (surroundings : Surroundings Quantity ε) (config : Config Quantity)
    (onsets : List (Machine Quantity × ε)) : Error → Prop where
  | ticks {cause : NumberError} {onset : Machine Quantity × ε} {found : State}
      (asked : onset ∈ onsets) (present : onset.1.state = some found)
      (uncounted : ¬ Ticking surroundings onset found) :
      Falters surroundings config onsets (.number cause)
  | length {cause : NumberError} (unknown : config.cyclePeriod = .error cause) :
      Falters surroundings config onsets (.number cause)
  | pause {time : Quantity} {world : ε} {error : Error}
      (refused : (surroundings.wait time world).1 = .error error) :
      Falters surroundings config onsets error

omit floating quiet in
theorem Falters.mono {onsets more : List (Machine Quantity × ε)} {error : Error}
    (falters : Falters surroundings config onsets error) (within : onsets ⊆ more) :
    Falters surroundings config more error := by
  cases falters with
  | ticks asked present uncounted => exact .ticks (within asked) present uncounted
  | length unknown => exact .length unknown
  | pause refused => exact .pause refused

omit quiet in
theorem falters_pace {cycleStart : Float} (settings : here.1.config = config)
    (onsets : List (Machine Quantity × ε)) {error : Error} {reached : Machine Quantity × ε}
    (failed : (pace surroundings (.real cycleStart)).run here = .error error reached) :
    Falters surroundings config onsets error := by
  obtain ⟨machine, world⟩ := here
  have settings : machine.config = config := settings
  rcases config.cyclePeriod_cases with ⟨period, known⟩ | ⟨unknown, _⟩
  · obtain ⟨now, read⟩ := floating world
    by_cases paced : TimeScale.isNonPositive (Quantity.real period) = true
    · simp only [pace, EStateM.run_bind, run_read, settings, known, number, EStateM.run_pure, paced,
        Bool.not_true, Bool.false_eq_true, if_false] at failed
      cases failed
    · have remaining : (pace surroundings (.real cycleStart)).run (machine, world) =
          (if TimeScale.isPositive (Quantity.real (period - (now - cycleStart))) then do
              let stopped ← demand (surroundings.wait (.real (period - (now - cycleStart))))
              if stopped then stop
            else pure () : Call Quantity ε Unit).run (machine, (surroundings.clock world).2) := by
        simp only [pace, EStateM.run_bind, run_read, settings, known, number, EStateM.run_pure,
          Bool.eq_false_iff.mpr paced, Bool.not_false, if_true, run_demand, read,
          Quantity.sub_real]
      rw [remaining] at failed
      split at failed
      · rw [EStateM.run_bind, run_demand] at failed
        cases waited : (surroundings.wait (.real (period - (now - cycleStart)))
            (surroundings.clock world).2).1 with
        | error other =>
          rw [waited] at failed
          cases failed
          exact .pause waited
        | ok stopped =>
          rw [waited] at failed
          cases stopped <;> cases failed
      · cases failed
  · rw [pace_unpaced surroundings _ (by rw [settings, unknown])] at failed
    cases failed
    exact .length unknown

/-- How a run ends in an error, which began in a state: with a fault, or behind an instruction that
is executed and counted. -/
inductive RunFails (surroundings : Surroundings Quantity ε) (config : Config Quantity)
    (onsets : List (Machine Quantity × ε)) (state : State) (reached : Machine Quantity × ε) :
    Error → Prop where
  | fault {cause : Fault} (faulted : reached.1.status = .faulted) :
      RunFails surroundings config onsets state reached (.fault cause)
  | behind {error : Error} {after : State} (running : reached.1.status = .running)
      (present : reached.1.state = some after) (counted : state.cycles < after.cycles)
      (falters : Falters surroundings config onsets error) :
      RunFails surroundings config onsets state reached error

omit floating quiet in
/-- A run that goes on from a later state fails like one that begins before it. -/
theorem RunFails.later {onsets more : List (Machine Quantity × ε)} {next : State}
    {reached : Machine Quantity × ε} {error : Error}
    (fails : RunFails surroundings config onsets next reached error) (within : onsets ⊆ more)
    (counted : state.cycles ≤ next.cycles) :
    RunFails surroundings config more state reached error := by
  cases fails with
  | fault faulted => exact .fault faulted
  | behind running present further falters =>
    exact .behind running present (by omega) (falters.mono within)

/-- How a turn ends. -/
inductive TurnEnd (surroundings : Surroundings Quantity ε) (config : Config Quantity)
    (onsets : List (Machine Quantity × ε)) (state : State) :
    EStateM.Result Error (Machine Quantity × ε) Unit → Prop where
  | halt {reached : Machine Quantity × ε} (halted : reached.1.status = .halted) :
      TurnEnd surroundings config onsets state (.ok () reached)
  | next {reached : Machine Quantity × ε} {after : State} (running : reached.1.status = .running)
      (present : reached.1.state = some after) (counted : state.cycles ≤ after.cycles) :
      TurnEnd surroundings config onsets state (.ok () reached)
  | fails {error : Error} {reached : Machine Quantity × ε}
      (fails : RunFails surroundings config onsets state reached error) :
      TurnEnd surroundings config onsets state (.error error reached)

omit quiet in
theorem turn_asks (here : Machine Quantity × ε) :
    ∃ cycleStart asked, asked.1 = here.1 ∧ turnOnsets surroundings here = [asked] ∧
      (turn surroundings).run here =
        match (step surroundings).run asked with
        | .error error after => .error error after
        | .ok _ after =>
          if after.1.status = .running then (pace surroundings (.real cycleStart)).run after
          else .ok () after := by
  obtain ⟨machine, world⟩ := here
  obtain ⟨cycleStart, read⟩ := floating world
  have clocked : (demand surroundings.clock).run (machine, world) =
      .ok (.real cycleStart) (machine, (surroundings.clock world).2) := by
    rw [run_demand, read]
  refine ⟨cycleStart, (machine, (surroundings.clock world).2), rfl, ?_, ?_⟩
  · rw [turnOnsets, clocked]
  · simp only [run_turn, clocked]
    cases (step surroundings).run (machine, (surroundings.clock world).2) <;> rfl

theorem turn_ends (punctual : here.1.Punctual config) (running : here.1.status = .running)
    (present : here.1.state = some state) :
    TurnEnd surroundings config (turnOnsets surroundings here) state
      ((turn surroundings).run here) := by
  obtain ⟨cycleStart, asked, same, onsets, turned⟩ := turn_asks floating here
  rw [← same] at punctual running present
  have ends := step_end floating quiet punctual (.inr running) present
  have kept := punctual_step floating asked punctual
  rw [onsets, turned]
  cases stepped : (step surroundings).run asked with
  | error error after =>
    rw [stepped] at ends
    refine .fails ?_
    cases ends with
    | fault _ _ faulted => exact .fault faulted
    | unticked _ _ uncounted running' present' counted =>
      exact .behind running' present' (by omega)
        (.ticks (List.mem_singleton_self asked) present uncounted)
  | ok entry after =>
    rw [stepped] at ends kept
    cases ends with
    | halt _ halted =>
      simp only [halted, reduceCtorEq, if_false]
      exact .halt halted
    | ticked _ _ _ running' present' counted =>
      have rested := idles_pace surroundings (.real cycleStart) after
      simp only [running', if_true]
      cases paced : (pace surroundings (.real cycleStart)).run after with
      | ok _ next =>
        rw [paced] at rested
        exact .next (rested.1.running running') (rested.1.state.trans present') (by omega)
      | error error next =>
        rw [paced] at rested
        exact .fails (.behind (rested.1.running running') (rested.1.state.trans present') (by omega)
          (falters_pace floating kept.1.settings _ paced))

theorem cycles_fails (fuel : Nat) (remaining : Option Nat) (punctual : here.1.Punctual config)
    (present : here.1.state = some state) {error : Error} {reached : Machine Quantity × ε}
    (failed : (cycles surroundings fuel remaining).run here = .error error reached) :
    RunFails surroundings config (cyclesOnsets surroundings fuel remaining here) state reached
      error := by
  -- A turn that ends well leaves a later state, so what fails after it counts from here as well.
  induction fuel generalizing remaining here state with
  | zero =>
    rw [run_cycles_zero] at failed
    cases failed
  | succ fuel ih =>
    rw [run_cycles_succ] at failed
    by_cases more : goesOn here.1 remaining = true
    · have running : here.1.status = .running := by
        simp only [goesOn, Bool.and_eq_true, beq_iff_eq] at more
        exact more.1.1
      have ends := turn_ends floating quiet punctual running present
      have kept := punctual_turn floating here punctual
      rw [if_pos more] at failed
      rw [cyclesOnsets, if_pos more]
      cases turned : (turn surroundings).run here with
      | error other next =>
        rw [turned] at failed ends
        cases failed
        cases ends with
        | fails fails => exact fails.later (List.subset_append_left _ _) (Int.le_refl _)
      | ok _ next =>
        rw [turned] at failed ends kept
        cases ends with
        | halt halted =>
          have closed : goesOn next.1 (remaining.map (· - 1)) = false := by simp [goesOn, halted]
          simp only [run_cycles_over surroundings fuel closed] at failed
          cases failed
        | next _ present' counted =>
          exact (ih _ kept present' failed).later (List.subset_append_right _ _) counted
    · rw [if_neg more] at failed
      cases failed

theorem run_fails (fuel : Nat) (limit : Option Int) (punctual : here.1.Punctual config)
    (present : here.1.state = some state) {error : Error} {reached : Machine Quantity × ε}
    (failed : (run surroundings fuel limit).run here = .error error reached) :
    RunFails surroundings config ((Request.run fuel limit).onsets surroundings here) state reached
      error := by
  obtain ⟨machine, world⟩ := here
  have begun := punctual_beginRun floating (machine, world) punctual
  obtain ⟨begins, ran, rests, _⟩ := run_beginRun (reliable_floating floating quiet) world present
  rw [ran] at begun
  rw [run_run, ran] at failed
  simp only at failed
  rw [Request.onsets, ran]
  cases outcome : (cycles surroundings fuel (allowance begins.1 limit)).run begins with
  | error other ended =>
    rw [outcome] at failed
    cases failed
    exact cycles_fails floating quiet fuel _ begun (rests.state.trans present) outcome
  | ok finished ended =>
    rw [outcome] at failed
    cases finished <;> cases failed

omit floating quiet in
theorem boundless_ticking {rate : Quantity} (own : here.1.config.timerRate = some rate)
    (boundless : rate.Boundless) : ¬ Ticking surroundings here state := by
  intro ticking
  obtain ⟨base, debt, now, _, counts⟩ := ticking rate own
  exact boundless.uncounted base debt now counts

theorem turn_unmeasured (unmeasured : config.Unmeasured) (punctual : here.1.Punctual config)
    (running : here.1.status = .running) (present : here.1.state = some state)
    (inside : ¬ state.AtEnd) (granted : state.fault? config.strict = none) :
    ∃ cause reached, (turn surroundings).run here = .error (.number cause) reached := by
  obtain ⟨cycleStart, asked, same, _, turned⟩ := turn_asks floating here
  rw [← same] at punctual running present
  have ends := step_end floating quiet punctual (.inr running) present
  have kept := punctual_step floating asked punctual
  rw [turned]
  cases stepped : (step surroundings).run asked with
  | error error after =>
    rw [stepped] at ends
    cases ends with
    | fault _ refused _ => cases granted.symm.trans refused
    | unticked _ _ _ _ _ _ => exact ⟨_, _, rfl⟩
  | ok entry after =>
    rw [stepped] at ends kept
    cases ends with
    | halt atEnd _ => exact absurd atEnd inside
    | ticked _ _ ticking running' _ _ =>
      rcases unmeasured with ⟨rate, own, boundless⟩ | large
      · have own : asked.1.config.timerRate = some rate := punctual.1.settings ▸ own
        exact absurd ticking (boundless_ticking own boundless)
      · obtain ⟨cause, unknown⟩ := Config.cyclePeriod_fails.mpr large
        have settings : after.1.config = config := kept.1.settings
        simp only [running', if_true, pace_unpaced surroundings _ (settings ▸ unknown)]
        exact ⟨_, _, rfl⟩

theorem run_unmeasured (unmeasured : config.Unmeasured) (punctual : here.1.Punctual config)
    (ready : here.1.status = .loaded ∨ here.1.status = .running)
    (present : here.1.state = some state) (inside : ¬ state.AtEnd)
    (granted : state.fault? config.strict = none) {fuel : Nat} {limit : Option Int}
    (enough : 1 ≤ fuel) (allowed : allowance here.1 limit ≠ some 0) :
    ∃ cause reached, (run surroundings fuel limit).run here = .error (.number cause) reached := by
  obtain ⟨machine, world⟩ := here
  have begun := punctual_beginRun floating (machine, world) punctual
  obtain ⟨begins, ran, rests, unstopped, started⟩ :=
    run_beginRun (reliable_floating floating quiet) world present
  replace begun : begins.1.Punctual config := by
    rw [ran] at begun
    exact begun
  have running : begins.1.status = .running := started ready
  obtain ⟨cause, reached, turned⟩ := turn_unmeasured floating quiet unmeasured begun running
    (rests.state.trans present) inside granted
  have same : allowance begins.1 limit = allowance machine limit := by
    rw [allowance, allowance, rests.config]
  have more : goesOn begins.1 (allowance machine limit) = true := by
    simpa [goesOn, running, show begins.1.stopping = false from unstopped] using allowed
  obtain ⟨fuel, rfl⟩ : ∃ rest, fuel = rest + 1 := ⟨fuel - 1, by omega⟩
  refine ⟨cause, reached, ?_⟩
  simp only [run_run, ran, same, run_cycles_succ, if_pos more, turned]

omit floating quiet in
/-- With accepted settings and a clock of floating-point numbers, a call ends well, with a fault, or
with an error behind an instruction that is executed and counted. -/
theorem accepted_errors (reachable : Reachable config machine) (quiet : surroundings.Quiet)
    (floating : surroundings.Floating) (world : ε) (program : List UInt8) {requests : List Request}
    (plays : ∀ request ∈ requests, ∀ program, request ≠ .load program) :
    let here :=
      serve surroundings requests ((Request.load program).serve surroundings (machine, world))
    here.1.status = .loaded ∨ here.1.status = .running →
      ∃ state, here.1.state = some state ∧
        StepEnd surroundings config here state ((step surroundings).run here) ∧
        (∀ fuel limit error reached,
          (run surroundings fuel limit).run here = .error error reached →
            RunFails surroundings config ((Request.run fuel limit).onsets surroundings here) state
              reached error) ∧
        (config.Unmeasured → ¬ state.AtEnd → state.fault? config.strict = none →
          ∀ fuel limit, 1 ≤ fuel → allowance here.1 limit ≠ some 0 →
            ∃ cause reached,
              (run surroundings fuel limit).run here = .error (.number cause) reached) ∧
        ((∃ rate, config.timerRate = some rate ∧ rate.Boundless) →
          ¬ Ticking surroundings here state) ∧
        ((∃ cause, config.cyclePeriod = .error cause) ↔
          ∃ count, config.rate = some (.whole count) ∧ Binary64.limit ≤ count.natAbs) := by
  intro here ready
  have punctual : here.1.Punctual config :=
    punctual_serve floating plays (punctual_load reachable.sound program world)
  have busy : here.1.status ≠ .idle := by rcases ready with same | same <;> simp [same]
  obtain ⟨state, present⟩ := punctual.1.present busy
  refine ⟨state, present, step_end floating quiet punctual ready present, ?_, ?_, ?_,
    Config.cyclePeriod_fails⟩
  · intro fuel limit error reached failed
    exact run_fails floating quiet fuel limit punctual present failed
  · intro unmeasured inside granted fuel limit enough allowed
    exact run_unmeasured floating quiet unmeasured punctual ready present inside granted enough
      allowed
  · rintro ⟨rate, own, boundless⟩
    exact boundless_ticking (punctual.1.settings ▸ own) boundless

omit floating quiet in
/-- With timers of 60 ticks a second a step of an accepted machine ends well, and with a rate that
is no number, infinite or too large in an error behind the instruction. -/
theorem accepted_errors_one :
    let program : List UInt8 := [0x60, 0x05]
    let surroundings : Surroundings Quantity Nat := .scripted fun _ => Keypad.released.held
    let timed (rate : Quantity) : Config Quantity := { Config.standard with timerRate := some rate }
    let paced : Config Quantity := { Config.standard with rate := some (.whole (1 <<< 1024)) }
    let loaded (config : Config Quantity) :=
      (Request.load program).serve surroundings (.idle config, 0)
    let behind (rate : Quantity) :=
      ∃ cause reached after,
        (step surroundings).run (loaded (timed rate)) = .error (.number cause) reached ∧
          reached.1.state = some after ∧ after.cycles = 1
    (∃ entry reached, (step surroundings).run (loaded (timed (.whole 60))) = .ok entry reached ∧
        reached.1.status = .running) ∧
      behind (.real (0.0 / 0.0)) ∧ behind (.real (1.0 / 0.0)) ∧ behind (.whole (1 <<< 1024)) ∧
      ∃ cause reached,
        (run surroundings 2 (some 2)).run (loaded paced) = .error (.number cause) reached := by
  intro program surroundings timed paced loaded behind
  have quiet : surroundings.Quiet := ⟨fun _ => rfl, fun _ _ => rfl⟩
  have floating : surroundings.Floating := fun _ => ⟨0.0, rfl⟩
  have plays : ∀ request ∈ [], ∀ program, request ≠ Request.load program := by simp
  have first (config : Config Quantity) :
      (loaded config).1.state = some (State.ofProgram program) := by
    obtain ⟨bytes, same⟩ := serve_load surroundings program (Machine.idle config, 0)
    exact congrArg Machine.state same
  have fresh (config : Config Quantity) : (loaded config).1.status = .loaded := by
    obtain ⟨bytes, same⟩ := serve_load surroundings program (Machine.idle config, 0)
    exact congrArg Machine.status same
  have inside : ¬ (State.ofProgram program).AtEnd := by decide +kernel
  have granted : (State.ofProgram program).fault? false = none := by decide +kernel
  have created (rate : Quantity) (accepted : (timed rate).check = .ok ()) :
      Reachable (timed rate) (Machine.idle (timed rate)) :=
    .created accepted rfl
  have ends {rate : Quantity} (accepted : (timed rate).check = .ok ()) :
      StepEnd surroundings (timed rate) (loaded (timed rate)) (State.ofProgram program)
          ((step surroundings).run (loaded (timed rate))) ∧
        (rate.Boundless →
          ¬ Ticking surroundings (loaded (timed rate)) (State.ofProgram program)) := by
    obtain ⟨state, present, ends, _, _, unticking, _⟩ :=
      accepted_errors (created rate accepted) quiet floating 0 program plays (.inl (fresh _))
    obtain rfl : State.ofProgram program = state :=
      Option.some.inj ((first (timed rate)).symm.trans present)
    exact ⟨ends, fun boundless => unticking ⟨rate, rfl, boundless⟩⟩
  have broken {rate : Quantity} (accepted : (timed rate).check = .ok ())
      (boundless : rate.Boundless) : behind rate := by
    obtain ⟨ends, unticking⟩ := ends accepted
    cases outcome : (step surroundings).run (loaded (timed rate)) with
    | ok entry reached =>
      rw [outcome] at ends
      cases ends with
      | halt atEnd _ => exact absurd atEnd inside
      | ticked _ _ ticking _ _ _ => exact absurd ticking (unticking boundless)
    | error error reached =>
      rw [outcome] at ends
      cases ends with
      | fault _ refused _ => cases granted.symm.trans refused
      | unticked _ _ _ _ present counted => exact ⟨_, reached, _, outcome, present, counted⟩
  refine ⟨?_, broken rfl (by decide +kernel), broken rfl (by decide +kernel),
    broken rfl (by decide +kernel), ?_⟩
  · obtain ⟨ends, _⟩ := @ends (.whole 60) rfl
    have well : (verdict ((step surroundings).run (loaded (timed (.whole 60))))).isOk = true := by
      decide +kernel
    cases outcome : (step surroundings).run (loaded (timed (.whole 60))) with
    | error error reached =>
      rw [outcome] at well
      cases well
    | ok entry reached =>
      rw [outcome] at ends
      cases ends with
      | halt atEnd _ => exact absurd atEnd inside
      | ticked _ _ _ running _ _ => exact ⟨entry, reached, rfl, running⟩
  · have created : Reachable paced (Machine.idle paced) := .created rfl rfl
    obtain ⟨state, present, _, _, always, _⟩ :=
      accepted_errors created quiet floating 0 program plays (.inl (fresh paced))
    obtain rfl : State.ofProgram program = state :=
      Option.some.inj ((first paced).symm.trans present)
    exact always (.inr ⟨_, rfl, by decide +kernel⟩) inside granted 2 (some 2) (by decide)
      (by decide)

end Machine

end ChipEight
