import ChipEight.Proofs.Schedules

/-! Programs that are stepped through with some keys held. In surroundings where nothing happens, a
run whose cycles need not wait comes to what as many steps come to. -/

namespace ChipEight

/-- Surroundings in which nothing happens: the clock can be read, the keys stay as they are, and
nobody at the screen breaks off a frame or asks for a stop. Of a world only the `view` is kept, and
the keys are read off it. -/
structure Surroundings.Steady {τ ε β : Type} (surroundings : Surroundings τ ε) (view : ε → β)
    (keys : β → List Bool) : Prop where
  clock : ∀ world, ∃ now, (surroundings.clock world).1 = .ok now
  poll : ∀ world, (surroundings.poll world).1 = keys (view world)
  render : ∀ rows world, (surroundings.render rows world).1 = ⟨false, false⟩
  clocked : ∀ world, view (surroundings.clock world).2 = view world
  polled : ∀ world, view (surroundings.poll world).2 = view world
  rendered : ∀ rows world, view (surroundings.render rows world).2 = view world
  noted : ∀ note world, view (surroundings.note note world) = view world

namespace Surroundings

variable {τ ε β : Type} {surroundings : Surroundings τ ε} {view : ε → β} {keys : β → List Bool}

theorem steady_scripted [TimeScale τ] (held : List Bool) :
    (scripted fun _ => held : Surroundings τ Nat).Steady (fun _ => ()) fun _ => held where
  clock _ := ⟨TimeScale.zero, rfl⟩
  poll _ := rfl
  render _ _ := rfl
  clocked _ := rfl
  polled _ := rfl
  rendered _ _ := rfl
  noted _ _ := rfl

theorem Steady.unbroken (steady : surroundings.Steady view keys) : surroundings.Unbroken := by
  intro rows world
  rw [steady.render]

end Surroundings

/-- A cause that stands in the way of some instruction. -/
def Fault.Arises (cause : Fault) : Prop :=
  ∃ (strict : Bool) (state : State), state.Refused strict state.word cause

/-- How far a machine whose keys are held has come, and the error that ended it. -/
structure Walk where
  status : Status
  state : State
  trace : Trace
  error? : Option Error

namespace Walk

/-- A program that was just started. -/
def ofProgram (limit : Nat) (program : List UInt8) : Walk where
  status := .running
  state := .ofProgram program
  trace := .empty limit
  error? := none

/-- One more cycle, if there is one. -/
abbrev next (strict : Bool) (held : List Bool) : Walk → Walk :=
  whileRunning status fun walk =>
    let outcome := walk.state.cycle strict held
    { status := outcome.status
      state := outcome.state
      trace := walk.trace.push outcome.entry
      error? := walk.state.error? strict }

variable {strict : Bool} {held : List Bool} {walk : Walk}

/-- An entry with all registers before and after, whose fault stood in the way of an instruction. -/
structure EntrySound (entry : TraceEntry) : Prop where
  before : entry.before.registers.length = 16
  after : entry.after.registers.length = 16
  fault : ∀ cause, entry.fault = some cause → cause.Arises

/-- What holds of a walk through any program. -/
structure Sound (limit : Nat) (walk : Walk) : Prop where
  formed : walk.state.WellFormed
  room : walk.trace.limit = limit
  busy : walk.status ≠ .idle ∧ walk.status ≠ .loaded
  faulted : walk.status = .faulted ↔ walk.error? ≠ none
  error : ∀ error, walk.error? = some error → ∃ (word pc : Int) (cause : Fault),
    error = .fault (.execution word pc cause) ∧ cause.Arises
  entries : ∀ entry ∈ walk.trace.entries, EntrySound entry

theorem sound_ofProgram (limit : Nat) (program : List UInt8) :
    (ofProgram limit program).Sound limit where
  formed := .ofProgram program
  room := rfl
  busy := by simp [ofProgram]
  faulted := by simp [ofProgram]
  error := by simp [ofProgram]
  entries := by simp [ofProgram, Trace.empty]

theorem Sound.next {limit : Nat} (sound : walk.Sound limit) (sixteen : held.length = 16) :
    (walk.next strict held).Sound limit := by
  rw [Walk.next, whileRunning]
  split
  · -- The kind of cycle settles both the status and the error, so the cases are those of a cycle.
    have formed := sound.formed.cycle strict sixteen
    have arises {cause : Fault} (refused : walk.state.fault? strict = some cause) :
        cause.Arises := ⟨strict, walk.state, sound.formed.fault?_eq_some.mp refused⟩
    have entered {entry : TraceEntry} (whole : EntrySound entry) :
        ∀ other ∈ (walk.trace.push entry).entries, EntrySound other := by
      intro other member
      rcases List.mem_append.mp (List.mem_of_mem_drop member) with before | last
      · exact sound.entries other before
      · rwa [List.mem_singleton.mp last]
    have sixteen := sound.formed.registerCount
    rcases walk.state.cycle_cases strict held with
      ⟨atEnd, same⟩ | ⟨inside, granted, same⟩ | ⟨cause, inside, refused, same⟩
    · rw [same] at formed ⊢
      have error := State.error?_atEnd strict atEnd
      exact
        { formed
          room := sound.room
          busy := by simp
          faulted := by simp [error]
          error := by simp [error]
          entries := entered ⟨sixteen, sixteen, fun _ failed => by cases failed⟩ }
    · rw [same] at formed ⊢
      have error := State.error?_granted inside granted
      exact
        { formed
          room := sound.room
          busy := by simp
          faulted := by simp [error]
          error := by simp [error]
          entries := entered ⟨sixteen, formed.registerCount, fun _ failed => by cases failed⟩ }
    · rw [same] at formed ⊢
      have error := State.error?_refused inside refused
      exact
        { formed
          room := sound.room
          busy := by simp
          faulted := by simp [error]
          error := fun other failed =>
            ⟨_, _, cause, Option.some.inj (failed.symm.trans error), arises refused⟩
          entries := entered ⟨sixteen, formed.registerCount,
            fun other failed => Option.some.inj failed ▸ arises refused⟩ }
  · exact sound

theorem Sound.after {limit : Nat} (sound : walk.Sound limit) (sixteen : held.length = 16)
    (cycles : Nat) : ((Walk.next strict held)^[cycles] walk).Sound limit := by
  induction cycles generalizing walk with
  | zero => exact sound
  | succ cycles ih => exact ih (sound.next sixteen)

theorem Sound.ended {limit : Nat} (sound : walk.Sound limit) :
    ∃ fault : Option Fault, walk.error? = fault.map Error.fault := by
  cases failed : walk.error? with
  | none => exact ⟨none, rfl⟩
  | some error =>
    obtain ⟨word, pc, cause, rfl, _⟩ := sound.error error failed
    exact ⟨some (.execution word pc cause), rfl⟩

end Walk

namespace Machine

variable {τ ε α β : Type} {config : Config τ} {surroundings : Surroundings τ ε} {view : ε → β}
  {keys : β → List Bool} {seen : β} {walk : Walk} {place : Machine τ × ε}

/-- A place that a walk leads to. -/
structure Reaches (walk : Walk) (place : Machine τ × ε) : Prop where
  state : place.1.state = some walk.state
  status : place.1.status = walk.status
  trace : place.1.trace = walk.trace

/-- A place that a walk leads to and can go on from. -/
structure OnWalk (config : Config τ) (view : ε → β) (seen : β) (walk : Walk)
    (place : Machine τ × ε) : Prop extends Reaches walk place where
  settings : place.1.config = config
  awake : place.1.clockPaused = false
  unstopped : place.1.Unstopped
  seen : view place.2 = seen

/-- The cycle of a machine that no screen stops and whose keys stay held. -/
theorem OnWalk.settle (steady : surroundings.Steady view keys)
    (walks : OnWalk config view seen walk place) (running : walk.status = .running) :
    OnWalk config view seen (walk.next config.strict (keys seen))
      (Machine.settle surroundings place.1 walk.state place.2) := by
  obtain ⟨machine, world⟩ := place
  obtain ⟨stopping, settled⟩ := settle_machine surroundings machine walk.state world
  have polled : (surroundings.poll world).1 = keys seen :=
    (steady.poll world).trans (congrArg keys walks.seen)
  have strict : machine.config.strict = config.strict := congrArg Config.strict walks.settings
  have still : view (surroundings.poll world).2 = seen := (steady.polled world).trans walks.seen
  rw [polled, strict, walks.trace] at settled
  rw [Walk.next, whileRunning_eq running]
  have calm : (Machine.settle surroundings machine walk.state world).1.Unstopped ∧
      view (Machine.settle surroundings machine walk.state world).2 = seen := by
    simp only [Machine.settle]
    split
    · exact ⟨walks.unstopped, (steady.noted _ _).trans walks.seen⟩
    · split
      · have unstopped : machine.stopping = false := walks.unstopped
        have going := Surroundings.frame_cases
          (fun shown => ∀ rows world, (shown rows world).1.stop = false) (fun _ _ => rfl)
          (fun rows world => congrArg Reception.stop (steady.render rows world))
          (machine.shows walk.state.operation)
        refine ⟨?_, ?_⟩
        · simp only [Unstopped, unstopped, going, Bool.or_false]
        · rw [Surroundings.view_frame steady.rendered, Surroundings.view_remark steady.noted, still]
      · exact ⟨walks.unstopped, (steady.noted _ _).trans still⟩
  exact
    { state := congrArg Machine.state settled
      status := congrArg Machine.status settled
      trace := congrArg Machine.trace settled
      settings := (congrArg Machine.config settled).trans walks.settings
      awake := (congrArg Machine.clockPaused settled).trans walks.awake
      unstopped := calm.1
      seen := calm.2 }

variable [TimeScale τ]

/-- A number of steps, fewer when the machine halts. An error that ends a step ends them all. -/
def steps (surroundings : Surroundings τ ε) : Nat → Call τ ε Unit
  | 0 => return
  | count + 1 => do
    if (← read).status = .running then
      let _ ← step surroundings
      steps surroundings count

/-- A program is loaded, started, and stepped through. -/
def stepThrough (surroundings : Surroundings τ ε) (program : List UInt8) (count : Nat) :
    Call τ ε Unit := do
  let _ ← load surroundings program
  start surroundings
  steps surroundings count

/-- A program is loaded and run. -/
def playThrough (surroundings : Surroundings τ ε) (program : List UInt8) (fuel : Nat)
    (limit : Option Int) : Call τ ε Unit := do
  let _ ← load surroundings program
  let _ ← run surroundings fuel limit

/-- The cycles of a run need not wait for each other. -/
def Unthrottled (config : Config τ) : Prop :=
  ∃ period, config.cyclePeriod = .ok period ∧ TimeScale.isNonPositive period = true

theorem OnWalk.step (steady : surroundings.Steady view keys) (shared : config.timerRate = none)
    (sixteen : (keys seen).length = 16) {limit : Nat} (sound : walk.Sound limit)
    (running : walk.status = .running) (walks : OnWalk config view seen walk place) :
    ∃ entry after, (Machine.step surroundings).run place =
        conclude (walk.next config.strict (keys seen)).error? entry after ∧
      OnWalk config view seen (walk.next config.strict (keys seen)) after := by
  have polled : (surroundings.poll place.2).1 = keys seen :=
    (steady.poll place.2).trans (congrArg keys walks.seen)
  have taken : ¬ walk.state.TurnsDown (surroundings.poll place.2).1 :=
    fun turned => turned.2 (polled ▸ sixteen)
  have stepped := run_step_cycled steady.unbroken place.2 walks.state (walks.status.trans running)
    walks.awake (walks.settings ▸ shared) sound.formed.shaped sound.formed.counter.1
  have error : (walk.next config.strict (keys seen)).error? =
      walk.state.error? place.1.config.strict := by
    rw [Walk.next, whileRunning_eq running, walks.settings]
  rw [cycled, if_neg taken, ← error] at stepped
  exact ⟨_, _, stepped, walks.settle steady running⟩

/-- What is left when a call has come to the end of a walk. -/
structure Concludes (view : ε → β) (seen : β) (walk : Walk)
    (result : EStateM.Result Error (Machine τ × ε) α) : Prop where
  raised : raised result = walk.error?
  reaches : Reaches walk (left result)
  seen : view (left result).2 = seen

omit [TimeScale τ] in
theorem OnWalk.rests (walks : OnWalk config view seen walk place) (healthy : walk.error? = none)
    (value : α) : Concludes view seen walk (.ok value place) :=
  ⟨healthy.symm, walks.toReaches, walks.seen⟩

omit [TimeScale τ] in
theorem OnWalk.fails (walks : OnWalk config view seen walk place) {error : Error}
    (failed : walk.error? = some error) :
    Concludes view seen walk (.error error place : EStateM.Result Error (Machine τ × ε) α) :=
  ⟨failed.symm, walks.toReaches, walks.seen⟩

theorem OnWalk.steps (steady : surroundings.Steady view keys) (shared : config.timerRate = none)
    (sixteen : (keys seen).length = 16) {limit : Nat} (sound : walk.Sound limit)
    (healthy : walk.error? = none) (walks : OnWalk config view seen walk place) (count : Nat) :
    Concludes view seen ((Walk.next config.strict (keys seen))^[count] walk)
      ((Machine.steps surroundings count).run place) := by
  induction count generalizing walk place with
  | zero => exact walks.rests healthy ()
  | succ count ih =>
    obtain ⟨machine, world⟩ := place
    have status : machine.status = walk.status := walks.status
    simp only [Machine.steps, EStateM.run_bind, run_read, status]
    by_cases running : walk.status = .running
    · obtain ⟨entry, after, stepped, walks'⟩ := walks.step steady shared sixteen sound running
      have sound' : (walk.next config.strict (keys seen)).Sound limit := sound.next sixteen
      rw [if_pos running, EStateM.run_bind, stepped, Function.iterate_succ_apply]
      cases failed : (walk.next config.strict (keys seen)).error? with
      | none => exact ih sound' failed walks'
      | some error =>
        have faulted := sound'.faulted.mpr (by simp [failed])
        rw [iterate_ended (by simp [faulted])]
        exact walks'.fails failed
    · rw [if_neg running, iterate_ended running]
      exact walks.rests healthy ()

theorem run_pace_unthrottled (unthrottled : Unthrottled config) (settings : place.1.config = config)
    (cycleStart : τ) : (pace surroundings cycleStart).run place = .ok () place := by
  obtain ⟨machine, world⟩ := place
  obtain ⟨period, known, short⟩ := unthrottled
  have known : machine.config.cyclePeriod = .ok period := settings ▸ known
  simp [pace, run_read, known, number, short]

/-- Between the cycles of a run nothing happens but readings of the clock. -/
theorem OnWalk.turn (steady : surroundings.Steady view keys) (shared : config.timerRate = none)
    (unthrottled : Unthrottled config) (sixteen : (keys seen).length = 16) {limit : Nat}
    (sound : walk.Sound limit) (running : walk.status = .running)
    (walks : OnWalk config view seen walk place) :
    ∃ after, (Machine.turn surroundings).run place =
        conclude (walk.next config.strict (keys seen)).error? () after ∧
      OnWalk config view seen (walk.next config.strict (keys seen)) after := by
  obtain ⟨machine, world⟩ := place
  obtain ⟨now, answered⟩ := steady.clock world
  have clocked : OnWalk config view seen walk (machine, (surroundings.clock world).2) :=
    { walks with seen := (steady.clocked world).trans walks.seen }
  obtain ⟨entry, after, stepped, walks'⟩ := clocked.step steady shared sixteen sound running
  refine ⟨after, ?_, walks'⟩
  rw [run_turn, run_demand, answered]
  simp only [stepped]
  cases (walk.next config.strict (keys seen)).error? with
  | some error => rfl
  | none =>
    simp only [conclude]
    split
    · exact run_pace_unthrottled unthrottled walks'.settings now
    · rfl

theorem OnWalk.cycles (steady : surroundings.Steady view keys) (shared : config.timerRate = none)
    (unthrottled : Unthrottled config) (sixteen : (keys seen).length = 16) {limit : Nat}
    (sound : walk.Sound limit) (healthy : walk.error? = none)
    (walks : OnWalk config view seen walk place) {count fuel : Nat} (enough : count ≤ fuel) :
    Concludes view seen ((Walk.next config.strict (keys seen))^[count] walk)
        ((Machine.cycles surroundings fuel (some count)).run place) ∧
      ∀ finished after, (Machine.cycles surroundings fuel (some count)).run place =
        .ok finished after → finished = true := by
  induction fuel generalizing walk place count with
  | zero =>
    obtain rfl : count = 0 := Nat.le_zero.mp enough
    rw [run_cycles_over surroundings 0 (by simp [goesOn])]
    refine ⟨walks.rests healthy true, ?_⟩
    rintro finished after ⟨⟩
    rfl
  | succ fuel ih =>
    rw [run_cycles_succ]
    have closed (ended : (Walk.next config.strict (keys seen))^[count] walk = walk) :
        Concludes view seen ((Walk.next config.strict (keys seen))^[count] walk)
            (.ok true place : EStateM.Result Error (Machine τ × ε) Bool) ∧
          ∀ finished after, (.ok true place : EStateM.Result Error (Machine τ × ε) Bool) =
            .ok finished after → finished = true := by
      rw [ended]
      refine ⟨walks.rests healthy true, ?_⟩
      rintro finished after ⟨⟩
      rfl
    cases count with
    | zero =>
      rw [if_neg (by simp [goesOn])]
      exact closed rfl
    | succ count =>
      have unstopped : place.1.stopping = false := walks.unstopped
      by_cases running : walk.status = .running
      · obtain ⟨after, turned, walks'⟩ :=
          walks.turn steady shared unthrottled sixteen sound running
        have sound' : (walk.next config.strict (keys seen)).Sound limit := sound.next sixteen
        rw [if_pos (by simp [goesOn, walks.status, running, unstopped]), turned,
          Function.iterate_succ_apply]
        cases failed : (walk.next config.strict (keys seen)).error? with
        | none => exact ih sound' failed walks' (Nat.le_of_succ_le_succ enough)
        | some error =>
          have faulted := sound'.faulted.mpr (by simp [failed])
          rw [iterate_ended (by simp [faulted])]
          exact ⟨walks'.fails failed, fun _ _ came => by cases came⟩
      · rw [if_neg (by simp [goesOn, walks.status, running])]
        exact closed (iterate_ended running _)

theorem onWalk_loaded (steady : surroundings.Steady view keys) (config : Config τ)
    (program : List UInt8) (world : ε) :
    ∃ bytes machine told place,
      (load surroundings program).run (idle config, world) = .ok bytes (machine, told) ∧
      machine.state = some (.ofProgram program) ∧ machine.status = .loaded ∧
      (resumeClock surroundings).run
          ({ machine with status := .running, stopping := false }, told) = .ok () place ∧
      OnWalk config view (view world) (.ofProgram config.traceLimit.toNat program) place := by
  have loads := run_load surroundings program (idle config) world
  extract_lets bytes at loads
  obtain ⟨told, reported⟩ : ∃ told, told = surroundings.note (.loaded bytes)
      (if bytes < program.length then
        surroundings.note (.truncated bytes program.length) world else world) := ⟨_, rfl⟩
  rw [← reported] at loads
  have kept : view told = view world := by
    rw [reported, steady.noted]
    split
    · exact steady.noted _ world
    · rfl
  obtain ⟨now, answered⟩ := steady.clock told
  refine ⟨bytes, _, told, _, loads, rfl, rfl, by rw [run_resumeClock, answered], ?_⟩
  exact ⟨⟨rfl, rfl, rfl⟩, rfl, rfl, rfl, (steady.clocked told).trans kept⟩

theorem stepThrough_concludes (steady : surroundings.Steady view keys)
    (shared : config.timerRate = none) {world : ε} (sixteen : (keys (view world)).length = 16)
    (program : List UInt8) (count : Nat) :
    Concludes view (view world)
      ((Walk.next config.strict (keys (view world)))^[count]
        (Walk.ofProgram config.traceLimit.toNat program))
      ((stepThrough surroundings program count).run (idle config, world)) := by
  obtain ⟨bytes, machine, told, place, loads, _, loaded, resumed, walks⟩ :=
    onWalk_loaded steady config program world
  simp only [stepThrough, EStateM.run_bind, loads, run_start, loaded, reduceCtorEq, if_false,
    if_true, resumed]
  exact walks.steps steady shared sixteen (Walk.sound_ofProgram _ _) rfl count

/-- A run that is allowed some cycles, and need not wait between them, comes to what as many steps
come to. -/
theorem playThrough_concludes (steady : surroundings.Steady view keys)
    (shared : config.timerRate = none) (unthrottled : Unthrottled config) {world : ε}
    (sixteen : (keys (view world)).length = 16) (program : List UInt8) {limit : Option Int}
    {count fuel : Nat} (allowed : allowance (idle config) limit = some count)
    (enough : count ≤ fuel) :
    Concludes view (view world)
      ((Walk.next config.strict (keys (view world)))^[count]
        (Walk.ofProgram config.traceLimit.toNat program))
      ((playThrough surroundings program fuel limit).run (idle config, world)) := by
  obtain ⟨bytes, machine, told, place, loads, present, loaded, resumed, walks⟩ :=
    onWalk_loaded steady config program world
  have begins : (beginRun surroundings).run (machine, told) = .ok () place := by
    rw [run_beginRun_resume surroundings told present, if_pos loaded]
    exact resumed
  have permitted : allowance place.1 limit = some count := by
    rw [allowance, walks.settings]
    exact allowed
  obtain ⟨concluded, finishes⟩ := walks.cycles steady shared unthrottled sixteen
    (Walk.sound_ofProgram _ _) rfl enough
  simp only [playThrough, EStateM.run_bind, loads, run_run, begins, permitted]
  cases outcome : (Machine.cycles surroundings fuel (some count)).run place with
  | error error after =>
    rw [outcome] at concluded
    exact ⟨concluded.raised, concluded.reaches, concluded.seen⟩
  | ok finished after =>
    rw [outcome] at concluded
    obtain rfl := finishes finished after outcome
    exact ⟨concluded.raised, { concluded.reaches with }, concluded.seen⟩

end Machine

end ChipEight
