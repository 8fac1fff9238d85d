import ChipEight.Proofs.Course

/-! The life of a program: the instructions that were executed since it was loaded, and how the
machine stands on the state that they led to. -/

namespace ChipEight

namespace State

theorem repeat_add (change : State → State) (first second : Nat) (state : State) :
    (first + second).repeat change state = second.repeat change (first.repeat change state) := by
  induction second with
  | zero => rfl
  | succ second ih => exact congrArg change ih

theorem ticks_ticks (first second : Int) (state : State) :
    (state.ticks first).ticks second = state.ticks (first.toNat + second.toNat : Nat) :=
  (repeat_add tick first.toNat second.toNat state).symm

theorem ticks_eq (count : Int) (state : State) :
    ∃ delay sound, state.ticks count = { state with delayTimer := delay, soundTimer := sound } := by
  unfold ticks
  induction count.toNat with
  | zero => exact ⟨state.delayTimer, state.soundTimer, rfl⟩
  | succ count ih =>
    obtain ⟨delay, sound, ticked⟩ := ih
    exact ⟨_, _, (congrArg tick ticked).trans rfl⟩

/-- From one state to another by executed instructions, given by the states that found them. The
timers may run any number of times after each. -/
inductive Executes (strict : Bool) (start : State) : List State → State → Prop where
  | start : Executes strict start [] start
  | next {history : List State} {state : State} {keys : List Bool} (count : Int)
      (before : Executes strict start history state) (inside : ¬ state.AtEnd)
      (granted : state.fault? strict = none) (sixteen : keys.length = 16) :
      Executes strict start (history ++ [state]) ((state.executed keys).ticks count)

namespace Executes

variable {strict : Bool} {start current : State} {history : List State}

theorem wellFormed (executes : Executes strict start history current) (formed : start.WellFormed) :
    current.WellFormed := by
  induction executes with
  | start => exact formed
  | next count _ inside granted sixteen ih => exact (ih.executed inside sixteen granted).ticks count

theorem upTo (executes : Executes strict start history current) {place : Nat}
    (within : place < history.length) :
    Executes strict start (history.take place) history[place] := by
  induction executes with
  | start => exact absurd within (Nat.not_lt_zero place)
  | @next history state _ _ before _ _ _ ih =>
    by_cases old : place < history.length
    · rw [List.getElem_append_left old, List.take_append_of_le_length (Nat.le_of_lt old)]
      exact ih old
    · have last : place = history.length := by
        rw [List.length_append, List.length_singleton] at within
        omega
      subst last
      rw [List.take_left' rfl, List.getElem_append_right (Nat.le_refl _)]
      simpa using before

theorem step (executes : Executes strict start history current) {place : Nat}
    (within : place < history.length) :
    ¬ history[place].AtEnd ∧ history[place].fault? strict = none ∧
      ∃ keys count, keys.length = 16 ∧
        (history ++ [current])[place + 1]? = some ((history[place].executed keys).ticks count) := by
  induction executes with
  | start => exact absurd within (Nat.not_lt_zero place)
  | @next history state keys count _ inside granted sixteen ih =>
    by_cases old : place < history.length
    · obtain ⟨inside', granted', keys', count', sixteen', left⟩ := ih old
      have same : ((history ++ [state]) ++ [(state.executed keys).ticks count])[place + 1]? =
          (history ++ [state])[place + 1]? :=
        List.getElem?_append_left (by rw [List.length_append, List.length_singleton]; omega)
      rw [List.getElem_append_left old, same]
      exact ⟨inside', granted', keys', count', sixteen', left⟩
    · have last : place = history.length := by
        rw [List.length_append, List.length_singleton] at within
        omega
      subst last
      have here : (history ++ [state])[history.length] = state := by
        rw [List.getElem_append_right (Nat.le_refl _)]
        simp
      rw [here]
      refine ⟨inside, granted, keys, count, sixteen, ?_⟩
      rw [List.getElem?_append_right (by simp)]
      simp

end Executes

end State

namespace Machine

variable {τ ε α : Type} {machine : Machine τ} {state : State} {surroundings : Surroundings τ ε}

/-- Between two places the timers may have run, and the settings and the stage are the same. -/
def Ticks (before after : Machine τ × ε) : Prop :=
  after.1.config = before.1.config ∧ after.1.status = before.1.status ∧
    ∃ count, after.1.state = before.1.state.map (State.ticks count)

theorem Ticks.of_eq {before after : Machine τ × ε} (config : after.1.config = before.1.config)
    (status : after.1.status = before.1.status) (state : after.1.state = before.1.state) :
    Ticks before after := by
  refine ⟨config, status, 0, ?_⟩
  rw [state]
  cases before.1.state <;> rfl

instance : Std.Refl (Ticks (τ := τ) (ε := ε)) :=
  ⟨fun _ => .of_eq rfl rfl rfl⟩

instance : Trans (Ticks (τ := τ) (ε := ε)) Ticks Ticks where
  trans before after := by
    obtain ⟨config, status, count, state⟩ := before
    obtain ⟨config', status', count', state'⟩ := after
    refine ⟨config'.trans config, status'.trans status, (count.toNat + count'.toNat : Nat), ?_⟩
    rw [state', state, Option.map_map]
    congr 1
    funext found
    exact State.ticks_ticks count count' found

theorem ticks_update {change : Machine τ → Machine τ}
    (kept : ∀ machine, (change machine).config = machine.config ∧
      (change machine).status = machine.status ∧ (change machine).state = machine.state) :
    Leads Ticks (update change : Call τ ε Unit) :=
  fun place => .of_eq (kept place.1).1 (kept place.1).2.1 (kept place.1).2.2

theorem ticks_ask (request : ε → α × ε) : Leads Ticks (ask request : Call τ ε α) :=
  fun _ => .of_eq rfl rfl rfl

theorem ticks_look : Leads Ticks (onState get : Call τ ε State) := by
  intro ⟨machine, world⟩
  cases present : machine.state with
  | none =>
    simp only [onState, EStateM.run_bind, EStateM.run_get, present, run_throw]
    exact .of_eq rfl rfl rfl
  | some state =>
    rw [run_look world present]
    exact .of_eq rfl rfl rfl

theorem ticks_modify (count : Int) :
    Leads Ticks (onState (modify (State.ticks count)) : Call τ ε Unit) := by
  intro ⟨machine, world⟩
  cases present : machine.state with
  | none =>
    simp only [onState, EStateM.run_bind, EStateM.run_get, present, run_throw]
    exact .of_eq rfl rfl rfl
  | some state =>
    rw [run_onState _ world present]
    refine ⟨rfl, rfl, count, ?_⟩
    simp only [left, EStateM.run_modify, present, Option.map_some]

theorem ticks_present (operation : Operation) :
    Leads Ticks (Machine.present surroundings operation) :=
  leads_present operation ticks_look (fun _ => ticks_ask _) (ticks_update fun _ => ⟨rfl, rfl, rfl⟩)

variable [TimeScale τ]

theorem ticks_updateTimers : Leads Ticks (updateTimers surroundings) :=
  leads_updateTimers (leads_demand fun _ _ => .of_eq rfl rfl rfl)
    (fun _ _ => ticks_update fun _ => ⟨rfl, rfl, rfl⟩) ticks_modify

theorem ticks_complete (surroundings : Surroundings τ ε) (before : Snapshot)
    (operation : Operation) (instruction : Instruction) :
    Leads Ticks (complete surroundings before operation instruction) :=
  leads_complete before operation instruction ticks_look (fun _ _ => .of_eq rfl rfl rfl)
    ticks_updateTimers (ticks_present operation) fun _ => ticks_update fun _ => ⟨rfl, rfl, rfl⟩

/-! Whatever rests and steps lead along, requests lead along too. -/

section

variable {relation : Machine τ × ε → Machine τ × ε → Prop} [Std.Refl relation]
  [Trans relation relation relation]

omit [TimeScale τ] [Std.Refl relation] [Trans relation relation relation] in
theorem leads_idle
    (rests : ∀ before after, Resting surroundings before after → relation before after)
    {call : Call τ ε α} (idles : Idles surroundings call) : Leads relation call :=
  fun place => rests _ _ (idles place)

theorem leads_request
    (rests : ∀ before after, Resting surroundings before after → relation before after)
    (steps : Leads relation (step surroundings)) {request : Request}
    (plays : ∀ program, request ≠ .load program) : Leads relation (request.call surroundings) := by
  cases request with
  | load program => exact absurd rfl (plays program)
  | start => exact leads_idle rests (idles_start surroundings)
  | stop => exact leads_idle rests idles_stop
  | step => exact steps.bind fun _ => Leads.pure ()
  | run fuel limit =>
    have turns : Leads relation (turn surroundings) :=
      leads_turn (leads_idle rests (idles_clock surroundings)) steps fun cycleStart =>
        leads_idle rests (idles_pace surroundings cycleStart)
    have pauses : Idles surroundings
        (update fun machine => { machine with clockPaused := true } : Call τ ε Unit) :=
      idles_update fun _ => ⟨rfl, rfl, rfl, .inl rfl⟩
    have begins := leads_idle rests (idles_beginRun surroundings)
    exact (leads_run begins turns (leads_idle rests pauses) fuel limit).bind fun _ => Leads.pure ()

theorem leads_serve
    (rests : ∀ before after, Resting surroundings before after → relation before after)
    (steps : Leads relation (step surroundings)) {requests : List Request}
    (plays : ∀ request ∈ requests, ∀ program, request ≠ .load program) (place : Machine τ × ε) :
    relation place (serve surroundings requests place) := by
  induction requests generalizing place with
  | nil => exact Std.Refl.refl place
  | cons request requests ih =>
    obtain ⟨first, others⟩ := List.forall_mem_cons.mp plays
    exact Trans.trans (leads_request rests steps first place) (ih others _)

end

/-- How a machine stands on a state that executed instructions have led to: ready for the next
one, halted because there is none, or faulted because it was refused. -/
inductive Stands (current : State) (machine : Machine τ) : Prop where
  | ready (status : machine.status = .loaded ∨ machine.status = .running)
      (present : machine.state = some current) : Stands current machine
  | halted (status : machine.status = .halted) (atEnd : current.AtEnd)
      (present : machine.state = some { current with halted := true }) : Stands current machine
  | faulted {keys : List Bool} {cause : Fault} (status : machine.status = .faulted)
      (inside : ¬ current.AtEnd) (refused : current.fault? machine.config.strict = some cause)
      (sixteen : keys.length = 16) (present : machine.state = some (current.failed keys)) :
      Stands current machine

/-- The machine stands where instructions led it that were executed from a state on. -/
def Lives (strict : Bool) (start : State) (machine : Machine τ) : Prop :=
  machine.config.strict = strict ∧
    ∃ history current, State.Executes strict start history current ∧ Stands current machine

omit [TimeScale τ] in
theorem Stands.rested {current : State} {rested : Machine τ} (stands : Stands current machine)
    (rests : machine.Rests rested) : Stands current rested := by
  have kept (apart : machine.status ≠ .loaded) : rested.status = machine.status :=
    rests.status.resolve_right fun started => apart started.1
  cases stands with
  | ready status present =>
    refine .ready ?_ (rests.state.trans present)
    rcases rests.status with same | ⟨_, running⟩
    · rwa [same]
    · exact .inr running
  | halted status atEnd present =>
    exact .halted ((kept (by simp [status])).trans status) atEnd (rests.state.trans present)
  | faulted status inside refused sixteen present =>
    exact .faulted ((kept (by simp [status])).trans status) inside (by rw [rests.config, refused])
      sixteen (rests.state.trans present)

omit [TimeScale τ] in
theorem Lives.rested {strict : Bool} {start : State} {rested : Machine τ}
    (lives : machine.Lives strict start) (rests : machine.Rests rested) :
    rested.Lives strict start := by
  obtain ⟨setting, history, current, executes, stands⟩ := lives
  exact ⟨by rw [rests.config, setting], history, current, executes, stands.rested rests⟩

theorem Lives.step_ready {strict : Bool} {start : State} (lives : machine.Lives strict start)
    (formed : start.WellFormed) (surroundings : Surroundings τ ε) (world : ε)
    (running : machine.status = .running) (awake : machine.clockPaused = false) :
    (left ((step surroundings).run (machine, world))).1.Lives strict start := by
  obtain ⟨setting, history, current, executes, stands⟩ := lives
  have formed := executes.wellFormed formed
  cases stands with
  | halted status => simp [running] at status
  | faulted status => simp [running] at status
  | ready _ present =>
    rcases step_ready_cases surroundings world present running awake formed.shaped
      formed.counter.1 with ⟨atEnd, ended⟩ | ⟨_, _, turned⟩ |
        ⟨cause, inside, sixteen, refused, faulted⟩ | ⟨inside, sixteen, granted, executed⟩
    · rw [ended]
      exact ⟨setting, history, current, executes, .halted rfl atEnd rfl⟩
    · rw [turned]
      exact ⟨setting, history, current, executes, .ready (.inr running) present⟩
    · rw [faulted]
      exact ⟨setting, history, current, executes, .faulted rfl inside refused sixteen rfl⟩
    · obtain ⟨config, status, count, left⟩ := ticks_complete surroundings
        current.snapshot current.operation current.instruction
        ({ machine with state := some (current.executed (surroundings.poll world).1) },
          (surroundings.poll world).2)
      rw [setting] at granted
      rw [executed]
      exact ⟨by rw [config, setting], _, _, executes.next count inside granted sixteen,
        .ready (.inr (status.trans running)) left⟩

theorem lives_step {strict : Bool} {start : State} (formed : start.WellFormed) :
    Keeps (Lives strict start) (step surroundings) := by
  have wakes : Keeps (Lives strict start) (wake surroundings) :=
    fun place lives => lives.rested (idles_wake surroundings place).1
  refine leads_step wakes ?_
  intro machine state world present running awake lives
  exact Lives.step_ready lives formed surroundings world running awake

/-- However a machine is used after a program was loaded, it stands where executed instructions
have led from there. -/
theorem lives_serve (surroundings : Surroundings τ ε) (place : Machine τ × ε) (program : List UInt8)
    {requests : List Request} (plays : ∀ request ∈ requests, ∀ program, request ≠ .load program) :
    (serve surroundings requests ((Request.load program).serve surroundings place)).1.Lives
      place.1.config.strict (State.ofProgram program) := by
  obtain ⟨bytes, loaded⟩ := serve_load surroundings program place
  have rests (before after : Machine τ × ε) (resting : Resting surroundings before after) :
      Retains (Lives place.1.config.strict (State.ofProgram program)) before after :=
    fun lives => lives.rested resting.1
  refine leads_serve rests (lives_step (.ofProgram program)) plays _ ?_
  rw [loaded]
  exact ⟨rfl, [], State.ofProgram program, .start, .ready (.inl rfl) rfl⟩

end Machine

end ChipEight
