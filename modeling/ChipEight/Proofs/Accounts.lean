import ChipEight.Proofs.Waiting

/-! An instruction is counted before the timers run and its frame is shown, and entered after them,
so what breaks a step off in between leaves an instruction that is counted and not entered. -/

namespace ChipEight

instance (entry : TraceEntry) : Decidable entry.Closes :=
  inferInstanceAs (Decidable (_ ∨ _))

/-- How many instructions were executed by the time of an entry. Its own instruction is one of them,
unless the entry is one of a halt or a fault. -/
def TraceEntry.count (entry : TraceEntry) : Int :=
  if entry.Closes then entry.cycle else entry.cycle + 1

theorem Trace.last?_push {trace : Trace} (room : 1 ≤ trace.limit) (entry : TraceEntry) :
    (trace.push entry).last? = some entry := by
  have kept : ¬ (trace.entries ++ [entry]).length ≤
      (trace.entries ++ [entry]).length - trace.limit := by
    rw [List.length_append, List.length_singleton]
    omega
  simp only [Trace.last?, Trace.push, List.getLast?_drop, if_neg kept, List.getLast?_concat]

namespace State

variable {state : State} {keys : List Bool}

theorem count_endEntry : state.endEntry.count = state.cycles :=
  if_pos (.inl rfl)

theorem count_faultEntry (cause : Fault) : (state.faultEntry keys cause).count = state.cycles :=
  if_pos (.inr (Option.some_ne_none cause))

end State

namespace Machine

variable {τ ε : Type} {config : Config τ} {machine : Machine τ} {state : State}
  {surroundings : Surroundings τ ε}

/-- Between two places no entry was made. -/
def Unentered (before after : Machine τ × ε) : Prop :=
  after.1.trace = before.1.trace

instance : Std.Refl (Unentered (τ := τ) (ε := ε)) :=
  ⟨fun _ => rfl⟩

instance : Trans (Unentered (τ := τ) (ε := ε)) Unentered Unentered :=
  ⟨fun before after => Eq.trans after before⟩

theorem unentered_onState (action : Action α) :
    Leads Unentered (onState action : Call τ ε α) := by
  intro ⟨machine, world⟩
  cases present : machine.state with
  | none =>
    simp only [onState, EStateM.run_bind, EStateM.run_get, present, run_throw]
    rfl
  | some state =>
    rw [run_onState action world present]
    cases action.run state <;> rfl

variable [TimeScale τ]

theorem unentered_updateTimers : Leads Unentered (updateTimers surroundings) :=
  leads_updateTimers (leads_demand fun _ _ => rfl) (fun _ _ _ => rfl)
    fun _ => unentered_onState _

/-- What breaks a step off behind an instruction that is executed and counted: the timers cannot be
updated, or the person at the screen interrupts the frame that follows. -/
inductive BreaksOff (surroundings : Surroundings τ ε) (operation : Operation)
    (counted : Machine τ × ε) : Error → Prop where
  | timers {error : Error} {reached : Machine τ × ε}
      (failed : (updateTimers surroundings).run counted = .error error reached) :
      BreaksOff surroundings operation counted error
  | frame {updated : Machine τ} {state : State} {world : ε}
      (updates : (updateTimers surroundings).run counted = .ok () (updated, world))
      (present : updated.state = some state) (due : updated.shows operation = true)
      (interrupted : (surroundings.render state.display.rows world).1.interrupt = true) :
      BreaksOff surroundings operation counted .interrupted

/-- How a step ends behind an instruction that is executed and counted: it is broken off and leaves
no entry, or it enters the instruction. -/
inductive Completes (surroundings : Surroundings τ ε) (operation : Operation) (state : State)
    (counted : Machine τ × ε) : EStateM.Result Error (Machine τ × ε) TraceEntry → Prop where
  | broken {error : Error} {reached : Machine τ × ε}
      (breaks : BreaksOff surroundings operation counted error)
      (unentered : Unentered counted reached) :
      Completes surroundings operation state counted (.error error reached)
  | entered {entry : TraceEntry} {reached : Machine τ × ε}
      (count : entry.count = state.cycles)
      (trace : reached.1.trace = counted.1.trace.push entry)
      (unbroken : ∀ error, ¬ BreaksOff surroundings operation counted error) :
      Completes surroundings operation state counted (.ok entry reached)

theorem run_complete_failed (surroundings : Surroundings τ ε) (before : Snapshot)
    (operation : Operation) (instruction : Instruction) (world : ε)
    (present : machine.state = some state) {error : Error} {reached : Machine τ × ε}
    (failed : (updateTimers surroundings).run
      (machine, surroundings.remark operation instruction state world) = .error error reached) :
    (complete surroundings before operation instruction).run (machine, world) =
      .error error reached := by
  by_cases unknown : operation = .unknown
  · rw [Surroundings.remark, if_pos unknown] at failed
    simp only [complete, if_pos unknown, EStateM.run_bind, run_look world present, run_tell, failed]
  · rw [Surroundings.remark, if_neg unknown] at failed
    simp only [complete, if_neg unknown, EStateM.run_bind, failed]

theorem complete_completes (surroundings : Surroundings τ ε) (before : Snapshot)
    (operation : Operation) (instruction : Instruction) (world : ε)
    (present : machine.state = some state) :
    Completes surroundings operation state
      (machine, surroundings.remark operation instruction state world)
      ((complete surroundings before operation instruction).run (machine, world)) := by
  let counted := (machine, surroundings.remark operation instruction state world)
  have ticked : Ticks counted (left ((updateTimers surroundings).run counted)) :=
    ticks_updateTimers counted
  have unentered : Unentered counted (left ((updateTimers surroundings).run counted)) :=
    unentered_updateTimers counted
  cases updates : (updateTimers surroundings).run counted with
  | error error reached =>
    rw [updates] at unentered
    rw [run_complete_failed surroundings before operation instruction world present updates]
    exact .broken (.timers updates) unentered
  | ok _ place =>
    obtain ⟨updated, world'⟩ := place
    rw [updates] at ticked unentered
    obtain ⟨_, _, ticks, passed⟩ := ticked
    have kept : updated.state = some (state.ticks ticks) := passed.trans (by rw [present]; rfl)
    have cycles : (state.ticks ticks).cycles = state.cycles := by
      obtain ⟨delay, sound, same⟩ := state.ticks_eq ticks
      rw [same]
    rw [run_complete_updated surroundings before operation instruction world present updates kept]
    simp only
    cases interrupt : (surroundings.frame (updated.shows operation)
      (state.ticks ticks).display.rows world').1.interrupt with
    | true =>
      have due : updated.shows operation = true := by
        cases shown : updated.shows operation with
        | true => rfl
        | false => simp [Surroundings.frame, shown] at interrupt
      rw [due] at interrupt
      exact .broken (.frame updates kept due interrupt) unentered
    | false =>
      refine .entered ?_ (congrArg (Trace.push · _) unentered) ?_
      · rw [TraceEntry.count, if_neg (by simp [TraceEntry.Closes]), cycles]
        exact Int.sub_add_cancel state.cycles 1
      · rintro error (failed | ⟨updates', present', due, interrupted⟩)
        · rw [updates] at failed
          cases failed
        · cases updates.symm.trans updates'
          cases kept.symm.trans present'
          simp [Surroundings.frame, due, interrupted] at interrupt

theorem complete_counted (surroundings : Surroundings τ ε) (machine : Machine τ) (state : State)
    (keys : List Bool) (world : ε) :
    let reached := left ((complete surroundings state.snapshot state.operation
      state.instruction).run ({ machine with state := some (state.executed keys) }, world))
    reached.1.status = machine.status ∧
      ∃ after, reached.1.state = some after ∧ after.cycles = state.cycles + 1 := by
  intro reached
  let counted : Machine τ := { machine with state := some (state.executed keys) }
  obtain ⟨_, status, ticks, passed⟩ := ticks_complete surroundings state.snapshot state.operation
    state.instruction (counted, world)
  refine ⟨status, (state.executed keys).ticks ticks, passed, ?_⟩
  obtain ⟨delay, sound, same⟩ := (state.executed keys).ticks_eq ticks
  rw [same]
  exact state.cycles_completed keys

/-- A step from here executes and counts its instruction, and is broken off behind it. -/
def BrokenOff (surroundings : Surroundings τ ε) (here : Machine τ × ε) : Prop :=
  ∃ (found : State) (awake : Machine τ) (world : ε) (error : Error),
    here.1.state = some found ∧ (wake surroundings).run here = .ok () (awake, world) ∧
      ¬ found.AtEnd ∧ found.fault? awake.config.strict = none ∧
      (surroundings.poll world).1.length = 16 ∧
      let executed := found.executed (surroundings.poll world).1
      BreaksOff surroundings found.operation
        ({ awake with state := some executed },
          surroundings.remark found.operation found.instruction executed
            (surroundings.poll world).2) error

/-- What a machine knows of its instructions, where `last` is the place at which its last cycle was
asked for. -/
structure Audit (surroundings : Surroundings τ ε) (last : Option (Machine τ × ε))
    (machine : Machine τ) (state : State) : Prop where
  fresh : last = none → state.cycles = 0
  behind : ∀ entry, machine.trace.last? = some entry → entry.count ≤ state.cycles
  entered : ∀ here, last = some here → ¬ BrokenOff surroundings here →
    ∃ entry, machine.trace.last? = some entry ∧ state.cycles = entry.count
  broken : ∀ here, last = some here → BrokenOff surroundings here → 0 < state.cycles ∧
    ∀ entry, machine.trace.last? = some entry → entry.count < state.cycles

variable {last : Option (Machine τ × ε)} {here : Machine τ × ε}

theorem Audit.rested {rested : Machine τ} (audit : Audit surroundings last machine state)
    (rests : machine.Rests rested) : Audit surroundings last rested state where
  fresh := audit.fresh
  behind := by
    rw [rests.trace]
    exact audit.behind
  entered := by
    rw [rests.trace]
    exact audit.entered
  broken := by
    rw [rests.trace]
    exact audit.broken

theorem audit_entered {entry : TraceEntry} (room : 1 ≤ machine.trace.limit)
    (sound : ¬ BrokenOff surroundings here) {after : Machine τ}
    (trace : after.trace = machine.trace.push entry) (count : state.cycles = entry.count) :
    Audit surroundings (some here) after state where
  fresh missing := by cases missing
  behind other same := by
    rw [trace, Trace.last?_push room] at same
    cases same
    omega
  entered _ _ _ := ⟨entry, by rw [trace, Trace.last?_push room], count⟩
  broken other same broken := by
    cases same
    exact absurd broken sound

theorem audit_broken (audit : Audit surroundings last machine state)
    (broken : BrokenOff surroundings here) {after : Machine τ} {counted : State}
    (trace : after.trace = machine.trace) (count : counted.cycles = state.cycles + 1)
    (formed : 0 ≤ state.cycles) : Audit surroundings (some here) after counted where
  fresh missing := by cases missing
  behind entry same := by
    rw [trace] at same
    have behind := audit.behind entry same
    omega
  entered other same sound := by
    cases same
    exact absurd broken sound
  broken other _ _ := by
    refine ⟨by omega, fun entry same => ?_⟩
    rw [trace] at same
    have behind := audit.behind entry same
    omega

/-- A step from a place comes to a cycle. -/
def ventures (surroundings : Surroundings τ ε) (here : Machine τ × ε) : Bool :=
  (deed? surroundings here).isSome

/-- The place at which requests ask for the last cycle that they come to. -/
def lastVenture (surroundings : Surroundings τ ε) (requests : List Request)
    (place : Machine τ × ε) : Option (Machine τ × ε) :=
  ((onsets surroundings requests place).filter (ventures surroundings)).getLast?

/-- A step from here, if it comes to a cycle, is the last to be accounted for. -/
theorem audit_step (sound : here.1.Sound config) (room : 1 ≤ here.1.trace.limit)
    (present : here.1.state = some state) (audit : Audit surroundings last here.1 state) :
    ∃ after, (left ((step surroundings).run here)).1.state = some after ∧
      Audit surroundings (if ventures surroundings here then some here else last)
        (left ((step surroundings).run here)).1 after := by
  obtain ⟨machine, before⟩ := here
  have present : machine.state = some state := present
  have formed := sound.formed state present
  have spec := wake_spec surroundings machine before
  rw [run_step_wake surroundings before present, EStateM.run_bind]
  cases woken : (wake surroundings).run (machine, before) with
  | error error rested =>
    rw [woken] at spec
    have none : deed? surroundings (machine, before) = none := by simp [deed?, present, woken]
    rw [ventures, none]
    exact ⟨state, spec.1.1.state.trans present, audit.rested spec.1.1⟩
  | ok _ place =>
    obtain ⟨awake, world⟩ := place
    rw [woken] at spec
    obtain ⟨⟨rests, _⟩, running, read⟩ := spec
    have present' : awake.state = some state := rests.state.trans present
    have room' : 1 ≤ awake.trace.limit := by rw [rests.trace]; exact room
    have made : deed? surroundings (machine, before) =
        if state.TurnsDown (surroundings.poll world).1 then none
        else some ⟨state, (surroundings.poll world).1⟩ := by
      simp only [deed?, present, woken]
    have whole (broken : BrokenOff surroundings (machine, before)) :
        ¬ state.AtEnd ∧ state.fault? awake.config.strict = none ∧ ∃ error,
          BreaksOff surroundings state.operation
            ({ awake with state := some (state.executed (surroundings.poll world).1) },
              surroundings.remark state.operation state.instruction
                (state.executed (surroundings.poll world).1) (surroundings.poll world).2)
            error := by
      obtain ⟨found, awake', world', error, present'', woken', inside, granted, _, breaks⟩ := broken
      obtain rfl : state = found := Option.some.inj (present.symm.trans present'')
      cases woken.symm.trans woken'
      exact ⟨inside, granted, error, breaks⟩
    simp only
    rcases step_ready_cases surroundings world present' running read formed.shaped
      formed.counter.1 with ⟨atEnd, ended⟩ | ⟨inside, turned, refused⟩ |
        ⟨cause, inside, sixteen, refused, faulted⟩ | ⟨inside, sixteen, granted, executed⟩
    · have taken : ¬ state.TurnsDown (surroundings.poll world).1 := fun turned => turned.1 atEnd
      rw [ventures, made, if_neg taken, ended]
      exact ⟨_, rfl, audit_entered room' (fun broken => (whole broken).1 atEnd) rfl
        State.count_endEntry.symm⟩
    · have turnsDown : state.TurnsDown (surroundings.poll world).1 := ⟨inside, turned⟩
      rw [ventures, made, if_pos turnsDown, refused]
      exact ⟨state, present', audit.rested rests⟩
    · have taken : ¬ state.TurnsDown (surroundings.poll world).1 := fun turned => turned.2 sixteen
      have uncounted := state.cycles_failed (surroundings.poll world).1
      rw [ventures, made, if_neg taken, faulted]
      refine ⟨_, rfl, audit_entered room' (fun broken => ?_) rfl
        (uncounted.trans (State.count_faultEntry cause).symm)⟩
      rw [(whole broken).2.1] at refused
      cases refused
    · have taken : ¬ state.TurnsDown (surroundings.poll world).1 := fun turned => turned.2 sixteen
      let keys := (surroundings.poll world).1
      let counted : Machine τ := { awake with state := some (state.executed keys) }
      have found : counted.state = some (state.executed keys) := rfl
      have completes := complete_completes surroundings state.snapshot state.operation
        state.instruction (surroundings.poll world).2 found
      obtain ⟨_, after, passed, cycles⟩ :=
        complete_counted surroundings awake state keys (surroundings.poll world).2
      rw [ventures, made, if_neg taken, executed]
      refine ⟨after, passed, ?_⟩
      simp only [if_true, Option.isSome_some]
      cases outcome : (complete surroundings state.snapshot state.operation state.instruction).run
          (counted, (surroundings.poll world).2) with
      | error error reached =>
        rw [outcome] at completes
        cases completes with
        | broken breaks unentered =>
          have broken : BrokenOff surroundings (machine, before) :=
            ⟨state, awake, world, error, present, woken, inside, granted, sixteen, breaks⟩
          exact audit_broken audit broken (unentered.trans rests.trace) cycles formed.cycles
      | ok entry reached =>
        rw [outcome] at completes
        cases completes with
        | entered count trace unbroken =>
          refine audit_entered room' (fun broken => ?_) trace ?_
          · obtain ⟨_, _, error, breaks⟩ := whole broken
            exact unbroken error breaks
          · rw [cycles, count]
            exact (state.cycles_completed (surroundings.poll world).1).symm

/-- Requests keep the account. -/
theorem audit_serve (roomy : 1 ≤ config.traceLimit) {requests : List Request}
    (plays : ∀ request ∈ requests, ∀ program, request ≠ .load program) {place : Machine τ × ε}
    (sound : place.1.Sound config) (present : place.1.state = some state)
    (audit : Audit surroundings last place.1 state) :
    ∃ after, (serve surroundings requests place).1.state = some after ∧
      Audit surroundings ((lastVenture surroundings requests place).or last)
        (serve surroundings requests place).1 after := by
  let tracks (first : Machine τ × ε) (places : List (Machine τ × ε)) (second : Machine τ × ε) :
      Prop :=
    ∀ last state, first.1.state = some state → Audit surroundings last first.1 state →
      ∃ after, second.1.state = some after ∧
        Audit surroundings ((places.filter (ventures surroundings)).getLast?.or last) second.1 after
  have append {first second third : Machine τ × ε} {places more : List (Machine τ × ε)}
      (before : tracks first places second) (after : tracks second more third) :
      tracks first (places ++ more) third := by
    intro last state present audit
    obtain ⟨between, present', audit'⟩ := before last state present audit
    rw [List.filter_append, List.getLast?_append, Option.or_assoc]
    exact after _ between present' audit'
  have rest {before after : Machine τ × ε} (resting : Resting surroundings before after) :
      tracks before [] after :=
    fun last state present audit =>
      ⟨state, resting.1.state.trans present, audit.rested resting.1⟩
  have stepped {here : Machine τ × ε} (sound : here.1.Sound config) :
      tracks here [here] (left ((step surroundings).run here)) := by
    intro last state present audit
    have room : 1 ≤ here.1.trace.limit := by
      rw [sound.room]
      omega
    obtain ⟨after, present', audit'⟩ := audit_step sound room present audit
    refine ⟨after, present', ?_⟩
    cases ventured : ventures surroundings here with
    | true => simpa [ventured] using audit'
    | false => simpa [ventured] using audit'
  have tracking : Tracking surroundings config (fun here => [here]) tracks :=
    ⟨append, rest, stepped⟩
  have served := tracking.serve plays sound
  rw [List.flatMap_singleton'] at served
  exact served last state present audit

theorem audit_start (surroundings : Surroundings τ ε) (empty : machine.trace.entries = [])
    (fresh : state.cycles = 0) : Audit surroundings none machine state where
  fresh _ := fresh
  behind entry same := by simp [Trace.last?, empty] at same
  entered here missing := by cases missing
  broken here missing := by cases missing

theorem unbroken_of_shared (shared : config.timerRate = none) (unbroken : surroundings.Unbroken)
    (sound : here.1.Sound config) : ¬ BrokenOff surroundings here := by
  rintro ⟨found, awake, world, error, present, woken, _, _, _, breaks⟩
  obtain ⟨machine, before⟩ := here
  have spec := wake_spec surroundings machine before
  rw [show (wake surroundings).run (machine, before) = _ from woken] at spec
  have settings : awake.config = config := spec.1.1.config.trans sound.settings
  let counted : Machine τ :=
    { awake with state := some (found.executed (surroundings.poll world).1) }
  have present : counted.state = some (found.executed (surroundings.poll world).1) := rfl
  have shared : counted.config.timerRate = none := by
    rw [show counted.config = config from settings, shared]
  have updates := run_updateTimers surroundings
    (surroundings.remark found.operation found.instruction
      (found.executed (surroundings.poll world).1) (surroundings.poll world).2) present shared
  cases breaks with
  | timers failed =>
    rw [updates] at failed
    cases failed
  | frame updates' _ _ interrupted =>
    rw [unbroken] at interrupted
    cases interrupted

/-- The last entry of the trace belongs to the last instruction that was executed, or to the end or
the fault behind it, unless the last cycle was broken off there by the timers or by its frame. -/
theorem trace_accounts (reachable : Reachable config machine) (roomy : 1 ≤ config.traceLimit)
    (surroundings : Surroundings τ ε) (world : ε) (program : List UInt8) {requests : List Request}
    (plays : ∀ request ∈ requests, ∀ program, request ≠ .load program) :
    let loaded := (Request.load program).serve surroundings (machine, world)
    let reached := (serve surroundings requests loaded).1
    let last := lastVenture surroundings requests loaded
    ∃ state, reached.state = some state ∧
      ((0 < state.cycles →
          ∃ entry, reached.trace.last? = some entry ∧ state.cycles = entry.count) ↔
        ∀ here, last = some here → ¬ BrokenOff surroundings here) ∧
      (∀ entry, reached.trace.last? = some entry → entry.count ≤ state.cycles) ∧
      (config.timerRate = none → surroundings.Unbroken →
        ∀ here, last = some here → ¬ BrokenOff surroundings here) := by
  intro loaded reached last
  obtain ⟨bytes, same⟩ := serve_load surroundings program (machine, world)
  have sound : loaded.1.Sound config :=
    keeps_call surroundings (.load program) (machine, world) reachable.sound
  have fresh : loaded.1.state = some (State.ofProgram program) := congrArg Machine.state same
  have empty : loaded.1.trace.entries = [] :=
    congrArg (fun machine => machine.trace.entries) same
  obtain ⟨state, present, audit⟩ :=
    audit_serve roomy plays sound fresh (audit_start surroundings empty rfl)
  rw [Option.or_none] at audit
  refine ⟨state, present, ⟨?_, ?_⟩, audit.behind, ?_⟩
  · intro accounted here same broken
    obtain ⟨counted, short⟩ := audit.broken here same broken
    obtain ⟨entry, final, count⟩ := accounted counted
    have less := short entry final
    omega
  · intro unbroken counted
    cases ventured : lastVenture surroundings requests loaded with
    | none =>
      have fresh := audit.fresh ventured
      omega
    | some here => exact audit.entered here ventured (unbroken here ventured)
  · intro shared unbroken here same
    have member : here ∈ onsets surroundings requests loaded :=
      (List.mem_filter.mp (List.mem_of_getLast? same)).1
    exact unbroken_of_shared shared unbroken
      (sound_onsets surroundings requests sound here member)

/-- A program that clears the screen first: a rate of the timers that is no number, and a person who
interrupts the frame, each leave that instruction counted and not entered. -/
theorem trace_accounts_two :
    let program : List UInt8 := [0x00, 0xE0, 0x60, 0x05]
    let idle : Surroundings Quantity Nat := .scripted fun _ => Keypad.released.held
    let interrupting : Surroundings Quantity Nat :=
      { idle with render := fun _ count => (⟨false, true⟩, count) }
    let numberless : Config Quantity :=
      { Config.standard with timerRate := some (.real (0.0 / 0.0)) }
    let loaded (surroundings : Surroundings Quantity Nat) (config : Config Quantity) :=
      (Request.load program).serve surroundings (.idle config, 0)
    (∃ entry, (serve idle [.step, .step] (loaded idle .standard)).1.trace.last? = some entry ∧
        entry.count = 2) ∧
      (∃ here, lastVenture idle [.step] (loaded idle numberless) = some here ∧
        BrokenOff idle here) ∧
      ∃ here, lastVenture interrupting [.step] (loaded interrupting .standard) = some here ∧
        BrokenOff interrupting here := by
  intro program idle interrupting numberless loaded
  have plays : ∀ request ∈ [Request.step], ∀ program, request ≠ .load program := by simp
  have plays' : ∀ request ∈ [Request.step, .step], ∀ program, request ≠ .load program := by simp
  have broken {surroundings : Surroundings Quantity Nat} {config : Config Quantity}
      (created : Reachable config (Machine.idle config)) (roomy : 1 ≤ config.traceLimit)
      (counted :
        (serve surroundings [.step] (loaded surroundings config)).1.state.map State.cycles =
        some 1)
      (unentered : (serve surroundings [.step] (loaded surroundings config)).1.trace.last? = none) :
      ∃ here, lastVenture surroundings [.step] (loaded surroundings config) = some here ∧
        BrokenOff surroundings here := by
    obtain ⟨state, present, accounts, _⟩ :=
      trace_accounts created roomy surroundings 0 program plays
    obtain ⟨found, present', one⟩ := Option.map_eq_some_iff.mp counted
    obtain rfl : state = found := Option.some.inj (present.symm.trans present')
    apply Classical.byContradiction
    intro none
    obtain ⟨entry, final, _⟩ := accounts.mpr
      (fun here last broken => none ⟨here, last, broken⟩) (by omega)
    cases unentered.symm.trans final
  refine ⟨?_, ?_, ?_⟩
  · have unbroken : idle.Unbroken := fun _ _ => rfl
    have created : Reachable .standard (Machine.idle (.standard : Config Quantity)) :=
      .created rfl rfl
    obtain ⟨state, present, accounts, _, sound⟩ :=
      trace_accounts created (by decide) idle 0 program plays'
    have counted : (serve idle [.step, .step] (loaded idle .standard)).1.state.map State.cycles =
        some 2 := by
      decide +kernel
    obtain ⟨found, present', two⟩ := Option.map_eq_some_iff.mp counted
    obtain rfl : state = found := Option.some.inj (present.symm.trans present')
    obtain ⟨entry, final, count⟩ := accounts.mpr (sound rfl unbroken) (by omega)
    exact ⟨entry, final, count.symm.trans two⟩
  · exact broken (.created rfl rfl) (by decide) (by decide +kernel) (by decide +kernel)
  · exact broken (.created rfl rfl) (by decide) (by decide +kernel) (by decide +kernel)

end Machine

end ChipEight
