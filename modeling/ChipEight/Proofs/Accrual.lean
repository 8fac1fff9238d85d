import ChipEight.Proofs.Histories
import ChipEight.Proofs.Rates
import Mathlib.Algebra.Ring.Int.Defs

namespace ChipEight

/-- An update of the timers: the reading that it goes by, and the ticks that it counts. -/
structure TimerUpdate where
  reading : Rat
  ticks : Int

namespace TimerUpdate

/-- The latest reading, which before the first update is that of the beginning. -/
def lastReading (begun : Rat) (updates : List TimerUpdate) : Rat :=
  (updates.getLast?.map reading).getD begun

/-- All ticks that were counted. -/
def total (updates : List TimerUpdate) : Int :=
  (updates.map ticks).sum

@[simp] theorem lastReading_concat (begun : Rat) (updates : List TimerUpdate)
    (update : TimerUpdate) :
    lastReading begun (updates ++ [update]) = update.reading := by
  simp [lastReading]

@[simp] theorem total_concat (updates : List TimerUpdate) (update : TimerUpdate) :
    total (updates ++ [update]) = total updates + update.ticks := by
  simp [total]

end TimerUpdate

open TimerUpdate

namespace State

theorem timers_ticks (count : Int) (state : State) :
    (0 ≤ state.delayTimer →
      (state.ticks count).delayTimer = max 0 (state.delayTimer - max 0 count)) ∧
    (0 ≤ state.soundTimer →
      (state.ticks count).soundTimer = max 0 (state.soundTimer - max 0 count)) := by
  have whole : max 0 count = count.toNat := by omega
  rw [ticks, whole]
  induction count.toNat with
  | zero =>
    rw [Nat.repeat]
    omega
  | succ count ih =>
    rw [Nat.repeat, tick]
    constructor
    · intro natural
      simp only [ih.1 natural]
      split <;> omega
    · intro natural
      simp only [ih.2 natural]
      split <;> omega

/-- More ticks than a timer of eight bits can hold make no difference to it. -/
theorem timers_capped {count : Int} (due : 0 ≤ count) (state : State) :
    (fits 8 state.delayTimer = true →
      (state.ticks (min count 0xFF)).delayTimer = max 0 (state.delayTimer - count)) ∧
    (fits 8 state.soundTimer = true →
      (state.ticks (min count 0xFF)).soundTimer = max 0 (state.soundTimer - count)) := by
  obtain ⟨delay, sound⟩ := timers_ticks (min count 0xFF) state
  constructor
  · intro byte
    obtain ⟨natural, small⟩ := fits_iff.mp byte
    rw [delay natural]
    omega
  · intro byte
    obtain ⟨natural, small⟩ := fits_iff.mp byte
    rw [sound natural]
    omega

end State

namespace Machine

variable {machine : Machine Rat} {state : State} {rate begun now : Rat} {updates : List TimerUpdate}

/-- The clock was resumed at a reading, and the timers were updated at readings that do not go back.
Between the updates anything may become of the machine but of its base and its debt. -/
inductive Accrues (rate begun : Rat) : List TimerUpdate → Machine Rat → Prop where
  | resumed {ε : Type} {surroundings : Surroundings Rat ε} {world : ε} {machine : Machine Rat}
      (read : (surroundings.clock world).1 = .ok begun) :
      Accrues rate begun [] (left ((resumeClock surroundings).run (machine, world))).1
  | between {updates : List TimerUpdate} {machine later : Machine Rat}
      (before : Accrues rate begun updates machine) (base : later.timerBase = machine.timerBase)
      (debt : later.timerDebt = machine.timerDebt) : Accrues rate begun updates later
  | updated {ε : Type} {surroundings : Surroundings Rat ε} {world : ε} {updates : List TimerUpdate}
      {machine : Machine Rat} {state : State} {now : Rat} {ticks : Int}
      (before : Accrues rate begun updates machine) (present : machine.state = some state)
      (own : machine.config.timerRate = some rate)
      (read : (surroundings.clock world).1 = .ok now) (forward : lastReading begun updates ≤ now)
      (counted : TimeScale.truncate (machine.debtAt rate now) = .ok ticks) :
      Accrues rate begun (updates ++ [⟨now, ticks⟩])
        (left ((updateTimers surroundings).run (machine, world))).1

/-- What has accrued by the latest reading: whole ticks, which were counted, and the debt. -/
structure Accrued (rate begun : Rat) (updates : List TimerUpdate) (machine : Machine Rat) :
    Prop where
  base : machine.timerBase = lastReading begun updates
  since : begun ≤ machine.timerBase
  counted : total updates = ((machine.timerBase - begun) * rate).floor
  debt : machine.timerDebt = (machine.timerBase - begun) * rate - total updates

namespace Accrued

theorem debtAt (accrued : Accrued rate begun updates machine) (now : Rat) :
    machine.debtAt rate now = (now - begun) * rate - total updates := by
  rw [Machine.debtAt, accrued.debt]
  grind

theorem fraction (accrued : Accrued rate begun updates machine) :
    0 ≤ machine.timerDebt ∧ machine.timerDebt < 1 := by
  have below := Rat.floor_le ((machine.timerBase - begun) * rate)
  have above := Rat.lt_floor_add_one ((machine.timerBase - begun) * rate)
  rw [accrued.debt, accrued.counted]
  constructor <;> grind

theorem debtAt_nonneg (accrued : Accrued rate begun updates machine) (positive : 0 < rate)
    (forward : lastReading begun updates ≤ now) : 0 ≤ machine.debtAt rate now := by
  have passed : 0 ≤ (now - machine.timerBase) * rate := by
    rw [← accrued.base] at forward
    exact Rat.mul_nonneg (by grind) (Rat.le_of_lt positive)
  have left := accrued.fraction.1
  rw [Machine.debtAt]
  grind

/-- The ticks of the next update are what the whole ticks by its reading are ahead. -/
theorem floor_debtAt (accrued : Accrued rate begun updates machine) (now : Rat) :
    (machine.debtAt rate now).floor = ((now - begun) * rate).floor - total updates := by
  rw [accrued.debtAt, floor_sub_whole]

theorem run_updateTimers (accrued : Accrued rate begun updates machine) (positive : 0 < rate)
    {ε : Type} {surroundings : Surroundings Rat ε} {world : ε}
    (present : machine.state = some state)
    (own : machine.config.timerRate = some rate) (read : (surroundings.clock world).1 = .ok now)
    (forward : lastReading begun updates ≤ now) :
    ∃ ticks : Int, 0 ≤ ticks ∧ TimeScale.truncate (machine.debtAt rate now) = .ok ticks ∧
      let updated : Machine Rat :=
        { machine with
          state := some (state.ticks (min ticks 0xFF))
          timerBase := now
          timerDebt := machine.debtAt rate now - ticks }
      (updateTimers surroundings).run (machine, world) =
        .ok () (updated, (surroundings.clock world).2) ∧
      Accrued rate begun (updates ++ [⟨now, ticks⟩]) updated := by
  have due := accrued.debtAt_nonneg positive forward
  have counts : total updates + (machine.debtAt rate now).floor = ((now - begun) * rate).floor := by
    rw [accrued.floor_debtAt]
    omega
  refine ⟨(machine.debtAt rate now).floor, floor_nonneg due, truncate_exact due,
    run_updateTimers_exact present own read due, ?_, ?_, ?_, ?_⟩
  · rw [lastReading_concat]
  · exact Rat.le_trans (accrued.base ▸ accrued.since) forward
  · rw [total_concat, counts]
  · have debt := accrued.debtAt now
    rw [total_concat, Rat.intCast_add]
    grind

end Accrued

theorem Accrues.accrued (accrues : Accrues rate begun updates machine) (positive : 0 < rate) :
    Accrued rate begun updates machine := by
  induction accrues with
  | @resumed ε surroundings world machine read =>
    have nothing : (begun - begun) * rate = ((0 : Int) : Rat) := by grind
    rw [run_resumeClock, read]
    refine ⟨rfl, Rat.le_refl, ?_, ?_⟩
    · rw [left, nothing, Rat.floor_intCast]
      rfl
    · rw [left, nothing]
      exact Rat.sub_self.symm
  | between _ base debt ih =>
    refine ⟨base.trans ih.base, ?_, ?_, ?_⟩
    · rw [base]
      exact ih.since
    · rw [base]
      exact ih.counted
    · rw [debt, base]
      exact ih.debt
  | updated _ present own read forward counted ih =>
    obtain ⟨ticks, _, counted', updates, accrued⟩ :=
      ih.run_updateTimers positive present own read forward
    obtain rfl := Except.ok.inj (counted.symm.trans counted')
    rw [updates]
    exact accrued

end Machine

/-- A clock that tells the time, which never goes back. -/
structure Surroundings.Forward {ε : Type} (surroundings : Surroundings Rat ε) (time : ε → Rat) :
    Prop where
  reads : ∀ world, (surroundings.clock world).1 = .ok (time world)
  clock : ∀ world, time world ≤ time (surroundings.clock world).2
  poll : ∀ world, time world ≤ time (surroundings.poll world).2
  render : ∀ rows world, time world ≤ time (surroundings.render rows world).2
  wait : ∀ seconds world, time world ≤ time (surroundings.wait seconds world).2
  note : ∀ note world, time world ≤ time (surroundings.note note world)

namespace Machine

variable {ε : Type} {config : Config Rat} {machine : Machine Rat} {state : State}
  {surroundings : Surroundings Rat ε} {time : ε → Rat} {world world' : ε} {rate begun : Rat}
  {cycles : Int}

/-- A place in a run whose clock was resumed at a reading, with that many cycles counted then: each
instruction that was executed since was followed by one update of the timers. -/
structure Accruing (config : Config Rat) (rate begun : Rat) (time : ε → Rat) (cycles : Int)
    (place : Machine Rat × ε) : Prop where
  sound : place.1.Sound config
  awake : place.1.Awake
  started : place.1.status ≠ .loaded
  history : ∃ updates state, Accrues rate begun updates place.1 ∧
    lastReading begun updates ≤ time place.2 ∧ place.1.state = some state ∧
    state.cycles = cycles + updates.length

theorem Accruing.between {later : Machine Rat}
    (accruing : Accruing config rate begun time cycles (machine, world))
    (forward : time world ≤ time world') (sound : later.Sound config)
    (clock : later.timerBase = machine.timerBase ∧ later.timerDebt = machine.timerDebt ∧
      later.clockPaused = machine.clockPaused)
    (started : later.status ≠ .loaded)
    (counted : later.state.map State.cycles = machine.state.map State.cycles) :
    Accruing config rate begun time cycles (later, world') := by
  obtain ⟨updates, state, accrues, last, present, count⟩ := accruing.history
  obtain ⟨base, debt, paused⟩ := clock
  rw [show machine.state = some state from present, Option.map_some] at counted
  obtain ⟨after, present', same⟩ := Option.map_eq_some_iff.mp counted
  exact ⟨sound, paused.trans accruing.awake, started, updates, after, accrues.between base debt,
    Rat.le_trans last forward, present', same.trans count⟩

/-- What follows an executed instruction: one update, and the screen. -/
theorem Accruing.complete (accruing : Accruing config rate begun time cycles (machine, world))
    (positive : 0 < rate) (own : config.timerRate = some rate) (forward : surroundings.Forward time)
    (present : machine.state = some state) (running : machine.status = .running)
    {executed : State} (formed : executed.WellFormed) (counted : executed.cycles = state.cycles + 1)
    (later : time world ≤ time world') (before : Snapshot) (operation : Operation)
    (instruction : Instruction) :
    Accruing config rate begun time cycles
      (left ((complete surroundings before operation instruction).run
        ({ machine with state := some executed }, world'))) := by
  obtain ⟨updates, state', accrues, last, present', count⟩ := accruing.history
  obtain rfl : state' = state := Option.some.inj (present'.symm.trans present)
  have busy : machine.status ≠ .idle := by
    rw [running]
    decide
  have sound := accruing.sound.put formed busy
  let executing : Machine Rat := { machine with state := some executed }
  let noted := surroundings.remark operation instruction executed world'
  have remarked := Surroundings.remark_cases (fun told => ∀ world, time world ≤ time (told world))
    (fun _ => Rat.le_refl) forward.note operation instruction executed
  have since := Rat.le_trans later (remarked world')
  have own' : executing.config.timerRate = some rate := by rw [sound.settings, own]
  have accrues' : Accrues rate begun updates executing := accrues.between rfl rfl
  have reached := Rat.le_trans last since
  obtain ⟨ticks, _, truncates, updated, _⟩ := (accrues'.accrued positive).run_updateTimers positive
    rfl own' (forward.reads noted) reached
  have more := Accrues.updated accrues' rfl own' (forward.reads noted) reached truncates
  rw [updated] at more
  have kept := keeps_complete surroundings before operation instruction (executing, world') sound
  -- Whether the screen breaks the cycle off shows in nothing but the trace.
  obtain ⟨stopping, trace, completed⟩ : ∃ stopping trace,
      left ((complete surroundings before operation instruction).run (executing, world')) =
        ({ executing with
            state := some (executed.ticks (min ticks 0xFF))
            timerBase := time noted
            timerDebt := executing.debtAt rate (time noted) - ticks
            stopping
            trace },
          (surroundings.frame (executing.shows operation)
            (executed.ticks (min ticks 0xFF)).display.rows (surroundings.clock noted).2).2) := by
    rw [run_complete_updated surroundings before operation instruction world' rfl updated rfl]
    simp only
    split <;> exact ⟨_, _, rfl⟩
  have framed := Surroundings.frame_cases
    (fun shown => ∀ rows world, time world ≤ time (shown rows world).2)
    (fun _ _ => Rat.le_refl) forward.render (executing.shows operation)
  have shown := Rat.le_trans (forward.clock noted)
    (framed (executed.ticks (min ticks 0xFF)).display.rows (surroundings.clock noted).2)
  have counts : (executed.ticks (min ticks 0xFF)).cycles =
      cycles + (updates ++ [TimerUpdate.mk (time noted) ticks]).length := by
    obtain ⟨_, _, ticked⟩ := State.ticks_eq (min ticks 0xFF) executed
    rw [ticked, List.length_append, List.length_singleton]
    simp only [counted, count]
    omega
  rw [completed] at kept ⊢
  exact ⟨kept, accruing.awake, accruing.started, _, _, more.between rfl rfl,
    by rw [lastReading_concat]; exact shown, rfl, counts⟩

/-- A property of places is not lost. -/
def Lasts (property : Machine Rat × ε → Prop) (before after : Machine Rat × ε) : Prop :=
  property before → property after

instance (property : Machine Rat × ε → Prop) : Std.Refl (Lasts property) :=
  ⟨fun _ holds => holds⟩

instance (property : Machine Rat × ε → Prop) :
    Trans (Lasts property) (Lasts property) (Lasts property) :=
  ⟨fun before after holds => after (before holds)⟩

/-- A call that leaves such a place where it finds one. -/
abbrev Accumulates (config : Config Rat) (rate begun : Rat) (time : ε → Rat) (cycles : Int)
    (call : Call Rat ε α) : Prop :=
  Leads (Lasts (Accruing config rate begun time cycles)) call

theorem accumulates_demand {request : ε → Except Error α × ε}
    (later : ∀ world, time world ≤ time (request world).2) :
    Accumulates config rate begun time cycles (demand request : Call Rat ε α) :=
  leads_demand fun _ world accruing =>
    accruing.between (later world) accruing.sound ⟨rfl, rfl, rfl⟩ accruing.started rfl

theorem accumulates_stop :
    Accumulates config rate begun time cycles (stop : Call Rat ε Unit) :=
  fun _ accruing => accruing.between Rat.le_refl { accruing.sound with } ⟨rfl, rfl, rfl⟩
    accruing.started rfl

theorem accumulates_wake (surroundings : Surroundings Rat ε) :
    Accumulates config rate begun time cycles (wake surroundings) := by
  intro ⟨machine, world⟩ accruing
  have awake : machine.clockPaused = false := accruing.awake
  rw [run_wake, if_neg accruing.started, awake]
  split <;> exact accruing

theorem accumulates_step (positive : 0 < rate) (own : config.timerRate = some rate)
    (forward : surroundings.Forward time) :
    Accumulates config rate begun time cycles (step surroundings) := by
  refine leads_step (accumulates_wake surroundings) ?_
  intro machine state world present running awake accruing
  have formed := accruing.sound.formed state present
  have polled := forward.poll world
  have kept := Sound.step_ready accruing.sound surroundings world present running awake
  have counted {other : Int} (same : other = state.cycles) :
      some other = machine.state.map State.cycles := by
    rw [present, same]
    rfl
  rcases step_ready_cases surroundings world present running awake formed.shaped formed.counter.1
  with
    ⟨_, ended⟩ | ⟨_, _, turned⟩ | ⟨cause, _, _, _, faulted⟩ | ⟨inside, sixteen, granted, executed⟩
  · rw [ended] at kept ⊢
    exact accruing.between (forward.note _ world) kept ⟨rfl, rfl, rfl⟩ (by simp) (counted rfl)
  · rw [turned]
    exact accruing.between polled accruing.sound ⟨rfl, rfl, rfl⟩ accruing.started rfl
  · rw [faulted] at kept ⊢
    exact accruing.between (Rat.le_trans polled (forward.note _ _)) kept ⟨rfl, rfl, rfl⟩ (by simp)
      (counted (State.cycles_failed _ state))
  · rw [executed]
    refine accruing.complete positive own forward present running
      (formed.executed inside sixteen granted) ?_ polled _ _ _
    exact state.cycles_completed (surroundings.poll world).1

theorem accumulates_turn (positive : 0 < rate) (own : config.timerRate = some rate)
    (forward : surroundings.Forward time) :
    Accumulates config rate begun time cycles (turn surroundings) :=
  leads_turn (accumulates_demand forward.clock) (accumulates_step positive own forward)
    fun cycleStart => leads_pace cycleStart (accumulates_demand forward.clock)
      (fun seconds => accumulates_demand (forward.wait seconds)) accumulates_stop

theorem run_beginRun_accruing (forward : surroundings.Forward time) (sound : machine.Sound config)
    (present : machine.state = some state) (world : ε) :
    ∃ begun, (beginRun surroundings).run (machine, world) = .ok () begun ∧
      Accruing config rate (time world) time state.cycles begun := by
  let started : Machine Rat :=
    { machine with
      stopping := false
      status := if machine.status = .loaded then .running else machine.status }
  have begins : (beginRun surroundings).run (machine, world) =
      .ok () (resumed (time world) started, (surroundings.clock world).2) := by
    rw [run_beginRun_resume surroundings world present, run_resumeClock, forward.reads]
    rfl
  have resumes : Accrues rate (time world) [] (resumed (time world) started) := by
    have read : Accrues rate (time world) []
        (left ((resumeClock surroundings).run (started, world))).1 :=
      .resumed (forward.reads world)
    rwa [run_resumeClock, forward.reads] at read
  have rested := idles_beginRun surroundings (machine, world)
  rw [begins] at rested
  refine ⟨_, begins, sound.rested rested.1, rfl, ?_, [], state, resumes, forward.clock world,
    present, ?_⟩
  · simp only [resumed, started]
    split
    · decide
    · exact ‹_›
  · simp

/-- Each cycle of a run that executes an instruction updates the timers. -/
theorem accrues_run (positive : 0 < rate) (own : config.timerRate = some rate)
    (forward : surroundings.Forward time) (sound : machine.Sound config)
    (present : machine.state = some state) (world : ε) (fuel : Nat) (limit : Option Int) :
    let ended := (Request.run fuel limit).serve surroundings (machine, world)
    ∃ updates after, Accrues rate (time world) updates ended.1 ∧
      lastReading (time world) updates ≤ time ended.2 ∧ ended.1.state = some after ∧
      after.cycles = state.cycles + updates.length := by
  obtain ⟨begun, begins, accruing⟩ := run_beginRun_accruing forward sound present world
  replace accruing := leads_cycles (accumulates_turn positive own forward) fuel
    (allowance begun.1 limit) begun accruing
  rw [serve_run, run_run, begins]
  simp only
  cases outcome : (Machine.cycles surroundings fuel (allowance begun.1 limit)).run begun with
  | error error ended =>
    rw [outcome] at accruing
    exact accruing.history
  | ok finished ended =>
    rw [outcome] at accruing
    obtain ⟨updates, after, accrues, rest⟩ := accruing.history
    cases finished with
    | false => exact ⟨updates, after, accrues, rest⟩
    | true => exact ⟨updates, after, accrues.between rfl rfl, rest⟩

/-- Between two resumptions of their clock, timers with a rate of their own have ticked once for
each whole period that has passed, and owe less than a tick. An update may count more than 255 ticks
but makes no more: a timer is at zero by then. -/
theorem ticks_add_up (positive : 0 < rate) :
    (∀ {updates : List TimerUpdate} {machine : Machine Rat}, Accrues rate begun updates machine →
      machine.timerBase = lastReading begun updates ∧
      (0 ≤ machine.timerDebt ∧ machine.timerDebt < 1) ∧
      total updates = ((lastReading begun updates - begun) * rate).floor ∧
      ∀ {ε : Type} (surroundings : Surroundings Rat ε) (world : ε) (now : Rat) (state : State),
        machine.state = some state → machine.config.timerRate = some rate →
        (surroundings.clock world).1 = .ok now → lastReading begun updates ≤ now →
        ∃ ticks : Int, 0 ≤ ticks ∧ TimeScale.truncate (machine.debtAt rate now) = .ok ticks ∧
          let after := state.ticks (min ticks 0xFF)
          let updated : Machine Rat :=
            { machine with
              state := some after
              timerBase := now
              timerDebt := machine.debtAt rate now - ticks }
          (updateTimers surroundings).run (machine, world) =
            .ok () (updated, (surroundings.clock world).2) ∧
          Accrues rate begun (updates ++ [⟨now, ticks⟩]) updated ∧
          (State.fits 8 state.delayTimer = true →
            after.delayTimer = max 0 (state.delayTimer - ticks)) ∧
          (State.fits 8 state.soundTimer = true →
            after.soundTimer = max 0 (state.soundTimer - ticks))) ∧
    ∀ {ε : Type} {config : Config Rat} {machine : Machine Rat} {state : State}
      (surroundings : Surroundings Rat ε) (time : ε → Rat), surroundings.Forward time →
      Reachable config machine → config.timerRate = some rate → machine.state = some state →
      ∀ (world : ε) (fuel : Nat) (limit : Option Int),
        let ended := (Request.run fuel limit).serve surroundings (machine, world)
        ∃ updates after, Accrues rate (time world) updates ended.1 ∧
          lastReading (time world) updates ≤ time ended.2 ∧ ended.1.state = some after ∧
          after.cycles = state.cycles + updates.length := by
  constructor
  · intro updates machine accrues
    have accrued := accrues.accrued positive
    refine ⟨accrued.base, accrued.fraction, accrued.base ▸ accrued.counted, ?_⟩
    intro ε surroundings world now state present own read forward
    obtain ⟨ticks, due, truncates, updated, _⟩ :=
      accrued.run_updateTimers positive present own read forward
    have more := Accrues.updated accrues present own read forward truncates
    rw [updated] at more
    exact ⟨ticks, due, truncates, updated, more, State.timers_capped due state⟩
  · intro ε config machine state surroundings time forward reachable own present world fuel limit
    exact accrues_run positive own forward reachable.sound present world fuel limit

/-- Two updates count a tick and a half each time, and the third is late by ten seconds: 637 ticks
are more than the timer holds. -/
theorem ticks_add_up_late :
    let time (polls : Nat) : Rat := [0, 3 / 128, 6 / 128].getD polls 10
    let surroundings : Surroundings Rat Nat :=
      { Surroundings.scripted fun _ => Keypad.released.held with
        clock := fun polls => (.ok (time polls), polls) }
    let config : Config Rat := { (.standard : Config Rat) with rate := none, timerRate := some 64 }
    let loaded := (Request.load [0x60, 0xFF, 0xF0, 0x15, 0x12, 0x04]).serve surroundings
      (Machine.idle config, 0)
    let ended := (Request.run 3 (some 3)).serve surroundings loaded
    (0 : Rat) < 64 ∧
      (∃ updates, Accrues 64 0 updates ended.1 ∧ updates.length = 3 ∧ total updates = 640) ∧
      ended.1.timerDebt < 1 ∧ ended.1.state.map State.delayTimer = some 0 := by
  intro time surroundings config loaded ended
  have positive : (0 : Rat) < 64 := by decide +kernel
  have later (polls : Nat) : time polls ≤ time (polls + 1) := by
    match polls with
    | 0 | 1 | 2 => decide +kernel
    | _ + 3 => exact Rat.le_refl
  have forward : surroundings.Forward time :=
    { reads := fun _ => rfl
      clock := fun _ => Rat.le_refl
      poll := later
      render := fun _ _ => Rat.le_refl
      wait := fun _ _ => Rat.le_refl
      note := fun _ _ => Rat.le_refl }
  have reachable : Reachable config loaded.1 :=
    .served surroundings 0 (.load _) (.created rfl rfl)
  obtain ⟨history, runs⟩ := @ticks_add_up 64 0 positive
  obtain ⟨updates, after, accrues, _, present, counted⟩ :=
    runs surroundings time forward reachable rfl rfl loaded.2 3 (some 3)
  obtain ⟨base, debt, total, _⟩ := history accrues
  have facts : ended.1.timerBase = 10 ∧ ended.1.state.map State.cycles = some 3 ∧
      ended.1.state.map State.delayTimer = some 0 := by decide +kernel
  obtain ⟨last, cycles, delay⟩ := facts
  have present : ended.1.state = some after := present
  rw [present, Option.map_some, Option.some.injEq] at cycles
  refine ⟨positive, ⟨updates, accrues, ?_, ?_⟩, debt.2, delay⟩
  · have three : (3 : Int) = 0 + updates.length := cycles.symm.trans counted
    omega
  · rw [total, ← base, last]
    decide +kernel

end Machine

end ChipEight
