import ChipEight.Proofs.Onsets
import ChipEight.Proofs.Reset

/-! Two machines side by side, which differ in what nothing but a step looks at: strictness, and
keys. It is enough to compare the steps where the first machine asks for them. -/

namespace ChipEight

/-- What two machines may differ in: how strict they are, and the keys of their states. -/
structure Alteration where
  strict : Bool → Bool
  keys : List Bool → List Bool

namespace Alteration

variable {τ ε α : Type} (alteration : Alteration)

def state (state : State) : State :=
  { state with keys := alteration.keys state.keys }

def machine (machine : Machine τ) : Machine τ :=
  { machine with
    config := { machine.config with strict := alteration.strict machine.config.strict }
    state := machine.state.map alteration.state }

def place (place : Machine τ × ε) : Machine τ × ε :=
  (alteration.machine place.1, place.2)

def result :
    EStateM.Result Error (Machine τ × ε) α → EStateM.Result Error (Machine τ × ε) α
  | .ok value after => .ok value (alteration.place after)
  | .error error after => .error error (alteration.place after)

@[simp] theorem machine_status (machine : Machine τ) :
    (alteration.machine machine).status = machine.status := rfl

@[simp] theorem machine_clockPaused (machine : Machine τ) :
    (alteration.machine machine).clockPaused = machine.clockPaused := rfl

@[simp] theorem machine_state (machine : Machine τ) :
    (alteration.machine machine).state = machine.state.map alteration.state := rfl

theorem left_result (result : EStateM.Result Error (Machine τ × ε) α) :
    left (alteration.result result) = alteration.place (left result) := by
  cases result <;> rfl

theorem verdict_result (result : EStateM.Result Error (Machine τ × ε) α) :
    verdict (alteration.result result) = verdict result := by
  cases result <;> rfl

end Alteration

/-- The same surroundings with other keys in their polls. -/
def Surroundings.polling {τ ε : Type} (surroundings : Surroundings τ ε)
    (poll : ε → List Bool × ε) : Surroundings τ ε :=
  { surroundings with poll }

namespace Machine

variable {τ ε α β : Type} {alteration : Alteration} {surroundings : Surroundings τ ε}
  {poll : ε → List Bool × ε} {machine : Machine τ} {state : State} {config : Config τ}

/-- A call that ends alike on a machine and on the altered one. -/
def Commutes (alteration : Alteration) (call : Call τ ε α) : Prop :=
  ∀ place, call.run (alteration.place place) = alteration.result (call.run place)

theorem Commutes.bind {call : Call τ ε α} {next : α → Call τ ε β} (first : Commutes alteration call)
    (rest : ∀ value, Commutes alteration (next value)) : Commutes alteration (call >>= next) := by
  intro place
  rw [EStateM.run_bind, EStateM.run_bind, first place]
  cases call.run place with
  | ok value after => exact rest value after
  | error error after => rfl

theorem Commutes.pure (value : α) : Commutes alteration (Pure.pure value : Call τ ε α) :=
  fun _ => rfl

theorem Commutes.ite {condition : Prop} [Decidable condition] {call other : Call τ ε α}
    (yes : Commutes alteration call) (no : Commutes alteration other) :
    Commutes alteration (if condition then call else other) := by
  split
  · exact yes
  · exact no

theorem commutes_number (result : Except NumberError α) :
    Commutes alteration (number result : Call τ ε α) := by
  intro place
  cases result <;> rfl

theorem commutes_demand (request : ε → Except Error α × ε) :
    Commutes alteration (demand request : Call τ ε α) := by
  intro ⟨machine, world⟩
  simp only [Alteration.place, run_demand]
  cases (request world).1 <;> rfl

theorem commutes_update {change : Machine τ → Machine τ}
    (hidden : ∀ machine,
      change (alteration.machine machine) = alteration.machine (change machine)) :
    Commutes alteration (update change : Call τ ε Unit) := by
  intro ⟨machine, world⟩
  simp only [Alteration.place, run_update, hidden]
  rfl

theorem commutes_stop : Commutes alteration (stop : Call τ ε Unit) :=
  commutes_update fun _ => rfl

variable [TimeScale τ]

theorem commutes_resumeClock (surroundings : Surroundings τ ε) :
    Commutes alteration (resumeClock surroundings) := by
  intro ⟨machine, world⟩
  simp only [Alteration.place, run_resumeClock]
  cases (surroundings.clock world).1 <;> rfl

theorem commutes_start (surroundings : Surroundings τ ε) :
    Commutes alteration (start surroundings) := by
  intro ⟨machine, world⟩
  simp only [Alteration.place, run_start, alteration.machine_status]
  split
  · rfl
  · split
    · exact commutes_resumeClock surroundings
        ({ machine with status := .running, stopping := false }, world)
    · rfl

theorem commutes_wake (surroundings : Surroundings τ ε) :
    Commutes alteration (wake surroundings) := by
  intro ⟨machine, world⟩
  simp only [Alteration.place, run_wake, alteration.machine_status, alteration.machine_clockPaused]
  split
  · exact commutes_start surroundings (machine, world)
  · split
    · split
      · exact commutes_resumeClock surroundings (machine, world)
      · rfl
    · rfl

theorem commutes_beginRun (surroundings : Surroundings τ ε) :
    Commutes alteration (beginRun surroundings) := by
  intro ⟨machine, world⟩
  cases present : machine.state with
  | none =>
    have missing : (alteration.machine machine).state = none := by
      rw [alteration.machine_state, present, Option.map_none]
    simp only [Alteration.place, beginRun, EStateM.run_bind, run_read, present, missing,
      Option.isNone_none, if_true, run_throw]
    rfl
  | some state =>
    have altered : (alteration.machine machine).state = some (alteration.state state) := by
      rw [alteration.machine_state, present, Option.map_some]
    simp only [Alteration.place]
    rw [run_beginRun_resume surroundings world present,
      run_beginRun_resume surroundings world altered]
    exact commutes_resumeClock surroundings
      ({ machine with
          stopping := false
          status := if machine.status = .loaded then .running else machine.status }, world)

theorem commutes_pace (surroundings : Surroundings τ ε) (cycleStart : τ) :
    Commutes alteration (pace surroundings cycleStart) := by
  have waits (time : τ) : Commutes alteration
      (do
        let stopped ← demand (surroundings.wait time)
        if stopped then stop : Call τ ε Unit) :=
    (commutes_demand _).bind fun _ => .ite commutes_stop (.pure ())
  have rest (period : τ) : Commutes alteration
      (do
        if !TimeScale.isNonPositive period then
          let now ← demand surroundings.clock
          let passed ← number (TimeScale.sub now cycleStart)
          let remaining ← number (TimeScale.sub period passed)
          if TimeScale.isPositive remaining then
            let stopped ← demand (surroundings.wait remaining)
            if stopped then stop : Call τ ε Unit) := by
    refine .ite ?_ (.pure ())
    refine (commutes_demand _).bind fun now => ?_
    refine (commutes_number _).bind fun passed => ?_
    refine (commutes_number _).bind fun remaining => ?_
    exact .ite (waits remaining) (.pure ())
  intro ⟨machine, world⟩
  exact ((commutes_number machine.config.cyclePeriod).bind rest) (machine, world)

theorem run_complete_altered (alteration : Alteration) (surroundings : Surroundings τ ε)
    (before : Snapshot) (operation : Operation) (instruction : Instruction) (world : ε)
    (present : machine.state = some state) (shared : machine.config.timerRate = none) :
    (complete surroundings before operation instruction).run (alteration.machine machine, world) =
      alteration.result
        ((complete surroundings before operation instruction).run (machine, world)) := by
  have altered : (alteration.machine machine).state = some (alteration.state state) := by
    rw [alteration.machine_state, present, Option.map_some]
  rw [run_complete surroundings before operation instruction world present shared,
    run_complete surroundings before operation instruction world altered shared]
  have unseen : surroundings.frame ((alteration.machine machine).shows operation)
      (alteration.state state).tick.display.rows
      (surroundings.remark operation instruction (alteration.state state) world) =
    surroundings.frame (machine.shows operation) state.tick.display.rows
      (surroundings.remark operation instruction state world) := rfl
  simp only [unseen]
  rcases surroundings.frame (machine.shows operation) state.tick.display.rows
    (surroundings.remark operation instruction state world) with ⟨⟨stop, interrupt⟩, world'⟩
  cases interrupt <;> rfl

/-- A cycle of the altered machine, polled for other keys, comes to what the cycle comes to, but for
an alteration that may be another one. -/
structure CycleCommutes (alteration later : Alteration) (strict : Bool) (keys other : List Bool)
    (state : State) : Prop where
  same : later.strict = alteration.strict
  fault : (alteration.state state).fault? (alteration.strict strict) = state.fault? strict
  executed : (alteration.state state).executed other = later.state (state.executed keys)
  failed : (alteration.state state).failed other = later.state (state.failed keys)

/-- The second result is the first but for an alteration of the family. -/
def ResultAltered (family : Alteration → Prop)
    (result other : EStateM.Result Error (Machine τ × ε) α) :
    Prop :=
  ∃ alteration, family alteration ∧ other = alteration.result result

variable {family : Alteration → Prop} {later : Alteration}

theorem step_altered (world : ε) (present : machine.state = some state)
    (running : machine.status = .running) (awake : machine.clockPaused = false)
    (shared : machine.config.timerRate = none) (shaped : state.Shaped)
    (altered : (alteration.state state).Shaped) (counted : 0 ≤ state.pc)
    (polled : (poll world).2 = (surroundings.poll world).2)
    (sized : (poll world).1.length = (surroundings.poll world).1.length)
    (commuting : ¬ state.AtEnd → (surroundings.poll world).1.length = 16 →
      CycleCommutes alteration later machine.config.strict (surroundings.poll world).1
        (poll world).1 state)
    (one : family alteration) (other : family later) :
    ResultAltered family ((step surroundings).run (machine, world))
      ((step (surroundings.polling poll)).run (alteration.machine machine, world)) := by
  have altered' : (alteration.machine machine).state = some (alteration.state state) := by
    rw [alteration.machine_state, present, Option.map_some]
  have went := run_step_ready surroundings world present running awake
  have went' : (step (surroundings.polling poll)).run (alteration.machine machine, world) =
      if (state.memory.size : Int) ≤ state.pc + 1 then
        (halt (surroundings.polling poll) (alteration.state state)).run
          (alteration.machine machine, world)
      else (fetchAndExecute (surroundings.polling poll)).run (alteration.machine machine, world) :=
    run_step_ready (surroundings.polling poll) world altered' running awake
  by_cases atEnd : (state.memory.size : Int) ≤ state.pc + 1
  · rw [went, went', if_pos atEnd, if_pos atEnd]
    exact ⟨alteration, one, rfl⟩
  · have readable : state.memory.Covers state.pc 2 := ⟨counted, by decide, by omega⟩
    rw [went, went', if_neg atEnd, if_neg atEnd,
      run_fetchAndExecute surroundings world present shaped readable,
      run_fetchAndExecute (surroundings.polling poll) world altered' altered readable]
    simp only [Surroundings.polling, sized, polled]
    by_cases sixteen : (surroundings.poll world).1.length = 16
    · obtain ⟨same, fault, executed, failed⟩ := commuting atEnd sixteen
      have fault' : (alteration.state state).fault? (alteration.machine machine).config.strict =
          state.fault? machine.config.strict := fault
      have entered : ∀ cause, (alteration.state state).faultEntry (poll world).1 cause =
          state.faultEntry (surroundings.poll world).1 cause := by
        intro cause
        simp only [State.faultEntry, failed]
        rfl
      rw [if_pos sixteen, if_pos sixteen]
      simp only [fault', executed, failed, entered]
      refine ⟨later, other, ?_⟩
      obtain ⟨_, keys⟩ := later
      obtain rfl := same
      cases state.fault? machine.config.strict with
      | none =>
        have executing : ({ machine with
            state := some (state.executed (surroundings.poll world).1) } : Machine τ).state =
              some (state.executed (surroundings.poll world).1) := rfl
        exact run_complete_altered ⟨alteration.strict, keys⟩ surroundings state.snapshot
          state.operation state.instruction (surroundings.poll world).2 executing shared
      | some cause => rfl
    · rw [if_neg sixteen, if_neg sixteen]
      exact ⟨alteration, one, rfl⟩

/-- Alterations that a machine can be in at any time. A program that is loaded has all keys
released. -/
structure Admissible (surroundings : Surroundings τ ε) (poll : ε → List Bool × ε)
    (family : Alteration → Prop) : Prop where
  polled : ∀ world, (poll world).2 = (surroundings.poll world).2
  sized : ∀ world, (poll world).1.length = (surroundings.poll world).1.length
  sixteen : ∀ alteration, family alteration → ∀ keys : List Bool, keys.length = 16 →
    (alteration.keys keys).length = 16
  released : ∀ alteration, family alteration → ∃ later, family later ∧
    later.strict = alteration.strict ∧ later.keys State.blank.keys = State.blank.keys

/-- A step from here ends alike whichever alteration of the family a machine has. -/
def Agrees (surroundings : Surroundings τ ε) (poll : ε → List Bool × ε) (family : Alteration → Prop)
    (here : Machine τ × ε) : Prop :=
  ∀ alteration, family alteration → ResultAltered family ((step surroundings).run here)
    ((step (surroundings.polling poll)).run (alteration.place here))

theorem agrees_of_cycle (admissible : Admissible surroundings poll family) {here : Machine τ × ε}
    (sound : here.1.Sound config) (shared : config.timerRate = none)
    (commuting : ∀ alteration, family alteration → ∀ state world,
      Fetches surroundings here state world →
      ∃ later, family later ∧
        CycleCommutes alteration later config.strict (surroundings.poll world).1
        (poll world).1 state) : Agrees surroundings poll family here := by
  intro alteration one
  obtain ⟨machine, world⟩ := here
  simp only [Alteration.place]
  cases present : machine.state with
  | none =>
    have missing : (alteration.machine machine).state = none := by
      rw [alteration.machine_state, present, Option.map_none]
    rw [run_step_blank surroundings world present,
      run_step_blank (surroundings.polling poll) world missing]
    exact ⟨alteration, one, rfl⟩
  | some state =>
    have altered : (alteration.machine machine).state = some (alteration.state state) := by
      rw [alteration.machine_state, present, Option.map_some]
    have formed := sound.formed state present
    have woken := wake_spec surroundings machine world
    have alike : (wake (surroundings.polling poll)).run (alteration.machine machine, world) =
        alteration.result ((wake surroundings).run (machine, world)) :=
      commutes_wake surroundings (machine, world)
    rw [run_step_wake surroundings world present, EStateM.run_bind,
      run_step_wake (surroundings.polling poll) world altered, EStateM.run_bind, alike]
    cases outcome : (wake surroundings).run (machine, world) with
    | error error rested => exact ⟨alteration, one, rfl⟩
    | ok _ place =>
      obtain ⟨awake, world'⟩ := place
      rw [outcome] at woken
      obtain ⟨⟨rests, _⟩, running, read⟩ := woken
      have settings : awake.config = config := rests.config.trans sound.settings
      have shared' : awake.config.timerRate = none := by rw [settings, shared]
      have shaped : (alteration.state state).Shaped :=
        { formed.shaped with keys := admissible.sixteen alteration one _ formed.keys }
      -- A step that fetches nothing keeps the alteration, whichever it is.
      by_cases fetches : ¬ state.AtEnd ∧ (surroundings.poll world').1.length = 16
      · obtain ⟨later, other, commutes⟩ :=
          commuting alteration one state world' ⟨present, ⟨awake, outcome⟩, fetches.1, fetches.2⟩
        rw [← settings] at commutes
        exact step_altered world' (rests.state.trans present) running read shared' formed.shaped
          shaped formed.counter.1 (admissible.polled world') (admissible.sized world')
          (fun _ _ => commutes) one other
      · exact step_altered world' (rests.state.trans present) running read shared' formed.shaped
          shaped formed.counter.1 (admissible.polled world') (admissible.sized world')
          (fun inside sixteen => absurd ⟨inside, sixteen⟩ fetches) one one

/-- Two results of a call that asks for steps at some places. They are the same but for an
alteration if all these steps agree; an error of the altered machine at the first that does not ends
its call. -/
structure AgreesAlong (surroundings : Surroundings τ ε) (poll : ε → List Bool × ε)
    (family : Alteration → Prop) (places : List (Machine τ × ε))
    (result other : EStateM.Result Error (Machine τ × ε) α) : Prop where
  through : (∀ here ∈ places, Agrees surroundings poll family here) →
    ResultAltered family result other
  parts : ∀ before here after, places = before ++ here :: after →
    (∀ earlier ∈ before, Agrees surroundings poll family earlier) →
    ∃ alteration, family alteration ∧ ∀ error reached,
      (step (surroundings.polling poll)).run (alteration.place here) = .error error reached →
      other = .error error reached

theorem AgreesAlong.map {places : List (Machine τ × ε)} {call call' : Call τ ε α}
    {place place' : Machine τ × ε}
    (along : AgreesAlong surroundings poll family places (call.run place)
      (call'.run place')) (change : α → β) :
    AgreesAlong surroundings poll family places
      ((do return change (← call) : Call τ ε β).run place)
      ((do return change (← call') : Call τ ε β).run place') where
  through agrees := by
    obtain ⟨alteration, one, same⟩ := along.through agrees
    refine ⟨alteration, one, ?_⟩
    rw [EStateM.run_bind, EStateM.run_bind, same]
    cases call.run place <;> rfl
  parts before here after parted agreed := by
    obtain ⟨alteration, one, ends⟩ := along.parts before here after parted agreed
    refine ⟨alteration, one, fun error reached failed => ?_⟩
    rw [EStateM.run_bind, ends error reached failed]

theorem AgreesAlong.bind {places more : List (Machine τ × ε)} {call call' : Call τ ε α}
    {next next' : α → Call τ ε β} {place place' : Machine τ × ε}
    (begins : AgreesAlong surroundings poll family places (call.run place) (call'.run place'))
    (goesOn : ∀ value after, call.run place = .ok value after → ∀ alteration, family alteration →
      AgreesAlong surroundings poll family more ((next value).run after)
        ((next' value).run (alteration.place after)))
    (ends : ∀ error after, call.run place = .error error after → more = []) :
    AgreesAlong surroundings poll family (places ++ more) ((call >>= next).run place)
      ((call' >>= next').run place') := by
  have followed (agrees : ∀ here ∈ places, Agrees surroundings poll family here) :
      (∃ error after alteration, call.run place = .error error after ∧ family alteration ∧
        (call' >>= next').run place' = alteration.result (.error error after)) ∨
      ∃ value after alteration, call.run place = .ok value after ∧ family alteration ∧
        (call' >>= next').run place' = (next' value).run (alteration.place after) := by
    obtain ⟨alteration, one, same⟩ := begins.through agrees
    rw [EStateM.run_bind, same]
    cases call.run place with
    | error error after => exact .inl ⟨error, after, alteration, rfl, one, rfl⟩
    | ok value after => exact .inr ⟨value, after, alteration, rfl, one, rfl⟩
  constructor
  · intro agrees
    rcases followed fun here member => agrees here (List.mem_append_left _ member) with
      ⟨error, after, alteration, went, one, same⟩ | ⟨value, after, alteration, went, one, same⟩
    · rw [same, EStateM.run_bind, went]
      exact ⟨alteration, one, rfl⟩
    · rw [same, EStateM.run_bind, went]
      exact (goesOn value after went alteration one).through fun here member =>
        agrees here (List.mem_append_right _ member)
  · intro before here after parted agreed
    have second (skipped : List (Machine τ × ε)) (rests : more = skipped ++ here :: after)
        (agrees : ∀ earlier ∈ places ++ skipped, Agrees surroundings poll family earlier) :
        ∃ alteration, family alteration ∧ ∀ error reached,
          (step (surroundings.polling poll)).run (alteration.place here) = .error error reached →
          (call' >>= next').run place' = .error error reached := by
      rcases followed fun earlier member => agrees earlier (List.mem_append_left _ member) with
        ⟨error, reached, alteration, went, one, same⟩ |
        ⟨value, reached, alteration, went, one, same⟩
      · simp [ends error reached went] at rests
      · rw [same]
        exact (goesOn value reached went alteration one).parts skipped here after rests
          fun earlier member => agrees earlier (List.mem_append_right _ member)
    -- The cycle at which they part is asked for by the first call or by the second.
    rcases List.append_eq_append_iff.mp parted with ⟨skipped, rfl, rests⟩ | ⟨kept, inside, rests⟩
    · exact second skipped rests agreed
    · rcases List.append_eq_cons_iff.mp rests.symm with ⟨rfl, rests⟩ | ⟨tail, rfl, _⟩
      · rw [List.append_nil] at inside
        exact second [] rests.symm (by rwa [List.append_nil, inside])
      · obtain ⟨alteration, one, failing⟩ := begins.parts before here tail inside agreed
        refine ⟨alteration, one, fun error reached failed => ?_⟩
        rw [EStateM.run_bind, failing error reached failed]

theorem Commutes.agreesAlong {call : Call τ ε α} (commutes : Commutes alteration call)
    (one : family alteration) (place : Machine τ × ε) :
    AgreesAlong surroundings poll family [] (call.run place)
      (call.run (alteration.place place)) where
  through _ := ⟨alteration, one, commutes place⟩
  parts before here after nothing := by simp at nothing

theorem step_agreesAlong (surroundings : Surroundings τ ε) (poll : ε → List Bool × ε)
    (one : family alteration) (place : Machine τ × ε) :
    AgreesAlong surroundings poll family [place] ((step surroundings).run place)
      ((step (surroundings.polling poll)).run (alteration.place place)) where
  through agrees := agrees place (List.mem_singleton_self place) alteration one
  parts before here after parted _ := by
    cases before with
    | nil =>
      obtain ⟨rfl, _⟩ := List.cons_eq_cons.mp parted
      exact ⟨alteration, one, fun error reached failed => failed⟩
    | cons first rest => simp at parted

theorem commutes_pause (surroundings : Surroundings τ ε) (cycleStart : τ) :
    Commutes alteration
      (do if (← read).status = .running then pace surroundings cycleStart : Call τ ε Unit) := by
  intro ⟨machine, world⟩
  simp only [Alteration.place, EStateM.run_bind, run_read, alteration.machine_status]
  split
  · exact commutes_pace surroundings cycleStart (machine, world)
  · rfl

theorem turn_agreesAlong (surroundings : Surroundings τ ε) (poll : ε → List Bool × ε)
    (one : family alteration) (place : Machine τ × ε) :
    AgreesAlong surroundings poll family (turnOnsets surroundings place)
      ((turn surroundings).run place)
      ((turn (surroundings.polling poll)).run (alteration.place place)) := by
  have clock : Commutes alteration (demand surroundings.clock : Call τ ε τ) := commutes_demand _
  have clocked : AgreesAlong surroundings poll family ([] ++ turnOnsets surroundings place)
      ((turn surroundings).run place)
      ((turn (surroundings.polling poll)).run (alteration.place place)) := by
    refine (clock.agreesAlong one place).bind ?_ ?_
    · intro cycleStart reached went alteration one
      have stepped : AgreesAlong surroundings poll family ([reached] ++ []) _ _ :=
        (step_agreesAlong surroundings poll one reached).bind
          (fun _ after _ alteration one =>
            (commutes_pause surroundings cycleStart).agreesAlong one after)
          (fun _ _ _ => rfl)
      rw [turnOnsets, went]
      exact stepped
    · intro error after went
      rw [turnOnsets, went]
  exact clocked

/-- The cycles of a run, as a call and what follows it. -/
theorem run_cycles_bind (surroundings : Surroundings τ ε) (fuel : Nat) (remaining : Option Nat)
    (place : Machine τ × ε) :
    (cycles surroundings (fuel + 1) remaining).run place =
      if goesOn place.1 remaining then
        (turn surroundings >>= fun _ => cycles surroundings fuel (remaining.map (· - 1))).run place
      else .ok true place := by
  rw [run_cycles_succ, EStateM.run_bind]
  cases (turn surroundings).run place <;> rfl

theorem cycles_agreesAlong (surroundings : Surroundings τ ε) (poll : ε → List Bool × ε)
    (one : family alteration) (fuel : Nat) (remaining : Option Nat) (place : Machine τ × ε) :
    AgreesAlong surroundings poll family (cyclesOnsets surroundings fuel remaining place)
      ((cycles surroundings fuel remaining).run place)
      ((cycles (surroundings.polling poll) fuel remaining).run (alteration.place place)) := by
  induction fuel generalizing alteration remaining place with
  | zero =>
    have commutes : Commutes alteration (cycles surroundings 0 remaining) := by
      intro place
      rw [run_cycles_zero, run_cycles_zero]
      rfl
    exact commutes.agreesAlong one place
  | succ fuel ih =>
    have goes : goesOn (alteration.place place).1 remaining = goesOn place.1 remaining := rfl
    rw [run_cycles_bind, run_cycles_bind, cyclesOnsets, goes]
    by_cases more : goesOn place.1 remaining
    · rw [if_pos more, if_pos more, if_pos more]
      refine (turn_agreesAlong surroundings poll one place).bind ?_ ?_
      · intro _ next went alteration one
        rw [went]
        exact ih one (remaining.map (· - 1)) next
      · intro error next went
        rw [went]
    · rw [if_neg more, if_neg more, if_neg more]
      exact (Commutes.pure true).agreesAlong one place

theorem run_agreesAlong (surroundings : Surroundings τ ε) (poll : ε → List Bool × ε)
    (one : family alteration) (fuel : Nat) (limit : Option Int) (place : Machine τ × ε) :
    AgreesAlong surroundings poll family ((Request.run fuel limit).onsets surroundings place)
      ((run surroundings fuel limit).run place)
      ((run (surroundings.polling poll) fuel limit).run (alteration.place place)) := by
  let finish (finished : Bool) : Call τ ε (Option (List TraceEntry)) := do
    if finished then
      update fun machine => { machine with clockPaused := true }
      return some (← read).trace.entries
    else return none
  have finishes (alteration : Alteration) (finished : Bool) :
      Commutes alteration (finish finished) := by
    cases finished with
    | false => exact .pure none
    | true => exact fun place => rfl
  have cycled (alteration : Alteration) (one : family alteration) (begun : Machine τ × ε) :
      AgreesAlong surroundings poll family
        (cyclesOnsets surroundings fuel (allowance begun.1 limit) begun ++ [])
        ((cycles surroundings fuel (allowance begun.1 limit) >>= finish).run begun)
        ((cycles (surroundings.polling poll) fuel (allowance begun.1 limit) >>= finish).run
          (alteration.place begun)) :=
    (cycles_agreesAlong surroundings poll one fuel (allowance begun.1 limit) begun).bind
      (fun finished ended _ alteration one => (finishes alteration finished).agreesAlong one ended)
      (fun _ _ _ => rfl)
  have whole : AgreesAlong surroundings poll family
      ([] ++ (Request.run fuel limit).onsets surroundings place)
      ((run surroundings fuel limit).run place)
      ((run (surroundings.polling poll) fuel limit).run (alteration.place place)) := by
    have begins : Commutes alteration (beginRun surroundings) := commutes_beginRun surroundings
    refine (begins.agreesAlong one place).bind ?_ ?_
    · intro _ begun went alteration one
      rw [Request.onsets, went]
      simp only [List.append_nil] at cycled
      exact cycled alteration one begun
    · intro error begun went
      rw [Request.onsets, went]
  exact whole

theorem answer_agreesAlong (admissible : Admissible surroundings poll family)
    (one : family alteration)
    (request : Request) (place : Machine τ × ε) :
    AgreesAlong surroundings poll family (request.onsets surroundings place)
      ((request.answer surroundings).run place)
      ((request.answer (surroundings.polling poll)).run (alteration.place place)) := by
  cases request with
  | load program =>
    obtain ⟨later, other, same, released⟩ := admissible.released alteration one
    have loaded : (load (surroundings.polling poll) program).run (alteration.place place) =
        later.result ((load surroundings program).run place) := by
      obtain ⟨machine, world⟩ := place
      obtain ⟨_, keys⟩ := later
      obtain rfl := same
      have fresh : keys (State.ofProgram program).keys = (State.ofProgram program).keys := released
      simp only [Alteration.place, run_load, Alteration.result, Alteration.machine, Option.map_some,
        Alteration.state, fresh]
      rfl
    have along : AgreesAlong surroundings poll family []
        ((load surroundings program).run place)
        ((load (surroundings.polling poll) program).run (alteration.place place)) :=
      ⟨fun _ => ⟨later, other, loaded⟩, fun before here after nothing => by simp at nothing⟩
    exact along.map Answer.bytes
  | start =>
    have commutes : Commutes alteration (start surroundings) := commutes_start surroundings
    exact (commutes.agreesAlong one place).map fun _ => Answer.nothing
  | stop => exact (commutes_stop.agreesAlong one place).map fun _ => Answer.nothing
  | step => exact (step_agreesAlong surroundings poll one place).map Answer.entry
  | run fuel limit => exact (run_agreesAlong surroundings poll one fuel limit place).map Answer.kept

omit [TimeScale τ] in
theorem ResultAltered.left {result other : EStateM.Result Error (Machine τ × ε) α}
    (results : ResultAltered family result other) :
    ∃ alteration, family alteration ∧
      ChipEight.left other = alteration.place (ChipEight.left result) := by
  obtain ⟨alteration, one, rfl⟩ := results
  exact ⟨alteration, one, alteration.left_result result⟩

/-- Requests whose steps all agree leave the same machine but for an alteration. -/
theorem serve_altered (admissible : Admissible surroundings poll family) (one : family alteration)
    {requests : List Request} {place : Machine τ × ε}
    (agrees : ∀ here ∈ onsets surroundings requests place, Agrees surroundings poll family here) :
    ∃ later, family later ∧ serve (surroundings.polling poll) requests (alteration.place place) =
      later.place (serve surroundings requests place) := by
  induction requests generalizing alteration place with
  | nil => exact ⟨alteration, one, rfl⟩
  | cons request requests ih =>
    rw [onsets] at agrees
    obtain ⟨later, other, same⟩ := ((answer_agreesAlong admissible one request place).through
      fun here member => agrees here (List.mem_append_left _ member)).left
    rw [left_answer, left_answer] at same
    obtain ⟨last, another, served⟩ := ih other fun here member =>
      agrees here (List.mem_append_right _ member)
    refine ⟨last, another, ?_⟩
    rw [← same] at served
    exact served

end Machine

end ChipEight
