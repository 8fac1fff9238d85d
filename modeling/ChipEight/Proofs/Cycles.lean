import ChipEight.Proofs.Composition
import ChipEight.Proofs.Effects

/-! A cycle of a machine, worked out up to what its timers and its screen do: it halts at the end
of memory, is turned down with its keys, faults, or executes the instruction at the counter. -/

namespace ChipEight

namespace State

/-- The word at the counter. -/
def word (state : State) : Nat :=
  state.memory.wordAt state.pc.toNat

def instruction (state : State) : Instruction :=
  Instruction.ofWord state.word

def operation (state : State) : Operation :=
  state.instruction.operation

/-- The state as the instruction at the counter finds it. -/
def fetch (keys : List Bool) (state : State) : State :=
  State.advance 2 { state with keys }

/-- The fault of the instruction at the counter, if there is one. -/
def fault? (strict : Bool) (state : State) : Option Fault :=
  if strict = true ∧ state.instruction.operation? = none then
    some (.unknownWord state.instruction.word)
  else state.operation.refusal state.instruction state

/-- The state after the instruction at the counter, before its timers run. -/
def executed (keys : List Bool) (state : State) : State :=
  let after := state.operation.effect state.instruction (state.fetch keys)
  { after with cycles := after.cycles + 1 }

/-- The state after the fault of the instruction at the counter. -/
def failed (keys : List Bool) (state : State) : State :=
  { state.operation.spoiled (state.fetch keys) with halted := true }

def endEntry (state : State) : TraceEntry where
  cycle := state.cycles
  pc := state.pc
  event := .endOfMemory
  before := { state with halted := true }.snapshot
  after := { state with halted := true }.snapshot
  fault := none

def faultEntry (keys : List Bool) (state : State) (cause : Fault) : TraceEntry where
  cycle := state.cycles
  pc := state.pc
  event := .executed state.operation state.instruction
  before := state.snapshot
  after := (state.failed keys).snapshot
  fault := some cause

/-- The state after a cycle that succeeds, when the timers keep to the cycles. -/
def completed (keys : List Bool) (state : State) : State :=
  (state.executed keys).tick

def entry (keys : List Bool) (state : State) : TraceEntry where
  cycle := (state.completed keys).cycles - 1
  pc := state.pc
  event := .executed state.operation state.instruction
  before := state.snapshot
  after := (state.completed keys).snapshot
  fault := none

/-- There is no whole word at the counter. -/
def AtEnd (state : State) : Prop :=
  (state.memory.size : Int) ≤ state.pc + 1

instance (state : State) : Decidable state.AtEnd :=
  inferInstanceAs (Decidable (_ ≤ _))

/-- The keys of a poll are turned down: a word is to be fetched, and there are not sixteen keys. -/
def TurnsDown (keys : List Bool) (state : State) : Prop :=
  ¬ state.AtEnd ∧ keys.length ≠ 16

instance (keys : List Bool) (state : State) : Decidable (state.TurnsDown keys) :=
  inferInstanceAs (Decidable (_ ∧ _))

/-- What a cycle leaves, and its entry in the trace. -/
structure Outcome where
  status : Status
  state : State
  entry : TraceEntry

def cycle (strict : Bool) (keys : List Bool) (state : State) : Outcome :=
  if state.AtEnd then ⟨.halted, { state with halted := true }, state.endEntry⟩
  else
    match state.fault? strict with
    | none => ⟨.running, state.completed keys, state.entry keys⟩
    | some cause => ⟨.faulted, state.failed keys, state.faultEntry keys cause⟩

/-- The error that ends a cycle, if one does. -/
def error? (strict : Bool) (state : State) : Option Error :=
  if state.AtEnd then none
  else (state.fault? strict).map fun cause => .fault (.execution state.word state.pc cause)

/-- The three ways in which a cycle ends. -/
theorem cycle_cases (strict : Bool) (keys : List Bool) (state : State) :
    (state.AtEnd ∧
      state.cycle strict keys = ⟨.halted, { state with halted := true }, state.endEntry⟩) ∨
    (¬ state.AtEnd ∧ state.fault? strict = none ∧
      state.cycle strict keys = ⟨.running, state.completed keys, state.entry keys⟩) ∨
    ∃ cause, ¬ state.AtEnd ∧ state.fault? strict = some cause ∧
      state.cycle strict keys = ⟨.faulted, state.failed keys, state.faultEntry keys cause⟩ := by
  by_cases atEnd : state.AtEnd
  · exact .inl ⟨atEnd, if_pos atEnd⟩
  · rw [cycle, if_neg atEnd]
    cases refused : state.fault? strict with
    | none => exact .inr (.inl ⟨atEnd, rfl, rfl⟩)
    | some cause => exact .inr (.inr ⟨cause, atEnd, rfl, rfl⟩)

theorem error?_atEnd (strict : Bool) {state : State} (atEnd : state.AtEnd) :
    state.error? strict = none :=
  if_pos atEnd

theorem error?_granted {strict : Bool} {state : State} (inside : ¬ state.AtEnd)
    (granted : state.fault? strict = none) : state.error? strict = none := by
  rw [error?, if_neg inside, granted]
  rfl

theorem error?_refused {strict : Bool} {state : State} {cause : Fault} (inside : ¬ state.AtEnd)
    (refused : state.fault? strict = some cause) :
    state.error? strict = some (.fault (.execution state.word state.pc cause)) := by
  rw [error?, if_neg inside, refused]
  rfl

theorem started_cycle (strict : Bool) (keys : List Bool) (state : State) :
    (state.cycle strict keys).status ≠ .loaded := by
  rcases state.cycle_cases strict keys with ⟨_, same⟩ | ⟨_, _, same⟩ | ⟨_, _, _, same⟩ <;>
    simp [same]

theorem status_cycle (strict : Bool) (keys : List Bool) (state : State) :
    (state.cycle strict keys).status ≠ .idle := by
  rcases state.cycle_cases strict keys with ⟨_, same⟩ | ⟨_, _, same⟩ | ⟨_, _, _, same⟩ <;>
    simp [same]

theorem event_cycle (strict : Bool) (keys : List Bool) (state : State) :
    (state.cycle strict keys).entry.event =
      if state.AtEnd then .endOfMemory else .executed state.operation state.instruction := by
  rcases state.cycle_cases strict keys with ⟨atEnd, same⟩ | ⟨inside, _, same⟩ | ⟨_, inside, _, same⟩
  · rw [same, if_pos atEnd]
    rfl
  · rw [same, if_neg inside]
    rfl
  · rw [same, if_neg inside]
    rfl

theorem decode_word (strict : Bool) (state : State) :
    decode strict state.word =
      if strict = true ∧ state.instruction.operation? = none then
        .error (.unknownWord state.instruction.word)
      else .ok (state.operation, state.instruction) := by
  cases found : (Instruction.ofWord state.word).operation? <;> cases strict <;>
    simp [decode, operation, Instruction.operation, instruction, found]

theorem refusal_fetch (keys : List Bool) (state : State) (operation : Operation)
    (instruction : Instruction) :
    operation.refusal instruction (state.fetch keys) = operation.refusal instruction state := by
  cases operation <;> rfl

theorem refusal_of_granted {strict : Bool} (keys : List Bool) {state : State}
    (granted : state.fault? strict = none) :
    state.operation.refusal state.instruction (state.fetch keys) = none := by
  rw [fault?] at granted
  rw [refusal_fetch]
  split at granted
  · cases granted
  · exact granted

theorem cycles_failed (keys : List Bool) (state : State) :
    (state.failed keys).cycles = state.cycles := by
  simp only [failed]
  cases state.operation <;> rfl

end State

namespace Surroundings

variable {τ ε : Type}

/-- Show the screen if it is due. -/
def frame (surroundings : Surroundings τ ε) (due : Bool) (rows : List Int) (world : ε) :
    Reception × ε :=
  if due then surroundings.render rows world else (⟨false, false⟩, world)

/-- A word without an operation is noted once it was passed over. -/
def remark (surroundings : Surroundings τ ε) (operation : Operation) (instruction : Instruction)
    (state : State) (world : ε) : ε :=
  if operation = .unknown then surroundings.note (.ignored instruction.word (state.pc - 2)) world
  else world

section View

variable {β : Type} {surroundings : Surroundings τ ε} {view : ε → β}

theorem frame_cases (holds : (List Int → ε → Reception × ε) → Prop)
    (hidden : holds fun _ world => (⟨false, false⟩, world)) (shown : holds surroundings.render)
    (due : Bool) : holds (surroundings.frame due) := by
  cases due with
  | false => exact hidden
  | true => exact shown

theorem remark_cases (holds : (ε → ε) → Prop) (silent : holds id)
    (noted : ∀ note, holds (surroundings.note note)) (operation : Operation)
    (instruction : Instruction) (state : State) :
    holds (surroundings.remark operation instruction state) := by
  by_cases passedOver : operation = .unknown
  · rw [show surroundings.remark operation instruction state = surroundings.note _ from
      funext fun _ => if_pos passedOver]
    exact noted _
  · rw [show surroundings.remark operation instruction state = id from
      funext fun _ => if_neg passedOver]
    exact silent

theorem view_frame (rendered : ∀ rows world, view (surroundings.render rows world).2 = view world)
    (due : Bool) (rows : List Int) (world : ε) :
    view (surroundings.frame due rows world).2 = view world :=
  frame_cases (fun shown => ∀ rows world, view (shown rows world).2 = view world)
    (fun _ _ => rfl) rendered due rows world

theorem view_remark (noted : ∀ note world, view (surroundings.note note world) = view world)
    (operation : Operation) (instruction : Instruction) (state : State) (world : ε) :
    view (surroundings.remark operation instruction state world) = view world :=
  remark_cases (fun told => ∀ world, view (told world) = view world) (fun _ => rfl) noted
    operation instruction state world

end View

/-- No frame is broken off. -/
def Unbroken (surroundings : Surroundings τ ε) : Prop :=
  ∀ rows world, (surroundings.render rows world).1.interrupt = false

theorem Unbroken.frame {surroundings : Surroundings τ ε} (unbroken : surroundings.Unbroken)
    (due : Bool) (rows : List Int) (world : ε) :
    (surroundings.frame due rows world).1.interrupt = false :=
  frame_cases (fun shown => ∀ rows world, (shown rows world).1.interrupt = false)
    (fun _ _ => rfl) unbroken due rows world

/-- Sixteen keys are reported each time, and no frame is broken off. -/
structure Quiet (surroundings : Surroundings τ ε) : Prop where
  keys : ∀ world, (surroundings.poll world).1.length = 16
  frames : ∀ rows world, (surroundings.render rows world).1.interrupt = false

/-- Surroundings in which nothing fails that a cycle needs: the clock gives a reading as well. -/
structure Reliable (surroundings : Surroundings τ ε) : Prop extends surroundings.Quiet where
  clock : ∀ world, ∃ now, (surroundings.clock world).1 = .ok now

/-- A world that counts how much of a script of key polls was read. No time passes in it, and
nobody looks at the screen. -/
def scripted [TimeScale τ] (script : Nat → List Bool) : Surroundings τ Nat where
  clock count := (.ok TimeScale.zero, count)
  poll count := (script count, count + 1)
  render _ count := (⟨false, false⟩, count)
  wait _ count := (.ok false, count)
  note _ count := count

theorem reliable_scripted [TimeScale τ] {script : Nat → List Bool}
    (sixteen : ∀ count, (script count).length = 16) :
    (scripted script : Surroundings τ Nat).Reliable where
  keys := sixteen
  frames _ _ := rfl
  clock _ := ⟨TimeScale.zero, rfl⟩

/-- The worlds that the clock and waits may make of a world. -/
inductive Passes (surroundings : Surroundings τ ε) : ε → ε → Prop where
  | same (world : ε) : Passes surroundings world world
  | clock {world world' : ε} (before : Passes surroundings world world') :
      Passes surroundings world (surroundings.clock world').2
  | wait {world world' : ε} (time : τ) (before : Passes surroundings world world') :
      Passes surroundings world (surroundings.wait time world').2

theorem Passes.trans {surroundings : Surroundings τ ε} {first second third : ε}
    (before : surroundings.Passes first second) (after : surroundings.Passes second third) :
    surroundings.Passes first third := by
  induction after with
  | same => exact before
  | clock _ ih => exact ih.clock
  | wait time _ ih => exact ih.wait time

/-- A view of worlds that is the same after any reading of the clock, wait or note. -/
structure Keeps {β : Type} (surroundings : Surroundings τ ε) (view : ε → β) : Prop where
  clock : ∀ world, view (surroundings.clock world).2 = view world
  waited : ∀ time world, view (surroundings.wait time world).2 = view world
  noted : ∀ note world, view (surroundings.note note world) = view world

theorem Keeps.passes {β : Type} {surroundings : Surroundings τ ε} {view : ε → β}
    (keeps : surroundings.Keeps view) {world world' : ε}
    (passes : surroundings.Passes world world') : view world' = view world := by
  induction passes with
  | same => rfl
  | clock _ ih => rw [keeps.clock, ih]
  | wait time _ ih => rw [keeps.waited, ih]

end Surroundings

namespace Machine

variable {τ ε : Type} {machine : Machine τ} {state : State}

theorem run_halt (surroundings : Surroundings τ ε) (state : State) (machine : Machine τ)
    (world : ε) :
    (halt surroundings state).run (machine, world) =
      .ok state.endEntry
        ({ machine with
            state := some { state with halted := true }
            status := .halted
            trace := machine.trace.push state.endEntry },
          surroundings.note (.ended state.pc) world) := rfl

theorem run_fail (surroundings : Surroundings τ ε) (before : Snapshot) (word : Nat)
    (operation : Operation) (cause : Fault) (world : ε) (present : machine.state = some state) :
    (fail surroundings before word operation cause).run (machine, world) =
      let after := { state with halted := true }
      let entry : TraceEntry :=
        { cycle := state.cycles
          pc := before.pc
          event := .executed operation (Instruction.ofWord word)
          before
          after := after.snapshot
          fault := some cause }
      .error (.fault (.execution word before.pc cause))
        ({ machine with
            state := some after
            status := .faulted
            trace := machine.trace.push entry },
          surroundings.note (.faulted before.pc word cause) world) := by
  simp only [fail, EStateM.run_bind, run_onState _ _ present, EStateM.run_modify, run_update,
    run_tell, run_throw]
  rw [run_onState get _ rfl]
  simp only [EStateM.run_get, run_update]

theorem run_attempt (operation : Operation) (instruction : Instruction) (world : ε)
    (present : machine.state = some state) (shaped : state.Shaped) :
    (onState (fetchAndExecute.attempt (operation.execute instruction)) :
        Call τ ε (Except Error Unit)).run (machine, world) =
      match operation.refusal instruction state with
      | none =>
        let after := operation.effect instruction state
        .ok (.ok ())
          ({ machine with state := some { after with cycles := after.cycles + 1 } }, world)
      | some cause =>
        .ok (.error (.fault cause))
          ({ machine with state := some (operation.spoiled state) }, world) := by
  have attempted : (fetchAndExecute.attempt (operation.execute instruction)).run state =
      match (operation.execute instruction).run state with
      | .ok () after => .ok (.ok ()) after
      | .error error after => .ok (.error error) after := by
    simp only [fetchAndExecute.attempt, EStateM.run, tryCatch, tryCatchThe, MonadExceptOf.tryCatch]
    delta EStateM.tryCatch
    simp only [bind, EStateM.bind]
    cases operation.execute instruction state <;> rfl
  rw [run_onState _ _ present, attempted, Operation.execute_eq shaped]
  cases operation.refusal instruction state <;> rfl

/-- Whether an operation is followed by a frame. -/
def shows (machine : Machine τ) (operation : Operation) : Bool :=
  operation.drawsScreen || !machine.config.renderOnChange

theorem run_present (surroundings : Surroundings τ ε) (operation : Operation) (world : ε)
    (present : machine.state = some state) :
    (Machine.present surroundings operation).run (machine, world) =
      let shown := surroundings.frame (machine.shows operation) state.display.rows world
      let machine' := { machine with stopping := machine.stopping || shown.1.stop }
      if shown.1.interrupt then .error .interrupted (machine', shown.2)
      else .ok () (machine', shown.2) := by
  by_cases due : machine.shows operation
  · have due' : (operation.drawsScreen || !machine.config.renderOnChange) = true := due
    simp only [Machine.present, EStateM.run_bind, run_read, due', if_true, run_look world present,
      run_ask, Surroundings.frame, due]
    rcases surroundings.render state.display.rows world with ⟨⟨stop, interrupt⟩, world'⟩
    cases stop <;> cases interrupt <;> simp [run_stop]
  · have idle : (operation.drawsScreen || !machine.config.renderOnChange) = false :=
      Bool.eq_false_iff.mpr due
    simp only [Machine.present, EStateM.run_bind, run_read, idle, Surroundings.frame, due,
      Bool.false_eq_true, if_false, EStateM.run_pure, Bool.or_false]

/-- Between cycles only the clock and the wish to stop change, and the machine may be started. -/
structure Rests (machine rested : Machine τ) : Prop where
  config : rested.config = machine.config
  state : rested.state = machine.state
  trace : rested.trace = machine.trace
  status : rested.status = machine.status ∨
    machine.status = .loaded ∧ rested.status = .running

namespace Rests

theorem refl (machine : Machine τ) : machine.Rests machine :=
  ⟨rfl, rfl, rfl, .inl rfl⟩

theorem trans {first second third : Machine τ} (before : first.Rests second)
    (after : second.Rests third) : first.Rests third where
  config := after.config.trans before.config
  state := after.state.trans before.state
  trace := after.trace.trans before.trace
  status := by
    rcases after.status with same | ⟨loaded, running⟩
    · rw [same]
      exact before.status
    · rcases before.status with same | ⟨_, started⟩
      · exact .inr ⟨same.symm.trans loaded, running⟩
      · rw [started] at loaded
        simp at loaded

theorem running {machine rested : Machine τ} (rests : machine.Rests rested)
    (running : machine.status = .running) : rested.status = .running := by
  rcases rests.status with same | ⟨_, started⟩
  · exact same.trans running
  · exact started

end Rests

/-- Nothing but a rest separates two places. -/
def Resting (surroundings : Surroundings τ ε) (before after : Machine τ × ε) : Prop :=
  before.1.Rests after.1 ∧ surroundings.Passes before.2 after.2

instance (surroundings : Surroundings τ ε) : Std.Refl (Resting surroundings) :=
  ⟨fun place => ⟨.refl place.1, .same place.2⟩⟩

instance (surroundings : Surroundings τ ε) :
    Trans (Resting surroundings) (Resting surroundings) (Resting surroundings) :=
  ⟨fun before after => ⟨before.1.trans after.1, before.2.trans after.2⟩⟩

variable [TimeScale τ]

theorem run_fetchAndExecute (surroundings : Surroundings τ ε) (world : ε)
    (present : machine.state = some state) (shaped : state.Shaped)
    (readable : state.memory.Covers state.pc 2) :
    (fetchAndExecute surroundings).run (machine, world) =
      let keys := (surroundings.poll world).1
      let world' := (surroundings.poll world).2
      if keys.length = 16 then
        match state.fault? machine.config.strict with
        | none =>
          (complete surroundings state.snapshot state.operation state.instruction).run
            ({ machine with state := some (state.executed keys) }, world')
        | some cause =>
          .error (.fault (.execution state.word state.pc cause))
            ({ machine with
                state := some (state.failed keys)
                status := .faulted
                trace := machine.trace.push (state.faultEntry keys cause) },
              surroundings.note (.faulted state.pc state.word cause) world')
      else .error (.keyCount keys.length) (machine, world') := by
  by_cases sixteen : (surroundings.poll world).1.length = 16
  · have word : state.memory.readWord state.pc = .ok state.word := Memory.readWord_eq readable
    have fetched : (state.fetch (surroundings.poll world).1).Shaped :=
      ⟨shaped.registers, shaped.stack, sixteen, shaped.depth⟩
    simp only [fetchAndExecute, EStateM.run_bind, run_ask, run_onState _ _ present,
      Action.run_setKeys, if_pos sixteen]
    rw [run_onState get _ rfl]
    simp only [EStateM.run_get, word, EStateM.run_bind]
    rw [run_onState (modify _) _ rfl]
    simp only [EStateM.run_modify, run_read, State.decode_word]
    by_cases unmatched : machine.config.strict = true ∧ state.instruction.operation? = none
    · have unknown : state.operation = .unknown := by
        rw [State.operation, Instruction.operation, unmatched.2]
        rfl
      have refused : state.fault? machine.config.strict =
          some (.unknownWord state.instruction.word) := if_pos unmatched
      simp only [refused, if_pos unmatched]
      rw [run_fail _ _ _ _ _ _ rfl]
      simp only [State.failed, State.faultEntry, unknown]
      rfl
    · have granted : state.fault? machine.config.strict =
          state.operation.refusal state.instruction state := if_neg unmatched
      simp only [granted, if_neg unmatched, EStateM.run_bind]
      rw [run_attempt _ _ _ rfl fetched]
      rw [State.refusal_fetch]
      cases state.operation.refusal state.instruction state with
      | none => rfl
      | some cause =>
        simp only
        rw [run_fail _ _ _ _ _ _ rfl]
        have uncounted := state.cycles_failed (surroundings.poll world).1
        simp only [State.failed] at uncounted
        simp only [State.failed, State.faultEntry, uncounted]
        rfl
  · simp only [fetchAndExecute, EStateM.run_bind, run_ask, run_onState _ _ present,
      Action.run_setKeys, if_neg sixteen, with_state present]

theorem run_updateTimers (surroundings : Surroundings τ ε) (world : ε)
    (present : machine.state = some state) (shared : machine.config.timerRate = none) :
    (updateTimers surroundings).run (machine, world) =
      .ok () ({ machine with state := some state.tick }, world) := by
  simp only [updateTimers, EStateM.run_bind, run_read, shared]
  rw [run_onState _ _ present, EStateM.run_modify]

theorem run_complete_updated (surroundings : Surroundings τ ε) (before : Snapshot)
    (operation : Operation) (instruction : Instruction) (world : ε)
    (present : machine.state = some state) {updated : Machine τ} {after : State} {world' : ε}
    (updates : (updateTimers surroundings).run
      (machine, surroundings.remark operation instruction state world) = .ok () (updated, world'))
    (kept : updated.state = some after) :
    (complete surroundings before operation instruction).run (machine, world) =
      let shown := surroundings.frame (updated.shows operation) after.display.rows world'
      let machine' := { updated with stopping := updated.stopping || shown.1.stop }
      let entry : TraceEntry :=
        { cycle := after.cycles - 1
          pc := before.pc
          event := .executed operation instruction
          before
          after := after.snapshot
          fault := none }
      if shown.1.interrupt then .error .interrupted (machine', shown.2)
      else .ok entry ({ machine' with trace := updated.trace.push entry }, shown.2) := by
  have remarked :
      (complete surroundings before operation instruction).run (machine, world) =
        (do
          updateTimers surroundings
          Machine.present surroundings operation
          let state ← onState get
          let entry : TraceEntry :=
            { cycle := state.cycles - 1
              pc := before.pc
              event := .executed operation instruction
              before
              after := state.snapshot
              fault := none }
          update fun machine => { machine with trace := machine.trace.push entry }
          return entry : Call τ ε TraceEntry).run
          (machine, surroundings.remark operation instruction state world) := by
    by_cases unknown : operation = .unknown
    · simp only [complete, if_pos unknown, EStateM.run_bind, run_look world present, run_tell,
        Surroundings.remark]
    · simp only [complete, if_neg unknown, Surroundings.remark]
  rw [remarked]
  simp only [EStateM.run_bind, updates, run_present surroundings operation _ kept]
  rcases surroundings.frame (updated.shows operation) after.display.rows world' with
    ⟨⟨stop, interrupt⟩, world''⟩
  cases interrupt with
  | true => rfl
  | false =>
    have looked : ({ updated with stopping := updated.stopping || stop } : Machine τ).state =
        some after := kept
    simp only [Bool.false_eq_true, if_false, run_look world'' looked, run_update, EStateM.run_pure]

theorem run_complete (surroundings : Surroundings τ ε) (before : Snapshot)
    (operation : Operation) (instruction : Instruction) (world : ε)
    (present : machine.state = some state) (shared : machine.config.timerRate = none) :
    (complete surroundings before operation instruction).run (machine, world) =
      let shown := surroundings.frame (machine.shows operation) state.tick.display.rows
        (surroundings.remark operation instruction state world)
      let machine' :=
        { machine with
          state := some state.tick
          stopping := machine.stopping || shown.1.stop }
      let entry : TraceEntry :=
        { cycle := state.tick.cycles - 1
          pc := before.pc
          event := .executed operation instruction
          before
          after := state.tick.snapshot
          fault := none }
      if shown.1.interrupt then .error .interrupted (machine', shown.2)
      else .ok entry ({ machine' with trace := machine.trace.push entry }, shown.2) :=
  run_complete_updated surroundings before operation instruction world present
    (run_updateTimers surroundings _ present shared) rfl

theorem run_step_ready (surroundings : Surroundings τ ε) (world : ε)
    (present : machine.state = some state) (running : machine.status = .running)
    (awake : machine.clockPaused = false) :
    (step surroundings).run (machine, world) =
      if (state.memory.size : Int) ≤ state.pc + 1 then
        (halt surroundings state).run (machine, world)
      else (fetchAndExecute surroundings).run (machine, world) := by
  have started : ¬ (machine.status = .loaded) := by rw [running]; decide
  have goesOn : ¬ (machine.status ≠ .running) := fun other => other running
  have ready : machine.state.isNone = false := by rw [present]; rfl
  simp only [step, EStateM.run_bind, run_read, ready, Bool.false_eq_true, if_false, started, goesOn,
    awake, run_look world present]
  split <;> rfl

/-- The four ways in which a cycle goes, in settings and surroundings of any kind: it finds the end
of memory, its keys are turned down, its instruction is refused, or its instruction is executed. -/
theorem step_ready_cases (surroundings : Surroundings τ ε) (world : ε)
    (present : machine.state = some state) (running : machine.status = .running)
    (awake : machine.clockPaused = false) (shaped : state.Shaped) (counted : 0 ≤ state.pc) :
    let keys := (surroundings.poll world).1
    let polled := (surroundings.poll world).2
    let stepped := (step surroundings).run (machine, world)
    (state.AtEnd ∧
      stepped = .ok state.endEntry
        ({ machine with
            state := some { state with halted := true }
            status := .halted
            trace := machine.trace.push state.endEntry },
          surroundings.note (.ended state.pc) world)) ∨
    (¬ state.AtEnd ∧ keys.length ≠ 16 ∧
      stepped = .error (.keyCount keys.length) (machine, polled)) ∨
    (∃ cause, ¬ state.AtEnd ∧ keys.length = 16 ∧
      state.fault? machine.config.strict = some cause ∧
      stepped = .error (.fault (.execution state.word state.pc cause))
        ({ machine with
            state := some (state.failed keys)
            status := .faulted
            trace := machine.trace.push (state.faultEntry keys cause) },
          surroundings.note (.faulted state.pc state.word cause) polled)) ∨
    (¬ state.AtEnd ∧ keys.length = 16 ∧ state.fault? machine.config.strict = none ∧
      stepped = (complete surroundings state.snapshot state.operation state.instruction).run
        ({ machine with state := some (state.executed keys) }, polled)) := by
  intro keys polled stepped
  have went := run_step_ready surroundings world present running awake
  by_cases atEnd : (state.memory.size : Int) ≤ state.pc + 1
  · rw [if_pos atEnd, run_halt] at went
    exact .inl ⟨atEnd, went⟩
  · have readable : state.memory.Covers state.pc 2 := ⟨counted, by decide, by omega⟩
    rw [if_neg atEnd, run_fetchAndExecute surroundings world present shaped readable] at went
    by_cases sixteen : (surroundings.poll world).1.length = 16
    · simp only [if_pos sixteen] at went
      cases refused : state.fault? machine.config.strict with
      | some cause =>
        rw [refused] at went
        exact .inr (.inr (.inl ⟨cause, atEnd, sixteen, rfl, went⟩))
      | none =>
        rw [refused] at went
        exact .inr (.inr (.inr ⟨atEnd, sixteen, rfl, went⟩))
    · simp only [if_neg sixteen] at went
      exact .inr (.inl ⟨atEnd, sixteen, went⟩)

/-- The place after a cycle that the screen does not break off. -/
def settle (surroundings : Surroundings τ ε) (machine : Machine τ) (state : State) (world : ε) :
    Machine τ × ε :=
  let polled := surroundings.poll world
  let outcome := state.cycle machine.config.strict polled.1
  let machine' :=
    { machine with
      state := some outcome.state
      status := outcome.status
      trace := machine.trace.push outcome.entry }
  if state.AtEnd then (machine', surroundings.note (.ended state.pc) world)
  else
    match state.fault? machine.config.strict with
    | none =>
      let shown := surroundings.frame (machine.shows state.operation)
        (state.completed polled.1).display.rows
        (surroundings.remark state.operation state.instruction (state.executed polled.1) polled.2)
      ({ machine' with stopping := machine.stopping || shown.1.stop }, shown.2)
    | some cause => (machine', surroundings.note (.faulted state.pc state.word cause) polled.2)

/-- What a cycle comes to in surroundings that break off no frame, when the timers keep to the
cycles. -/
def cycled (surroundings : Surroundings τ ε) (machine : Machine τ) (state : State) (world : ε) :
    EStateM.Result Error (Machine τ × ε) TraceEntry :=
  let polled := surroundings.poll world
  if state.TurnsDown polled.1 then .error (.keyCount polled.1.length) (machine, polled.2)
  else
    conclude (state.error? machine.config.strict)
      (state.cycle machine.config.strict polled.1).entry (settle surroundings machine state world)

theorem run_step_cycled {surroundings : Surroundings τ ε} (unbroken : surroundings.Unbroken)
    (world : ε) (present : machine.state = some state) (running : machine.status = .running)
    (awake : machine.clockPaused = false) (shared : machine.config.timerRate = none)
    (shaped : state.Shaped) (counted : 0 ≤ state.pc) :
    (step surroundings).run (machine, world) = cycled surroundings machine state world := by
  rcases step_ready_cases surroundings world present running awake shaped counted with
    ⟨atEnd, ended⟩ | ⟨inside, turned, refused⟩ | ⟨cause, inside, sixteen, failed, faulted⟩ |
      ⟨inside, sixteen, granted, executed⟩
  · have taken : ¬ state.TurnsDown (surroundings.poll world).1 := fun turned => turned.1 atEnd
    rw [ended, cycled, if_neg taken]
    simp only [State.error?, State.cycle, settle, if_pos atEnd, conclude]
  · exact refused.trans (if_pos ⟨inside, turned⟩).symm
  · have taken : ¬ state.TurnsDown (surroundings.poll world).1 := fun turned => turned.2 sixteen
    rw [faulted, cycled, if_neg taken]
    simp only [State.error?, State.cycle, settle, if_neg inside, failed]
    rfl
  · have taken : ¬ state.TurnsDown (surroundings.poll world).1 := fun turned => turned.2 sixteen
    let executing : Machine τ :=
      { machine with state := some (state.executed (surroundings.poll world).1) }
    have present' : executing.state = some (state.executed (surroundings.poll world).1) := rfl
    have followed := run_complete surroundings state.snapshot state.operation state.instruction
      (surroundings.poll world).2 present' shared
    have uninterrupted := unbroken.frame (executing.shows state.operation)
      (state.executed (surroundings.poll world).1).tick.display.rows
      (surroundings.remark state.operation state.instruction
        (state.executed (surroundings.poll world).1) (surroundings.poll world).2)
    simp only [uninterrupted, Bool.false_eq_true, if_false] at followed
    rw [executed, cycled, if_neg taken]
    apply followed.trans
    simp only [executing, running, State.error?, State.cycle, settle, if_neg inside, granted]
    rfl

/-- What precedes the cycle of a step: a loaded machine is started, and a clock that was left
alone is read. -/
def wake (surroundings : Surroundings τ ε) : Call τ ε Unit := do
  if (← read).status = .loaded then start surroundings
  let machine ← read
  if machine.status ≠ .running then throw (.notRunning machine.status)
  if machine.clockPaused then resumeClock surroundings

theorem run_wake (surroundings : Surroundings τ ε) (machine : Machine τ) (world : ε) :
    (wake surroundings).run (machine, world) =
      if machine.status = .loaded then (start surroundings).run (machine, world)
      else if machine.status = .running then
        if machine.clockPaused then (resumeClock surroundings).run (machine, world)
        else .ok () (machine, world)
      else .error (.notRunning machine.status) (machine, world) := by
  by_cases loaded : machine.status = .loaded
  · simp only [wake, EStateM.run_bind, run_read, loaded, if_true, run_start, reduceCtorEq, if_false,
      run_resumeClock]
    cases (surroundings.clock world).1 <;> simp [run_read]
  · by_cases running : machine.status = .running
    · cases paused : machine.clockPaused <;> simp [wake, run_read, running, paused]
    · simp [wake, run_read, loaded, running]

theorem leads_wake {relation : Machine τ × ε → Machine τ × ε → Prop} [Std.Refl relation]
    {surroundings : Surroundings τ ε} (starts : Leads relation (start surroundings))
    (resumes : Leads relation (resumeClock surroundings)) : Leads relation (wake surroundings) := by
  intro ⟨machine, world⟩
  rw [run_wake]
  split
  · exact starts (machine, world)
  · split
    · split
      · exact resumes (machine, world)
      · exact Std.Refl.refl _
    · exact Std.Refl.refl _

theorem run_step_wake (surroundings : Surroundings τ ε) (world : ε)
    (present : machine.state = some state) :
    (step surroundings).run (machine, world) =
      (wake surroundings >>= fun _ => step surroundings).run (machine, world) := by
  rw [EStateM.run_bind, run_wake]
  by_cases loaded : machine.status = .loaded
  · rw [if_pos loaded]
    cases answered : (surroundings.clock world).1 with
    | ok now => simp [step, run_read, present, loaded, run_start, run_resumeClock, answered]
    | error error => simp [step, run_read, present, loaded, run_start, run_resumeClock, answered]
  · rw [if_neg loaded]
    by_cases running : machine.status = .running
    · rw [if_pos running]
      cases paused : machine.clockPaused with
      | false => rfl
      | true =>
        cases answered : (surroundings.clock world).1 with
        | ok now => simp [step, run_read, present, running, paused, run_resumeClock, answered]
        | error error =>
          simp [step, run_read, present, running, paused, run_resumeClock, answered]
    · simp [step, run_read, present, loaded, running]

theorem run_step_blank (surroundings : Surroundings τ ε) (world : ε)
    (blank : machine.state = none) :
    (step surroundings).run (machine, world) = .error .notLoaded (machine, world) := by
  simp [step, run_read, blank]

/-- Waking takes the machine to the start of a cycle, unless the clock fails or it has ended. -/
theorem wake_spec (surroundings : Surroundings τ ε) (machine : Machine τ) (world : ε) :
    match (wake surroundings).run (machine, world) with
    | .ok _ place =>
      Resting surroundings (machine, world) place ∧ place.1.status = .running ∧
        place.1.clockPaused = false
    | .error error place =>
      Resting surroundings (machine, world) place ∧
        ((surroundings.clock world).1 = .error error ∨
          machine.status ≠ .loaded ∧ machine.status ≠ .running) := by
  have read : surroundings.Passes world (surroundings.clock world).2 :=
    (Surroundings.Passes.same world).clock
  rw [run_wake]
  by_cases loaded : machine.status = .loaded
  · have started : machine.status ≠ .running := by rw [loaded]; decide
    rw [if_pos loaded, run_start, if_neg started, if_pos loaded, run_resumeClock]
    cases (surroundings.clock world).1 with
    | ok now => exact ⟨⟨⟨rfl, rfl, rfl, .inr ⟨loaded, rfl⟩⟩, read⟩, rfl, rfl⟩
    | error error => exact ⟨⟨⟨rfl, rfl, rfl, .inr ⟨loaded, rfl⟩⟩, read⟩, .inl rfl⟩
  · rw [if_neg loaded]
    by_cases running : machine.status = .running
    · rw [if_pos running]
      cases paused : machine.clockPaused with
      | false => exact ⟨Std.Refl.refl (r := Resting surroundings) (machine, world), running, paused⟩
      | true =>
        rw [if_pos rfl, run_resumeClock]
        cases (surroundings.clock world).1 with
        | ok now => exact ⟨⟨⟨rfl, rfl, rfl, .inl rfl⟩, read⟩, running, rfl⟩
        | error error => exact ⟨⟨⟨rfl, rfl, rfl, .inl rfl⟩, read⟩, .inl rfl⟩
    · rw [if_neg running]
      exact ⟨Std.Refl.refl (r := Resting surroundings) (machine, world), .inr ⟨loaded, running⟩⟩

/-- A step leads along what waking and the cycles of an awake machine lead along. -/
theorem leads_step {relation : Machine τ × ε → Machine τ × ε → Prop} [Std.Refl relation]
    [Trans relation relation relation] {surroundings : Surroundings τ ε}
    (wakes : Leads relation (wake surroundings))
    (cycles : ∀ (machine : Machine τ) (state : State) (world : ε), machine.state = some state →
      machine.status = .running → machine.clockPaused = false →
      relation (machine, world) (left ((step surroundings).run (machine, world)))) :
    Leads relation (step surroundings) := by
  intro ⟨machine, world⟩
  cases present : machine.state with
  | none =>
    rw [run_step_blank surroundings world present]
    exact Std.Refl.refl _
  | some state =>
    have woken := wake_spec surroundings machine world
    have led := wakes (machine, world)
    rw [run_step_wake surroundings world present, EStateM.run_bind]
    cases outcome : (wake surroundings).run (machine, world) with
    | error error place =>
      rw [outcome] at led
      exact led
    | ok _ place =>
      rw [outcome] at woken led
      obtain ⟨⟨rests, _⟩, running, awake⟩ := woken
      exact Trans.trans led (cycles _ state _ (rests.state.trans present) running awake)

/-- A step, when the timers keep to the cycles: the machine wakes, and a cycle follows. -/
theorem run_step_unbroken {surroundings : Surroundings τ ε} (unbroken : surroundings.Unbroken)
    (world : ε) (present : machine.state = some state) (shared : machine.config.timerRate = none)
    (shaped : state.Shaped) (counted : 0 ≤ state.pc) :
    (step surroundings).run (machine, world) =
      match (wake surroundings).run (machine, world) with
      | .ok _ (awake, world') => cycled surroundings awake state world'
      | .error error place => .error error place := by
  have woken := wake_spec surroundings machine world
  rw [run_step_wake surroundings world present, EStateM.run_bind]
  cases outcome : (wake surroundings).run (machine, world) with
  | error error place => rfl
  | ok _ place =>
    obtain ⟨awake, world'⟩ := place
    rw [outcome] at woken
    obtain ⟨⟨rests, _⟩, running, read⟩ := woken
    have shared' : awake.config.timerRate = none := by rw [rests.config, shared]
    exact run_step_cycled unbroken world' (rests.state.trans present) running read shared' shaped
      counted

theorem run_step_quiet {surroundings : Surroundings τ ε} (quiet : surroundings.Quiet) (world : ε)
    (present : machine.state = some state) (shared : machine.config.timerRate = none)
    (shaped : state.Shaped) (counted : 0 ≤ state.pc) :
    (step surroundings).run (machine, world) =
      match (wake surroundings).run (machine, world) with
      | .ok _ (awake, world') =>
        conclude (state.error? machine.config.strict)
          (state.cycle machine.config.strict (surroundings.poll world').1).entry
          (settle surroundings awake state world')
      | .error error place => .error error place := by
  have woken := wake_spec surroundings machine world
  rw [run_step_unbroken quiet.frames world present shared shaped counted]
  cases outcome : (wake surroundings).run (machine, world) with
  | error error place => rfl
  | ok _ place =>
    obtain ⟨awake, world'⟩ := place
    rw [outcome] at woken
    have settings : awake.config = machine.config := woken.1.1.config
    have taken : ¬ state.TurnsDown (surroundings.poll world').1 :=
      fun turned => turned.2 (quiet.keys world')
    simp only [cycled, if_neg taken, settings]

end Machine

end ChipEight
