import ChipEight.Proofs.Cycles
import ChipEight.Proofs.WellFormed

namespace ChipEight

namespace State

variable {state : State} {keys : List Bool}

theorem WellFormed.readable (formed : state.WellFormed) (inside : ¬ state.AtEnd) :
    state.memory.Covers state.pc 2 := by
  have inside : ¬ (state.memory.size : Int) ≤ state.pc + 1 := inside
  exact ⟨formed.counter.1, by decide, by omega⟩

theorem WellFormed.fetch (formed : state.WellFormed) (inside : ¬ state.AtEnd)
    (sixteen : keys.length = 16) : (state.fetch keys).Fetched := by
  have polled : { state with keys }.WellFormed := { formed with keys := sixteen }
  apply polled.advance
  have covered := (formed.readable inside).2.2
  rw [formed.memory.1] at covered
  exact show state.pc + 1 < 4096 by omega

theorem WellFormed.fetch_eq (formed : state.WellFormed) (inside : ¬ state.AtEnd) :
    state.fetch keys = { state with keys, pc := state.pc + 2 } := by
  have last := (formed.readable inside).2.2
  rw [formed.memory.1] at last
  have first := formed.counter.1
  have short : (state.pc + 2) % 0x10000 = state.pc + 2 := by omega
  simp only [State.fetch, State.advance, short]

theorem WellFormed.pc_fetch (formed : state.WellFormed) (inside : ¬ state.AtEnd)
    (keys : List Bool) : (state.fetch keys).pc = state.pc + 2 := by
  rw [formed.fetch_eq inside]

theorem WellFormed.executed (formed : state.WellFormed) (inside : ¬ state.AtEnd)
    (sixteen : keys.length = 16) {strict : Bool} (granted : state.fault? strict = none) :
    (state.executed keys).WellFormed := by
  have performed := refusal_of_granted keys granted
  have after := Operation.effect_wellFormed (formed.fetch inside sixteen) _ _ performed
  have counted := after.cycles
  exact { after with cycles := by exact Int.le_add_one counted }

theorem WellFormed.failed (formed : state.WellFormed) (inside : ¬ state.AtEnd)
    (sixteen : keys.length = 16) : (state.failed keys).WellFormed := by
  have after := Operation.spoiled_wellFormed (formed.fetch inside sixteen).toWellFormed
    state.operation
  exact { after with }

theorem WellFormed.cycle (formed : state.WellFormed) (strict : Bool)
    (sixteen : keys.length = 16) : (state.cycle strict keys).state.WellFormed := by
  rcases state.cycle_cases strict keys with ⟨_, same⟩ | ⟨inside, granted, same⟩ |
    ⟨_, inside, _, same⟩
  · rw [same]
    exact { formed with }
  · rw [same]
    exact (formed.executed inside sixteen granted).tick
  · rw [same]
    exact formed.failed inside sixteen

end State

namespace Machine

variable {τ ε α : Type} {config : Config τ} {machine : Machine τ} {state : State}

/-- What holds of every machine with these settings that calls lead to. -/
structure Sound (config : Config τ) (machine : Machine τ) : Prop where
  settings : machine.config = config
  room : machine.trace.limit = config.traceLimit.toNat
  idle : machine.state = none ↔ machine.status = .idle
  formed : ∀ state, machine.state = some state → state.WellFormed

theorem Sound.put (sound : machine.Sound config) (formed : state.WellFormed) {status : Status}
    (busy : status ≠ .idle) :
    ({ machine with state := some state, status } : Machine τ).Sound config :=
  { sound with
    idle := ⟨fun missing => by simp at missing, fun same => absurd same busy⟩
    formed := by
      intro other same
      rw [← Option.some.inj same]
      exact formed }

theorem Sound.push (sound : machine.Sound config) (entry : TraceEntry) :
    ({ machine with trace := machine.trace.push entry } : Machine τ).Sound config :=
  { sound with }

theorem Sound.rested {rested : Machine τ} (sound : machine.Sound config)
    (rests : machine.Rests rested) : rested.Sound config where
  settings := rests.config.trans sound.settings
  room := by rw [rests.trace, sound.room]
  idle := by
    rw [rests.state, sound.idle]
    rcases rests.status with same | ⟨loaded, running⟩
    · rw [same]
    · rw [loaded, running]
      exact ⟨fun same => by simp at same, fun same => by simp at same⟩
  formed state present := sound.formed state (rests.state.symm.trans present)

theorem Sound.busy (sound : machine.Sound config) (present : machine.state = some state) :
    machine.status ≠ .idle := by
  intro idle
  rw [sound.idle.mpr idle] at present
  simp at present

theorem Sound.present (sound : machine.Sound config) (busy : machine.status ≠ .idle) :
    ∃ state, machine.state = some state := by
  cases present : machine.state with
  | none => exact absurd (sound.idle.mp present) busy
  | some state => exact ⟨state, rfl⟩

theorem keeps_modify {change : State → State}
    (kept : ∀ state : State, state.WellFormed → (change state).WellFormed) :
    Keeps (Sound config) (onState (modify change) : Call τ ε Unit) := by
  intro ⟨machine, world⟩ sound
  cases present : machine.state with
  | none =>
    simp only [onState, EStateM.run_bind, EStateM.run_get, present, run_throw]
    exact sound
  | some state =>
    rw [run_onState _ world present]
    exact sound.put (kept state (sound.formed state present)) (sound.busy present)

theorem keeps_stop : Keeps (Sound config) (stop : Call τ ε Unit) :=
  keeps_update fun _ sound => { sound with }

theorem keeps_push (entry : TraceEntry) :
    Keeps (Sound config) (update fun machine : Machine τ =>
      { machine with trace := machine.trace.push entry } : Call τ ε Unit) :=
  keeps_update fun _ sound => sound.push entry

theorem keeps_present (surroundings : Surroundings τ ε) (operation : Operation) :
    Keeps (Sound config) (Machine.present surroundings operation) :=
  leads_present operation keeps_look (fun _ => keeps_ask _) keeps_stop

theorem keeps_load (surroundings : Surroundings τ ε) (program : List UInt8) :
    Keeps (Sound config) (load surroundings program) := by
  have rest (loaded : Int) : Keeps (Sound config)
      (do
        update fun machine =>
          { machine with
            state := some (State.ofProgram program)
            loadedBytes := loaded
            status := .loaded
            trace := machine.trace.clear
            stopping := false }
        tell surroundings (.loaded loaded)
        return loaded : Call τ ε Int) := by
    refine Leads.bind (keeps_update fun machine sound => ?_) fun _ => ?_
    · have placed :=
        sound.put (State.WellFormed.ofProgram program) (show Status.loaded ≠ .idle by decide)
      exact { placed with }
    · exact (keeps_tell surroundings _).bind fun _ => Leads.pure _
  exact Leads.ite (fun _ => (keeps_tell surroundings _).bind fun _ => rest _) fun _ => rest _

variable [TimeScale τ]

theorem keeps_updateTimers (surroundings : Surroundings τ ε) :
    Keeps (Sound config) (updateTimers surroundings) :=
  leads_updateTimers (keeps_demand _) (fun _ _ => keeps_update fun _ sound => { sound with })
    fun count => keeps_modify fun _ formed => formed.ticks count

theorem keeps_complete (surroundings : Surroundings τ ε) (before : Snapshot)
    (operation : Operation) (instruction : Instruction) :
    Keeps (Sound config) (complete surroundings before operation instruction) :=
  leads_complete before operation instruction keeps_look (keeps_tell surroundings)
    (keeps_updateTimers surroundings) (keeps_present surroundings operation) keeps_push

theorem keeps_resumeClock (surroundings : Surroundings τ ε) :
    Keeps (Sound config) (resumeClock surroundings) :=
  (keeps_demand _).bind fun _ => keeps_update fun _ sound => { sound with }

theorem keeps_start (surroundings : Surroundings τ ε) :
    Keeps (Sound config) (start surroundings) :=
  leads_start (fun _ _ loaded sound => sound.rested ⟨rfl, rfl, rfl, .inr ⟨loaded, rfl⟩⟩)
    (keeps_resumeClock surroundings)

/-- The cycle of a machine that runs with its clock read. -/
theorem Sound.step_ready (sound : machine.Sound config) (surroundings : Surroundings τ ε)
    (world : ε) (present : machine.state = some state) (running : machine.status = .running)
    (awake : machine.clockPaused = false) :
    (left ((step surroundings).run (machine, world))).1.Sound config := by
  have formed := sound.formed state present
  rcases step_ready_cases surroundings world present running awake formed.shaped
    formed.counter.1 with ⟨_, ended⟩ | ⟨_, _, turned⟩ | ⟨cause, inside, sixteen, _, faulted⟩ |
      ⟨inside, sixteen, granted, executed⟩
  · have halted : { state with halted := true }.WellFormed := { formed with }
    rw [ended]
    exact (sound.put halted (by decide)).push _
  · rw [turned]
    exact sound
  · rw [faulted]
    exact (sound.put (formed.failed inside sixteen) (by decide)).push _
  · have performed := sound.put (formed.executed inside sixteen granted) (sound.busy present)
    rw [executed]
    exact keeps_complete surroundings _ _ _ (_, _) performed

theorem keeps_step (surroundings : Surroundings τ ε) :
    Keeps (Sound config) (step surroundings) := by
  refine leads_step (leads_wake (keeps_start surroundings) (keeps_resumeClock surroundings)) ?_
  intro machine state world present running awake sound
  exact Sound.step_ready sound surroundings world present running awake

theorem Sound.step_quiet {surroundings : Surroundings τ ε} (sound : machine.Sound config)
    (quiet : surroundings.Quiet) (shared : config.timerRate = none) (world : ε)
    (present : machine.state = some state) :
    (step surroundings).run (machine, world) =
      match (wake surroundings).run (machine, world) with
      | .ok _ (awake, world') =>
        conclude (state.error? config.strict)
          (state.cycle config.strict (surroundings.poll world').1).entry
          (settle surroundings awake state world')
      | .error error place => .error error place := by
  have formed := sound.formed state present
  have shared' : machine.config.timerRate = none := by rw [sound.settings, shared]
  have stepped := run_step_quiet quiet world present shared' formed.shaped formed.counter.1
  rw [sound.settings] at stepped
  exact stepped

theorem keeps_turn (surroundings : Surroundings τ ε) :
    Keeps (Sound config) (turn surroundings) :=
  leads_turn (keeps_demand _) (keeps_step surroundings) fun cycleStart =>
    leads_pace cycleStart (keeps_demand _) (fun _ => keeps_demand _) keeps_stop

theorem keeps_run (surroundings : Surroundings τ ε) (fuel : Nat) (limit : Option Int) :
    Keeps (Sound config) (run surroundings fuel limit) := by
  have goes : Keeps (Sound config)
      (update fun machine => { machine with stopping := false } : Call τ ε Unit) :=
    keeps_update fun _ sound => { sound with }
  have begins : Keeps (Sound config) (beginRun surroundings) :=
    leads_beginRun (keeps_start surroundings) goes (keeps_resumeClock surroundings)
  have pauses : Keeps (Sound config)
      (update fun machine => { machine with clockPaused := true } : Call τ ε Unit) :=
    keeps_update fun _ sound => { sound with }
  exact leads_run begins (keeps_turn surroundings) pauses fuel limit

/-- What can be asked of a machine. A run is looked at after at most `fuel` cycles. -/
inductive Request where
  | load (program : List UInt8)
  | start
  | stop
  | step
  | run (fuel : Nat) (limit : Option Int)

namespace Request

def call (surroundings : Surroundings τ ε) : Request → Call τ ε Unit
  | load program => do let _ ← Machine.load surroundings program
  | start => Machine.start surroundings
  | stop => Machine.stop
  | step => do let _ ← Machine.step surroundings
  | run fuel limit => do let _ ← Machine.run surroundings fuel limit

/-- The place that a request leaves, whether it ends with a result or an error. -/
def serve (surroundings : Surroundings τ ε) (place : Machine τ × ε) (request : Request) :
    Machine τ × ε :=
  left ((request.call surroundings).run place)

end Request

theorem keeps_call (surroundings : Surroundings τ ε) (request : Request) :
    Keeps (Sound config) (request.call surroundings) := by
  cases request with
  | load program => exact (keeps_load surroundings program).bind fun _ => Leads.pure ()
  | start => exact keeps_start surroundings
  | stop => exact keeps_stop
  | step => exact (keeps_step surroundings).bind fun _ => Leads.pure ()
  | run fuel limit => exact (keeps_run surroundings fuel limit).bind fun _ => Leads.pure ()

/-- The machines with accepted settings that requests lead to, in any surroundings. -/
inductive Reachable (config : Config τ) : Machine τ → Prop where
  | created {machine : Machine τ} (accepted : config.check = .ok ())
      (made : create config = .ok machine) : Reachable config machine
  | served {machine : Machine τ} {ε : Type} (surroundings : Surroundings τ ε) (world : ε)
      (request : Request) (reachable : Reachable config machine) :
      Reachable config (request.serve surroundings (machine, world)).1

theorem create_eq (made : create config = .ok machine) : machine = idle config := by
  simp only [create] at made
  split at made
  · cases made
  · exact (Except.ok.inj made).symm

theorem create_sound (made : create config = .ok machine) : machine.Sound config := by
  rw [create_eq made]
  exact ⟨rfl, rfl, ⟨fun _ => rfl, fun _ => rfl⟩, fun state present => by simp [idle] at present⟩

theorem Reachable.sound (reachable : Reachable config machine) : machine.Sound config := by
  induction reachable with
  | created accepted made => exact create_sound made
  | served surroundings world request reachable ih =>
    exact keeps_call surroundings request (_, world) ih

/-- Every state that requests lead to is one that the hardware can hold, and no move of its counter,
at the fetch, at a skip or back to a repeated instruction, leaves sixteen bits. -/
theorem reachable_state (reachable : Reachable config machine)
    (present : machine.state = some state) :
    state.valid = true ∧
    (state.memory.size = 4096 ∧ state.memory.bytes.size = 4096 ∧
      ∀ byte ∈ state.memory.bytes, byte.toNat ≤ 255) ∧
    (state.display.rows.length = 32 ∧
      ∀ row ∈ state.display.rows, 0 ≤ row ∧ row < 0x10000000000000000) ∧
    (0 ≤ state.pc ∧ state.pc ≤ 0x10FE ∧
      (state.advance 2).pc = state.pc + 2 ∧
      ((state.advance 2).advance 2).pc = state.pc + 4 ∧
      ((state.advance 2).advance (-2)).pc = state.pc) ∧
    (0 ≤ state.sp ∧ state.sp ≤ 16 ∧ state.stack.length = 16 ∧
      ∀ number : Nat, number < state.sp →
        ∃ address, state.stack[number]? = some address ∧ 2 ≤ address ∧ address ≤ 0x1000) := by
  have formed := reachable.sound.formed state present
  have counter := formed.counter
  have depth := formed.depth
  refine ⟨formed.valid, ⟨formed.memory.1, formed.memory.2, ?_⟩, ⟨formed.display.count, ?_⟩,
    ⟨counter.1, counter.2, ?_, ?_, ?_⟩, depth.1, depth.2, formed.slots, ?_⟩
  · intro byte _
    have small := byte.toNat_lt
    omega
  · intro row member
    exact State.fits_iff.mp (formed.display.rows row member)
  · simp only [State.advance]
    omega
  · simp only [State.advance]
    omega
  · simp only [State.advance]
    omega
  · intro number active
    have inside : number < state.stack.length := by
      rw [formed.slots]
      omega
    have bounds := formed.active number active
    rw [State.slot, List.getD_eq_getElem?_getD, List.getElem?_eq_getElem inside] at bounds
    exact ⟨state.stack[number], List.getElem?_eq_getElem inside, bounds⟩

/-- A machine that has made one call is such a machine. -/
theorem reachable_state_called :
    let surroundings : Surroundings Quantity Nat := .scripted fun _ => Keypad.released.held
    let loaded := (Request.load [0x22, 0x04]).serve surroundings (Machine.idle .standard, 0)
    let called := Request.step.serve surroundings loaded
    ∃ state, called.1.state = some state ∧ state.sp = 1 ∧ state.valid = true ∧
      ∃ address, state.stack[0]? = some address ∧ 2 ≤ address ∧ address ≤ 0x1000 := by
  intro surroundings loaded called
  have created : Reachable .standard (Machine.idle (.standard : Config Quantity)) :=
    .created rfl rfl
  have reachable : Reachable .standard called.1 :=
    .served surroundings loaded.2 .step (.served surroundings 0 (.load [0x22, 0x04]) created)
  have deep : called.1.state.map State.sp = some 1 := by decide +kernel
  obtain ⟨state, present, depth⟩ := Option.map_eq_some_iff.mp deep
  obtain ⟨valid, _, _, _, _, _, _, active⟩ := reachable_state reachable present
  exact ⟨state, present, depth, valid, active 0 (by rw [depth]; decide)⟩

end Machine

end ChipEight
