import ChipEight.Proofs.Faults
import ChipEight.Proofs.Histories
import ChipEight.Proofs.Ledger

namespace ChipEight

namespace State

/-- The instruction at the counter is a call, `2NNN`. -/
def Calls (state : State) : Prop :=
  state.word / 0x1000 = 0x2

/-- The instruction at the counter is a return, `00EE`. -/
def Returns (state : State) : Prop :=
  state.word = 0x00EE

instance (state : State) : Decidable state.Calls :=
  inferInstanceAs (Decidable (_ = _))

instance (state : State) : Decidable state.Returns :=
  inferInstanceAs (Decidable (_ = _))

/-- The address behind the instruction at the counter. -/
def behind (state : State) : Int :=
  state.pc + 2

/-- The calls that wait for their return after one more instruction. -/
def follow (waiting : List State) (state : State) : List State :=
  if state.Calls then waiting ++ [state]
  else if state.Returns then waiting.dropLast
  else waiting

/-- The calls of a history that are not returned from, the latest last. -/
def unreturned (history : List State) : List State :=
  history.foldl follow []

theorem unreturned_concat (history : List State) (state : State) :
    unreturned (history ++ [state]) = follow (unreturned history) state := by
  rw [unreturned, List.foldl_append]
  rfl

/-- The return addresses on the stack. -/
def returnAddresses (state : State) : List Int :=
  state.stack.take state.sp.toNat

variable {state : State} {keys : List Bool} {strict : Bool}

theorem calls_iff : state.Calls ↔ state.operation = .call := by
  have spelled : state.operation = .call ↔ Instruction.Spells state.word .call :=
    Instruction.operation_eq (state.memory.wordAt_lt _) (by decide)
  exact spelled.symm

theorem returns_iff : state.Returns ↔ state.operation = .ret := by
  have spelled : state.operation = .ret ↔ Instruction.Spells state.word .ret :=
    Instruction.operation_eq (state.memory.wordAt_lt _) (by decide)
  exact spelled.symm

end State

namespace Operation

theorem stack_effect (instruction : Instruction) (state : State) {operation : Operation}
    (called : operation ≠ call) (returned : operation ≠ ret) :
    (operation.effect instruction state).stack = state.stack ∧
      (operation.effect instruction state).sp = state.sp := by
  have skipped (condition : Bool) :
      (state.skipIf condition).stack = state.stack ∧ (state.skipIf condition).sp = state.sp := by
    cases condition <;> exact ⟨rfl, rfl⟩
  cases operation with
  | call => exact absurd rfl called
  | ret => exact absurd rfl returned
  | awaitKey =>
    simp only [effect, takeKeyEffect]
    split <;> exact ⟨rfl, rfl⟩
  | skipEqualByte | skipUnequalByte | skipEqual | skipUnequal | skipHeld | skipReleased =>
    exact skipped _
  | _ => exact ⟨rfl, rfl⟩

end Operation

theorem take_set_succ (row : List α) (place : Nat) (value : α) (inside : place < row.length) :
    (row.set place value).take (place + 1) = row.take place ++ [value] := by
  rw [List.take_add_one, List.take_set_of_le (Nat.le_refl place), List.getElem?_set_self inside]
  rfl

namespace State

variable {state : State} {strict : Bool}

theorem WellFormed.length_returnAddresses (formed : state.WellFormed) :
    (state.returnAddresses.length : Int) = state.sp := by
  have depth := formed.depth
  rw [returnAddresses, List.length_take, formed.slots]
  omega

theorem WellFormed.executed_call (formed : state.WellFormed) (inside : ¬ state.AtEnd)
    (granted : state.fault? strict = none) (calls : state.Calls) (keys : List Bool) :
    (state.executed keys).returnAddresses = state.returnAddresses ++ [state.behind] ∧
      (state.executed keys).sp = state.sp + 1 := by
  have depth := formed.depth
  have behind : (state.fetch keys).pc = state.behind := formed.pc_fetch inside keys
  have spelled : Instruction.Spells state.word .call := calls
  have room : state.sp ≠ 16 := by
    intro full
    rw [fault?_of_spells spelled, Operation.refusal, if_pos full] at granted
    cases granted
  have pushed : (state.executed keys).stack =
        state.stack.set state.sp.toNat (state.behind % 0x10000) ∧
      (state.executed keys).sp = state.sp + 1 := by
    rw [← behind]
    simp only [State.executed, calls_iff.mp calls]
    exact ⟨rfl, rfl⟩
  have short : state.behind % 0x10000 = state.behind := by
    rw [← behind]
    exact Int.emod_emod_of_dvd _ (Int.dvd_refl _)
  refine ⟨?_, pushed.2⟩
  rw [returnAddresses, pushed.1, pushed.2, short,
    show (state.sp + 1).toNat = state.sp.toNat + 1 by omega,
    take_set_succ _ _ _ (by rw [formed.slots]; omega)]
  rfl

theorem WellFormed.executed_ret (formed : state.WellFormed)
    (granted : state.fault? strict = none) (returns : state.Returns) (keys : List Bool) :
    (state.executed keys).returnAddresses = state.returnAddresses.dropLast ∧
      (state.executed keys).sp = state.sp - 1 ∧
      state.returnAddresses.getLast? = some (state.executed keys).pc := by
  have depth := formed.depth
  have pushed := pushed_of_granted granted returns
  have popped : (state.executed keys).stack = state.stack ∧
      (state.executed keys).sp = state.sp - 1 ∧
      (state.executed keys).pc = state.slot (state.sp - 1).toNat := by
    simp only [State.executed, returns_iff.mp returns]
    exact ⟨rfl, rfl, rfl⟩
  have count : state.returnAddresses.length = state.sp.toNat := by
    have length := formed.length_returnAddresses
    omega
  have below : (state.sp - 1).toNat = state.sp.toNat - 1 := by omega
  refine ⟨?_, popped.2.1, ?_⟩
  · rw [List.dropLast_eq_take, count, returnAddresses, returnAddresses, popped.1, popped.2.1, below,
      List.take_take, Nat.min_eq_left (Nat.sub_le _ _)]
  · have top : state.sp.toNat - 1 < state.stack.length := by
      rw [formed.slots]
      omega
    rw [popped.2.2, List.getLast?_eq_getElem?, count, returnAddresses,
      List.getElem?_take_of_lt (by omega), below, slot, List.getD_eq_getElem?_getD,
      List.getElem?_eq_getElem top]
    rfl

theorem executed_other (calls : ¬ state.Calls) (returns : ¬ state.Returns) (keys : List Bool) :
    (state.executed keys).returnAddresses = state.returnAddresses ∧
      (state.executed keys).sp = state.sp := by
  obtain ⟨stack, sp⟩ := Operation.stack_effect state.instruction (state.fetch keys)
    (mt calls_iff.mpr calls) (mt returns_iff.mpr returns)
  have stack : (state.executed keys).stack = state.stack := stack
  have sp : (state.executed keys).sp = state.sp := sp
  exact ⟨by rw [returnAddresses, stack, sp, returnAddresses], sp⟩

theorem failed_stack (keys : List Bool) (state : State) :
    (state.failed keys).stack = state.stack ∧ (state.failed keys).sp = state.sp := by
  simp only [failed]
  cases state.operation <;> exact ⟨rfl, rfl⟩

/-- How many instructions of a history are calls. -/
def callCount (history : List State) : Nat :=
  history.countP fun state => state.Calls

def returnCount (history : List State) : Nat :=
  history.countP fun state => state.Returns

/-- The stack after some executed instructions. -/
theorem Executes.stack {start current : State} {history : List State}
    (executes : Executes strict start history current) (formed : start.WellFormed)
    (empty : start.sp = 0) :
    current.returnAddresses = (unreturned history).map behind ∧
      current.sp = (callCount history : Int) - returnCount history := by
  induction executes with
  | start =>
    rw [returnAddresses, empty]
    exact ⟨rfl, rfl⟩
  | @next history state keys count before inside granted sixteen ih =>
    obtain ⟨addresses, depth⟩ := ih
    have formed := before.wellFormed formed
    obtain ⟨delay, sound, ticked⟩ := ticks_eq count (state.executed keys)
    have kept : ((state.executed keys).ticks count).returnAddresses =
          (state.executed keys).returnAddresses ∧
        ((state.executed keys).ticks count).sp = (state.executed keys).sp := by
      rw [ticked]
      exact ⟨rfl, rfl⟩
    rw [kept.1, kept.2, unreturned_concat, follow, callCount, returnCount, List.countP_append,
      List.countP_append, List.countP_singleton, List.countP_singleton]
    by_cases calls : state.Calls
    · obtain ⟨pushed, deeper⟩ := formed.executed_call inside granted calls keys
      have returns : ¬ state.Returns := by
        rw [returns_iff, calls_iff.mp calls]
        decide
      rw [if_pos calls, pushed, deeper, addresses, depth]
      simp [calls, returns, callCount, returnCount]
      omega
    · rw [if_neg calls]
      by_cases returns : state.Returns
      · obtain ⟨popped, higher, _⟩ := formed.executed_ret granted returns keys
        rw [if_pos returns, popped, higher, addresses, depth, List.map_dropLast]
        simp [calls, returns, callCount, returnCount]
        omega
      · obtain ⟨same, level⟩ := executed_other calls returns keys
        rw [if_neg returns, same, level, addresses, depth]
        simp [calls, returns, callCount, returnCount]

theorem Executes.cycles {start current : State} {history : List State}
    (executes : Executes strict start history current) :
    current.cycles = start.cycles + history.length := by
  induction executes with
  | start => simp
  | @next history state keys count _ _ _ _ ih =>
    obtain ⟨delay, sound, ticked⟩ := ticks_eq count (state.executed keys)
    have counted : (state.executed keys).cycles = state.cycles + 1 := state.cycles_completed keys
    rw [ticked, List.length_append, List.length_singleton]
    simp only [counted, ih]
    omega

/-- With every call still waiting that the stack has room for, one more is refused, and so is a
return with none waiting. -/
theorem Executes.refused {start current : State} {history : List State} {cause : Fault}
    (executes : Executes strict start history current) (formed : start.WellFormed)
    (empty : start.sp = 0)
    (unmatched :
      current.Calls ∧ (unreturned history).length = 16 ∧ cause = .stackOverflow 16 ∨
        current.Returns ∧ unreturned history = [] ∧ cause = .stackUnderflow) :
    current.fault? strict = some cause ∧ current.sp = (unreturned history).length := by
  have addresses := (executes.stack formed empty).1
  have depth := (executes.wellFormed formed).length_returnAddresses
  rw [addresses, List.length_map] at depth
  refine ⟨?_, depth.symm⟩
  rcases unmatched with ⟨calls, full, rfl⟩ | ⟨returns, nothing, rfl⟩
  · have spelled : Instruction.Spells current.word .call := calls
    rw [fault?_of_spells spelled, Operation.refusal, if_pos (by omega)]
  · have spelled : Instruction.Spells current.word .ret := returns
    have level : current.sp = 0 := by
      rw [← depth, nothing]
      rfl
    rw [fault?_of_spells spelled, Operation.refusal, if_pos level]

end State

namespace Machine

variable {τ ε : Type} {machine : Machine τ} {current : State}

theorem Stands.stack (stands : Stands current machine) :
    ∃ state, machine.state = some state ∧ state.stack = current.stack ∧ state.sp = current.sp ∧
      state.cycles = current.cycles := by
  cases stands with
  | ready _ present => exact ⟨current, present, rfl, rfl, rfl⟩
  | halted _ _ present => exact ⟨_, present, rfl, rfl, rfl⟩
  | @faulted keys _ _ _ _ _ present =>
    obtain ⟨stack, sp⟩ := current.failed_stack keys
    exact ⟨_, present, stack, sp, current.cycles_failed keys⟩

variable [TimeScale τ]

theorem run_step_refused {surroundings : Surroundings τ ε} {world world' : ε} {awake : Machine τ}
    {cause : Fault} (present : machine.state = some current) (formed : current.WellFormed)
    (woken : (wake surroundings).run (machine, world) = .ok () (awake, world'))
    (sixteen : (surroundings.poll world').1.length = 16) (inside : ¬ current.AtEnd)
    (refused : current.fault? machine.config.strict = some cause) :
    ∃ place, (step surroundings).run (machine, world) =
        .error (.fault (.execution current.word current.pc cause)) place ∧
      place.1.state = some (current.failed (surroundings.poll world').1) := by
  have rested := wake_spec surroundings machine world
  rw [woken] at rested
  obtain ⟨⟨rests, _⟩, running, read⟩ := rested
  have present' : awake.state = some current := rests.state.trans present
  have settings : awake.config = machine.config := rests.config
  have within : ¬ (current.memory.size : Int) ≤ current.pc + 1 := inside
  rw [run_step_wake surroundings world present, EStateM.run_bind, woken]
  simp only [run_step_ready surroundings world' present' running read, if_neg within,
    run_fetchAndExecute surroundings world' present' formed.shaped (formed.readable inside),
    if_pos sixteen, settings, refused]
  exact ⟨_, rfl, rfl⟩

theorem Stands.awoken {surroundings : Surroundings τ ε} {world world' : ε} {awake : Machine τ}
    (stands : Stands current machine)
    (woken : (wake surroundings).run (machine, world) = .ok () (awake, world')) :
    machine.state = some current := by
  have rested := wake_spec surroundings machine world
  rw [woken] at rested
  obtain ⟨⟨rests, _⟩, running, _⟩ := rested
  have status : machine.status = .running ∨ machine.status = .loaded := by
    rcases rests.status with same | ⟨loaded, _⟩
    · exact .inl (same.symm.trans running)
    · exact .inr loaded
  cases stands with
  | ready _ present => exact present
  | halted halted => simp [halted] at status
  | faulted faulted => simp [faulted] at status

/-- The stack holds the addresses behind the calls that are not returned from, and each return goes
behind the latest of them. A call too many, and a return that no call waits for, fault. -/
theorem returns_match_calls (surroundings : Surroundings τ ε) (machine : Machine τ) (world : ε)
    (program : List UInt8) {requests : List Request}
    (plays : ∀ request ∈ requests, ∀ program, request ≠ .load program) :
    let loaded := (Request.load program).serve surroundings (machine, world)
    let reached := (serve surroundings requests loaded).1
    ∃ (history : List State) (current : State),
      State.Executes machine.config.strict (State.ofProgram program) history current ∧
      Stands current reached ∧
      (∃ state, reached.state = some state ∧ state.cycles = history.length ∧
        state.stack.take state.sp.toNat = (State.unreturned history).map State.behind ∧
        state.sp = (State.callCount history : Int) - State.returnCount history ∧
        0 ≤ state.sp ∧ state.sp ≤ 16) ∧
      (∀ place (inside : place < history.length), history[place].Returns →
        ∃ call after, (State.unreturned (history.take place)).getLast? = some call ∧
          (history ++ [current])[place + 1]? = some after ∧ after.pc = call.behind) ∧
      (¬ current.AtEnd → ∀ cause,
        (current.Calls ∧ (State.unreturned history).length = 16 ∧ cause = .stackOverflow 16 ∨
          current.Returns ∧ State.unreturned history = [] ∧ cause = .stackUnderflow) →
        ∀ {ε' : Type} (surroundings' : Surroundings τ ε') (world' world'' : ε') (awake : Machine τ),
        (wake surroundings').run (reached, world') = .ok () (awake, world'') →
        (surroundings'.poll world'').1.length = 16 →
        ∃ place after, (step surroundings').run (reached, world') =
            .error (.fault (.execution current.word current.pc cause)) place ∧
          place.1.state = some after ∧ after.sp = (State.unreturned history).length ∧
          after.stack.take after.sp.toNat = (State.unreturned history).map State.behind) := by
  intro loaded reached
  have lives := lives_serve surroundings (machine, world) program plays
  obtain ⟨setting, history, current, executes, stands⟩ := lives
  have formed := State.WellFormed.ofProgram program
  obtain ⟨addresses, depth⟩ := executes.stack formed rfl
  have bounds := (executes.wellFormed formed).depth
  refine ⟨history, current, executes, stands, ?_, ?_, ?_⟩
  · obtain ⟨state, present, stack, sp, cycles⟩ := stands.stack
    have counted : current.cycles = history.length := by
      rw [executes.cycles]
      exact Int.zero_add _
    refine ⟨state, present, cycles.trans counted, ?_, sp.trans depth, ?_⟩
    · rw [stack, sp]
      exact addresses
    · rwa [sp]
  · intro place within returns
    have before := executes.upTo within
    obtain ⟨_, granted, keys, count, _, next⟩ := executes.step within
    obtain ⟨_, _, popped⟩ :=
      (before.wellFormed formed).executed_ret granted returns keys
    rw [(before.stack formed rfl).1, List.getLast?_map, Option.map_eq_some_iff] at popped
    obtain ⟨call, last, address⟩ := popped
    obtain ⟨delay, sound, ticked⟩ := State.ticks_eq count (history[place].executed keys)
    refine ⟨call, _, last, next, ?_⟩
    rw [ticked]
    exact address.symm
  · intro inside cause unmatched ε' surroundings' world' world'' awake woken sixteen
    obtain ⟨refused, level⟩ := executes.refused formed rfl unmatched
    have present := stands.awoken woken
    obtain ⟨place, stepped, left⟩ := run_step_refused present (executes.wellFormed formed) woken
      sixteen inside (by rw [setting]; exact refused)
    obtain ⟨stack, sp⟩ := current.failed_stack (surroundings'.poll world'').1
    refine ⟨place, _, stepped, left, sp.trans level, ?_⟩
    rw [stack, sp]
    exact addresses

/-- After two calls and the return of the inner one, the outer call waits. -/
theorem returns_match_calls_nested :
    let surroundings : Surroundings Quantity Nat := .scripted fun _ => Keypad.released.held
    let program : List UInt8 := [0x22, 0x04, 0x12, 0x02, 0x22, 0x08, 0x12, 0x06, 0x00, 0xEE]
    let loaded := (Request.load program).serve surroundings (Machine.idle .standard, 0)
    let reached := (serve surroundings [.step, .run 2 (some 2)] loaded).1
    ∃ history current, State.Executes false (State.ofProgram program) history current ∧
      Stands current reached ∧ history.length = 3 ∧
      (State.unreturned history).map State.behind = [0x202] := by
  intro surroundings program loaded reached
  have plays : ∀ request ∈ [Request.step, .run 2 (some 2)], ∀ program, request ≠ .load program := by
    simp
  have facts : reached.state.map (fun state => (state.cycles, state.stack.take state.sp.toNat)) =
      some (3, [0x202]) := by decide +kernel
  obtain ⟨history, current, executes, stands, ⟨state, present, counted, stack, _⟩, _⟩ :=
    returns_match_calls surroundings (Machine.idle .standard) 0 program plays
  rw [present, Option.map_some, Option.some.injEq, Prod.mk.injEq] at facts
  refine ⟨history, current, executes, stands, ?_, ?_⟩
  · exact Int.ofNat_inj.mp (counted.symm.trans facts.1)
  · rw [← stack]
    exact facts.2

end Machine

end ChipEight
