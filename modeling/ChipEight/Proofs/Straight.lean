import ChipEight.Proofs.Waiting

namespace ChipEight

namespace Operation

/-- The operations that go on to the next instruction or skip it, write no memory and wait for
nothing. -/
def straight : Operation → Bool
  | clearScreen | skipEqualByte | skipUnequalByte | skipEqual | skipUnequal | loadByte | addByte
  | copy | or | and | xor | add | subtract | shiftRight | subtractFrom | shiftLeft | loadIndex
  | skipHeld | skipReleased | readDelay | setDelay | setSound | addIndex | unknown => true
  | _ => false

/-- Whether an operation skips the next instruction. -/
def skips (instruction : Instruction) (state : State) : Operation → Bool
  | skipEqualByte => state.register instruction.x == instruction.nn
  | skipUnequalByte => state.register instruction.x != instruction.nn
  | skipEqual => state.register instruction.x == state.register instruction.y
  | skipUnequal => state.register instruction.x != state.register instruction.y
  | skipHeld => keyHeld instruction state
  | skipReleased => !keyHeld instruction state
  | _ => false

variable {operation : Operation} {instruction : Instruction} {state : State}

theorem refusal_straight (straight : operation.straight = true) :
    operation.refusal instruction state = none := by
  cases operation <;> first | rfl | cases straight

theorem effect_straight (instruction : Instruction) (state : State)
    (straight : operation.straight = true) :
    (operation.effect instruction state).memory = state.memory ∧
      (operation.effect instruction state).pc =
        if operation.skips instruction state then (state.pc + 2) % 0x10000 else state.pc := by
  have skipped (condition : Bool) : (state.skipIf condition).memory = state.memory ∧
      (state.skipIf condition).pc = if condition then (state.pc + 2) % 0x10000 else state.pc := by
    cases condition <;> exact ⟨rfl, rfl⟩
  cases operation with
  | skipEqualByte | skipUnequalByte | skipEqual | skipUnequal | skipHeld | skipReleased =>
    exact skipped _
  | ret | jump | call | jumpOffset | draw | awaitKey | storeDecimal | storeRegisters
  | loadRegisters => cases straight
  | _ => exact ⟨rfl, rfl⟩

end Operation

/-- Every word that a program may come to, when it is loaded, stands for such an operation. -/
def StraightLine (program : List UInt8) : Prop :=
  ∀ address, programStart ≤ address → address ≤ 0xFFE → address % 2 = 0 →
    (Instruction.ofWord ((State.ofProgram program).memory.wordAt address)).operation.straight = true

theorem State.bytes_ofProgram (program : List UInt8) :
    (State.ofProgram program).memory.bytes =
      Memory.overwrite (Array.replicate 4096 0) programStart (program.take 0xE00) := by
  have reaching : programStart ≤ Memory.standard.size := by decide
  exact congrArg (fun loaded => loaded.2.bytes) (Memory.load_reaching reaching program)

theorem State.room_ofProgram (program : List UInt8) :
    programStart + (program.take 0xE00).length ≤ (Array.replicate 4096 (0 : UInt8)).size := by
  have start : programStart = 0x200 := rfl
  rw [Array.size_replicate, List.length_take]
  omega

theorem State.byteAt_ofProgram (program : List UInt8) {address : Nat}
    (first : programStart ≤ address) (inside : address < 0x1000) :
    (State.ofProgram program).memory.byteAt address = program.getD (address - programStart) 0 := by
  have start : programStart = 0x200 := rfl
  rw [Memory.byteAt, State.bytes_ofProgram, Array.getD_eq_getD_getElem?,
    Memory.getElem?_overwrite _ _ _ _ (State.room_ofProgram program), List.getD_eq_getElem?_getD,
    List.length_take]
  by_cases short : address - programStart < program.length
  · rw [if_pos (by omega), List.getElem?_take_of_lt (by omega)]
  · rw [if_neg (by omega), List.getElem?_eq_none (by omega), Array.getElem?_replicate,
      if_pos inside]
    rfl

theorem State.byteAt_ofProgram_before (program : List UInt8) {address : Nat}
    (before : address < programStart) : (State.ofProgram program).memory.byteAt address = 0 := by
  have start : programStart = 0x200 := rfl
  rw [Memory.byteAt, State.bytes_ofProgram, Array.getD_eq_getD_getElem?,
    Memory.getElem?_overwrite _ _ _ _ (State.room_ofProgram program), if_neg (by omega),
    Array.getElem?_replicate, if_pos (by omega)]
  rfl

/-- A word of a program. When half of it is missing, a zero takes its place. -/
def programWord (program : List UInt8) (place : Nat) : Nat :=
  (program.getD (2 * place) 0).toNat * 256 + (program.getD (2 * place + 1) 0).toNat

theorem straightLine_of_words {program : List UInt8}
    (words : ∀ place < (program.length + 1) / 2,
      (Instruction.ofWord (programWord program place)).operation.straight = true) :
    StraightLine program := by
  intro address first last even
  have start : programStart = 0x200 := rfl
  have high := State.byteAt_ofProgram program first (by omega)
  have low := State.byteAt_ofProgram program (show programStart ≤ address + 1 by omega) (by omega)
  have even' : address - programStart = 2 * ((address - programStart) / 2) := by omega
  have odd : address + 1 - programStart = 2 * ((address - programStart) / 2) + 1 := by omega
  have word : (State.ofProgram program).memory.wordAt address =
      programWord program ((address - programStart) / 2) := by
    rw [Memory.wordAt, high, low, programWord, odd, ← even']
  rw [word]
  by_cases inside : (address - programStart) / 2 < (program.length + 1) / 2
  · exact words _ inside
  · have beyond {index : Nat} (outside : program.length ≤ index) : program.getD index 0 = 0 := by
      rw [List.getD_eq_getElem?_getD, List.getElem?_eq_none outside]
      rfl
    rw [programWord, beyond (by omega), beyond (by omega)]
    rfl

namespace State

/-- Somewhere along a program, at one of its words or behind the last. -/
structure Along (program : List UInt8) (state : State) : Prop where
  memory : state.memory = (State.ofProgram program).memory
  even : state.pc % 2 = 0
  range : 0x200 ≤ state.pc ∧ state.pc ≤ 0x1002

/-- The instruction at the counter skips the next one. -/
def Skips (keys : List Bool) (state : State) : Prop :=
  ¬ state.AtEnd ∧ state.operation.skips state.instruction (state.fetch keys) = true

instance (keys : List Bool) (state : State) : Decidable (state.Skips keys) :=
  inferInstanceAs (Decidable (_ ∧ _))

variable {program : List UInt8} {state : State}

theorem along_ofProgram (program : List UInt8) : (State.ofProgram program).Along program :=
  ⟨rfl, rfl, (by decide : (0x200 : Int) ≤ programStart ∧ (programStart : Int) ≤ 0x1002)⟩

theorem Along.atEnd_iff (along : state.Along program) (formed : state.WellFormed) :
    state.AtEnd ↔ state.pc = 0x1000 ∨ state.pc = 0x1002 := by
  have even := along.even
  have range := along.range
  rw [formed.atEnd_iff]
  omega

theorem Along.straight (along : state.Along program) (formed : state.WellFormed)
    (line : StraightLine program) (inside : ¬ state.AtEnd) :
    state.operation.straight = true := by
  have even := along.even
  have range := along.range
  rw [along.atEnd_iff formed] at inside
  have spelled := line state.pc.toNat (by simp only [programStart]; omega) (by omega) (by omega)
  rwa [← along.memory] at spelled

/-- An instruction of such a program is executed, and leaves the counter behind it or behind the
next one. -/
theorem Along.completed (along : state.Along program) (formed : state.WellFormed)
    (line : StraightLine program) (inside : ¬ state.AtEnd) (keys : List Bool) :
    state.fault? false = none ∧ (state.completed keys).Along program ∧
      (state.completed keys).pc = state.pc + if state.Skips keys then 4 else 2 := by
  have straight := along.straight formed line inside
  have even := along.even
  have range := along.range
  have before : state.pc ≠ 0x1000 ∧ state.pc ≠ 0x1002 := by
    rw [along.atEnd_iff formed] at inside
    omega
  have fetched : state.fetch keys = { state with keys, pc := state.pc + 2 } :=
    formed.fetch_eq inside
  obtain ⟨memory, counter⟩ :=
    Operation.effect_straight state.instruction (state.fetch keys) straight
  have moved : (state.completed keys).pc = state.pc + if state.Skips keys then 4 else 2 := by
    have same : (state.completed keys).pc =
        (state.operation.effect state.instruction (state.fetch keys)).pc := rfl
    have skips : state.Skips keys ↔
        state.operation.skips state.instruction (state.fetch keys) = true :=
      and_iff_right inside
    have behind : (state.fetch keys).pc = state.pc + 2 := by rw [fetched]
    rw [same, counter, behind]
    by_cases skipped : state.Skips keys
    · rw [if_pos skipped, if_pos (skips.mp skipped)]
      omega
    · rw [if_neg skipped, if_neg fun taken => skipped (skips.mpr taken), Int.add_comm]
  refine ⟨?_, ⟨?_, ?_, ?_⟩, moved⟩
  · rw [fault?, if_neg (by simp)]
    exact Operation.refusal_straight straight
  · exact (memory.trans (by rw [fetched])).trans along.memory
  · rw [moved]
    split <;> omega
  · rw [moved]
    split <;> omega

end State

namespace Machine

/-- The cycle executed an instruction that skipped the next one. -/
def Deed.Skips (deed : Deed) : Prop :=
  deed.found.Skips deed.keys

instance : DecidablePred Deed.Skips :=
  fun deed => inferInstanceAs (Decidable (deed.found.Skips deed.keys))

/-- How many of the cycles executed an instruction, where words without an operation are passed
over. -/
def executedCount (made : List Deed) : Nat :=
  made.countP (Deed.Executed false)

def skipCount (made : List Deed) : Nat :=
  made.countP Deed.Skips

theorem executedCount_concat (made : List Deed) (deed : Deed) :
    executedCount (made ++ [deed]) =
      executedCount made + if deed.Executed false then 1 else 0 := by
  simp [executedCount, List.countP_append, List.countP_singleton]

theorem skipCount_concat (made : List Deed) (deed : Deed) :
    skipCount (made ++ [deed]) = skipCount made + if deed.Skips then 1 else 0 := by
  simp [skipCount, List.countP_append, List.countP_singleton]

variable {τ ε α : Type} {config : Config τ} {machine : Machine τ} {state : State}
  {surroundings : Surroundings τ ε} {program : List UInt8} {made : List Deed}

/-- The counter of a machine tells how many instructions of a program were executed and how many
were skipped. -/
structure Walks (program : List UInt8) (made : List Deed) (status : Status) (state : State) : Prop
    extends state.Along program where
  executed : state.cycles = executedCount made
  counter : state.pc = 0x200 + 2 * (executedCount made + skipCount made)
  unskipped : skipCount made = 0 → state.pc ≤ 0x1000
  stage : status = .loaded ∨ status = .running ∨ status = .halted ∧ state.AtEnd

theorem walks_start (program : List UInt8) :
    Walks program [] .loaded (State.ofProgram program) where
  toAlong := State.along_ofProgram program
  executed := rfl
  counter := rfl
  unskipped _ := (by decide : (programStart : Int) ≤ 0x1000)
  stage := .inl rfl

theorem Walks.rested {place rested : Machine τ × ε}
    (walks : Walks program made place.1.status state)
    (resting : Resting surroundings place rested) : Walks program made rested.1.status state :=
  { walks with
    stage := by
      rcases resting.1.status with same | ⟨_, running⟩
      · rw [same]
        exact walks.stage
      · exact .inr (.inl running) }

theorem Walks.counts {status : Status} (walks : Walks program made status state) :
    state.pc = 0x200 + 2 * (state.cycles + skipCount made) := by
  rw [walks.executed]
  exact walks.counter

theorem Walks.halted (walks : Walks program made .halted state) (formed : state.WellFormed) :
    (state.pc = 0x1000 ∨ state.pc = 0x1002) ∧ state.cycles + skipCount made ≤ 1793 ∧
      (skipCount made = 0 → state.cycles = 1792) := by
  have counts := walks.counts
  have atEnd : state.pc = 0x1000 ∨ state.pc = 0x1002 := by
    rcases walks.stage with loaded | running | ⟨_, atEnd⟩
    · cases loaded
    · cases running
    · exact (walks.toAlong.atEnd_iff formed).mp atEnd
  refine ⟨atEnd, by omega, fun unskipped => ?_⟩
  have short : state.pc ≤ 0x1000 := walks.unskipped unskipped
  omega

theorem Walks.cycle {status : Status} (walks : Walks program made status state)
    (formed : state.WellFormed) (line : StraightLine program) (keys : List Bool) :
    Walks program (made ++ [⟨state, keys⟩]) (state.cycle false keys).status
      (state.cycle false keys).state := by
  have executed := walks.executed
  have counter := walks.counter
  have unskipped := walks.unskipped
  by_cases atEnd : state.AtEnd
  · have idle : ¬ Deed.Executed false ⟨state, keys⟩ := fun executed => executed.1 atEnd
    have still : ¬ Deed.Skips ⟨state, keys⟩ := fun skips => skips.1 atEnd
    rw [State.cycle, if_pos atEnd]
    refine ⟨{ walks.toAlong with }, ?_, ?_, ?_, ?_⟩ <;>
      simp only [executedCount_concat, skipCount_concat, if_neg idle, if_neg still, Nat.add_zero]
    · exact executed
    · exact counter
    · exact unskipped
    · exact .inr (.inr ⟨trivial, atEnd⟩)
  · obtain ⟨granted, along, moved⟩ := walks.toAlong.completed formed line atEnd keys
    have busy : Deed.Executed false ⟨state, keys⟩ := ⟨atEnd, granted⟩
    have counted := state.cycles_completed keys
    have before : state.pc ≤ 0xFFE := by
      have even := walks.even
      have range := walks.range
      rw [walks.toAlong.atEnd_iff formed] at atEnd
      omega
    rw [State.cycle, if_neg atEnd, granted]
    refine ⟨along, ?_, ?_, ?_, .inr (.inl rfl)⟩
    · rw [executedCount_concat, if_pos busy, counted, executed]
      omega
    · rw [executedCount_concat, skipCount_concat, if_pos busy, moved]
      by_cases skipped : state.Skips keys
      · rw [if_pos skipped, if_pos (show Deed.Skips ⟨state, keys⟩ from skipped)]
        omega
      · rw [if_neg skipped, if_neg (show ¬ Deed.Skips ⟨state, keys⟩ from skipped)]
        omega
    · rw [skipCount_concat, moved]
      by_cases skipped : state.Skips keys
      · rw [if_pos (show Deed.Skips ⟨state, keys⟩ from skipped)]
        omega
      · rw [if_neg skipped]
        omega

theorem allowance_unlimited (unlimited : config.maxCycles = none)
    (settings : machine.config = config) : allowance machine none = none := by
  rw [allowance, settings, unlimited]
  rfl

variable [TimeScale τ]

/-- Requests that load no other program go on along it. -/
theorem Walks.serve (shared : config.timerRate = none) (permissive : config.strict = false)
    (sixteen : ∀ world, (surroundings.poll world).1.length = 16) (line : StraightLine program)
    {requests : List Request} (plays : ∀ request ∈ requests, ∀ program, request ≠ .load program)
    {place : Machine τ × ε} (sound : place.1.Sound config) (present : place.1.state = some state)
    (walks : Walks program made place.1.status state) :
    ∃ after, (Machine.serve surroundings requests place).1.state = some after ∧
      Walks program (made ++ deeds surroundings requests place)
        (Machine.serve surroundings requests place).1.status after := by
  let tracks (first : Machine τ × ε) (more : List Deed) (second : Machine τ × ε) : Prop :=
    ∀ made state, first.1.state = some state → Walks program made first.1.status state →
      ∃ after, second.1.state = some after ∧
        Walks program (made ++ more) second.1.status after
  have append {first second third : Machine τ × ε} {more rest : List Deed}
      (before : tracks first more second) (after : tracks second rest third) :
      tracks first (more ++ rest) third := by
    intro made state present walks
    obtain ⟨between, present', walks'⟩ := before made state present walks
    rw [← List.append_assoc]
    exact after _ between present' walks'
  have rest {before after : Machine τ × ε} (resting : Resting surroundings before after) :
      tracks before [] after := by
    intro made state present walks
    rw [List.append_nil]
    exact ⟨state, resting.1.state.trans present, walks.rested resting⟩
  have cycle {deed : Deed} {before after : Machine τ × ε}
      (makes : Makes surroundings config deed before after) : tracks before [deed] after := by
    intro made state present walks
    obtain rfl : deed.found = state := Option.some.inj (makes.found.symm.trans present)
    have formed := makes.sound.formed deed.found present
    have next := walks.cycle formed line deed.keys
    rw [← permissive, ← makes.status] at next
    exact ⟨_, makes.state, next⟩
  exact (tracking_deeds shared sixteen append rest cycle).serve plays sound made state present walks

/-- How a run along such a program ends that begins in a state: in a halt, or, when an instruction
was executed first, where the pause after a cycle could not be made. -/
inductive StraightEnd (surroundings : Surroundings τ ε) (config : Config τ) (state : State)
    (finished : α → Prop) : EStateM.Result Error (Machine τ × ε) α → Prop where
  | halt {answer : α} {reached : Machine τ × ε} (through : finished answer)
      (halted : reached.1.status = .halted) :
      StraightEnd surroundings config state finished (.ok answer reached)
  | unpaced {error : Error} {reached place : Machine τ × ε} {cycleStart : τ}
      (running : reached.1.status = .running) (inside : ¬ state.AtEnd)
      (settings : place.1.config = config)
      (refused : (pace surroundings cycleStart).run place = .error error reached) :
      StraightEnd surroundings config state finished (.error error reached)

theorem StraightEnd.later {next : State} {finished : α → Prop}
    {result : EStateM.Result Error (Machine τ × ε) α}
    (ends : StraightEnd surroundings config next finished result) (inside : ¬ state.AtEnd) :
    StraightEnd surroundings config state finished result := by
  cases ends with
  | halt through halted => exact .halt through halted
  | unpaced running _ settings refused => exact .unpaced running inside settings refused

theorem StraightEnd.blames {finished : α → Prop} {error : Error} {reached : Machine τ × ε}
    (ends : StraightEnd surroundings config state finished (.error error reached))
    (paceable : Paceable surroundings config) :
    ¬ state.AtEnd ∧ ∃ cause, config.cyclePeriod = .error cause ∧ error = .number cause := by
  cases ends with
  | unpaced running inside settings refused =>
    refine ⟨inside, ?_⟩
    cases known : config.cyclePeriod with
    | ok period =>
      obtain ⟨paced, made⟩ := paceable period known _ _ settings
      rw [refused] at made
      cases made
    | error cause =>
      rw [pace_unpaced surroundings _ (by rw [settings, known])] at refused
      cases refused
      exact ⟨cause, rfl, rfl⟩

variable {count : ε → Nat} {script : Nat → List Bool}

/-- Each turn brings the counter forward, so fuel for the rest of memory brings cycles to their
end. -/
theorem cycles_straight (onlooking : surroundings.Onlooking count script)
    (reliable : surroundings.Reliable) (shared : config.timerRate = none)
    (permissive : config.strict = false) (line : StraightLine program) {fuel : Nat}
    {place : Machine τ × ε} (sound : place.1.Sound config) (unstopped : place.1.Unstopped)
    (present : place.1.state = some state) (along : state.Along program)
    (running : place.1.status = .running) (enough : 0x1002 ≤ state.pc + 2 * fuel)
    (some : 1 ≤ fuel) :
    StraightEnd surroundings config state (· = true)
      ((cycles surroundings fuel none).run place) := by
  induction fuel generalizing place state with
  | zero => omega
  | succ fuel ih =>
    have more : goesOn place.1 none = true := by
      simp [goesOn, running, show place.1.stopping = false from unstopped]
    have formed := sound.formed state present
    obtain ⟨cycleStart, keys, after, turned, settings, status, kept⟩ :=
      run_turn_cycle reliable shared sound present running
    have turns := unstopped_turn onlooking reliable.toQuiet shared place ⟨sound, unstopped⟩
    rw [run_cycles_succ, if_pos more]
    rw [permissive] at turned status kept
    by_cases atEnd : state.AtEnd
    · rw [State.cycle, if_pos atEnd] at status
      rw [turned, State.error?_atEnd false atEnd]
      simp only [status, reduceCtorEq, if_false]
      rw [run_cycles_over surroundings fuel (by simp [goesOn, status])]
      exact .halt rfl status
    · obtain ⟨granted, along', moved⟩ := along.completed formed line atEnd keys
      have before : state.pc ≤ 0xFFE := by
        have even := along.even
        have range := along.range
        rw [along.atEnd_iff formed] at atEnd
        omega
      rw [State.cycle, if_neg atEnd, granted] at status kept
      rw [State.error?_granted atEnd granted] at turned
      simp only [status, if_true] at turned
      have rested := idles_pace surroundings cycleStart after
      rw [turned] at turns ⊢
      cases paced : (pace surroundings cycleStart).run after with
      | error error next =>
        rw [paced] at rested
        exact .unpaced (rested.1.running status) atEnd settings paced
      | ok _ next =>
        rw [paced] at rested turns
        have further : 0x1002 ≤ (state.completed keys).pc + 2 * fuel := by
          rw [moved]
          split <;> omega
        have rest := ih turns.1 turns.2 (rested.1.state.trans kept) along'
          (rested.1.running status) further (by omega)
        exact rest.later atEnd

theorem run_straight (onlooking : surroundings.Onlooking count script)
    (reliable : surroundings.Reliable) (shared : config.timerRate = none)
    (permissive : config.strict = false) (unlimited : config.maxCycles = none)
    (line : StraightLine program) (sound : machine.Sound config)
    (present : machine.state = some state) (along : state.Along program)
    (ready : machine.status = .loaded ∨ machine.status = .running) (world : ε) {fuel : Nat}
    (enough : 1793 ≤ fuel) :
    StraightEnd surroundings config state (fun kept => kept.isSome)
      ((run surroundings fuel none).run (machine, world)) := by
  obtain ⟨begun, begins, rests, unstopped, started⟩ := run_beginRun reliable world present
  have sound' := sound.rested rests
  have range := along.range
  have ends := cycles_straight onlooking reliable shared permissive line sound' unstopped
    (rests.state.trans present) along (started ready) (show 0x1002 ≤ state.pc + 2 * fuel by omega)
    (by omega)
  simp only [run_run, begins, allowance_unlimited unlimited sound'.settings]
  cases outcome : (cycles surroundings fuel none).run begun with
  | error error ended =>
    rw [outcome] at ends
    cases ends with
    | unpaced running inside settings refused => exact .unpaced running inside settings refused
  | ok finished ended =>
    rw [outcome] at ends
    cases ends with
    | halt through halted =>
      rw [through]
      exact .halt rfl halted

theorem run_straight_halted (reliable : surroundings.Reliable)
    (present : machine.state = some state) (halted : machine.status = .halted) (world : ε)
    (fuel : Nat) (limit : Option Int) :
    StraightEnd surroundings config state (fun kept => kept.isSome)
      ((run surroundings fuel limit).run (machine, world)) := by
  obtain ⟨now, answered⟩ := reliable.clock world
  rw [run_over surroundings world present (.inl halted), answered]
  exact .halt rfl halted

/-- Where the length of a pause cannot be computed, the first one ends the run, behind an
instruction that is executed and counted. -/
theorem run_straight_unpaced (reliable : surroundings.Reliable) (shared : config.timerRate = none)
    (permissive : config.strict = false) (unlimited : config.maxCycles = none)
    (line : StraightLine program) (sound : machine.Sound config)
    (present : machine.state = some state) (along : state.Along program)
    (ready : machine.status = .loaded ∨ machine.status = .running) (world : ε) {fuel : Nat}
    (enough : 1 ≤ fuel) (inside : ¬ state.AtEnd) {cause : NumberError}
    (unpaced : config.cyclePeriod = .error cause) :
    verdict ((run surroundings fuel none).run (machine, world)) = .error (.number cause) := by
  obtain ⟨begun, begins, rests, unstopped, started⟩ := run_beginRun reliable world present
  have sound' := sound.rested rests
  have formed := sound.formed state present
  have running := started ready
  obtain ⟨cycleStart, keys, after, turned, settings, status, _⟩ :=
    run_turn_cycle reliable shared sound' (rests.state.trans present) running
  obtain ⟨granted, _⟩ := along.completed formed line inside keys
  rw [permissive] at turned status
  rw [State.cycle, if_neg inside, granted] at status
  have refused := pace_unpaced surroundings cycleStart (settings ▸ unpaced)
  simp only [State.error?_granted inside granted, status, if_true, refused] at turned
  have more : goesOn begun.1 none = true := by
    simp [goesOn, running, show begun.1.stopping = false from unstopped]
  obtain ⟨fuel, rfl⟩ : ∃ rest, fuel = rest + 1 := ⟨fuel - 1, by omega⟩
  simp only [run_run, begins, allowance_unlimited unlimited sound'.settings, run_cycles_succ,
    if_pos more, turned]
  rfl

theorem Walks.run_ends (walks : Walks program made machine.status state)
    (onlooking : surroundings.Onlooking count script) (reliable : surroundings.Reliable)
    (shared : config.timerRate = none) (permissive : config.strict = false)
    (unlimited : config.maxCycles = none) (line : StraightLine program)
    (sound : machine.Sound config) (present : machine.state = some state) (world : ε) {fuel : Nat}
    (enough : 1793 ≤ fuel) :
    StraightEnd surroundings config state (fun kept => kept.isSome)
      ((run surroundings fuel none).run (machine, world)) := by
  rcases walks.stage with loaded | running | ⟨halted, _⟩
  · exact run_straight onlooking reliable shared permissive unlimited line sound present
      walks.toAlong (.inl loaded) world enough
  · exact run_straight onlooking reliable shared permissive unlimited line sound present
      walks.toAlong (.inr running) world enough
  · exact run_straight_halted reliable present halted world fuel none

theorem Walks.run_fails (walks : Walks program made machine.status state)
    (onlooking : surroundings.Onlooking count script) (reliable : surroundings.Reliable)
    (shared : config.timerRate = none) (permissive : config.strict = false)
    (unlimited : config.maxCycles = none) (line : StraightLine program)
    (sound : machine.Sound config) (present : machine.state = some state) (world : ε) {fuel : Nat}
    (enough : 1793 ≤ fuel) (paceable : Paceable surroundings config) (error : Error) :
    verdict ((run surroundings fuel none).run (machine, world)) = .error error ↔
      ¬ state.AtEnd ∧ ∃ cause, config.cyclePeriod = .error cause ∧ error = .number cause := by
  constructor
  · intro failed
    have ends := walks.run_ends onlooking reliable shared permissive unlimited line sound present
      world enough
    cases outcome : (run surroundings fuel none).run (machine, world) with
    | ok answer place => simp [outcome, verdict] at failed
    | error other place =>
      rw [outcome] at ends failed
      cases failed
      exact ends.blames paceable
  · rintro ⟨inside, cause, unpaced, rfl⟩
    have ready : machine.status = .loaded ∨ machine.status = .running := by
      rcases walks.stage with loaded | running | ⟨_, atEnd⟩
      · exact .inl loaded
      · exact .inr running
      · exact absurd atEnd inside
    exact run_straight_unpaced reliable shared permissive unlimited line sound present
      walks.toAlong ready world (by omega) inside unpaced

/-- A program of words that go on to the next or skip it runs to the end of memory, however it was
begun, unless a pause cannot be made. The counter tells how many instructions were executed and how
many skips were taken. -/
theorem straight_line_halts (reachable : Reachable config machine)
    (shared : config.timerRate = none) (permissive : config.strict = false)
    (unlimited : config.maxCycles = none) (onlooking : surroundings.Onlooking count script)
    (reliable : surroundings.Reliable) (line : StraightLine program) (world : ε)
    {requests : List Request} (plays : ∀ request ∈ requests, ∀ program, request ≠ .load program)
    {fuel : Nat} (enough : 1793 ≤ fuel) :
    let loaded := (Request.load program).serve surroundings (machine, world)
    let before := Machine.serve surroundings requests loaded
    let result := (run surroundings fuel none).run before
    let made := deeds surroundings (requests ++ [.run fuel none]) loaded
    ∃ state, (left result).1.state = some state ∧ state.cycles = executedCount made ∧
      state.pc = 0x200 + 2 * (state.cycles + skipCount made) ∧
      ((∃ kept, verdict result = .ok (some kept)) ∧ (left result).1.status = .halted ∧
          (state.pc = 0x1000 ∨ state.pc = 0x1002) ∧ state.cycles + skipCount made ≤ 1793 ∧
          (skipCount made = 0 → state.cycles = 1792) ∨
        (left result).1.status = .running ∧ ∃ error cycleStart place,
          verdict result = .error error ∧ place.1.config = config ∧
          (pace surroundings cycleStart).run place = .error error (left result)) ∧
      (Paceable surroundings config → ∀ error, verdict result = .error error ↔
        (∃ state, before.1.state = some state ∧ ¬ state.AtEnd) ∧
          ∃ cause, config.cyclePeriod = .error cause ∧ error = .number cause) := by
  intro loaded before result made
  obtain ⟨bytes, same⟩ := serve_load surroundings program (machine, world)
  have sound : loaded.1.Sound config :=
    keeps_call surroundings (.load program) (machine, world) reachable.sound
  have fresh : loaded.1.state = some (State.ofProgram program) := congrArg Machine.state same
  have status : loaded.1.status = .loaded := congrArg Machine.status same
  have start : Walks program [] loaded.1.status (State.ofProgram program) := by
    rw [status]
    exact walks_start program
  have plays' : ∀ request ∈ requests ++ [.run fuel none], ∀ program, request ≠ .load program := by
    intro request member
    rcases List.mem_append.mp member with earlier | last
    · exact plays request earlier
    · simp [List.mem_singleton.mp last]
  have served : Machine.serve surroundings (requests ++ [.run fuel none]) loaded = left result := by
    rw [Machine.serve, List.foldl_append]
    exact serve_run surroundings fuel none before
  have kept : before.1.Sound config := sound_serve surroundings requests sound
  have ended : (left result).1.Sound config := by
    rw [← served]
    exact sound_serve surroundings _ sound
  -- Once up to the last run, which tells how that run ends, and once more behind it.
  obtain ⟨middle, present, walks⟩ :=
    start.serve shared permissive reliable.keys line plays sound fresh
  obtain ⟨state, reached, walked⟩ :=
    start.serve shared permissive reliable.keys line plays' sound fresh
  rw [served] at reached walked
  rw [List.nil_append] at walks walked
  have ends : StraightEnd surroundings config middle (fun kept => kept.isSome) result :=
    walks.run_ends onlooking reliable shared permissive unlimited line kept present before.2 enough
  refine ⟨state, reached, walked.executed, walked.counts, ?_, ?_⟩
  · cases outcome : result with
    | error error place =>
      rw [outcome] at ends
      cases ends with
      | unpaced running _ settings refused =>
        exact .inr ⟨running, error, _, _, rfl, settings, refused⟩
    | ok answer place =>
      rw [outcome] at ends walked
      cases ends with
      | halt through halted =>
        have halted : (left result).1.status = .halted := by rw [outcome]; exact halted
        rw [← outcome, halted] at walked
        obtain ⟨kept, rfl⟩ := Option.isSome_iff_exists.mp through
        exact .inl ⟨⟨kept, rfl⟩, outcome ▸ halted, walked.halted (ended.formed state reached)⟩
  · intro paceable error
    have fails := walks.run_fails onlooking reliable shared permissive unlimited line kept present
      before.2 enough paceable error
    constructor
    · intro failed
      obtain ⟨inside, unknown⟩ := fails.mp failed
      exact ⟨⟨middle, present, inside⟩, unknown⟩
    · rintro ⟨⟨found, present', inside⟩, unknown⟩
      obtain rfl : middle = found := Option.some.inj (present.symm.trans present')
      exact fails.mpr ⟨inside, unknown⟩

theorem paceable_free (free : config.rate = none)
    (still : TimeScale.isNonPositive (TimeScale.zero : τ) = true) :
    Paceable surroundings config := by
  intro period known cycleStart ⟨machine, world⟩ settings
  have settings : machine.config = config := settings
  have known' : config.cyclePeriod = .ok TimeScale.zero := by rw [Config.cyclePeriod, free]
  refine ⟨(machine, world), ?_⟩
  simp only [pace, EStateM.run_bind, run_read, settings, known', number, EStateM.run_pure, still,
    Bool.not_true, Bool.false_eq_true, if_false]

/-- A program of three words and a half, whose second skips the third. Without a rate it halts, at a
rate too large for the computer's numbers it does not. -/
theorem straight_line_halts_odd :
    let program : List UInt8 := [0x60, 0x05, 0x30, 0x05, 0x70, 0x01, 0x30]
    let free : Config Quantity := { Config.standard with rate := none }
    let paced : Config Quantity := { Config.standard with rate := some (.whole (1 <<< 1024)) }
    let surroundings : Surroundings Quantity Nat := .scripted fun _ => Keypad.released.held
    let begun (config : Config Quantity) :=
      serve surroundings [.step] ((Request.load program).serve surroundings (.idle config, 0))
    (∃ kept state, let result := (run surroundings 1793 none).run (begun free)
      verdict result = .ok (some kept) ∧ (left result).1.status = .halted ∧
        (left result).1.state = some state ∧ (state.pc = 0x1000 ∨ state.pc = 0x1002)) ∧
      ∃ cause,
        verdict ((run surroundings 1793 none).run (begun paced)) = .error (.number cause) := by
  intro program free paced surroundings begun
  have line : StraightLine program := straightLine_of_words (by decide +kernel)
  have created (config : Config Quantity) (same : config = free ∨ config = paced) :
      Reachable config (Machine.idle config) := by
    rcases same with rfl | rfl <;> exact .created rfl rfl
  have reliable : surroundings.Reliable := Surroundings.reliable_scripted fun _ => rfl
  have onlooking : surroundings.Onlooking id fun _ => Keypad.released.held :=
    Surroundings.onlooking_scripted _
  have plays : ∀ request ∈ [Request.step], ∀ program, request ≠ .load program := by simp
  constructor
  · obtain ⟨state, present, _, _, ends, unpaced⟩ := straight_line_halts (created free (.inl rfl))
      rfl rfl rfl onlooking reliable line 0 plays (Nat.le_refl 1793)
    have paceable : Paceable surroundings free := paceable_free rfl (by decide +kernel)
    rcases ends with ⟨⟨kept, answered⟩, halted, atEnd, _⟩ | ⟨_, error, _, _, failed, _⟩
    · exact ⟨kept, state, answered, halted, present, atEnd⟩
    · obtain ⟨_, cause, unknown, _⟩ := (unpaced paceable error).mp failed
      cases unknown
  · obtain ⟨_, _, _, _, _, unpaced⟩ := straight_line_halts (created paced (.inr rfl))
      rfl rfl rfl onlooking reliable line 0 plays (Nat.le_refl 1793)
    obtain ⟨cause, unknown⟩ : ∃ cause, paced.cyclePeriod = .error cause := by
      cases known : paced.cyclePeriod with
      | ok period =>
        have refused : (paced.cyclePeriod matches .error _) = true := by decide +kernel
        simp [known] at refused
      | error cause => exact ⟨cause, rfl⟩
    have paceable : Paceable surroundings paced := by
      intro period known
      simp [unknown] at known
    refine ⟨cause, (unpaced paceable _).mpr ⟨?_, cause, unknown, rfl⟩⟩
    have facts : (begun paced).1.state.map (fun state => decide state.AtEnd) = some false := by
      decide +kernel
    obtain ⟨state, present, inside⟩ := Option.map_eq_some_iff.mp facts
    exact ⟨state, present, of_decide_eq_false inside⟩

end Machine

end ChipEight
