import ChipEight.Proofs.Footprints
import ChipEight.Proofs.Waiting

namespace ChipEight

namespace State

variable {state : State} {keys : List Bool} {strict : Bool}

theorem WellFormed.executed_confined (formed : state.WellFormed) (inside : ¬ state.AtEnd)
    (sixteen : keys.length = 16) (granted : state.fault? strict = none) :
    Confined state.word (state.fetch keys) (state.executed keys) := by
  have fetched := (formed.fetch inside sixteen).toWellFormed
  have full := fetched.memory.2.trans fetched.memory.1.symm
  have spelled (known : state.operation ≠ .unknown) :=
    (Instruction.operation_eq (state.memory.wordAt_lt _) known).mp rfl
  have granted' := refusal_of_granted keys granted
  exact { Operation.effect_confined fetched.shaped full spelled granted' with }

theorem WellFormed.register_readDelay (formed : state.WellFormed)
    (reads : Instruction.Spells state.word .readDelay) (keys : List Bool) :
    (state.completed keys).register (state.word / 0x100 % 0x10) = state.delayTimer := by
  have x : state.instruction.x = state.word / 0x100 % 0x10 := Instruction.x_ofWord state.word
  have inside : state.instruction.x < (state.fetch keys).registers.length := by
    rw [show (state.fetch keys).registers.length = 16 from formed.registerCount]
    exact state.instruction.x_lt
  have loaded := register_setRegister inside state.delayTimer (state.word / 0x100 % 0x10)
  rw [if_pos x] at loaded
  rw [State.completed, State.executed, operation_of_spells reads]
  exact loaded

end State

namespace Machine

/-- What the register holds that the word of a cycle names. -/
def Deed.operand (deed : Deed) : Int :=
  deed.found.register (deed.found.word / 0x100 % 0x10)

/-- The cycle found an instruction of this operation. -/
def Deed.Performs (deed : Deed) (operation : Operation) : Prop :=
  Instruction.Spells deed.found.word operation

/-- What a timer shows after these cycles, if instructions of this operation set it: it counts down
from the register that the last of them named, and from nothing if there was none. -/
inductive RunsDown (setting : Operation) (executed : List Deed) : Int → Prop where
  | unset (never : ∀ deed ∈ executed, ¬ deed.Performs setting) : RunsDown setting executed 0
  | set {deed : Deed} (place : Nat) (found : executed[place]? = some deed)
      (sets : deed.Performs setting)
      (last : ∀ later other, place < later → executed[later]? = some other →
        ¬ other.Performs setting) :
      RunsDown setting executed (max 0 (deed.operand - (executed.length - place)))

namespace RunsDown

variable {setting : Operation} {executed : List Deed} {deed : Deed} {value set : Int}

theorem next_set (sets : deed.Performs setting) :
    RunsDown setting (executed ++ [deed]) (max 0 (deed.operand - 1)) := by
  have found : (executed ++ [deed])[executed.length]? = some deed := by simp
  have runs := RunsDown.set executed.length found sets fun later other past beyond => by
    have inside := (List.getElem?_eq_some_iff.mp beyond).1
    simp only [List.length_append, List.length_singleton] at inside
    omega
  have one : ((executed ++ [deed]).length : Int) - executed.length = 1 := by
    simp only [List.length_append, List.length_singleton]
    omega
  rwa [one] at runs

theorem next_other (runs : RunsDown setting executed value) (other : ¬ deed.Performs setting) :
    RunsDown setting (executed ++ [deed]) (max 0 (value - 1)) := by
  cases runs with
  | unset never =>
    refine .unset fun one member => ?_
    rcases List.mem_append.mp member with old | new
    · exact never one old
    · rwa [List.mem_singleton.mp new]
  | @set setter place found sets last =>
    have inside := (List.getElem?_eq_some_iff.mp found).1
    have found' : (executed ++ [deed])[place]? = some setter := by
      rw [List.getElem?_append_left inside, found]
    have runs' := RunsDown.set place found' sets fun later one past beyond => by
      rcases Nat.lt_trichotomy later executed.length with old | new | outside
      · rw [List.getElem?_append_left old] at beyond
        exact last later one past beyond
      · rw [new, List.getElem?_append_right (Nat.le_refl _), Nat.sub_self] at beyond
        obtain rfl : deed = one := Option.some.inj beyond
        exact other
      · rw [List.getElem?_eq_none (by simp; omega)] at beyond
        cases beyond
    have less : max 0 (max 0 (setter.operand - (executed.length - place)) - 1) =
        max 0 (setter.operand - ((executed ++ [deed]).length - place)) := by
      simp only [List.length_append, List.length_singleton]
      omega
    rwa [less]

/-- One more instruction, which may set the timer, and then a tick. -/
theorem next (runs : RunsDown setting executed value)
    (sets : deed.Performs setting → set = deed.operand)
    (keeps : ¬ deed.Performs setting → set = value) (low : 0 ≤ set) :
    RunsDown setting (executed ++ [deed]) (if 0 < set then set - 1 else set) := by
  have ticked : (if 0 < set then set - 1 else set) = max 0 (set - 1) := by
    split <;> omega
  rw [ticked]
  by_cases performs : deed.Performs setting
  · rw [sets performs]
    exact next_set performs
  · rw [keeps performs]
    exact runs.next_other performs

end RunsDown

/-- The count of cycles and both timers are told by the cycles that were executed. -/
structure CountsDown (executed : List Deed) (state : State) : Prop where
  cycles : state.cycles = executed.length
  delay : RunsDown .setDelay executed state.delayTimer
  sound : RunsDown .setSound executed state.soundTimer

variable {executed : List Deed} {state current start : State} {keys : List Bool} {strict : Bool}

theorem CountsDown.completed (counts : CountsDown executed state) (formed : state.WellFormed)
    (done : Deed.Executed strict ⟨state, keys⟩) (sixteen : keys.length = 16) :
    CountsDown (executed ++ [⟨state, keys⟩]) (state.completed keys) := by
  have confined := formed.executed_confined done.1 sixteen done.2
  have formed' := formed.executed done.1 sixteen done.2
  have delay := (State.fits_iff.mp formed'.timers.1).1
  have sound := (State.fits_iff.mp formed'.timers.2).1
  have x : state.instruction.x = state.word / 0x100 % 0x10 := Instruction.x_ofWord state.word
  constructor
  · rw [State.cycles_completed, counts.cycles]
    simp
  · refine counts.delay.next (fun sets => ?_) confined.delay delay
    rw [State.executed, State.operation_of_spells sets, Deed.operand, ← x]
    rfl
  · refine counts.sound.next (fun sets => ?_) confined.sound sound
    rw [State.executed, State.operation_of_spells sets, Deed.operand, ← x]
    rfl

/-- From one state to another by executed instructions, given by the cycles that executed them, with
one tick after each. -/
inductive Cadence (strict : Bool) (start : State) : List Deed → State → Prop where
  | start : Cadence strict start [] start
  | next {executed : List Deed} {state : State} {keys : List Bool}
      (before : Cadence strict start executed state) (done : Deed.Executed strict ⟨state, keys⟩)
      (sixteen : keys.length = 16) :
      Cadence strict start (executed ++ [⟨state, keys⟩]) (state.completed keys)

namespace Cadence

theorem wellFormed (cadence : Cadence strict start executed current)
    (formed : start.WellFormed) : current.WellFormed := by
  induction cadence with
  | start => exact formed
  | next _ done sixteen ih => exact (ih.executed done.1 sixteen done.2).tick

theorem step (cadence : Cadence strict start executed current) {place : Nat} {deed : Deed}
    (found : executed[place]? = some deed) :
    Cadence strict start (executed.take place) deed.found ∧ deed.Executed strict ∧
      deed.keys.length = 16 ∧
      (executed.map Deed.found ++ [current])[place + 1]? =
        some (deed.found.completed deed.keys) := by
  induction cadence with
  | start => cases found
  | @next executed state keys before done sixteen ih =>
    rcases Nat.lt_trichotomy place executed.length with old | last | outside
    · rw [List.getElem?_append_left old] at found
      obtain ⟨before', done', sixteen', left⟩ := ih found
      rw [List.take_append_of_le_length (Nat.le_of_lt old), List.map_append,
        List.getElem?_append_left (by simp; omega)]
      exact ⟨before', done', sixteen', left⟩
    · subst last
      obtain rfl : ⟨state, keys⟩ = deed := by simpa using found
      rw [List.take_left' rfl, List.getElem?_append_right (by simp)]
      exact ⟨before, done, sixteen, by simp⟩
    · rw [List.getElem?_eq_none (by simp; omega)] at found
      cases found

theorem countsDown (cadence : Cadence strict start executed current)
    (formed : start.WellFormed) (fresh : CountsDown [] start) : CountsDown executed current := by
  induction cadence with
  | start => exact fresh
  | next before done sixteen ih => exact ih.completed (before.wellFormed formed) done sixteen

theorem told (cadence : Cadence strict start executed current) (formed : start.WellFormed)
    (fresh : CountsDown [] start) {place : Nat} {deed : Deed}
    (found : executed[place]? = some deed) :
    ∃ after, (executed.map Deed.found ++ [current])[place + 1]? = some after ∧
      CountsDown (executed.take (place + 1)) after ∧
      (deed.Performs .readDelay → RunsDown .setDelay (executed.take place)
        (after.register (deed.found.word / 0x100 % 0x10))) := by
  obtain ⟨before, done, sixteen, next⟩ := cadence.step found
  have formed' := before.wellFormed formed
  have counts := before.countsDown formed fresh
  refine ⟨_, next, ?_, fun performs => ?_⟩
  · rw [List.take_add_one, found]
    exact counts.completed formed' done sixteen
  · rw [formed'.register_readDelay performs]
    exact counts.delay

end Cadence

variable {τ ε : Type} {config : Config τ} {machine : Machine τ} {surroundings : Surroundings τ ε}

/-- The machine stands where these cycles have led it. -/
def Lived (strict : Bool) (start : State) (executed : List Deed) (machine : Machine τ) : Prop :=
  machine.config.strict = strict ∧
    ∃ current, Cadence strict start executed current ∧ Stands current machine

theorem Lived.rested {rested : Machine τ} (lived : machine.Lived strict start executed)
    (rests : machine.Rests rested) : rested.Lived strict start executed := by
  obtain ⟨setting, current, cadence, stands⟩ := lived
  exact ⟨by rw [rests.config, setting], current, cadence, stands.rested rests⟩

theorem CountsDown.stands {current : State} (counts : CountsDown executed current)
    (stands : Stands current machine) :
    ∃ state, machine.state = some state ∧ CountsDown executed state := by
  cases stands with
  | ready _ present => exact ⟨current, present, counts⟩
  | halted _ _ present => exact ⟨_, present, { counts with }⟩
  | @faulted keys _ _ _ _ _ present =>
    refine ⟨_, present, ?_⟩
    rw [State.failed_eq]
    exact { counts with }

variable [TimeScale τ]

/-- A cycle that executes an instruction is one more of them; any other ends the life. -/
theorem Lived.cycle {before after : Machine τ × ε} {deed : Deed}
    (lived : before.1.Lived strict start executed) (made : deed? surroundings before = some deed)
    (makes : Makes surroundings config deed before after) (sound : after.1.Sound config)
    (setting : config.strict = strict) :
    after.1.Lived strict start (executed ++ [deed].filter (Deed.Executed strict)) := by
  obtain ⟨present, ready, taken⟩ := deed?_eq_some made
  obtain ⟨_, current, cadence, stands⟩ := lived
  have kept : after.1.config.strict = strict := by rw [sound.settings, setting]
  have sixteen (inside : ¬ deed.found.AtEnd) : deed.keys.length = 16 :=
    Decidable.not_not.mp fun short => taken ⟨inside, short⟩
  obtain rfl : deed.found = current := by
    cases stands with
    | ready _ present' => exact Option.some.inj (present.symm.trans present')
    | halted status => simp [status] at ready
    | faulted status => simp [status] at ready
  have left := makes.state
  have status := makes.status
  rw [setting] at left status
  refine ⟨kept, ?_⟩
  rcases deed.cycle_cases strict with
    ⟨atEnd, unexecuted, same⟩ | ⟨done, once, same⟩ | ⟨cause, inside, refused, unexecuted, same⟩
  · rw [same] at left status
    rw [unexecuted, List.append_nil]
    exact ⟨deed.found, cadence, .halted status atEnd left⟩
  · rw [same] at left status
    rw [once]
    exact ⟨_, cadence.next done (sixteen done.1), .ready (.inr status) left⟩
  · rw [same] at left status
    rw [unexecuted, List.append_nil]
    exact ⟨_, cadence, .faulted status inside (kept.symm ▸ refused) (sixteen inside) left⟩

/-- Requests go on with the life, by the cycles that they come to. -/
theorem lived_serve (shared : config.timerRate = none) {requests : List Request}
    (plays : ∀ request ∈ requests, ∀ program, request ≠ .load program) {place : Machine τ × ε}
    (sound : place.1.Sound config) (lived : place.1.Lived config.strict start executed) :
    (serve surroundings requests place).1.Lived config.strict start
      (executed ++ (deeds surroundings requests place).filter (Deed.Executed config.strict)) := by
  let tracks (first : Machine τ × ε) (made : List Deed) (second : Machine τ × ε) : Prop :=
    ∀ executed, first.1.Lived config.strict start executed →
      second.1.Lived config.strict start (executed ++ made.filter (Deed.Executed config.strict))
  have tracking : Tracking surroundings config (fun here => (deed? surroundings here).toList)
      tracks := by
    refine ⟨?_, ?_, ?_⟩
    · intro first second third made more before after executed lived
      rw [List.filter_append, ← List.append_assoc]
      exact after _ (before executed lived)
    · intro before after resting executed lived
      rw [List.filter_nil, List.append_nil]
      exact lived.rested resting.1
    · intro here sound executed lived
      have sound' := keeps_step surroundings here sound
      cases made : deed? surroundings here with
      | none =>
        rw [Option.toList_none, List.filter_nil, List.append_nil]
        exact lived.rested (left_deedless sound made).1
      | some deed => exact lived.cycle made (makes_step sound shared made) sound' rfl
  exact tracking.serve plays sound executed lived

theorem formed_of_mem_deeds {requests : List Request}
    (plays : ∀ request ∈ requests, ∀ program, request ≠ .load program) {place : Machine τ × ε}
    (sound : place.1.Sound config) {deed : Deed}
    (member : deed ∈ deeds surroundings requests place) :
    deed.found.WellFormed := by
  have tracking : Tracking surroundings config (fun here => (deed? surroundings here).toList)
      fun _ made _ => ∀ deed ∈ made, deed.found.WellFormed := by
    refine ⟨fun first second => List.forall_mem_append.mpr ⟨first, second⟩, fun _ => by simp, ?_⟩
    intro here sound deed member
    have made := Option.mem_toList.mp member
    exact sound.formed _ (deed?_eq_some made).1
  exact tracking.serve plays sound deed member

/-- The timers at the shared cadence, in closed form: the cycles that were executed since the
program was loaded tell the count and both timers, after each of them and where one reads the delay
timer. -/
theorem timers_count_down (reachable : Reachable config machine) (shared : config.timerRate = none)
    (surroundings : Surroundings τ ε) (world : ε) (program : List UInt8) {requests : List Request}
    (plays : ∀ request ∈ requests, ∀ program, request ≠ .load program) :
    let loaded := (Request.load program).serve surroundings (machine, world)
    let served := (serve surroundings requests loaded).1
    let made := deeds surroundings requests loaded
    let executed := made.filter (Deed.Executed config.strict)
    (∀ deed ∈ made, deed.Waits → deed ∈ executed) ∧
    ∃ current state, Stands current served ∧ served.state = some state ∧
      CountsDown executed current ∧ CountsDown executed state ∧
      ∀ n deed, executed[n]? = some deed →
        ∃ after, (executed.map Deed.found ++ [current])[n + 1]? = some after ∧
          CountsDown (executed.take (n + 1)) after ∧
          (deed.Performs .readDelay → RunsDown .setDelay (executed.take n)
            (after.register (deed.found.word / 0x100 % 0x10))) := by
  intro loaded served made executed
  obtain ⟨bytes, same⟩ := serve_load surroundings program (machine, world)
  have sound := reachable.sound
  have kept : loaded.1.Sound config :=
    keeps_call surroundings (.load program) (machine, world) sound
  have present : loaded.1.state = some (State.ofProgram program) := congrArg Machine.state same
  have status : loaded.1.status = .loaded := congrArg Machine.status same
  have started : loaded.1.Lived config.strict (State.ofProgram program) [] :=
    ⟨by rw [kept.settings], _, .start, .ready (.inl status) present⟩
  have fresh : CountsDown [] (State.ofProgram program) := ⟨rfl, .unset nofun, .unset nofun⟩
  have formed := State.WellFormed.ofProgram program
  have lived : served.Lived config.strict (State.ofProgram program) executed :=
    lived_serve shared plays kept started
  obtain ⟨_, current, cadence, stands⟩ := lived
  refine ⟨?_, ?_⟩
  · intro deed member waits
    have formed := formed_of_mem_deeds plays kept member
    have done : deed.Executed config.strict :=
      ⟨formed.inside_of_awaits waits.1, State.granted_of_awaits waits.1⟩
    exact List.mem_filter.mpr ⟨member, by simpa using done⟩
  · have counts := cadence.countsDown formed fresh
    obtain ⟨state, present, counts'⟩ := counts.stands stands
    exact ⟨current, state, stands, present, counts, counts',
      fun _ _ found => cadence.told formed fresh found⟩

/-- The timer is read one cycle after it was set, and runs on until a return faults. -/
theorem timers_count_down_faulted :
    let surroundings : Surroundings Quantity Nat := .scripted fun _ => Keypad.released.held
    let config : Config Quantity := .standard
    let program : List UInt8 := [0x60, 0x05, 0xF0, 0x15, 0xF1, 0x07, 0x62, 0x05, 0x00, 0xEE]
    let loaded := (Request.load program).serve surroundings (Machine.idle config, 0)
    let requests : List Request := [.step, .run 4 (some 4)]
    let served := (serve surroundings requests loaded).1
    let executed := (deeds surroundings requests loaded).filter (Deed.Executed config.strict)
    served.status = .faulted ∧ executed.length = 4 ∧ RunsDown .setDelay executed 2 ∧
      RunsDown .setDelay (executed.take 2) 4 := by
  intro surroundings config program loaded requests served executed
  have plays : ∀ request ∈ requests, ∀ program, request ≠ .load program := by simp [requests]
  have created : Reachable config (Machine.idle config) := .created rfl rfl
  have facts : served.status = .faulted ∧ served.state.map State.delayTimer = some 2 ∧
      executed.map (fun deed => (deed.found.word, deed.found.register 1)) =
        [(0x6005, 0), (0xF015, 0), (0xF107, 0), (0x6205, 4)] := by decide +kernel
  obtain ⟨status, shown, history⟩ := facts
  have count : executed.length = 4 := by
    rw [← List.length_map, history]
    rfl
  have entry (n : Nat) :
      executed[n]?.map (fun deed => (deed.found.word, deed.found.register 1)) =
        [(0x6005, 0), (0xF015, 0), (0xF107, 0), (0x6205, 4)][n]? := by
    rw [← List.getElem?_map, history]
  obtain ⟨reading, third, words⟩ := Option.map_eq_some_iff.mp (entry 2)
  obtain ⟨later, fourth, words'⟩ := Option.map_eq_some_iff.mp (entry 3)
  obtain ⟨word, _⟩ := Prod.mk.inj words
  obtain ⟨_, loaded⟩ := Prod.mk.inj words'
  obtain ⟨_, current, state, _, present, _, counts, told⟩ :=
    timers_count_down created rfl surroundings 0 program plays
  rw [present, Option.map_some, Option.some.injEq] at shown
  obtain ⟨after, next, _, reads⟩ := told 2 reading third
  have same : later.found = after := by
    have next : (executed.map Deed.found ++ [current])[3]? = some after := next
    rw [List.getElem?_append_left (by simp [count]), List.getElem?_map, fourth] at next
    exact Option.some.inj next
  have runs := reads (by rw [Deed.Performs, word]; exact ⟨rfl, rfl⟩)
  rw [word, ← same] at runs
  exact ⟨status, count, shown ▸ counts.delay, loaded ▸ runs⟩

end Machine

end ChipEight
