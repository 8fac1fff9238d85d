import ChipEight.Proofs.Histories
import ChipEight.Proofs.Onsets
import ChipEight.Proofs.Plays

namespace ChipEight

namespace State

variable {state : State} {keys : List Bool} {strict : Bool}

/-- The instruction at the counter waits for a key. -/
def Awaits (state : State) : Prop :=
  Instruction.Spells state.word .awaitKey

theorem awaits_iff : state.Awaits ↔ state.operation = .awaitKey :=
  (Instruction.operation_eq (state.memory.wordAt_lt _) (by decide)).symm

theorem WellFormed.inside_of_awaits (formed : state.WellFormed) (awaits : state.Awaits) :
    ¬ state.AtEnd := by
  intro atEnd
  have past : 0xFFF ≤ state.pc := formed.atEnd_iff.mp atEnd
  have missing : state.memory.byteAt (state.pc.toNat + 1) = 0 := by
    have short : ¬ state.pc.toNat + 1 < state.memory.bytes.size := by
      rw [formed.memory.2]
      omega
    simp [Memory.byteAt, Array.getD, short]
  have low : state.word % 0x100 = 0x0A := awaits.2
  rw [State.word, Memory.wordAt, missing] at low
  simp at low

theorem granted_of_awaits (awaits : state.Awaits) : state.fault? strict = none :=
  fault?_of_spells awaits

theorem WellFormed.cycle_awaits (formed : state.WellFormed) (awaits : state.Awaits) :
    state.cycle strict keys = ⟨.running, state.completed keys, state.entry keys⟩ := by
  rw [State.cycle, if_neg (formed.inside_of_awaits awaits), granted_of_awaits awaits]

/-- With no key held the instruction stays where it is. -/
theorem WellFormed.completed_blocked (formed : state.WellFormed) (awaits : state.Awaits)
    (empty : true ∉ keys) :
    state.completed keys =
      { state.tick with keys, awaitingKey := true, cycles := state.cycles + 1 } := by
  have inside := formed.inside_of_awaits awaits
  have counter := formed.counter
  have searched : keys.idxOf? true = none := List.idxOf?_eq_none_iff.mpr empty
  have rewound : (state.pc + 2 + -2) % 0x10000 = state.pc := by omega
  have executed : state.executed keys =
      { state with keys, awaitingKey := true, cycles := state.cycles + 1 } := by
    simp only [State.executed, awaits_iff.mp awaits, formed.fetch_eq inside, Operation.effect,
      Operation.takeKeyEffect, searched, State.advance, rewound]
  rw [completed, executed]
  rfl

theorem WellFormed.completed_taken (formed : state.WellFormed) (awaits : state.Awaits) {key : Nat}
    (held : keys.idxOf? true = some key) :
    state.completed keys =
      { state.tick with
        keys
        registers := state.registers.set (state.word / 0x100 % 0x10) key
        pc := state.pc + 2
        awaitingKey := false
        cycles := state.cycles + 1 } := by
  have inside := formed.inside_of_awaits awaits
  have x : state.instruction.x = state.word / 0x100 % 0x10 := Instruction.x_ofWord state.word
  have executed : state.executed keys =
      { state with
        keys
        registers := state.registers.set (state.word / 0x100 % 0x10) key
        pc := state.pc + 2
        awaitingKey := false
        cycles := state.cycles + 1 } := by
    simp only [State.executed, awaits_iff.mp awaits, formed.fetch_eq inside, Operation.effect,
      Operation.takeKeyEffect, held, State.setRegister, x]
  rw [completed, executed]
  rfl

/-- The state after some cycles in which no key was held, and the keys of the last of them. -/
def blocked (count : Nat) (keys : List Bool) (state : State) : State :=
  { state.ticks count with
    keys
    awaitingKey := state.awaitingKey || decide (0 < count)
    cycles := state.cycles + count }

/-- The state after that number of cycles and one more in which a key was held. -/
def taken (count : Nat) (keys : List Bool) (key : Nat) (state : State) : State :=
  { state.ticks (count + 1 : Nat) with
    keys
    registers := state.registers.set (state.word / 0x100 % 0x10) key
    pc := state.pc + 2
    awaitingKey := false
    cycles := state.cycles + (count + 1 : Nat) }

theorem word_blocked (count : Nat) (keys : List Bool) (state : State) :
    (state.blocked count keys).word = state.word := by
  obtain ⟨delay, sound, ticked⟩ := state.ticks_eq count
  rw [blocked, ticked]
  rfl

theorem blocked_zero (state : State) : state.blocked 0 state.keys = state := by
  have flag : (state.awaitingKey || decide (0 < 0)) = state.awaitingKey := Bool.or_false _
  have count : state.cycles + ((0 : Nat) : Int) = state.cycles := Int.add_zero _
  simp only [blocked, flag, count]
  rfl

theorem completed_blocked_succ {count : Nat} {before : List Bool}
    (formed : (state.blocked count before).WellFormed) (awaits : state.Awaits)
    (empty : true ∉ keys) :
    (state.blocked count before).completed keys = state.blocked (count + 1) keys := by
  have awaits' : (state.blocked count before).Awaits := by rwa [Awaits, word_blocked]
  have flag : (state.awaitingKey || decide (0 < count + 1)) = true := by simp
  have counted : state.cycles + ((count + 1 : Nat) : Int) = state.cycles + count + 1 := by omega
  rw [formed.completed_blocked awaits' empty, blocked, blocked, flag, counted]
  rfl

theorem completed_blocked_taken {count key : Nat} {before : List Bool}
    (formed : (state.blocked count before).WellFormed) (awaits : state.Awaits)
    (held : keys.idxOf? true = some key) :
    (state.blocked count before).completed keys = state.taken count keys key := by
  have awaits' : (state.blocked count before).Awaits := by rwa [Awaits, word_blocked]
  obtain ⟨delay, sound, ticked⟩ := state.ticks_eq count
  have counted : state.cycles + ((count + 1 : Nat) : Int) = state.cycles + count + 1 := by omega
  have more : state.ticks (count + 1 : Nat) = (state.ticks count).tick := rfl
  rw [formed.completed_taken awaits' held, word_blocked, blocked, taken, counted, more, ticked]
  rfl

theorem awaitingKey_completed (other : ¬ state.Awaits) :
    (state.completed keys).awaitingKey = state.awaitingKey := by
  have operation : state.operation ≠ .awaitKey := fun same => other (awaits_iff.mpr same)
  have kept : (state.operation.effect state.instruction (state.fetch keys)).awaitingKey =
      (state.fetch keys).awaitingKey := by
    cases named : state.operation with
    | awaitKey => exact absurd named operation
    | skipEqualByte | skipUnequalByte | skipHeld | skipReleased =>
      simp only [Operation.effect, State.skipIf]
      split <;> rfl
    | skipEqual | skipUnequal =>
      simp only [Operation.effect, Operation.skipEffect, State.skipIf]
      split <;> rfl
    | _ => rfl
  exact kept

theorem awaitingKey_failed : (state.failed keys).awaitingKey = state.awaitingKey := by
  simp only [failed]
  cases state.operation <;> rfl

end State

namespace Machine

/-- The cycle executed the instruction that it found. -/
def Deed.Executed (strict : Bool) (deed : Deed) : Prop :=
  ¬ deed.found.AtEnd ∧ deed.found.fault? strict = none

instance (strict : Bool) : DecidablePred (Deed.Executed strict) :=
  fun _ => inferInstanceAs (Decidable (_ ∧ _))

/-- The cycle found the instruction that waits for a key, and no key was held. -/
def Deed.Waits (deed : Deed) : Prop :=
  deed.found.Awaits ∧ true ∉ deed.keys

/-- The state awaits a key exactly if the last instruction that was executed waits for one, and then
it still stands at that instruction. -/
structure Remembers (last : Option Deed) (state : State) : Prop where
  flag : state.awaitingKey = true ↔ ∃ deed, last = some deed ∧ deed.Waits
  stands : ∀ deed, last = some deed → deed.Waits →
    state.pc = deed.found.pc ∧ state.word = deed.found.word

variable {τ ε : Type} {config : Config τ} {machine : Machine τ} {state : State}
  {surroundings : Surroundings τ ε} {last : Option Deed} {keys : List Bool} {strict : Bool}

theorem Remembers.awaits (remembers : Remembers last state) (flagged : state.awaitingKey = true) :
    state.Awaits := by
  obtain ⟨deed, same, waits⟩ := remembers.flag.mp flagged
  rw [State.Awaits, (remembers.stands deed same waits).2]
  exact waits.1

theorem Remembers.kept {after : State} (remembers : Remembers last state)
    (flag : after.awaitingKey = state.awaitingKey)
    (stays : state.awaitingKey = true → after.pc = state.pc ∧ after.memory = state.memory) :
    Remembers last after where
  flag := by rw [flag, remembers.flag]
  stands deed same waits := by
    obtain ⟨counter, memory⟩ := stays (remembers.flag.mpr ⟨deed, same, waits⟩)
    rw [State.word, counter, memory]
    exact remembers.stands deed same waits

theorem Remembers.executed (remembers : Remembers last state) (formed : state.WellFormed) :
    Remembers (some ⟨state, keys⟩) (state.completed keys) := by
  have one (deed : Deed) (same : some ⟨state, keys⟩ = some deed) : deed = ⟨state, keys⟩ :=
    (Option.some.inj same).symm
  by_cases awaits : state.Awaits
  · cases searched : keys.idxOf? true with
    | none =>
      have empty : true ∉ keys := List.idxOf?_eq_none_iff.mp searched
      rw [formed.completed_blocked awaits empty]
      refine ⟨⟨fun _ => ⟨_, rfl, awaits, empty⟩, fun _ => rfl⟩, ?_⟩
      intro deed same _
      rw [one deed same]
      exact ⟨rfl, rfl⟩
    | some key =>
      have held : true ∈ keys := by
        apply Decidable.not_not.mp
        intro empty
        rw [List.idxOf?_eq_none_iff.mpr empty] at searched
        cases searched
      have waitless (deed : Deed) (same : some ⟨state, keys⟩ = some deed) : ¬ deed.Waits := by
        rw [one deed same]
        exact fun waits => waits.2 held
      rw [formed.completed_taken awaits searched]
      constructor
      · exact ⟨fun flagged => absurd flagged Bool.false_ne_true,
          fun ⟨deed, same, waits⟩ => absurd waits (waitless deed same)⟩
      · exact fun deed same waits => absurd waits (waitless deed same)
  · have waitless (deed : Deed) (same : some ⟨state, keys⟩ = some deed) : ¬ deed.Waits := by
      rw [one deed same]
      exact fun waits => awaits waits.1
    constructor
    · rw [State.awaitingKey_completed awaits]
      exact ⟨fun flagged => absurd (remembers.awaits flagged) awaits,
        fun ⟨deed, same, waits⟩ => absurd waits (waitless deed same)⟩
    · exact fun deed same waits => absurd waits (waitless deed same)

theorem Deed.cycle_cases (strict : Bool) (deed : Deed) :
    let outcome := deed.found.cycle strict deed.keys
    let executed := [deed].filter (Deed.Executed strict)
    (deed.found.AtEnd ∧ executed = [] ∧
      outcome = ⟨.halted, { deed.found with halted := true }, deed.found.endEntry⟩) ∨
    (deed.Executed strict ∧ executed = [deed] ∧
      outcome = ⟨.running, deed.found.completed deed.keys, deed.found.entry deed.keys⟩) ∨
    ∃ cause, ¬ deed.found.AtEnd ∧ deed.found.fault? strict = some cause ∧ executed = [] ∧
      outcome = ⟨.faulted, deed.found.failed deed.keys, deed.found.faultEntry deed.keys cause⟩ := by
  rcases deed.found.cycle_cases strict deed.keys with
    ⟨atEnd, same⟩ | ⟨inside, granted, same⟩ | ⟨cause, inside, refused, same⟩
  · have unexecuted : ¬ deed.Executed strict := fun done => done.1 atEnd
    exact .inl ⟨atEnd, List.filter_cons_of_neg (by simpa using unexecuted), same⟩
  · have done : deed.Executed strict := ⟨inside, granted⟩
    exact .inr (.inl ⟨done, List.filter_cons_of_pos (by simpa using done), same⟩)
  · have unexecuted : ¬ deed.Executed strict := by
      intro done
      rw [done.2] at refused
      cases refused
    refine .inr (.inr ⟨cause, inside, refused, ?_, same⟩)
    exact List.filter_cons_of_neg (by simpa using unexecuted)

/-- A cycle remembers the last instruction. -/
theorem Remembers.cycle {deed : Deed} (remembers : Remembers last deed.found)
    (formed : deed.found.WellFormed) (strict : Bool) :
    Remembers (([deed].filter (Deed.Executed strict)).getLast?.or last)
      (deed.found.cycle strict deed.keys).state := by
  rcases deed.cycle_cases strict with
    ⟨_, unexecuted, same⟩ | ⟨_, executed, same⟩ | ⟨cause, _, refused, unexecuted, same⟩
  · rw [same, unexecuted]
    exact remembers.kept rfl fun _ => ⟨rfl, rfl⟩
  · rw [same, executed]
    exact remembers.executed formed
  · rw [same, unexecuted]
    apply remembers.kept State.awaitingKey_failed
    intro flagged
    rw [State.granted_of_awaits (remembers.awaits flagged)] at refused
    cases refused

variable {count : ε → Nat} {script : Nat → List Bool}

/-- After a number of cycles, all with no key held, the machine still waits. -/
structure Blocked (count : ε → Nat) (state : State) (polls cycles : Nat) (place : Machine τ × ε) :
    Prop where
  present : ∃ keys, place.1.state = some (state.blocked cycles keys)
  ready : place.1.status = .loaded ∨ place.1.status = .running
  polls : count place.2 = polls + cycles

theorem Blocked.rested {polls cycles : Nat} {place rested : Machine τ × ε}
    (blocked : Blocked count state polls cycles place)
    (counted : surroundings.Counted count script) (resting : Resting surroundings place rested) :
    Blocked count state polls cycles rested where
  present := by
    obtain ⟨keys, present⟩ := blocked.present
    exact ⟨keys, resting.1.state.trans present⟩
  ready := by
    rcases resting.1.status with same | ⟨_, running⟩
    · rw [same]
      exact blocked.ready
    · exact .inr running
  polls := (counted.passes resting.2).trans blocked.polls

/-- The attempts at a key on a script whose first `empty` polls hold none: the machine waits through
those, and takes the lowest key of the next poll, if one is held. -/
structure Attempts (count : ε → Nat) (script : Nat → List Bool) (state : State) (polls empty : Nat)
    (cycles : Nat) (place : Machine τ × ε) : Prop where
  waits : cycles ≤ empty → Blocked count state polls cycles place
  takes : cycles = empty + 1 → ∀ key, (script (polls + empty)).idxOf? true = some key →
    ∃ keys, place.1.state = some (state.taken empty keys key)

theorem Attempts.rested {polls empty cycles : Nat} {place rested : Machine τ × ε}
    (attempts : Attempts count script state polls empty cycles place)
    (counted : surroundings.Counted count script) (resting : Resting surroundings place rested) :
    Attempts count script state polls empty cycles rested where
  waits within := (attempts.waits within).rested counted resting
  takes past key held := by
    obtain ⟨keys, present⟩ := attempts.takes past key held
    exact ⟨keys, resting.1.state.trans present⟩

theorem Attempts.cycle {polls empty cycles : Nat} {place after : Machine τ × ε} {deed : Deed}
    (attempts : Attempts count script state polls empty cycles place)
    (counted : surroundings.Counted count script) (awaits : state.Awaits)
    (released : ∀ poll, poll < empty → true ∉ script (polls + poll))
    (makes : Makes surroundings config deed place after) (within : cycles ≤ empty) :
    Attempts count script state polls empty (cycles + 1) after := by
  obtain ⟨⟨before, present⟩, _, polled⟩ := attempts.waits within
  obtain ⟨awake, world, resting, keys, reached⟩ := makes.world
  have found : deed.found = state.blocked cycles before :=
    Option.some.inj (makes.found.symm.trans present)
  have formed : (state.blocked cycles before).WellFormed := makes.sound.formed _ present
  have awaits' : (state.blocked cycles before).Awaits := by
    rwa [State.Awaits, State.word_blocked]
  have counted' : count world = polls + cycles := (counted.passes resting.2).trans polled
  have scripted : deed.keys = script (polls + cycles) := by rw [← keys, counted.poll, counted']
  have left := makes.state
  rw [found, formed.cycle_awaits awaits', scripted] at left
  constructor
  · intro before'
    refine ⟨⟨script (polls + cycles), ?_⟩, .inr ?_, ?_⟩
    · rw [left, State.completed_blocked_succ formed awaits (released cycles (by omega))]
    · rw [makes.status, found, formed.cycle_awaits awaits']
    · rw [reached, count_settle counted, found, if_neg (formed.inside_of_awaits awaits'), counted']
      omega
  · intro last key held
    obtain rfl : cycles = empty := by omega
    refine ⟨script (polls + cycles), ?_⟩
    rw [left, State.completed_blocked_taken formed awaits held]

theorem attempts_start (count : ε → Nat) (script : Nat → List Bool) (empty : Nat)
    (present : machine.state = some state)
    (ready : machine.status = .loaded ∨ machine.status = .running) (world : ε) :
    Attempts count script state (count world) empty 0 (machine, world) where
  waits _ :=
    { present := ⟨state.keys, by rw [State.blocked_zero, present]⟩
      ready
      polls := rfl }
  takes past := by omega

variable [TimeScale τ]

theorem Attempts.serve {polls empty cycles : Nat} {place : Machine τ × ε}
    (attempts : Attempts count script state polls empty cycles place)
    (shared : config.timerRate = none)
    (sixteen : ∀ world, (surroundings.poll world).1.length = 16)
    (counted : surroundings.Counted count script) (awaits : state.Awaits)
    (released : ∀ poll, poll < empty → true ∉ script (polls + poll)) {requests : List Request}
    (plays : ∀ request ∈ requests, ∀ program, request ≠ .load program)
    (sound : place.1.Sound config)
    (within : cycles + (deeds surroundings requests place).length ≤ empty + 1) :
    Attempts count script state polls empty (cycles + (deeds surroundings requests place).length)
      (Machine.serve surroundings requests place) := by
  let tracks (first : Machine τ × ε) (made : List Deed) (second : Machine τ × ε) : Prop :=
    ∀ cycles, Attempts count script state polls empty cycles first →
      cycles + made.length ≤ empty + 1 →
        Attempts count script state polls empty (cycles + made.length) second
  have append {first second third : Machine τ × ε} {made more : List Deed}
      (before : tracks first made second) (after : tracks second more third) :
      tracks first (made ++ more) third := by
    intro cycles attempts within
    rw [List.length_append, ← Nat.add_assoc] at within ⊢
    exact after _ (before cycles attempts (by omega)) within
  have rest {before after : Machine τ × ε} (resting : Resting surroundings before after) :
      tracks before [] after :=
    fun cycles attempts _ => attempts.rested counted resting
  have cycle {deed : Deed} {before after : Machine τ × ε}
      (makes : Makes surroundings config deed before after) : tracks before [deed] after :=
    fun cycles attempts within =>
      attempts.cycle counted awaits released makes (Nat.le_of_succ_le_succ within)
  exact (tracking_deeds shared sixteen append rest cycle).serve plays sound cycles attempts within

theorem deeds_cons (surroundings : Surroundings τ ε) (request : Request) (requests : List Request)
    (place : Machine τ × ε) :
    deeds surroundings (request :: requests) place =
      deeds surroundings [request] place ++
        deeds surroundings requests (request.serve surroundings place) := by
  simp only [deeds, onsets, List.flatMap_append, List.append_nil]

theorem Attempts.steps {polls empty cycles steps : Nat} {place : Machine τ × ε}
    (attempts : Attempts count script state polls empty cycles place)
    (shared : config.timerRate = none) (reliable : surroundings.Reliable)
    (counted : surroundings.Counted count script) (awaits : state.Awaits)
    (released : ∀ poll, poll < empty → true ∉ script (polls + poll)) (sound : place.1.Sound config)
    (within : cycles + steps ≤ empty + 1) :
    (deeds surroundings (List.replicate steps .step) place).length = steps := by
  induction steps generalizing cycles place with
  | zero => rfl
  | succ steps ih =>
    obtain ⟨⟨keys, present⟩, ready, _⟩ := attempts.waits (by omega)
    obtain ⟨awake, world, woken, _⟩ := reliable.wake ready place.2
    have taken : ¬ (state.blocked cycles keys).TurnsDown (surroundings.poll world).1 :=
      fun turned => turned.2 (reliable.keys world)
    have made : deed? surroundings place =
        some ⟨state.blocked cycles keys, (surroundings.poll world).1⟩ := by
      simp only [deed?, present]
      rw [show (wake surroundings).run place = .ok () (awake, world) from woken]
      exact if_neg taken
    have makes := makes_step sound shared made
    have next := attempts.cycle counted awaits released makes (by omega)
    rw [← serve_step] at next
    have kept := keeps_call surroundings .step place sound
    have first : (deeds surroundings [.step] place).length = 1 := by
      simp [deeds, onsets, Request.onsets, made]
    rw [List.replicate_succ, deeds_cons, List.length_append, first, ih next kept (by omega)]
    omega

/-- Requests remember the last instruction that they execute. -/
theorem remembers_serve (shared : config.timerRate = none)
    (sixteen : ∀ world, (surroundings.poll world).1.length = 16) {requests : List Request}
    (plays : ∀ request ∈ requests, ∀ program, request ≠ .load program) {place : Machine τ × ε}
    (sound : place.1.Sound config) (present : place.1.state = some state)
    (remembers : Remembers last state) :
    ∃ after, (serve surroundings requests place).1.state = some after ∧
      Remembers (((deeds surroundings requests place).filter
        (Deed.Executed config.strict)).getLast?.or last) after := by
  let tracks (first : Machine τ × ε) (made : List Deed) (second : Machine τ × ε) : Prop :=
    ∀ last state, first.1.state = some state → Remembers last state →
      ∃ after, second.1.state = some after ∧
        Remembers ((made.filter (Deed.Executed config.strict)).getLast?.or last) after
  have append {first second third : Machine τ × ε} {made more : List Deed}
      (before : tracks first made second) (after : tracks second more third) :
      tracks first (made ++ more) third := by
    intro last state present remembers
    obtain ⟨between, present', remembers'⟩ := before last state present remembers
    obtain ⟨reached, present'', remembers''⟩ := after _ between present' remembers'
    refine ⟨reached, present'', ?_⟩
    rw [List.filter_append, List.getLast?_append, Option.or_assoc]
    exact remembers''
  have rest {before after : Machine τ × ε} (resting : Resting surroundings before after) :
      tracks before [] after :=
    fun last state present remembers => ⟨state, resting.1.state.trans present, remembers⟩
  have cycle {deed : Deed} {before after : Machine τ × ε}
      (makes : Makes surroundings config deed before after) : tracks before [deed] after := by
    intro last state present remembers
    obtain rfl : deed.found = state := Option.some.inj (makes.found.symm.trans present)
    have formed := makes.sound.formed deed.found present
    exact ⟨_, makes.state, remembers.cycle formed config.strict⟩
  exact (tracking_deeds shared sixteen append rest cycle).serve plays sound last state present
    remembers

theorem unstopped_step (onlooking : surroundings.Onlooking count script)
    (quiet : surroundings.Quiet) (shared : config.timerRate = none) :
    Keeps (fun machine => machine.Sound config ∧ machine.Unstopped) (step surroundings) := by
  have wakes : Keeps (fun machine => machine.Sound config ∧ machine.Unstopped)
      (wake surroundings) := fun place holds =>
    ⟨leads_wake (keeps_start surroundings) (keeps_resumeClock surroundings) place holds.1,
      unstopped_wake surroundings place holds.2⟩
  apply leads_step wakes
  intro machine state world present running read ⟨sound, unstopped⟩
  refine ⟨sound.step_ready surroundings world present running read, ?_⟩
  have shared' : machine.config.timerRate = none := by rw [sound.settings, shared]
  obtain ⟨trace, same⟩ := left_step_ready shared' present running read (sound.formed state present)
    fun turned => turned.2 (quiet.keys world)
  rw [same]
  exact (stopping_settle onlooking machine state world).trans unstopped

theorem unstopped_turn (onlooking : surroundings.Onlooking count script)
    (quiet : surroundings.Quiet) (shared : config.timerRate = none) :
    Keeps (fun machine => machine.Sound config ∧ machine.Unstopped) (turn surroundings) := by
  refine leads_turn (keeps_demand _) (unstopped_step onlooking quiet shared) ?_
  intro cycleStart place holds
  have paced : Keeps (Sound config) (pace surroundings cycleStart) :=
    leads_pace cycleStart (keeps_demand _) (fun _ => keeps_demand _) keeps_stop
  exact ⟨paced place holds.1, unstopped_pace onlooking cycleStart place holds.2⟩

theorem unstopped_run (onlooking : surroundings.Onlooking count script)
    (reliable : surroundings.Reliable) (shared : config.timerRate = none)
    (sound : machine.Sound config) (present : machine.state = some state) (world : ε) (fuel : Nat)
    (limit : Option Int) :
    (left ((run surroundings fuel limit).run (machine, world))).1.Unstopped := by
  have turns : Keeps (fun machine => machine.Sound config ∧ machine.Unstopped)
      (turn surroundings) := unstopped_turn onlooking reliable.toQuiet shared
  obtain ⟨begun, begins, rests, unstopped, _⟩ := run_beginRun reliable world present
  have kept :=
    leads_cycles turns fuel (allowance begun.1 limit) begun ⟨sound.rested rests, unstopped⟩
  rw [run_run, begins]
  simp only
  cases outcome : (cycles surroundings fuel (allowance begun.1 limit)).run begun with
  | error error ended =>
    rw [outcome] at kept
    exact kept.2
  | ok finished ended =>
    rw [outcome] at kept
    cases finished with
    | false => exact kept.2
    | true => exact kept.2

/-- A run of a machine that waits for a key, where no key is ever held: it makes all its cycles, or
is ended by a pause. -/
theorem run_waits (onlooking : surroundings.Onlooking count script)
    (reliable : surroundings.Reliable) (shared : config.timerRate = none)
    (sound : machine.Sound config) (present : machine.state = some state)
    (ready : machine.status = .loaded ∨ machine.status = .running) (awaits : state.Awaits)
    (world : ε)
    (released : ∀ poll, true ∉ script (count world + poll)) (limit : Int) {fuel : Nat}
    (enough : limit.toNat ≤ fuel) :
    let result := (run surroundings fuel (some limit)).run (machine, world)
    (left result).1.status = .running ∧
      ∃ cycles keys, (left result).1.state = some (state.blocked cycles keys) ∧
        ((∃ kept, verdict result = .ok (some kept)) ∧ cycles = limit.toNat ∨
          (∃ error, verdict result = .error error) ∧ 1 ≤ cycles ∧ cycles ≤ limit) := by
  intro result
  let requests : List Request := [.run fuel (some limit)]
  let cycles := (deeds surroundings requests (machine, world)).length
  have plays : ∀ request ∈ requests, ∀ program, request ≠ .load program := by simp [requests]
  have started := attempts_start count script cycles present ready world
  have attempts := started.serve shared reliable.keys onlooking.toCounted awaits
    (fun poll _ => released poll) plays sound (by omega)
  rw [Nat.zero_add] at attempts
  obtain ⟨⟨keys, reached⟩, ready', _⟩ := attempts.waits (Nat.le_refl cycles)
  have served : serve surroundings requests (machine, world) = left result :=
    serve_run surroundings fuel (some limit) (machine, world)
  rw [served] at reached ready'
  have counted (after : State) (same : (left result).1.state = some after) :
      after.cycles = state.cycles + cycles := by
    obtain rfl : state.blocked cycles keys = after := Option.some.inj (reached.symm.trans same)
    rfl
  have ends := run_end reliable shared sound present ready world limit enough
  have unstopped := unstopped_run onlooking reliable shared sound present world fuel (some limit)
  suffices ends' : (left result).1.status = .running ∧
      ((∃ kept, verdict result = .ok (some kept)) ∧ cycles = limit.toNat ∨
        (∃ error, verdict result = .error error) ∧ 1 ≤ cycles ∧ cycles ≤ limit) from
    ⟨ends'.1, cycles, keys, reached, ends'.2⟩
  cases outcome : (run surroundings fuel (some limit)).run (machine, world) with
  | error error place =>
    simp only [result, outcome] at ready' counted ends ⊢
    cases ends with
    | fault faulted _ _ => simp [left, faulted] at ready'
    | unpaced running kept within _ _ =>
      have exactly := counted _ kept
      exact ⟨running, .inr ⟨⟨error, rfl⟩, by omega, by omega⟩⟩
  | ok answer place =>
    simp only [result, outcome] at ready' counted ends unstopped ⊢
    cases ends with
    | limit through running kept made =>
      have exactly := counted _ kept
      obtain ⟨entries, rfl⟩ := Option.isSome_iff_exists.mp through
      exact ⟨running, .inl ⟨⟨entries, rfl⟩, by omega⟩⟩
    | halt _ halted _ _ => simp [left, halted] at ready'
    | stop _ _ stopped _ _ => exact absurd unstopped stopped

/-- What ends such a run, where every pause can be made whose length is known: the length of the
pauses, if that cannot be computed. -/
theorem run_waits_unpaced (onlooking : surroundings.Onlooking count script)
    (reliable : surroundings.Reliable) (paceable : Paceable surroundings config)
    (shared : config.timerRate = none) (sound : machine.Sound config)
    (present : machine.state = some state)
    (ready : machine.status = .loaded ∨ machine.status = .running) (awaits : state.Awaits)
    (world : ε)
    (released : ∀ poll, true ∉ script (count world + poll)) (limit : Int) {fuel : Nat}
    (enough : limit.toNat ≤ fuel) (error : Error) :
    verdict ((run surroundings fuel (some limit)).run (machine, world)) = .error error ↔
      1 ≤ limit ∧ ∃ cause, config.cyclePeriod = .error cause ∧ error = .number cause := by
  have formed := sound.formed state present
  have inside := formed.inside_of_awaits awaits
  have granted : state.fault? config.strict = none := State.granted_of_awaits awaits
  have running := (run_waits onlooking reliable shared sound present ready awaits world released
    limit enough).1
  have unpaced := run_unpaced reliable paceable shared sound present ready world enough error
  constructor
  · intro failed
    cases outcome : (run surroundings fuel (some limit)).run (machine, world) with
    | ok answer reached => simp [outcome, verdict] at failed
    | error other reached =>
      rw [outcome] at failed running
      obtain rfl : other = error := Except.error.inj failed
      obtain ⟨some, _, _, cause⟩ := unpaced.mp ⟨reached, outcome, running⟩
      exact ⟨some, cause⟩
  · rintro ⟨some, cause⟩
    obtain ⟨reached, failed, _⟩ := unpaced.mpr ⟨some, inside, granted, cause⟩
    rw [failed]
    rfl

/-- A loaded machine awaits a key exactly if its last instruction waits for one and found none held.
Polls without keys change only the timers, the keys, the flag and the count of cycles, and the first
poll with one gives its lowest key to the register. -/
theorem waits_for_key (reachable : Reachable config machine) (shared : config.timerRate = none)
    (sixteen : ∀ world, (surroundings.poll world).1.length = 16) (world : ε) :
    (∀ (program : List UInt8) (requests : List Request),
      (∀ request ∈ requests, ∀ program, request ≠ .load program) →
      let loaded := (Request.load program).serve surroundings (machine, world)
      let executed :=
        (deeds surroundings requests loaded).filter (Deed.Executed config.strict)
      ∃ state, (serve surroundings requests loaded).1.state = some state ∧
        (state.awaitingKey = true ↔ ∃ deed, executed.getLast? = some deed ∧ deed.Waits) ∧
        ∀ deed, executed.getLast? = some deed → deed.Waits →
          state.pc = deed.found.pc ∧ state.word = deed.found.word) ∧
    ∀ state, machine.state = some state → machine.status = .loaded ∨ machine.status = .running →
      state.Awaits → ∀ count script, surroundings.Counted count script →
      (∀ empty, (∀ poll, poll < empty → true ∉ script (count world + poll)) →
        (∀ requests : List Request, (∀ request ∈ requests, ∀ program, request ≠ .load program) →
          let cycles := (deeds surroundings requests (machine, world)).length
          let served := (serve surroundings requests (machine, world)).1
          (cycles ≤ empty → ∃ keys, served.state = some (state.blocked cycles keys)) ∧
          (cycles = empty + 1 → true ∈ script (count world + empty) →
            ∃ key keys, (script (count world + empty)).idxOf? true = some key ∧
              served.state = some (state.taken empty keys key))) ∧
        (surroundings.Reliable → ∀ steps, steps ≤ empty + 1 →
          (deeds surroundings (List.replicate steps .step) (machine, world)).length = steps)) ∧
      (surroundings.Onlooking count script → surroundings.Reliable →
        (∀ poll, true ∉ script (count world + poll)) →
        ∀ (limit : Int) (fuel : Nat), limit.toNat ≤ fuel →
          let result := (run surroundings fuel (some limit)).run (machine, world)
          ((left result).1.status = .running ∧
            ∃ cycles keys, (left result).1.state = some (state.blocked cycles keys) ∧
              ((∃ kept, verdict result = .ok (some kept)) ∧ cycles = limit.toNat ∨
                (∃ error, verdict result = .error error) ∧ 1 ≤ cycles ∧ cycles ≤ limit)) ∧
          (Paceable surroundings config → ∀ error, verdict result = .error error ↔
            1 ≤ limit ∧ ∃ cause, config.cyclePeriod = .error cause ∧ error = .number cause)) := by
  have sound := reachable.sound
  constructor
  · intro program requests plays loaded executed
    obtain ⟨bytes, same⟩ := serve_load surroundings program (machine, world)
    have kept : loaded.1.Sound config :=
      keeps_call surroundings (.load program) (machine, world) sound
    have fresh : loaded.1.state = some (State.ofProgram program) := congrArg Machine.state same
    have unasked : Remembers none (State.ofProgram program) :=
      ⟨⟨fun flagged => absurd flagged Bool.false_ne_true, fun ⟨_, missing, _⟩ => by cases missing⟩,
        fun _ missing => by cases missing⟩
    obtain ⟨state, present, remembers⟩ := remembers_serve shared sixteen plays kept fresh unasked
    rw [Option.or_none] at remembers
    exact ⟨state, present, remembers.flag, remembers.stands⟩
  · intro state present ready awaits count script counted
    constructor
    · intro empty released
      have started := attempts_start count script empty present ready world
      constructor
      · intro requests plays cycles served
        have attempts (within : cycles ≤ empty + 1) := started.serve shared sixteen counted awaits
          released plays sound (by omega)
        rw [Nat.zero_add] at attempts
        constructor
        · intro within
          exact ((attempts (by omega)).waits within).present
        · intro past held
          obtain ⟨key, searched⟩ :
              ∃ key, (script (count world + empty)).idxOf? true = some key := by
            apply Option.ne_none_iff_exists'.mp
            exact fun missing => List.idxOf?_eq_none_iff.mp missing held
          obtain ⟨keys, taken⟩ := (attempts (by omega)).takes past key searched
          exact ⟨key, keys, searched, taken⟩
      · intro reliable steps within
        exact started.steps shared reliable counted awaits released sound (by omega)
    · intro onlooking reliable released limit fuel enough
      refine ⟨run_waits onlooking reliable shared sound present ready awaits world released limit
        enough, fun paceable error => ?_⟩
      exact run_waits_unpaced onlooking reliable paceable shared sound present ready awaits world
        released limit enough error

/-- At a rate too large for the computer's numbers a program of that one instruction takes the key
of its third poll, and with no key a run of two cycles ends in an error. -/
theorem waits_for_key_unpaced :
    let program : List UInt8 := [0xF3, 0x0A]
    let config : Config Quantity :=
      { Config.standard with rate := some (.whole (1 <<< 1024)) }
    let held := Keypad.released.held.set 5 true
    let silent : Surroundings Quantity Nat := .scripted fun _ => Keypad.released.held
    let pressed : Surroundings Quantity Nat :=
      .scripted fun poll => if poll < 2 then Keypad.released.held else held
    let loaded := ((Request.load program).serve silent (.idle config, 0)).1
    (∃ deed, ((deeds silent [.step, .step] (loaded, 0)).filter
        (Deed.Executed config.strict)).getLast? = some deed ∧ deed.Waits ∧ deed.found.pc = 0x200) ∧
      (∃ keys, (serve pressed [.step, .step, .step] (loaded, 0)).1.state =
        some ((State.ofProgram program).taken 2 keys 5)) ∧
      ∃ cause, verdict ((run silent 2 (some 2)).run (loaded, 0)) = .error (.number cause) ∧
        (left ((run silent 2 (some 2)).run (loaded, 0))).1.status = .running := by
  intro program config held silent pressed loaded
  have created : Reachable config (Machine.idle config) := .created rfl rfl
  have reachable : Reachable config loaded := .served silent 0 (.load program) created
  have reliable : silent.Reliable := Surroundings.reliable_scripted fun _ => rfl
  have sixteen (poll : Nat) : (if poll < 2 then Keypad.released.held else held).length = 16 := by
    split <;> rfl
  have reliable' : pressed.Reliable := Surroundings.reliable_scripted sixteen
  have onlooking : silent.Onlooking id fun _ => Keypad.released.held :=
    Surroundings.onlooking_scripted _
  have counted : pressed.Counted id fun poll => if poll < 2 then Keypad.released.held else held :=
    Surroundings.counted_scripted _
  have present : loaded.state = some (State.ofProgram program) := rfl
  have awaits : (State.ofProgram program).Awaits := by
    have word : (State.ofProgram program).word = 0xF30A := by decide +kernel
    rw [State.Awaits, word]
    exact ⟨rfl, rfl⟩
  have plays : ∀ request ∈ [Request.step, .step], ∀ program, request ≠ .load program := by simp
  have plays' : ∀ request ∈ [Request.step, .step, .step], ∀ program, request ≠ .load program := by
    simp
  have absent : true ∉ Keypad.released.held := by decide
  obtain ⟨cause, unpaced⟩ : ∃ cause, config.cyclePeriod = .error cause := by
    cases known : config.cyclePeriod with
    | ok period =>
      have refused : (config.cyclePeriod matches .error _) = true := by decide +kernel
      simp [known] at refused
    | error cause => exact ⟨cause, rfl⟩
  have paceable : Paceable silent config := by
    intro period known
    simp [unpaced] at known
  have early (poll : Nat) (before : poll < 2) :
      true ∉ if id 0 + poll < 2 then Keypad.released.held else held := by
    rw [if_pos (by simpa using before)]
    exact absent
  obtain ⟨flags, _⟩ := waits_for_key created rfl reliable.keys 0
  obtain ⟨_, waits⟩ := waits_for_key reachable rfl reliable.keys 0
  obtain ⟨_, waits'⟩ := waits_for_key reachable rfl reliable'.keys 0
  refine ⟨?_, ?_, ?_⟩
  · obtain ⟨state, found, flag, stands⟩ := flags program [.step, .step] plays
    have shown : (serve silent [.step, .step] (loaded, 0)).1.state.map
        (fun state => (state.awaitingKey, state.pc)) = some (true, 0x200) := by decide +kernel
    obtain ⟨same, present', fields⟩ := Option.map_eq_some_iff.mp shown
    obtain rfl : state = same := Option.some.inj (found.symm.trans present')
    obtain ⟨flagged, counter⟩ := Prod.mk.inj fields
    obtain ⟨deed, last, waited⟩ := flag.mp flagged
    exact ⟨deed, last, waited, (stands deed last waited).1 ▸ counter⟩
  · obtain ⟨through, _⟩ := waits' _ present (.inl rfl) awaits id _ counted
    obtain ⟨attempts, steps⟩ := through 2 early
    have made := steps reliable' 3 (by decide)
    obtain ⟨key, keys, searched, taken⟩ :=
      (attempts [.step, .step, .step] plays').2 made (by decide)
    obtain rfl : 5 = key := Option.some.inj searched
    exact ⟨keys, taken⟩
  · obtain ⟨_, runs⟩ := waits _ present (.inl rfl) awaits id _ onlooking.toCounted
    obtain ⟨⟨running, _⟩, ends⟩ := runs onlooking reliable (fun _ => absent) 2 2 (by decide)
    exact ⟨cause, (ends paceable _).mpr ⟨by decide, cause, unpaced, rfl⟩, running⟩

end Machine

end ChipEight
