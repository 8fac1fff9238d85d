import ChipEight.Proofs.Rates

namespace ChipEight

namespace Standing

variable {strict : Bool} {script : Nat → List Bool} {ticks ticks' : Nat → Int}

theorem polls_next (standing : Standing) :
    standing.polls ≤ (standing.next strict script ticks).polls := by
  simp only [next, whileRunning]
  split
  · split
    · exact Nat.le_refl _
    · split <;> exact Nat.le_succ _
  · exact Nat.le_refl _

theorem started_next {standing : Standing} (started : standing.status ≠ .loaded) :
    (standing.next strict script ticks).status ≠ .loaded := by
  simp only [next, whileRunning]
  split
  · split
    · simp
    · split <;> simp
  · exact started

theorem started_after {standing : Standing} (started : standing.status ≠ .loaded) (cycles : Nat) :
    ((next strict script ticks)^[cycles] standing).status ≠ .loaded := by
  induction cycles generalizing standing with
  | zero => exact started
  | succ cycles ih => exact ih (started_next started)

theorem after_congr {standing : Standing}
    (agree : ∀ polls, standing.polls ≤ polls → ticks polls = ticks' polls) (cycles : Nat) :
    (next strict script ticks)^[cycles] standing =
      (next strict script ticks')^[cycles] standing := by
  induction cycles generalizing standing with
  | zero => rfl
  | succ cycles ih =>
    have same : standing.next strict script ticks = standing.next strict script ticks' := by
      simp only [next, whileRunning, agree standing.polls (Nat.le_refl _)]
    rw [Function.iterate_succ_apply, Function.iterate_succ_apply, ← same]
    exact ih fun polls later => agree polls (Nat.le_trans standing.polls_next later)

end Standing

namespace Machine

variable {ε : Type} {machine : Machine Rat} {state : State} {surroundings : Surroundings Rat ε}
  {config : Config Rat} {count : ε → Nat} {script : Nat → List Bool} {time : ε → Rat}
  {elapsed : Nat → Rat} {rate begun : Rat} {polls : Nat}

theorem started_outset (machine : Machine Rat) (state : State) (polls : Nat) :
    (machine.outset state polls).status ≠ .loaded := by
  simp only [outset]
  split
  · decide
  · exact ‹_›

theorem elapsed_mono (monotone : ∀ polls, elapsed polls ≤ elapsed (polls + 1)) {first second : Nat}
    (later : first ≤ second) : elapsed first ≤ elapsed second := by
  induction later with
  | refl => exact Rat.le_refl
  | step _ ih => exact Rat.le_trans ih (monotone _)

/-- Where nothing is left over, a call that begins there makes the ticks that the call before it
would have made. -/
theorem Counting.seam (positive : 0 ≤ rate)
    (monotone : ∀ polls, elapsed polls ≤ elapsed (polls + 1))
    (counting : Counting rate elapsed begun polls machine) (settled : machine.timerDebt = 0)
    (early : elapsed polls ≤ machine.timerBase) {later : Nat} (after : polls ≤ later) :
    due rate elapsed machine.timerBase later = due rate elapsed begun later := by
  have whole : rate * (machine.timerBase - begun) =
      ((ticked rate elapsed begun polls : Int) : Rat) := by
    have debt := counting.debt
    rw [settled, ← counting.made] at debt
    grind
  have shifted {place : Nat} (within : polls ≤ place) :
      ticked rate elapsed begun place =
        ticked rate elapsed machine.timerBase place + ticked rate elapsed begun polls := by
    by_cases here : place = polls
    · rw [here, ticked_early positive early, Nat.zero_add]
    · have far := elapsed_mono monotone (show polls + 1 ≤ place by omega)
      have late := Rat.le_trans counting.before far
      have moved : rate * (elapsed place - begun) =
          rate * (elapsed place - machine.timerBase) +
            ((ticked rate elapsed begun polls : Int) : Rat) := by
        rw [← whole]
        grind
      have counts := ticked_late positive (Rat.le_trans counting.since late)
      rw [moved, Rat.floor_add_intCast, ← ticked_late positive late] at counts
      omega
  have next : polls ≤ later + 1 := Nat.le_succ_of_le after
  rw [due, due, shifted after, shifted next]
  omega

/-- Runs of these numbers of cycles, one after the other. -/
def split (sizes : List Nat) : List Request :=
  sizes.map fun size => .run size (some size)

def total (sizes : List Nat) : Nat :=
  sizes.foldr (· + ·) 0

/-- Every call but the last, where it leaves the machine running, has settled its debt at the
present time: no fraction of a tick is due, and no time has passed since its last update. -/
def Seamless (surroundings : Surroundings Rat ε) (time : ε → Rat) :
    List Nat → Machine Rat × ε → Prop
  | [], _ => True
  | size :: sizes, place =>
    let next := (Request.run size (some size)).serve surroundings place
    (sizes ≠ [] → next.1.status = .running →
      next.1.timerDebt = 0 ∧ next.1.timerBase = time next.2) ∧
    Seamless surroundings time sizes next

/-- Calls without a seam show what all their cycles come to in one call. -/
theorem split_timed (clocked : surroundings.Clocked count script time elapsed) (positive : 0 ≤ rate)
    (own : config.timerRate = some rate) {sizes : List Nat} (some : sizes ≠ [])
    (sound : machine.Sound config) (present : machine.state = .some state) {world : ε}
    (seamless : Seamless surroundings time sizes (machine, world)) :
    let ended := serve surroundings (split sizes) (machine, world)
    let standing :=
      (Standing.next config.strict script (due rate elapsed (time world)))^[total sizes]
      (machine.outset state (count world))
    ended.1.state = .some standing.state ∧ ended.1.status = standing.status := by
  induction sizes generalizing machine state world with
  | nil => exact absurd rfl some
  | cons size sizes ih =>
    have timed := run_timed clocked positive own sound present world size
    have kept :
        ((Request.run size (.some size)).serve surroundings (machine, world)).1.Sound config :=
      keeps_call surroundings (.run size (.some size)) (machine, world) sound
    obtain ⟨settled, rest⟩ := seamless
    generalize reached : (Request.run size (.some size)).serve surroundings (machine, world) = next
      at timed kept settled rest
    generalize arrived : (Standing.next config.strict script (due rate elapsed (time world)))^[size]
      (machine.outset state (count world)) = standing at timed
    have served : serve surroundings (split (size :: sizes)) (machine, world) =
        serve surroundings (split sizes) next := by
      rw [← reached]
      rfl
    simp only [served, total, List.foldr_cons, Nat.add_comm size, Function.iterate_add_apply,
      arrived]
    cases sizes with
    | nil => exact ⟨timed.state, timed.status⟩
    | cons other others =>
      have outset : next.1.outset standing.state (count next.2) = standing := by
        have started : standing.status ≠ .loaded := by
          rw [← arrived]
          exact Standing.started_after (machine.started_outset state (count world)) size
        rw [Machine.outset, timed.status, if_neg started, timed.polls]
      have far := ih (List.cons_ne_nil other others) kept timed.state rest
      simp only [outset] at far
      by_cases running : standing.status = .running
      -- The next call begins at the base of the last update, where the debt is a whole number.
      · obtain ⟨nothing, present⟩ :=
          settled (List.cons_ne_nil other others) (timed.status.trans running)
        have counting := timed.counting running
        have early : elapsed standing.polls ≤ next.1.timerBase := by
          rw [present, ← timed.polls]
          exact (clocked.between next.2).1
        have agree (polls : Nat) (later : standing.polls ≤ polls) :=
          counting.seam positive clocked.monotone nothing early later
        rw [present] at agree
        rw [Standing.after_congr agree] at far
        exact far
      · rw [iterate_ended running] at far ⊢
        exact far

theorem Reachable.accepted (reachable : Reachable config machine) : config.check = .ok () := by
  induction reachable with
  | created accepted => exact accepted
  | served _ _ _ _ ih => exact ih

theorem timerRate_pos (accepted : config.check = .ok ()) (own : config.timerRate = some rate) :
    0 < rate := by
  have above : TimeScale.isNonPositive rate = false := by
    rw [Bool.eq_false_iff]
    intro low
    simp only [Config.check, own, low, if_true] at accepted
    cases paced : config.rate with
    | none =>
      rw [paced] at accepted
      cases accepted
    | some hertz =>
      simp only [paced] at accepted
      split at accepted <;> cases accepted
  have apart : (rate == 0) = false ∧ decide (rate < 0) = false := by
    simpa [TimeScale.isNonPositive, TimeScale.isZero, TimeScale.isNegative] using above
  have nonzero := ne_of_beq_false apart.1
  have least := of_decide_eq_false apart.2
  grind

/-- On a clock that stands still between them, a run makes the ticks of the whole periods that have
passed since it began. So calls that leave nothing over come to what one run of all their cycles
comes to. -/
theorem timers_split (reachable : Reachable config machine) (present : machine.state = some state)
    (own : config.timerRate = some rate)
    (clocked : surroundings.Clocked count script time elapsed) (world : ε) :
    (∀ cycles : Nat,
      let ended := (Request.run cycles (some cycles)).serve surroundings (machine, world)
      let standing := (Standing.next config.strict script (due rate elapsed (time world)))^[cycles]
        (machine.outset state (count world))
      ended.1.state = some standing.state ∧ ended.1.status = standing.status ∧
        count ended.2 = standing.polls) ∧
    ∀ {ε' : Type} (surroundings' : Surroundings Rat ε') (count' : ε' → Nat) (time' : ε' → Rat),
      surroundings'.Clocked count' script time' elapsed →
      ∀ world', count' world' = count world → time' world' = time world →
      ∀ sizes, sizes ≠ [] → Seamless surroundings time sizes (machine, world) →
        let parts := (serve surroundings (split sizes) (machine, world)).1
        let whole := ((Request.run (total sizes) (some (total sizes))).serve surroundings'
          (machine, world')).1
        parts.state = whole.state ∧ parts.status = whole.status := by
  have sound := reachable.sound
  have positive : 0 ≤ rate := Rat.le_of_lt (timerRate_pos reachable.accepted own)
  constructor
  · intro cycles ended standing
    have timed := run_timed clocked positive own sound present world cycles
    exact ⟨timed.state, timed.status, timed.polls⟩
  · intro ε' surroundings' count' time' clocked' world' together begun sizes some seamless parts
      whole
    obtain ⟨state', status'⟩ := split_timed clocked positive own some sound present seamless
    have timed := run_timed clocked' positive own sound present world' (total sizes)
    rw [together, begun] at timed
    exact ⟨state'.trans timed.state.symm, status'.trans timed.status.symm⟩

/-- Where every cycle takes a whole period, two runs come to what one run comes to. -/
theorem timers_split_whole :
    let surroundings : Surroundings Rat Nat :=
      { Surroundings.scripted fun _ => Keypad.released.held with
        clock := fun polls => (.ok (polls.repeat (· + 1 / 64) 0), polls) }
    let config : Config Rat := { (.standard : Config Rat) with rate := none, timerRate := some 64 }
    let loaded := (Request.load [0x60, 0x0A, 0xF0, 0x15, 0x12, 0x04]).serve surroundings
      (Machine.idle config, 0)
    (serve surroundings (split [2, 3]) loaded).1.state =
        ((Request.run 5 (some 5)).serve surroundings loaded).1.state ∧
      (serve surroundings (split [2, 3]) loaded).1.state.map State.delayTimer = some 6 := by
  intro surroundings config loaded
  have reachable : Reachable config loaded.1 :=
    .served surroundings 0 (.load _) (.created rfl rfl)
  let elapsed (polls : Nat) : Rat := polls.repeat (· + 1 / 64) 0
  have monotone (polls : Nat) : elapsed polls ≤ elapsed (polls + 1) := by
    have next : elapsed (polls + 1) = elapsed polls + 1 / 64 := rfl
    grind
  have clocked : surroundings.Clocked id (fun _ => Keypad.released.held) elapsed elapsed :=
    { keys := fun _ => rfl
      frames := fun _ _ => rfl
      poll := fun _ => rfl
      polled := fun _ => rfl
      clock := fun _ => rfl
      rendered := fun _ _ => rfl
      waited := fun _ _ => rfl
      noted := fun _ _ => rfl
      monotone
      reads := fun _ => rfl
      unstopped := fun _ _ => rfl
      waits := fun _ _ => rfl
      updated := fun _ => rfl
      still := fun _ _ => rfl
      between := fun polls => ⟨Rat.le_refl, monotone polls⟩ }
  have seamless : Seamless surroundings elapsed [2, 3] loaded := by
    refine ⟨fun _ _ => ⟨?_, ?_⟩, fun none => absurd rfl none, trivial⟩
    · decide +kernel
    · decide +kernel
  obtain ⟨_, same⟩ := timers_split reachable rfl rfl clocked loaded.2
  exact ⟨(same surroundings id elapsed clocked loaded.2 rfl rfl [2, 3] (by decide) seamless).1,
    by decide +kernel⟩

/-- Five runs of one cycle and one run of five, with cycles that are half a period apart by the waits
that end them: the single run counts two ticks after the timer was set, the short runs none. -/
theorem timers_split_halves :
    let elapsed (polls : Nat) : Rat := (polls - 1).repeat (· + 1 / 128) 0
    let time (world : Nat × Bool) : Rat := elapsed (if world.2 then world.1 + 1 else world.1)
    let script (_ : Nat) : List Bool := Keypad.released.held
    let surroundings : Surroundings Rat (Nat × Bool) :=
      { clock := fun world => (.ok (time world), world)
        poll := fun world => (script world.1, world.1 + 1, false)
        render := fun _ world => (⟨false, false⟩, world)
        wait := fun _ world => (.ok false, world.1, true)
        note := fun _ world => world }
    let config : Config Rat :=
      { (.standard : Config Rat) with rate := some 128, timerRate := some 64 }
    let loaded := (Request.load [0x60, 0x0A, 0xF0, 0x15, 0x12, 0x04]).serve surroundings
      (Machine.idle config, 0, false)
    Reachable config loaded.1 ∧ surroundings.Clocked Prod.fst script time elapsed ∧
      (serve surroundings (split [1, 1, 1, 1, 1]) loaded).1.state.map State.delayTimer = some 10 ∧
      ((Request.run 5 (some 5)).serve surroundings loaded).1.state.map State.delayTimer =
        some 8 := by
  intro elapsed time script surroundings config loaded
  have reachable : Reachable config loaded.1 :=
    .served surroundings (0, false) (.load _) (.created rfl rfl)
  have monotone (polls : Nat) : elapsed polls ≤ elapsed (polls + 1) := by
    cases polls with
    | zero => exact Rat.le_refl
    | succ polls =>
      have next : elapsed (polls + 1 + 1) = elapsed (polls + 1) + 1 / 128 := rfl
      grind
  have between (world : Nat × Bool) :
      elapsed world.1 ≤ time world ∧ time world ≤ elapsed (world.1 + 1) := by
    obtain ⟨polls, waited⟩ := world
    cases waited with
    | false => exact ⟨Rat.le_refl, monotone polls⟩
    | true => exact ⟨monotone polls, Rat.le_refl⟩
  refine ⟨reachable, ?_, by decide +kernel, by decide +kernel⟩
  exact
    { keys := fun _ => rfl
      frames := fun _ _ => rfl
      poll := fun _ => rfl
      polled := fun _ => rfl
      clock := fun _ => rfl
      rendered := fun _ _ => rfl
      waited := fun _ _ => rfl
      noted := fun _ _ => rfl
      monotone
      reads := fun _ => rfl
      unstopped := fun _ _ => rfl
      waits := fun _ _ => rfl
      updated := fun _ => rfl
      still := fun _ _ => rfl
      between }

end Machine

end ChipEight
