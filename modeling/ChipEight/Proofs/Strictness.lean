import ChipEight.Proofs.Faults
import ChipEight.Proofs.Lockstep

namespace ChipEight

/-- A machine as it would be if it were strict. -/
def Alteration.toStrict : Alteration where
  strict _ := true
  keys := id

namespace State

variable {state : State} {keys : List Bool}

theorem operation_of_none (unknown : state.instruction.operation? = none) :
    state.operation = .unknown := by
  rw [operation, Instruction.operation, unknown, Option.getD_none]

theorem fault?_of_none (unknown : state.instruction.operation? = none) (strict : Bool) :
    state.fault? strict = if strict then some (.unknownWord state.word) else none := by
  have word : state.instruction.word = state.word :=
    Instruction.word_ofWord (state.memory.wordAt_lt state.pc.toNat)
  cases strict with
  | true => rw [fault?, if_pos ⟨rfl, unknown⟩, word, if_pos rfl]
  | false =>
    rw [fault?, if_neg (by simp), operation_of_none unknown, if_neg Bool.false_ne_true]
    rfl

theorem fault?_of_some (known : state.instruction.operation? ≠ none) (strict strict' : Bool) :
    state.fault? strict = state.fault? strict' := by
  rw [fault?, fault?, if_neg fun both => known both.2, if_neg fun both => known both.2]

/-- A word without an operation is passed over. -/
theorem WellFormed.completed_of_none (formed : state.WellFormed) (inside : ¬ state.AtEnd)
    (unknown : state.instruction.operation? = none) :
    state.completed keys =
      { state with
        delayTimer := max (state.delayTimer - 1) 0
        soundTimer := max (state.soundTimer - 1) 0
        keys
        pc := state.pc + 2
        cycles := state.cycles + 1 } := by
  obtain ⟨delay, sound⟩ := formed.timers
  have ticked {timer : Int} (natural : 0 ≤ timer) :
      (if 0 < timer then timer - 1 else timer) = max (timer - 1) 0 := by
    omega
  have executed : state.executed keys =
      { state with keys, pc := state.pc + 2, cycles := state.cycles + 1 } := by
    simp only [State.executed, operation_of_none unknown, formed.fetch_eq inside]
    rfl
  rw [completed, executed, State.tick]
  simp only [ticked (State.fits_iff.mp delay).1, ticked (State.fits_iff.mp sound).1]

theorem WellFormed.failed_of_none (formed : state.WellFormed) (inside : ¬ state.AtEnd)
    (unknown : state.instruction.operation? = none) :
    state.failed keys = { state with keys, pc := state.pc + 2, halted := true } := by
  simp only [State.failed, operation_of_none unknown, formed.fetch_eq inside]
  rfl

end State

namespace Machine

variable {τ ε : Type} {config : Config τ} {surroundings : Surroundings τ ε}
  {here : Machine τ × ε} {state : State} {world : ε}

theorem admissible_toStrict (surroundings : Surroundings τ ε) :
    Admissible surroundings surroundings.poll (· = Alteration.toStrict) where
  polled _ := rfl
  sized _ := rfl
  sixteen alteration one keys sixteen := by rwa [one]
  released alteration one := ⟨.toStrict, rfl, by rw [one], rfl⟩

theorem toStrict_place (sound : here.1.Sound { config with strict := false }) :
    Alteration.toStrict.place here =
      ({ here.1 with config := { config with strict := true } }, here.2) := by
  have kept : here.1.state.map Alteration.toStrict.state = here.1.state := Option.map_id_fun ▸ rfl
  simp only [Alteration.place, Alteration.machine, sound.settings, kept]
  rfl

theorem Sound.toStrict (sound : here.1.Sound { config with strict := false }) :
    (Alteration.toStrict.place here).1.Sound { config with strict := true } where
  settings := by
    simp only [Alteration.place, Alteration.machine, sound.settings]
    rfl
  room := sound.room
  idle := by
    simp only [Alteration.place, Alteration.machine_state, Alteration.machine_status,
      Option.map_eq_none_iff]
    exact sound.idle
  formed := by
    intro state present
    obtain ⟨found, held, rfl⟩ := Option.map_eq_some_iff.mp present
    exact sound.formed found held

variable [TimeScale τ]

/-- A step from here meets a word without an operation. -/
def Meets (surroundings : Surroundings τ ε) (here : Machine τ × ε) : Prop :=
  ∃ state world, Fetches surroundings here state world ∧ state.instruction.operation? = none

theorem agrees_of_not_meets (sound : here.1.Sound config) (shared : config.timerRate = none)
    (unmet : ¬ Meets surroundings here) :
    Agrees surroundings surroundings.poll (· = Alteration.toStrict) here := by
  refine agrees_of_cycle (admissible_toStrict surroundings) sound shared ?_
  rintro alteration rfl state world fetches
  have known : state.instruction.operation? ≠ none := fun unknown =>
    unmet ⟨state, world, fetches, unknown⟩
  exact ⟨.toStrict, rfl, rfl, State.fault?_of_some known true config.strict, rfl, rfl⟩

theorem Fetches.toStrict (fetches : Fetches surroundings here state world) :
    Fetches surroundings (Alteration.toStrict.place here) state world where
  present := by
    simp only [Alteration.place, Alteration.machine_state, fetches.present]
    rfl
  woken := by
    obtain ⟨awake, woken⟩ := fetches.woken
    refine ⟨Alteration.toStrict.machine awake, ?_⟩
    have alike : Commutes Alteration.toStrict (wake surroundings) := commutes_wake surroundings
    rw [alike here, woken]
    rfl
  inside := fetches.inside
  sixteen := fetches.sixteen

theorem step_lax (sound : here.1.Sound { config with strict := false })
    (shared : config.timerRate = none) (fetches : Fetches surroundings here state world)
    (unknown : state.instruction.operation? = none) :
    (left ((step surroundings).run here)).1.state =
        some { state with
          delayTimer := max (state.delayTimer - 1) 0
          soundTimer := max (state.soundTimer - 1) 0
          keys := (surroundings.poll world).1
          pc := state.pc + 2
          cycles := state.cycles + 1 } ∧
      (left ((step surroundings).run here)).1.status = .running := by
  have formed := sound.formed state fetches.present
  rw [← formed.completed_of_none fetches.inside unknown]
  exact fetches.granted sound shared (State.fault?_of_none unknown false)

theorem step_strict (sound : here.1.Sound { config with strict := true })
    (fetches : Fetches surroundings here state world)
    (unknown : state.instruction.operation? = none) :
    ∃ reached entry, (step surroundings).run here =
        .error (.fault (.execution state.word state.pc (.unknownWord state.word))) reached ∧
      reached.1.status = .faulted ∧
      reached.1.state = some { state with
        keys := (surroundings.poll world).1
        pc := state.pc + 2
        halted := true } ∧
      reached.1.trace = here.1.trace.push entry ∧
      entry.cycle = state.cycles ∧ entry.pc = state.pc ∧
      entry.fault = some (.unknownWord state.word) ∧
      entry.event.key = "OP_UNKNOWN" ∧
      entry.event.mnemonic = "DW 0x" ++ Hex.padded 4 state.word := by
  have formed := sound.formed state fetches.present
  have word : state.instruction.word = state.word :=
    Instruction.word_ofWord (state.memory.wordAt_lt state.pc.toNat)
  obtain ⟨reached, failed, faulted, kept, pushed⟩ :=
    fetches.refused sound (State.fault?_of_none unknown true)
  rw [formed.failed_of_none fetches.inside unknown] at kept
  refine ⟨reached, _, failed, faulted, kept, pushed, rfl, rfl, rfl, ?_, ?_⟩
  · rw [State.faultEntry, State.operation_of_none unknown]
    rfl
  · rw [State.faultEntry, State.operation_of_none unknown, ← word]
    rfl

end Machine

end ChipEight
