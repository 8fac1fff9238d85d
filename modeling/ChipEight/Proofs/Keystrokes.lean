import ChipEight.Proofs.Faults
import ChipEight.Proofs.Lockstep

namespace ChipEight

/-- What an operation asks for has the same answer in other keys. -/
structure Operation.Answers (instruction : Instruction) (state : State) (keys other : List Bool)
    (operation : Operation) : Prop where
  named : operation = .skipHeld ∨ operation = .skipReleased →
    let key := (state.register instruction.x % 16).toNat
    keys[key]? = other[key]?
  lowest : operation = .awaitKey → keys.idxOf? true = other.idxOf? true

variable {state : State} {operation : Operation} {instruction : Instruction}
  {keys other held : List Bool}

theorem State.skipIf_keys (condition : Bool) (state : State) :
    { state with keys }.skipIf condition = { state.skipIf condition with keys } := by
  cases condition <;> rfl

/-- Other keys lead to the same state but for the keys, where what is asked for has the same
answer. -/
theorem Operation.effect_keys (answers : operation.Answers instruction state state.keys other) :
    operation.effect instruction { state with keys := other } =
      { operation.effect instruction state with keys := other } := by
  have answered (asks : operation = .skipHeld ∨ operation = .skipReleased) :
      keyHeld instruction { state with keys := other } = keyHeld instruction state := by
    have same := answers.named asks
    simp only [keyHeld, List.getD_eq_getElem?_getD]
    exact congrArg (Option.getD · false) same.symm
  cases operation with
  | skipHeld =>
    simp only [effect, answered (.inl rfl)]
    exact State.skipIf_keys _ state
  | skipReleased =>
    simp only [effect, answered (.inr rfl)]
    exact State.skipIf_keys _ state
  | skipEqualByte | skipUnequalByte | skipEqual | skipUnequal =>
    exact State.skipIf_keys _ state
  | awaitKey =>
    simp only [effect, takeKeyEffect, answers.lowest rfl]
    cases other.idxOf? true <;> rfl
  | _ => rfl

theorem Operation.spoiled_keys (operation : Operation) (state : State) (keys : List Bool) :
    operation.spoiled { state with keys } = { operation.spoiled state with keys } := by
  cases operation <;> rfl

theorem State.fault?_keys (strict : Bool) (state : State) :
    { state with keys }.fault? strict = state.fault? strict := by
  have refused : state.operation.refusal state.instruction { state with keys } =
      state.operation.refusal state.instruction state := by
    cases state.operation <;> rfl
  rw [State.fault?, State.fault?, ← refused]
  rfl

theorem State.executed_keys
    (answers : state.operation.Answers state.instruction state keys other) :
    { state with keys := held }.executed other = { state.executed keys with keys := other } := by
  have asked : state.operation.Answers state.instruction (state.fetch keys) (state.fetch keys).keys
      other := ⟨answers.named, answers.lowest⟩
  have performed := Operation.effect_keys asked
  have fetched : { state with keys := held }.fetch other =
      { state.fetch keys with keys := other } :=
    rfl
  rw [State.executed, fetched]
  exact congrArg (fun after => { after with cycles := after.cycles + 1 }) performed

theorem State.failed_keys :
    { state with keys := held }.failed other = { state.failed keys with keys := other } := by
  have spoiled := state.operation.spoiled_keys (state.fetch keys) other
  exact congrArg (fun after : State => { after with halted := true }) spoiled

namespace Machine

variable {τ ε : Type} {config : Config τ} {surroundings : Surroundings τ ε}
  {poll : ε → List Bool × ε} {here : Machine τ × ε}

/-- An alteration that puts some sixteen keys in the place of those in the state. -/
def AltersKeys (alteration : Alteration) : Prop :=
  alteration.strict = id ∧ ∃ held : List Bool, held.length = 16 ∧ alteration.keys = fun _ => held

theorem admissible_altersKeys (polled : ∀ world, (poll world).2 = (surroundings.poll world).2)
    (sized : ∀ world, (poll world).1.length = (surroundings.poll world).1.length) :
    Admissible surroundings poll AltersKeys where
  polled := polled
  sized := sized
  sixteen := by
    rintro ⟨_, _⟩ ⟨rfl, held, sixteen, rfl⟩ _ _
    exact sixteen
  released := by
    rintro ⟨_, _⟩ ⟨rfl, held, sixteen, rfl⟩
    exact ⟨⟨id, fun _ => State.blank.keys⟩, ⟨rfl, State.blank.keys, rfl, rfl⟩, rfl, rfl⟩

variable [TimeScale τ]

/-- What the step from here asks of the keys has the same answer in the other polls. -/
def PollsAgree (surroundings : Surroundings τ ε) (poll : ε → List Bool × ε) (here : Machine τ × ε) :
    Prop :=
  ∀ state world, Fetches surroundings here state world →
    state.operation.Answers state.instruction state (surroundings.poll world).1 (poll world).1

theorem agrees_of_pollsAgree (admissible : Admissible surroundings poll AltersKeys)
    (sound : here.1.Sound config) (shared : config.timerRate = none)
    (alike : PollsAgree surroundings poll here) : Agrees surroundings poll AltersKeys here := by
  apply agrees_of_cycle admissible sound shared
  rintro ⟨_, _⟩ ⟨rfl, held, _, rfl⟩ state world fetches
  have answers := alike state world fetches
  have sixteen : (poll world).1.length = 16 := (admissible.sized world).trans fetches.sixteen
  refine ⟨⟨id, fun _ => (poll world).1⟩, ⟨rfl, (poll world).1, sixteen, rfl⟩, ?_⟩
  exact
    { same := rfl
      fault := State.fault?_keys config.strict state
      executed := State.executed_keys answers
      failed := State.failed_keys }

/-- Two places that are the same but for the keys in the state. -/
def ButForKeys (place other : Machine τ × ε) : Prop :=
  ∃ keys : List Bool,
    other = ({ place.1 with state := place.1.state.map fun state => { state with keys } }, place.2)

omit [TimeScale τ] in
theorem AltersKeys.butForKeys {alteration : Alteration} (altersKeys : AltersKeys alteration)
    (place : Machine τ × ε) : ButForKeys place (alteration.place place) := by
  obtain ⟨_, _⟩ := alteration
  obtain ⟨rfl, held, _, rfl⟩ := altersKeys
  exact ⟨held, rfl⟩

/-- Keys matter only where they are asked for: two ways of polling that agree on the key of each
skip that asks for one, and on the lowest key at each wait, leave machines that differ in nothing
but their keys. -/
theorem keys_unseen {machine : Machine τ} (made : create config = .ok machine)
    (shared : config.timerRate = none) (surroundings : Surroundings τ ε)
    (poll : ε → List Bool × ε) (polled : ∀ world, (poll world).2 = (surroundings.poll world).2)
    (sixteen : ∀ world, (surroundings.poll world).1.length = 16)
    (sixteen' : ∀ world, (poll world).1.length = 16) (world : ε)
    (requests : List Request) (request : Request)
    (alike : ∀ here ∈ onsets surroundings requests (machine, world),
      PollsAgree surroundings poll here)
    (alike' : ∀ here ∈ request.onsets surroundings (serve surroundings requests (machine, world)),
      PollsAgree surroundings poll here) :
    let place := serve surroundings requests (machine, world)
    let place' := serve (surroundings.polling poll) requests (machine, world)
    let answer := (request.answer surroundings).run place
    let answer' := (request.answer (surroundings.polling poll)).run place'
    ButForKeys place place' ∧ verdict answer' = verdict answer ∧
      ButForKeys (left answer) (left answer') := by
  intro place place' answer answer'
  have sized (world : ε) : (poll world).1.length = (surroundings.poll world).1.length := by
    rw [sixteen, sixteen']
  have admissible := admissible_altersKeys polled sized
  have new := create_sound made
  have reached : place.1.Sound config := sound_serve surroundings requests new
  -- A new machine has no keys yet, so such an alteration leaves it as it is.
  let bare : Alteration := ⟨id, fun _ => State.blank.keys⟩
  have altersKeys : AltersKeys bare := ⟨rfl, State.blank.keys, rfl, rfl⟩
  have begun : (machine, world) = bare.place (machine, world) := by
    rw [create_eq made]
    rfl
  obtain ⟨later, one, served⟩ := serve_altered admissible altersKeys fun here member =>
    agrees_of_pollsAgree admissible (sound_onsets surroundings requests new here member) shared
      (alike here member)
  have same : place' = later.place place := by
    simp only [place']
    rw [begun]
    exact served
  obtain ⟨last, another, answered⟩ := (answer_agreesAlong admissible one request place).through
    fun here member => agrees_of_pollsAgree admissible
      (request.sound_onsets surroundings reached here member) shared (alike' here member)
  have answered : answer' = last.result answer := by
    simp only [answer', same]
    exact answered
  rw [same, answered, Alteration.verdict_result, Alteration.left_result]
  exact ⟨one.butForKeys place, rfl, another.butForKeys (left answer)⟩

/-- A skip asks for a key that is released in both polls, and another key is held in one. -/
theorem keys_unseen_skip :
    let held := Keypad.released.held.set 5 true
    let surroundings : Surroundings Quantity Nat := .scripted fun _ => Keypad.released.held
    let poll (count : Nat) : List Bool × Nat := (held, count + 1)
    let skip : List Request := [.load [0xE0, 0x9E]]
    let answer := (Request.step.answer surroundings).run
      (serve surroundings skip (.idle .standard, 0))
    let answer' := (Request.step.answer (surroundings.polling poll)).run
      (serve (surroundings.polling poll) skip (.idle .standard, 0))
    verdict answer' = verdict answer ∧ ButForKeys (left answer) (left answer') ∧
      (left answer).1.state.map State.keys = some Keypad.released.held ∧
      (left answer').1.state.map State.keys = some held := by
  intro held surroundings poll skip answer answer'
  have alike : ∀ here ∈ Request.step.onsets surroundings
      (serve surroundings skip (.idle .standard, 0)), PollsAgree surroundings poll here := by
    intro here member state world fetches
    obtain rfl := List.mem_singleton.mp member
    obtain rfl : State.ofProgram [0xE0, 0x9E] = state := Option.some.inj fetches.present
    have skips : (State.ofProgram [0xE0, 0x9E]).operation ≠ .awaitKey := by decide +kernel
    have named : ((State.ofProgram [0xE0, 0x9E]).register
        (State.ofProgram [0xE0, 0x9E]).instruction.x % 16).toNat = 0 := by decide +kernel
    refine ⟨fun _ => ?_, fun waits => absurd waits skips⟩
    rw [named]
    rfl
  have made : create (Config.standard : Config Quantity) = .ok (.idle .standard) := rfl
  obtain ⟨_, same, kept⟩ := keys_unseen made rfl surroundings poll (fun _ => rfl) (fun _ => rfl)
    (fun _ => rfl) 0 skip .step (by simp [skip, onsets, Request.onsets]) alike
  exact ⟨same, kept, by decide +kernel, by decide +kernel⟩

end Machine

end ChipEight
