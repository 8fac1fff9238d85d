import ChipEight.Machine.Lifecycle

/-! Calls worked out: what the elementary ones do to a machine and its world, and how a property
of machines is carried through a call, however it ends. -/

namespace ChipEight

/-- What a call leaves behind, whether it ends with a result or an error. -/
def left : EStateM.Result ε σ α → σ
  | .ok _ place => place
  | .error _ place => place

/-- The error that ends a call, if one does. -/
def raised : EStateM.Result ε σ α → Option ε
  | .ok _ _ => none
  | .error error _ => some error

theorem raised_eq_some {result : EStateM.Result ε σ α} {error : ε}
    (failed : raised result = some error) : ∃ place, result = .error error place := by
  cases result with
  | ok value place => cases failed
  | error other place =>
    cases failed
    exact ⟨place, rfl⟩

/-- The end of a call: a value, unless there is an error. -/
def conclude (error? : Option Error) (value : α) (place : σ) : EStateM.Result Error σ α :=
  match error? with
  | none => .ok value place
  | some error => .error error place

theorem left_conclude (error? : Option Error) (value : α) (place : σ) :
    left (conclude error? value place) = place := by
  cases error? <;> rfl

theorem left_return (call : Call τ ε α) (change : α → β) (place : Machine τ × ε) :
    left ((do return change (← call) : Call τ ε β).run place) = left (call.run place) := by
  rw [EStateM.run_bind]
  cases call.run place <;> rfl

theorem left_discard (call : Call τ ε α) (place : Machine τ × ε) :
    left ((do let _ ← call : Call τ ε Unit).run place) = left (call.run place) :=
  left_return call (fun _ => ()) place

theorem run_throw (error : Error) (place : σ) :
    (throw error : EStateM Error σ α).run place = .error error place := rfl

/-- Wherever a call is made, it leaves a place that stands in a relation to where it began. -/
def Leads (relation : Machine τ × ε → Machine τ × ε → Prop) (call : Call τ ε α) : Prop :=
  ∀ place, relation place (left (call.run place))

namespace Leads

variable {τ ε α β : Type} {relation : Machine τ × ε → Machine τ × ε → Prop}
  [Std.Refl relation] [Trans relation relation relation]

omit [Trans relation relation relation] in
theorem pure (value : α) : Leads relation (Pure.pure value : Call τ ε α) :=
  fun place => Std.Refl.refl place

omit [Trans relation relation relation] in
theorem throw (error : Error) : Leads relation (MonadExcept.throw error : Call τ ε α) :=
  fun place => Std.Refl.refl place

omit [Std.Refl relation] in
theorem bind {call : Call τ ε α} {next : α → Call τ ε β} (first : Leads relation call)
    (rest : ∀ result, Leads relation (next result)) : Leads relation (call >>= next) := by
  intro place
  have reached := first place
  rw [EStateM.run_bind]
  cases outcome : call.run place with
  | ok result place =>
    rw [outcome] at reached
    exact Trans.trans reached (rest result place)
  | error error place =>
    rw [outcome] at reached
    exact reached

omit [Std.Refl relation] [Trans relation relation relation] in
theorem ite {condition : Prop} [Decidable condition] {call other : Call τ ε α}
    (yes : condition → Leads relation call) (no : ¬ condition → Leads relation other) :
    Leads relation (if condition then call else other) := by
  split
  · exact yes ‹_›
  · exact no ‹_›

end Leads

/-- However a call is made, an error that ends it is one of a kind. -/
def Raises (kind : Error → Prop) (call : Call τ ε α) : Prop :=
  ∀ place error reached, call.run place = .error error reached → kind error

namespace Raises

variable {τ ε α β : Type} {kind : Error → Prop}

theorem pure (value : α) : Raises kind (Pure.pure value : Call τ ε α) := by
  intro place error reached failed
  simp only [EStateM.run_pure, reduceCtorEq] at failed

theorem throw {error : Error} (one : kind error) :
    Raises kind (MonadExcept.throw error : Call τ ε α) := by
  intro place other reached failed
  rw [show (MonadExcept.throw error : Call τ ε α).run place = .error error place from rfl] at failed
  cases failed
  exact one

theorem bind {call : Call τ ε α} {next : α → Call τ ε β} (first : Raises kind call)
    (rest : ∀ result, Raises kind (next result)) : Raises kind (call >>= next) := by
  intro place error reached failed
  rw [EStateM.run_bind] at failed
  cases outcome : call.run place with
  | ok result between =>
    rw [outcome] at failed
    exact rest result between error reached failed
  | error other between =>
    rw [outcome] at failed
    cases failed
    exact first place _ _ outcome

theorem ite {condition : Prop} [Decidable condition] {call other : Call τ ε α}
    (yes : condition → Raises kind call) (no : ¬ condition → Raises kind other) :
    Raises kind (if condition then call else other) := by
  split
  · exact yes ‹_›
  · exact no ‹_›

end Raises

/-- The property of machines is not lost. -/
def Retains (property : Machine τ → Prop) (before after : Machine τ × ε) : Prop :=
  property before.1 → property after.1

instance (property : Machine τ → Prop) : Std.Refl (Retains (ε := ε) property) :=
  ⟨fun _ holds => holds⟩

instance (property : Machine τ → Prop) :
    Trans (Retains (ε := ε) property) (Retains property) (Retains property) :=
  ⟨fun before after holds => after (before holds)⟩

/-- A call takes no machine with the property to one without it. -/
abbrev Keeps (property : Machine τ → Prop) (call : Call τ ε α) : Prop :=
  Leads (Retains property) call

namespace Machine

variable {τ ε α : Type}

theorem run_read (machine : Machine τ) (world : ε) :
    (read : Call τ ε (Machine τ)).run (machine, world) = .ok machine (machine, world) := rfl

theorem run_update (change : Machine τ → Machine τ) (machine : Machine τ) (world : ε) :
    (update change : Call τ ε Unit).run (machine, world) = .ok () (change machine, world) := rfl

theorem run_ask (request : ε → α × ε) (machine : Machine τ) (world : ε) :
    (ask request : Call τ ε α).run (machine, world) =
      .ok (request world).1 (machine, (request world).2) := rfl

theorem run_tell (surroundings : Surroundings τ ε) (note : Note) (machine : Machine τ)
    (world : ε) :
    (tell surroundings note : Call τ ε Unit).run (machine, world) =
      .ok () (machine, surroundings.note note world) := rfl

theorem run_demand (request : ε → Except Error α × ε) (machine : Machine τ) (world : ε) :
    (demand request : Call τ ε α).run (machine, world) =
      match (request world).1 with
      | .ok answer => .ok answer (machine, (request world).2)
      | .error error => .error error (machine, (request world).2) := by
  simp only [demand, EStateM.run_bind, run_ask]
  cases (request world).1 <;> rfl

theorem run_onState (action : Action α) {machine : Machine τ} {state : State} (world : ε)
    (present : machine.state = some state) :
    (onState action : Call τ ε α).run (machine, world) =
      match action.run state with
      | .ok result after => .ok result ({ machine with state := some after }, world)
      | .error error after => .error error ({ machine with state := some after }, world) := by
  simp only [onState, EStateM.run_bind, EStateM.run_get, present]
  simp only [EStateM.run]
  cases action state <;> rfl

theorem run_stop (machine : Machine τ) (world : ε) :
    (stop : Call τ ε Unit).run (machine, world) =
      .ok () ({ machine with stopping := true }, world) := rfl

theorem with_state {machine : Machine τ} {state : State} (present : machine.state = some state) :
    { machine with state := some state } = machine := by
  rw [← present]

theorem run_look {machine : Machine τ} {state : State} (world : ε)
    (present : machine.state = some state) :
    (onState get : Call τ ε State).run (machine, world) = .ok state (machine, world) := by
  rw [run_onState get world present, EStateM.run_get]
  simp only [with_state present]

section

variable {relation : Machine τ × ε → Machine τ × ε → Prop}

theorem leads_read [Std.Refl relation] : Leads relation (read : Call τ ε (Machine τ)) :=
  fun place => Std.Refl.refl place

theorem leads_number [Std.Refl relation] (result : Except NumberError α) :
    Leads relation (number result : Call τ ε α) := by
  cases result with
  | ok value => exact Leads.pure value
  | error error => exact Leads.throw _

theorem leads_demand {request : ε → Except Error α × ε}
    (related : ∀ machine world, relation (machine, world) (machine, (request world).2)) :
    Leads relation (demand request : Call τ ε α) := by
  intro ⟨machine, world⟩
  rw [run_demand]
  cases (request world).1 <;> exact related machine world

end

variable {property : Machine τ → Prop}

theorem keeps_update {change : Machine τ → Machine τ}
    (kept : ∀ machine, property machine → property (change machine)) :
    Keeps property (update change : Call τ ε Unit) :=
  fun place holds => kept place.1 holds

theorem keeps_ask (request : ε → α × ε) : Keeps property (ask request : Call τ ε α) :=
  fun _ holds => holds

theorem keeps_tell (surroundings : Surroundings τ ε) (note : Note) :
    Keeps property (tell surroundings note : Call τ ε Unit) :=
  fun _ holds => holds

theorem keeps_demand (request : ε → Except Error α × ε) :
    Keeps property (demand request : Call τ ε α) :=
  leads_demand fun _ _ holds => holds

theorem keeps_look : Keeps property (onState get : Call τ ε State) := by
  intro ⟨machine, world⟩ holds
  cases present : machine.state with
  | none =>
    simp only [onState, EStateM.run_bind, EStateM.run_get, present, run_throw]
    exact holds
  | some state =>
    rw [run_look world present]
    exact holds

section

variable {kind : Error → Prop}

theorem raises_read : Raises kind (read : Call τ ε (Machine τ)) := by
  intro place error reached failed
  obtain ⟨machine, world⟩ := place
  simp only [run_read, reduceCtorEq] at failed

theorem raises_update (change : Machine τ → Machine τ) :
    Raises kind (update change : Call τ ε Unit) := by
  intro place error reached failed
  obtain ⟨machine, world⟩ := place
  simp only [run_update, reduceCtorEq] at failed

theorem raises_ask (request : ε → α × ε) : Raises kind (ask request : Call τ ε α) := by
  intro place error reached failed
  obtain ⟨machine, world⟩ := place
  simp only [run_ask, reduceCtorEq] at failed

theorem raises_tell (surroundings : Surroundings τ ε) (note : Note) :
    Raises kind (tell surroundings note : Call τ ε Unit) := by
  intro place error reached failed
  obtain ⟨machine, world⟩ := place
  simp only [run_tell, reduceCtorEq] at failed

theorem raises_demand {request : ε → Except Error α × ε}
    (refused : ∀ world error, (request world).1 = .error error → kind error) :
    Raises kind (demand request : Call τ ε α) := by
  intro place error reached failed
  obtain ⟨machine, world⟩ := place
  rw [run_demand] at failed
  cases answered : (request world).1 with
  | ok answer => simp only [answered, reduceCtorEq] at failed
  | error other =>
    rw [answered] at failed
    cases failed
    exact refused world _ answered

theorem raises_number (unfit : ∀ cause, kind (.number cause)) (result : Except NumberError α) :
    Raises kind (number result : Call τ ε α) := by
  cases result with
  | ok value => exact .pure value
  | error cause => exact .throw (unfit cause)

theorem raises_onState {action : Action α} (missing : kind .notLoaded)
    (sure : ∀ state error after, action.run state ≠ .error error after) :
    Raises kind (onState action : Call τ ε α) := by
  intro place error reached failed
  obtain ⟨machine, world⟩ := place
  cases present : machine.state with
  | none =>
    simp only [onState, EStateM.run_bind, EStateM.run_get, present, run_throw,
      EStateM.Result.error.injEq] at failed
    rw [← failed.1]
    exact missing
  | some state =>
    rw [run_onState action world present] at failed
    cases outcome : action.run state with
    | ok result after => simp only [outcome, reduceCtorEq] at failed
    | error other after => exact absurd outcome (sure state other after)

end

variable [TimeScale τ]

theorem run_resumeClock (surroundings : Surroundings τ ε) (machine : Machine τ) (world : ε) :
    (resumeClock surroundings).run (machine, world) =
      match (surroundings.clock world).1 with
      | .ok now =>
        .ok ()
          ({ machine with timerBase := now, timerDebt := TimeScale.zero, clockPaused := false },
            (surroundings.clock world).2)
      | .error error => .error error (machine, (surroundings.clock world).2) := by
  simp only [resumeClock, EStateM.run_bind, run_demand]
  cases (surroundings.clock world).1 <;> rfl

theorem run_start (surroundings : Surroundings τ ε) (machine : Machine τ) (world : ε) :
    (start surroundings).run (machine, world) =
      if machine.status = .running then .ok () (machine, world)
      else if machine.status = .loaded then
        (resumeClock surroundings).run
          ({ machine with status := .running, stopping := false }, world)
      else .error (.notStartable machine.status) (machine, world) := by
  by_cases running : machine.status = .running
  · simp [start, run_read, running]
  · by_cases loaded : machine.status = .loaded
    · simp [start, run_read, loaded, run_update]
    · simp [start, run_read, running, loaded]

end Machine

end ChipEight
