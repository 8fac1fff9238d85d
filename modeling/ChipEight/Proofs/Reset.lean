import ChipEight.Proofs.Course

/-! A program that is loaded erases the past. The load leaves in place what the machine remembers of
the clock, and nothing reads that before the start of the program has replaced it. -/

namespace ChipEight

/-- What a call ends in, without the place that it leaves. -/
def verdict : EStateM.Result ε σ α → Except ε α
  | .ok value _ => .ok value
  | .error error _ => .error error

namespace Machine

variable {τ ε α β : Type} {config : Config τ} {machine other : Machine τ}
  {surroundings : Surroundings τ ε} {world : ε}

/-- What a request gives back. -/
inductive Answer where
  | nothing
  | bytes (count : Int)
  | entry (entry : TraceEntry)
  | kept (entries : Option (List TraceEntry))

/-- Machines that are the same but for what they remember of the clock. -/
def Alike (machine other : Machine τ) : Prop :=
  ∃ base debt paused, other =
    { machine with timerBase := base, timerDebt := debt, clockPaused := paused }

theorem Alike.fields (alike : machine.Alike other) :
    other.config = machine.config ∧ other.state = machine.state ∧
      other.status = machine.status ∧ other.trace = machine.trace := by
  obtain ⟨base, debt, paused, rfl⟩ := alike
  exact ⟨rfl, rfl, rfl, rfl⟩

theorem Alike.refl (machine : Machine τ) : machine.Alike machine :=
  ⟨machine.timerBase, machine.timerDebt, machine.clockPaused, rfl⟩

/-- Two calls ended in the same way, in the same world, with machines that are alike. -/
structure Twins (first second : EStateM.Result Error (Machine τ × ε) α) : Prop where
  verdict : verdict first = verdict second
  world : (left first).2 = (left second).2
  alike : (left first).1.Alike (left second).1

theorem Twins.refl (result : EStateM.Result Error (Machine τ × ε) α) : Twins result result :=
  ⟨rfl, rfl, .refl _⟩

theorem Twins.map {call : Call τ ε α} {place place' : Machine τ × ε}
    (twins : Twins (call.run place) (call.run place')) (change : α → β) :
    Twins ((do return change (← call) : Call τ ε β).run place)
      ((do return change (← call) : Call τ ε β).run place') := by
  obtain ⟨same, world, alike⟩ := twins
  rw [EStateM.run_bind, EStateM.run_bind]
  cases first : call.run place with
  | ok value after =>
    cases second : call.run place' with
    | ok value' after' =>
      rw [first, second] at same world alike
      cases same
      exact ⟨rfl, world, alike⟩
    | error error' after' =>
      rw [first, second] at same
      cases same
  | error error after =>
    cases second : call.run place' with
    | ok value' after' =>
      rw [first, second] at same
      cases same
    | error error' after' =>
      rw [first, second] at same world alike
      cases same
      exact ⟨rfl, world, alike⟩

/-- Two places that no request tells apart: they are the same, or their machines are ready and
alike. -/
inductive Level : Machine τ × ε → Machine τ × ε → Prop where
  | same (place : Machine τ × ε) : Level place place
  | ready {machine other : Machine τ} (alike : machine.Alike other)
      (loaded : machine.status = .loaded) (held : machine.state ≠ none) (world : ε) :
      Level (machine, world) (other, world)

variable [TimeScale τ]

/-- A request with its answer. -/
def Request.answer (surroundings : Surroundings τ ε) : Request → Call τ ε Answer
  | load program => do return .bytes (← Machine.load surroundings program)
  | start => do return (fun _ => .nothing) (← Machine.start surroundings)
  | stop => do return (fun _ => .nothing) (← Machine.stop)
  | step => do return .entry (← Machine.step surroundings)
  | run fuel limit => do return .kept (← Machine.run surroundings fuel limit)

theorem left_answer (surroundings : Surroundings τ ε) (request : Request) (place : Machine τ × ε) :
    left ((request.answer surroundings).run place) = request.serve surroundings place := by
  cases request with
  | load program => exact (left_return _ _ place).trans (left_discard _ place).symm
  | start => exact left_return _ _ place
  | stop => exact left_return _ _ place
  | step => exact (left_return _ _ place).trans (left_discard _ place).symm
  | run fuel limit => exact (left_return _ _ place).trans (left_discard _ place).symm

theorem load_level (settings : other.config = machine.config)
    (room : other.trace.limit = machine.trace.limit) (surroundings : Surroundings τ ε)
    (program : List UInt8) (world : ε) :
    Twins (((Request.load program).answer surroundings).run (machine, world))
        (((Request.load program).answer surroundings).run (other, world)) ∧
      Level ((Request.load program).serve surroundings (machine, world))
        ((Request.load program).serve surroundings (other, world)) := by
  have served (place : Machine τ × ε) : (Request.load program).serve surroundings place =
      left ((Machine.load surroundings program).run place) := left_discard _ place
  have cleared : other.trace.clear = machine.trace.clear := by
    simp only [Trace.clear, room]
  rw [served, served, run_load, run_load]
  simp only [left, settings, cleared]
  have alike (loaded : Machine τ) : loaded.Alike
      { loaded with
        timerBase := other.timerBase
        timerDebt := other.timerDebt
        clockPaused := other.clockPaused } := ⟨_, _, _, rfl⟩
  refine ⟨Twins.map ?_ _, .ready (alike _) rfl (Option.some_ne_none _) _⟩
  rw [run_load, run_load, settings, cleared]
  exact ⟨rfl, rfl, alike _⟩

/-- A request that starts a machine that is ready. -/
def Request.starts : Request → Bool
  | load _ | stop => false
  | _ => true

/-- Wherever a machine is started, the clock gives a reading. -/
def Timely (surroundings : Surroundings τ ε) : List Request → Machine τ × ε → Prop
  | [], _ => True
  | request :: requests, place =>
    (place.1.status = .loaded → request.starts → ∃ now, (surroundings.clock place.2).1 = .ok now) ∧
      Timely surroundings requests (request.serve surroundings place)

namespace Alike

theorem start_eq (alike : machine.Alike other) (loaded : machine.status = .loaded) {now : τ}
    (reads : (surroundings.clock world).1 = .ok now) :
    (start surroundings).run (other, world) = (start surroundings).run (machine, world) := by
  obtain ⟨base, debt, paused, rfl⟩ := alike
  simp only [run_start, loaded, reduceCtorEq, if_false, if_true, run_resumeClock, reads]

theorem start_failed (alike : machine.Alike other) (loaded : machine.status = .loaded)
    {error : Error} (fails : (surroundings.clock world).1 = .error error) :
    ∃ place place', (start surroundings).run (machine, world) = .error error place ∧
      (start surroundings).run (other, world) = .error error place' ∧
      place.2 = place'.2 ∧ place.1.Alike place'.1 := by
  obtain ⟨base, debt, paused, rfl⟩ := alike
  simp only [run_start, loaded, reduceCtorEq, if_false, if_true, run_resumeClock, fails]
  exact ⟨_, _, rfl, rfl, rfl, base, debt, paused, rfl⟩

/-- What begins like a start goes alike for machines that are alike, and the same when the clock
gives a reading. -/
theorem after_start (alike : machine.Alike other) (loaded : machine.status = .loaded)
    {opening : Call τ ε Unit} {rest : Unit → Call τ ε α}
    (opens : opening.run (machine, world) = (start surroundings).run (machine, world))
    (opens' : opening.run (other, world) = (start surroundings).run (other, world)) :
    Twins ((opening >>= rest).run (machine, world)) ((opening >>= rest).run (other, world)) ∧
      ((∃ now, (surroundings.clock world).1 = .ok now) →
        (opening >>= rest).run (other, world) = (opening >>= rest).run (machine, world)) := by
  rw [EStateM.run_bind, EStateM.run_bind, opens, opens']
  cases answered : (surroundings.clock world).1 with
  | ok now =>
    rw [alike.start_eq loaded answered]
    exact ⟨.refl _, fun _ => rfl⟩
  | error error =>
    obtain ⟨place, place', starts, starts', world', alike'⟩ := alike.start_failed loaded answered
    rw [starts, starts']
    exact ⟨⟨rfl, world', alike'⟩, fun ⟨now, reads⟩ => by cases reads⟩

/-- What is asked of machines that are ready and alike goes alike, and leaves them level when the
clock gives a reading to those that are started. -/
theorem request (alike : machine.Alike other) (loaded : machine.status = .loaded)
    (held : machine.state ≠ none) (surroundings : Surroundings τ ε) (world : ε)
    (request : Request) :
    Twins ((request.answer surroundings).run (machine, world))
        ((request.answer surroundings).run (other, world)) ∧
      ((request.starts → ∃ now, (surroundings.clock world).1 = .ok now) →
        Level (request.serve surroundings (machine, world))
          (request.serve surroundings (other, world))) := by
  obtain ⟨state, present⟩ := Option.ne_none_iff_exists'.mp held
  obtain ⟨settings, state', status', trace⟩ := alike.fields
  have present' : other.state = some state := state'.trans present
  have loaded' : other.status = .loaded := status'.trans loaded
  cases request with
  | load program =>
    obtain ⟨twins, level⟩ := load_level settings (by rw [trace]) surroundings program world
    exact ⟨twins, fun _ => level⟩
  | stop =>
    obtain ⟨base, debt, paused, rfl⟩ := alike
    have stopped : Alike { machine with stopping := true } _ := ⟨base, debt, paused, rfl⟩
    exact ⟨⟨rfl, rfl, stopped⟩, fun _ => .ready stopped loaded held world⟩
  | start =>
    obtain ⟨twins, same⟩ := alike.after_start loaded rfl rfl
    refine ⟨twins, fun reads => ?_⟩
    rw [← left_answer, ← left_answer, Request.answer, same (reads rfl)]
    exact .same _
  | step =>
    have wakes {machine : Machine τ} (loaded : machine.status = .loaded) :
        (wake surroundings).run (machine, world) = (start surroundings).run (machine, world) := by
      rw [run_wake, if_pos loaded]
    obtain ⟨twins, same⟩ := alike.after_start loaded (wakes loaded) (wakes loaded')
    rw [← run_step_wake surroundings world present, ← run_step_wake surroundings world present']
      at twins same
    refine ⟨twins.map _, fun reads => ?_⟩
    rw [serve_step, serve_step, same (reads rfl)]
    exact .same _
  | run fuel limit =>
    have begins {machine : Machine τ} (present : machine.state = some state)
        (loaded : machine.status = .loaded) :
        (beginRun surroundings).run (machine, world) =
          (start surroundings).run (machine, world) := by
      simp [beginRun, run_read, present, loaded]
    obtain ⟨twins, same⟩ :
        Twins ((run surroundings fuel limit).run (machine, world))
            ((run surroundings fuel limit).run (other, world)) ∧
          ((∃ now, (surroundings.clock world).1 = .ok now) →
            (run surroundings fuel limit).run (other, world) =
              (run surroundings fuel limit).run (machine, world)) :=
      alike.after_start loaded (begins present loaded) (begins present' loaded')
    refine ⟨twins.map _, fun reads => ?_⟩
    rw [serve_run, serve_run, same (reads rfl)]
    exact .same _

end Alike

namespace Level

variable {place place' : Machine τ × ε}

theorem answer (level : Level place place') (surroundings : Surroundings τ ε) (request : Request) :
    Twins ((request.answer surroundings).run place) ((request.answer surroundings).run place') := by
  cases level with
  | same => exact .refl _
  | ready alike loaded held world => exact (alike.request loaded held surroundings world request).1

theorem serve {requests : List Request} (level : Level place place')
    (timely : Timely surroundings requests place) :
    Level (Machine.serve surroundings requests place)
      (Machine.serve surroundings requests place') := by
  induction requests generalizing place place' with
  | nil => exact level
  | cons request requests ih =>
    obtain ⟨reads, others⟩ := timely
    refine ih ?_ others
    cases level with
    | same => exact .same _
    | ready alike loaded held world =>
      exact (alike.request loaded held surroundings world request).2 (reads loaded)

end Level

/-- Whatever a machine was used for before, once a program is loaded it goes through the same as a
new machine with the same settings, if the clock gave a reading to the starts before. -/
theorem load_forgets {fresh : Machine τ} (reachable : Reachable config machine)
    (made : create config = .ok fresh) (surroundings : Surroundings τ ε) (world : ε)
    (program : List UInt8) {requests : List Request}
    (timely : Timely surroundings requests
      ((Request.load program).serve surroundings (machine, world)))
    (request : Request) :
    Twins (((Request.load program).answer surroundings).run (machine, world))
      (((Request.load program).answer surroundings).run (fresh, world)) ∧
    Twins
      ((request.answer surroundings).run
        (serve surroundings requests ((Request.load program).serve surroundings (machine, world))))
      ((request.answer surroundings).run
        (serve surroundings requests
          ((Request.load program).serve surroundings (fresh, world)))) := by
  have sound := reachable.sound
  have new := create_sound made
  obtain ⟨twins, level⟩ := load_level (new.settings.trans sound.settings.symm)
    (new.room.trans sound.room.symm) surroundings program world
  exact ⟨twins, (level.serve timely).answer surroundings request⟩

/-- A machine that ran another program still remembers its clock when the next one is loaded, where
a new machine remembers nothing. Once started, both run it alike. -/
theorem load_forgets_ran :
    let surroundings : Surroundings Rat Nat :=
      { clock := fun readings => (.ok readings, readings + 1)
        poll := fun readings => (Keypad.released.held, readings)
        render := fun _ readings => (⟨false, false⟩, readings)
        wait := fun _ readings => (.ok false, readings)
        note := fun _ readings => readings }
    let fresh : Machine Rat := .idle { (.standard : Config Rat) with timerRate := some 3 }
    let before := (Request.load [0x12, 0x00]).serve surroundings (fresh, 0)
    let used := ((Request.run 1 (some 1)).serve surroundings before).1
    let loaded (machine : Machine Rat) :=
      (Request.load [0x60, 0x05, 0xF0, 0x15, 0x12, 0x00]).serve surroundings (machine, 9)
    (used.timerBase = 2 ∧ used.clockPaused = true) ∧
      Twins
        (((Request.run 3 (some 3)).answer surroundings).run
          (serve surroundings [.start] (loaded used)))
        (((Request.run 3 (some 3)).answer surroundings).run
          (serve surroundings [.start] (loaded fresh))) := by
  intro surroundings fresh before used loaded
  have created : Reachable fresh.config fresh := .created rfl rfl
  have ready : Reachable fresh.config before.1 :=
    .served surroundings 0 (.load [0x12, 0x00]) created
  have reachable : Reachable fresh.config used :=
    .served surroundings before.2 (.run 1 (some 1)) ready
  have timely : Timely surroundings [.start] (loaded used) := ⟨fun _ _ => ⟨_, rfl⟩, trivial⟩
  obtain ⟨_, twins⟩ := load_forgets reachable rfl surroundings 9 _ timely (.run 3 (some 3))
  exact ⟨by decide +kernel, twins⟩

end Machine

end ChipEight
