import ChipEight.Proofs.Calls

/-! The calls that a cycle and a run are put together from. Whatever all parts of one lead along,
the whole leads along too. -/

namespace ChipEight.Machine

variable {τ ε : Type} {surroundings : Surroundings τ ε}
  {relation : Machine τ × ε → Machine τ × ε → Prop} [Std.Refl relation]
  [Trans relation relation relation]

theorem leads_present (operation : Operation)
    (looks : Leads relation (onState get : Call τ ε State))
    (renders : ∀ rows, Leads relation (ask (surroundings.render rows) : Call τ ε Reception))
    (stops : Leads relation (stop : Call τ ε Unit)) :
    Leads relation (present surroundings operation) := by
  refine leads_read.bind fun machine => ?_
  refine Leads.ite (fun _ => ?_) fun _ => Leads.pure ()
  refine looks.bind fun state => ?_
  refine (renders _).bind fun reception => ?_
  have interrupted : Leads relation
      (if reception.interrupt then throw .interrupted else pure () : Call τ ε Unit) :=
    Leads.ite (fun _ => Leads.throw _) fun _ => Leads.pure ()
  exact Leads.ite (fun _ => stops.bind fun _ => interrupted) fun _ => interrupted

variable [TimeScale τ]

theorem leads_start
    (begins : ∀ (machine : Machine τ) world, machine.status = .loaded →
      relation (machine, world) ({ machine with status := .running, stopping := false }, world))
    (resumes : Leads relation (resumeClock surroundings)) :
    Leads relation (start surroundings) := by
  intro ⟨machine, world⟩
  rw [run_start]
  by_cases running : machine.status = .running
  · rw [if_pos running]
    exact Std.Refl.refl _
  · rw [if_neg running]
    by_cases loaded : machine.status = .loaded
    · rw [if_pos loaded]
      exact Trans.trans (begins machine world loaded) (resumes _)
    · rw [if_neg loaded]
      exact Std.Refl.refl _

theorem leads_updateTimers (reads : Leads relation (demand surroundings.clock : Call τ ε τ))
    (counts : ∀ base debt : Machine τ → τ,
      Leads relation (update fun machine =>
        { machine with timerBase := base machine, timerDebt := debt machine } : Call τ ε Unit))
    (ticks : ∀ count, Leads relation (onState (modify (State.ticks count)) : Call τ ε Unit)) :
    Leads relation (updateTimers surroundings) := by
  refine leads_read.bind fun machine => ?_
  cases machine.config.timerRate with
  | none => exact ticks 1
  | some rate =>
    refine reads.bind fun now => ?_
    refine leads_read.bind fun machine => ?_
    refine (leads_number _).bind fun passed => ?_
    refine (leads_number _).bind fun due => ?_
    refine (leads_number _).bind fun debt => ?_
    refine (counts (fun _ => now) fun _ => debt).bind fun _ => ?_
    refine (leads_number _).bind fun count => ?_
    refine (leads_number _).bind fun rest => ?_
    exact (counts Machine.timerBase fun _ => rest).bind fun _ => ticks _

theorem leads_complete (before : Snapshot) (operation : Operation) (instruction : Instruction)
    (looks : Leads relation (onState get : Call τ ε State))
    (tells : ∀ note, Leads relation (tell surroundings note : Call τ ε Unit))
    (updates : Leads relation (updateTimers surroundings))
    (presents : Leads relation (present surroundings operation))
    (enters : ∀ entry, Leads relation (update fun machine =>
      { machine with trace := machine.trace.push entry } : Call τ ε Unit)) :
    Leads relation (complete surroundings before operation instruction) := by
  have rest : Leads relation
      (do
        updateTimers surroundings
        present surroundings operation
        let state ← onState get
        let entry : TraceEntry :=
          { cycle := state.cycles - 1
            pc := before.pc
            event := .executed operation instruction
            before
            after := state.snapshot
            fault := none }
        update fun machine => { machine with trace := machine.trace.push entry }
        return entry : Call τ ε TraceEntry) := by
    refine updates.bind fun _ => ?_
    refine presents.bind fun _ => ?_
    refine looks.bind fun state => ?_
    exact (enters _).bind fun _ => Leads.pure _
  exact Leads.ite (fun _ => looks.bind fun state => (tells _).bind fun _ => rest) fun _ => rest

theorem leads_pauses (cycleStart : τ)
    (reads : Leads relation (demand surroundings.clock : Call τ ε τ))
    (waits : ∀ time, Leads relation
      (do
        let stopped ← demand (surroundings.wait time)
        if stopped then stop : Call τ ε Unit)) :
    Leads relation (pace surroundings cycleStart) := by
  refine leads_read.bind fun machine => ?_
  refine (leads_number _).bind fun period => ?_
  refine Leads.ite (fun _ => ?_) fun _ => Leads.pure ()
  refine reads.bind fun now => ?_
  refine (leads_number _).bind fun passed => ?_
  refine (leads_number _).bind fun remaining => ?_
  exact Leads.ite (fun _ => waits _) fun _ => Leads.pure ()

theorem leads_pace (cycleStart : τ)
    (reads : Leads relation (demand surroundings.clock : Call τ ε τ))
    (waits : ∀ time, Leads relation (demand (surroundings.wait time) : Call τ ε Bool))
    (stops : Leads relation (stop : Call τ ε Unit)) :
    Leads relation (pace surroundings cycleStart) :=
  leads_pauses cycleStart reads fun time =>
    (waits time).bind fun _ => Leads.ite (fun _ => stops) fun _ => Leads.pure ()

theorem leads_turn (reads : Leads relation (demand surroundings.clock : Call τ ε τ))
    (steps : Leads relation (step surroundings))
    (paces : ∀ cycleStart, Leads relation (pace surroundings cycleStart)) :
    Leads relation (turn surroundings) := by
  refine reads.bind fun cycleStart => ?_
  refine steps.bind fun entry => ?_
  refine leads_read.bind fun machine => ?_
  exact Leads.ite (fun _ => paces cycleStart) fun _ => Leads.pure ()

theorem leads_cycles (turns : Leads relation (turn surroundings)) (fuel : Nat)
    (remaining : Option Nat) : Leads relation (cycles surroundings fuel remaining) := by
  induction fuel generalizing remaining with
  | zero =>
    rw [cycles]
    refine leads_read.bind fun machine => ?_
    exact Leads.ite (fun _ => Leads.pure _) fun _ => Leads.pure _
  | succ fuel ih =>
    rw [cycles]
    refine leads_read.bind fun machine => ?_
    refine Leads.ite (fun _ => Leads.pure _) fun _ => ?_
    exact turns.bind fun _ => ih _

theorem leads_beginRun (starts : Leads relation (start surroundings))
    (goes : Leads relation (update fun machine => { machine with stopping := false } :
      Call τ ε Unit))
    (resumes : Leads relation (resumeClock surroundings)) :
    Leads relation (beginRun surroundings) := by
  have begins (machine : Machine τ) : Leads relation
      (if machine.status = .loaded then start surroundings
      else do
        update fun machine => { machine with stopping := false }
        resumeClock surroundings : Call τ ε Unit) :=
    Leads.ite (fun _ => starts) fun _ => goes.bind fun _ => resumes
  refine leads_read.bind fun machine => ?_
  exact Leads.ite (fun _ => (Leads.throw _).bind fun _ => begins machine) fun _ => begins machine

theorem leads_run (begins : Leads relation (beginRun surroundings))
    (turns : Leads relation (turn surroundings))
    (pauses : Leads relation (update fun machine => { machine with clockPaused := true } :
      Call τ ε Unit))
    (fuel : Nat) (limit : Option Int) : Leads relation (run surroundings fuel limit) := by
  refine begins.bind fun _ => ?_
  refine leads_read.bind fun machine => ?_
  refine (leads_cycles turns fuel _).bind fun finished => ?_
  refine Leads.ite (fun _ => ?_) fun _ => Leads.pure none
  exact pauses.bind fun _ => leads_read.bind fun machine => Leads.pure _

end ChipEight.Machine
