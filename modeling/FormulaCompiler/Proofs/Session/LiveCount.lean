import FormulaCompiler.Proofs.Session.Runs

/-! The count of live artifacts. It says at any time how many artifacts a session holds: none is
forgotten where a phase fails, and none is given up twice.
-/

namespace FormulaCompiler

-----------------------------------------------------------------------------------------
-- Places that are filled and emptied
-----------------------------------------------------------------------------------------

section

variable {α : Type} {places : List (Option α)}

theorem countP_isSome_append (value : α)
    : (places ++ [some value]).countP (·.isSome) = places.countP (·.isSome) + 1 := by
  simp [List.countP_append]

theorem countP_isSome_set {place : Nat} {value : α} (found : places[place]?.join = some value)
    : (places.set place none).countP (·.isSome) + 1 = places.countP (·.isSome) := by
  have filled := Option.join_eq_some_iff.mp found
  obtain ⟨inside, same⟩ := List.getElem?_eq_some_iff.mp filled
  have listed : some value ∈ places := List.mem_of_getElem? filled
  have positive : 0 < places.countP (·.isSome) := List.countP_pos_iff.mpr ⟨_, listed, rfl⟩
  rw [List.countP_set inside, same]
  exact Nat.sub_add_cancel positive

end

namespace Session

-----------------------------------------------------------------------------------------
-- One command
-----------------------------------------------------------------------------------------

/-- Whether everything alive was alive before the session or is held by it. -/
def Accounts (session : Session) (baseline : Nat) : Prop :=
  session.process.live = baseline + session.held

/-- A command that fails changes neither count, and one that succeeds changes both alike. -/
theorem Step.accounts {session : Session} {command : Command} {result : Session × Reply}
    (step : session.Step command result) {baseline : Nat} (before : session.Accounts baseline)
    : result.1.Accounts baseline
      ∧ (result.1.process.live : Int) = session.process.live + result.2.gain := by
  unfold Accounts held at *
  cases step with
  | keeps _ quiet => exact ⟨before, by simp [quiet]⟩
  | refuses _ quiet => exact ⟨before, by simp [quiet, Process.takeUnit]⟩
  | compiles _ _ | builds _ _ =>
      rw [countP_isSome_append]
      simp only [Backend.live_occupy, Process.takeUnit, Reply.gain]
      omega
  | drops found | releases found =>
      have emptied := countP_isSome_set found
      simp only [Process.release, Reply.gain]
      omega

-----------------------------------------------------------------------------------------
-- Whole runs
-----------------------------------------------------------------------------------------

theorem accounts_after (compiler : Compiler) (process : Process) (commands : List Command)
    : (after { compiler, process } commands).Accounts process.live := by
  have initial : Accounts { compiler, process } process.live := rfl
  refine after_induction (P := fun session => session.Accounts process.live) ?_ initial commands
  intro session command before
  exact ((session.isStep command).accounts before).1

/-- The counts that a run shows are those of its sessions, one command after the other. -/
theorem map_run (session : Session) (commands : List Command)
    : (session.run commands).2.map (·.2)
      = (List.range commands.length).map fun moment =>
          (session.after (commands.take (moment + 1))).process.live := by
  induction commands generalizing session with
  | nil => rfl
  | cons command rest ih =>
      rw [List.length_cons, List.range_succ_eq_map, List.map_cons, List.map_map]
      exact congrArg _ (ih _)

/-- No artifact leaks and none is given up twice, whatever a session is told to do. After each
command, as many artifacts are alive as were alive at the start and are held; the command that is
answered next changes the count by what its answer says, and never below the start. A formula that
fails to compile, in whatever phase, leaves the count as it is. Witness: each command changes what
is alive and what is held in the same way.
-/
theorem live_counts_held (compiler : Compiler) (process : Process) (commands : List Command)
    : let start : Session := { compiler, process }
      let now := start.after commands
      now.process.live = process.live + now.held
      ∧ (start.run commands).2.map (·.2)
        = (List.range commands.length).map (fun moment =>
            process.live + (start.after (commands.take (moment + 1))).held)
      ∧ (∀ command,
          ((now.step command).1.process.live : Int)
            = now.process.live + (now.step command).2.gain
          ∧ process.live ≤ (now.step command).1.process.live)
      ∧ ∀ (configuration : Compiler) (formula : String) (before : Process),
          match configuration.compile formula before with
          | (.error _, later) => later.live = before.live
          | (.ok _, later) => later.live = before.live + 1 := by
  intro start now
  have counted := accounts_after compiler process
  refine ⟨counted commands, ?_, ?_, ?_⟩
  · rw [map_run]
    exact List.map_congr_left fun moment _ => counted (commands.take (moment + 1))
  · intro command
    obtain ⟨next, changed⟩ := (now.isStep command).accounts (counted commands)
    exact ⟨changed, next ▸ Nat.le_add_right _ _⟩
  · intro configuration formula before
    have outcome := configuration.compile_outcome formula before
    generalize configuration.compile formula before = result at outcome
    cases outcome with
    | refused _ | closed _ _ => rfl
    | compiled _ _ _ _ _ _ _ => exact Backend.live_occupy _ _

end Session

end FormulaCompiler
