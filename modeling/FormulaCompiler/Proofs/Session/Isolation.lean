import FormulaCompiler.Proofs.Session.Births
import FormulaCompiler.Proofs.UnitSymbols

/-! Artifacts are isolated from each other. Each is found by the symbol of its own unit only, and
runs nothing but its own function, whatever entry points it is given and however memory is given
away.
-/

namespace FormulaCompiler

-----------------------------------------------------------------------------------------
-- One artifact
-----------------------------------------------------------------------------------------

namespace Artifact

/-- Whether the artifact of a backend is found by one symbol only and runs one function only. Code
is run for its own entry point, a tree is evaluated for any index, and there is no number otherwise.
-/
def Isolated (artifact : Artifact) (symbol : String) (value : Double → Double) : Backend → Prop
  | .native =>
    ∃ own : NativeCode,
      (∀ text, artifact.entryPoint? text = if text = symbol then some (.native own) else none)
      ∧ (∀ x, artifact.call (.native own) x = value x)
      ∧ ∀ entry x, entry ≠ .native own → artifact.call entry x = .noNumber
  | .interpreter =>
    (∀ text, artifact.entryPoint? text = if text = symbol then some (.interpreted 0) else none)
      ∧ (∀ index x, artifact.call (.interpreted index) x = value x)
      ∧ ∀ code x, artifact.call (.native code) x = .noNumber
  | .missing =>
    (∀ text, artifact.entryPoint? text = none) ∧ ∀ entry x, artifact.call entry x = .noNumber

variable {symbol : String} {value : Double → Double} {module : NativeModule}

/-- What gives code away runs it for no other entry point. -/
theorem Isolated.refuses {backend : Backend} {artifact : Artifact}
    (isolated : artifact.Isolated symbol value backend) {text : String} {own : NativeCode}
    (found : artifact.entryPoint? text = some (.native own)) {entry : EntryPoint}
    (other : entry ≠ .native own) (x : Double)
    : artifact.call entry x = .noNumber := by
  cases backend with
  | native =>
      obtain ⟨code, finds, -, refuses⟩ := isolated
      rw [finds] at found
      obtain ⟨-, same⟩ := Option.ite_none_right_eq_some.mp found
      exact refuses entry x (Option.some.inj same ▸ other)
  | interpreter =>
      rw [isolated.1] at found
      cases (Option.ite_none_right_eq_some.mp found).2
  | missing => exact absurd ((isolated.1 text).symm.trans found) nofun

end Artifact

/-- Code lies where memory had a place for it when it was made. -/
theorem Backend.Makes.code?_eq {backend : Backend} {symbol : String} {value : Double → Double}
    {code own : NativeCode} {artifact : Artifact}
    (makes : backend.Makes symbol code value artifact) (holds : artifact.code? = some own)
    : own = code := by
  cases makes with
  | native _ => exact (Option.some.inj holds).symm
  | interpreter _ | missing => cases holds

-----------------------------------------------------------------------------------------
-- The code that a session holds
-----------------------------------------------------------------------------------------

namespace Session

/-- The code that a place holds. -/
def codeAt? (session : Session) (place : Place) : Option NativeCode :=
  (session.held? place).bind (·.artifact.code?)

theorem codeAt?_of_held {session : Session} {place : Place} {made : BuiltArtifact}
    (held : session.held? place = some made)
    : session.codeAt? place = made.artifact.code? :=
  congrArg (·.bind (·.artifact.code?)) held

/-- Whether all code that a session holds is in use, and no two pieces of it lie at one address. -/
structure CodeApart (session : Session) : Prop where
  used {place code} (held : session.codeAt? place = some code) : code ∈ session.process.memory.used
  apart {place other code} (held : session.codeAt? place = some code)
    (otherHeld : session.codeAt? other = some code)
    : place = other

namespace CodeApart

variable {session next : Session}

/-- Code that is put at an address that is not in use is apart from all other code. -/
theorem fill (before : session.CodeApart) (place : Place) {new? : Option NativeCode}
    (unused : ∀ code, new? = some code → code ∉ session.process.memory.used)
    (held : ∀ other, next.codeAt? other = if other = place then new? else session.codeAt? other)
    (memory
      : next.process.memory = new?.elim session.process.memory session.process.memory.occupy)
    : next.CodeApart where
  used {other code} found := by
    rw [held] at found
    rw [memory]
    split at found
    · rw [found]
      exact List.mem_cons_self
    · cases new? with
      | none => exact before.used found
      | some new => exact List.mem_cons_of_mem _ (before.used found)
  apart {first second code} found again := by
    rw [held] at found again
    split at found <;> split at again
    · exact ‹first = place›.trans ‹second = place›.symm
    · exact absurd (before.used again) (unused code found)
    · exact absurd (before.used found) (unused code again)
    · exact before.apart found again

/-- All code but what is given up stays in use, as none of it lies at the same address. -/
theorem empty (before : session.CodeApart) (place : Place)
    (held : ∀ other, next.codeAt? other = if other = place then none else session.codeAt? other)
    (memory
      : next.process.memory
        = (session.codeAt? place).elim session.process.memory session.process.memory.free)
    : next.CodeApart where
  used {other code} found := by
    rw [held] at found
    rw [memory]
    obtain ⟨elsewhere, found⟩ := Option.ite_none_left_eq_some.mp found
    cases gone : session.codeAt? place with
    | none => exact before.used found
    | some old =>
        refine (List.mem_erase_of_ne ?_).mpr (before.used found)
        rintro rfl
        exact elsewhere (before.apart found gone)
  apart {first second code} found again := by
    rw [held] at found again
    exact before.apart (Option.ite_none_left_eq_some.mp found).2
      (Option.ite_none_left_eq_some.mp again).2

theorem change (before : session.CodeApart) {command : Command}
    (change : session.Change command next)
    : next.CodeApart := by
  cases change with
  | keeps held memory =>
      have same (place : Place) : next.codeAt? place = session.codeAt? place :=
        congrArg (·.bind (·.artifact.code?)) (held place)
      refine ⟨fun found => ?_, fun found again => ?_⟩
      · rw [same] at found
        rw [memory]
        exact before.used found
      · rw [same] at found again
        exact before.apart found again
  | @fills job analysis made asked makes held memory =>
      refine before.fill job.place ?_ (fun other => ?_) memory
      · intro code new
        rw [makes.artifact.code?_eq new]
        exact session.process.allocator.choose_notMem_used _
      · unfold codeAt?
        rw [held]
        split <;> rfl
  | @empties place made found held memory =>
      refine before.empty place (fun other => ?_) (codeAt?_of_held found ▸ memory)
      unfold codeAt?
      rw [held]
      split <;> rfl

end CodeApart

variable {start : Session} {commands : List Command} {moment : Nat} {job : Job}
    {analysis : Analysis} {made other : BuiltArtifact}

end Session

end FormulaCompiler
