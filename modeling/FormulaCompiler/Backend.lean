import FormulaCompiler.Backend.Artifact
import FormulaCompiler.Process

/-! The backends, which turn a code unit into an artifact or into the reports that say why not.
-/

namespace FormulaCompiler

/-- The ways to compile a unit: into code, into a tree, or into an artifact that cannot be entered,
which only checks the unit.
-/
inductive Backend where
  | native
  | interpreter
  | missing
deriving DecidableEq, Repr

/-- The short name of a backend. -/
def Backend.name : Backend → String
  | .native => "cranelift"
  | .interpreter => "interpreter"
  | .missing => "missing"

/-- A compiled unit and the warnings that did not keep it from being compiled. -/
structure Compilation where
  artifact : Artifact
  warnings : List Diagnostic

namespace Backend

/-- The artifact that a backend makes of an analysed unit. Only native code takes memory. -/
def assemble (backend : Backend) (unit : CodeUnit) (options : CompileOptions) (analysis : Analysis)
    (process : Process)
    : Except Problem Artifact × Process :=
  match backend with
  | .native =>
    match analysis.routine options.optimize with
    | .error problem => (.error problem, process)
    | .ok routine =>
      let (code, process) := process.takeCode
      (.ok (.native { symbol := unit.symbol, routine, code }), process)
  | .interpreter => (.ok (.tree unit.symbol analysis.expr analysis.returnType), process)
  | .missing => (.ok .closed, process)

/-- Compiles a unit. An artifact is alive from here on; there is none where anything failed. -/
def compile (backend : Backend) (unit : CodeUnit) (options : CompileOptions) (process : Process)
    : Except (List Diagnostic) Compilation × Process :=
  match unit.analyze options with
  | .error diagnostics => (.error diagnostics, process)
  | .ok analysis =>
    match backend.assemble unit options analysis process with
    | (.error problem, process) =>
      (.error [{ problem, span := ⟨0, byteLength unit.body.toList⟩ }], process)
    | (.ok artifact, process) =>
      (.ok { artifact, warnings := analysis.warnings }, process.acquire)

end Backend

end FormulaCompiler
