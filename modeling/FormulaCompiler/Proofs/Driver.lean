import FormulaCompiler.Proofs.Backend.Agreement

/-! From the analysis of the unit of a formula to the result of compiling the formula, for every
compiler: the backend and the entry into its artifact come in between, and leave their traces in the
process.
-/

namespace FormulaCompiler.Compiler

/-- The unit that a compiler builds for a formula. -/
def unitOf (compiler : Compiler) (formula : String) (process : Process) : CodeUnit :=
  CodeUnit.build process.units
    (qualify formula compiler.vocabulary compiler.options.matching) compiler.options.returnType

variable {compiler : Compiler} {formula : String} {process : Process}

theorem compile_eq
    : compiler.compile formula process
      = match compiler.backend.compile (compiler.unitOf formula process) compiler.options
          process.takeUnit.2 with
        | (.error diagnostics, process) => (.error diagnostics, process)
        | (.ok compilation, after) => enter (compiler.unitOf formula process) compilation after :=
  rfl

/-- What a compiler gives back for a formula, and the process it leaves. An artifact without a way
in is not alive any more.
-/
inductive Outcome (compiler : Compiler) (formula : String) (process : Process)
    : Except (List Diagnostic) CompiledFunction × Process → Prop
  | refused {reports : List Diagnostic}
    (refused : (compiler.unitOf formula process).analyze compiler.options = .error reports)
    : Outcome compiler formula process (.error reports, process.takeUnit.2)
  | closed {analysis : Analysis} (closed : compiler.backend = .missing)
    (accepted : (compiler.unitOf formula process).analyze compiler.options = .ok analysis)
    : Outcome compiler formula process
        (.error (analysis.warnings ++ [{
            problem := .missingEntryPoint (compiler.unitOf formula process).symbol
            span := ⟨0, byteLength (compiler.unitOf formula process).body.toList⟩ }]),
          process.takeUnit.2)
  | compiled {analysis : Analysis} {function : CompiledFunction}
    (runs : compiler.backend ≠ .missing)
    (accepted : (compiler.unitOf formula process).analyze compiler.options = .ok analysis)
    (makes
      : compiler.backend.Makes (compiler.unitOf formula process).symbol process.nextCode
          analysis.value function.artifact)
    (name : function.name = (compiler.unitOf formula process).symbol)
    (source : function.source = (compiler.unitOf formula process).render)
    (warnings : function.warnings = analysis.warnings)
    (invoked : ∀ x, function.invoke x = analysis.value x)
    : Outcome compiler formula process
        (.ok function, compiler.backend.occupy process.takeUnit.2)

theorem compile_outcome (compiler : Compiler) (formula : String) (process : Process)
    : compiler.Outcome formula process (compiler.compile formula process) := by
  have outcome :=
    compiler.backend.compile_outcome (compiler.unitOf formula process) compiler.options
      process.takeUnit.2
  rw [compile_eq]
  generalize compiler.backend.compile _ _ _ = result at outcome
  cases outcome with
  | refused refused => exact .refused refused
  | @made analysis _ accepted makes =>
      dsimp only [enter]
      by_cases closed : compiler.backend = .missing
      · rw [closed] at makes ⊢
        cases makes
        exact .closed closed accepted
      · obtain ⟨entry, found, -, entered⟩ := makes.computes closed analysis.warnings
        obtain ⟨function, made, -, -, invoked⟩ := entered process
        obtain rfl := Except.ok.inj ((Compilation.enter_eq found process).symm.trans made)
        rw [found]
        exact .compiled closed accepted makes rfl rfl rfl invoked

theorem compile_of_refused {reports : List Diagnostic}
    (refused : (compiler.unitOf formula process).analyze compiler.options = .error reports)
    : (compiler.compile formula process).1 = .error reports := by
  have failed := Backend.compile_of_refused refused compiler.backend process.takeUnit.2
  rw [compile_eq]
  generalize compiler.backend.compile _ _ _ = result at failed
  obtain ⟨outcome, after⟩ := result
  obtain rfl : outcome = .error reports := failed
  rfl

theorem compile_of_accepted {analysis : Analysis} (runs : compiler.backend ≠ .missing)
    (accepted : (compiler.unitOf formula process).analyze compiler.options = .ok analysis)
    : ∃ function, (compiler.compile formula process).1 = .ok function
        ∧ function.warnings = analysis.warnings
        ∧ ∀ x, function.invoke x = analysis.returnType.cast (analysis.expr.eval x) := by
  have outcome := compiler.compile_outcome formula process
  generalize compiler.compile formula process = result at outcome
  cases outcome with
  | refused refused => exact absurd (accepted.symm.trans refused) nofun
  | closed closed _ => exact absurd closed runs
  | @compiled _ function _ analyzed _ _ _ warnings invoked =>
      obtain rfl := Except.ok.inj (accepted.symm.trans analyzed)
      exact ⟨function, rfl, warnings, invoked⟩

/-- What compiling makes of the analysis of a unit: a refusal stays as it is, and what is accepted
becomes a function with the same warnings, which casts the values of the analysed tree.
-/
inductive Delivers : Except (List Diagnostic) Analysis → Except (List Diagnostic) CompiledFunction
    → Prop
  | refused (reports) : Delivers (.error reports) (.error reports)
  | compiled {analysis function} (warnings : function.warnings = analysis.warnings)
      (invoked : ∀ x, function.invoke x = analysis.returnType.cast (analysis.expr.eval x))
      : Delivers (.ok analysis) (.ok function)

theorem compile_delivers (compiler : Compiler) (runs : compiler.backend ≠ .missing)
    (formula : String) (process : Process)
    : Delivers ((compiler.unitOf formula process).analyze compiler.options)
        (compiler.compile formula process).1 := by
  cases analyzed : (compiler.unitOf formula process).analyze compiler.options with
  | error reports =>
      rw [compile_of_refused analyzed]
      exact .refused reports
  | ok analysis =>
      obtain ⟨function, compiled, warnings, invoked⟩ := compile_of_accepted runs analyzed
      rw [compiled]
      exact .compiled warnings invoked

/-- An artifact without a way in is given up: the warnings of the unit are reported, and that there
is no entry point.
-/
theorem compile_of_missing {analysis : Analysis} (closed : compiler.backend = .missing)
    (accepted : (compiler.unitOf formula process).analyze compiler.options = .ok analysis)
    : (compiler.compile formula process).1
      = .error (analysis.warnings ++ [{
          problem := .missingEntryPoint (compiler.unitOf formula process).symbol
          span := ⟨0, byteLength (compiler.unitOf formula process).body.toList⟩ }]) := by
  rw [compile_eq, closed, Backend.compile, accepted]
  rfl

end FormulaCompiler.Compiler
