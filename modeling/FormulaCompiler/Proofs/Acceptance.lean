import FormulaCompiler.Proofs.Driver
import FormulaCompiler.Proofs.Reports

/-! Optimizing and the return type decide neither which formulas are accepted nor what is reported.
Constants are folded and values are cast only behind the reports, and the cast is the last step.
-/

namespace FormulaCompiler

/-- How two results agree: both are failures with the same reports in the same order, or both are
successes that are (alike) and have the same warnings.
-/
inductive SameOutcome {α : Type} (warnings : α → List Diagnostic) (alike : α → α → Prop)
    : Except (List Diagnostic) α → Except (List Diagnostic) α → Prop
  | refused (reports) : SameOutcome warnings alike (.error reports) (.error reports)
  | accepted {left right} (same : warnings left = warnings right) (values : alike left right)
      : SameOutcome warnings alike (.ok left) (.ok right)

/-- Whether two analyses cast the values of the same function, each to a type of its own. -/
structure Analysis.SameValues (returnType otherType : ReturnType) (left right : Analysis)
    : Prop where
  values : ∀ x, left.expr.eval x = right.expr.eval x
  leftCast : left.returnType = returnType
  rightCast : right.returnType = otherType

/-- Whether two functions are the same up to the cast: they have the same values if they cast to the
same type, and where the first does not round, the second only rounds its values.
-/
structure CompiledFunction.SameUpToCast (returnType otherType : ReturnType)
    (left right : CompiledFunction)
    : Prop where
  same : returnType = otherType → ∀ x, left.invoke x = right.invoke x
  cast : returnType = .double → ∀ x, right.invoke x = otherType.cast (left.invoke x)

/-- Units with the same checks are analysed alike where warnings count the same. Witness: their
reports are the same, and folding changes no value.
-/
theorem CodeUnit.analyze_agrees {unit other : CodeUnit} {options otherOptions : CompileOptions}
    (same : unit.check = other.check)
    (alike : options.warningsAsErrors = otherOptions.warningsAsErrors)
    : SameOutcome Analysis.warnings
        (Analysis.SameValues unit.function.returnType other.function.returnType)
        (unit.analyze options) (other.analyze otherOptions) := by
  have reports : unit.reports options = other.reports otherOptions := by
    simp only [CodeUnit.reports, same, alike]
  by_cases errors : Diagnostic.hasErrors (unit.reports options)
  · rw [analyze_of_errors errors, reports, analyze_of_errors (reports ▸ errors)]
    exact .refused _
  · obtain ⟨expr, checked, accepted⟩ := analyze_of_noErrors errors
    obtain ⟨expr', checked', accepted'⟩ := analyze_of_noErrors (reports ▸ errors)
    rw [same, checked'] at checked
    obtain rfl := Option.some.inj checked
    have folded (optimize : Bool) (x : Double)
        : (if optimize then expr'.fold else expr').eval x = expr'.eval x := by
      cases optimize <;> simp [Expr.eval_fold]
    rw [accepted, accepted']
    exact .accepted reports ⟨fun x => (folded _ x).trans (folded _ x).symm, rfl, rfl⟩

namespace Compiler

/-- Functions that are made of the same values are the same up to the cast, which comes last. -/
theorem Delivers.agrees {returnType otherType : ReturnType}
    {left right : Except (List Diagnostic) Analysis}
    {made remade : Except (List Diagnostic) CompiledFunction} (delivers : Delivers left made)
    (redelivers : Delivers right remade)
    (agrees : SameOutcome Analysis.warnings (Analysis.SameValues returnType otherType) left right)
    : SameOutcome CompiledFunction.warnings (CompiledFunction.SameUpToCast returnType otherType)
        made remade := by
  cases agrees with
  | refused reports =>
      cases delivers
      cases redelivers
      exact .refused reports
  | accepted same values =>
      obtain ⟨values, leftCast, rightCast⟩ := values
      cases delivers with
      | compiled warnings invoked =>
          cases redelivers with
          | compiled rewarnings reinvoked =>
              refine .accepted (warnings.trans (same.trans rewarnings.symm)) ⟨?_, ?_⟩
              · intro sameType x
                rw [invoked, reinvoked, leftCast, rightCast, values, sameType]
              · rintro rfl x
                rw [invoked, reinvoked, leftCast, rightCast, values]
                rfl

/-- Whatever the compiler is, compiling a formula with another optimization and another return type
fails with the same reports, or succeeds with the same warnings and the same function up to the
cast. Witness: the checks only look at the body, folding changes no value of the checked tree, and
each backend casts the value of the whole tree.
-/
theorem compile_agrees (compiler : Compiler) (runs : compiler.backend ≠ .missing) (optimize : Bool)
    (returnType : ReturnType) (formula : String) (first second : Process)
    : SameOutcome CompiledFunction.warnings
        (CompiledFunction.SameUpToCast compiler.options.returnType returnType)
        (compiler.compile formula first).1
        (compile { compiler with options := { compiler.options with optimize, returnType } } formula
          second).1 := by
  let other := { compiler with options := { compiler.options with optimize, returnType } }
  have sameChecks : (compiler.unitOf formula first).check = (other.unitOf formula second).check :=
    rfl
  have agrees
      : SameOutcome Analysis.warnings (Analysis.SameValues compiler.options.returnType returnType)
          ((compiler.unitOf formula first).analyze compiler.options)
          ((other.unitOf formula second).analyze other.options) :=
    CodeUnit.analyze_agrees sameChecks rfl
  exact (compiler.compile_delivers runs formula first).agrees
    (other.compile_delivers runs formula second) agrees

/-- A product is compiled for both types, and for single precision it is rounded at the end. -/
theorem compile_agrees_product
    : Backend.native ≠ .missing
      ∧ ∃ double single,
          (compile ⟨.standard, .native, ⟨false, true, .double, .tokens⟩⟩ "x * x" {}).1 = .ok double
          ∧ (compile ⟨.standard, .native, ⟨true, true, .single, .tokens⟩⟩ "x * x" {}).1 = .ok single
          ∧ ∀ x, single.invoke x = ReturnType.single.cast (double.invoke x) := by
  have runs : Backend.native ≠ .missing := nofun
  have agrees :=
    compile_agrees ⟨.standard, .native, ⟨false, true, .double, .tokens⟩⟩ runs true .single "x * x"
      {} {}
  have clean
      : ¬Diagnostic.hasErrors
          ((unitOf ⟨.standard, .native, ⟨false, true, .double, .tokens⟩⟩ "x * x" {}).reports
            ⟨false, true, .double, .tokens⟩) := by
    decide +kernel
  obtain ⟨expr, -, accepted⟩ := CodeUnit.analyze_of_noErrors clean
  obtain ⟨double, compiled, -, -⟩ := compile_of_accepted runs accepted
  rw [compiled] at agrees
  generalize (compile ⟨.standard, .native, ⟨true, true, .single, .tokens⟩⟩ "x * x" {}).1 = result
    at agrees ⊢
  cases agrees with
  | accepted same values => exact ⟨runs, double, _, compiled, rfl, values.cast rfl⟩

end Compiler

end FormulaCompiler
