import FormulaCompiler.Binding
import FormulaCompiler.Lexeme
import FormulaCompiler.Options
import FormulaCompiler.ShuntingYard

/-! The part of a compilation that does not depend on the backend: from the body of a code unit to
the expression it stands for, or to everything that is wrong with it.
-/

namespace FormulaCompiler

/-- What a backend needs to know about a unit whose body is sound. -/
structure Analysis where
  expr : Expr
  returnType : ReturnType
  warnings : List Diagnostic

namespace CodeUnit

/-- The names that the body of a unit can use. -/
def scope (unit : CodeUnit) : Scope :=
  { parameter := unit.function.parameter, imports := unit.imports }

/-- The expression that the body of a unit stands for, if it stands for one, and all reports in the
order they are found. Grammar is only looked at where every piece of the text is sound, and names
where the grammar is.
-/
def check (unit : CodeUnit) : Option Expr × List Diagnostic :=
  let cut := tokenize unit.body
  let stop := byteLength unit.body.toList
  if Diagnostic.hasErrors cut.diagnostics then (none, cut.diagnostics)
  else
    match ShuntingYard.postfixOrder cut.tokens stop with
    | .error diagnostic => (none, cut.diagnostics ++ [diagnostic])
    | .ok items =>
      match unit.scope.bind items with
      | (some expr, found) => (some expr, cut.diagnostics ++ found)
      | (none, found) =>
        (none, cut.diagnostics ++ found ++ [{ problem := .notOneExpression, span := ⟨0, stop⟩ }])

/-- Checks the body of a unit. It is refused where any report is an error, which under
(warningsAsErrors) every report is.
-/
def analyze (unit : CodeUnit) (options : CompileOptions) : Except (List Diagnostic) Analysis :=
  let (expr?, found) := unit.check
  let diagnostics := if options.warningsAsErrors then found.map Diagnostic.escalate else found
  match expr? with
  | some expr =>
    if Diagnostic.hasErrors diagnostics then .error diagnostics
    else
      .ok {
        expr := if options.optimize then expr.fold else expr
        returnType := unit.function.returnType
        warnings := diagnostics
      }
  | none => .error diagnostics

end CodeUnit

end FormulaCompiler
