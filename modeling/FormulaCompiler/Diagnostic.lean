import FormulaCompiler.Token

/-! What can be wrong with a formula. Each cause is a constructor, which decides the severity, the
code and the wording of the report; a diagnostic adds the place in the text.
-/

namespace FormulaCompiler

/-- How bad a problem is. -/
inductive Severity where
  | warning
  | error
deriving DecidableEq, Repr

/-- The word for a severity. -/
def Severity.text : Severity → String
  | .warning => "warning"
  | .error => "error"

/-- The places where an expression was expected and is missing. -/
inductive OperandPlace where
  | beforeOperator (op : Operator)
  | beforeComma
  | beforeClose
  | insideParens
  | atEnd
deriving DecidableEq, Repr

/-- The words for a place where an expression is missing. -/
def OperandPlace.text : OperandPlace → String
  | .beforeOperator op => s!"before '{op.symbol}'"
  | .beforeComma => "before ','"
  | .beforeClose => "before ')'"
  | .insideParens => "inside '()'"
  | .atEnd => "at end of input"

/-- The causes of reports. The last one is for reports that are made elsewhere. -/
inductive Problem where
  | unexpectedCharacter (c : Char)
  | danglingSeparator
  | malformedNumber (text : String)
  | missingOperand (place : OperandPlace)
  | unmatchedClose
  | unclosedOpen
  | unexpectedOperand (token : Token)
  | strayComma
  | notOneExpression
  | unknownName (path : String)
  | unknownMember (module member : String)
  | unknownModule (module : String)
  | wrongArgumentCount (path : String) (expected supplied : Nat)
  | notCallable (path : String)
  | functionAsValue (path : String)
  | infiniteLiteral (text : String)
  | zeroDivisor
  | memberNotFunction (name : String)
  | missingEntryPoint (symbol : String)
  | other (severity : Severity) (code message : String)
deriving DecidableEq

/-- The severity that a problem is reported with at first. -/
def Problem.severity : Problem → Severity
  | .infiniteLiteral _ | .zeroDivisor => .warning
  | .other severity _ _ => severity
  | _ => .error

/-- The code of a problem, which names its kind. -/
def Problem.code : Problem → String
  | .unexpectedCharacter _ | .danglingSeparator => "CF0001"
  | .malformedNumber _ => "CF0002"
  | .missingOperand _ => "CF0003"
  | .unmatchedClose | .unclosedOpen => "CF0004"
  | .unexpectedOperand _ | .strayComma | .notOneExpression => "CF0005"
  | .unknownName _ | .unknownMember _ _ => "CF0101"
  | .unknownModule _ => "CF0102"
  | .wrongArgumentCount _ _ _ => "CF0103"
  | .notCallable _ => "CF0104"
  | .functionAsValue _ => "CF0105"
  | .infiniteLiteral _ => "CF0201"
  | .zeroDivisor => "CF0202"
  | .memberNotFunction _ | .missingEntryPoint _ => "CF0900"
  | .other _ code _ => code

/-- The wording of a problem. -/
def Problem.message : Problem → String
  | .unexpectedCharacter c => s!"unexpected character in input: {c}"
  | .danglingSeparator => "expected a name after '::'"
  | .malformedNumber text => s!"malformed number literal {text}"
  | .missingOperand place => s!"expected an expression {place.text}"
  | .unmatchedClose => "unmatched ')'"
  | .unclosedOpen => "unclosed '('"
  | .unexpectedOperand token => s!"unexpected {token.display}, expected an operator"
  | .strayComma => "unexpected ',' outside of a function call"
  | .notOneExpression => "the body is not a single expression"
  | .unknownName path => s!"the name '{path}' does not exist in the current context"
  | .unknownMember module member => s!"module '{module}' has no member named '{member}'"
  | .unknownModule module => s!"could not find module '{module}'; is an import missing?"
  | .wrongArgumentCount path expected supplied =>
    let plural := if expected = 1 then "" else "s"
    s!"function '{path}' takes {expected} argument{plural} but {supplied} were supplied"
  | .notCallable path => s!"'{path}' is not a function and cannot be called"
  | .functionAsValue path => s!"function '{path}' is used like a value; it must be called"
  | .infiniteLiteral text => s!"literal {text} is out of range and evaluates to infinity"
  | .zeroDivisor => "division by constant zero"
  | .memberNotFunction name => s!"library member {name} is not a function"
  | .missingEntryPoint symbol => s!"entry point {symbol} not found in the compiled artifact"
  | .other _ _ message => message

/-- A problem and the part of the text it is about. An escalated diagnostic is a warning that is
treated as an error.
-/
structure Diagnostic where
  problem : Problem
  span : Span
  escalated : Bool := false
deriving DecidableEq

namespace Diagnostic

/-- The severity of a diagnostic, which escalation raises. -/
def severity (diagnostic : Diagnostic) : Severity :=
  if diagnostic.escalated then .error else diagnostic.problem.severity

/-- Whether a diagnostic keeps a formula from being compiled. -/
def isError (diagnostic : Diagnostic) : Bool :=
  diagnostic.severity = .error

/-- Treats a warning as an error, and leaves an error as it is. -/
def escalate (diagnostic : Diagnostic) : Diagnostic :=
  if diagnostic.isError then diagnostic else { diagnostic with escalated := true }

/-- The line that a diagnostic is shown as. -/
def display (diagnostic : Diagnostic) : String :=
  let mark := if diagnostic.escalated then " [warning treated as error]" else ""
  s!"{diagnostic.severity.text} {diagnostic.problem.code}: {diagnostic.problem.message} "
    ++ s!"(at {diagnostic.span.start}..{diagnostic.span.stop}){mark}"

/-- Whether any of the diagnostics is an error. -/
def hasErrors (diagnostics : List Diagnostic) : Bool :=
  diagnostics.any isError

/-- How many of the diagnostics are errors. -/
def errorCount (diagnostics : List Diagnostic) : Nat :=
  diagnostics.countP isError

/-- The line that sums up a failed compilation. Warnings are counted too. -/
def summary (diagnostics : List Diagnostic) : String :=
  match diagnostics.length with
  | 1 => "1 error occurred in compilation."
  | count => s!"{count} errors occurred in compilation."

end Diagnostic

end FormulaCompiler
