import FormulaCompiler.Compiler
import FormulaCompiler.Text.Blank
import FormulaCompiler.Text.Lines

/-! The prompt that evaluates one formula per line. Nothing of a line is remembered but that it took
a unit, so each line is answered as if it were the only one.
-/

namespace FormulaCompiler

/-- The settings of a prompt: the value of the parameter, and whether formulas are interpreted. -/
structure Repl where
  x : Double := .ofFloat 42.0
  interpret : Bool := false

namespace Repl

/-- What is written before each line is read. -/
def prompt : String := "> "

/-- The compiler that formulas are given to. -/
def compiler (repl : Repl) : Compiler :=
  { backend := if repl.interpret then .interpreter else .native }

/-- The answer to a formula: its value, or a heading and a line for each report. -/
def answer (repl : Repl) (formula : String) (process : Process) : String × Process :=
  match repl.compiler.compile formula process with
  | (.ok function, process) =>
    (floatText (function.invoke repl.x).toFloat ++ "\n", process.release function.artifact.code?)
  | (.error diagnostics, process) =>
    let lines := diagnostics.map fun diagnostic => s!"  {diagnostic.display}\n"
    ("Errors:\n" ++ String.join lines, process)

/-- What a line gets written for it. There is no answer to a line that is no text, which ends the
prompt, and an empty one to a blank line.
-/
def respond? (repl : Repl) (line : List UInt8) (process : Process) : Option (String × Process) :=
  (decodeUtf8? line).map fun text =>
    let formula := trimBlanks text
    if formula.isEmpty then ("", process) else repl.answer formula process

/-- All that is written for lines, a prompt before each of them and one before the end. -/
def exchange (repl : Repl) (process : Process) : List (List UInt8) → List String
  | [] => [prompt]
  | line :: rest =>
    match repl.respond? line process with
    | none => [prompt]
    | some (text, process) => prompt :: text :: repl.exchange process rest

/-- The output for a whole input. -/
def transcript (repl : Repl) (input : List UInt8) : String :=
  String.join (repl.exchange {} (splitLines input))

end Repl

end FormulaCompiler
