import FormulaCompiler.Repl

/-! The arguments of the program. They are read from left to right, and the first one that is wrong
or asks for the version decides.
-/

namespace FormulaCompiler.CommandLine

/-- What the arguments ask for: a prompt, the version, or nothing that the program can do. -/
inductive Request where
  | prompt (repl : Repl)
  | version
  | refused

/-- The options that were given so far. -/
structure Given where
  x? : Option Float := none
  interpret : Bool := false

/-- The settings that options lead to. A parameter that is not given keeps its default. -/
def Given.repl (given : Given) : Repl :=
  let settings : Repl := { interpret := given.interpret }
  match given.x? with
  | some x => { settings with x := .ofFloat x }
  | none => settings

/-- Whether a text is a number that may follow a minus in an argument of its own: digits, with a
point and an exponent behind a digit each. The exponent has its mark in either case, a digit behind
it and no sign.
-/
def isPlainNumber (text : List Char) : Bool :=
  let whole := text.takeWhile Char.isDigit
  let fraction := scanFraction (text.drop whole.length)
  match text.drop (whole.length + fraction.length) with
  | [] => !whole.isEmpty
  | c :: digits =>
    isExponentMark c && !whole.isEmpty && !digits.isEmpty && digits.all Char.isDigit

/-- The value that an argument of its own gives. With a minus in front it has to be a plain number,
for it could be an option.
-/
def separateValue? (argument : String) : Option Float :=
  match argument.toList with
  | '-' :: digits => if isPlainNumber digits then readFloat? ('-' :: digits) else none
  | text => readFloat? text

/-- Goes on with a value for the parameter, which may be given once. -/
def Given.withX? (given : Given) (value? : Option Float) : Option Given :=
  match value?, given.x? with
  | some value, none => some { given with x? := some value }
  | _, _ => none

/-- Reads arguments, where (given) holds what the earlier ones said. A double dash may end them. -/
def readFrom (given : Given) : List String → Request
  | [] | ["--"] => .prompt given.repl
  | ["--x"] => .refused
  | "--x" :: value :: rest =>
    match given.withX? (separateValue? value) with
    | some given => readFrom given rest
    | none => .refused
  | "--version" :: _ => .version
  | "--interpret" :: rest =>
    if given.interpret then .refused else readFrom { given with interpret := true } rest
  | argument :: rest =>
    match argument.toList with
    | '-' :: 'V' :: _ => .version
    | '-' :: '-' :: 'x' :: '=' :: value =>
      match given.withX? (readFloat? value) with
      | some given => readFrom given rest
      | none => .refused
    | _ => .refused

/-- What the arguments of the program ask for. -/
def read (arguments : List String) : Request :=
  readFrom {} arguments

/-- The line that tells the version. -/
def versionLine : String := "calcfn 0.1.0\n"

/-- The exit status of the program and what it writes, for given arguments and input. -/
def run (arguments : List String) (input : List UInt8) : Nat × String :=
  match read arguments with
  | .prompt repl => (0, repl.transcript input)
  | .version => (0, versionLine)
  | .refused => (2, "")

end FormulaCompiler.CommandLine
