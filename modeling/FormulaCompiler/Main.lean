import FormulaCompiler.CommandLine

/-! The program: it asks for formulas and answers them one by one.
-/

namespace FormulaCompiler

/-- Reads the bytes of one line, with its line feed, where (buffer) holds what was read already.
There is no line at the end of the input.
-/
partial def readLine (input : IO.FS.Stream) (buffer : ByteArray)
    : IO (Option (ByteArray × ByteArray)) := do
  match buffer.toList.idxOf? 0x0A with
  | some index => return some (buffer.extract 0 (index + 1), buffer.extract (index + 1) buffer.size)
  | none =>
    let more ← input.read 4096
    if more.isEmpty then
      return if buffer.isEmpty then none else some (buffer, .empty)
    else
      readLine input (buffer ++ more)

/-- Answers lines until the input ends or a line is no text. -/
partial def interact (repl : Repl) (process : Process) (buffer : ByteArray)
    (input output : IO.FS.Stream)
    : IO Unit := do
  output.putStr Repl.prompt
  output.flush
  match ← readLine input buffer with
  | none => return
  | some (line, buffer) =>
    match (splitLines line.toList).head?.bind fun bytes => repl.respond? bytes process with
    | none => return
    | some (text, process) =>
      output.putStr text
      interact repl process buffer input output

/-- Does what the arguments ask for. The result is the exit status. -/
def runProgram (arguments : List String) : IO UInt32 := do
  let output ← IO.getStdout
  match CommandLine.read arguments with
  | .prompt repl =>
    interact repl {} .empty (← IO.getStdin) output
    return 0
  | .version =>
    output.putStr CommandLine.versionLine
    return 0
  | .refused =>
    IO.eprintln "error: the arguments are not understood"
    return 2

end FormulaCompiler

/-- The program with its arguments. -/
def main (arguments : List String) : IO UInt32 :=
  FormulaCompiler.runProgram arguments
