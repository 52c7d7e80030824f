import FormulaCompiler.Memory

/-! The state that all compilations of a process share: how many units were built, how many
artifacts are alive, and the memory that their code lies in.
-/

namespace FormulaCompiler

/-- The counters of a process, its memory, and how this memory is given away. -/
structure Process where
  units : Nat := 0
  live : Nat := 0
  memory : Memory := {}
  allocator : Allocator := .growing

namespace Process

/-- The number of the next unit, which no later unit gets. -/
def takeUnit (process : Process) : Nat × Process :=
  (process.units, { process with units := process.units + 1 })

/-- Where the next piece of code lies. -/
def nextCode (process : Process) : NativeCode :=
  process.allocator.choose process.memory

/-- The address of the next piece of code, which is in use from here on. -/
def takeCode (process : Process) : NativeCode × Process :=
  (process.nextCode, { process with memory := process.memory.occupy process.nextCode })

/-- Counts an artifact that comes to life. -/
def acquire (process : Process) : Process :=
  { process with live := process.live + 1 }

/-- Counts an artifact that is given up, and its code with it if it has any. -/
def release (process : Process) (code? : Option NativeCode) : Process :=
  { process with
    live := process.live - 1
    memory := code?.elim process.memory process.memory.free }

end Process

end FormulaCompiler
