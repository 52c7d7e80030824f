/-! The memory that code lies in. Code is known by its address, and an address that was given up can
be given again.
-/

namespace FormulaCompiler

/-- The address of a piece of code, which is all that is known of the code from outside. -/
structure NativeCode where
  address : Nat
deriving DecidableEq, Repr

/-- Where code lies that is in use, and where code lay that was given up, the latest first. -/
structure Memory where
  used : List NativeCode := []
  freed : List NativeCode := []

namespace Memory

/-- The memory with one more piece of code. -/
def occupy (memory : Memory) (code : NativeCode) : Memory :=
  { memory with used := code :: memory.used }

/-- The memory after a piece of code was given up. -/
def free (memory : Memory) (code : NativeCode) : Memory :=
  { used := memory.used.erase code, freed := code :: memory.freed }

/-- The first address beyond all that were ever given. -/
def beyond (memory : Memory) : NativeCode :=
  ⟨((memory.used ++ memory.freed).map (·.address)).max?.getD 0 + 1⟩

theorem beyond_notMem_used (memory : Memory) : memory.beyond ∉ memory.used := by
  intro used
  have given : memory.beyond.address ∈ (memory.used ++ memory.freed).map (·.address) :=
    List.mem_map_of_mem (List.mem_append_left _ used)
  exact Nat.not_succ_le_self _ (List.le_max?_getD_of_mem given)

end Memory

/-- How the address of new code is chosen. It is never one that is in use; whether one that was
given up is given again is left open.
-/
structure Allocator where
  choose : Memory → NativeCode
  choose_notMem_used : ∀ memory, choose memory ∉ memory.used

namespace Allocator

/-- Always goes on to new addresses. -/
def growing : Allocator :=
  ⟨Memory.beyond, Memory.beyond_notMem_used⟩

end Allocator

end FormulaCompiler
