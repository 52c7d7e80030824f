import FormulaCompiler.Library

/-! The linkage of the library: a symbol leads to the function that carries it, and to no other. -/

namespace FormulaCompiler.Library

/-- Everything that has a name in the library. -/
def members : List Export :=
  exports ++ [pi]

theorem mem_members {found : Export} : found ∈ members ↔ found ∈ exports ∨ found = pi := by
  rw [members, List.mem_append, List.mem_singleton]

theorem mem_of_lookup? {name : String} {found : Export} (looked : lookup? name = some found)
    : found ∈ members := by
  unfold lookup? at looked
  split at looked
  · exact mem_members.mpr (.inr (Option.some.inj looked).symm)
  · exact mem_members.mpr (.inl (List.mem_of_find?_eq_some looked))

-----------------------------------------------------------------------------------------
-- No two functions have one symbol
-----------------------------------------------------------------------------------------

theorem symbols_nodup : symbols.Nodup := by
  decide

/-- An entry is found by its key where no two entries have the same one. -/
theorem find?_of_nodup {α β : Type} [DecidableEq β] (key : α → β) {entries : List α} {entry : α}
    (distinct : (entries.map key).Nodup) (listed : entry ∈ entries)
    : entries.find? (fun other => key other = key entry) = some entry := by
  induction entries with
  | nil => cases listed
  | cons first rest ih =>
      rw [List.map_cons, List.nodup_cons] at distinct
      rcases List.mem_cons.mp listed with rfl | later
      · exact List.find?_cons_of_pos (by simp)
      · have other : key first ≠ key entry := by
          intro same
          exact distinct.1 (same ▸ List.mem_map_of_mem later)
        rw [List.find?_cons_of_neg (by simpa using other)]
        exact ih distinct.2 later

theorem resolve?_of_mem {symbol : String} {member : Member} (listed : (symbol, member) ∈ linkage)
    : resolve? symbol = some member := by
  have found := find?_of_nodup Prod.fst symbols_nodup listed
  unfold resolve?
  rw [found]
  rfl

-----------------------------------------------------------------------------------------
-- What the symbols of functions and operators are linked to
-----------------------------------------------------------------------------------------

/-- Whatever has a symbol is linked under it. The constant that is kept apart has none. -/
theorem mem_linkage {function : Export} {symbol : String} (listed : function ∈ members)
    (found : function.symbol? = some symbol)
    : (symbol, function.member) ∈ linkage := by
  rcases mem_members.mp listed with inTable | rfl
  · refine List.mem_append_left _ (List.mem_filterMap.mpr ⟨function, inTable, ?_⟩)
    rw [found]
    rfl
  · cases found

/-- The symbol of a function in the library is linked to that function. -/
theorem resolve?_symbol {function : Export} {symbol : String} (listed : function ∈ members)
    (found : function.symbol? = some symbol)
    : resolve? symbol = some function.member :=
  resolve?_of_mem (mem_linkage listed found)

theorem resolve?_remainderSymbol : resolve? remainderSymbol = some (.binary remainder) :=
  resolve?_of_mem (List.mem_append_right _ List.mem_cons_self)

/-- The power operator shares its symbol with the function of that name. -/
theorem resolve?_powerSymbol : resolve? powerSymbol = some (.binary power) := by
  have listed : { name := "pow", member := .binary power } ∈ members := by
    simp [members, exports]
  exact resolve?_symbol listed rfl

theorem symbol?_eq_some (function : Export) {count : Nat}
    (callable : function.member.arity? = some count)
    : function.symbol? = some (symbolStem ++ function.name) := by
  unfold Export.symbol?
  rw [callable]
  rfl

/-- The instruction for an intrinsic computes what the function does that is called otherwise. -/
theorem member_of_intrinsic
    : ∀ function ∈ members, ∀ intrinsic, function.intrinsic = some intrinsic
      → function.member = .unary intrinsic.apply := by
  simp [members, exports, pi, Intrinsic.apply]

end FormulaCompiler.Library
