import FormulaCompiler.Proofs.Lexing.Paths
import FormulaCompiler.Proofs.Linkage
import FormulaCompiler.Proofs.Lowercase
import FormulaCompiler.Vocabulary

/-! The names of the library, as they are spelled and in lower case. Each is an identifier, and no
two members have the same one.
-/

namespace FormulaCompiler.Library

theorem members_nodup : (members.map Export.name).Nodup := by
  decide

theorem lowercase_nodup : (members.map fun found => lowercase found.name).Nodup := by
  decide

theorem isIdentifier_name : ∀ found ∈ members, isIdentifier found.name := by
  decide

theorem isIdentifier_lowercase : ∀ found ∈ members, isIdentifier (lowercase found.name) := by
  decide

/-- Neither the name of the library nor that of the parameter is taken by a member. -/
theorem lowercase_ne : ∀ found ∈ members,
    lowercase found.name ≠ moduleName ∧ lowercase found.name ≠ "x" := by
  decide

/-- The members that cannot be called are the two constants. -/
theorem lowercase_constant : ∀ found ∈ members, found.member.arity? = none
    → lowercase found.name = "pi" ∨ lowercase found.name = "e" := by
  decide

theorem names_standard : Vocabulary.standard.names = members.map Export.name := by
  decide

theorem isIdentifier_standard : ∀ name ∈ Vocabulary.standard.names, isIdentifier name := by
  intro name member
  rw [names_standard] at member
  obtain ⟨found, listed, rfl⟩ := List.mem_map.mp member
  exact isIdentifier_name found listed

theorem lt_of_isIdentifierPart {c : Char} (part : isIdentifierPart c) : c.toNat < 128 := by
  simp only [isIdentifierPart, Char.isAlphanum, Char.isAlpha, Char.isUpper, Char.isLower,
    Char.isDigit, Bool.or_eq_true, Bool.and_eq_true, decide_eq_true_eq,
    UInt32.le_iff_toNat_le] at part
  change c.val.toNat < 128
  rcases part with rfl | ((⟨-, high⟩ | ⟨-, high⟩) | ⟨-, high⟩)
  · decide
  · exact Nat.lt_of_le_of_lt high (by decide)
  · exact Nat.lt_of_le_of_lt high (by decide)
  · exact Nat.lt_of_le_of_lt high (by decide)

theorem isWord_name {found : Export} (listed : found ∈ members) : IsWord found.name.toList :=
  isWord_iff_isIdentifier.mpr (isIdentifier_name found listed)

/-- A name without capital letters is its own lower-case form. -/
theorem lowercase_name {found : Export} (listed : found ∈ members)
    (lowered : ∀ c ∈ found.name.toList, ¬c.isUpper)
    : lowercase found.name = found.name :=
  lowercase_of_ascii (fun c member => lt_of_isIdentifierPart ((isWord_name listed).2 c member))
    lowered

theorem isWord_lowercase {found : Export} (listed : found ∈ members)
    : IsWord (lowercase found.name).toList :=
  isWord_iff_isIdentifier.mpr (isIdentifier_lowercase found listed)

theorem lowercase_inj {first second : Export} (firstListed : first ∈ members)
    (secondListed : second ∈ members) (same : lowercase first.name = lowercase second.name)
    : first = second :=
  List.inj_on_of_nodup_map lowercase_nodup firstListed secondListed same

/-- A lower-case name is not qualified. -/
theorem lowercase_ne_qualified {found : Export} (listed : found ∈ members) (text : String)
    : lowercase found.name ≠ "math::" ++ text := by
  intro same
  have colon : ':' ∈ (lowercase found.name).toList := by
    rw [same, String.toList_append]
    exact List.mem_append_left _ (by decide)
  exact not_isIdentifierPart_colon ((isWord_lowercase listed).2 ':' colon)

/-- The constant that is looked up first is found last in all members, as no other one has its name.
-/
theorem lookup?_eq_find? (name : String)
    : lookup? name = members.find? (·.name = name) := by
  unfold lookup? members
  rw [List.find?_append]
  split
  · rename_i same
    subst same
    rfl
  · rename_i other
    have apart : [pi].find? (·.name = name) = none := by
      simpa [pi] using Ne.symm other
    rw [apart, Option.or_none]

theorem lookup?_eq_some_iff {name : String} {found : Export}
    : lookup? name = some found ↔ found ∈ members ∧ found.name = name := by
  rw [lookup?_eq_find?]
  constructor
  · intro looked
    have same : found.name = name := by simpa using List.find?_some looked
    exact ⟨List.mem_of_find?_eq_some looked, same⟩
  · rintro ⟨listed, rfl⟩
    exact find?_of_nodup Export.name members_nodup listed

/-- The vocabulary leads from a lower-case form to the member with that form. -/
theorem canonical?_standard_iff {lowered name : String}
    : Vocabulary.standard.canonical? lowered = some name
      ↔ ∃ found ∈ members, found.name = name ∧ lowercase found.name = lowered := by
  unfold Vocabulary.canonical?
  rw [names_standard]
  constructor
  · intro looked
    obtain ⟨found, listed, rfl⟩ := List.mem_map.mp (List.mem_of_find?_eq_some looked)
    exact ⟨found, listed, rfl, by simpa using List.find?_some looked⟩
  · rintro ⟨found, listed, rfl, rfl⟩
    apply find?_of_nodup lowercase
    · rw [List.map_map]
      exact lowercase_nodup
    · exact List.mem_map_of_mem listed

end FormulaCompiler.Library
