import FormulaCompiler.Library
import FormulaCompiler.Text.Lowercase

/-! A vocabulary is the set of names that are recognized in formulas whatever their case. No two of
its names have the same lower-case form, so such a form leads back to one name.
-/

namespace FormulaCompiler

/-- Names in order, told apart by their lower-case forms. -/
structure Vocabulary where
  names : List String
  distinct : (names.map lowercase).Nodup

namespace Vocabulary

/-- The names whose lower-case form is none of (seen) and no earlier name's. -/
def keepFirst (seen : List String) : List String → List String
  | [] => []
  | name :: rest =>
    if lowercase name ∈ seen then keepFirst seen rest
    else name :: keepFirst (lowercase name :: seen) rest

/-- A name that is kept has a lower-case form of its own, by induction over the names. -/
theorem lowercase_notMem_of_mem_keepFirst {seen names : List String} {name : String}
    (kept : name ∈ keepFirst seen names)
    : lowercase name ∉ seen := by
  induction names generalizing seen with
  | nil => simp [keepFirst] at kept
  | cons head rest ih =>
    unfold keepFirst at kept
    split at kept
    · exact ih kept
    · rename_i fresh
      rcases List.mem_cons.mp kept with rfl | later
      · exact fresh
      · exact fun old => ih later (List.mem_cons_of_mem _ old)

/-- The names that are kept have different lower-case forms, by induction over the names. -/
theorem nodup_keepFirst (seen names : List String)
    : ((keepFirst seen names).map lowercase).Nodup := by
  induction names generalizing seen with
  | nil => simp [keepFirst]
  | cons head rest ih =>
    unfold keepFirst
    split
    · exact ih seen
    · refine List.nodup_cons.mpr ⟨fun repeated => ?_, ih _⟩
      obtain ⟨name, kept, same⟩ := List.mem_map.mp repeated
      exact lowercase_notMem_of_mem_keepFirst kept (same ▸ List.mem_cons_self)

/-- The vocabulary of a list of names. A name that only repeats an earlier one is dropped. -/
def ofNames (names : List String) : Vocabulary :=
  ⟨keepFirst [] names, nodup_keepFirst [] names⟩

/-- The names of the library, π last. -/
def standard : Vocabulary :=
  ofNames (Library.exports.map (·.name) ++ [Library.piName])

/-- Whether exactly this name is in the vocabulary. -/
def contains (vocabulary : Vocabulary) (name : String) : Bool :=
  name ∈ vocabulary.names

/-- The name with this lower-case form. -/
def canonical? (vocabulary : Vocabulary) (lowered : String) : Option String :=
  vocabulary.names.find? fun name => lowercase name = lowered

end Vocabulary

end FormulaCompiler
