import Mathlib
import FormulaCompiler.Proofs.Linkage
import FormulaCompiler.Vocabulary

/-! A vocabulary as a table that is read in both directions: from positions to names, and from
lower-case forms to positions. Adding names one by one keeps both directions in step, and the table
comes to the same names as the vocabulary.
-/

namespace FormulaCompiler.Vocabulary

/-- Names in their order, and for each lower-case form the position of the name that has it. -/
structure Table where
  names : List String := []
  positions : Std.HashMap String Nat := {}

namespace Table

/-- Puts a name behind the others. A name that is there already is passed over, and so is one whose
lower-case form is taken.
-/
def add (table : Table) (name : String) : Table :=
  if name ∈ table.names then table
  else if lowercase name ∈ table.positions then table
  else
    {
      names := table.names ++ [name]
      positions := table.positions.insert (lowercase name) table.names.length
    }

/-- The table of a list of names. -/
def ofNames (names : List String) : Table :=
  names.foldl add {}

/-- The name at the position that a lower-case form leads to. -/
def canonical? (table : Table) (lowered : String) : Option String :=
  table.positions[lowered]?.bind fun position => table.names[position]?

/-- The lower-case forms of the names. -/
def forms (table : Table) : List String :=
  table.names.map lowercase

-----------------------------------------------------------------------------------------
-- Both directions
-----------------------------------------------------------------------------------------

/-- Whether both directions are in step: a form leads to the position of the name that has it. -/
structure InStep (table : Table) : Prop where
  leads
    : ∀ (form : String) (position : Nat),
        table.positions[form]? = some position ↔ table.forms[position]? = some form

namespace InStep

variable {table : Table} (inStep : table.InStep)

include inStep

theorem mem_positions_iff {form : String} : form ∈ table.positions ↔ form ∈ table.forms := by
  rw [Std.HashMap.mem_iff_isSome_getElem?, Option.isSome_iff_exists, List.mem_iff_getElem?]
  exact exists_congr fun position => inStep.leads form position

/-- Of the two reasons to pass a name over, the second one covers the first. -/
theorem add_of_taken {name : String} (taken : lowercase name ∈ table.forms)
    : table.add name = table := by
  unfold Table.add
  rw [if_pos (inStep.mem_positions_iff.mpr taken), ite_self]

theorem add_of_fresh {name : String} (fresh : lowercase name ∉ table.forms)
    : table.add name
      = {
          names := table.names ++ [name]
          positions := table.positions.insert (lowercase name) table.names.length
        } := by
  have unlisted : name ∉ table.names := fun listed => fresh (List.mem_map_of_mem listed)
  unfold Table.add
  rw [if_neg unlisted, if_neg (mt inStep.mem_positions_iff.mp fresh)]

/-- A name that is added takes the one position behind the others. -/
theorem add (name : String) : (table.add name).InStep := by
  by_cases taken : lowercase name ∈ table.forms
  · rw [inStep.add_of_taken taken]
    exact inStep
  · rw [inStep.add_of_fresh taken]
    refine ⟨fun form position => ?_⟩
    have others := inStep.leads form position
    have absent : table.forms[position]? ≠ some (lowercase name) :=
      fun found => taken (List.mem_of_getElem? found)
    have length : table.forms.length = table.names.length := List.length_map _
    rw [Std.HashMap.getElem?_insert, forms, List.map_append, ← forms]
    simp only [List.map_cons, List.map_nil, List.getElem?_append, beq_iff_eq]
    grind

end InStep

theorem inStep_empty : InStep {} :=
  ⟨fun form position => by simp [forms]⟩

/-- By induction over the names, each of which is added. -/
theorem inStep_foldl {table : Table} (inStep : table.InStep) (names : List String)
    : (names.foldl Table.add table).InStep := by
  induction names generalizing table with
  | nil => exact inStep
  | cons name rest ih => exact ih (inStep.add name)

theorem inStep_ofNames (names : List String) : (ofNames names).InStep :=
  inStep_foldl inStep_empty names

end Table

-----------------------------------------------------------------------------------------
-- The names that are kept
-----------------------------------------------------------------------------------------

/-- Which names are kept depends on the forms that were seen, and not on their order. -/
theorem keepFirst_congr {seen other : List String} (same : ∀ form, form ∈ seen ↔ form ∈ other)
    (names : List String)
    : keepFirst seen names = keepFirst other names := by
  induction names generalizing seen other with
  | nil => rfl
  | cons name rest ih =>
      have more (form : String)
          : form ∈ lowercase name :: seen ↔ form ∈ lowercase name :: other := by
        rw [List.mem_cons, List.mem_cons, same]
      rw [keepFirst, keepFirst, ih same, ih more]
      simp only [same]

/-- The names that are kept are those before which no other has the same form. By induction over the
names, which stand behind (front).
-/
theorem keepFirst_eq (front names : List String)
    : keepFirst (front.map lowercase) names
      = ((names.zipIdx front.length).filter fun entry =>
          lowercase entry.1 ∉ ((front ++ names).take entry.2).map lowercase).map (·.1) := by
  induction names generalizing front with
  | nil => rfl
  | cons name rest ih =>
      have later := ih (front ++ [name])
      have forms : (front ++ [name]).map lowercase = front.map lowercase ++ [lowercase name] :=
        List.map_append
      rw [List.append_assoc, List.singleton_append, List.length_append, List.length_singleton,
        forms] at later
      rw [keepFirst, List.zipIdx_cons]
      split
      · rename_i taken
        rw [List.filter_cons_of_neg (by simpa using taken), ← later]
        refine keepFirst_congr (fun form => ?_) rest
        rw [List.mem_append, List.mem_singleton]
        exact ⟨.inl, fun listed => listed.elim id fun same => same ▸ taken⟩
      · rename_i fresh
        rw [List.filter_cons_of_pos (by simpa using fresh), List.map_cons, ← later]
        refine congrArg _ (keepFirst_congr (fun form => ?_) rest)
        rw [List.mem_append, List.mem_singleton, List.mem_cons, or_comm]

theorem keepFirst_of_nodup {seen names : List String}
    (distinct : (names.map lowercase).Nodup) (unseen : ∀ name ∈ names, lowercase name ∉ seen)
    : keepFirst seen names = names := by
  induction names generalizing seen with
  | nil => rfl
  | cons name rest ih =>
      rw [List.forall_mem_cons] at unseen
      obtain ⟨first, later⟩ := List.nodup_cons.mp distinct
      rw [keepFirst, if_neg unseen.1, ih later]
      intro other listed taken
      rcases List.mem_cons.mp taken with same | old
      · exact first (same ▸ List.mem_map_of_mem listed)
      · exact unseen.2 other listed old

theorem ofNames_names (vocabulary : Vocabulary) : ofNames vocabulary.names = vocabulary := by
  have kept : keepFirst [] vocabulary.names = vocabulary.names :=
    keepFirst_of_nodup vocabulary.distinct fun _ _ => List.not_mem_nil
  cases vocabulary
  simpa only [ofNames, mk.injEq] using kept

/-- A vocabulary leads from a form to the one name that has it. -/
theorem canonical?_eq_some_iff {vocabulary : Vocabulary} {lowered name : String}
    : vocabulary.canonical? lowered = some name
      ↔ name ∈ vocabulary.names ∧ lowercase name = lowered := by
  constructor
  · intro found
    exact ⟨List.mem_of_find?_eq_some found, by simpa using List.find?_some found⟩
  · rintro ⟨listed, rfl⟩
    exact Library.find?_of_nodup lowercase vocabulary.distinct listed

-----------------------------------------------------------------------------------------
-- The table and the vocabulary
-----------------------------------------------------------------------------------------

namespace Table

namespace InStep

variable {table : Table} (inStep : table.InStep)

include inStep

/-- Behind a name that is added, its form has been seen as well. -/
theorem keepFirst_add {name : String} (fresh : lowercase name ∉ table.forms) (names : List String)
    : keepFirst (table.add name).forms names
      = keepFirst (lowercase name :: table.forms) names := by
  refine keepFirst_congr (fun form => ?_) names
  rw [inStep.add_of_fresh fresh]
  simp [forms, or_comm]

/-- By induction over the names: the table passes over those that the vocabulary does not keep. -/
theorem names_foldl (names : List String)
    : (names.foldl Table.add table).names = table.names ++ keepFirst table.forms names := by
  induction names generalizing table with
  | nil => rw [keepFirst, List.append_nil, List.foldl_nil]
  | cons name rest ih =>
      rw [List.foldl_cons, ih (inStep.add name), keepFirst]
      by_cases taken : lowercase name ∈ table.forms
      · rw [if_pos taken, inStep.add_of_taken taken]
      · rw [if_neg taken, inStep.keepFirst_add taken, inStep.add_of_fresh taken,
          List.append_assoc, List.singleton_append]

/-- A name that is passed over leaves nothing behind, by induction over the names. -/
theorem foldl_keepFirst (names : List String)
    : (keepFirst table.forms names).foldl Table.add table = names.foldl Table.add table := by
  induction names generalizing table with
  | nil => rfl
  | cons name rest ih =>
      rw [List.foldl_cons, keepFirst]
      split
      · rename_i taken
        rw [inStep.add_of_taken taken]
        exact ih inStep
      · rename_i fresh
        rw [List.foldl_cons, ← inStep.keepFirst_add fresh]
        exact ih (inStep.add name)

theorem canonical?_eq_some_iff {lowered name : String}
    : table.canonical? lowered = some name
      ↔ name ∈ table.names ∧ lowercase name = lowered := by
  simp only [canonical?, Option.bind_eq_some_iff, inStep.leads, forms, List.getElem?_map,
    Option.map_eq_some_iff, List.mem_iff_getElem?]
  grind

end InStep

theorem names_ofNames (names : List String)
    : (ofNames names).names = (Vocabulary.ofNames names).names :=
  inStep_empty.names_foldl names

theorem ofNames_names (names : List String) : ofNames (ofNames names).names = ofNames names := by
  rw [names_ofNames]
  exact inStep_empty.foldl_keepFirst names

end Table

/-- A vocabulary is a table in both directions. It lists the names that no earlier name has the
lower-case form of, in their order; a form leads to the one name listed that has it, and just the
names listed are led to by their own forms. The positions by form are those of the names, so none is
beyond them, and the same names give the same table again. Witness: every name that is added has a
form of its own and takes the position behind the others, and one that is passed over changes
neither direction.
-/
theorem ofNames_two_way (names : List String)
    : (ofNames names).names
        = (names.zipIdx.filter fun entry =>
            lowercase entry.1 ∉ (names.take entry.2).map lowercase).map (·.1)
      ∧ (∀ lowered name, (ofNames names).canonical? lowered = some name
          ↔ name ∈ (ofNames names).names ∧ lowercase name = lowered)
      ∧ (∀ name ∈ (ofNames names).names, ∀ other ∈ (ofNames names).names,
          lowercase name = lowercase other → name = other)
      ∧ (∀ name, (ofNames names).contains name
          ↔ (ofNames names).canonical? (lowercase name) = some name)
      ∧ (Table.ofNames names).names = (ofNames names).names
      ∧ (∀ lowered,
          (Table.ofNames names).canonical? lowered = (ofNames names).canonical? lowered)
      ∧ (∀ (form : String) (position : Nat),
          (Table.ofNames names).positions[form]? = some position
          → ∃ inside : position < (Table.ofNames names).names.length,
              lowercase (Table.ofNames names).names[position] = form)
      ∧ ofNames (ofNames names).names = ofNames names
      ∧ Table.ofNames (Table.ofNames names).names = Table.ofNames names := by
  have inStep : (Table.ofNames names).InStep := Table.inStep_ofNames names
  have same : (Table.ofNames names).names = (ofNames names).names := Table.names_ofNames names
  refine ⟨keepFirst_eq [] names, fun _ _ => canonical?_eq_some_iff, ?_, fun name => ?_, same,
    fun lowered => ?_, fun form position led => ?_, ofNames_names (ofNames names),
    Table.ofNames_names names⟩
  · intro name listed other also form
    exact List.inj_on_of_nodup_map (ofNames names).distinct listed also form
  · rw [canonical?_eq_some_iff, contains, decide_eq_true_iff, and_iff_left rfl]
  · refine Option.ext fun name => ?_
    rw [inStep.canonical?_eq_some_iff, canonical?_eq_some_iff, same]
  · have known := (inStep.leads form position).mp led
    rw [Table.forms, List.getElem?_map, Option.map_eq_some_iff] at known
    obtain ⟨name, found, rfl⟩ := known
    obtain ⟨inside, rfl⟩ := List.getElem?_eq_some_iff.mp found
    exact ⟨inside, rfl⟩

/-- Repeated names, a name that differs in case from an earlier one, and a letter that shadows one
of ASCII: the names behind them move up.
-/
theorem ofNames_shadowed
    : let names := ["PI", "sin", "Pi", "sin", "\u212A", "k", "cos"]
      let table := Table.ofNames names
      table.names = ["PI", "sin", "\u212A", "cos"]
      ∧ table.positions["cos"]? = some 3
      ∧ (∃ inside : 3 < table.names.length, lowercase table.names[3] = "cos")
      ∧ (ofNames names).canonical? "k" = some "\u212A"
      ∧ ¬(ofNames names).contains "k" := by
  intro names table
  obtain ⟨-, canonical, -, contained, same, -, positions, -, -⟩ := ofNames_two_way names
  have listed : (ofNames names).names = ["PI", "sin", "\u212A", "cos"] := by decide +kernel
  have kelvin : (ofNames names).canonical? "k" = some "\u212A" :=
    (canonical "k" "\u212A").mpr ⟨by simp [listed], by decide +kernel⟩
  have led : table.positions["cos"]? = some 3 := by
    rw [(Table.inStep_ofNames names).leads, Table.forms, same, listed]
    decide +kernel
  refine ⟨same.trans listed, led, positions "cos" 3 led, kelvin, ?_⟩
  rw [contained, show lowercase "k" = "k" by decide +kernel, kelvin]
  decide

end FormulaCompiler.Vocabulary
