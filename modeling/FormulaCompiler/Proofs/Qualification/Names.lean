import FormulaCompiler.Binding
import FormulaCompiler.Proofs.Meaning
import FormulaCompiler.Proofs.Qualification.Paths

/-! Where the paths of a qualified formula lead. With the names of the library as the vocabulary, a
path is resolved exactly if it is the lower-case name of a member before it is qualified.
-/

namespace FormulaCompiler

-----------------------------------------------------------------------------------------
-- Resolving paths word by word
-----------------------------------------------------------------------------------------

/-- The scope of every unit that is built for a formula. -/
def Scope.standard : Scope :=
  { parameter := "x", imports := [Library.moduleName] }

theorem splitPath?_part {word : List Char} (parts : ∀ c ∈ word, isIdentifierPart c)
    (rest : List Char)
    : splitPath? (word ++ rest)
      = (splitPath? rest).map fun split => (word ++ split.1, split.2) := by
  induction word with
  | nil => simp
  | cons c word ih =>
      rw [List.forall_mem_cons] at parts
      have noColon : c ≠ ':' := by
        rintro rfl
        exact not_isIdentifierPart_colon parts.1
      rw [List.cons_append, splitPath?, ih parts.2, Option.map_map]
      · rfl
      · exact fun _ colon _ => noColon colon

theorem ofList_words_eq {first first' : List Char} {words words' : List (List Char)}
    (word : IsWord first) (more : ∀ word ∈ words, IsWord word)
    (word' : IsWord first') (more' : ∀ word ∈ words', IsWord word)
    : String.ofList (first ++ colonned words) = String.ofList (first' ++ colonned words')
      ↔ first = first' ∧ words = words' := by
  constructor
  · intro same
    have text := congrArg String.toList same
    rw [String.toList_ofList, String.toList_ofList] at text
    exact words_inj word more word' more' text
  · rintro ⟨rfl, rfl⟩
    rfl

/-- The words of a path are looked up together, and a member has one word for its name. -/
theorem Library.lookup?_words {first : List Char} {words : List (List Char)} {found : Export}
    (word : IsWord first) (more : ∀ word ∈ words, IsWord word)
    : Library.lookup? (String.ofList (first ++ colonned words)) = some found
      ↔ found ∈ Library.members ∧ first :: words = [found.name.toList] := by
  rw [Library.lookup?_eq_some_iff]
  refine and_congr_right fun listed => ?_
  have named := ofList_words_eq word more (Library.isWord_name listed) (List.forall_mem_nil _)
  rw [colonned_nil, List.append_nil, String.ofList_toList] at named
  rw [eq_comm, named, List.cons.injEq]

/-- A path is resolved if it is the module and the name of a member, and no further words. -/
theorem Scope.resolve_words {first : List Char} {words : List (List Char)} {found : Export}
    (word : IsWord first) (more : ∀ word ∈ words, IsWord word)
    : Scope.standard.resolve (String.ofList (first ++ colonned words)) = .ok found
      ↔ found ∈ Library.members ∧ first = Library.moduleName.toList
        ∧ words = [found.name.toList] := by
  unfold resolve
  rw [String.toList_ofList, splitPath?_part word.2]
  cases words with
  | nil => simp [splitPath?]
  | cons second words =>
      rw [List.forall_mem_cons] at more
      rw [colonned_cons, splitPath?, Option.map_some]
      dsimp only
      rw [List.append_nil]
      have member
          : Library.lookup? (String.ofList (second ++ colonned words)) = some found
            ↔ found ∈ Library.members ∧ second :: words = [found.name.toList] :=
        Library.lookup?_words more.1 more.2
      have module
          : (String.ofList first = Library.moduleName
              ∧ String.ofList first ∈ Scope.standard.imports)
            ↔ first = Library.moduleName.toList := by
        constructor
        · rintro ⟨same, -⟩
          rw [← same, String.toList_ofList]
        · rintro rfl
          rw [String.ofList_toList]
          exact ⟨rfl, List.mem_cons_self⟩
      by_cases library : first = Library.moduleName.toList
      · rw [if_pos (module.mpr library)]
        cases looked : Library.lookup? (String.ofList (second ++ colonned words)) with
        | none =>
            rw [looked] at member
            refine iff_of_false nofun ?_
            rintro ⟨listed, -, same⟩
            cases member.mpr ⟨listed, same⟩
        | some other =>
            rw [looked] at member
            dsimp only
            rw [Except.ok.injEq, ← Option.some.injEq, member]
            exact and_congr_right fun _ => (and_iff_right library).symm
      · rw [if_neg (mt module.mp library)]
        exact iff_of_false nofun fun resolved => library resolved.2.1

-----------------------------------------------------------------------------------------
-- Qualified paths
-----------------------------------------------------------------------------------------

namespace Export

theorem writes_words {found : Export} (listed : found ∈ Library.members)
    {first : List Char} {words : List (List Char)} (word : IsWord first)
    (more : ∀ word ∈ words, IsWord word)
    : Writes (String.ofList (first ++ colonned words)) (lowercase found.name)
      ↔ first = (lowercase found.name).toList ∧ words = []
        ∨ first = Library.moduleName.toList ∧ words = [(lowercase found.name).toList] := by
  have lowered := Library.isWord_lowercase listed
  have qualified : "math::" ++ lowercase found.name
      = String.ofList
          (Library.moduleName.toList ++ colonned [(lowercase found.name).toList]) := by
    rw [← String.toList_inj, String.toList_append, String.toList_ofList]
    simp [Library.moduleName]
  refine or_congr ?_ ?_
  · have plain := ofList_words_eq word more lowered (List.forall_mem_nil _)
    rwa [colonned_nil, List.append_nil, String.ofList_toList] at plain
  · rw [qualified]
    exact ofList_words_eq word more Qualification.isWord_moduleName
      (List.forall_mem_singleton.mpr lowered)

/-- A word without capital letters is respelled as a name exactly if it is its lower-case form. -/
theorem spelling_eq_iff {found : Export} (listed : found ∈ Library.members) {word : List Char}
    (lowered : ∀ c ∈ word, ¬c.isUpper)
    : Qualification.spelling .standard true word = found.name.toList
      ↔ word = (lowercase found.name).toList := by
  constructor
  · intro same
    unfold Qualification.spelling at same
    split at same
    · rename_i name known
      obtain ⟨other, -, rfl, form⟩ := Library.canonical?_standard_iff.mp known
      rw [if_pos rfl, String.toList_inj] at same
      rw [← same, form, String.toList_ofList]
    · subst same
      rw [Library.lowercase_name listed lowered]
  · rintro rfl
    have known : Vocabulary.standard.canonical?
        (String.ofList (lowercase found.name).toList) = some found.name := by
      rw [String.ofList_toList]
      exact Library.canonical?_standard_iff.mpr ⟨found, listed, rfl, rfl⟩
    unfold Qualification.spelling
    rw [known]
    rfl

end Export

/-- A qualified path leads to the member whose name it writes before it is qualified. Witness: a
name that is not in the vocabulary is not the name of a member, as it has no capital letters.
-/
theorem Scope.resolve_qualifies {path other : String} {found : Export}
    (qualifies : Qualification.Qualifies .standard path other)
    (lowered : ∀ c ∈ path.toList, ¬c.isUpper)
    : Scope.standard.resolve other = .ok found
      ↔ found ∈ Library.members ∧ Writes path (lowercase found.name) := by
  obtain ⟨first, words, word, more, rfl, rfl⟩ := qualifies
  obtain ⟨start, others⟩ :=
    Qualification.isWord_qualifiedWords Library.isIdentifier_standard word more
  rw [Qualification.qualifiedPath_eq, resolve_words start others]
  refine and_congr_right fun listed => ?_
  rw [Export.writes_words listed word more]
  rw [String.toList_ofList, List.forall_mem_append] at lowered
  unfold Qualification.qualifiedWords
  cases known : Vocabulary.standard.canonical? (String.ofList first) with
  | some name =>
      obtain ⟨member, memberListed, rfl, form⟩ := Library.canonical?_standard_iff.mp known
      have firstForm : first = (lowercase member.name).toList := by
        rw [form, String.toList_ofList]
      constructor
      · rintro ⟨-, same⟩
        obtain ⟨sameName, none⟩ := List.cons.inj same
        refine .inl ⟨?_, List.map_eq_nil_iff.mp none⟩
        rw [firstForm, String.toList_inj.mp sameName]
      · rintro (⟨foundForm, rfl⟩ | ⟨library, -⟩)
        · have found := Library.canonical?_standard_iff.mpr ⟨found, listed, rfl, rfl⟩
          rw [foundForm, String.ofList_toList, found] at known
          rw [Option.some.inj known]
          exact ⟨rfl, rfl⟩
        · rw [firstForm, String.toList_inj] at library
          exact absurd library (Library.lowercase_ne member memberListed).1
  | none =>
      have unknown : first ≠ (lowercase found.name).toList := by
        rintro rfl
        rw [String.ofList_toList,
          Library.canonical?_standard_iff.mpr ⟨found, listed, rfl, rfl⟩] at known
        cases known
      rw [or_iff_right fun named => unknown named.1]
      refine and_congr_right fun _ => List.map_eq_singleton_iff.trans ⟨?_, ?_⟩
      · rintro ⟨second, rfl, same⟩
        have plain : ∀ c ∈ second, ¬c.isUpper := fun c member => lowered.2 c (by simp [member])
        rw [(Export.spelling_eq_iff listed plain).mp same]
      · rintro rfl
        refine ⟨_, rfl, (Export.spelling_eq_iff listed ?_).mpr rfl⟩
        exact fun c member => lowered.2 c (by simp [member])

end FormulaCompiler
