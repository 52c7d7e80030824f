import FormulaCompiler.Expr
import FormulaCompiler.Proofs.Grammar
import FormulaCompiler.Proofs.LibraryNames

/-! What the trees of formulas mean, apart from all phases of a compilation. A tree means something
exactly if all its names are known and its calls have as many arguments as the functions take.
-/

namespace FormulaCompiler

/-- Whether a path writes this name, with the name of the library before it or without. -/
def Writes (path name : String) : Prop :=
  path = name ∨ path = "math::" ++ name

instance (path name : String) : Decidable (Writes path name) :=
  inferInstanceAs (Decidable (_ ∨ _))

/-- What a name that is not called means: the parameter or one of the two constants. -/
def nameMeaning? (path : String) : Option (Double → Double) :=
  if path = "x" then some fun x => x
  else if Writes path "pi" then some fun _ => .ofFloat 3.141592653589793
  else if Writes path "e" then some fun _ => .ofFloat 2.718281828459045
  else none

/-- The member of the library whose lower-case name a path writes. -/
def Library.named? (path : String) : Option Export :=
  members.find? fun found => Writes path (lowercase found.name)

/-- What a member means that is called with arguments, if it is a function of as many. -/
def Member.called? : Member → List (Double → Double) → Option (Double → Double)
  | .unary apply, [arg] => some fun x => apply (arg x)
  | .binary apply, [left, right] => some fun x => apply (left x) (right x)
  | _, _ => none

namespace Formula

mutual
/-- What a tree means as a function of the parameter. It means nothing where a name is unknown, or
where a function is not called with as many arguments as it takes.
-/
def meaning? : Formula → Option (Double → Double)
  | number value _ => some fun _ => .ofFloat value
  | name path _ => nameMeaning? path
  | negate arg _ => do
    let value ← meaning? arg
    return fun x => -value x
  | operator op left right _ => do
    let first ← meaning? left
    let second ← meaning? right
    return fun x => op.apply (first x) (second x)
  | call path args _ => do
    let found ← Library.named? path
    let values ← meanings? args
    found.member.called? values

/-- What several trees mean, if each of them means something. -/
def meanings? : List Formula → Option (List (Double → Double))
  | [] => some []
  | arg :: rest => do
    let value ← meaning? arg
    let values ← meanings? rest
    return value :: values
end

mutual
/-- Whether every name is the parameter or a constant, and every call one of a library function with
as many arguments as it takes.
-/
def Known : Formula → Prop
  | number _ _ => True
  | name path _ => path = "x" ∨ Writes path "pi" ∨ Writes path "e"
  | negate arg _ => Known arg
  | operator _ left right _ => Known left ∧ Known right
  | call path args _ =>
    (∃ function ∈ Library.members, Writes path (lowercase function.name)
      ∧ function.member.arity? = some args.length)
    ∧ KnownAll args

/-- Whether all names and calls of several trees are known. -/
def KnownAll : List Formula → Prop
  | [] => True
  | arg :: rest => Known arg ∧ KnownAll rest
end

end Formula

-----------------------------------------------------------------------------------------
-- Known names and calls are those that mean something
-----------------------------------------------------------------------------------------

theorem isSome_nameMeaning?_iff {path : String}
    : (nameMeaning? path).isSome ↔ path = "x" ∨ Writes path "pi" ∨ Writes path "e" := by
  unfold nameMeaning?
  split
  · simp [*]
  · split
    · simp [*]
    · split <;> simp [*]

theorem isSome_called?_iff {member : Member} {values : List (Double → Double)}
    : (member.called? values).isSome ↔ member.arity? = some values.length := by
  rcases values with _ | ⟨first, _ | ⟨second, _ | ⟨third, rest⟩⟩⟩ <;> cases member <;>
    simp [Member.called?, Member.arity?]

/-- A path writes the name of one member at most. -/
theorem Writes.unique {path : String} {first second : Export}
    (firstListed : first ∈ Library.members) (secondListed : second ∈ Library.members)
    (writesFirst : Writes path (lowercase first.name))
    (writesSecond : Writes path (lowercase second.name))
    : first = second := by
  apply Library.lowercase_inj firstListed secondListed
  rcases writesFirst with rfl | rfl
  · exact writesSecond.resolve_right (Library.lowercase_ne_qualified firstListed _)
  · rcases writesSecond with plain | qualified
    · exact absurd plain.symm (Library.lowercase_ne_qualified secondListed _)
    · have letters := congrArg String.toList qualified
      rw [String.toList_append, String.toList_append] at letters
      exact String.toList_inj.mp (List.append_cancel_left letters)

theorem named?_eq_some_iff {path : String} {found : Export}
    : Library.named? path = some found
      ↔ found ∈ Library.members ∧ Writes path (lowercase found.name) := by
  have sound {first : Export} (named : Library.named? path = some first)
      : first ∈ Library.members ∧ Writes path (lowercase first.name) :=
    ⟨List.mem_of_find?_eq_some named, by simpa using List.find?_some named⟩
  refine ⟨sound, ?_⟩
  rintro ⟨listed, writes⟩
  cases named : Library.named? path with
  | none => exact absurd (decide_eq_true writes) (List.find?_eq_none.mp named found listed)
  | some first =>
      obtain ⟨firstListed, writesFirst⟩ := sound named
      rw [writesFirst.unique firstListed listed writes]

namespace Formula

theorem length_of_meanings? {args : List Formula} {values : List (Double → Double)}
    (means : meanings? args = some values)
    : values.length = args.length := by
  induction args generalizing values with
  | nil =>
      obtain rfl := Option.some.inj means
      rfl
  | cons arg rest ih =>
      obtain ⟨value, -, means⟩ := Option.bind_eq_some_iff.mp means
      obtain ⟨later, restMeans, same⟩ := Option.bind_eq_some_iff.mp means
      obtain rfl := Option.some.inj same
      rw [List.length_cons, List.length_cons, ih restMeans]

theorem isSome_meaning?_call {path : String} {args : List Formula} {span : Span}
    : (call path args span).meaning?.isSome
      ↔ (∃ function ∈ Library.members, Writes path (lowercase function.name)
          ∧ function.member.arity? = some args.length)
        ∧ (meanings? args).isSome := by
  cases values : meanings? args with
  | none =>
      have nothing : (call path args span).meaning? = none := by
        rw [meaning?, values]
        cases Library.named? path <;> rfl
      simp [nothing]
  | some means =>
      have meaning
          : (call path args span).meaning?
            = (Library.named? path).bind fun found => found.member.called? means := by
        rw [meaning?, values]
        rfl
      rw [meaning, ← length_of_meanings? values, Option.isSome_some, and_iff_left rfl]
      constructor
      · intro known
        obtain ⟨function, named, called⟩ :=
          Option.bind_eq_some_iff.mp (Option.isSome_iff_exists.mp known).choose_spec
        obtain ⟨listed, writes⟩ := named?_eq_some_iff.mp named
        refine ⟨function, listed, writes, isSome_called?_iff.mp ?_⟩
        rw [called]
        rfl
      · rintro ⟨function, listed, writes, arity⟩
        rw [named?_eq_some_iff.mpr ⟨listed, writes⟩, Option.bind_some]
        exact isSome_called?_iff.mpr arity

mutual
/-- A tree means something exactly if all its names and calls are known. -/
theorem isSome_meaning?_iff (formula : Formula) : formula.meaning?.isSome ↔ formula.Known := by
  cases formula with
  | number value span => exact iff_of_true rfl trivial
  | name path span => exact isSome_nameMeaning?_iff
  | negate arg span =>
      have operand := isSome_meaning?_iff arg
      rw [meaning?, Known, ← operand]
      cases arg.meaning? <;> rfl
  | operator op left right span =>
      have first := isSome_meaning?_iff left
      have second := isSome_meaning?_iff right
      rw [meaning?, Known, ← first, ← second]
      cases left.meaning? <;> cases right.meaning? <;> simp
  | call path args span =>
      have all := isSome_meanings?_iff args
      rw [isSome_meaning?_call, Known, ← all]

theorem isSome_meanings?_iff (args : List Formula) : (meanings? args).isSome ↔ KnownAll args := by
  cases args with
  | nil => exact iff_of_true rfl trivial
  | cons arg rest =>
      have first := isSome_meaning?_iff arg
      have later := isSome_meanings?_iff rest
      rw [meanings?, KnownAll, ← first, ← later]
      cases arg.meaning? <;> cases meanings? rest <;> simp
end

end Formula

end FormulaCompiler
