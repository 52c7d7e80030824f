import FormulaCompiler.Proofs.Binding
import FormulaCompiler.Proofs.Qualification.Names
import FormulaCompiler.Proofs.Renaming

/-! A tree that was qualified is bound without an error exactly if it means something before, and
the expression it is bound to has that meaning.
-/

namespace FormulaCompiler

open Qualification

/-- Whether an expression has these values. -/
def Expr.Computes (expr : Expr) (value : Double → Double) : Prop :=
  ∀ x, expr.eval x = value x

/-- Whether an expression with its reports realizes a meaning: the reports have no error, and the
expression has those values. Where there is no meaning, the reports have an error.
-/
def Realizes (meaning? : Option (Double → Double)) (expr : Expr) (found : List Diagnostic) : Prop :=
  match meaning? with
  | some value => Diagnostic.hasErrors found = false ∧ expr.Computes value
  | none => Diagnostic.hasErrors found

/-- Without an error there is a meaning, which the expression has. -/
theorem Realizes.of_bound {meaning? : Option (Double → Double)} {expr : Expr}
    {found : List Diagnostic} (realizes : Realizes meaning? expr found)
    (bound : Diagnostic.hasErrors found = false)
    : ∃ value, meaning? = some value ∧ expr.Computes value := by
  cases meaning? with
  | none => exact absurd (bound.symm.trans realizes) Bool.false_ne_true
  | some value => exact ⟨value, rfl, realizes.2⟩

theorem realizes_ok {span : Span} {expr : Expr} {value : Double → Double}
    (same : expr.Computes value)
    : Realizes (some value) (placed (.ok expr)) (reported span (.ok expr)) :=
  ⟨rfl, same⟩

theorem realizes_error {span : Span} {problem : Problem} (severe : problem.severity = .error)
    : Realizes none (placed (.error problem)) (reported span (.error problem)) := by
  have isError : Diagnostic.isError { problem, span } := decide_eq_true severe
  exact List.any_eq_true.mpr ⟨_, List.mem_cons_self, isError⟩

-----------------------------------------------------------------------------------------
-- Names
-----------------------------------------------------------------------------------------

/-- Whether a lower-case path is written as another one by the names of the library. -/
def Leads (path other : String) : Prop :=
  Qualifies .standard path other ∧ ∀ c ∈ path.toList, ¬c.isUpper

section

variable {path other : String} (leads : Leads path other)

include leads

/-- The parameter is not qualified, and no other path becomes the parameter. -/
theorem Leads.parameter_iff : other = Scope.standard.parameter ↔ path = "x" := by
  change other = "x" ↔ path = "x"
  obtain ⟨⟨first, words, word, more, rfl, rfl⟩, -⟩ := leads
  obtain ⟨start, others⟩ := isWord_qualifiedWords Library.isIdentifier_standard word more
  have letter : IsWord "x".toList := isWord_iff_isIdentifier.mpr (by decide)
  have written (front : List Char) (later : List (List Char)) (isWord : IsWord front)
      (all : ∀ word ∈ later, IsWord word)
      : String.ofList (front ++ colonned later) = "x" ↔ front = "x".toList ∧ later = [] :=
    ofList_words_eq isWord all letter (List.forall_mem_nil _)
  rw [qualifiedPath_eq, written _ _ start others, written _ _ word more]
  unfold qualifiedWords
  cases known : Vocabulary.standard.canonical? (String.ofList first) with
  | some name =>
      obtain ⟨found, listed, -, form⟩ := Library.canonical?_standard_iff.mp known
      refine iff_of_false (fun named => List.cons_ne_nil _ _ named.2) ?_
      rintro ⟨rfl, -⟩
      rw [String.ofList_toList] at form
      exact (Library.lowercase_ne found listed).2 form
  | none => exact and_congr_right fun _ => List.map_eq_nil_iff

theorem Leads.resolve_iff {found : Export}
    : Scope.standard.resolve other = .ok found
      ↔ found ∈ Library.members ∧ Writes path (lowercase found.name) :=
  Scope.resolve_qualifies leads.1 leads.2

/-- A path names the member that it leads to. -/
theorem Leads.named?_iff {found : Export}
    : Library.named? path = some found ↔ Scope.standard.resolve other = .ok found :=
  named?_eq_some_iff.trans leads.resolve_iff.symm

theorem Leads.name_of_constant (other' : path ≠ "x") {found : Export} {value : Double}
    (listed : found ∈ Library.members) (writes : Writes path (lowercase found.name))
    (kind : found.member = .constant value)
    : Scope.standard.name other = .ok (.constant value) := by
  have resolved := leads.resolve_iff.mpr ⟨listed, writes⟩
  rw [Scope.name, if_neg (mt leads.parameter_iff.mp other'), resolved]
  dsimp only
  rw [kind]

/-- A name that writes neither the parameter nor a constant is an error. -/
theorem Leads.name_of_unknown (other' : path ≠ "x") (notPi : ¬Writes path "pi")
    (notE : ¬Writes path "e")
    : ∃ problem, Scope.standard.name other = .error problem := by
  rw [Scope.name, if_neg (mt leads.parameter_iff.mp other')]
  cases resolved : Scope.standard.resolve other with
  | error problem => exact ⟨problem, rfl⟩
  | ok found =>
      obtain ⟨listed, writes⟩ := leads.resolve_iff.mp resolved
      dsimp only
      split
      · rename_i value kind
        have named := Library.lowercase_constant found listed (congrArg Member.arity? kind)
        rcases named with pi | e
        · exact absurd (pi ▸ writes) notPi
        · exact absurd (e ▸ writes) notE
      · exact ⟨_, rfl⟩

/-- A name is bound to what it means, and reported where it means nothing. -/
theorem Leads.realizes_name (span : Span)
    : Realizes (nameMeaning? path) (placed (Scope.standard.name other))
        (reported span (Scope.standard.name other)) := by
  unfold nameMeaning?
  by_cases parameter : path = "x"
  · have named : Scope.standard.name other = .ok .parameter :=
      if_pos (leads.parameter_iff.mpr parameter)
    rw [if_pos parameter, named]
    exact realizes_ok fun _ => rfl
  · rw [if_neg parameter]
    split
    · rename_i pi
      have listed : Library.pi ∈ Library.members := Library.mem_members.mpr (.inr rfl)
      rw [leads.name_of_constant parameter listed pi rfl]
      exact realizes_ok fun _ => rfl
    · split
      · rename_i e
        have listed
            : { name := "E", member := .constant (.ofFloat 2.718281828459045) }
              ∈ Library.members := by
          simp [Library.members, Library.exports]
        rw [leads.name_of_constant parameter listed e rfl]
        exact realizes_ok fun _ => rfl
      · obtain ⟨problem, failed⟩ := leads.name_of_unknown parameter ‹_› ‹_›
        rw [failed]
        exact realizes_error (Problem.severity_of_kind? (Scope.kind?_of_name failed) (by decide))

-----------------------------------------------------------------------------------------
-- Calls
-----------------------------------------------------------------------------------------

theorem Leads.call_of_unknown (unknown : Library.named? path = none) (exprs : List Expr)
    : ∃ problem, Scope.standard.call other exprs = .error problem := by
  unfold Scope.call
  split
  · exact ⟨_, rfl⟩
  · cases resolved : Scope.standard.resolve other with
    | error problem => exact ⟨problem, rfl⟩
    | ok found =>
        rw [leads.named?_iff.mpr resolved] at unknown
        cases unknown

theorem Leads.call_of_named {found : Export} (named : Library.named? path = some found)
    (exprs : List Expr)
    : Scope.standard.call other exprs
      = match found.member, exprs with
        | .constant _, _ => .error (.notCallable other)
        | .unary _, [arg] => .ok (.call1 found arg)
        | .unary _, _ => .error (.wrongArgumentCount other 1 exprs.length)
        | .binary _, [left, right] => .ok (.call2 found left right)
        | .binary _, _ => .error (.wrongArgumentCount other 2 exprs.length) := by
  have resolved := leads.named?_iff.mp named
  obtain ⟨listed, writes⟩ := leads.resolve_iff.mp resolved
  have notParameter : path ≠ "x" := by
    rintro rfl
    rcases writes with plain | qualified
    · exact (Library.lowercase_ne found listed).2 plain.symm
    · have letters := congrArg String.toList qualified
      rw [String.toList_append] at letters
      exact absurd (List.cons.inj letters).1 (by decide)
  rewrite [Scope.call_eq, if_neg (mt leads.parameter_iff.mp notParameter), resolved]
  rfl

/-- A call is bound to what it means, and reported where its path names no function of as many
arguments.
-/
theorem Leads.realizes_call (span : Span) {exprs : List Expr} {values : List (Double → Double)}
    (same : List.Forall₂ Expr.Computes exprs values)
    : Realizes ((Library.named? path).bind fun found => found.member.called? values)
        (placed (Scope.standard.call other exprs))
        (reported span (Scope.standard.call other exprs)) := by
  cases named : Library.named? path with
  | none =>
      obtain ⟨problem, failed⟩ := leads.call_of_unknown named exprs
      rw [failed]
      exact realizes_error (Problem.severity_of_kind? (Scope.kind?_of_call failed) (by decide))
  | some found =>
      rw [leads.call_of_named named, Option.bind_some]
      cases kind : found.member with
      | constant value => exact realizes_error rfl
      | unary apply =>
          rcases same with _ | ⟨first, _ | ⟨second, rest⟩⟩
          · exact realizes_error rfl
          · refine realizes_ok fun x => ?_
            simp only [Expr.eval, kind, first x]
          · exact realizes_error rfl
      | binary apply =>
          rcases same with _ | ⟨first, _ | ⟨second, _ | ⟨third, rest⟩⟩⟩
          · exact realizes_error rfl
          · exact realizes_error rfl
          · refine realizes_ok fun x => ?_
            simp only [Expr.eval, kind, first x, second x]
          · exact realizes_error rfl

end

-----------------------------------------------------------------------------------------
-- Trees
-----------------------------------------------------------------------------------------

/-- Whether expressions with their reports realize meanings, one expression each. -/
def RealizesAll (meanings? : Option (List (Double → Double))) (exprs : List Expr)
    (found : List Diagnostic)
    : Prop :=
  match meanings? with
  | some values =>
    Diagnostic.hasErrors found = false ∧ List.Forall₂ Expr.Computes exprs values
  | none => Diagnostic.hasErrors found

theorem Realizes.negate {meaning? : Option (Double → Double)} {arg : Expr}
    {found : List Diagnostic} (operand : Realizes meaning? arg found)
    : Realizes (meaning?.bind fun value => some fun x => -value x) (.negate arg) found := by
  cases meaning? with
  | none => exact operand
  | some value => exact ⟨operand.1, fun x => congrArg _ (operand.2 x)⟩

theorem Realizes.binary {op : Operator} {first? second? : Option (Double → Double)}
    {left right : Expr} {leftFound rightFound warnings : List Diagnostic}
    (first : Realizes first? left leftFound) (second : Realizes second? right rightFound)
    (noErrors : Diagnostic.hasErrors warnings = false)
    : Realizes
        (first?.bind fun l => second?.bind fun r => some fun x => op.apply (l x) (r x))
        (.binary op left right) (leftFound ++ (rightFound ++ warnings)) := by
  unfold Realizes at *
  rw [Diagnostic.hasErrors_append, Diagnostic.hasErrors_append, noErrors, Bool.or_false]
  cases first? with
  | none =>
      rw [first]
      rfl
  | some l =>
      cases second? with
      | none =>
          rw [second, Bool.or_true]
          rfl
      | some r =>
          refine ⟨?_, fun x => ?_⟩
          · rw [first.1, second.1]
            rfl
          · rw [Expr.eval, first.2, second.2]

theorem Realizes.call {meanings? : Option (List (Double → Double))} {callee? : Option Export}
    {exprs : List Expr} {expr : Expr} {found called : List Diagnostic}
    (args : RealizesAll meanings? exprs found)
    (callee
      : ∀ values, List.Forall₂ Expr.Computes exprs values
        → Realizes (callee?.bind fun callee => callee.member.called? values) expr called)
    : Realizes
        (callee?.bind fun callee => meanings?.bind fun values => callee.member.called? values)
        expr (found ++ called) := by
  cases meanings? with
  | none =>
      have nothing
          : (callee?.bind fun callee =>
              (none : Option (List (Double → Double))).bind fun values =>
                callee.member.called? values) = none := by
        cases callee? <;> rfl
      rw [nothing]
      exact (Diagnostic.hasErrors_append _ _).trans (by rw [args, Bool.true_or])
  | some values =>
      have realized := callee values args.2
      simp only [Option.bind_some]
      unfold Realizes at *
      rw [Diagnostic.hasErrors_append, args.1, Bool.false_or]
      exact realized

theorem hasErrors_zeroDivisor (condition : Bool) (span : Span)
    : Diagnostic.hasErrors (if condition then [{ problem := .zeroDivisor, span }] else [])
      = false := by
  cases condition <;> rfl

theorem RealizesAll.cons {meaning? : Option (Double → Double)}
    {meanings? : Option (List (Double → Double))} {expr : Expr} {exprs : List Expr}
    {found later : List Diagnostic} (first : Realizes meaning? expr found)
    (rest : RealizesAll meanings? exprs later)
    : RealizesAll (meaning?.bind fun value => meanings?.bind fun values => some (value :: values))
        (expr :: exprs) (found ++ later) := by
  unfold RealizesAll at *
  unfold Realizes at first
  rw [Diagnostic.hasErrors_append]
  cases meaning? with
  | none =>
      rw [first]
      rfl
  | some value =>
      cases meanings? with
      | none =>
          rw [rest, Bool.or_true]
          rfl
      | some values =>
          refine ⟨?_, .cons first.2 rest.2⟩
          rw [first.1, rest.1]
          rfl

mutual
/-- A tree whose names lead to those of another one means what that is bound to. -/
theorem Formula.realizes (formula qualified : Formula)
    (same : formula.Renames Leads qualified)
    : Realizes formula.meaning? (qualified.bound .standard) (qualified.reports .standard) := by
  cases formula with
  | number value span =>
      cases qualified with
      | number value' span' =>
          obtain rfl : value = value' := same
          exact ⟨rfl, fun _ => rfl⟩
      | _ => cases same
  | name path span =>
      cases qualified with
      | name other span' => exact Leads.realizes_name same span'
      | _ => cases same
  | negate arg span =>
      cases qualified with
      | negate arg' span' => exact (Formula.realizes arg arg' same).negate
      | _ => cases same
  | operator op left right span =>
      cases qualified with
      | operator op' left' right' span' =>
          obtain ⟨rfl, first, second⟩ := same
          exact (Formula.realizes left left' first).binary (Formula.realizes right right' second)
            (hasErrors_zeroDivisor _ span')
      | _ => cases same
  | call path args span =>
      obtain ⟨other, args', span', rfl, leads, renames⟩ := same.call
      exact Realizes.call (Formula.realizesAll args args' renames) fun values realized =>
        leads.realizes_call _ realized

/-- Trees whose names lead to those of other ones mean what those are bound to. -/
theorem Formula.realizesAll (args qualified : List Formula)
    (same : RenamesAll Leads args qualified)
    : RealizesAll (meanings? args) (boundAll .standard qualified)
        (reportsAll .standard qualified) := by
  cases args with
  | nil =>
      cases qualified with
      | nil => exact ⟨rfl, .nil⟩
      | cons arg' rest' => cases same
  | cons arg rest =>
      cases qualified with
      | nil => cases same
      | cons arg' rest' =>
          exact RealizesAll.cons (Formula.realizes arg arg' same.1)
            (Formula.realizesAll rest rest' same.2)
end

end FormulaCompiler
