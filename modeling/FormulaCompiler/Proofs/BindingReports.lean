import FormulaCompiler.Proofs.BlamedNames
import FormulaCompiler.Proofs.LinkedCalls
import FormulaCompiler.Proofs.Qualification.Names
import FormulaCompiler.Proofs.SingleExpression
import FormulaCompiler.Proofs.StackDiscipline

/-! What is reported about items, whatever their order is: one error for each name or call that is
of no use in the scope, and one warning for each division by a zero that is written out. The reports
end at the first item that finds too few values.
-/

namespace FormulaCompiler

-----------------------------------------------------------------------------------------
-- Names and calls that are of use
-----------------------------------------------------------------------------------------

namespace Scope

/-- Whether a path leads to a member of the library in a scope: the library is imported, and the
path is the name of its module and that of the member.
-/
structure LeadsTo (scope : Scope) (path : String) (found : Export) : Prop where
  imported : Library.moduleName ∈ scope.imports
  listed : found ∈ Library.members
  written : path = Library.moduleName ++ "::" ++ found.name

/-- Whether an item is of use in a scope: a name if it is the parameter or leads to a constant, and
a call if it leads to a function of as many arguments. The parameter hides what has its name.
-/
def Usable (scope : Scope) : PostfixNode → Prop
  | .name path =>
    path = scope.parameter
    ∨ ∃ found value, scope.LeadsTo path found ∧ found.member = .constant value
  | .call path count =>
    path ≠ scope.parameter
    ∧ ∃ found, scope.LeadsTo path found ∧ found.member.arity? = some count
  | .number _ | .negate | .operator _ => True

/-- Whether an item is refused for this problem, where the arguments of a call make no difference
apart from their number.
-/
def Refuses (scope : Scope) : PostfixNode → Problem → Prop
  | .name path, problem => scope.name path = .error problem
  | .call path count, problem =>
    ∀ arguments : List Expr, arguments.length = count → scope.call path arguments = .error problem
  | _, _ => False

variable {scope : Scope} {path : String}

theorem resolve_eq_ok_iff {found : Export}
    : scope.resolve path = .ok found ↔ scope.LeadsTo path found := by
  constructor
  · intro resolved
    unfold resolve at resolved
    split at resolved
    · cases resolved
    · rename_i module member split
      dsimp only at resolved
      split at resolved
      · rename_i known
        split at resolved
        · rename_i looked
          cases resolved
          obtain ⟨listed, named⟩ := Library.lookup?_eq_some_iff.mp looked
          refine ⟨known.1 ▸ known.2, listed, ?_⟩
          rw [← known.1, named, ← String.toList_inj, eq_of_splitPath? split]
          simp
        · cases resolved
      · cases resolved
  · rintro ⟨imported, listed, rfl⟩
    have letters
        : (Library.moduleName ++ "::" ++ found.name).toList
          = Library.moduleName.toList ++ ':' :: ':' :: found.name.toList := by
      simp
    have split
        : splitPath? (Library.moduleName ++ "::" ++ found.name).toList
          = some (Library.moduleName.toList, found.name.toList) := by
      rw [letters, splitPath?_part Qualification.isWord_moduleName.2, splitPath?]
      simp
    unfold resolve
    rw [split]
    dsimp only
    rw [String.ofList_toList, String.ofList_toList, if_pos ⟨rfl, imported⟩,
      Library.lookup?_eq_some_iff.mpr ⟨listed, rfl⟩]

theorem usable_name_iff : scope.Usable (.name path) ↔ ∃ expr, scope.name path = .ok expr := by
  change (path = scope.parameter ∨ _) ↔ _
  unfold name
  by_cases own : path = scope.parameter
  · rw [if_pos own]
    exact iff_of_true (.inl own) ⟨_, rfl⟩
  · rw [if_neg own, or_iff_right own]
    simp only [← resolve_eq_ok_iff]
    cases scope.resolve path with
    | error problem => simp
    | ok found => cases kind : found.member <;> simp [kind]

theorem call_of_wrongCount {found : Export} {arguments : List Expr} {expected : Nat}
    (other : path ≠ scope.parameter) (resolved : scope.resolve path = .ok found)
    (arity : found.member.arity? = some expected) (wrong : arguments.length ≠ expected)
    : scope.call path arguments
      = .error (.wrongArgumentCount path expected arguments.length) := by
  unfold call
  rw [if_neg other, resolved]
  dsimp only
  rw [arity]
  exact if_pos wrong

/-- A call is of use, or it is refused for a reason that its arguments have no part in. -/
theorem usable_or_refuses_call (scope : Scope) (path : String) (count : Nat)
    : scope.Usable (.call path count)
      ∨ ¬scope.Usable (.call path count) ∧ ∃ problem, scope.Refuses (.call path count) problem := by
  by_cases own : path = scope.parameter
  · exact .inr ⟨fun usable => usable.1 own, _, fun arguments _ => if_pos own⟩
  · cases resolved : scope.resolve path with
    | error problem =>
        refine .inr ⟨?_, problem, fun arguments _ => ?_⟩
        · rintro ⟨-, found, leads, -⟩
          rw [resolve_eq_ok_iff.mpr leads] at resolved
          cases resolved
        · rw [call, if_neg own, resolved]
    | ok found =>
        have unique {other : Export} (leads : scope.LeadsTo path other) : other = found :=
          Except.ok.inj ((resolve_eq_ok_iff.mpr leads).symm.trans resolved)
        cases arity : found.member.arity? with
        | none =>
            refine .inr ⟨?_, .notCallable path, fun arguments _ => ?_⟩
            · rintro ⟨-, other, leads, callable⟩
              rw [unique leads, arity] at callable
              cases callable
            · simp only [call, if_neg own, resolved, arity]
        | some expected =>
            by_cases same : count = expected
            · exact .inl ⟨own, found, resolve_eq_ok_iff.mp resolved, same ▸ arity⟩
            · refine .inr ⟨?_, .wrongArgumentCount path expected count, ?_⟩
              · rintro ⟨-, other, leads, callable⟩
                rw [unique leads, arity] at callable
                exact same (Option.some.inj callable).symm
              · rintro arguments rfl
                exact call_of_wrongCount own resolved arity same

theorem exists_call_of_usable {arguments : List Expr}
    (usable : scope.Usable (.call path arguments.length))
    : ∃ expr, scope.call path arguments = .ok expr := by
  obtain ⟨other, found, leads, arity⟩ := usable
  rcases call_of_arity other (resolve_eq_ok_iff.mpr leads) arity with
    ⟨arg, -, called⟩ | ⟨left, right, -, called⟩
  · exact ⟨_, called⟩
  · exact ⟨_, called⟩

theorem severity_of_refuses {node : PostfixNode} {problem : Problem}
    (refuses : scope.Refuses node problem)
    : problem.severity = .error := by
  cases node with
  | name path => exact Problem.severity_of_kind? (kind?_of_name refuses) nofun
  | call path count =>
      have failed := refuses (List.replicate count .parameter) List.length_replicate
      exact Problem.severity_of_kind? (kind?_of_call failed) nofun
  | number _ | negate | operator _ => cases refuses

end Scope

-----------------------------------------------------------------------------------------
-- Zeros that are written out
-----------------------------------------------------------------------------------------

/-- Whether items end in a zero literal with nothing but negations behind it. -/
def EndsInZero (front : List PostfixItem) : Prop :=
  ∃ before value span signs, front = before ++ ⟨.number value, span⟩ :: signs
    ∧ (value == 0.0) = true ∧ ∀ sign ∈ signs, sign.content = .negate

/-- Whether an item behind these ones divides by a zero literal, which may have signs. The items of
the right operand of an operator stand right before it.
-/
def DividesByZero (front : List PostfixItem) (node : PostfixNode) : Prop :=
  (node = .operator .divide ∨ node = .operator .remainder) ∧ EndsInZero front

theorem endsInZero_concat {front : List PostfixItem} {item : PostfixItem}
    : EndsInZero (front ++ [item])
      ↔ (∃ value, item.content = .number value ∧ (value == 0.0) = true)
        ∨ item.content = .negate ∧ EndsInZero front := by
  constructor
  · rintro ⟨before, value, span, signs, parts, isZero, all⟩
    rcases List.eq_nil_or_concat signs with rfl | ⟨signs, last, rfl⟩
    · obtain ⟨-, same⟩ := List.append_inj' parts rfl
      obtain rfl := List.singleton_inj.mp same
      exact .inl ⟨value, rfl, isZero⟩
    · rw [List.concat_eq_append, ← List.cons_append, ← List.append_assoc] at parts
      obtain ⟨rfl, same⟩ := List.append_inj' parts rfl
      obtain rfl := List.singleton_inj.mp same
      rw [List.concat_eq_append, List.forall_mem_append] at all
      exact .inr ⟨all.2 item List.mem_cons_self, before, value, span, signs, rfl, isZero, all.1⟩
  · obtain ⟨content, place⟩ := item
    rintro (⟨value, rfl, isZero⟩ | ⟨rfl, before, value, span, signs, rfl, isZero, all⟩)
    · exact ⟨front, value, place, [], rfl, isZero, List.forall_mem_nil _⟩
    · refine ⟨before, value, span, signs ++ [⟨.negate, place⟩], by simp, isZero, ?_⟩
      rw [List.forall_mem_append]
      exact ⟨all, List.forall_mem_singleton.mpr rfl⟩

/-- No constant of the library is zero. -/
theorem Library.constant_ne_zero : ∀ found ∈ members, ∀ value, found.member = .constant value
    → (value.toFloat == 0.0) = false := by
  simp [members, exports, pi]
  decide

namespace Scope

variable {scope : Scope}

theorem isLiteralZero_placeholder : Expr.isLiteralZero (.constant .noNumber) = false := by
  decide

theorem isLiteralZero_of_name (path : String)
    : (placed (scope.name path)).isLiteralZero = false := by
  unfold name
  split
  · rfl
  · split
    · exact isLiteralZero_placeholder
    · rename_i found resolved
      split
      · rename_i value kind
        exact Library.constant_ne_zero found (mem_of_resolve resolved) value kind
      · exact isLiteralZero_placeholder

theorem isLiteralZero_of_call (path : String) (arguments : List Expr)
    : (placed (scope.call path arguments)).isLiteralZero = false := by
  rw [call_eq]
  split
  · exact isLiteralZero_placeholder
  · split
    · exact isLiteralZero_placeholder
    · split
      · exact isLiteralZero_placeholder
      · rfl
      · exact isLiteralZero_placeholder
      · rfl
      · exact isLiteralZero_placeholder

-----------------------------------------------------------------------------------------
-- One item
-----------------------------------------------------------------------------------------

/-- (scope.Due front item found) says that (found) is to be reported about an item that finds enough
values behind these ones: nothing, one warning or one error, at the place of the item.
-/
inductive Due (scope : Scope) (front : List PostfixItem) (item : PostfixItem)
    : List Diagnostic → Prop
  | nothing (usable : scope.Usable item.content) (sound : ¬DividesByZero front item.content)
    : Due scope front item []
  | warning (divides : DividesByZero front item.content)
    : Due scope front item [{ problem := .zeroDivisor, span := item.span }]
  | error {problem} (useless : ¬scope.Usable item.content)
    (refuses : scope.Refuses item.content problem) (severe : problem.severity = .error)
    : Due scope front item [{ problem, span := item.span }]

/-- Whether a stack is one that items leave: as high as they make it, and with a zero literal on top
exactly if they end in one.
-/
structure LeftBy (front : List PostfixItem) (stack : List Expr) : Prop where
  height : heightAfter? 0 front = some stack.length
  zero : ∀ expr ∈ stack.head?, expr.isLiteralZero ↔ EndsInZero front

theorem leftBy_nil : LeftBy [] [] :=
  ⟨rfl, nofun⟩

theorem ofResolved_expr (below : List Expr) (resolved : Except Problem Expr)
    : (Reduction.ofResolved below resolved).expr = placed resolved := by
  cases resolved <;> rfl

/-- What is reported about a name or call is why it is not resolved. -/
theorem map_problem?_ofResolved (below : List Expr) (resolved : Except Problem Expr) (span : Span)
    : ((Reduction.ofResolved below resolved).problem?.toList.map fun problem =>
        ({ problem, span } : Diagnostic))
      = reported span resolved := by
  cases resolved <;> rfl

section

variable {front : List PostfixItem} {stack : List Expr} {item : PostfixItem}
  {reduction : Reduction} (left : LeftBy front stack)
  (reduced : scope.reduce? stack item.content = some reduction)

include left reduced

/-- Only a number and a negation can leave a zero literal, by cases on the item. -/
theorem isLiteralZero_iff : reduction.expr.isLiteralZero ↔ EndsInZero (front ++ [item]) := by
  rw [endsInZero_concat]
  obtain ⟨content, span⟩ := item
  cases content with
  | number value =>
      cases reduced
      simp [Expr.isLiteralZero]
  | name path =>
      cases reduced
      rw [ofResolved_expr, isLiteralZero_of_name]
      simp
  | negate =>
      rcases stack with _ | ⟨arg, below⟩ <;> cases reduced
      have zero := left.zero arg rfl
      simpa [Expr.isLiteralZero] using zero
  | operator op =>
      rcases stack with _ | ⟨right, _ | ⟨first, below⟩⟩ <;> cases reduced
      simp [Expr.isLiteralZero]
  | call path count =>
      rw [reduce?] at reduced
      split at reduced <;> cases reduced
      rw [ofResolved_expr, isLiteralZero_of_call]
      simp

theorem LeftBy.concat : LeftBy (front ++ [item]) (reduction.expr :: reduction.below) := by
  have height := length_below reduced
  constructor
  · rw [heightAfter?_append, left.height, Option.bind_some, heightAfter?, if_pos (by omega),
      heightAfter?, List.length_cons]
    congr 1
    omega
  · rintro expr ⟨⟩
    exact isLiteralZero_iff left reduced

/-- What is reported about an item is due, by cases on the item. -/
theorem due_of_reduce?
    : scope.Due front item
        (reduction.problem?.toList.map fun problem => { problem, span := item.span }) := by
  obtain ⟨content, span⟩ := item
  cases content with
  | number value =>
      cases reduced
      exact .nothing trivial (by simp [DividesByZero])
  | name path =>
      cases reduced
      have sound : ¬DividesByZero front (.name path) := by simp [DividesByZero]
      rw [map_problem?_ofResolved]
      cases resolved : scope.name path with
      | ok expr => exact .nothing (usable_name_iff.mpr ⟨expr, resolved⟩) sound
      | error problem =>
          have refuses : scope.Refuses (.name path) problem := resolved
          refine .error ?_ refuses (severity_of_refuses refuses)
          rw [usable_name_iff, resolved]
          exact nofun
  | negate =>
      rcases stack with _ | ⟨arg, below⟩ <;> cases reduced
      exact .nothing trivial (by simp [DividesByZero])
  | operator op =>
      rcases stack with _ | ⟨right, _ | ⟨first, below⟩⟩ <;> cases reduced
      have zero := left.zero right rfl
      dsimp only
      have divides
          : (op.divides && right.isLiteralZero) ↔ DividesByZero front (.operator op) := by
        rw [Bool.and_eq_true, zero]
        refine and_congr_left fun _ => ?_
        cases op <;> simp [Operator.divides]
      split
      · exact .warning (divides.mp ‹_›)
      · exact .nothing trivial (mt divides.mpr ‹_›)
  | call path count =>
      have sound : ¬DividesByZero front (.call path count) := by simp [DividesByZero]
      rw [reduce?] at reduced
      split at reduced <;> cases reduced
      rename_i enough
      have supplied : (stack.take count).reverse.length = count := by
        rw [List.length_reverse, List.length_take, Nat.min_eq_left enough]
      rw [map_problem?_ofResolved]
      rcases usable_or_refuses_call scope path count with usable | ⟨useless, problem, refuses⟩
      · obtain ⟨expr, called⟩ := exists_call_of_usable (supplied.symm ▸ usable)
        rw [called]
        exact .nothing usable sound
      · rw [refuses _ supplied]
        exact .error useless refuses (severity_of_refuses refuses)

end

-----------------------------------------------------------------------------------------
-- All items
-----------------------------------------------------------------------------------------

/-- (scope.Reports front items found) says that (found) is what is due to be reported about items
that follow others, one item after the other up to the first that finds too few values.
-/
inductive Reports (scope : Scope) : List PostfixItem → List PostfixItem → List Diagnostic → Prop
  | done {front} : Reports scope front [] []
  | short {front item rest height} (reached : heightAfter? 0 front = some height)
    (few : height < item.content.operandCount)
    : Reports scope front (item :: rest) []
  | next {front item rest height found later} (reached : heightAfter? 0 front = some height)
    (enough : item.content.operandCount ≤ height) (due : scope.Due front item found)
    (others : Reports scope (front ++ [item]) rest later)
    : Reports scope front (item :: rest) (found ++ later)

/-- By induction over the items: each of them leaves a stack that fits the items up to it. -/
theorem reports_bindOnto {front items : List PostfixItem} {stack : List Expr}
    (left : LeftBy front stack)
    : scope.Reports front items (scope.bindOnto stack items).2 := by
  induction items generalizing front stack with
  | nil =>
      unfold bindOnto
      split <;> exact .done
  | cons item rest ih =>
      cases reduced : scope.reduce? stack item.content with
      | none =>
          rw [bindOnto, reduced]
          exact .short left.height (reduce?_eq_none_iff.mp reduced)
      | some reduction =>
          rw [bindOnto_cons reduced]
          refine .next left.height ?_ (due_of_reduce? left reduced) (ih (left.concat reduced))
          rw [← length_below reduced]
          exact Nat.le_add_left _ _

/-- Whether items are bound to an expression is up to the values that they take and leave: each
finds enough, and one is left. What is reported is one error for each name or call that is of no use
and one warning for each division by a zero literal, in the order of the items up to the first that
finds too few values; and the reports of the checks before are kept in front. Witness: the stack is
as high as the items make it, and has a zero literal on top exactly if they end in one.
-/
theorem binds_by_stack_discipline (scope : Scope) (items : List PostfixItem)
    : ((scope.bind items).1.isSome ↔ heightAfter? 0 items = some 1)
      ∧ scope.Reports [] items (scope.bind items).2
      ∧ ∀ unit : CodeUnit,
          Diagnostic.hasErrors (tokenize unit.body).diagnostics = false
          → ShuntingYard.postfixOrder (tokenize unit.body).tokens (byteLength unit.body.toList)
            = .ok items
          → unit.check
            = ((unit.scope.bind items).1,
                (tokenize unit.body).diagnostics ++ (unit.scope.bind items).2) := by
  refine ⟨isSome_bindOnto_iff [] items, reports_bindOnto leftBy_nil, ?_⟩
  intro unit clean accepted
  obtain ⟨formula, reads, rfl⟩ := ShuntingYard.reads_of_postfixOrder accepted
  rw [CodeUnit.check_of_readAs ⟨clean, reads⟩, bind_postorder]

/-- Cutting, a division by zero and an unknown call are reported in this order. -/
theorem binds_division_and_unknown_call
    : let unit := CodeUnit.build 0 "1e999 / -0 + y(2)" .double
      let items : List PostfixItem :=
        [⟨.number infinity, ⟨0, 5⟩⟩, ⟨.number 0, ⟨9, 10⟩⟩, ⟨.negate, ⟨8, 9⟩⟩,
          ⟨.operator .divide, ⟨6, 7⟩⟩, ⟨.number 2, ⟨15, 16⟩⟩, ⟨.call "y" 1, ⟨13, 17⟩⟩,
          ⟨.operator .add, ⟨11, 12⟩⟩]
      Diagnostic.hasErrors (tokenize unit.body).diagnostics = false
      ∧ ShuntingYard.postfixOrder (tokenize unit.body).tokens (byteLength unit.body.toList)
        = .ok items
      ∧ (unit.scope.bind items).1.isSome
      ∧ unit.check.2
        = [{ problem := .infiniteLiteral "1e999", span := ⟨0, 5⟩ },
          { problem := .zeroDivisor, span := ⟨6, 7⟩ },
          { problem := .unknownName "y", span := ⟨13, 17⟩ }] := by
  intro unit items
  have clean : Diagnostic.hasErrors (tokenize unit.body).diagnostics = false := by
    decide +kernel
  have accepted
      : ShuntingYard.postfixOrder (tokenize unit.body).tokens (byteLength unit.body.toList)
        = .ok items := by
    have tokens : (tokenize unit.body).tokens
        = [⟨.number infinity, ⟨0, 5⟩⟩, ⟨.operator .divide, ⟨6, 7⟩⟩,
          ⟨.operator .subtract, ⟨8, 9⟩⟩, ⟨.number 0, ⟨9, 10⟩⟩, ⟨.operator .add, ⟨11, 12⟩⟩,
          ⟨.name "y", ⟨13, 14⟩⟩, ⟨.openParen, ⟨14, 15⟩⟩, ⟨.number 2, ⟨15, 16⟩⟩,
          ⟨.closeParen, ⟨16, 17⟩⟩] := by
      decide +kernel
    rw [tokens]
    rfl
  obtain ⟨succeeds, -, checked⟩ := binds_by_stack_discipline unit.scope items
  have found : (tokenize unit.body).diagnostics
      = [{ problem := .infiniteLiteral "1e999", span := ⟨0, 5⟩ }] := by
    decide +kernel
  refine ⟨clean, accepted, succeeds.mpr (by decide), ?_⟩
  rw [checked unit clean accepted, found]
  decide +kernel

end Scope

end FormulaCompiler
