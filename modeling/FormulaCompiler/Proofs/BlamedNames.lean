import FormulaCompiler.Proofs.Binding

/-! The names that reports of binding are about. A report has the span of the item that was bound,
and if it is about a name, then its problem tells the path in that item.
-/

namespace FormulaCompiler

/-- (problem.Blames path) says that a problem with a name is one with this path. A member is told by
the two parts of its path, and a module by the part before the first double colon.
-/
def Problem.Blames : Problem → String → Prop
  | .unknownName named, path | .notCallable named, path | .functionAsValue named, path
  | .wrongArgumentCount named _ _, path => path = named
  | .unknownMember module member, path => path = module ++ "::" ++ member
  | .unknownModule module, path => ∃ rest, path = module ++ "::" ++ rest
  | _, _ => False

/-- The codes of problems with names. -/
def Problem.nameCodes : List String :=
  ["CF0101", "CF0102", "CF0103", "CF0104", "CF0105"]

theorem Problem.code_not_mem_nameCodes {problem : Problem} {kind : ProblemKind}
    (known : problem.kind? = some kind) (other : kind ≠ .name)
    : problem.code ∉ nameCodes := by
  cases problem with
  | unknownName _ | unknownMember _ _ | unknownModule _ | wrongArgumentCount _ _ _
  | notCallable _ | functionAsValue _ =>
      cases known
      exact absurd rfl other
  | other _ _ _ => cases known
  | _ => simp [code, nameCodes]

/-- Only what is wrong with an artifact is reported as such. -/
theorem Problem.code_ne_of_kind? {problem : Problem} {kind : ProblemKind}
    (known : problem.kind? = some kind) (other : kind ≠ .artifact)
    : problem.code ≠ "CF0900" := by
  cases problem with
  | memberNotFunction _ | missingEntryPoint _ =>
      cases known
      exact absurd rfl other
  | other _ _ _ => cases known
  | _ => simp [code]

theorem Problem.Blames.kind? {problem : Problem} {path : String} (blames : problem.Blames path)
    : problem.kind? = some .name := by
  cases problem with
  | unknownName _ | unknownMember _ _ | unknownModule _ | wrongArgumentCount _ _ _
  | notCallable _ | functionAsValue _ => rfl
  | _ => exact absurd blames id

/-- A path is split at its first double colon, and nothing is lost. -/
theorem eq_of_splitPath? {path module member : List Char}
    (split : splitPath? path = some (module, member))
    : path = module ++ ':' :: ':' :: member := by
  fun_induction splitPath? path generalizing module with
  | case1 rest =>
      cases split
      rfl
  | case2 c rest _ ih =>
      obtain ⟨⟨front, behind⟩, found, same⟩ := Option.map_eq_some_iff.mp split
      cases same
      rw [ih found, List.cons_append]
  | case3 => cases split

/-- The path of an item, if it has one. -/
def PostfixNode.path? : PostfixNode → Option String
  | .name path | .call path _ => some path
  | .number _ | .negate | .operator _ => none

namespace Scope

variable {scope : Scope} {path : String} {problem : Problem}

theorem blames_of_resolve (failed : scope.resolve path = .error problem) : problem.Blames path := by
  unfold resolve at failed
  split at failed
  · cases failed
    rfl
  · rename_i module member split
    have parts : path = String.ofList module ++ "::" ++ String.ofList member := by
      rw [← String.toList_inj, eq_of_splitPath? split]
      simp
    dsimp only at failed
    split at failed
    · split at failed <;> cases failed
      exact parts
    · cases failed
      exact ⟨_, parts⟩

theorem blames_of_name (failed : scope.name path = .error problem) : problem.Blames path := by
  unfold name at failed
  split at failed
  · cases failed
  · split at failed
    · cases failed
      exact blames_of_resolve ‹_›
    · split at failed <;> cases failed
      rfl

theorem blames_of_call {arguments : List Expr} (failed : scope.call path arguments = .error problem)
    : problem.Blames path := by
  rw [call_eq] at failed
  split at failed
  · cases failed
    rfl
  · split at failed
    · cases failed
      exact blames_of_resolve ‹_›
    · split at failed <;> cases failed <;> rfl

theorem eq_error_of_ofResolved {below : List Expr} {resolved : Except Problem Expr}
    (found : (Reduction.ofResolved below resolved).problem? = some problem)
    : resolved = .error problem := by
  cases resolved with
  | ok expr => cases found
  | error failed =>
      cases found
      rfl

/-- What is reported about one item is about its path, or that it divides by zero. -/
theorem blames_of_reduce? {stack : List Expr} {node : PostfixNode} {reduction : Reduction}
    (reduced : scope.reduce? stack node = some reduction)
    (found : reduction.problem? = some problem)
    : problem = .zeroDivisor ∨ ∃ path ∈ node.path?, problem.Blames path := by
  cases node with
  | number value =>
      cases reduced
      cases found
  | name path =>
      cases reduced
      exact .inr ⟨path, rfl, blames_of_name (eq_error_of_ofResolved found)⟩
  | negate =>
      cases stack <;> cases reduced
      cases found
  | operator op =>
      rcases stack with _ | ⟨right, _ | ⟨left, below⟩⟩ <;> cases reduced
      dsimp only at found
      split at found <;> cases found
      exact .inl rfl
  | call path count =>
      rw [reduce?] at reduced
      split at reduced <;> cases reduced
      exact .inr ⟨path, rfl, blames_of_call (eq_error_of_ofResolved found)⟩

/-- Every report of binding is about an item and has its span, by induction over the items. -/
theorem exists_item_of_mem_bindOnto {stack : List Expr} {items : List PostfixItem}
    {report : Diagnostic} (listed : report ∈ (scope.bindOnto stack items).2)
    : ∃ item ∈ items,
        report.span = item.span
        ∧ (report.problem = .zeroDivisor
          ∨ ∃ path ∈ item.content.path?, report.problem.Blames path) := by
  induction items generalizing stack with
  | nil =>
      unfold bindOnto at listed
      split at listed <;> cases listed
  | cons item rest ih =>
      cases reduced : scope.reduce? stack item.content with
      | none =>
          rw [bindOnto, reduced] at listed
          cases listed
      | some reduction =>
          rw [bindOnto_cons reduced] at listed
          rcases List.mem_append.mp listed with own | later
          · obtain ⟨problem, found, rfl⟩ := List.mem_map.mp own
            exact ⟨item, List.mem_cons_self, rfl,
              blames_of_reduce? reduced (Option.mem_toList.mp found)⟩
          · obtain ⟨other, member, about⟩ := ih later
            exact ⟨other, List.mem_cons_of_mem _ member, about⟩

end Scope

end FormulaCompiler
