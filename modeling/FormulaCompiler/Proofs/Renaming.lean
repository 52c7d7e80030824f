import FormulaCompiler.Proofs.Grammar
import Mathlib.Data.List.Forall2

/-! The grammar does not look at what names are, or where tokens stand. Tokens that are the same
apart from that are read as trees that are the same apart from that.
-/

namespace FormulaCompiler

variable {renamed : String → String → Prop}

/-- Whether tokens are the same, where names stand for each other as (renamed) says. -/
inductive Token.Renames (renamed : String → String → Prop) : Token → Token → Prop
  | same {token} (plain : ∀ path, token ≠ .name path) : Renames renamed token token
  | name {path other} (related : renamed path other) : Renames renamed (.name path) (.name other)

/-- Whether two lists of tokens are the same apart from names and places. -/
def TokensRename (renamed : String → String → Prop)
    : List (Spanned Token) → List (Spanned Token) → Prop :=
  List.Forall₂ fun token other => token.content.Renames renamed other.content

namespace TokensRename

theorem plain {token : Token} {span : Span} {rest input : List (Spanned Token)}
    (tokens : TokensRename renamed (⟨token, span⟩ :: rest) input)
    (notName : ∀ path, token ≠ .name path)
    : ∃ span' rest', input = ⟨token, span'⟩ :: rest' ∧ TokensRename renamed rest rest' := by
  cases tokens with
  | @cons _ other _ rest' head tail =>
      obtain ⟨content, span'⟩ := other
      cases head with
      | same _ => exact ⟨span', rest', rfl, tail⟩
      | name _ => exact absurd rfl (notName _)

theorem name {path : String} {span : Span} {rest input : List (Spanned Token)}
    (tokens : TokensRename renamed (⟨.name path, span⟩ :: rest) input)
    : ∃ other span' rest', input = ⟨.name other, span'⟩ :: rest' ∧ renamed path other
        ∧ TokensRename renamed rest rest' := by
  cases tokens with
  | @cons _ other _ rest' head tail =>
      obtain ⟨content, span'⟩ := other
      cases head with
      | same plain => exact absurd rfl (plain _)
      | name related => exact ⟨_, span', rest', rfl, related, tail⟩

theorem reverse {input other : List (Spanned Token)} (tokens : TokensRename renamed input other)
    : TokensRename (flip renamed) other input := by
  refine List.Forall₂.flip (tokens.imp ?_)
  rintro ⟨content, span⟩ ⟨content', span'⟩ same
  cases same with
  | same plain => exact .same plain
  | name related => exact .name related

end TokensRename

namespace Formula

mutual
/-- Whether two trees are the same apart from names and places. -/
def Renames (renamed : String → String → Prop) : Formula → Formula → Prop
  | number value _, number value' _ => value = value'
  | name path _, name other _ => renamed path other
  | negate arg _, negate arg' _ => Renames renamed arg arg'
  | operator op left right _, operator op' left' right' _ =>
    op = op' ∧ Renames renamed left left' ∧ Renames renamed right right'
  | call path args _, call other args' _ => renamed path other ∧ RenamesAll renamed args args'
  | _, _ => False

/-- Whether two lists of trees are the same apart from names and places. -/
def RenamesAll (renamed : String → String → Prop) : List Formula → List Formula → Prop
  | [], [] => True
  | arg :: rest, arg' :: rest' => Renames renamed arg arg' ∧ RenamesAll renamed rest rest'
  | _, _ => False
end

mutual
theorem Renames.reverse (formula other : Formula) (same : formula.Renames renamed other)
    : other.Renames (flip renamed) formula := by
  cases formula with
  | number value span =>
      cases other with
      | number value' span' => exact Eq.symm same
      | _ => cases same
  | name path span =>
      cases other with
      | name path' span' => exact same
      | _ => cases same
  | negate arg span =>
      cases other with
      | negate arg' span' => exact Renames.reverse arg arg' same
      | _ => cases same
  | operator op left right span =>
      cases other with
      | operator op' left' right' span' =>
          exact ⟨same.1.symm, Renames.reverse left left' same.2.1,
            Renames.reverse right right' same.2.2⟩
      | _ => cases same
  | call path args span =>
      cases other with
      | call path' args' span' => exact ⟨same.1, RenamesAll.reverse args args' same.2⟩
      | _ => cases same

theorem RenamesAll.reverse (args others : List Formula) (same : RenamesAll renamed args others)
    : RenamesAll (flip renamed) others args := by
  cases args with
  | nil =>
      cases others with
      | nil => trivial
      | cons other rest => cases same
  | cons arg rest =>
      cases others with
      | nil => cases same
      | cons other rest' =>
          exact ⟨Renames.reverse arg other same.1, RenamesAll.reverse rest rest' same.2⟩
end

theorem Renames.call {path : String} {args : List Formula} {span : Span} {formula : Formula}
    (same : (Formula.call path args span).Renames renamed formula)
    : ∃ other args' span', formula = .call other args' span'
        ∧ renamed path other ∧ RenamesAll renamed args args' := by
  cases formula with
  | call other args' span' => exact ⟨other, args', span', rfl, same⟩
  | _ => cases same

theorem RenamesAll.append {args args' : List Formula} {arg arg' : Formula}
    (front : RenamesAll renamed args args') (last : arg.Renames renamed arg')
    : RenamesAll renamed (args ++ [arg]) (args' ++ [arg']) := by
  induction args generalizing args' with
  | nil =>
      cases args' with
      | nil => exact ⟨last, trivial⟩
      | cons other rest => cases front
  | cons first rest ih =>
      cases args' with
      | nil => cases front
      | cons other rest' => exact ⟨front.1, ih front.2⟩

end Formula

/-- Whether items are the same, where names stand for each other as (renamed) says. -/
inductive PostfixNode.Renames (renamed : String → String → Prop) : PostfixNode → PostfixNode → Prop
  | number {value} : Renames renamed (.number value) (.number value)
  | name {path other} (related : renamed path other) : Renames renamed (.name path) (.name other)
  | negate : Renames renamed .negate .negate
  | operator {op} : Renames renamed (.operator op) (.operator op)
  | call {path other count} (related : renamed path other)
    : Renames renamed (.call path count) (.call other count)

/-- Whether two lists of items are the same apart from names and places. -/
def ItemsRename (renamed : String → String → Prop) : List PostfixItem → List PostfixItem → Prop :=
  List.Forall₂ fun item other => item.content.Renames renamed other.content

theorem ItemsRename.append {front front' back back' : List PostfixItem}
    (first : ItemsRename renamed front front') (second : ItemsRename renamed back back')
    : ItemsRename renamed (front ++ back) (front' ++ back') :=
  List.rel_append first second

theorem ItemsRename.single {node node' : PostfixNode} {span span' : Span}
    (same : node.Renames renamed node')
    : ItemsRename renamed [⟨node, span⟩] [⟨node', span'⟩] :=
  .cons same .nil

namespace Formula

theorem RenamesAll.length_eq {args args' : List Formula} (same : RenamesAll renamed args args')
    : args.length = args'.length := by
  induction args generalizing args' with
  | nil =>
      cases args' with
      | nil => rfl
      | cons arg' rest' => cases same
  | cons arg rest ih =>
      cases args' with
      | nil => cases same
      | cons arg' rest' => rw [List.length_cons, List.length_cons, ih same.2]

mutual
/-- Trees that are the same apart from names and places have such items, one by one. -/
theorem Renames.postorder (formula other : Formula) (same : formula.Renames renamed other)
    : ItemsRename renamed formula.postorder other.postorder := by
  cases formula with
  | number value span =>
      cases other with
      | number value' span' =>
          obtain rfl : value = value' := same
          exact .single .number
      | _ => cases same
  | name path span =>
      cases other with
      | name path' span' => exact .single (.name same)
      | _ => cases same
  | negate arg span =>
      cases other with
      | negate arg' span' => exact (Renames.postorder arg arg' same).append (.single .negate)
      | _ => cases same
  | operator op left right span =>
      cases other with
      | operator op' left' right' span' =>
          obtain ⟨rfl, first, second⟩ := same
          exact ((Renames.postorder left left' first).append
            (Renames.postorder right right' second)).append (.single .operator)
      | _ => cases same
  | call path args span =>
      obtain ⟨path', args', span', rfl, related, renames⟩ := same.call
      rw [Formula.postorder, Formula.postorder, renames.length_eq]
      exact (RenamesAll.postorderAll args args' renames).append (.single (.call related))

theorem RenamesAll.postorderAll (args others : List Formula)
    (same : RenamesAll renamed args others)
    : ItemsRename renamed (Formula.postorderAll args) (Formula.postorderAll others) := by
  cases args with
  | nil =>
      cases others with
      | nil => exact .nil
      | cons other rest => cases same
  | cons arg rest =>
      cases others with
      | nil => cases same
      | cons other rest' =>
          exact (Renames.postorder arg other same.1).append
            (RenamesAll.postorderAll rest rest' same.2)
end

end Formula

namespace Grammar

/-- Renamed tokens are read as a renamed tree, by induction over the reading. -/
theorem Reads.rename {category : Category} {input rest input' : List (Spanned Token)}
    {formula : Formula} (reads : Reads category input formula rest)
    (tokens : TokensRename renamed input input')
    : ∃ formula' rest', Reads category input' formula' rest'
        ∧ formula.Renames renamed formula' ∧ TokensRename renamed rest rest' := by
  induction reads generalizing input' with
  | number =>
      obtain ⟨span, rest', rfl, later⟩ := tokens.plain nofun
      exact ⟨_, rest', .number, rfl, later⟩
  | name notCalled =>
      obtain ⟨other, span, rest', rfl, related, later⟩ := tokens.name
      refine ⟨_, rest', .name ?_, related, later⟩
      rintro opened behind rfl
      cases later with
      | @cons token _ _ _ head _ =>
          obtain ⟨content, span⟩ := token
          cases head with
          | same _ => exact notCalled _ _ rfl
  | group _ ih =>
      obtain ⟨opened, behind, rfl, later⟩ := tokens.plain nofun
      obtain ⟨formula, ended, inner, same, ends⟩ := ih later
      obtain ⟨closed, rest', rfl, left⟩ := ends.plain nofun
      exact ⟨formula, rest', .group inner, same, left⟩
  | emptyCall =>
      obtain ⟨other, span, called, rfl, related, args⟩ := tokens.name
      obtain ⟨opened, behind, rfl, ends⟩ := args.plain nofun
      obtain ⟨closed, rest', rfl, left⟩ := ends.plain nofun
      exact ⟨_, rest', .emptyCall, ⟨related, trivial⟩, left⟩
  | call _ ih =>
      obtain ⟨formula, ended, head, same, ends⟩ := ih tokens
      obtain ⟨other, args, span, rfl, renames⟩ := same.call
      obtain ⟨closed, rest', rfl, left⟩ := ends.plain nofun
      exact ⟨_, rest', .call head, renames, left⟩
  | firstArgument _ ih =>
      obtain ⟨other, span, called, rfl, related, args⟩ := tokens.name
      obtain ⟨opened, behind, rfl, later⟩ := args.plain nofun
      obtain ⟨arg, rest', first, same, left⟩ := ih later
      exact ⟨_, rest', .firstArgument first, ⟨related, same, trivial⟩, left⟩
  | nextArgument _ _ headIH nextIH =>
      obtain ⟨formula, ended, head, same, ends⟩ := headIH tokens
      obtain ⟨other, args, span, rfl, related, renames⟩ := same.call
      obtain ⟨comma, behind, rfl, later⟩ := ends.plain nofun
      obtain ⟨arg, rest', next, sameArg, left⟩ := nextIH later
      exact ⟨_, rest', .nextArgument head next, ⟨related, renames.append sameArg⟩, left⟩
  | ofAtom _ ih =>
      obtain ⟨formula, rest', atom, same, left⟩ := ih tokens
      exact ⟨formula, rest', .ofAtom atom, same, left⟩
  | power _ _ leftIH rightIH =>
      obtain ⟨base, ended, left, sameBase, ends⟩ := leftIH tokens
      obtain ⟨span, behind, rfl, later⟩ := ends.plain nofun
      obtain ⟨exponent, rest', right, sameExponent, rest⟩ := rightIH later
      exact ⟨_, rest', .power left right, ⟨rfl, sameBase, sameExponent⟩, rest⟩
  | ofPower _ ih =>
      obtain ⟨formula, rest', power, same, left⟩ := ih tokens
      exact ⟨formula, rest', .ofPower power, same, left⟩
  | plus _ ih =>
      obtain ⟨span, behind, rfl, later⟩ := tokens.plain nofun
      obtain ⟨formula, rest', operand, same, left⟩ := ih later
      exact ⟨formula, rest', .plus operand, same, left⟩
  | minus _ ih =>
      obtain ⟨span, behind, rfl, later⟩ := tokens.plain nofun
      obtain ⟨formula, rest', operand, same, left⟩ := ih later
      exact ⟨_, rest', .minus operand, same, left⟩
  | ofUnary _ ih =>
      obtain ⟨formula, rest', unary, same, left⟩ := ih tokens
      exact ⟨formula, rest', .ofUnary unary, same, left⟩
  | product isProduct _ _ firstIH secondIH =>
      obtain ⟨left, ended, first, sameLeft, ends⟩ := firstIH tokens
      obtain ⟨span, behind, rfl, later⟩ := ends.plain nofun
      obtain ⟨right, rest', second, sameRight, rest⟩ := secondIH later
      exact ⟨_, rest', .product isProduct first second, ⟨rfl, sameLeft, sameRight⟩, rest⟩
  | ofTerm _ ih =>
      obtain ⟨formula, rest', term, same, left⟩ := ih tokens
      exact ⟨formula, rest', .ofTerm term, same, left⟩
  | sum isSum _ _ firstIH secondIH =>
      obtain ⟨left, ended, first, sameLeft, ends⟩ := firstIH tokens
      obtain ⟨span, behind, rfl, later⟩ := ends.plain nofun
      obtain ⟨right, rest', second, sameRight, rest⟩ := secondIH later
      exact ⟨_, rest', .sum isSum first second, ⟨rfl, sameLeft, sameRight⟩, rest⟩

/-- Renamed tokens are read as a whole exactly if the tokens themselves are. -/
theorem Reads.rename_all {category : Category} {input input' : List (Spanned Token)}
    {formula : Formula} (reads : Reads category input formula [])
    (tokens : TokensRename renamed input input')
    : ∃ formula', Reads category input' formula' [] ∧ formula.Renames renamed formula' := by
  obtain ⟨formula', rest', reads', same, left⟩ := reads.rename tokens
  cases left with
  | nil => exact ⟨formula', reads', same⟩

end Grammar

end FormulaCompiler
