import FormulaCompiler.Proofs.BindingReports
import FormulaCompiler.Proofs.Escalation
import FormulaCompiler.Proofs.Lexing.Spellings
import FormulaCompiler.Proofs.SignedNumbers

/-! The warnings of an analysis. A literal beyond the largest double is warned of where it stands,
and a division where its right operand is a zero that is written out. Whatever else comes to zero or
to infinity is computed without a warning.
-/

namespace FormulaCompiler

open Grammar

-----------------------------------------------------------------------------------------
-- The nodes of a tree
-----------------------------------------------------------------------------------------

namespace Formula

mutual
/-- The nodes of a tree, each behind all nodes of its operands. -/
def nodes : Formula → List Formula
  | number value span => [number value span]
  | name path span => [name path span]
  | negate arg span => arg.nodes ++ [negate arg span]
  | operator op left right span => left.nodes ++ right.nodes ++ [operator op left right span]
  | call path args span => nodesAll args ++ [call path args span]

/-- The nodes of several trees, one tree after the other. -/
def nodesAll : List Formula → List Formula
  | [] => []
  | arg :: rest => arg.nodes ++ nodesAll rest
end

/-- The step of a node in postfix order. -/
def item : Formula → PostfixItem
  | number value span => ⟨.number value, span⟩
  | name path span => ⟨.name path, span⟩
  | negate _ span => ⟨.negate, span⟩
  | operator op _ _ span => ⟨.operator op, span⟩
  | call path args span => ⟨.call path args.length, span⟩

mutual
/-- The postorder of a tree has its nodes in their order. -/
theorem map_item_nodes (formula : Formula) : formula.nodes.map item = formula.postorder := by
  cases formula with
  | number value span | name path span => rfl
  | negate arg span =>
      rw [nodes, List.map_append, map_item_nodes arg]
      rfl
  | operator op left right span =>
      rw [nodes, List.map_append, List.map_append, map_item_nodes left, map_item_nodes right]
      rfl
  | call path args span =>
      rw [nodes, List.map_append, map_item_nodesAll args]
      rfl

theorem map_item_nodesAll (args : List Formula)
    : (nodesAll args).map item = postorderAll args := by
  cases args with
  | nil => rfl
  | cons arg rest =>
      rw [nodesAll, List.map_append, map_item_nodes arg, map_item_nodesAll rest]
      rfl
end

@[simp] theorem nodesAll_append (args more : List Formula)
    : nodesAll (args ++ more) = nodesAll args ++ nodesAll more := by
  induction args with
  | nil => rfl
  | cons arg rest ih => simp only [List.cons_append, nodesAll, ih, List.append_assoc]

@[simp] theorem nodesAll_singleton (arg : Formula) : nodesAll [arg] = arg.nodes := by
  simp only [nodesAll, List.append_nil]

end Formula

-----------------------------------------------------------------------------------------
-- Right operands
-----------------------------------------------------------------------------------------

namespace Grammar

/-- Whether the right operand of a node, if that divides, was read right behind its operator. -/
def OperandRead (input : List (Spanned Token)) : Formula → Prop
  | .operator op _ right span =>
    op.divides → ∃ operand rest, ⟨.operator op, span⟩ :: (operand ++ rest) <:+ input
      ∧ Reads .unary (operand ++ rest) right rest
  | _ => True

variable {category : Category} {input rest behind : List (Spanned Token)} {formula : Formula}

theorem OperandRead.of_isSuffix (read : OperandRead rest formula) (within : rest <:+ input)
    : OperandRead input formula := by
  cases formula with
  | operator op left right span =>
      intro divides
      obtain ⟨operand, later, behind, reads⟩ := read divides
      exact ⟨operand, later, behind.trans within, reads⟩
  | number _ _ | name _ _ | negate _ _ | call _ _ _ => trivial

theorem Reads.operandRead {op : Operator} {left right : Formula} {span : Span}
    (reads : Reads .unary behind right rest) (within : ⟨.operator op, span⟩ :: behind <:+ input)
    : OperandRead input (.operator op left right span) := by
  obtain ⟨operand, rfl⟩ := reads.isSuffix
  exact fun _ => ⟨operand, rest, within, reads⟩

/-- The nodes of what was read. A call head has those of its arguments so far. -/
def readNodes : Category → Formula → List Formula
  | .callHead, .call _ args _ => Formula.nodesAll args
  | _, formula => formula.nodes

/-- Whether the right operands of all nodes were read where they should. -/
def OperandsRead (input : List (Spanned Token)) (nodes : List Formula) : Prop :=
  ∀ node ∈ nodes, OperandRead input node

section

variable {nodes more : List Formula}

theorem OperandsRead.of_isSuffix (read : OperandsRead rest nodes) (within : rest <:+ input)
    : OperandsRead input nodes :=
  fun node listed => (read node listed).of_isSuffix within

theorem OperandsRead.append (read : OperandsRead input nodes) (also : OperandsRead input more)
    : OperandsRead input (nodes ++ more) :=
  List.forall_mem_append.mpr ⟨read, also⟩

theorem OperandsRead.single (read : OperandRead input formula) : OperandsRead input [formula] :=
  List.forall_mem_singleton.mpr read

/-- The nodes of an operator are those of its operands and its own. -/
theorem OperandsRead.between {op : Operator} {left right : Formula} {span : Span}
    (first : OperandsRead input left.nodes) (within : ⟨.operator op, span⟩ :: behind <:+ input)
    (second : OperandsRead behind right.nodes)
    (own : OperandRead input (.operator op left right span))
    : OperandsRead input (Formula.operator op left right span).nodes :=
  (first.append (second.of_isSuffix ((List.suffix_cons _ _).trans within))).append (.single own)

end

/-- Whatever is read, right operands are read right behind their operators. By induction over the
reading: only products have operators that divide.
-/
theorem Reads.operandsRead (reads : Reads category input formula rest)
    : OperandsRead input (readNodes category formula) := by
  induction reads with
  | number | name _ | emptyCall => exact .single trivial
  | group _ ih => exact ih.of_isSuffix (List.suffix_cons _ _)
  | call _ ih => exact ih.append (.single trivial)
  | firstArgument _ ih =>
      rw [readNodes, Formula.nodesAll_singleton]
      exact ih.of_isSuffix ⟨[_, _], rfl⟩
  | nextArgument head next ihHead ihNext =>
      rw [readNodes, Formula.nodesAll_append, Formula.nodesAll_singleton]
      exact ihHead.append (ihNext.of_isSuffix ((List.suffix_cons _ _).trans head.isSuffix))
  | ofAtom _ ih | ofPower _ ih | ofUnary _ ih | ofTerm _ ih => exact ih
  | plus _ ih => exact ih.of_isSuffix (List.suffix_cons _ _)
  | minus _ ih => exact (ih.of_isSuffix (List.suffix_cons _ _)).append (.single trivial)
  | power left right ihLeft ihRight =>
      exact ihLeft.between left.isSuffix ihRight (right.operandRead left.isSuffix)
  | product _ first second ihFirst ihSecond =>
      exact ihFirst.between first.isSuffix ihSecond (second.operandRead first.isSuffix)
  | sum isSum first second ihFirst ihSecond =>
      refine ihFirst.between first.isSuffix ihSecond ?_
      rcases isSum with rfl | rfl <;> exact nofun

end Grammar

-----------------------------------------------------------------------------------------
-- Divisions
-----------------------------------------------------------------------------------------

/-- Whether a token is an operator that divides. -/
def Token.divides : Token → Bool
  | .operator op => op.divides
  | _ => false

/-- Whether a node is an operator that divides. -/
def Formula.divides : Formula → Bool
  | .operator op _ _ _ => op.divides
  | _ => false

/-- The places of the tokens that divide. -/
def Grammar.dividingTokens (tokens : List (Spanned Token)) : List Span :=
  (tokens.filter (·.content.divides)).map (·.span)

/-- The places of the nodes that divide. -/
def Formula.dividingNodes (nodes : List Formula) : List Span :=
  (nodes.filter divides).map (·.item.span)

namespace Formula

@[simp] theorem dividingNodes_append (nodes more : List Formula)
    : dividingNodes (nodes ++ more) = dividingNodes nodes ++ dividingNodes more := by
  rw [dividingNodes, List.filter_append, List.map_append]
  rfl

theorem dividingNodes_concat {node : Formula} (other : node.divides = false)
    (nodes : List Formula)
    : dividingNodes (nodes ++ [node]) = dividingNodes nodes := by
  have none : dividingNodes [node] = [] := by simp [dividingNodes, other]
  rw [dividingNodes_append, none, List.append_nil]

end Formula

namespace Grammar

open Formula (dividingNodes)

variable {category : Category} {input rest behind : List (Spanned Token)} {formula : Formula}

/-- An operator divides as a node just where it divides as a token. -/
theorem dividingTokens_operator (op : Operator) (left right : Formula) (span : Span)
    (tokens : List (Spanned Token))
    : dividingTokens (⟨.operator op, span⟩ :: tokens)
      = dividingNodes [.operator op left right span] ++ dividingTokens tokens := by
  cases divides : op.divides <;>
    simp [dividingTokens, dividingNodes, Token.divides, Formula.divides, divides, Formula.item]

/-- The tokens that divide are those of the left operand, the operator, and those that follow. -/
theorem dividing_between {op : Operator} {left right : Formula} {span : Span}
    (first
      : (dividingNodes left.nodes ++ dividingTokens (⟨.operator op, span⟩ :: behind)).Perm
          (dividingTokens input))
    (second
      : (dividingNodes right.nodes ++ dividingTokens rest).Perm (dividingTokens behind))
    : (dividingNodes (Formula.operator op left right span).nodes ++ dividingTokens rest).Perm
        (dividingTokens input) := by
  rw [Formula.nodes, Formula.dividingNodes_append, Formula.dividingNodes_append]
  refine .trans ?_ first
  rw [dividingTokens_operator op left right, List.append_assoc, List.append_assoc]
  refine .append_left _ (.trans ?_ (.append_left _ second))
  rw [← List.append_assoc, ← List.append_assoc]
  exact .append_right _ List.perm_append_comm

/-- Every token that divides is read as a node that does, or left. By induction over the reading. -/
theorem Reads.dividing (reads : Reads category input formula rest)
    : (dividingNodes (readNodes category formula) ++ dividingTokens rest).Perm
        (dividingTokens input) := by
  induction reads with
  | number | name _ | emptyCall => exact .refl _
  | group _ ih => exact ih
  | call _ ih => exact .trans (.of_eq (congrArg (· ++ _) (Formula.dividingNodes_concat rfl _))) ih
  | firstArgument _ ih =>
      rw [readNodes, Formula.nodesAll_singleton]
      exact ih
  | nextArgument head next ihHead ihNext =>
      rw [readNodes, Formula.nodesAll_append, Formula.nodesAll_singleton,
        Formula.dividingNodes_append, List.append_assoc]
      exact .trans (.append_left _ ihNext) ihHead
  | ofAtom _ ih | ofPower _ ih | ofUnary _ ih | ofTerm _ ih => exact ih
  | plus _ ih => exact ih
  | minus _ ih => exact .trans (.of_eq (congrArg (· ++ _) (Formula.dividingNodes_concat rfl _))) ih
  | power _ _ ihLeft ihRight | product _ _ _ ihLeft ihRight | sum _ _ _ ihLeft ihRight =>
      exact dividing_between ihLeft ihRight

end Grammar

/-- Whether a report is a warning. -/
def Diagnostic.isWarning (report : Diagnostic) : Bool :=
  report.severity = .warning

-----------------------------------------------------------------------------------------
-- Warnings of literals
-----------------------------------------------------------------------------------------

namespace Lexeme

/-- Whether a report warns of a literal that is too large: with its text, and where it stands. -/
def WarnsOfLiteral (text : String) (token : Spanned Token) (report : Diagnostic) : Prop :=
  ∃ literal, token.span.Marks text literal
    ∧ report = { problem := .infiniteLiteral literal, span := token.span }

theorem written_of_first {c : Char} {rest taken : List Char} {token : Token} {written : String}
    (found : first c rest = (accepted token written, taken))
    : written = String.ofList taken := by
  unfold first at found
  split at found
  · unfold number at found
    dsimp only at found
    split at found
    · split at found <;> cases found
      rfl
    · cases found
  · split at found
    · unfold path at found
      dsimp only at found
      split at found <;> cases found
      rfl
    · split at found <;> cases found
      exact String.singleton_eq_ofList

variable {text : String}

theorem marks_written {token : Token} {written : String} {span : Span}
    (listed : ⟨accepted token written, span⟩ ∈ scan text)
    : span.Marks text written := by
  obtain ⟨before, c, rest, taken, behind, parts, -, found, place⟩ :=
    (cuts_scan text).exists_taken listed
  rw [Nat.zero_add] at place
  exact written_of_first found ▸ Span.marks_of_toList parts place

/-- Where nothing is spelled wrong, every lexeme is a token that keeps the text it marks. -/
theorem exists_accepted (clean : Diagnostic.hasErrors (tokenize text).diagnostics = false)
    : ∀ lexeme ∈ scan text, ∃ token written,
        lexeme.content = accepted token written ∧ lexeme.span.Marks text written := by
  rintro ⟨content, span⟩ listed
  cases content with
  | accepted token written => exact ⟨token, written, rfl, marks_written listed⟩
  | rejected problem =>
      have errors := (hasErrors_tokenize text).mpr ⟨problem, List.mem_map_of_mem listed⟩
      rw [clean] at errors
      cases errors

/-- Where nothing is spelled wrong, cutting reports just the literals that are too large. By
induction over the lexemes.
-/
theorem forall₂_warnsOfLiteral (clean : Diagnostic.hasErrors (tokenize text).diagnostics = false)
    : List.Forall₂ (WarnsOfLiteral text) ((tokenize text).tokens.filter (·.content.isInfinite))
        (tokenize text).diagnostics := by
  have accepts := exists_accepted clean
  unfold tokenize
  dsimp only
  generalize scan text = lexemes at accepts
  induction lexemes with
  | nil => exact .nil
  | cons lexeme rest ih =>
      obtain ⟨⟨token, written, own, marks⟩, others⟩ := List.forall_mem_cons.mp accepts
      have later := ih others
      obtain ⟨content, span⟩ := lexeme
      cases own
      cases infinite : token.isInfinite with
      | true =>
          cases token with
          | number value =>
              have large : value.isInf = true := infinite
              simpa [token?, problem?, infinite, large] using
                List.Forall₂.cons ⟨written, marks, rfl⟩ later
          | _ => cases infinite
      | false =>
          have silent : (accepted token written).problem? = none := by
            cases token with
            | number value => exact if_neg (Bool.eq_false_iff.mp infinite)
            | _ => rfl
          simpa [token?, silent, infinite] using later

end Lexeme

-----------------------------------------------------------------------------------------
-- Warnings of divisions
-----------------------------------------------------------------------------------------

namespace Formula

/-- Whether a node divides by a zero that is written out. -/
def dividesByZero : Formula → Bool
  | operator op _ right _ => op.divides && right.literal?.any (· == 0.0)
  | _ => false

/-- The warning about a node that divides by zero. -/
def zeroWarning (node : Formula) : Diagnostic :=
  { problem := .zeroDivisor, span := node.item.span }

/-- What a tree is bound to is a signed zero exactly if the tree is one. -/
theorem isLiteralZero_bound (scope : Scope)
    : ∀ formula : Formula, (formula.bound scope).isLiteralZero = formula.literal?.any (· == 0.0)
  | number value _ => by
      rw [bound, Expr.isLiteralZero, Double.toFloat_ofFloat]
      rfl
  | name path _ => Scope.isLiteralZero_of_name path
  | negate arg _ => isLiteralZero_bound scope arg
  | operator _ _ _ _ => rfl
  | call path args _ => Scope.isLiteralZero_of_call path (boundAll scope args)

theorem filter_reported {resolved : Except Problem Expr}
    (named : ∀ problem, resolved = .error problem → problem.kind? = some .name) (span : Span)
    : (reported span resolved).filter Diagnostic.isWarning = [] := by
  cases resolved with
  | ok expr => rfl
  | error problem =>
      have severe := Problem.severity_of_kind? (named problem rfl) (by decide)
      simp [reported, Diagnostic.isWarning, Diagnostic.severity, severe]

variable (scope : Scope)

mutual
/-- The warnings about a tree are those of its nodes that divide by zero, in their order. -/
theorem filter_reports (formula : Formula)
    : (formula.reports scope).filter Diagnostic.isWarning
      = (formula.nodes.filter dividesByZero).map zeroWarning := by
  cases formula with
  | number value span => rfl
  | name path span => exact filter_reported (fun _ => Scope.kind?_of_name) span
  | negate arg span =>
      rw [reports, filter_reports arg, nodes, List.filter_append, List.map_append]
      exact (List.append_nil _).symm
  | operator op left right span =>
      rw [reports, List.filter_append, List.filter_append, filter_reports left,
        filter_reports right, nodes, List.filter_append, List.filter_append, List.map_append,
        List.map_append, List.append_assoc, isLiteralZero_bound]
      cases divides : op.divides && right.literal?.any (· == 0.0) with
      | true => simp [dividesByZero, divides, zeroWarning, item, Diagnostic.isWarning,
          Diagnostic.severity, Problem.severity]
      | false => simp [dividesByZero, divides]
  | call path args span =>
      rw [reports, List.filter_append, filter_reportsAll args,
        filter_reported (fun _ => Scope.kind?_of_call) span, nodes, List.filter_append,
        List.map_append]
      rfl

theorem filter_reportsAll (args : List Formula)
    : (reportsAll scope args).filter Diagnostic.isWarning
      = ((nodesAll args).filter dividesByZero).map zeroWarning := by
  cases args with
  | nil => rfl
  | cons arg rest =>
      rw [reportsAll, List.filter_append, filter_reports arg, filter_reportsAll rest, nodesAll,
        List.filter_append, List.map_append]
end

end Formula

-----------------------------------------------------------------------------------------
-- Warnings of an analysis
-----------------------------------------------------------------------------------------

namespace CodeUnit

/-- The warnings that an analysis gives away, whether the unit is accepted or refused. -/
def warnings (unit : CodeUnit) (options : CompileOptions) : List Diagnostic :=
  match unit.analyze options with
  | .ok analysis => analysis.warnings.filter Diagnostic.isWarning
  | .error found => found.filter Diagnostic.isWarning

variable {unit : CodeUnit} {options : CompileOptions} {formula : Formula}

theorem warnings_eq (unit : CodeUnit) (options : CompileOptions)
    : unit.warnings options = (unit.reports options).filter Diagnostic.isWarning := by
  have all := unit.analyze_reports options
  unfold warnings
  revert all
  cases unit.analyze options <;> exact congrArg _

theorem warnings_of_readAs (readAs : unit.ReadAs formula)
    (lenient : options.warningsAsErrors = false)
    : unit.warnings options
      = (tokenize unit.body).diagnostics
        ++ (formula.nodes.filter Formula.dividesByZero).map Formula.zeroWarning := by
  have cutting : (tokenize unit.body).diagnostics.filter Diagnostic.isWarning
      = (tokenize unit.body).diagnostics := by
    refine List.filter_eq_self.mpr fun report listed => ?_
    have mild := Diagnostic.warning_of_noErrors (by simp [readAs.clean]) report listed
    exact decide_eq_true mild.1
  rw [warnings_eq, reports, lenient, if_neg Bool.false_ne_true, check_of_readAs readAs,
    List.filter_append, cutting, Formula.filter_reports]

/-- A body that is cut without an error and read is warned of exactly where it should be, unless
warnings are errors. First come the literals that are infinite, in their order. Then come the
divisions, in postfix order, of which the right operand is written as a number that is zero, with
nothing but signs and parentheses around it. The nodes that divide stand where the tokens do that
divide, each with its operand right behind it. No other option has a part in this. Witness: a tree
that has nothing but negations above a number is read from a number with signs and parentheses, and
such a number is read as nothing else.
-/
theorem warns_exactly (unit : CodeUnit) {items : List PostfixItem}
    (clean : Diagnostic.hasErrors (tokenize unit.body).diagnostics = false)
    (accepted
      : ShuntingYard.postfixOrder (tokenize unit.body).tokens (byteLength unit.body.toList)
        = .ok items)
    : let tokens := (tokenize unit.body).tokens
      ∃ formula infinite,
        Reads .expr tokens formula []
        ∧ formula.nodes.map Formula.item = items
        ∧ (Formula.dividingNodes formula.nodes).Perm (dividingTokens tokens)
        ∧ (∀ op left right span, .operator op left right span ∈ formula.nodes → op.divides →
            ∃ operand rest, ⟨.operator op, span⟩ :: (operand ++ rest) <:+ tokens
              ∧ Reads .unary (operand ++ rest) right rest
              ∧ ((Formula.operator op left right span).dividesByZero
                ↔ ∃ value, WritesNumber value operand ∧ (value == 0.0) = true))
        ∧ List.Forall₂ (Lexeme.WarnsOfLiteral unit.body)
            (tokens.filter (·.content.isInfinite)) infinite
        ∧ ∀ options : CompileOptions, options.warningsAsErrors = false
          → unit.warnings options
            = infinite ++ (formula.nodes.filter Formula.dividesByZero).map Formula.zeroWarning := by
  intro tokens
  obtain ⟨formula, reads, rfl⟩ := ShuntingYard.reads_of_postfixOrder accepted
  refine ⟨formula, (tokenize unit.body).diagnostics, reads, formula.map_item_nodes, ?_, ?_,
    Lexeme.forall₂_warnsOfLiteral clean, fun options => warnings_of_readAs ⟨clean, reads⟩⟩
  · exact List.append_nil (Formula.dividingNodes formula.nodes) ▸ reads.dividing
  · intro op left right span listed divides
    obtain ⟨operand, rest, within, read⟩ := reads.operandsRead _ listed divides
    refine ⟨operand, rest, within, read, ?_⟩
    simp only [Formula.dividesByZero, divides, Bool.true_and, Option.any_eq_true,
      read.literal?_eq_some_iff]

/-- A zero with signs around it is warned of, and so is an infinite literal. A difference that is
zero is not.
-/
theorem warns_of_signed_zero
    : let unit := CodeUnit.build 0 "1e999/-(+0)+y%(1-1)" .double
      let items : List PostfixItem :=
        [⟨.number infinity, ⟨0, 5⟩⟩, ⟨.number 0, ⟨9, 10⟩⟩, ⟨.negate, ⟨6, 7⟩⟩,
          ⟨.operator .divide, ⟨5, 6⟩⟩, ⟨.name "y", ⟨12, 13⟩⟩, ⟨.number 1, ⟨15, 16⟩⟩,
          ⟨.number 1, ⟨17, 18⟩⟩, ⟨.operator .subtract, ⟨16, 17⟩⟩,
          ⟨.operator .remainder, ⟨13, 14⟩⟩, ⟨.operator .add, ⟨11, 12⟩⟩]
      Diagnostic.hasErrors (tokenize unit.body).diagnostics = false
      ∧ ShuntingYard.postfixOrder (tokenize unit.body).tokens (byteLength unit.body.toList)
        = .ok items
      ∧ ∀ options : CompileOptions, options.warningsAsErrors = false
        → unit.warnings options
          = [{ problem := .infiniteLiteral "1e999", span := ⟨0, 5⟩ },
            { problem := .zeroDivisor, span := ⟨5, 6⟩ }] := by
  intro unit items
  have clean : Diagnostic.hasErrors (tokenize unit.body).diagnostics = false := by
    decide +kernel
  have accepted
      : ShuntingYard.postfixOrder (tokenize unit.body).tokens (byteLength unit.body.toList)
        = .ok items := by
    have tokens : (tokenize unit.body).tokens
        = [⟨.number infinity, ⟨0, 5⟩⟩, ⟨.operator .divide, ⟨5, 6⟩⟩,
          ⟨.operator .subtract, ⟨6, 7⟩⟩, ⟨.openParen, ⟨7, 8⟩⟩, ⟨.operator .add, ⟨8, 9⟩⟩,
          ⟨.number 0, ⟨9, 10⟩⟩, ⟨.closeParen, ⟨10, 11⟩⟩, ⟨.operator .add, ⟨11, 12⟩⟩,
          ⟨.name "y", ⟨12, 13⟩⟩, ⟨.operator .remainder, ⟨13, 14⟩⟩, ⟨.openParen, ⟨14, 15⟩⟩,
          ⟨.number 1, ⟨15, 16⟩⟩, ⟨.operator .subtract, ⟨16, 17⟩⟩, ⟨.number 1, ⟨17, 18⟩⟩,
          ⟨.closeParen, ⟨18, 19⟩⟩] := by
      decide +kernel
    rw [tokens]
    rfl
  refine ⟨clean, accepted, fun options lenient => ?_⟩
  obtain ⟨formula, infinite, -, -, -, -, -, exactly⟩ := warns_exactly unit clean accepted
  have once := exactly { warningsAsErrors := false } rfl
  rw [exactly options lenient, ← once]
  decide +kernel

end CodeUnit

end FormulaCompiler
