import FormulaCompiler.Text.Scan

/-! Identifiers, and the paths made of them. Both are written in ASCII: a letter or an underscore,
and then letters, digits and underscores.
-/

namespace FormulaCompiler

/-- Whether an identifier may begin with this character. -/
def isIdentifierStart (c : Char) : Bool :=
  c = '_' || c.isAlpha

/-- Whether an identifier may go on with this character. -/
def isIdentifierPart (c : Char) : Bool :=
  c = '_' || c.isAlphanum

/-- Whether a text is one identifier. -/
def isIdentifier (text : String) : Bool :=
  match text.toList with
  | [] => false
  | c :: rest => isIdentifierStart c && rest.all isIdentifierPart

/-- Whether a text begins with an identifier. -/
def startsIdentifier : List Char → Bool
  | [] => false
  | c :: _ => isIdentifierStart c

/-- The path at the start of a text: identifiers with a double colon between them. It is incomplete
where no identifier follows a double colon, which it then ends with.
-/
def scanPath : List Char → Scan
  | [] => ⟨[], true⟩
  | c :: rest =>
    if isIdentifierPart c then (scanPath rest).behind [c]
    else
      match c, rest with
      | ':', ':' :: next =>
        if startsIdentifier next then (scanPath next).behind [':', ':'] else ⟨[':', ':'], false⟩
      | _, _ => ⟨[], true⟩

/-- An identifier goes on with whatever it may begin with. -/
theorem isIdentifierPart_of_start {c : Char} (start : isIdentifierStart c)
    : isIdentifierPart c := by
  simp only [isIdentifierStart, isIdentifierPart, Char.isAlphanum, Bool.or_eq_true,
    decide_eq_true_eq] at start ⊢
  exact start.imp id .inl

/-- A path is taken from the front, by induction over the length of the text. -/
theorem scanPath_isPrefix (text : List Char) : (scanPath text).text <+: text := by
  induction count : text.length using Nat.strongRecOn generalizing text with
  | ind count ih =>
    subst count
    cases text with
    | nil => exact List.nil_prefix
    | cons c rest =>
      unfold scanPath
      split
      · exact List.cons_prefix_cons.mpr ⟨rfl, ih _ (Nat.lt_succ_self _) rest rfl⟩
      · split
        · rename_i next _
          split
          · have shorter : next.length < (':' :: ':' :: next).length := by
              simp only [List.length_cons]
              omega
            exact (List.prefix_append_right_inj [':', ':']).mpr (ih _ shorter next rfl)
          · exact List.prefix_append [':', ':'] next
        · exact List.nil_prefix

/-- A path that starts with an identifier takes some text, its first character at least. -/
theorem scanPath_ne_nil {c : Char} {rest : List Char} (start : isIdentifierStart c)
    : (scanPath (c :: rest)).text ≠ [] := by
  unfold scanPath
  rw [if_pos (isIdentifierPart_of_start start)]
  exact List.cons_ne_nil _ _

end FormulaCompiler
