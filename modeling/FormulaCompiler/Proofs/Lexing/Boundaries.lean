import FormulaCompiler.Proofs.Lexing.Coverage
import FormulaCompiler.Proofs.Lexing.FirstLexeme

/-! What stands behind a lexeme matters only up to the next separator. So a separator cuts a text in
two, and the lexemes of either part are the same without the other one.
-/

namespace FormulaCompiler.Lexeme

/-- Whether a lexeme sees nothing in (other) that it does not see in (behind): that begins with all
that comes before the first separator of (other).
-/
def ShowsAsMuch (behind other : List Char) : Prop :=
  other.takeWhile (fun c => !isSeparator c) <+: behind

theorem showsAsMuch_nil (behind : List Char) : ShowsAsMuch behind [] :=
  List.nil_prefix

theorem showsAsMuch_separated {separator : Char} (separates : isSeparator separator)
    (behind later : List Char)
    : ShowsAsMuch behind (behind ++ separator :: later) := by
  unfold ShowsAsMuch
  rw [List.takeWhile_append]
  split
  · rw [List.takeWhile_cons_of_neg (by simp [separates]), List.append_nil]
  · exact List.takeWhile_prefix _

/-- No word and no number goes on with a separator. -/
theorem apart_of_isSeparator {c : Char} (separates : isSeparator c)
    : ¬continuesNumber c ∧ ¬isIdentifierPart c ∧ c ≠ ':' := by
  rcases isSeparator_iff.mp separates with rfl | rfl | rfl | rfl <;> decide

theorem number_snd (text : List Char)
    : (number text).2
      = (scanNumber text).text
        ++ (text.drop (scanNumber text).text.length).takeWhile isIdentifierPart := by
  unfold number
  dsimp only
  split
  · split <;> rfl
  · rfl

/-- What a number takes is a number literal and the word that is glued to it. -/
theorem exists_glued {taken behind : List Char} {lexeme : Lexeme}
    (found : number (taken ++ behind) = (lexeme, taken))
    : ∃ front glued wellFormed,
        taken = front ++ glued
        ∧ scanNumber (taken ++ behind) = ⟨front, wellFormed⟩
        ∧ (∀ c ∈ glued, isIdentifierPart c)
        ∧ ∀ c, behind.head? = some c → ¬isIdentifierPart c := by
  obtain ⟨left, parts⟩ := scanNumber_isPrefix (taken ++ behind)
  have took := congrArg Prod.snd found
  rw [number_snd] at took
  generalize scanned : scanNumber (taken ++ behind) = scan at parts took
  obtain ⟨front, wellFormed⟩ := scan
  dsimp only at parts took
  rw [← parts, List.drop_left] at took
  have split : left.takeWhile isIdentifierPart ++ behind = left := by
    have whole : front ++ (left.takeWhile isIdentifierPart ++ behind) = front ++ left := by
      rw [← List.append_assoc, took, parts]
    exact List.append_cancel_left whole
  refine ⟨front, left.takeWhile isIdentifierPart, wellFormed, took.symm, rfl,
    List.all_eq_true.mp List.all_takeWhile, fun c head => ?_⟩
  have stopped := List.head?_dropWhile_not isIdentifierPart left
  rw [← List.append_cancel_left (split.trans List.takeWhile_append_dropWhile.symm), head]
    at stopped
  simpa using stopped

/-- A number shows by itself that it is one: behind a point in front stands a digit that it takes.
-/
theorem startsNumber_of_number {c : Char} {more behind : List Char} {lexeme : Lexeme}
    (start : startsNumber c (more ++ behind))
    (found : number (c :: more ++ behind) = (lexeme, c :: more)) (other : List Char)
    : startsNumber c (more ++ other) := by
  cases more with
  | cons d more => exact start
  | nil =>
      obtain ⟨front, glued, wellFormed, parts, scanned, -, -⟩ := exists_glued found
      have some := scanNumber_ne_nil start
      rw [← List.cons_append, scanned] at some
      obtain ⟨d, front, rfl⟩ := List.exists_cons_of_ne_nil some
      obtain ⟨rfl, none⟩ := List.cons.inj parts
      obtain ⟨rfl, rfl⟩ := List.nil_eq_append_iff.mp none
      simp only [startsNumber, Bool.or_eq_true, Bool.and_eq_true] at start ⊢
      refine start.imp_right fun pointed => ?_
      cases behind with
      | nil => cases pointed.2
      | cons e rest => exact absurd pointed.2 (not_isDigit_behind_number scanned rfl)

-----------------------------------------------------------------------------------------
-- What a lexeme sees behind it
-----------------------------------------------------------------------------------------

namespace ShowsAsMuch

variable {behind other : List Char} (shown : ShowsAsMuch behind other)

include shown

theorem isPrefix (front : List Char) {rest : List Char} (begins : other = front ++ rest)
    (plain : ∀ c ∈ front, ¬isSeparator c)
    : front <+: behind := by
  refine List.IsPrefix.trans ?_ shown
  rw [begins, List.takeWhile_append_of_pos fun c member => by simpa using plain c member]
  exact List.prefix_append _ _

theorem head_eq {c : Char} (head : other.head? = some c) (plain : ¬isSeparator c)
    : behind.head? = some c := by
  obtain ⟨rest, rfl⟩ := List.head?_eq_some_iff.mp head
  obtain ⟨more, rfl⟩ := shown.isPrefix [c] rfl (List.forall_mem_singleton.mpr plain)
  rfl

theorem endsNumberLike : EndsNumberLike behind other :=
  fun _ head continues =>
    shown.head_eq head fun separates => (apart_of_isSeparator separates).1 continues

theorem notPart (ends : ∀ c, behind.head? = some c → ¬isIdentifierPart c)
    : ∀ c, other.head? = some c → ¬isIdentifierPart c :=
  fun c head part =>
    ends c (shown.head_eq head fun separates => (apart_of_isSeparator separates).2.1 part) part

theorem not_startsIdentifier (noStart : ¬startsIdentifier behind) : ¬startsIdentifier other := by
  intro start
  obtain ⟨c, rest, rfl, letter⟩ := ne_nil_of_startsIdentifier start
  have head := shown.head_eq rfl fun separates =>
    (apart_of_isSeparator separates).2.1 (isIdentifierPart_of_start letter)
  obtain ⟨more, rfl⟩ := List.head?_eq_some_iff.mp head
  exact noStart letter

theorem notJoined (single : ∀ next, behind ≠ ':' :: ':' :: next)
    : ∀ next, other ≠ ':' :: ':' :: next := by
  rintro next rfl
  have plain : ∀ c ∈ [':', ':'], ¬isSeparator c := by simp [isSeparator]
  obtain ⟨more, rfl⟩ := shown.isPrefix [':', ':'] rfl plain
  exact single more rfl

-----------------------------------------------------------------------------------------
-- The lexeme that ends there
-----------------------------------------------------------------------------------------

theorem number_eq {taken : List Char} {lexeme : Lexeme}
    (found : number (taken ++ behind) = (lexeme, taken))
    : number (taken ++ other) = (lexeme, taken) := by
  obtain ⟨front, glued, wellFormed, rfl, scanned, word, ends⟩ := exists_glued found
  rw [List.append_assoc] at scanned
  have rescanned := (shown.endsNumberLike.append glued).scanNumber_eq scanned
  rw [← found]
  unfold number
  dsimp only
  rw [List.append_assoc, List.append_assoc, scanned, rescanned]
  dsimp only
  rw [List.drop_left, List.drop_left, takeWhile_part_append word ends,
    takeWhile_part_append word (shown.notPart ends)]

theorem scanPath_eq {taken : List Char} {wellFormed : Bool}
    (start : startsIdentifier (taken ++ behind))
    (scanned : scanPath (taken ++ behind) = ⟨taken, wellFormed⟩)
    : scanPath (taken ++ other) = ⟨taken, wellFormed⟩ := by
  obtain ⟨first, words, rest, parts, word, more, ends⟩ := exists_words _ start
  rw [parts, scanPath_words word more] at scanned
  rcases ends.scanPath_eq with ⟨complete, single⟩ | ⟨dangling, next, rfl⟩
  · rw [complete] at scanned
    obtain ⟨rfl, rfl⟩ := Scan.mk.inj scanned
    simp only [List.append_nil, List.append_assoc, List.append_cancel_left_eq] at parts ⊢
    subst parts
    rw [scanPath_words word more, scanPath_of_ends (shown.notPart ends.notPart)
      (shown.notJoined single), Scan.behind, List.append_nil]
  · rw [dangling] at scanned
    obtain ⟨rfl, rfl⟩ := Scan.mk.inj scanned
    simp only [List.append_assoc, List.cons_append, List.nil_append, List.append_cancel_left_eq,
      List.cons.injEq, true_and] at parts ⊢
    subst parts
    have noStart := shown.not_startsIdentifier (ends.notJoined behind rfl)
    rw [scanPath_words word more, scanPath_dangling noStart, Scan.behind, List.append_assoc]

theorem not_startsNumber {c : Char} (noNumber : ¬startsNumber c behind)
    : ¬startsNumber c other := by
  simp only [startsNumber, Bool.or_eq_true, Bool.and_eq_true, not_or] at noNumber ⊢
  refine ⟨noNumber.1, ?_⟩
  rintro ⟨point, digit⟩
  cases other with
  | nil => cases digit
  | cons d rest =>
      have head := shown.endsNumberLike d rfl (continuesNumber_of_isDigit digit)
      exact noNumber.2 ⟨point, by rw [head]; exact digit⟩

/-- A lexeme is the same in front of all that shows it no more than it saw. -/
theorem first_eq {c : Char} {more : List Char} {lexeme : Lexeme}
    (found : first c (more ++ behind) = (lexeme, c :: more))
    : first c (more ++ other) = (lexeme, c :: more) := by
  unfold first at found
  split at found
  · rename_i start
    rw [← List.cons_append] at found
    exact (if_pos (startsNumber_of_number start found other)).trans (shown.number_eq found)
  · rename_i noNumber
    split at found
    · rename_i letter
      have start : startsIdentifier (c :: more ++ behind) := letter
      unfold path at found
      dsimp only at found
      generalize scanned : scanPath (c :: (more ++ behind)) = scan at found
      obtain ⟨text, wellFormed⟩ := scan
      obtain ⟨rfl, rfl⟩ := Prod.mk.inj found
      exact first_path letter (shown.scanPath_eq start scanned)
    · rename_i noWord
      obtain rfl : more = [] := by
        split at found <;> exact (List.cons.inj (Prod.mk.inj found).2).2.symm
      exact (if_neg (shown.not_startsNumber noNumber)).trans ((if_neg noWord).trans found)

end ShowsAsMuch

-----------------------------------------------------------------------------------------
-- Texts with a separator between them
-----------------------------------------------------------------------------------------

/-- The first character of what a lexeme takes is the one that it begins with. -/
theorem exists_taken_cons {c : Char} {rest taken behind : List Char} {lexeme : Lexeme}
    (found : first c rest = (lexeme, taken)) (parts : c :: rest = taken ++ behind)
    : ∃ more, taken = c :: more ∧ rest = more ++ behind := by
  have some := first_ne_nil c rest
  rw [found] at some
  obtain ⟨d, more, rfl⟩ := List.exists_cons_of_ne_nil some
  obtain ⟨rfl, rfl⟩ := List.cons.inj parts
  exact ⟨more, rfl, rfl⟩

/-- The lexemes of a text that a separator follows stay as they are, by induction along the cutting
of that text.
-/
theorem Cuts.scanFrom_separated {position : Nat} {text : List Char}
    {lexemes : List (Spanned Lexeme)} (cuts : Cuts position text lexemes) {separator : Char}
    (separates : isSeparator separator) (later : List Char)
    : scanFrom position (text ++ separator :: later)
      = lexemes ++ scanFrom (position + byteLength text + separator.utf8Size) later := by
  induction cuts with
  | nil => exact scanFrom_separator separates _ later
  | separator also _ ih =>
      rw [List.cons_append, scanFrom_separator also, ih, byteLength_cons,
        Nat.add_assoc _ _ (byteLength _)]
  | @lexeme position c rest lexeme taken behind lexemes plain found parts _ ih =>
      obtain ⟨more, rfl, rfl⟩ := exists_taken_cons found parts
      have refound := (showsAsMuch_separated separates behind later).first_eq found
      rw [List.cons_append, List.append_assoc, scanFrom_first plain refound rfl, ih]
      simp [Nat.add_assoc]

/-- A text that stands further behind is cut at the same places, by induction along the cutting. -/
theorem Cuts.scanFrom_shift {position : Nat} {text : List Char}
    {lexemes : List (Spanned Lexeme)} (cuts : Cuts position text lexemes) (offset : Nat)
    : scanFrom (position + offset) text
      = lexemes.map fun lexeme => { lexeme with span := lexeme.span.shift offset } := by
  induction cuts with
  | nil => rw [scanFrom, List.map_nil]
  | separator separates _ ih =>
      rw [scanFrom_separator separates, Nat.add_right_comm, ih]
  | lexeme plain found parts _ ih =>
      rw [scanFrom_first plain found parts, Nat.add_right_comm, ih, List.map_cons]
      simp [Span.shift, Span.ofLength, Nat.add_right_comm]

theorem scan_separated (first second : String) {separator : Char}
    (separates : isSeparator separator)
    : scan (first ++ String.singleton separator ++ second)
      = scan first
        ++ (scan second).map fun lexeme =>
            { lexeme with span := lexeme.span.shift (first.utf8ByteSize + 1) } := by
  have size : separator.utf8Size = 1 := by
    rcases isSeparator_iff.mp separates with rfl | rfl | rfl | rfl <;> rfl
  have whole : (first ++ String.singleton separator ++ second).toList
      = first.toList ++ separator :: second.toList := by
    simp
  have moved := (cuts_scan second).scanFrom_shift (first.utf8ByteSize + 1)
  rw [Nat.zero_add] at moved
  rw [scan, whole, (cuts_scan first).scanFrom_separated separates, size, Nat.zero_add,
    ← utf8ByteSize_eq, moved]

/-- A separator between two texts keeps their tokens and reports apart. Those of the first text come
first, and those of the second one follow, moved behind the separator. Witness: no lexeme looks
beyond a separator, so the first text is cut as if it ended there.
-/
theorem tokenize_separated (first second : String) {separator : Char}
    (separates : separator ∈ [' ', '\t', '\n', '\r'])
    : let joined := tokenize (first ++ String.singleton separator ++ second)
      let offset := first.utf8ByteSize + 1
      joined.tokens
        = (tokenize first).tokens
          ++ (tokenize second).tokens.map (fun token =>
              { token with span := token.span.shift offset })
      ∧ joined.diagnostics
        = (tokenize first).diagnostics
          ++ (tokenize second).diagnostics.map (fun report =>
              { report with span := report.span.shift offset }) := by
  have blank : isSeparator separator := by simpa [isSeparator, or_assoc] using separates
  intro joined offset
  unfold joined tokenize
  rw [scan_separated first second blank]
  dsimp only
  constructor
  · rw [List.filterMap_append, List.filterMap_map, List.map_filterMap]
    simp [Function.comp_def, offset]
  · rw [List.filterMap_append, List.filterMap_map, List.map_filterMap]
    simp [Function.comp_def, offset]

/-- A path and a number that break off before the separator, and what would complete them behind. -/
theorem tokenize_separated_exponent
    : let joined := tokenize ("€ x::2e" ++ String.singleton '\t' ++ "+3 x::")
      '\t' ∈ [' ', '\t', '\n', '\r']
      ∧ joined.tokens = [⟨.operator .add, ⟨10, 11⟩⟩, ⟨.number 3.0, ⟨11, 12⟩⟩]
      ∧ joined.diagnostics
        = [{ problem := .unexpectedCharacter '€', span := ⟨0, 3⟩ },
          { problem := .danglingSeparator, span := ⟨4, 7⟩ },
          { problem := .malformedNumber "2e", span := ⟨7, 9⟩ },
          { problem := .danglingSeparator, span := ⟨13, 16⟩ }] := by
  have tab : '\t' ∈ [' ', '\t', '\n', '\r'] := by decide
  obtain ⟨tokens, reports⟩ := tokenize_separated "€ x::2e" "+3 x::" tab
  refine ⟨tab, ?_, ?_⟩
  · rw [tokens]
    decide +kernel
  · rw [reports]
    decide +kernel

end FormulaCompiler.Lexeme
