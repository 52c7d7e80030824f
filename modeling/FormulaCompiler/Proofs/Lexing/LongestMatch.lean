import Mathlib.Computability.RegularExpressions
import FormulaCompiler.Proofs.SpanRanges

/-! The longest beginning of a text that is in a language. Patterns that follow each other are
matched one by one, where the letters tell which of them goes on. A text is matched in its
characters or in the bytes that it is stored in, with the same result.
-/

namespace FormulaCompiler

-----------------------------------------------------------------------------------------
-- Longest matches
-----------------------------------------------------------------------------------------

/-- (LongestMatch language text front) says that (front) is the longest beginning of (text) that is
in (language).
-/
structure LongestMatch {α : Type} (language : Language α) (text front : List α) : Prop where
  begins : front <+: text
  member : front ∈ language
  longest : ∀ other, other <+: text → other ∈ language → other.length ≤ front.length

namespace LongestMatch

variable {α : Type} {language sublanguage : Language α} {text front other : List α}
  (matched : LongestMatch language text front)

include matched

theorem isPrefix (begins : other <+: text) (member : other ∈ language) : other <+: front :=
  List.prefix_of_prefix_length_le begins matched.begins (matched.longest other begins member)

theorem unique (also : LongestMatch language text other) : front = other :=
  (also.isPrefix matched.begins matched.member).eq_of_length_le
    (matched.longest other also.begins also.member)

theorem restrict (included : ∀ word ∈ sublanguage, word ∈ language)
    (member : front ∈ sublanguage)
    : LongestMatch sublanguage text front where
  begins := matched.begins
  member := member
  longest other begins also := matched.longest other begins (included other also)

theorem optional : LongestMatch (1 + language) text front where
  begins := matched.begins
  member := .inr matched.member
  longest other begins member := by
    rcases member with rfl | member
    · exact Nat.zero_le _
    · exact matched.longest other begins member

end LongestMatch

-----------------------------------------------------------------------------------------
-- The letters of patterns
-----------------------------------------------------------------------------------------

section

variable {α : Type}

/-- One of some letters. -/
def oneOf (symbols : List α) : RegularExpression α :=
  (symbols.map .char).sum

/-- The letters that a pattern is made of. -/
def patternLetters : RegularExpression α → List α
  | .char letter => [letter]
  | .plus left right | .comp left right => patternLetters left ++ patternLetters right
  | .star inner => patternLetters inner
  | .zero | .epsilon => []

/-- The letters that a match of a pattern can begin with. -/
def firstLetters : RegularExpression α → List α
  | .char letter => [letter]
  | .plus left right => firstLetters left ++ firstLetters right
  | .comp left right =>
    if left.matchEpsilon then firstLetters left ++ firstLetters right else firstLetters left
  | .star inner => firstLetters inner
  | .zero | .epsilon => []

theorem mem_oneOf {symbols text : List α}
    : text ∈ (oneOf symbols).matches' ↔ ∃ c ∈ symbols, text = [c] := by
  induction symbols with
  | nil => exact iff_of_false (Language.notMem_zero _) (by simp)
  | cons d rest ih =>
      rw [List.exists_mem_cons_iff, ← ih]
      rfl

theorem longestMatch_oneOf {symbols : List α} {c : α} (listed : c ∈ symbols) (rest : List α)
    : LongestMatch (oneOf symbols).matches' (c :: rest) [c] where
  begins := List.cons_prefix_cons.mpr ⟨rfl, List.nil_prefix⟩
  member := mem_oneOf.mpr ⟨c, listed, rfl⟩
  longest other _ member := by
    obtain ⟨d, -, rfl⟩ := mem_oneOf.mp member
    exact Nat.le_refl _

/-- A match has no letters but those of the pattern, by induction over the pattern. -/
theorem mem_patternLetters {pattern : RegularExpression α} {text : List α}
    (matched : text ∈ pattern.matches')
    : ∀ c ∈ text, c ∈ patternLetters pattern := by
  intro c member
  induction pattern generalizing text with
  | zero => exact absurd matched (Language.notMem_zero _)
  | epsilon =>
      obtain rfl := (Language.mem_one _).mp matched
      cases member
  | char letter =>
      obtain rfl : text = [letter] := matched
      exact member
  | plus left right leftIh rightIh =>
      exact List.mem_append.mpr (matched.imp (leftIh · member) (rightIh · member))
  | comp left right leftIh rightIh =>
      obtain ⟨front, own, rear, also, rfl⟩ := Language.mem_mul.mp matched
      exact List.mem_append.mpr ((List.mem_append.mp member).imp (leftIh own) (rightIh also))
  | star inner ih =>
      obtain ⟨words, rfl, own⟩ := Language.mem_kstar.mp matched
      obtain ⟨word, listed, inside⟩ := List.mem_flatten.mp member
      exact ih (own word listed) inside

variable [DecidableEq α]

theorem matchEpsilon_of_nil {pattern : RegularExpression α} (matched : [] ∈ pattern.matches')
    : pattern.matchEpsilon :=
  (pattern.rmatch_iff_matches' []).mpr matched

/-- A match begins with one of the first letters of the pattern, by induction over the pattern. -/
theorem mem_firstLetters {pattern : RegularExpression α} {c : α} {more : List α}
    (matched : c :: more ∈ pattern.matches')
    : c ∈ firstLetters pattern := by
  induction pattern generalizing more with
  | zero => exact absurd matched (Language.notMem_zero _)
  | epsilon => cases (Language.mem_one _).mp matched
  | char letter =>
      obtain ⟨rfl, -⟩ := List.cons.inj (show c :: more = [letter] from matched)
      exact List.mem_singleton_self c
  | plus left right leftIh rightIh => exact List.mem_append.mpr (matched.imp leftIh rightIh)
  | comp left right leftIh rightIh =>
      obtain ⟨front, own, rear, also, parts⟩ := Language.mem_mul.mp matched
      unfold firstLetters
      cases front with
      | nil =>
          obtain rfl : rear = c :: more := parts
          rw [if_pos (matchEpsilon_of_nil own)]
          exact List.mem_append_right _ (rightIh also)
      | cons d front =>
          obtain ⟨rfl, -⟩ := List.cons.inj parts
          split
          · exact List.mem_append_left _ (leftIh own)
          · exact leftIh own
  | star inner ih =>
      obtain ⟨words, parts, own⟩ := Language.mem_kstar_iff_exists_nonempty.mp matched
      cases words with
      | nil => cases parts
      | cons word words =>
          obtain ⟨member, some⟩ := own word List.mem_cons_self
          obtain ⟨d, word, rfl⟩ := List.exists_cons_of_ne_nil some
          obtain ⟨rfl, -⟩ := List.cons.inj parts
          exact ih member

-----------------------------------------------------------------------------------------
-- Matches of patterns
-----------------------------------------------------------------------------------------

variable {first second pattern : RegularExpression α} {text front behind rear : List α}

/-- An optional pattern is passed over where none of its first letters stands. -/
theorem longestMatch_nil (some : pattern.matchEpsilon = false)
    (plain : ∀ c ∈ firstLetters pattern, text.head? ≠ c)
    : LongestMatch (1 + pattern).matches' text [] where
  begins := List.nil_prefix
  member := .inl rfl
  longest other begins member := by
    rcases member with rfl | member
    · exact Nat.le_refl _
    · cases other with
      | nil => exact absurd (matchEpsilon_of_nil member) (by simp [some])
      | cons c more =>
          obtain ⟨rest, rfl⟩ := begins
          exact absurd rfl (plain c (mem_firstLetters member))

/-- Whether no match of the second pattern begins with a letter of the first one. -/
def tellsApart (first second : RegularExpression α) : Bool :=
  (firstLetters second).all fun c => !(patternLetters first).contains c

section

variable (apart : tellsApart first second)

include apart

theorem not_mem_of_tellsApart {c : α} {more : List α} (own : front ∈ first.matches')
    (also : c :: more ∈ second.matches')
    : c ∉ front := by
  intro member
  have foreign := List.all_eq_true.mp apart c (mem_firstLetters also)
  simp [mem_patternLetters own c member] at foreign

/-- A match is the longest one if what follows begins with a letter that is foreign to it. -/
theorem longestMatch_of_apart (own : front ∈ first.matches') (also : rear ∈ second.matches')
    : LongestMatch first.matches' (front ++ rear) front where
  begins := List.prefix_append front rear
  member := own
  longest other begins member := by
    rcases List.prefix_or_prefix_of_prefix begins (List.prefix_append front rear) with
      shorter | ⟨more, rfl⟩
    · exact shorter.length_le
    · rw [List.prefix_append_right_inj] at begins
      cases more with
      | nil => simp
      | cons c more =>
          obtain ⟨rest, rfl⟩ := begins
          exact absurd (by simp) (not_mem_of_tellsApart apart member also)

/-- Longest matches of two patterns, one behind the other, are together the longest match of both.
The first one cannot end earlier, because the second pattern begins with letters that are foreign to
the first one.
-/
theorem LongestMatch.append (matched : LongestMatch first.matches' text front)
    (parts : text = front ++ behind) (next : LongestMatch second.matches' behind rear)
    : LongestMatch (first * second).matches' text (front ++ rear) where
  begins := parts ▸ (List.prefix_append_right_inj front).mpr next.begins
  member := Language.mem_mul.mpr ⟨front, matched.member, rear, next.member, rfl⟩
  longest other begins member := by
    obtain ⟨word, own, more, also, rfl⟩ := Language.mem_mul.mp member
    obtain ⟨left, rfl⟩ := matched.isPrefix ((List.prefix_append word more).trans begins) own
    rw [parts, List.append_assoc, List.prefix_append_right_inj] at begins
    cases more with
    | nil => simp
    | cons c more =>
        cases left with
        | nil => simpa using next.longest _ begins also
        | cons d left =>
            obtain rfl := (List.cons_prefix_cons.mp begins).1
            exact absurd (by simp) (not_mem_of_tellsApart apart matched.member also)

end

end

-----------------------------------------------------------------------------------------
-- Texts in bytes
-----------------------------------------------------------------------------------------

/-- The bytes that a list of characters is stored in. -/
def storedBytes (text : List Char) : List UInt8 :=
  text.flatMap String.utf8EncodeChar

/-- The bytes of the texts that match a pattern. -/
def storedMatches (pattern : RegularExpression Char) : Language UInt8 :=
  storedBytes '' pattern.matches'

theorem storedBytes_toList (text : String)
    : storedBytes text.toList = text.toByteArray.data.toList := by
  rw [← String.utf8Encode_toList, List.utf8Encode, List.data_toByteArray, storedBytes]

theorem storedBytes_append (front rear : List Char)
    : storedBytes (front ++ rear) = storedBytes front ++ storedBytes rear :=
  List.flatMap_append

theorem length_storedBytes (text : List Char) : (storedBytes text).length = byteLength text := by
  induction text with
  | nil => rfl
  | cons c rest ih =>
      rw [byteLength_cons, ← ih, ← String.length_utf8EncodeChar, ← List.length_append]
      rfl

/-- A text begins with another one exactly if its bytes do, since no character is stored in the
first bytes of another character.
-/
theorem storedBytes_isPrefix_iff {front text : List Char}
    : storedBytes front <+: storedBytes text ↔ front <+: text := by
  constructor
  · rintro ⟨rest, parts⟩
    refine List.isPrefix_of_utf8Encode_append_eq_utf8Encode rest.toByteArray ?_
    rw [List.utf8Encode, List.utf8Encode, ← List.toByteArray_append]
    exact congrArg List.toByteArray parts
  · rintro ⟨rest, rfl⟩
    exact storedBytes_append front rest ▸ List.prefix_append _ _

/-- The longest match in the bytes of a text stores the longest match in its characters. -/
theorem longestMatch_stored_iff {pattern : RegularExpression Char} {text : List Char}
    {bytes : List UInt8}
    : LongestMatch (storedMatches pattern) (storedBytes text) bytes
      ↔ ∃ front, bytes = storedBytes front ∧ LongestMatch pattern.matches' text front := by
  constructor
  · rintro ⟨begins, ⟨front, member, rfl⟩, longest⟩
    refine ⟨front, rfl, storedBytes_isPrefix_iff.mp begins, member, fun other also listed => ?_⟩
    have shorter := longest _ (storedBytes_isPrefix_iff.mpr also) ⟨other, listed, rfl⟩
    rw [length_storedBytes, length_storedBytes] at shorter
    exact (isPrefix_of_byteLength_le also (storedBytes_isPrefix_iff.mp begins) shorter).length_le
  · rintro ⟨front, rfl, matched⟩
    refine ⟨storedBytes_isPrefix_iff.mpr matched.begins, ⟨front, matched.member, rfl⟩, ?_⟩
    rintro _ begins ⟨other, member, rfl⟩
    have shorter := matched.isPrefix (storedBytes_isPrefix_iff.mp begins) member
    exact (storedBytes_isPrefix_iff.mpr shorter).length_le

/-- Characters of ASCII are stored in bytes of ASCII. -/
theorem lt_of_mem_storedBytes {text : List Char} (ascii : ∀ c ∈ text, c.toNat < 0x80)
    : ∀ byte ∈ storedBytes text, byte < 0x80 := by
  intro byte stored
  obtain ⟨c, member, encoded⟩ := List.mem_flatMap.mp stored
  have code : c.val.toNat < 0x80 := ascii c member
  have single : c.utf8Size = 1 :=
    Char.utf8Size_eq_one_iff.mpr (UInt32.le_iff_toNat_le.mpr (Nat.le_of_lt_succ code))
  rw [String.utf8EncodeChar_eq_singleton single, List.mem_singleton] at encoded
  rw [encoded, UInt8.lt_iff_toNat_lt, UInt32.toNat_toUInt8,
    Nat.mod_eq_of_lt (Nat.lt_trans code (by decide))]
  exact code

end FormulaCompiler
