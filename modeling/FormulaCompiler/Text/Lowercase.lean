import FormulaCompiler.Text.CaseData

/-! The lower-case form of a text by the full Unicode rules: a letter may become two characters,
and a capital sigma becomes the final form where it ends a word.
-/

namespace FormulaCompiler

open CaseData

/-- The lower-case image of a code point, where this range holds it. -/
def CaseData.CaseRange.lower? (range : CaseRange) (code : Nat) : Option Nat :=
  if range.first ≤ code ∧ code ≤ range.last ∧ (code - range.first) % range.stride = 0 then
    some (range.image + (code - range.first))
  else
    none

/-- The code point of the lower-case form of a letter beyond ASCII, or the code point itself. -/
def lowerCode (code : Nat) : Nat :=
  (lowercaseRanges.findSome? (·.lower? code)).getD code

/-- The lower-case form of one character, out of context. The capital dotted i is the one letter
whose form has two characters.
-/
def lowerChar (c : Char) : List Char :=
  if c.toNat < 0x80 then [c.toLower]
  else if c = 'İ' then ['i', '\u0307']
  else [Char.ofNat (lowerCode c.toNat)]

/-- Whether a code point lies in one of the ranges. -/
def inRanges (ranges : List (Nat × Nat)) (code : Nat) : Bool :=
  ranges.any fun range => range.1 ≤ code && code ≤ range.2

/-- Whether the first character that is not case-ignorable is a letter with case. -/
def opensCased (text : List Char) : Bool :=
  match text.dropWhile fun c => inRanges caseIgnorableRanges c.toNat with
  | [] => false
  | c :: _ => inRanges casedRanges c.toNat

/-- The form of a capital sigma between (before), which is read backwards, and (after): the final
one exactly where a letter goes before and none follows.
-/
def lowerSigma (before after : List Char) : Char :=
  if opensCased before && !opensCased after then 'ς' else 'σ'

/-- The lower-case form of (text), where (before) holds the characters in front of it, backwards. -/
def lowercaseAfter (before : List Char) : List Char → List Char
  | [] => []
  | c :: rest =>
    (if c = 'Σ' then [lowerSigma before rest] else lowerChar c) ++ lowercaseAfter (c :: before) rest

/-- The lower-case form of a text. -/
def lowercase (text : String) : String :=
  String.ofList (lowercaseAfter [] text.toList)

end FormulaCompiler
