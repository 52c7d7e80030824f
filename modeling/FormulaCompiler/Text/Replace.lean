/-! Replacing every occurrence of one text in another. Occurrences are found from left to right and
do not overlap; the empty text occurs at every boundary between characters and at both ends.
-/

namespace FormulaCompiler

/-- The occurrences of (pattern) replaced, except that the next (skip) characters still belong to
an occurrence that was already replaced.
-/
def replaceFrom (pattern replacement : List Char) (skip : Nat) : List Char → List Char
  | [] => []
  | c :: rest =>
    match skip with
    | skip + 1 => replaceFrom pattern replacement skip rest
    | 0 =>
      if pattern.isPrefixOf (c :: rest) then
        replacement ++ replaceFrom pattern replacement (pattern.length - 1) rest
      else
        c :: replaceFrom pattern replacement 0 rest

/-- Every occurrence of (pattern) in (text) replaced by (replacement). -/
def replaceAll (pattern replacement text : List Char) : List Char :=
  match pattern with
  | [] => replacement ++ text.flatMap fun c => c :: replacement
  | _ :: _ => replaceFrom pattern replacement 0 text

end FormulaCompiler
