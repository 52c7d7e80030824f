import FormulaCompiler.Text.Span

/-! Spans as ranges of bytes. What a span marks is a piece of a text, so both of its ends lie
between characters, and what stands there can be read off the bytes of the text.
-/

namespace FormulaCompiler

-----------------------------------------------------------------------------------------
-- The bytes of a text
-----------------------------------------------------------------------------------------

/-- The positions of spans count the bytes that texts are stored in. -/
theorem utf8ByteSize_ofList (text : List Char)
    : (String.ofList text).utf8ByteSize = byteLength text := by
  induction text with
  | nil => rfl
  | cons c rest ih =>
      rw [String.ofList_cons, String.utf8ByteSize_append, String.utf8ByteSize_singleton, ih]
      rfl

theorem utf8ByteSize_eq (text : String) : text.utf8ByteSize = byteLength text.toList := by
  rw [← utf8ByteSize_ofList, String.ofList_toList]

theorem byteLength_pos {text : List Char} (some : text ≠ []) : 0 < byteLength text := by
  cases text with
  | nil => exact absurd rfl some
  | cons c rest => exact Nat.lt_of_lt_of_le c.utf8Size_pos (Nat.le_add_right _ _)

/-- Of two beginnings of one text, the one with fewer bytes is a beginning of the other one. -/
theorem isPrefix_of_byteLength_le {first second text : List Char} (begins : first <+: text)
    (also : second <+: text) (le : byteLength first ≤ byteLength second)
    : first <+: second := by
  rcases List.prefix_or_prefix_of_prefix begins also with shorter | longer
  · exact shorter
  · obtain ⟨more, rfl⟩ := longer
    rw [byteLength_append] at le
    cases more with
    | nil => simp
    | cons c rest =>
        have positive := byteLength_pos (List.cons_ne_nil c rest)
        omega

/-- A character of ASCII is one byte, which holds its code. -/
theorem toByteArray_getElem_of_ascii {text : String} {before behind : List Char} {c : Char}
    (parts : text.toList = before ++ c :: behind) (ascii : c.val.toNat ≤ 127)
    (inside : byteLength before < text.utf8ByteSize)
    : text.toByteArray[byteLength before] = UInt8.ofNat c.val.toNat := by
  have whole : text = String.ofList before ++ String.ofList (c :: behind) := by
    rw [← String.ofList_append, ← parts, String.ofList_toList]
  have size := utf8ByteSize_ofList before
  have encoded : String.utf8EncodeChar c = [UInt8.ofNat c.val.toNat] := by
    rw [String.utf8EncodeChar]
    exact if_pos ascii
  subst whole
  simp only [String.toByteArray_append]
  rw [ByteArray.getElem_append_right (Nat.le_of_eq size)]
  simp only [String.size_toByteArray, size, Nat.sub_self]
  simp only [String.ofList_cons, String.toByteArray_append, String.toByteArray_singleton,
    List.utf8Encode_singleton, encoded]
  exact (ByteArray.getElem_append_left Nat.zero_lt_one).trans List.getElem_toByteArray

-----------------------------------------------------------------------------------------
-- What spans mark
-----------------------------------------------------------------------------------------

namespace Span

/-- Whether a span is a range of the bytes of a text, and both of its ends lie between characters.
-/
structure IsRangeOf (span : Span) (text : String) : Prop where
  ordered : span.start ≤ span.stop
  inside : span.stop ≤ text.utf8ByteSize
  startsBetween : String.Pos.Raw.IsValid text ⟨span.start⟩
  stopsBetween : String.Pos.Raw.IsValid text ⟨span.stop⟩

/-- Whether this slice stands in a text where a span says. -/
def Marks (span : Span) (text slice : String) : Prop :=
  ∃ before behind,
    text = before ++ slice ++ behind
    ∧ span.start = before.utf8ByteSize
    ∧ span.stop = span.start + slice.utf8ByteSize

variable {span : Span} {text slice : String}

theorem Marks.isRangeOf (marks : span.Marks text slice) : span.IsRangeOf text := by
  obtain ⟨before, behind, rfl, start, stop⟩ := marks
  have reaches : span.stop = (before ++ slice).utf8ByteSize := by
    rw [stop, start, String.utf8ByteSize_append]
  exact {
    ordered := stop ▸ Nat.le_add_right _ _
    inside := by
      rw [reaches, String.utf8ByteSize_append (s := before ++ slice)]
      exact Nat.le_add_right _ _
    startsBetween := String.Pos.Raw.isValid_iff_exists_append.mpr
      ⟨before, slice ++ behind, String.append_assoc, String.Pos.Raw.ext start⟩
    stopsBetween := String.Pos.Raw.isValid_iff_exists_append.mpr
      ⟨before ++ slice, behind, rfl, String.Pos.Raw.ext reaches⟩
  }

theorem marks_of_toList {before taken behind : List Char}
    (parts : text.toList = before ++ (taken ++ behind))
    (same : span = .ofLength (byteLength before) (byteLength taken))
    : span.Marks text (String.ofList taken) := by
  refine ⟨String.ofList before, String.ofList behind, ?_, ?_, ?_⟩
  · rw [String.append_assoc, ← String.ofList_append, ← String.ofList_append, ← parts,
      String.ofList_toList]
  · rw [same, utf8ByteSize_ofList, ofLength]
  · rw [same, utf8ByteSize_ofList, ofLength]

theorem marks_end (text : String) : Marks ⟨text.utf8ByteSize, text.utf8ByteSize⟩ text "" :=
  ⟨text, "", by simp, rfl, by simp⟩

/-- From one marked slice to a later one, what stands between them is marked too. -/
theorem Marks.through {first last : Span} {front rear : String} (marks : first.Marks text front)
    (also : last.Marks text rear) (before : first.stop ≤ last.start)
    : ∃ middle, (first.through last).Marks text (front ++ middle ++ rear) := by
  obtain ⟨ahead, behind, parts, start, stop⟩ := marks
  obtain ⟨earlier, rest, rfl, start', stop'⟩ := also
  have le : byteLength (ahead ++ front).toList ≤ byteLength earlier.toList := by
    rw [← utf8ByteSize_eq, ← utf8ByteSize_eq, String.utf8ByteSize_append]
    omega
  have begins : (ahead ++ front).toList <+: (earlier ++ rear ++ rest).toList := by
    rw [parts, String.toList_append (s := ahead ++ front)]
    exact List.prefix_append _ _
  have also : earlier.toList <+: (earlier ++ rear ++ rest).toList := by
    rw [String.append_assoc, String.toList_append]
    exact List.prefix_append _ _
  obtain ⟨middle, joined⟩ := isPrefix_of_byteLength_le begins also le
  have between : earlier = ahead ++ front ++ String.ofList middle := by
    rw [← String.toList_inj, String.toList_append, String.toList_ofList, joined]
  refine ⟨String.ofList middle, ahead, rest, ?_, start, ?_⟩
  · simp only [between, String.append_assoc]
  · rw [between] at start'
    simp only [through, stop', start', start, String.utf8ByteSize_append]
    omega

end Span

end FormulaCompiler
