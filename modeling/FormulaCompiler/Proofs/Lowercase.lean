import Mathlib
import FormulaCompiler.Text.Lowercase

/-! A lower-case text has no capital letter of ASCII, whatever letters it was made from, and stays
as it is when it goes to lower case again.
-/

namespace FormulaCompiler

open CaseData

theorem isUpper_iff {c : Char} : c.isUpper ↔ 65 ≤ c.toNat ∧ c.toNat ≤ 90 := by
  simp [Char.isUpper, UInt32.le_iff_toNat_le]

theorem not_isUpper_of_lt {c : Char} (beyond : 90 < c.toNat) : ¬c.isUpper :=
  fun upper => Nat.not_le.mpr beyond (isUpper_iff.mp upper).2

theorem not_isUpper_ofNat {code : Nat} (beyond : 90 < code) : ¬(Char.ofNat code).isUpper := by
  unfold Char.ofNat
  split
  · exact not_isUpper_of_lt beyond
  · decide

/-- The table leads from no letter to a capital letter of ASCII. -/
theorem lt_image : ∀ range ∈ lowercaseRanges, 90 < range.image := by
  decide +kernel

theorem lt_lowerCode {code : Nat} (beyond : 90 < code) : 90 < lowerCode code := by
  unfold lowerCode
  cases found : lowercaseRanges.findSome? (·.lower? code) with
  | none => exact beyond
  | some image =>
      obtain ⟨range, listed, lowered⟩ := List.exists_of_findSome?_eq_some found
      unfold CaseRange.lower? at lowered
      split at lowered
      · obtain rfl := Option.some.inj lowered
        exact Nat.lt_of_lt_of_le (lt_image range listed) (Nat.le_add_right _ _)
      · cases lowered

theorem not_isUpper_lowerChar {c d : Char} (member : d ∈ lowerChar c) : ¬d.isUpper := by
  unfold lowerChar at member
  split at member
  · obtain rfl := List.mem_singleton.mp member
    simp
  · rename_i beyond
    split at member
    · rcases List.mem_cons.mp member with rfl | later
      · decide
      · obtain rfl := List.mem_singleton.mp later
        exact not_isUpper_of_lt (by decide)
    · obtain rfl := List.mem_singleton.mp member
      exact not_isUpper_ofNat (lt_lowerCode (by omega))

theorem not_isUpper_lowerSigma (before after : List Char) : ¬(lowerSigma before after).isUpper := by
  unfold lowerSigma
  split <;> decide

/-- No character of a lower-case text is a capital letter of ASCII. -/
theorem not_isUpper_of_mem_lowercaseAfter {before text : List Char} {c : Char}
    (member : c ∈ lowercaseAfter before text)
    : ¬c.isUpper := by
  induction text generalizing before with
  | nil => cases member
  | cons d rest ih =>
      rw [lowercaseAfter] at member
      rcases List.mem_append.mp member with first | later
      · split at first
        · obtain rfl := List.mem_singleton.mp first
          exact not_isUpper_lowerSigma before rest
        · exact not_isUpper_lowerChar first
      · exact ih later

theorem not_isUpper_of_mem_lowercase {text : String} {c : Char}
    (member : c ∈ (lowercase text).toList)
    : ¬c.isUpper := by
  rw [lowercase, String.toList_ofList] at member
  exact not_isUpper_of_mem_lowercaseAfter member

-----------------------------------------------------------------------------------------
-- The table leads to no capital letter
-----------------------------------------------------------------------------------------

/-- Whether a run of letters leads to no letter of another run: it leads before or behind that, or
it keeps to the other letters of a run that takes every second one.
-/
def CaseData.CaseRange.leadsPast (range other : CaseRange) : Bool :=
  Nat.blt (range.image + (range.last - range.first)) other.first
  || Nat.blt other.last range.image
  || (range.first == range.last || range.stride == 2) && other.stride == 2
    && range.image % 2 != other.first % 2

theorem lower?_of_leadsPast {range other : CaseRange} (past : range.leadsPast other)
    {code image : Nat} (lowered : range.lower? code = some image)
    : other.lower? image = none := by
  unfold CaseRange.lower? at lowered ⊢
  split at lowered
  · rename_i inside
    obtain rfl := Option.some.inj lowered
    simp only [CaseRange.leadsPast, Bool.or_eq_true, Bool.and_eq_true, Nat.blt_eq, beq_iff_eq,
      bne_iff_ne] at past
    refine if_neg ?_
    rintro ⟨lower, upper, step⟩
    rcases past with (before | behind) | ⟨⟨single | second, every⟩, parity⟩
    · omega
    · omega
    · rw [every] at step
      omega
    · rw [every] at step
      rw [second] at inside
      omega
  · cases lowered

/-- The capital dotted i as a run of its own, which leads to two characters. -/
def dottedRange : CaseRange := ⟨0x130, 0x130, 1, 0x69⟩

/-- The table leads from no letter to one that has a lower-case form itself. -/
theorem leadsPast_table
    : lowercaseRanges.all fun range =>
        (dottedRange :: lowercaseRanges).all fun other => range.leadsPast other := by
  decide +kernel

theorem leadsPast_of_mem {range other : CaseRange} (listed : range ∈ lowercaseRanges)
    (also : other ∈ dottedRange :: lowercaseRanges)
    : range.leadsPast other :=
  List.all_eq_true.mp (List.all_eq_true.mp leadsPast_table range listed) other also

theorem exists_range_of_lowerCode_ne {code : Nat} (changed : lowerCode code ≠ code)
    : ∃ range ∈ lowercaseRanges, range.lower? code = some (lowerCode code) := by
  unfold lowerCode at changed ⊢
  cases found : lowercaseRanges.findSome? (·.lower? code) with
  | none =>
      rw [found] at changed
      exact absurd rfl changed
  | some image => exact List.exists_of_findSome?_eq_some found

theorem lowerCode_lowerCode (code : Nat) : lowerCode (lowerCode code) = lowerCode code := by
  by_cases changed : lowerCode code = code
  · rw [changed, changed]
  · obtain ⟨range, listed, lowered⟩ := exists_range_of_lowerCode_ne changed
    generalize lowerCode code = image at lowered
    have none : lowercaseRanges.findSome? (·.lower? image) = none := by
      refine List.findSome?_eq_none_iff.mpr fun other member => ?_
      exact lower?_of_leadsPast (leadsPast_of_mem listed (List.mem_cons_of_mem _ member)) lowered
    rw [lowerCode, none, Option.getD_none]

theorem lowerCode_ne_dotted {code : Nat} (other : code ≠ 0x130) : lowerCode code ≠ 0x130 := by
  intro dotted
  obtain ⟨range, listed, lowered⟩ := exists_range_of_lowerCode_ne (dotted ▸ other.symm)
  rw [dotted] at lowered
  have none := lower?_of_leadsPast (leadsPast_of_mem listed List.mem_cons_self) lowered
  exact absurd none (by decide)

theorem lowerCode_ne_sigma (code : Nat) : lowerCode code ≠ 0x3A3 := by
  intro sigma
  have again := lowerCode_lowerCode code
  rw [sigma] at again
  exact absurd again (by decide)

-----------------------------------------------------------------------------------------
-- Characters that are in lower case already
-----------------------------------------------------------------------------------------

/-- Whether a character is its own lower-case form, wherever it stands. -/
def IsLowered (c : Char) : Prop :=
  c ≠ 'Σ' ∧ lowerChar c = [c]

theorem isLowered_of_ascii {c : Char} (ascii : c.toNat < 0x80) (lowered : ¬c.isUpper)
    : IsLowered c := by
  refine ⟨?_, ?_⟩
  · rintro rfl
    exact absurd ascii (by decide)
  · rw [lowerChar, if_pos ascii, Char.toLower_eq_of_not_isUpper lowered]

/-- What holds of the first code points holds of every character of ASCII. -/
@[elab_as_elim] theorem forall_of_ascii {motive : Char → Prop} (c : Char) (ascii : c.toNat < 0x80)
    (all : ∀ code < 0x80, motive (Char.ofNat code))
    : motive c := by
  have own := all c.toNat ascii
  rwa [Char.ofNat_toNat] at own

theorem toNat_toLower_lt {c : Char} (ascii : c.toNat < 0x80) : c.toLower.toNat < 0x80 :=
  forall_of_ascii c ascii (by decide)

/-- A letter that the table leads to is in lower case already. -/
theorem isLowered_ofNat {code : Nat} (notDotted : code ≠ 0x130) (notSigma : code ≠ 0x3A3)
    (settled : lowerCode code = code) (lowered : ¬(Char.ofNat code).isUpper)
    : IsLowered (Char.ofNat code) := by
  by_cases ascii : (Char.ofNat code).toNat < 0x80
  · exact isLowered_of_ascii ascii lowered
  · have valid : (Char.ofNat code).toNat = code := by
      rw [Char.toNat_ofNat] at ascii ⊢
      split at ascii
      · exact if_pos ‹_›
      · exact absurd (by decide) ascii
    refine ⟨?_, ?_⟩
    · intro same
      rw [same] at valid
      exact notSigma valid.symm
    · rw [lowerChar, if_neg ascii, if_neg, valid, settled]
      intro same
      rw [same] at valid
      exact notDotted valid.symm

theorem isLowered_of_mem_lowerChar {c d : Char} (member : d ∈ lowerChar c) : IsLowered d := by
  have notUpper := not_isUpper_lowerChar member
  unfold lowerChar at member
  split at member
  · rename_i ascii
    obtain rfl := List.mem_singleton.mp member
    exact isLowered_of_ascii (toNat_toLower_lt ascii) notUpper
  · split at member
    · rcases List.mem_cons.mp member with rfl | later
      · exact isLowered_of_ascii (by decide) notUpper
      · obtain rfl := List.mem_singleton.mp later
        exact ⟨by decide, by decide⟩
    · rename_i beyond notDotted
      obtain rfl := List.mem_singleton.mp member
      have other : c.toNat ≠ 0x130 := fun same => notDotted (Char.toNat_inj.mp same)
      exact isLowered_ofNat (lowerCode_ne_dotted other) (lowerCode_ne_sigma _)
        (lowerCode_lowerCode _) notUpper

-----------------------------------------------------------------------------------------
-- Texts that are in lower case already
-----------------------------------------------------------------------------------------

theorem isLowered_of_mem_lowercaseAfter {before text : List Char} {c : Char}
    (member : c ∈ lowercaseAfter before text)
    : IsLowered c := by
  induction text generalizing before with
  | nil => cases member
  | cons d rest ih =>
      rw [lowercaseAfter] at member
      rcases List.mem_append.mp member with first | later
      · split at first
        · obtain rfl := List.mem_singleton.mp first
          unfold lowerSigma
          split <;> exact ⟨by decide, by decide⟩
        · exact isLowered_of_mem_lowerChar first
      · exact ih later

theorem isLowered_of_mem_lowercase {text : String} {c : Char}
    (member : c ∈ (lowercase text).toList)
    : IsLowered c := by
  rw [lowercase, String.toList_ofList] at member
  exact isLowered_of_mem_lowercaseAfter member

/-- A capital sigma leaves one of the two small ones. -/
theorem sigma_mem_lowercaseAfter (before : List Char) {text : List Char} (member : 'Σ' ∈ text)
    : 'σ' ∈ lowercaseAfter before text ∨ 'ς' ∈ lowercaseAfter before text := by
  induction text generalizing before with
  | nil => cases member
  | cons c rest ih =>
      rw [lowercaseAfter]
      rcases List.mem_cons.mp member with rfl | later
      · rw [if_pos rfl, lowerSigma]
        split <;> simp
      · exact (ih _ later).imp (List.mem_append_right _) (List.mem_append_right _)

/-- Without a capital sigma, characters go to lower case one by one. -/
theorem lowercaseAfter_eq_flatMap (before : List Char) {text : List Char} (noSigma : 'Σ' ∉ text)
    : lowercaseAfter before text = text.flatMap lowerChar := by
  induction text generalizing before with
  | nil => rfl
  | cons c rest ih =>
      rw [List.mem_cons, not_or] at noSigma
      rw [lowercaseAfter, if_neg (Ne.symm noSigma.1), ih _ noSigma.2, List.flatMap_cons]

theorem flatMap_lowerChar {text : List Char} (lowered : ∀ c ∈ text, IsLowered c)
    : text.flatMap lowerChar = text := by
  induction text with
  | nil => rfl
  | cons c rest ih =>
      rw [List.forall_mem_cons] at lowered
      rw [List.flatMap_cons, lowered.1.2, ih lowered.2, List.singleton_append]

theorem lowercase_of_lowered {text : String} (lowered : ∀ c ∈ text.toList, IsLowered c)
    : lowercase text = text := by
  have noSigma : 'Σ' ∉ text.toList := fun member => (lowered _ member).1 rfl
  rw [lowercase, lowercaseAfter_eq_flatMap [] noSigma, flatMap_lowerChar lowered,
    String.ofList_toList]

/-- A text in lower case stays as it is when it goes to lower case again. -/
theorem lowercase_lowercase (text : String) : lowercase (lowercase text) = lowercase text :=
  lowercase_of_lowered fun _ => isLowered_of_mem_lowercase

theorem eq_colon_of_mem_lowerChar {c : Char} (member : ':' ∈ lowerChar c) : c = ':' := by
  unfold lowerChar at member
  split at member
  · rename_i ascii
    have colon : ':' = c.toLower → c = ':' := forall_of_ascii c ascii (by decide)
    exact colon (List.mem_singleton.mp member)
  · rename_i beyond
    split at member
    · exact absurd member (by decide)
    · have image : 90 < lowerCode c.toNat := lt_lowerCode (by omega)
      have value := Char.toNat_ofNat (lowerCode c.toNat)
      rw [← List.mem_singleton.mp member] at value
      change 58 = _ at value
      split at value <;> omega

/-- Going to lower case makes no colon out of another character. -/
theorem colon_mem_of_mem_lowercaseAfter {before text : List Char}
    (member : ':' ∈ lowercaseAfter before text)
    : ':' ∈ text := by
  induction text generalizing before with
  | nil => cases member
  | cons c rest ih =>
      rw [lowercaseAfter] at member
      rcases List.mem_append.mp member with first | later
      · split at first
        · unfold lowerSigma at first
          split at first <;> exact absurd first (by decide)
        · exact List.mem_cons.mpr (.inl (eq_colon_of_mem_lowerChar first).symm)
      · exact List.mem_cons_of_mem _ (ih later)

/-- A text of ASCII without capital letters is its own lower-case form. -/
theorem lowercase_of_ascii {text : String} (ascii : ∀ c ∈ text.toList, c.toNat < 0x80)
    (lowered : ∀ c ∈ text.toList, ¬c.isUpper)
    : lowercase text = text :=
  lowercase_of_lowered fun c member => isLowered_of_ascii (ascii c member) (lowered c member)

end FormulaCompiler
