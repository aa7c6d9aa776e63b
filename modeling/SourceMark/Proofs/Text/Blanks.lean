/-
Blanks of any script. There are few of them. None is a word character, none has a small form other than itself, and none is
taken for a character of a name, whatever the case.

Results:
- `isWord_of_isBlank`, `isNameChar_of_isBlank`: a blank belongs to no word and to no name.
- `sameLetter_of_isBlank`: no character of a name stands for a blank.
-/
import SourceMark.Proofs.Text.Sign
import SourceMark.Tag.Hazard

namespace SourceMark

namespace Text

/-- what holds of every code point in some ranges holds of every character in them -/
theorem forall_inRanges {P : Char → Prop} {ranges : List (Nat × Nat)}
    (h : ∀ range ∈ ranges, ∀ k < range.2 + 1 - range.1, P (Char.ofNat (range.1 + k))) {c : Char}
    (hc : inRanges ranges c.toNat = true) : P c := by
  obtain ⟨range, hrange, hin⟩ := List.any_eq_true.1 hc
  rw [Bool.and_eq_true, decide_eq_true_eq, decide_eq_true_eq] at hin
  have hP := h range hrange (c.toNat - range.1) (by omega)
  rwa [Nat.add_sub_cancel' hin.1, Char.ofNat_toNat] at hP

/-- **A blank is no word character.** -/
theorem isWord_of_isBlank {c : Char} (h : isBlank c = true) : isWord c = false :=
  forall_inRanges (P := fun c => isWord c = false) (by decide +kernel) h

theorem toLower_of_isBlank {c : Char} (h : isBlank c = true) : toLower c = c :=
  forall_inRanges (P := fun c => toLower c = c) (by decide +kernel) h

theorem isBlank_of_mem_furtherForms : ∀ entry ∈ furtherForms, ∀ d ∈ entry.2, isBlank d = false := by
  decide +kernel

/-- **No character of a name stands for a blank.** -/
theorem sameLetter_of_isBlank {p c : Char} (hp : AttributeName.isTail p = true) (hc : isBlank c = true) :
    sameLetter p c = false := by
  have hsmall : toLower p ≠ c := by
    rintro rfl
    rw [toLower_eq_of_ascii (ascii_of_isTail hp), isBlank_of_isTail ((isTail_toLower p).trans hp)] at hc
    exact absurd hc (by decide)
  have hforms : c ∉ (furtherForms.lookup (toLower p)).getD [] := by
    intro hmem
    cases hlookup : furtherForms.lookup (toLower p) with
    | none => simp [hlookup] at hmem
    | some forms =>
      obtain ⟨front, back, hentries, -⟩ := List.lookup_eq_some_iff.1 hlookup
      rw [hlookup, Option.getD_some] at hmem
      have hentry : (toLower p, forms) ∈ furtherForms := hentries ▸ List.mem_append_right front List.mem_cons_self
      rw [isBlank_of_mem_furtherForms _ hentry c hmem] at hc
      exact absurd hc (by decide)
  rw [sameLetter, toLower_of_isBlank hc]
  simp [hsmall.symm, hforms]

end Text

theorem Dialect.isNameChar_of_isBlank {c : Char} (h : Text.isBlank c = true) : isNameChar c = false := by
  have hsigns : ∀ d ∈ ['.', ':', '-'], Text.isBlank d = false := by decide
  have hne {d : Char} (hd : d ∈ ['.', ':', '-']) : c ≠ d := by
    rintro rfl
    rw [hsigns c hd] at h
    exact absurd h (by decide)
  simp [isNameChar, Text.isWord_of_isBlank h, hne]

end SourceMark
