/-
The names that settings take for the marker's attribute. They take every attribute name, and every attribute name with
one line feed behind it.

Results:
- `accepts_iff`: these texts are taken and no others.
- `accepts_iff_isName`: without a line feed at its end, a text is taken if and only if it is an attribute name.
-/
import Mathlib.Data.List.Basic
import SourceMark.Settings.Basic

namespace SourceMark.AttributeName

/-- attribute names: a letter, an underscore or a colon, and behind it also digits, points and dashes -/
def IsName (text : Text) : Prop :=
  ∃ first rest, text = first :: rest ∧ isHead first = true ∧ ∀ c ∈ rest, isTail c = true

theorem isTail_of_isHead {c : Char} (h : isHead c = true) : isTail c = true := by
  simp only [isHead, isTail, Char.isAlphanum, Bool.or_eq_true] at h ⊢
  rcases h with (h | h) | h <;> simp [h]

namespace IsName

variable {name : Text}

theorem ne_nil (h : IsName name) : name ≠ [] := by
  obtain ⟨first, rest, rfl, -, -⟩ := h
  exact List.cons_ne_nil first rest

theorem isTail (h : IsName name) {c : Char} (hc : c ∈ name) : AttributeName.isTail c = true := by
  obtain ⟨first, rest, rfl, hfirst, hrest⟩ := h
  rcases List.mem_cons.1 hc with rfl | hc
  · exact isTail_of_isHead hfirst
  · exact hrest c hc

end IsName

/-! ## What is overlooked -/

theorem dropFinalNewline_concat (text : Text) : dropFinalNewline (text ++ ['\n']) = text := by
  simp [dropFinalNewline]

theorem dropFinalNewline_of_getLast? {text : Text} (h : text.getLast? ≠ some '\n') : dropFinalNewline text = text :=
  if_neg h

theorem accepts_cons_iff {first : Char} {rest : Text} :
    accepts (first :: rest) = true ↔ isHead first = true ∧ ∀ c ∈ dropFinalNewline rest, isTail c = true := by
  rw [accepts, Bool.and_eq_true, List.all_eq_true]

/-- **What is taken**: an attribute name, or one with a line feed behind it. -/
theorem accepts_iff {text : Text} :
    accepts text = true ↔ ∃ name ending, text = name ++ ending ∧ IsName name ∧ (ending = [] ∨ ending = ['\n']) := by
  constructor
  · intro h
    cases text with
    | nil => exact absurd h (by decide)
    | cons first rest =>
      obtain ⟨hfirst, hrest⟩ := accepts_cons_iff.1 h
      by_cases hlast : rest.getLast? = some '\n'
      · obtain ⟨front, rfl⟩ := List.getLast?_eq_some_iff.1 hlast
        rw [dropFinalNewline_concat] at hrest
        exact ⟨first :: front, ['\n'], rfl, ⟨first, front, rfl, hfirst, hrest⟩, Or.inr rfl⟩
      · rw [dropFinalNewline_of_getLast? hlast] at hrest
        exact ⟨first :: rest, [], by simp, ⟨first, rest, rfl, hfirst, hrest⟩, Or.inl rfl⟩
  · rintro ⟨name, ending, rfl, ⟨first, rest, rfl, hfirst, hrest⟩, rfl | rfl⟩
    · have hlast : rest.getLast? ≠ some '\n' := fun hlast =>
        absurd (hrest _ (List.mem_of_getLast? hlast)) (by decide)
      rw [List.append_nil, accepts_cons_iff, dropFinalNewline_of_getLast? hlast]
      exact ⟨hfirst, hrest⟩
    · rw [List.cons_append, accepts_cons_iff, dropFinalNewline_concat]
      exact ⟨hfirst, hrest⟩

theorem accepts_iff_isName {text : Text} (h : text.getLast? ≠ some '\n') : accepts text = true ↔ IsName text := by
  rw [accepts_iff]
  constructor
  · rintro ⟨name, ending, rfl, hname, rfl | rfl⟩
    · rwa [List.append_nil]
    · exact absurd List.getLast?_concat h
  · intro hname
    exact ⟨text, [], by simp, hname, Or.inl rfl⟩

example : accepts "data-x\n".toList = true ∧ accepts "data-x\n\n".toList = false := by decide

end SourceMark.AttributeName
