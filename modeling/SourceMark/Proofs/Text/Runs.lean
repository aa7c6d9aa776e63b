/-
Runs and first places. A run of characters ends at the first character that does not belong to it. What is looked for in a
text stands at its head, and then this is its first place, or it is looked for behind the first characters, and its places
there are the places in the text less their number.

Results:
- `takeWhile_run`, `dropWhile_run`, `drop_takeWhile`: where a run ends.
- `minimal_zero`, `minimal_add`: the two ways in which a place is the first one.
- `exists_first`: what stands somewhere has a first place.
-/
import Mathlib.Data.List.Basic
import Mathlib.Order.Minimal
import Mathlib.Order.WellFounded
import SourceMark.Text.Basic

namespace SourceMark.Text

/-! ## Runs -/

section Runs

variable {p : Char → Bool} {run rest : Text}

theorem takeWhile_run (hrun : ∀ c ∈ run, p c = true) (hrest : ∀ c, rest.head? = some c → p c = false) :
    (run ++ rest).takeWhile p = run := by
  rw [List.takeWhile_append_of_pos hrun]
  cases rest with
  | nil => rw [List.takeWhile_nil, List.append_nil]
  | cons c rest => rw [List.takeWhile_cons_of_neg (by simp [hrest c rfl]), List.append_nil]

theorem dropWhile_run (hrun : ∀ c ∈ run, p c = true) (hrest : ∀ c, rest.head? = some c → p c = false) :
    (run ++ rest).dropWhile p = rest := by
  have hsplit := List.takeWhile_append_dropWhile (p := p) (l := run ++ rest)
  rw [takeWhile_run hrun hrest] at hsplit
  exact List.append_cancel_left hsplit

theorem drop_takeWhile (p : Char → Bool) (text : Text) : text.drop (text.takeWhile p).length = text.dropWhile p := by
  have hdrop : (text.takeWhile p ++ text.dropWhile p).drop (text.takeWhile p).length = text.dropWhile p := List.drop_left
  rwa [List.takeWhile_append_dropWhile] at hdrop

theorem head?_dropWhile {text : Text} {c : Char} (h : (text.dropWhile p).head? = some c) : p c = false := by
  have hnot := List.head?_dropWhile_not p text
  rw [h] at hnot
  simpa using hnot

end Runs

/-! ## First places -/

section Places

variable {P : Nat → Prop} {place : Nat}

theorem minimal_zero (h : P 0) : Minimal P place ↔ place = 0 := by
  constructor
  · intro hfirst
    exact Nat.le_zero.1 (hfirst.le_of_le h (Nat.zero_le place))
  · rintro rfl
    exact ⟨h, fun _ _ _ => Nat.zero_le _⟩

theorem minimal_add {n : Nat} (h : ∀ place < n, ¬P place) :
    Minimal P place ↔ ∃ behind, place = behind + n ∧ Minimal (fun k => P (k + n)) behind := by
  have hle {k : Nat} (hk : P k) : n ≤ k := Nat.le_of_not_lt fun hlt => h k hlt hk
  constructor
  · rintro ⟨hplace, hfirst⟩
    obtain ⟨behind, rfl⟩ := Nat.exists_eq_add_of_le' (hle hplace)
    refine ⟨behind, rfl, hplace, fun k hk hkle => ?_⟩
    exact Nat.le_of_add_le_add_right (hfirst hk (Nat.add_le_add_right hkle n))
  · rintro ⟨behind, rfl, hbehind, hfirst⟩
    refine ⟨hbehind, fun k hk hkle => ?_⟩
    obtain ⟨k, rfl⟩ := Nat.exists_eq_add_of_le' (hle hk)
    exact Nat.add_le_add_right (hfirst hk (Nat.le_of_add_le_add_right hkle)) n

theorem minimal_succ (h : ¬P 0) :
    Minimal P place ↔ ∃ behind, place = behind + 1 ∧ Minimal (fun k => P (k + 1)) behind :=
  minimal_add fun _ hk => (Nat.lt_one_iff.1 hk).symm ▸ h

theorem exists_first (h : P place) : ∃ first, Minimal P first :=
  exists_minimal_of_wellFoundedLT P ⟨place, h⟩

end Places

end SourceMark.Text
