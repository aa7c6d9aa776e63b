/-
Edit scripts. A script goes through a text and its outcome at once and says of each character whether it is kept, added
or dropped. The script of a run keeps all of the source but blanks next to some closing brackets, and what it adds are
markers, so "the characters that are copied" are those that it keeps.

Results:
- `Inserts.exists_script`: an insertion has a script.
- `newlines_after_le`: a script that adds no line ends never adds a line.
- `Inserting.keepsLines_iff`: the kept characters stay on their lines if and only if no line is lost.
-/
import SourceMark.Proofs.Marker.Inserts

namespace SourceMark

inductive Edit where
  | keep (c : Char)
  | add (c : Char)
  | drop (c : Char)

namespace Edit

def old? : Edit → Option Char
  | keep c => some c
  | add _ => none
  | drop c => some c

def new? : Edit → Option Char
  | keep c => some c
  | add c => some c
  | drop _ => none

def before (script : List Edit) : Text :=
  script.filterMap old?

def after (script : List Edit) : Text :=
  script.filterMap new?

section Simp

variable (c : Char) (text : Text) (script other : List Edit)

@[simp] theorem before_nil : before [] = [] := rfl

@[simp] theorem after_nil : after [] = [] := rfl

@[simp] theorem before_keep : before (keep c :: script) = c :: before script := rfl

@[simp] theorem after_keep : after (keep c :: script) = c :: after script := rfl

@[simp] theorem before_add : before (add c :: script) = before script := rfl

@[simp] theorem after_add : after (add c :: script) = c :: after script := rfl

@[simp] theorem before_drop : before (drop c :: script) = c :: before script := rfl

@[simp] theorem after_drop : after (drop c :: script) = after script := rfl

@[simp] theorem before_append : before (script ++ other) = before script ++ before other :=
  List.filterMap_append

@[simp] theorem after_append : after (script ++ other) = after script ++ after other :=
  List.filterMap_append

@[simp] theorem before_map_add : before (text.map add) = [] := by
  induction text with
  | nil => rfl
  | cons c text ih => exact ih

@[simp] theorem after_map_add : after (text.map add) = text := by
  induction text with
  | nil => rfl
  | cons c text ih => rw [List.map_cons, after_add, ih]

@[simp] theorem before_map_drop : before (text.map drop) = text := by
  induction text with
  | nil => rfl
  | cons c text ih => rw [List.map_cons, before_drop, ih]

@[simp] theorem after_map_drop : after (text.map drop) = [] := by
  induction text with
  | nil => rfl
  | cons c text ih => exact ih

end Simp

/-! ## Scripts that insert pieces -/

/-- a script that puts `pieces k` before the bracket with number k, or before the slash in front of it, and drops blanks
there; the first bracket has the number `n` -/
inductive Inserting (pieces : Nat → List Text) : (n : Nat) → List Edit → Prop
  | nil (n : Nat) : Inserting pieces n []
  | char {n : Nat} {c : Char} {script : List Edit} (hc : c ≠ '>') (tail : Inserting pieces n script) :
      Inserting pieces n (keep c :: script)
  | bracket {n : Nat} {script : List Edit} (hn : pieces n = []) (tail : Inserting pieces (n + 1) script) :
      Inserting pieces n (keep '>' :: script)
  | marked {n : Nat} {gap : Text} {script : List Edit} (hn : pieces n ≠ [])
      (hgap : ∀ c ∈ gap, Text.isHorizontalBlank c = true) (tail : Inserting pieces (n + 1) script) :
      Inserting pieces n (gap.map drop ++ (pieces n).flatten.map add ++ keep '>' :: script)
  | selfClosing {n : Nat} {gap mid : Text} {script : List Edit} (hn : pieces n ≠ [])
      (hgap : ∀ c ∈ gap, Text.isHorizontalBlank c = true) (hmid : ∀ c ∈ mid, Text.isBlank c = true)
      (tail : Inserting pieces (n + 1) script) :
      Inserting pieces n
        (gap.map drop ++ (pieces n).flatten.map add ++ add ' ' :: keep '/' :: (mid.map drop ++ keep '>' :: script))

variable {pieces : Nat → List Text} {n : Nat} {script : List Edit}

/-- what a script adds belongs to the pieces, but for the blank before a slash -/
theorem Inserting.mem_add (h : Inserting pieces n script) {c : Char} (hc : add c ∈ script) :
    c = ' ' ∨ ∃ k, ∃ p ∈ pieces k, c ∈ p := by
  have noDrop (gap : Text) : add c ∉ gap.map drop := by simp
  have piece {n : Nat} (hm : add c ∈ (pieces n).flatten.map add) : ∃ k, ∃ p ∈ pieces k, c ∈ p := by
    obtain ⟨d, hd, heq⟩ := List.mem_map.1 hm
    obtain rfl : d = c := by simpa using heq
    exact ⟨n, List.mem_flatten.1 hd⟩
  induction h with
  | nil => exact absurd hc List.not_mem_nil
  | char _ _ ih => exact ih (by simpa using hc)
  | bracket _ _ ih => exact ih (by simpa using hc)
  | @marked n gap script _ _ _ ih =>
    simp only [List.mem_append, noDrop, false_or, List.mem_cons, reduceCtorEq] at hc
    exact hc.elim (fun hm => Or.inr (piece hm)) ih
  | @selfClosing n gap mid script _ _ _ _ ih =>
    simp only [List.mem_append, noDrop, false_or, List.mem_cons, reduceCtorEq, add.injEq] at hc
    rcases hc with hm | rfl | hm
    · exact Or.inr (piece hm)
    · exact Or.inl rfl
    · exact ih hm

/-- a script that is not empty ends by keeping a character -/
theorem Inserting.exists_last (h : Inserting pieces n script) (hne : script ≠ []) :
    ∃ front c, script = front ++ [keep c] := by
  have behind {c : Char} {script : List Edit} (front : List Edit)
      (ih : script ≠ [] → ∃ front c, script = front ++ [keep c]) :
      ∃ front' d, front ++ keep c :: script = front' ++ [keep d] := by
    by_cases hs : script = []
    · exact ⟨front, c, by rw [hs]⟩
    · obtain ⟨front', d, rfl⟩ := ih hs
      exact ⟨front ++ keep c :: front', d, by simp⟩
  induction h with
  | nil => exact absurd rfl hne
  | char _ _ ih => exact behind [] ih
  | bracket _ _ ih => exact behind [] ih
  | marked _ _ _ ih => exact behind _ ih
  | @selfClosing n gap mid script _ _ _ _ ih =>
    obtain ⟨front, d, hfront⟩ := behind (c := '>')
      (gap.map drop ++ (pieces n).flatten.map add ++ add ' ' :: keep '/' :: mid.map drop) ih
    exact ⟨front, d, by rw [← hfront]; simp⟩

/-! ## Lines -/

/-- whether every character that is kept stands on the same line before and afterwards -/
def KeepsLines (script : List Edit) : Prop :=
  ∀ front c rest, script = front ++ keep c :: rest → Text.newlines (before front) = Text.newlines (after front)

/-- a script that adds no line ends never adds a line -/
theorem newlines_after_le (h : add '\n' ∉ script) : Text.newlines (after script) ≤ Text.newlines (before script) := by
  induction script with
  | nil => exact Nat.le_refl _
  | cons edit script ih =>
    have ih := ih fun hm => h (List.mem_cons_of_mem _ hm)
    simp only [Text.newlines] at ih ⊢
    cases edit with
    | keep c =>
      rw [after_keep, before_keep, List.count_cons, List.count_cons]
      omega
    | add c =>
      have hc : c ≠ '\n' := fun e => h (e ▸ List.mem_cons_self)
      rw [after_add, before_add, List.count_cons_of_ne hc]
      exact ih
    | drop c =>
      rw [after_drop, before_drop, List.count_cons]
      omega

/-- **The kept characters stay on their lines** if and only if no line is lost. -/
theorem Inserting.keepsLines_iff (h : Inserting pieces n script) (hadd : add '\n' ∉ script) :
    KeepsLines script ↔ Text.newlines (after script) = Text.newlines (before script) := by
  constructor
  · intro hkeeps
    by_cases hne : script = []
    · rw [hne]
      rfl
    · obtain ⟨front, c, rfl⟩ := h.exists_last hne
      have hfront := hkeeps front c [] rfl
      simp only [Text.newlines, after_append, before_append, after_keep, before_keep, after_nil, before_nil,
        List.count_append] at hfront ⊢
      omega
  · rintro htotal front c rest rfl
    have hfront : add '\n' ∉ front := fun hm => hadd (List.mem_append_left _ hm)
    have hrest : add '\n' ∉ keep c :: rest := fun hm => hadd (List.mem_append_right _ hm)
    have := newlines_after_le hfront
    have := newlines_after_le hrest
    simp only [Text.newlines, after_append, before_append, List.count_append] at *
    omega

end Edit

open Edit in
/-- **An insertion has a script.** -/
theorem Inserts.exists_script {pieces : Nat → List Text} {n : Nat} {s o r : Text} (h : Inserts pieces n s o r) :
    ∃ script, Inserting pieces n script ∧ before script = s ∧ after script = o := by
  induction h with
  | nil n => exact ⟨[], .nil n, rfl, rfl⟩
  | char hc _ ih =>
    obtain ⟨script, hscript, rfl, rfl⟩ := ih
    exact ⟨_, .char hc hscript, rfl, rfl⟩
  | bracket hn _ ih =>
    obtain ⟨script, hscript, rfl, rfl⟩ := ih
    exact ⟨_, .bracket hn hscript, rfl, rfl⟩
  | marked hn hgap _ ih =>
    obtain ⟨script, hscript, rfl, rfl⟩ := ih
    exact ⟨_, .marked hn hgap hscript, by simp [-List.map_flatten], by simp [-List.map_flatten]⟩
  | selfClosing hn hgap hmid _ ih =>
    obtain ⟨script, hscript, rfl, rfl⟩ := ih
    exact ⟨_, .selfClosing hn hgap hmid hscript, by simp [-List.map_flatten], by simp [-List.map_flatten]⟩

end SourceMark
