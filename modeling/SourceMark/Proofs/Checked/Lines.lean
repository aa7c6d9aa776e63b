/-
The line of a tag by positions. Copies are looked for one behind the other and their lines counted on the way; then a
line is asked for by its index, or the nearest one is. The index comes from counts in another text, and there may be no
line at all; still both are always there when they are asked for.

Results:
- `occurrenceLines_eq`: the lines of the copies.
- `resolve_eq`: the line of a tag.
-/
import SourceMark.Line
import SourceMark.Proofs.Checked.Basic
import SourceMark.Proofs.Lines.Occurrences

namespace SourceMark.Checked

/-! ## The lines of copies -/

/-- the lines found so far, and the place up to which lines were counted with the line there -/
structure Count where
  lines : List Nat
  place : Nat
  line : Nat

/-- looks for the next copy and counts the lines up to it -/
def linesRound (anchor text : Text) (count : Count) (position : Nat) : Except Fault (Round Count (List Nat)) :=
  match find? anchor text position with
  | none => .ok (.done count.lines)
  | some place =>
    let line := count.line + Text.newlines (slice text count.place place)
    .ok (.next ⟨count.lines ++ [line], place, line⟩ (place + anchor.length))

def occurrenceLines (anchor text : Text) : Except Fault (List Nat) :=
  iterate text.length (linesRound anchor text) ⟨[], 0, 1⟩ 0

/-- what was counted is the line of a place that is not behind the position -/
structure Count.Counted (text : Text) (count : Count) (position : Nat) : Prop where
  line_eq : count.line = Line.ofOffset text count.place
  place_le : count.place ≤ position

/-- the lines so far with those of the copies from a position on -/
def expectedLines (anchor text : Text) (count : Count) (position : Nat) : List Nat :=
  count.lines ++ (Text.occurrencesFrom anchor 0 position (text.drop position)).map (Line.ofOffset text)

/-- the lines up to a place are those up to a place before it and those from there on -/
theorem ofOffset_add_newlines (text : Text) {place stop : Nat} (h : place ≤ stop) :
    Line.ofOffset text place + Text.newlines (slice text place stop) = Line.ofOffset text stop := by
  have hsplit : slice text 0 place ++ slice text place stop = slice text 0 stop := slice_append (Nat.zero_le place) h
  simp only [slice, List.drop_zero, Nat.sub_zero] at hsplit
  rw [Line.ofOffset, Line.ofOffset, ← hsplit, Text.newlines, Text.newlines, Text.newlines, List.count_append, slice]
  omega

section Copies

variable {anchor : Text} (hne : anchor ≠ [])

include hne

theorem findFrom?_occurrences (position : Nat) (text : Text) :
    (findFrom? anchor position text = none ∧ Text.occurrencesFrom anchor 0 position text = []) ∨
      ∃ n, findFrom? anchor position text = some (position + n) ∧ n < text.length ∧
        Text.occurrencesFrom anchor 0 position text =
          (position + n) ::
            Text.occurrencesFrom anchor 0 (position + n + anchor.length) (text.drop (n + anchor.length)) := by
  induction text generalizing position with
  | nil => exact .inl ⟨by simp [findFrom?, hne], rfl⟩
  | cons c rest ih =>
    by_cases hhead : anchor.isPrefixOf (c :: rest) = true
    · refine .inr ⟨0, by simp [findFrom?, hhead], Nat.succ_pos _, ?_⟩
      obtain ⟨d, tail, rfl⟩ := List.exists_cons_of_ne_nil hne
      obtain ⟨after, hafter⟩ := List.isPrefixOf_iff_prefix.1 hhead
      obtain ⟨-, hrest⟩ := List.cons.inj hafter
      replace hrest : tail ++ after = rest := hrest
      rw [Text.occurrencesFrom, if_pos hhead, List.length_cons, Nat.add_sub_cancel, ← hrest,
        Text.occurrencesFrom_skip, Nat.zero_add, List.drop_succ_cons, List.drop_left, Nat.add_zero, Nat.add_assoc,
        Nat.add_comm 1]
      rfl
    · have hfind : findFrom? anchor position (c :: rest) = findFrom? anchor (position + 1) rest := by
        rw [findFrom?, if_neg hhead]
      have hcount : Text.occurrencesFrom anchor 0 position (c :: rest) =
          Text.occurrencesFrom anchor 0 (position + 1) rest := by
        rw [Text.occurrencesFrom, if_neg hhead]
      rw [hfind, hcount]
      rcases ih (position + 1) with ⟨hnone, hempty⟩ | ⟨n, hsome, hn, hmore⟩
      · exact .inl ⟨hnone, hempty⟩
      · refine .inr ⟨n + 1, ?_, Nat.succ_lt_succ hn, ?_⟩
        · rw [hsome, Nat.add_assoc, Nat.add_comm 1]
        · rw [hmore, Nat.add_right_comm n 1, List.drop_succ_cons, Nat.add_assoc, Nat.add_comm 1]

theorem linesRound_keeps (text : Text) (count : Count) (position : Nat) (h : count.Counted text position) :
    Keeps text.length (linesRound anchor text) (·.Counted text) (expectedLines anchor text) count position := by
  have hpositive := List.length_pos_of_ne_nil hne
  obtain ⟨lines, place, line⟩ := count
  obtain ⟨hcounted, hplace⟩ : line = Line.ofOffset text place ∧ place ≤ position := ⟨h.line_eq, h.place_le⟩
  subst hcounted
  unfold Keeps
  rw [linesRound, find?, expectedLines]
  rcases findFrom?_occurrences hne position (text.drop position) with ⟨hnone, hempty⟩ | ⟨n, hsome, hn, hmore⟩
  · left
    rw [hnone, hempty]
    simp
  · right
    rw [List.length_drop] at hn
    have hline := ofOffset_add_newlines text (show place ≤ position + n by omega)
    rw [hsome]
    refine ⟨_, _, rfl, by omega, by omega, ⟨hline, Nat.le_add_right _ _⟩, ?_⟩
    rw [expectedLines, hmore, hline, List.map_cons, List.append_assoc, List.singleton_append, List.drop_drop,
      Nat.add_assoc]

/-- **The lines of the copies** are counted as over characters. -/
theorem occurrenceLines_eq (text : Text) : occurrenceLines anchor text = .ok (Line.copies anchor text) := by
  have hstart : (Count.mk [] 0 1).Counted text 0 := ⟨rfl, Nat.le_refl 0⟩
  rw [occurrenceLines, iterate_eq (linesRound_keeps hne text) hstart, Line.copies_eq_map]
  rfl

end Copies

/-! ## The line of a tag -/

def lineAt (lines : List Nat) (index : Nat) : Except Fault Nat :=
  match lines[index]? with
  | some line => .ok line
  | none => .error (.noLine index)

def nearestOf (target : Nat) : List Nat → Except Fault Nat
  | [] => .error .noLines
  | line :: lines => .ok (Line.nearest target line lines)

/-- the line on disk of the place `offset` of `buffer`, by the copies of `anchor`; none when there is no copy -/
def byAnchor (offset : Nat) (buffer disk anchor : Text) : Except Fault (Option Nat) :=
  if anchor.isEmpty then .ok none
  else do
    let lines ← occurrenceLines anchor disk
    if lines.isEmpty then .ok none
    else if (Text.occurrences anchor buffer).length = lines.length then do
      let line ← lineAt lines (min (Text.occurrences anchor (buffer.take offset)).length (lines.length - 1))
      .ok (some line)
    else do
      let line ← nearestOf (Line.ofOffset buffer offset) lines
      .ok (some line)

/-- the line by the first of the anchors that has a copy -/
def byAnchors (offset : Nat) (buffer disk : Text) : List Text → Except Fault (Option Nat)
  | [] => .ok none
  | anchor :: anchors => do
    match ← byAnchor offset buffer disk anchor with
    | some line => .ok (some line)
    | none => byAnchors offset buffer disk anchors

/-- the line on disk of the tag with text `tagText` that stands at `offset` of `buffer`, where `disk` is the file's
text when it is known -/
def resolve (tagText : Text) (offset : Nat) (buffer : Text) (disk : Option Text) : Except Fault Nat :=
  match disk with
  | none => .ok (Line.ofOffset buffer offset)
  | some disk =>
    if disk.isEmpty then .ok (Line.ofOffset buffer offset)
    else do
      let line? ← byAnchors offset buffer disk
        (tagText :: if Line.anchorLength < tagText.length then [tagText.take Line.anchorLength] else [])
      .ok (line?.getD (Line.ofOffset buffer offset))

/-- **An anchor gives a line or has no copy.** -/
theorem byAnchor_eq (offset : Nat) (buffer disk : Text) {anchor : Text} (hne : anchor ≠ []) :
    byAnchor offset buffer disk anchor = .ok (Line.byAnchor? anchor offset buffer disk) := by
  rw [byAnchor, if_neg (by simpa using hne), occurrenceLines_eq hne, ok_bind, Line.byAnchor?]
  cases Line.copies anchor disk with
  | nil => rfl
  | cons line lines =>
    have hget : lineAt (line :: lines) (min (Text.occurrences anchor (buffer.take offset)).length lines.length) =
        .ok ((line :: lines).get ⟨min (Text.occurrences anchor (buffer.take offset)).length lines.length,
          Nat.lt_succ_of_le (Nat.min_le_right _ _)⟩) := by
      rw [lineAt, List.getElem?_eq_getElem (Nat.lt_succ_of_le (Nat.min_le_right _ _))]
      rfl
    rw [if_neg (by simp), List.length_cons, Nat.add_sub_cancel, hget]
    simp only [ok_bind, nearestOf, List.length_cons]
    split_ifs <;> rfl

theorem byAnchors_eq (offset : Nat) (buffer disk : Text) (anchors : List Text) :
    byAnchors offset buffer disk anchors =
      .ok ((anchors.filter (!·.isEmpty)).findSome? (Line.byAnchor? · offset buffer disk)) := by
  induction anchors with
  | nil => rfl
  | cons anchor anchors ih =>
    rw [byAnchors, ih]
    cases anchor with
    | nil => rfl
    | cons c tail =>
      rw [byAnchor_eq offset buffer disk (by simp), ok_bind, List.filter_cons_of_pos (by rfl), List.findSome?_cons]
      cases Line.byAnchor? (c :: tail) offset buffer disk <;> rfl

/-- **The line of a tag** is always found. -/
theorem resolve_eq (tagText : Text) (offset : Nat) (buffer : Text) (disk : Option Text) :
    resolve tagText offset buffer disk = .ok (Line.resolve tagText offset buffer disk) := by
  unfold resolve Line.resolve
  cases disk with
  | none => rfl
  | some disk =>
    dsimp only
    by_cases hempty : disk.isEmpty = true
    · rw [if_pos hempty, if_pos hempty]
    · rw [if_neg hempty, if_neg hempty, byAnchors_eq, ok_bind]
      rfl

end SourceMark.Checked
