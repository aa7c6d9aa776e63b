/-
Lines. A place in the working text is mapped to a line of the file on disk. The working text may have drifted from the
file, so the tag that stands at the place is looked up in the file: its whole text, or else its first characters. When
the file holds as many copies as the working text, copies correspond by their order; otherwise the copy nearest to the
line in the working text is taken, the earlier one of two that are equally near. Without a copy the line is counted in
the working text.

`copies_eq_map`: the lines of the copies are the lines of the places where they stand. `resolve_pos`: the line is
always at least one.
-/
import SourceMark.Text.Basic

namespace SourceMark.Line

/-- the line on which an offset lies, counted from one -/
def ofOffset (text : Text) (offset : Nat) : Nat :=
  Text.newlines (text.take offset) + 1

/-- an offset that may count from the end of the text, as a position in the text -/
def position (text : Text) (offset : Int) : Nat :=
  if 0 ≤ offset then min offset.toNat text.length else text.length - offset.natAbs

/-- the lines of the copies of `anchor` in a text that starts on `line`; the first `skip` characters belong to the copy
before -/
def copiesFrom (anchor : Text) : (skip line : Nat) → Text → List Nat
  | _, _, [] => []
  | skip + 1, line, c :: rest => copiesFrom anchor skip (if c = '\n' then line + 1 else line) rest
  | 0, line, c :: rest =>
    let next := if c = '\n' then line + 1 else line
    if anchor.isPrefixOf (c :: rest) then line :: copiesFrom anchor (anchor.length - 1) next rest
    else copiesFrom anchor 0 next rest

/-- the lines of the copies of `anchor`, in order -/
def copies (anchor text : Text) : List Nat :=
  copiesFrom anchor 0 1 text

def distance (a b : Nat) : Nat :=
  (a - b) + (b - a)

/-- the line of the list nearest to `target`, the smaller one of two that are equally near -/
def nearest (target : Nat) : (best : Nat) → List Nat → Nat
  | best, [] => best
  | best, line :: lines =>
    if distance line target < distance best target || (distance line target = distance best target && line < best) then
      nearest target line lines
    else nearest target best lines

/-- how many characters of a tag are looked for when its whole text is not found -/
def anchorLength : Nat := 100

/-- what may be looked for in place of a tag's text, in order of preference -/
def anchors (tagText : Text) : List Text :=
  (tagText :: if anchorLength < tagText.length then [tagText.take anchorLength] else []).filter (!·.isEmpty)

/-- the line on disk of the place `offset` of `buffer`, by the copies of `anchor`; none when there is no copy -/
def byAnchor? (anchor : Text) (offset : Nat) (buffer disk : Text) : Option Nat :=
  match copies anchor disk with
  | [] => none
  | line :: lines =>
    if (Text.occurrences anchor buffer).length = (line :: lines).length then
      let index := (Text.occurrences anchor (buffer.take offset)).length
      some ((line :: lines).get ⟨min index lines.length, Nat.lt_succ_of_le (Nat.min_le_right _ _)⟩)
    else some (nearest (ofOffset buffer offset) line lines)

/-- the line on disk of the tag with text `tagText` that stands at `offset` of `buffer`, where `disk` is the file's
text when it is known -/
def resolve (tagText : Text) (offset : Nat) (buffer : Text) (disk : Option Text) : Nat :=
  match disk with
  | none => ofOffset buffer offset
  | some disk =>
    if disk.isEmpty then ofOffset buffer offset
    else ((anchors tagText).findSome? (byAnchor? · offset buffer disk)).getD (ofOffset buffer offset)

theorem nearest_mem (target best : Nat) (lines : List Nat) : nearest target best lines ∈ best :: lines := by
  induction lines generalizing best with
  | nil => simp [nearest]
  | cons line lines ih =>
    simp only [nearest]
    split
    · exact List.mem_cons_of_mem _ (ih line)
    · rcases List.mem_cons.1 (ih best) with h | h
      · simp [h]
      · simp [h]

theorem copiesFrom_eq_map (anchor before text : Text) (skip : Nat) :
    copiesFrom anchor skip (Text.newlines before + 1) text =
      (Text.occurrencesFrom anchor skip before.length text).map (ofOffset (before ++ text)) := by
  induction text generalizing before skip with
  | nil => cases skip <;> rfl
  | cons c rest ih =>
    have hline : (if c = '\n' then Text.newlines before + 1 + 1 else Text.newlines before + 1) =
        Text.newlines (before ++ [c]) + 1 := by
      by_cases hc : c = '\n' <;> simp [Text.newlines, hc]
    have hat : ofOffset (before ++ c :: rest) before.length = Text.newlines before + 1 := by
      simp [ofOffset]
    have step (k : Nat) := ih (before ++ [c]) k
    simp only [List.length_append, List.length_cons, List.length_nil, Nat.zero_add, List.append_assoc,
      List.cons_append, List.nil_append] at step
    cases skip with
    | succ skip => simp only [copiesFrom, Text.occurrencesFrom, hline, step]
    | zero =>
      simp only [copiesFrom, Text.occurrencesFrom, hline]
      split <;> simp [step, hat]

theorem copies_eq_map (anchor text : Text) : copies anchor text = (Text.occurrences anchor text).map (ofOffset text) :=
  copiesFrom_eq_map anchor [] text 0

theorem copies_pos {anchor text : Text} {line : Nat} (h : line ∈ copies anchor text) : 0 < line := by
  rw [copies_eq_map] at h
  obtain ⟨offset, -, rfl⟩ := List.mem_map.1 h
  simp [ofOffset]

theorem byAnchor?_pos {anchor buffer disk : Text} {offset line : Nat}
    (h : byAnchor? anchor offset buffer disk = some line) : 0 < line := by
  unfold byAnchor? at h
  split at h
  · simp at h
  · next first lines hcopies =>
    have hmem : line ∈ copies anchor disk := by
      rw [hcopies]
      split at h
      · simp only [Option.some.injEq] at h
        rw [← h]
        exact List.get_mem _ _
      · simp only [Option.some.injEq] at h
        rw [← h]
        exact nearest_mem _ _ _
    exact copies_pos hmem

theorem resolve_pos (tagText : Text) (offset : Nat) (buffer : Text) (disk : Option Text) :
    0 < resolve tagText offset buffer disk := by
  unfold resolve
  split
  · simp [ofOffset]
  · split
    · simp [ofOffset]
    · next disk _ =>
      cases h : (anchors tagText).findSome? (byAnchor? · offset buffer disk) with
      | none => simp [ofOffset]
      | some line =>
        obtain ⟨anchor, -, hline⟩ := List.exists_of_findSome?_eq_some h
        exact byAnchor?_pos hline

end SourceMark.Line
