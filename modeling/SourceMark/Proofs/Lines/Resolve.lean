/-
Lines of copies. A text that is found on disk as it is gets its line from one of its counted copies there.

Results:
- `nearest_spec`: the line taken is nearest to the target, the smaller one of two that are equally near.
- `nearest_eq_iff`: when a line at or below the target is taken.
- `byAnchor?_of_paired`, `byAnchor?_of_unpaired`: the line by the copies of one anchor.
- `resolve_eq_of_paired`: with as many copies in the buffer as on disk, copies correspond by their order.
- `resolve_eq_nearest`: otherwise the line of the nearest copy is taken.
-/
import SourceMark.Line
import SourceMark.Proofs.Lines.Occurrences

namespace SourceMark.Line

/-! ## The nearest line -/

/-- **The nearest line**: no other one is nearer, and none that is as near is smaller. -/
theorem nearest_spec (target best : Nat) (lines : List Nat) : ∀ line ∈ best :: lines,
    distance (nearest target best lines) target < distance line target ∨
      distance (nearest target best lines) target = distance line target ∧ nearest target best lines ≤ line := by
  induction lines generalizing best with
  | nil => simp [nearest]
  | cons next lines ih =>
    -- of the first two lines the one that is kept is at least as good as the other
    have hkept : ∃ kept, nearest target best (next :: lines) = nearest target kept lines ∧ ∀ line ∈ [best, next],
        distance kept target < distance line target ∨ distance kept target = distance line target ∧ kept ≤ line := by
      simp only [nearest]
      split_ifs with hbetter
      · simp only [Bool.or_eq_true, Bool.and_eq_true, decide_eq_true_eq] at hbetter
        refine ⟨next, rfl, ?_⟩
        intro line hline
        rcases List.mem_pair.1 hline with rfl | rfl <;> omega
      · simp only [Bool.or_eq_true, Bool.and_eq_true, decide_eq_true_eq] at hbetter
        refine ⟨best, rfl, ?_⟩
        intro line hline
        rcases List.mem_pair.1 hline with rfl | rfl <;> omega
    obtain ⟨kept, hnearest, hgood⟩ := hkept
    rw [hnearest]
    have hfirst := ih kept kept List.mem_cons_self
    intro line hline
    by_cases hrest : line ∈ lines
    · exact ih kept line (List.mem_cons_of_mem _ hrest)
    · have hhead : line ∈ [best, next] := by
        simp only [List.mem_cons] at hline ⊢
        tauto
      have := hgood line hhead
      omega

/-- **When a line at or below the target is taken**: every line above it lies further above the target than it lies
below. -/
theorem nearest_eq_iff {target best line : Nat} {lines : List Nat} (hline : line ∈ best :: lines) (hle : target ≤ line) :
    nearest target best lines = line ↔ ∀ other ∈ best :: lines, other < line → other + 2 * (line - target) < line := by
  have hspec := nearest_spec target best lines
  unfold distance at hspec
  constructor
  · intro heq other hother hlt
    have := hspec other hother
    rw [heq] at this
    omega
  · intro habove
    have hmem := nearest_mem target best lines
    have := hspec line hline
    by_contra hne
    have := habove _ hmem (by omega)
    omega

/-! ## The line by an anchor -/

section Anchor

variable {anchor buffer disk : Text} {first : Nat} {later : List Nat}

/-- an anchor gives no line exactly when it has no copy on disk, whatever the place -/
theorem byAnchor?_eq_none_iff {offset : Nat} :
    byAnchor? anchor offset buffer disk = none ↔ Text.occurrences anchor disk = [] := by
  unfold byAnchor?
  rw [← List.map_eq_nil_iff (f := ofOffset disk), ← copies_eq_map]
  split
  · next hnone => simp [hnone]
  · next hlines => split_ifs <;> simp [hlines]

/-- with as many copies in the buffer as on disk, the line is that of the copy at the index of the place, or of the last
copy -/
theorem byAnchor?_of_paired (offset : Nat) (hcopies : Text.occurrences anchor disk = first :: later)
    (hlength : (Text.occurrences anchor buffer).length = (Text.occurrences anchor disk).length) :
    ∃ place, (Text.occurrences anchor disk)[min (Text.occurrences anchor (buffer.take offset)).length later.length]? =
        some place ∧ byAnchor? anchor offset buffer disk = some (ofOffset disk place) := by
  have hlines : copies anchor disk = ofOffset disk first :: later.map (ofOffset disk) := by
    rw [copies_eq_map, hcopies, List.map_cons]
  have hindex : min (Text.occurrences anchor (buffer.take offset)).length later.length < (first :: later).length :=
    Nat.lt_succ_of_le (Nat.min_le_right _ _)
  have hcount : (Text.occurrences anchor buffer).length = (first :: later).length := hlength.trans (by rw [hcopies])
  refine ⟨_, by rw [hcopies, List.getElem?_eq_getElem hindex], ?_⟩
  rw [byAnchor?, hlines]
  simp only [← List.map_cons, List.length_map, if_pos hcount, List.get_eq_getElem, List.getElem_map]

/-- with more or fewer copies in the buffer than on disk, the line is that of the nearest copy -/
theorem byAnchor?_of_unpaired (offset : Nat) (hcopies : Text.occurrences anchor disk = first :: later)
    (hlength : (Text.occurrences anchor buffer).length ≠ (Text.occurrences anchor disk).length) :
    byAnchor? anchor offset buffer disk =
      some (nearest (ofOffset buffer offset) (ofOffset disk first) (later.map (ofOffset disk))) := by
  have hlines : copies anchor disk = ofOffset disk first :: later.map (ofOffset disk) := by
    rw [copies_eq_map, hcopies, List.map_cons]
  have hcount : ¬(Text.occurrences anchor buffer).length = (ofOffset disk first :: later.map (ofOffset disk)).length := by
    rw [hcopies] at hlength
    simpa using hlength
  rw [byAnchor?, hlines]
  exact if_neg hcount

end Anchor

/-! ## Resolving -/

section Resolve

variable {tagText buffer disk : Text} (hne : tagText ≠ [])

include hne

theorem byAnchor?_eq_resolve (buffer : Text) (offset : Nat) (hcopies : Text.occurrences tagText disk ≠ []) :
    byAnchor? tagText offset buffer disk = some (resolve tagText offset buffer (some disk)) := by
  have hdisk : disk.isEmpty = false := by
    rw [List.isEmpty_eq_false_iff]
    rintro rfl
    exact hcopies rfl
  have hanchors : ∃ others, anchors tagText = tagText :: others :=
    ⟨_, by rw [anchors, List.filter_cons_of_pos (by simpa using hne)]⟩
  obtain ⟨others, hanchors⟩ := hanchors
  obtain ⟨line, hline⟩ : ∃ line, byAnchor? tagText offset buffer disk = some line :=
    Option.ne_none_iff_exists'.1 (mt byAnchor?_eq_none_iff.1 hcopies)
  rw [resolve, hanchors]
  simp [hdisk, hline]

/-- **Copies correspond by their order** when the buffer holds as many as the disk. -/
theorem resolve_eq_of_paired {front rest : Text} (hbuffer : buffer = front ++ tagText ++ rest)
    (hlength : (Text.occurrences tagText buffer).length = (Text.occurrences tagText disk).length) {place : Nat}
    (hplace : (Text.occurrences tagText disk)[(Text.occurrences tagText front).length]? = some place) :
    resolve tagText front.length buffer (some disk) = ofOffset disk place := by
  obtain ⟨hlt, -⟩ := List.getElem?_eq_some_iff.1 hplace
  obtain ⟨first, later, hcopies⟩ := List.exists_cons_of_ne_nil (List.ne_nil_of_length_pos (Nat.zero_lt_of_lt hlt))
  obtain ⟨found, hfound, hline⟩ := byAnchor?_of_paired front.length hcopies hlength
  have htake : buffer.take front.length = front := by
    rw [hbuffer, List.append_assoc, List.take_left]
  -- the number of copies in front is less than their number on disk
  have hindex : min (Text.occurrences tagText (buffer.take front.length)).length later.length =
      (Text.occurrences tagText front).length := by
    rw [htake]
    rw [hcopies, List.length_cons] at hlt
    omega
  rw [hindex, hplace, Option.some.injEq] at hfound
  rw [byAnchor?_eq_resolve hne buffer front.length (by rw [hcopies]; exact List.cons_ne_nil _ _),
    Option.some.injEq] at hline
  rw [hline, hfound]

/-- **The line of the nearest copy** is taken when the buffer holds more or fewer copies than the disk. -/
theorem resolve_eq_nearest (offset : Nat)
    (hlength : (Text.occurrences tagText buffer).length ≠ (Text.occurrences tagText disk).length) {first : Nat}
    {later : List Nat} (hcopies : Text.occurrences tagText disk = first :: later) :
    resolve tagText offset buffer (some disk) =
      nearest (ofOffset buffer offset) (ofOffset disk first) (later.map (ofOffset disk)) := by
  have hanchor := byAnchor?_eq_resolve hne buffer offset (by rw [hcopies]; exact List.cons_ne_nil _ _)
  rw [byAnchor?_of_unpaired _ hcopies hlength, Option.some.injEq] at hanchor
  exact hanchor.symm

end Resolve

end SourceMark.Line
