/-
What a tag is known by on disk. Its whole text is looked for, or else its first characters where it is long. When the
buffer holds as many copies of that anchor as the file, the first copy goes to the first, the second to the second and
so on; otherwise the copy on the nearest line is taken.

Results:
- `resolve_eq_ofOffset`: without an anchor the line is counted in the buffer.
- `byAnchor?_eq_of_isAnchor`: the anchor decides the line.
- `resolve_anchored`: the line of any place, by the anchor of its tag.
-/
import SourceMark.Proofs.Lines.Resolve

namespace SourceMark.Line

/-! ## Anchors -/

/-- what a tag is looked for by on disk: its whole text where that stands there, or else its first characters where it has
more and these stand there -/
structure IsAnchor (tagText disk anchor : Text) : Prop where
  ne_nil : anchor ≠ []
  stands : anchor <:+: disk
  first : anchor = tagText ∨
    ¬tagText <:+: disk ∧ anchorLength < tagText.length ∧ anchor = tagText.take anchorLength

variable {tagText disk anchor : Text}

theorem mem_anchors {anchor : Text} : anchor ∈ anchors tagText ↔ anchor ≠ [] ∧
    (anchor = tagText ∨ anchorLength < tagText.length ∧ anchor = tagText.take anchorLength) := by
  rw [anchors, List.mem_filter, List.mem_cons]
  split_ifs with hlong <;> simp [hlong, and_comm]

theorem resolve_eq_ofOffset (offset : Nat) (buffer : Text) (hnone : ∀ anchor, ¬IsAnchor tagText disk anchor) :
    resolve tagText offset buffer (some disk) = ofOffset buffer offset := by
  have hanchors : (anchors tagText).findSome? (byAnchor? · offset buffer disk) = none := by
    rw [List.findSome?_eq_none_iff]
    intro anchor hanchor
    obtain ⟨hne, hfirst⟩ := mem_anchors.1 hanchor
    rw [byAnchor?_eq_none_iff, Text.occurrences_eq_nil_iff hne]
    intro hstands
    rcases hfirst with rfl | ⟨hlong, hcut⟩
    · exact hnone anchor ⟨hne, hstands, .inl rfl⟩
    · refine hnone anchor ⟨hne, hstands, .inr ⟨fun hwhole => ?_, hlong, hcut⟩⟩
      exact hnone tagText ⟨List.ne_nil_of_length_pos (Nat.zero_lt_of_lt hlong), hwhole, .inl rfl⟩
  rw [resolve]
  simp only [hanchors, Option.getD_none, ite_self]

/-- **The anchor decides the line.** -/
theorem byAnchor?_eq_of_isAnchor (h : IsAnchor tagText disk anchor) (offset : Nat) (buffer : Text) :
    byAnchor? anchor offset buffer disk = some (resolve tagText offset buffer (some disk)) := by
  have hcopies : Text.occurrences anchor disk ≠ [] := by
    intro hnil
    exact (Text.occurrences_eq_nil_iff h.ne_nil).1 hnil h.stands
  rcases h.first with rfl | ⟨hwhole, hlong, rfl⟩
  · exact byAnchor?_eq_resolve h.ne_nil buffer offset hcopies
  · have hne : tagText ≠ [] := List.ne_nil_of_length_pos (Nat.zero_lt_of_lt hlong)
    have hdisk : disk ≠ [] := by
      rintro rfl
      exact hcopies rfl
    have hanchors : anchors tagText = [tagText, tagText.take anchorLength] := by
      rw [anchors, if_pos hlong, List.filter_eq_self.2 (by simp [hne, h.ne_nil])]
    have hnone : byAnchor? tagText offset buffer disk = none :=
      byAnchor?_eq_none_iff.2 ((Text.occurrences_eq_nil_iff hne).2 hwhole)
    obtain ⟨line, hline⟩ : ∃ line, byAnchor? (tagText.take anchorLength) offset buffer disk = some line :=
      Option.ne_none_iff_exists'.1 (mt byAnchor?_eq_none_iff.1 hcopies)
    rw [resolve, hanchors]
    simp [hdisk, hnone, hline]

/-! ## Lines by anchors -/

/-- the line of a list nearest to a target, the smaller one of two that are equally near -/
structure IsNearest (target : Nat) (lines : List Nat) (line : Nat) : Prop where
  mem : line ∈ lines
  near : ∀ other ∈ lines, distance line target < distance other target ∨
    distance line target = distance other target ∧ line ≤ other

/-- **The line of a place** by the anchor of its tag. Without an anchor it is counted in the buffer. Otherwise it is the
line of a counted copy in the file. When the buffer holds as many counted copies, a place where one of them starts has the
line of the copy with the same index in the file; when it holds more or fewer, the line of the nearest copy is taken. -/
theorem resolve_anchored (tagText : Text) (offset : Nat) (buffer : Text) (disk : Option Text) :
    ((∀ text anchor, disk = some text → ¬IsAnchor tagText text anchor) →
      resolve tagText offset buffer disk = ofOffset buffer offset) ∧
    ∀ (text anchor : Text) (inFile inBuffer : List Nat), disk = some text → IsAnchor tagText text anchor →
      Text.Counted anchor text inFile → Text.Counted anchor buffer inBuffer →
        resolve tagText offset buffer disk ∈ inFile.map (ofOffset text) ∧
        (inBuffer.length = inFile.length → ∀ n : Nat, inBuffer[n]? = some offset →
          ∃ place, inFile[n]? = some place ∧ resolve tagText offset buffer disk = ofOffset text place) ∧
        (inBuffer.length ≠ inFile.length →
          IsNearest (ofOffset buffer offset) (inFile.map (ofOffset text)) (resolve tagText offset buffer disk)) := by
  constructor
  · intro hnone
    cases disk with
    | none => rfl
    | some text => exact resolve_eq_ofOffset offset buffer fun anchor => hnone text anchor rfl
  · rintro text anchor inFile inBuffer rfl hanchor hfile hbuffer
    have hresolve := byAnchor?_eq_of_isAnchor hanchor offset buffer
    obtain rfl := hfile.eq_occurrences hanchor.ne_nil
    obtain rfl := hbuffer.eq_occurrences hanchor.ne_nil
    obtain ⟨first, later, hcopies⟩ : ∃ first later, Text.occurrences anchor text = first :: later := by
      apply List.exists_cons_of_ne_nil
      intro hnil
      exact (Text.occurrences_eq_nil_iff hanchor.ne_nil).1 hnil hanchor.stands
    by_cases hlength : (Text.occurrences anchor buffer).length = (Text.occurrences anchor text).length
    · obtain ⟨place, hplace, hline⟩ := byAnchor?_of_paired offset hcopies hlength
      rw [hresolve, Option.some.injEq] at hline
      rw [hline]
      refine ⟨List.mem_map_of_mem (List.mem_of_getElem? hplace), ?_, fun hother => absurd hlength hother⟩
      intro _ n hn
      obtain ⟨hlt, -⟩ := List.getElem?_eq_some_iff.1 hn
      rw [hlength, hcopies, List.length_cons] at hlt
      rw [Text.length_occurrences_take hanchor.ne_nil hn, Nat.min_eq_left (Nat.le_of_lt_succ hlt)] at hplace
      exact ⟨place, hplace, rfl⟩
    · have hline := byAnchor?_of_unpaired offset hcopies hlength
      rw [hresolve, Option.some.injEq] at hline
      have hnearest : IsNearest (ofOffset buffer offset) ((first :: later).map (ofOffset text))
          (nearest (ofOffset buffer offset) (ofOffset text first) (later.map (ofOffset text))) :=
        ⟨nearest_mem _ _ _, nearest_spec _ _ _⟩
      rw [hline, hcopies]
      exact ⟨hnearest.mem, fun hsame => absurd (hcopies ▸ hsame) hlength, fun _ => hnearest⟩

/-- the second of two copies has the line of the second copy in the file; of two copies that are equally near, the first
one counts -/
theorem resolve_anchored_copies :
    IsAnchor "<p>".toList "<p>\n<p>".toList "<p>".toList ∧ Text.Counted "<p>".toList "<p>\n<p>".toList [0, 4] ∧
      Text.Counted "<p>".toList "\n<p><p>".toList [1, 4] ∧
      resolve "<p>".toList 4 "\n<p><p>".toList (some "<p>\n<p>".toList) = 2 ∧
    IsAnchor "<p>".toList "<p>\n\n<p>".toList "<p>".toList ∧ Text.Counted "<p>".toList "<p>\n\n<p>".toList [0, 5] ∧
      Text.Counted "<p>".toList "\n<p>".toList [1] ∧
      resolve "<p>".toList 1 "\n<p>".toList (some "<p>\n\n<p>".toList) = 1 := by
  have hne : "<p>".toList ≠ [] := by decide
  have hcounted (text : Text) := Text.counted_occurrences hne text
  have hpair : IsAnchor "<p>".toList "<p>\n<p>".toList "<p>".toList := ⟨hne, by decide, .inl rfl⟩
  have hnear : IsAnchor "<p>".toList "<p>\n\n<p>".toList "<p>".toList := ⟨hne, by decide, .inl rfl⟩
  obtain ⟨-, hpaired, -⟩ := (resolve_anchored "<p>".toList 4 "\n<p><p>".toList (some "<p>\n<p>".toList)).2 _ _ _ _ rfl
    hpair (hcounted _) (hcounted _)
  obtain ⟨-, -, hnearest⟩ := (resolve_anchored "<p>".toList 1 "\n<p>".toList (some "<p>\n\n<p>".toList)).2 _ _ _ _ rfl
    hnear (hcounted _) (hcounted _)
  obtain ⟨place, hplace, hline⟩ := hpaired (by decide) 1 (by decide)
  obtain ⟨hmem, hbest⟩ := hnearest (by decide)
  obtain rfl : 4 = place := Option.some.inj hplace
  refine ⟨hpair, hcounted "<p>\n<p>".toList, hcounted "\n<p><p>".toList, hline, hnear, hcounted "<p>\n\n<p>".toList,
    hcounted "\n<p>".toList, ?_⟩
  have hone := hbest 1 (by decide)
  rcases List.mem_pair.1 hmem with hline | hline
  · exact hline
  · rw [hline] at hone
    exact absurd hone (by decide)

end SourceMark.Line
