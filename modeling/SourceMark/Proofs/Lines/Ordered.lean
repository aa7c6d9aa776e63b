/-
Lines in order. Of two places of a buffer, the one further behind never gets a smaller line for the same tag text. Which
way a line is found depends on the texts only, not on the place, and each way keeps the order: a place further behind has
at least as many copies in front, copies further behind stand on later lines, and a target further below has its nearest
line further below.

Results:
- `occurrences_front`, `length_occurrences_take_mono`: the count over a front is the front of the count.
- `nearest_mono`: the nearest line follows its target.
- `byAnchor?_mono`: the line by an anchor follows the place.
- `resolve_ordered`: lines follow places, and repeated tags have their lines in order.
-/
import Mathlib.Data.List.Pairwise
import SourceMark.Proofs.Lines.Anchors
import SourceMark.Proofs.Splice

namespace SourceMark

/-! ## Counts over fronts -/

namespace Text

variable {needle : Text}

/-- **The count over a front** of a text is the front of its count. -/
theorem occurrences_front (hne : needle ≠ []) (front rest : Text) :
    occurrences needle front <+: occurrences needle (front ++ rest) := by
  induction front using copies_induction hne with
  | nil => exact List.nil_prefix
  | copy front ih =>
    obtain ⟨later, hlater⟩ := ih
    refine ⟨later.map (needle.length + ·), ?_⟩
    rw [List.append_assoc, occurrences_append hne, occurrences_append hne, ← hlater, List.map_append, List.cons_append]
  | other c front hc ih =>
    by_cases hhead : needle <+: c :: (front ++ rest)
    · -- the copy at the head ends behind the front, which is too short to hold one
      have hshort : (c :: front).length < needle.length := by
        by_contra hlong
        have hfront : c :: front <+: c :: (front ++ rest) := ⟨rest, rfl⟩
        exact hc (List.prefix_of_prefix_length_le hhead hfront (Nat.le_of_not_lt hlong))
      rw [occurrences_of_length_lt hne hshort]
      exact List.nil_prefix
    · obtain ⟨later, hlater⟩ := ih
      refine ⟨later.map (1 + ·), ?_⟩
      rw [List.cons_append, occurrences_cons_of_not hc, occurrences_cons_of_not hhead, ← hlater, List.map_append]

/-- a place further behind has at least as many counted copies in front -/
theorem length_occurrences_take_mono (hne : needle ≠ []) (text : Text) {place place' : Nat} (h : place ≤ place') :
    (occurrences needle (text.take place)).length ≤ (occurrences needle (text.take place')).length := by
  obtain ⟨more, hmore⟩ : text.take place <+: text.take place' := List.take_prefix_take_left h
  rw [← hmore]
  exact (occurrences_front hne (text.take place) more).length_le

end Text

namespace Line

/-! ## Lines of places -/

theorem ofOffset_mono (text : Text) {place place' : Nat} (h : place ≤ place') :
    ofOffset text place ≤ ofOffset text place' := by
  obtain ⟨more, hmore⟩ : text.take place <+: text.take place' := List.take_prefix_take_left h
  rw [ofOffset, ofOffset, ← hmore, Text.newlines, Text.newlines, List.count_append]
  omega

/-- **The nearest line follows its target.** -/
theorem nearest_mono {target target' : Nat} (h : target ≤ target') (best : Nat) (lines : List Nat) :
    nearest target best lines ≤ nearest target' best lines := by
  have hfirst := nearest_spec target best lines _ (nearest_mem target' best lines)
  have hsecond := nearest_spec target' best lines _ (nearest_mem target best lines)
  unfold distance at hfirst hsecond
  -- a line above the first one that is nearer to the lower target is nearer to the upper one as well
  omega

/-! ## Lines by anchors -/

variable {anchor buffer disk : Text} {offset offset' line line' : Nat}

/-- **The line by an anchor follows the place.** -/
theorem byAnchor?_mono (hne : anchor ≠ []) (h : offset ≤ offset') (hline : byAnchor? anchor offset buffer disk = some line)
    (hline' : byAnchor? anchor offset' buffer disk = some line') : line ≤ line' := by
  obtain ⟨first, later, hcopies⟩ : ∃ first later, Text.occurrences anchor disk = first :: later := by
    apply List.exists_cons_of_ne_nil
    intro hnil
    rw [byAnchor?_eq_none_iff.2 hnil] at hline
    exact absurd hline (by simp)
  by_cases hlength : (Text.occurrences anchor buffer).length = (Text.occurrences anchor disk).length
  · obtain ⟨place, hplace, hfound⟩ := byAnchor?_of_paired offset hcopies hlength
    obtain ⟨place', hplace', hfound'⟩ := byAnchor?_of_paired offset' hcopies hlength
    obtain rfl : line = ofOffset disk place := Option.some.inj (hline.symm.trans hfound)
    obtain rfl : line' = ofOffset disk place' := Option.some.inj (hline'.symm.trans hfound')
    apply ofOffset_mono
    obtain ⟨hlt, rfl⟩ := List.getElem?_eq_some_iff.1 hplace
    obtain ⟨hlt', rfl⟩ := List.getElem?_eq_some_iff.1 hplace'
    have hindex := Text.length_occurrences_take_mono hne buffer h
    have hsorted : (Text.occurrences anchor disk).Pairwise (· ≤ ·) :=
      ((Text.counted_occurrences hne disk).sorted hne).imp Nat.le_of_lt
    apply hsorted.rel_get_of_le (a := ⟨_, hlt⟩) (b := ⟨_, hlt'⟩)
    rw [Fin.mk_le_mk]
    omega
  · rw [byAnchor?_of_unpaired _ hcopies hlength, Option.some.injEq] at hline hline'
    rw [← hline, ← hline']
    exact nearest_mono (ofOffset_mono buffer h) _ _

theorem resolve_mono (tagText buffer : Text) (disk : Option Text) (h : offset ≤ offset') :
    resolve tagText offset buffer disk ≤ resolve tagText offset' buffer disk := by
  cases disk with
  | none => exact ofOffset_mono buffer h
  | some text =>
    by_cases hanchor : ∃ anchor, IsAnchor tagText text anchor
    · obtain ⟨anchor, hanchor⟩ := hanchor
      exact byAnchor?_mono hanchor.ne_nil h (byAnchor?_eq_of_isAnchor hanchor offset buffer)
        (byAnchor?_eq_of_isAnchor hanchor offset' buffer)
    · rw [not_exists] at hanchor
      rw [resolve_eq_ofOffset offset buffer hanchor, resolve_eq_ofOffset offset' buffer hanchor]
      exact ofOffset_mono buffer h

end Line

/-! ## Lines of repeated tags -/

namespace Annotator

/-- **Lines are in order.** For one tag text, a place further behind in the buffer never has a smaller line on disk. So the
copies of a tag that a pass finds have their lines in the order in which they stand. -/
theorem resolve_ordered (tagText buffer : Text) (disk : Option Text) {offset offset' : Nat} (h : offset ≤ offset') :
    Line.resolve tagText offset buffer disk ≤ Line.resolve tagText offset' buffer disk ∧
      ∀ (a : Annotator) (pass : Pass),
        (a.candidates pass buffer disk).Pairwise fun c d => c.tag.text = d.tag.text → c.line ≤ d.line := by
  refine ⟨Line.resolve_mono tagText buffer disk h, fun a pass => ?_⟩
  have hplaced := (a.candidates_placed pass buffer disk).pairwise
  rw [List.pairwise_map] at hplaced
  refine hplaced.imp_of_mem ?_
  intro c d hc hd hbehind hsame
  obtain ⟨t, -, rfl⟩ := List.mem_map.1 hc
  obtain ⟨u, -, rfl⟩ := List.mem_map.1 hd
  have hstart : t.start ≤ u.start := (Nat.le_of_lt t.start_lt_stop).trans hbehind
  calc (a.candidate buffer disk t).line
    _ ≤ Line.resolve t.text u.start buffer disk := Line.resolve_mono t.text buffer disk hstart
    _ = (a.candidate buffer disk u).line := congrArg (Line.resolve · u.start buffer disk) hsame

/-- two places of a buffer that has lost a copy of the tag: they are on the lines 2 and 4, and so are its two tags -/
theorem resolve_ordered_lostCopy : 1 ≤ 8 ∧
    Line.resolve "<p>".toList 1 "\n<p>\n\n\n<p>".toList (some "<p>\n<p>\n\n<p>".toList) = 2 ∧
    Line.resolve "<p>".toList 8 "\n<p>\n\n\n<p>".toList (some "<p>\n<p>\n\n<p>".toList) = 4 ∧
    ((ofSettings .standard).candidates .plain "\n<p>\n\n\n<p>".toList (some "<p>\n<p>\n\n<p>".toList)).map (·.line) =
      [2, 4] ∧
    Line.resolve "<p>".toList 1 "\n<p>\n\n\n<p>".toList (some "<p>\n<p>\n\n<p>".toList) ≤
      Line.resolve "<p>".toList 8 "\n<p>\n\n\n<p>".toList (some "<p>\n<p>\n\n<p>".toList) ∧
    ((ofSettings .standard).candidates .plain "\n<p>\n\n\n<p>".toList (some "<p>\n<p>\n\n<p>".toList)).Pairwise
      fun c d => c.tag.text = d.tag.text → c.line ≤ d.line := by
  have hle : 1 ≤ 8 := by decide
  obtain ⟨hlines, hcandidates⟩ := resolve_ordered "<p>".toList "\n<p>\n\n\n<p>".toList
    (some "<p>\n<p>\n\n<p>".toList) hle
  exact ⟨hle, by decide +kernel, by decide +kernel, by decide +kernel, hlines, hcandidates (ofSettings .standard) .plain⟩

end Annotator

end SourceMark
