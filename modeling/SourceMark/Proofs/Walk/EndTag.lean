/-
A tag does not end where an end tag ends. Where a tag is open, the opening bracket of `</` means that it is no tag, unless
the bracket stands in a quoted span or in a region. Then no inert character leads out of the span or the region, and the
next closing bracket does not end the tag.

Results:
- `tagEnd?_endTag`: the end of a tag is not the bracket behind `</` and inert characters.
-/
import SourceMark.Proofs.Walk.Blind

namespace SourceMark.Nesting

/-- regions that neither open at `</` nor have an opening bracket behind the first character of a delimiter -/
def Tidy (regions : List Delimiters) : Prop :=
  ∀ region ∈ regions, '<' ∉ region.closer ∧ '<' ∉ region.opener.tail ∧
    region.opener.isPrefixOf ['<', '/'] = false ∧ ['<', '/'].isPrefixOf region.opener = false

instance (regions : List Delimiters) : Decidable (Tidy regions) := by
  unfold Tidy; infer_instance

variable {glue : Bool} {regions : List Delimiters} {place : Place}

/-- a place from which no closer leads over an opening bracket, where `text` follows -/
def Place.Guarded (glue : Bool) (text : Text) : Place → Prop
  | inside skip nesting => '<' ∉ text.take skip ∧ ∀ closer ∈ nesting, Legible glue closer ∧ '<' ∉ closer
  | quoted quote _ nesting => Quote.isQuote quote = true ∧ ∀ closer ∈ nesting, Legible glue closer ∧ '<' ∉ closer

/-- a delimiter at the head of the text leads over no opening bracket -/
theorem notMem_take {delimiter : Text} (htail : '<' ∉ delimiter.tail) {c : Char} {rest : Text}
    (h : delimiter.isPrefixOf (c :: rest) = true) : '<' ∉ rest.take (delimiter.length - 1) := by
  obtain ⟨after, hafter⟩ := List.isPrefixOf_iff_prefix.1 h
  cases delimiter with
  | nil => simp
  | cons d delimiter =>
    obtain ⟨-, rfl⟩ := List.cons.inj hafter
    simpa using htail

theorem Place.Guarded.next (hr : LegibleRegions glue regions) (ht : Tidy regions) {c : Char} {rest : Text}
    (h : place.Guarded glue (c :: rest)) : (place.next regions c rest).Guarded glue rest := by
  cases place with
  | quoted quote escaped nesting =>
    simp only [Place.next]
    split_ifs
    · exact ⟨by simp, h.2⟩
    · exact h
  | inside skip nesting =>
    cases skip with
    | succ skip => exact ⟨fun hm => h.1 (List.mem_cons_of_mem _ hm), h.2⟩
    | zero =>
      cases hquote : Quote.isQuote c with
      | true =>
        simp only [Place.next, hquote, if_true]
        exact ⟨hquote, h.2⟩
      | false =>
        simp only [Place.next, hquote, Bool.false_eq_true, if_false]
        rcases token?_of_not_isQuote regions nesting hquote rest with
          ⟨closer, outer, rfl, hcl, htoken⟩ | ⟨region, ho, -, htoken⟩ | ⟨-, -, htoken⟩ <;> rw [htoken]
        · refine ⟨notMem_take (fun hm => ?_) hcl, fun other hm => h.2 other (List.mem_cons_of_mem _ hm)⟩
          exact (h.2 closer List.mem_cons_self).2 (List.mem_of_mem_tail hm)
        · obtain ⟨hmem, -, hhead⟩ := opening?_eq_some ho
          refine ⟨notMem_take (ht region hmem).2.1 hhead, ?_⟩
          intro closer hm
          rcases List.mem_cons.1 hm with rfl | hm
          · exact ⟨(hr region hmem).2, (ht region hmem).1⟩
          · exact h.2 closer hm
        · exact ⟨by simp, h.2⟩

theorem tagEnd?_length {text rest : Text} {gt : Bool} (h : tagEnd? regions place text = some (gt, rest)) :
    rest.length < text.length := by
  induction text generalizing place gt with
  | nil => exact absurd h (by cases place <;> simp [tagEnd?])
  | cons c text ih =>
    rw [tagEnd?] at h
    split_ifs at h
    · rw [← (Prod.mk.inj (Option.some.inj h)).2]
      simp
    · obtain ⟨⟨gt', rest'⟩, hfound, hrest⟩ := Option.map_eq_some_iff.1 h
      obtain rfl : rest' = rest := (Prod.mk.inj hrest).2
      have := ih hfound
      simp only [List.length_cons]
      omega

/-- where `</` begins, no region opens -/
theorem opening?_endTag (ht : Tidy regions) (rest : Text) : opening? regions ('<' :: '/' :: rest) = none := by
  cases ho : opening? regions ('<' :: '/' :: rest) with
  | none => rfl
  | some region =>
    obtain ⟨hmem, hne, hhead⟩ := opening?_eq_some ho
    obtain ⟨-, -, hlong, hshort⟩ := ht region hmem
    exfalso
    match hopener : region.opener with
    | [] => exact hne hopener
    | [c] => rw [hopener] at hhead hlong; simp_all [List.isPrefixOf]
    | c :: d :: tail => rw [hopener] at hhead hshort; simp_all [List.isPrefixOf]

/-- behind the opening bracket of `</` a walk in a quoted span or in a region is still there -/
theorem Place.Guarded.next_endTag (ht : Tidy regions) {rest : Text} (h : place.Guarded glue ('<' :: '/' :: rest))
    (hne : place ≠ .inside 0 []) : (place.next regions '<' ('/' :: rest)).Ready glue ∧
      (place.next regions '<' ('/' :: rest)).calm = place.next regions '<' ('/' :: rest) ∧
        place.next regions '<' ('/' :: rest) ≠ .inside 0 [] := by
  cases place with
  | quoted quote escaped nesting =>
    have hquote : '<' ≠ quote := fun hq => absurd h.1 (by rw [← hq]; decide)
    simp only [Place.next, hquote, decide_false, Bool.false_and, Bool.false_eq_true, if_false]
    exact ⟨⟨h.1, fun closer hm => (h.2 closer hm).1⟩, by simp [Place.calm], by simp⟩
  | inside skip nesting =>
    cases skip with
    | succ skip => exact absurd List.mem_cons_self h.1
    | zero =>
      have hnext : Place.next regions '<' ('/' :: rest) (.inside 0 nesting) = .inside 0 nesting := by
        have hquote : Quote.isQuote '<' = false := by decide
        rw [Place.next, hquote]
        rcases token?_of_not_isQuote regions nesting hquote ('/' :: rest) with
          ⟨closer, outer, rfl, hcl, -⟩ | ⟨region, ho, -, -⟩ | ⟨-, -, htoken⟩
        · obtain ⟨hlegible, hnot⟩ := h.2 closer List.mem_cons_self
          obtain ⟨c, tail, rfl, -⟩ := hlegible.exists_head
          obtain rfl : c = '<' := by simpa [List.isPrefixOf_cons_cons] using (Bool.and_eq_true_iff.1 hcl).1
          exact absurd List.mem_cons_self hnot
        · rw [opening?_endTag ht] at ho
          exact absurd ho (by simp)
        · rw [htoken]
          rfl
      rw [hnext]
      exact ⟨⟨rfl, fun closer hm => (h.2 closer hm).1⟩, rfl, hne⟩

/-- **A tag does not end where an end tag ends.** -/
theorem tagEnd?_endTag (hr : LegibleRegions glue regions) (ht : Tidy regions) {front run rest : Text}
    (hrun : ∀ c ∈ run, Text.isInert c = true) (hp : place.Guarded glue (front ++ '<' :: '/' :: run ++ '>' :: rest))
    (gt : Bool) : tagEnd? regions place (front ++ '<' :: '/' :: run ++ '>' :: rest) ≠ some (gt, rest) := by
  intro h
  induction front generalizing place gt with
  | cons c front ih =>
    rw [List.cons_append, List.cons_append, tagEnd?] at h
    split_ifs at h
    · have := congrArg (fun found => List.length found.2) (Option.some.inj h)
      simp at this
      omega
    · obtain ⟨found, hfound, hrest⟩ := Option.map_eq_some_iff.1 h
      exact ih (Place.Guarded.next hr ht hp) found.1 (by rw [hfound, ← (Prod.mk.inj hrest).2])
  | nil =>
    rw [List.nil_append, List.cons_append, List.cons_append] at h hp
    rw [tagEnd?] at h
    split_ifs at h with hend hstop
    · exact absurd hend.2 (by decide)
    · have hne : place ≠ .inside 0 [] := fun hplace => hstop ⟨hplace, rfl, by rw [opening?_endTag ht]; rfl⟩
      obtain ⟨hready, hcalm, hnext⟩ := hp.next_endTag ht hne
      obtain ⟨found, hfound, hrest⟩ := Option.map_eq_some_iff.1 h
      have hinert : ∀ c ∈ '/' :: run, Text.isInert c = true := by
        intro c hc
        exact (List.mem_cons.1 hc).elim (fun h => by rw [h]; decide) (hrun c)
      generalize Place.next regions '<' ('/' :: (run ++ '>' :: rest)) place = behind at hready hcalm hnext hfound
      rw [← List.cons_append, read_run hr (tagEnd?_steps _) hready hinert hcalm, tagEnd?_bracket hr hready,
        if_neg hnext] at hfound
      obtain ⟨inner, hinner, rfl⟩ := Option.map_eq_some_iff.1 hfound
      have hshort := tagEnd?_length hinner
      rw [(Prod.mk.inj hrest).2] at hshort
      omega

end SourceMark.Nesting
