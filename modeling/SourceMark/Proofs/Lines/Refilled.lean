/-
Texts that differ in values only. `Refilled lead s o` says that `o` is `s` with other values behind some places of `lead`;
values are on one line and hold no opening bracket. A text that starts with an opening bracket and does not hold `lead`
tells the two apart nowhere: it stands in both at corresponding places, and the places have the same lines.

Results:
- `Refilled.newlines_eq`: both texts have as many lines.
- `Refilled.split`: a text without `lead` that begins the one begins the other.
- `Refilled.length_occurrences`: such a text with an opening bracket in front has as many counted copies in both.
- `Refilled.resolve_eq`: a tag without `lead` has the same line on disk in both.
- `refilled_weave`: weaving other values makes such texts.
-/
import SourceMark.Proofs.Lines.Resolve
import SourceMark.Proofs.Marker.Woven

namespace SourceMark

/-- what a value holds: neither an opening bracket nor a line feed -/
def IsValue (value : Text) : Prop :=
  '<' ∉ value ∧ '\n' ∉ value

/-- `o` is `s` with other values behind places of `lead` -/
inductive Refilled (lead : Text) : Text → Text → Prop
  | nil : Refilled lead [] []
  | keep (c : Char) {s o : Text} (tail : Refilled lead s o) : Refilled lead (c :: s) (c :: o)
  | value {x y s o : Text} (hx : IsValue x) (hy : IsValue y) (tail : Refilled lead s o) :
      Refilled lead (lead ++ (x ++ s)) (lead ++ (y ++ o))

namespace Refilled

variable {lead s o : Text}

theorem symm (h : Refilled lead s o) : Refilled lead o s := by
  induction h with
  | nil => exact .nil
  | keep c _ ih => exact .keep c ih
  | value hx hy _ ih => exact .value hy hx ih

theorem append_left (u : Text) (h : Refilled lead s o) : Refilled lead (u ++ s) (u ++ o) := by
  induction u with
  | nil => exact h
  | cons c u ih => exact .keep c ih

theorem refl (text : Text) : Refilled lead text text := by
  have hnil : Refilled lead [] [] := .nil
  simpa using hnil.append_left text

/-- **Both texts have as many lines.** -/
theorem newlines_eq (h : Refilled lead s o) : Text.newlines s = Text.newlines o := by
  induction h with
  | nil => rfl
  | keep c _ ih =>
    unfold Text.newlines at ih ⊢
    rw [List.count_cons, List.count_cons, ih]
  | value hx hy _ ih =>
    unfold Text.newlines at ih ⊢
    rw [List.count_append, List.count_append, List.count_append, List.count_append, List.count_eq_zero.2 hx.2,
      List.count_eq_zero.2 hy.2, ih]

/-- **What begins the one text begins the other**, when it does not hold the lead; behind it the texts go on alike, perhaps
after the rest of a lead and a value. -/
theorem split (hlead : '<' ∉ lead) (h : Refilled lead s o) {u s' : Text} (hu : ¬lead <:+: u) (hs : s = u ++ s') :
    ∃ w w' s₂ o₂, s' = w ++ s₂ ∧ o = u ++ (w' ++ o₂) ∧ '<' ∉ w ∧ '<' ∉ w' ∧ Refilled lead s₂ o₂ := by
  induction h generalizing u s' with
  | nil =>
    obtain ⟨rfl, rfl⟩ := List.append_eq_nil_iff.1 hs.symm
    exact ⟨[], [], [], [], rfl, rfl, List.not_mem_nil, List.not_mem_nil, .nil⟩
  | @keep c s o tail ih =>
    cases u with
    | nil => exact ⟨[], [], _, _, hs.symm, rfl, List.not_mem_nil, List.not_mem_nil, .keep c tail⟩
    | cons d u =>
      obtain ⟨rfl, hbehind⟩ := List.cons.inj hs
      obtain ⟨w, w', s₂, o₂, hs', ho, hw, hw', hrest⟩ :=
        ih (fun h => hu (h.trans (List.suffix_cons c u).isInfix)) hbehind
      exact ⟨w, w', s₂, o₂, hs', by rw [ho]; rfl, hw, hw', hrest⟩
  | @value x y s o hx hy tail ih =>
    -- the text ends within the lead, because it does not hold all of it
    rcases List.append_eq_append_iff.1 hs with ⟨e, rfl, -⟩ | ⟨e, rfl, rfl⟩
    · exact absurd ⟨[], e, rfl⟩ hu
    · have hrest : '<' ∉ e := fun hm => hlead (List.mem_append_right _ hm)
      refine ⟨e ++ x, e ++ y, s, o, by simp, by simp, ?_, ?_, tail⟩
      · exact fun hm => (List.mem_append.1 hm).elim hrest hx.1
      · exact fun hm => (List.mem_append.1 hm).elim hrest hy.1

/-- **A text with an opening bracket in front and without the lead has as many counted copies in both texts.** -/
theorem length_occurrences (hlead : '<' ∉ lead) (h : Refilled lead s o) {tail : Text} (hneedle : ¬lead <:+: '<' :: tail) :
    (Text.occurrences ('<' :: tail) s).length = (Text.occurrences ('<' :: tail) o).length := by
  have hne : lead ≠ [] := by
    rintro rfl
    exact hneedle (List.nil_infix)
  have hbehind {front : Text} (hfront : '<' ∉ front) (rest : Text) :
      (Text.occurrences ('<' :: tail) (front ++ rest)).length = (Text.occurrences ('<' :: tail) rest).length := by
    rw [Text.occurrences_behind hfront, List.length_map]
  induction hlength : s.length using Nat.strong_induction_on generalizing s o with
  | _ n ih =>
    subst hlength
    cases h with
    | nil => rfl
    | @value x y s o hx hy hrest =>
      have hpos := List.length_pos_iff.2 hne
      rw [hbehind hlead, hbehind hx.1, hbehind hlead, hbehind hy.1]
      exact ih s.length (by simp only [List.length_append]; omega) hrest rfl
    | @keep c s o hrest =>
      by_cases hhead : '<' :: tail <+: c :: s
      · obtain ⟨s', hs⟩ := hhead
        obtain ⟨w, w', s₂, o₂, rfl, ho, hw, hw', hrest'⟩ := (hrest.keep c).split hlead hneedle hs.symm
        rw [← hs, ho, Text.occurrences_append (List.cons_ne_nil _ _), Text.occurrences_append (List.cons_ne_nil _ _)]
        simp only [List.length_cons, List.length_map]
        rw [hbehind hw, hbehind hw']
        have hshort := congrArg List.length hs
        simp only [List.length_append, List.length_cons] at hshort
        exact congrArg (· + 1) (ih s₂.length (by simp only [List.length_cons]; omega) hrest' rfl)
      · have hhead' : ¬ '<' :: tail <+: c :: o := by
          rintro ⟨o', ho⟩
          obtain ⟨w, w', o₂, s₂, -, hs, -⟩ := (hrest.keep c).symm.split hlead hneedle ho.symm
          exact hhead ⟨_, hs.symm⟩
        rw [Text.occurrences_cons_of_not hhead, Text.occurrences_cons_of_not hhead', List.length_map, List.length_map]
        exact ih s.length (Nat.lt_succ_self _) hrest rfl

/-- a head of a tag that stands for it on disk starts with its bracket and holds no lead either -/
theorem exists_anchor {text : Text} (htext : text.head? = some '<') (hlead : ¬lead <:+: text) {anchor : Text}
    (h : anchor ∈ Line.anchors text) : ∃ tail, anchor = '<' :: tail ∧ ¬lead <:+: anchor := by
  obtain ⟨tail, rfl⟩ := List.head?_eq_some_iff.1 htext
  have hfront : anchor <+: '<' :: tail := by
    rcases List.mem_cons.1 (List.mem_of_mem_filter h) with rfl | h
    · exact List.prefix_rfl
    · split_ifs at h
      · rw [List.mem_singleton] at h
        exact h ▸ List.take_prefix _ _
      · exact absurd h List.not_mem_nil
  have hne : anchor ≠ [] := by
    rintro rfl
    exact absurd (List.of_mem_filter h) (by decide)
  obtain ⟨c, rest, rfl⟩ := List.exists_cons_of_ne_nil hne
  obtain ⟨rfl, -⟩ := List.cons_prefix_cons.1 hfront
  exact ⟨rest, rfl, fun h => hlead (h.trans hfront.isInfix)⟩

/-- **A tag without the lead has the same line on disk**, when what is in front of it differs in values only. -/
theorem resolve_eq {buffer buffer' text : Text} {offset offset' : Nat} (hopen : '<' ∉ lead)
    (hbuffer : Refilled lead buffer buffer') (hfront : Refilled lead (buffer.take offset) (buffer'.take offset'))
    (htext : text.head? = some '<') (hlead : ¬lead <:+: text) (disk : Option Text) :
    Line.resolve text offset buffer disk = Line.resolve text offset' buffer' disk := by
  have hline : Line.ofOffset buffer offset = Line.ofOffset buffer' offset' := congrArg (· + 1) hfront.newlines_eq
  unfold Line.resolve
  cases disk with
  | none => exact hline
  | some disk =>
    have hanchor : ∀ anchor ∈ Line.anchors text,
        Line.byAnchor? anchor offset buffer disk = Line.byAnchor? anchor offset' buffer' disk := by
      intro anchor hmem
      obtain ⟨tail, rfl, hnot⟩ := exists_anchor htext hlead hmem
      simp only [Line.byAnchor?, hbuffer.length_occurrences hopen hnot, hfront.length_occurrences hopen hnot, hline]
    have hfound : (Line.anchors text).findSome? (Line.byAnchor? · offset buffer disk) =
        (Line.anchors text).findSome? (Line.byAnchor? · offset' buffer' disk) := by
      rw [← List.head?_filterMap, ← List.head?_filterMap, List.filterMap_congr hanchor]
    simp only [hline, hfound]

end Refilled

/-! ## Weaving other values -/

/-- seams that hold the same lead and any values -/
def SameLead (lead : Text) (x y : Option Text) : Prop :=
  Option.Rel (fun x y => ∃ v w, x = lead ++ v ∧ y = lead ++ w ∧ IsValue v ∧ IsValue w) x y

theorem refilled_seam {lead stretch v w s o : Text} (hv : IsValue v) (hw : IsValue w) (h : Refilled lead s o) :
    Refilled lead (seam (lead ++ v) stretch ++ s) (seam (lead ++ w) stretch ++ o) := by
  rcases seam_cases stretch with ⟨body, gap, -, -, hseam⟩ | ⟨body, gap, mid, -, -, -, hseam⟩
  · rw [hseam, hseam]
    simpa using (Refilled.value hv hw h).append_left body
  · rw [hseam, hseam]
    simpa using (Refilled.value hv hw (h.append_left " /".toList)).append_left body

/-- **Weaving other values** changes values only. -/
theorem refilled_weave {lead : Text} {seams seams' : Seams} (h : ∀ k, SameLead lead (seams k) (seams' k)) (text : Text) :
    Refilled lead (weave seams text) (weave seams' text) := by
  have hfrom (n : Nat) (stretch : Text) :
      Refilled lead (weaveFrom seams n stretch text) (weaveFrom seams' n stretch text) := by
    induction text generalizing n stretch with
    | nil => exact .refl stretch
    | cons c rest ih =>
      by_cases hc : c = '>'
      · subst hc
        rw [weaveFrom_bracket, weaveFrom_bracket]
        have hrest := (ih (n + 1) []).keep '>'
        rcases rel_cases (h n) with ⟨hx, hy⟩ | ⟨_, _, hx, hy, v, w, rfl, rfl, hv, hw⟩ <;> rw [hx, hy]
        · exact hrest.append_left stretch
        · exact refilled_seam hv hw hrest
      · rw [weaveFrom_cons_of_ne hc, weaveFrom_cons_of_ne hc]
        exact ih n (stretch ++ [c])
  exact hfrom 0 []

end SourceMark
