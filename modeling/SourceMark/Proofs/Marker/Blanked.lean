/-
Weaves with blanks in the place of markers. A bracket with a seam that holds a single blank is where a bracket with a marker
is, whatever the marker. So two weaves of a text with markers at the same brackets differ by markers from one and the same
third text, also where the text alone reads otherwise: there a question mark may stand right before a bracket.

Results:
- `beginsEndTag_of_isHeld`: behind a blank a bracket is held by an end tag only.
- `woven_blanked`: a weave with markers differs by markers from the weave with blanks in their place.
-/
import SourceMark.Proofs.Marker.Woven

namespace SourceMark

/-- the seams with a single blank in the place of what they hold -/
def Seams.blanked (seams : Seams) : Seams := fun k =>
  (seams k).map fun _ => [' ']

variable {glue : Bool}

/-- **Behind a blank a bracket is held by an end tag only**, and so is it behind any other blanks and slashes. -/
theorem beginsEndTag_of_isHeld {v z : Text} (hv : '>' ∉ v) (hz : '>' ∉ z)
    (h : isHeld glue (v ++ ' ' :: z ++ ['>']) = true) {w : Text} (hw : ∀ c ∈ w, isDull c = true) :
    beginsEndTag (v ++ w ++ ['>']) = true := by
  have hnot : '>' ∉ v ++ ' ' :: z := by simp [hv, hz]
  rw [isHeld, Bool.or_eq_true, Bool.and_eq_true] at h
  rcases h with h | ⟨-, h⟩
  · obtain ⟨run, rest, hrun, hinert⟩ := beginsEndTag_iff.1 h
    obtain ⟨hcut, -⟩ := cut_inj hnot (bracket_notMem_of_isInert hinert) hrun
    obtain ⟨e, rfl, rfl⟩ : ∃ e, v = '<' :: '/' :: e ∧ run = e ++ ' ' :: z := by
      cases v with
      | nil => exact absurd (List.head_eq_of_cons_eq hcut) (by decide)
      | cons c v =>
        obtain ⟨rfl, htail⟩ := List.cons.inj hcut
        cases v with
        | nil => exact absurd (List.head_eq_of_cons_eq htail) (by decide)
        | cons d e =>
          obtain ⟨hd, hrun⟩ := List.cons.inj htail
          exact ⟨e, by rw [hd], hrun.symm⟩
    refine beginsEndTag_iff.2 ⟨e ++ w, [], by simp, fun c hc => ?_⟩
    rcases List.mem_append.1 hc with hc | hc
    · exact hinert c (List.mem_append_left _ hc)
    · exact isInert_of_isDull (hw c hc)
  · unfold beginsCodeEnd at h
    split at h
    · next tail hcode =>
      obtain ⟨hcut, -⟩ := cut_inj (b := ['?']) hnot (by decide) hcode
      cases v with
      | nil => exact absurd (List.head_eq_of_cons_eq hcut) (by decide)
      | cons c v => exact absurd (List.tail_eq_of_cons_eq hcut) (by simp)
    · exact absurd h (by decide)

/-- blanks and slashes hold no bracket -/
theorem isHeld_of_dull {z : Text} (hz : ∀ c ∈ z, isDull c = true) : isHeld glue (z ++ ['>']) = false := by
  cases z with
  | nil => exact isHeld_bracket glue []
  | cons c z =>
    have hc : isDull c = true := hz c List.mem_cons_self
    have hend : beginsEndTag (c :: z ++ ['>']) = false := by
      unfold beginsEndTag
      split
      · next heq =>
        rw [List.head_eq_of_cons_eq heq] at hc
        exact absurd hc (by decide)
      · rfl
    have hcode : beginsCodeEnd (c :: z ++ ['>']) = false := by
      unfold beginsCodeEnd
      split
      · next heq =>
        rw [List.head_eq_of_cons_eq heq] at hc
        exact absurd hc (by decide)
      · rfl
    rw [isHeld, hend, hcode, Bool.and_false, Bool.or_false]

/-- a marker in the place of a blank, before a bracket that no end tag holds -/
theorem woven_reseamed {x stretch r q : Text} (hx : Inserted x) (h : Woven glue r q) (hs : '>' ∉ stretch)
    (hclear : ∀ u v, stretch = u ++ v → beginsEndTag (v ++ ['>']) = false) :
    Woven glue (seam [' '] stretch ++ '>' :: r) (seam x stretch ++ '>' :: q) := by
  have hblank {gap : Text} (hgap : ∀ c ∈ gap, Text.isHorizontalBlank c = true) : ∀ c ∈ gap, isDull c = true :=
    fun c hc => by simp [isDull, Text.isBlank_of_isHorizontalBlank (hgap c hc)]
  -- what holds the bracket behind the blank would hold it in the stretch
  have hfree {body gap z : Text} (hstretch : stretch = body ++ gap) (hgap : ∀ c ∈ gap, isDull c = true)
      (hz : ∀ c ∈ ' ' :: z, isDull c = true) (u v : Text) (huv : body ++ ' ' :: z = u ++ v) :
      isHeld glue (v ++ ['>']) = false := by
    rcases List.append_eq_append_iff.1 huv with ⟨e, -, he⟩ | ⟨e, hbody, rfl⟩
    · exact isHeld_of_dull fun c hc => hz c (he ▸ List.mem_append_right _ hc)
    · rw [Bool.eq_false_iff]
      intro hheld
      have he : '>' ∉ e := fun hm => hs (by rw [hstretch, hbody]; simp [hm])
      have hz' : '>' ∉ z := fun hm => absurd (hz '>' (List.mem_cons_of_mem _ hm)) (by decide)
      have hend := beginsEndTag_of_isHeld he hz' hheld hgap
      rw [hclear u (e ++ gap) (by rw [hstretch, hbody, List.append_assoc])] at hend
      exact absurd hend (by decide)
  have hhead (z : Text) : ∀ c, (' ' :: z).head? = some c → c ∈ stops := by
    rintro c ⟨⟩
    decide
  rcases seam_cases stretch with ⟨body, gap, hstretch, hgap, hseam⟩ | ⟨body, gap, mid, hstretch, hgap, hmid, hseam⟩
  · have hz : ∀ c ∈ [' '], isDull c = true := by decide
    have hbody : '>' ∉ body := fun hm => hs (by rw [hstretch]; simp [hm])
    rw [hseam, hseam]
    simpa using woven_seam (y := []) hx (by simp) hz (hhead []) h hbody (hfree hstretch (hblank hgap) hz)
  · have hz : ∀ c ∈ ' ' :: " /".toList, isDull c = true := by decide
    have hbody : '>' ∉ body := fun hm => hs (by rw [hstretch]; simp [hm])
    have hgap' : ∀ c ∈ gap ++ '/' :: mid, isDull c = true := by
      intro c hc
      simp only [List.mem_append, List.mem_cons] at hc
      rcases hc with hc | rfl | hc
      · exact hblank hgap c hc
      · decide
      · simp [isDull, hmid c hc]
    have hstretch : stretch = body ++ (gap ++ '/' :: mid) := by rw [hstretch, List.append_assoc]
    rw [hseam, hseam]
    simpa using woven_seam (y := " /".toList) hx (by decide) hz (hhead _) h hbody (hfree hstretch hgap' hz)

theorem woven_blankedFrom {seams : Seams} {n : Nat} {stretch text : Text} (hm : seams.Marked) (hs : '>' ∉ stretch)
    (hclear : Clear false (seams.drop n) (stretch ++ text)) :
    Woven glue (weaveFrom seams.blanked n stretch text) (weaveFrom seams n stretch text) := by
  induction text generalizing n stretch with
  | nil => exact Woven.refl stretch
  | cons c rest ih =>
    by_cases hc : c = '>'
    · subst hc
      have hrest : Woven glue (weaveFrom seams.blanked (n + 1) [] rest) (weaveFrom seams (n + 1) [] rest) :=
        ih List.not_mem_nil (hclear.behind hs)
      rw [weaveFrom_bracket, weaveFrom_bracket, Seams.blanked]
      cases hseam : seams n with
      | none => exact woven_stretch hs hrest
      | some x =>
        refine woven_reseamed (hm n x hseam) hrest hs fun u v huv => ?_
        subst huv
        simpa [isHeld] using hclear.not_held hs (by simp [hseam])
    · rw [weaveFrom_cons_of_ne hc, weaveFrom_cons_of_ne hc]
      have hs' : '>' ∉ stretch ++ [c] := by simp [hs, Ne.symm hc]
      exact ih hs' (by simpa using hclear)

/-- **A weave with markers differs by markers from the weave with blanks in their place**, when no seam is at a bracket
that ends an end tag. -/
theorem woven_blanked {seams : Seams} {text : Text} (hm : seams.Marked) (hclear : Clear false seams text) :
    Woven glue (weave seams.blanked text) (weave seams text) :=
  woven_blankedFrom hm List.not_mem_nil hclear.drop_zero

end SourceMark
