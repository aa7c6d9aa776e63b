/-
Seams: the place right before a closing bracket where markers go. A stretch is what stands between two brackets. `seam x
stretch` puts `x` at the end of the stretch, or before the slash when the stretch ends in one, and drops blanks there.

Results:
- `Marker.insert_eq_seam`: a marked tag is its inner text with a seam, and the bracket.
- `seam_cases`: what a seam leaves of the stretch. Blanks next to the bracket or the slash go, nothing else does.
- `seam_append`: a seam does not reach past a character that is neither a blank nor a slash.
- `seam_seam`: a second seam at the same bracket comes after the first.
-/
import Mathlib.Data.List.DropRight
import SourceMark.Marker

namespace SourceMark

/-! ## Ends of texts -/

namespace Text

theorem dropEnd_eq_rdropWhile (p : Char → Bool) (text : Text) : dropEnd p text = text.rdropWhile p := rfl

theorem dropEnd_snoc (p : Char → Bool) (text : Text) (c : Char) :
    dropEnd p (text ++ [c]) = if p c then dropEnd p text else text ++ [c] := by
  simp only [dropEnd_eq_rdropWhile, List.rdropWhile_concat]

theorem dropEnd_append_of_all {p : Char → Bool} {text gap : Text} (h : ∀ c ∈ gap, p c = true) :
    dropEnd p (text ++ gap) = dropEnd p text := by
  induction gap using List.reverseRecOn with
  | nil => rw [List.append_nil]
  | append_singleton gap c ih =>
    rw [← List.append_assoc, dropEnd_snoc, if_pos (h c (by simp))]
    exact ih fun d hd => h d (by simp [hd])

theorem dropEnd_append_of_exists {p : Char → Bool} {text tail : Text} (h : ∃ c ∈ tail, p c = false) :
    dropEnd p (text ++ tail) = text ++ dropEnd p tail := by
  induction tail using List.reverseRecOn with
  | nil => simp at h
  | append_singleton tail c ih =>
    rw [← List.append_assoc, dropEnd_snoc, dropEnd_snoc]
    cases hc : p c
    · simp
    · simp only [if_true]
      apply ih
      obtain ⟨d, hd, hpd⟩ := h
      rcases List.mem_append.1 hd with hd | hd
      · exact ⟨d, hd, hpd⟩
      · simp only [List.mem_singleton] at hd
        rw [hd, hc] at hpd; exact absurd hpd (by decide)

theorem dropEnd_of_getLast? {p : Char → Bool} {text : Text} (h : ∀ c, text.getLast? = some c → p c = false) :
    dropEnd p text = text := by
  rw [dropEnd_eq_rdropWhile, List.rdropWhile_eq_self_iff]
  intro hne
  rw [h _ (List.getLast?_eq_some_getLast hne)]
  decide

theorem dropEnd_append_of_halts {p : Char → Bool} {front text : Text}
    (h : (∀ c, front.getLast? = some c → p c = false) ∨ ∃ c ∈ text, p c = false) :
    dropEnd p (front ++ text) = front ++ dropEnd p text := by
  by_cases hall : ∀ c ∈ text, p c = true
  · rcases h with h | ⟨c, hc, hpc⟩
    · rw [dropEnd_append_of_all hall, dropEnd_of_getLast? h, dropEnd_eq_rdropWhile p text,
        List.rdropWhile_eq_nil_iff.2 hall, List.append_nil]
    · rw [hall c hc] at hpc; exact absurd hpc (by decide)
  · push Not at hall
    obtain ⟨c, hc, hpc⟩ := hall
    exact dropEnd_append_of_exists ⟨c, hc, by simpa using hpc⟩

theorem exists_gap (p : Char → Bool) (text : Text) : ∃ gap, text = dropEnd p text ++ gap ∧ ∀ c ∈ gap, p c = true := by
  refine ⟨text.rtakeWhile p, ?_, fun c hc => List.mem_rtakeWhile_imp hc⟩
  rw [dropEnd_eq_rdropWhile, List.rdropWhile_append_rtakeWhile]

theorem isBlank_of_isHorizontalBlank {c : Char} (h : isHorizontalBlank c = true) : isBlank c = true := by
  simp only [isHorizontalBlank, Bool.or_eq_true, beq_iff_eq] at h
  rcases h with rfl | rfl <;> decide

/-- a character at which trimming stops: neither a blank nor a slash -/
def isFirm (c : Char) : Bool :=
  !isBlank c && c != '/'

theorem isFirm_iff {c : Char} : isFirm c = true ↔ isBlank c = false ∧ c ≠ '/' := by
  simp [isFirm]

theorem isHorizontalBlank_of_isFirm {c : Char} (h : isFirm c = true) : isHorizontalBlank c = false := by
  by_contra hc
  have := isBlank_of_isHorizontalBlank (Bool.not_eq_false _ ▸ hc)
  rw [(isFirm_iff.1 h).1] at this
  exact absurd this (by decide)

end Text

/-! ## Seams -/

/-- whether a stretch before a bracket ends in the slash of a self-closing tag, blanks apart -/
def closesItself (stretch : Text) : Bool :=
  (Text.dropEnd Text.isBlank stretch).getLast? == some '/'

/-- the stretch before a bracket with `inserted` right before the bracket, or before the slash that precedes it -/
def seam (inserted stretch : Text) : Text :=
  if closesItself stretch then
    Text.dropEnd Text.isHorizontalBlank (Marker.beforeSlash stretch) ++ inserted ++ " /".toList
  else Text.dropEnd Text.isHorizontalBlank stretch ++ inserted

theorem Marker.insert_eq_seam (marker : Text) (t : Tag) :
    Marker.insert marker t = seam (' ' :: marker) t.inner ++ ['>'] := by
  unfold Marker.insert seam closesItself Tag.isSelfClosing
  split_ifs <;> simp

theorem beforeSlash_append {body mid : Text} (h : '/' ∉ mid) : Marker.beforeSlash (body ++ '/' :: mid) = body := by
  have hdrop : (mid.reverse ++ '/' :: body.reverse).dropWhile (· != '/') = '/' :: body.reverse := by
    rw [List.dropWhile_append_of_pos]
    · simp
    · intro c hc
      have : c ≠ '/' := fun e => h (e ▸ List.mem_reverse.1 hc)
      simp [this]
  simp [Marker.beforeSlash, hdrop]

def Marker.behindSlash (text : Text) : Text :=
  (text.reverse.takeWhile (· != '/')).reverse

theorem behindSlash_append {body mid : Text} (h : '/' ∉ mid) : Marker.behindSlash (body ++ '/' :: mid) = mid := by
  have htake : (mid.reverse ++ '/' :: body.reverse).takeWhile (· != '/') = mid.reverse := by
    rw [List.takeWhile_append_of_pos]
    · simp
    · intro c hc
      have : c ≠ '/' := fun e => h (e ▸ List.mem_reverse.1 hc)
      simp [this]
  simp [Marker.behindSlash, htake]

theorem closesItself_append_slash {body mid : Text} (h : ∀ c ∈ mid, Text.isBlank c = true) :
    closesItself (body ++ '/' :: mid) = true := by
  have : Text.dropEnd Text.isBlank (body ++ '/' :: mid) = body ++ ['/'] := by
    rw [show body ++ '/' :: mid = (body ++ ['/']) ++ mid by simp, Text.dropEnd_append_of_all h]
    exact Text.dropEnd_of_getLast? (by simp; decide)
  simp [closesItself, this]

theorem slash_notMem_of_blank {mid : Text} (h : ∀ c ∈ mid, Text.isBlank c = true) : '/' ∉ mid :=
  fun hm => absurd (h _ hm) (by decide)

theorem seam_append_slash {inserted body mid : Text} (h : ∀ c ∈ mid, Text.isBlank c = true) :
    seam inserted (body ++ '/' :: mid) = Text.dropEnd Text.isHorizontalBlank body ++ inserted ++ " /".toList := by
  rw [seam, if_pos (closesItself_append_slash h), beforeSlash_append (slash_notMem_of_blank h)]

theorem exists_slash {stretch : Text} (h : closesItself stretch = true) :
    ∃ body mid, stretch = body ++ '/' :: mid ∧ ∀ c ∈ mid, Text.isBlank c = true := by
  obtain ⟨mid, hmid, hblank⟩ := Text.exists_gap Text.isBlank stretch
  simp only [closesItself, beq_iff_eq] at h
  obtain ⟨body, hbody⟩ := List.getLast?_eq_some_iff.1 h
  exact ⟨body, mid, by rw [hbody] at hmid; simpa using hmid, hblank⟩

/-- **What a seam leaves.** Either the blanks on the line before the bracket go, or, in a stretch that closes itself,
the blanks on the line before the slash and all blanks after it. -/
theorem seam_cases (stretch : Text) :
    (∃ body gap, stretch = body ++ gap ∧ (∀ c ∈ gap, Text.isHorizontalBlank c = true) ∧
      ∀ inserted, seam inserted stretch = body ++ inserted) ∨
    ∃ body gap mid, stretch = body ++ gap ++ '/' :: mid ∧ (∀ c ∈ gap, Text.isHorizontalBlank c = true) ∧
      (∀ c ∈ mid, Text.isBlank c = true) ∧ ∀ inserted, seam inserted stretch = body ++ inserted ++ " /".toList := by
  cases hs : closesItself stretch
  · obtain ⟨gap, hgap, hblank⟩ := Text.exists_gap Text.isHorizontalBlank stretch
    exact Or.inl ⟨_, gap, hgap, hblank, fun inserted => by simp [seam, hs]⟩
  · obtain ⟨body, mid, rfl, hmid⟩ := exists_slash hs
    obtain ⟨gap, hgap, hblank⟩ := Text.exists_gap Text.isHorizontalBlank body
    refine Or.inr ⟨_, gap, mid, by rw [← hgap], hblank, hmid, fun inserted => seam_append_slash hmid⟩

/-- where trimming stops at the border between two texts -/
def Border (front stretch : Text) : Prop :=
  (∀ c, front.getLast? = some c → Text.isFirm c = true) ∨ ∃ c, stretch.head? = some c ∧ Text.isFirm c = true

theorem Border.dropEnd_isBlank {front stretch : Text} (h : Border front stretch) :
    Text.dropEnd Text.isBlank (front ++ stretch) = front ++ Text.dropEnd Text.isBlank stretch := by
  refine Text.dropEnd_append_of_halts ?_
  rcases h with h | ⟨c, hc, hfirm⟩
  · exact Or.inl fun c hc => (Text.isFirm_iff.1 (h c hc)).1
  · exact Or.inr ⟨c, List.mem_of_head? hc, (Text.isFirm_iff.1 hfirm).1⟩

theorem Border.dropEnd_isHorizontalBlank {front stretch : Text} (h : Border front stretch) :
    Text.dropEnd Text.isHorizontalBlank (front ++ stretch) = front ++ Text.dropEnd Text.isHorizontalBlank stretch := by
  refine Text.dropEnd_append_of_halts ?_
  rcases h with h | ⟨c, hc, hfirm⟩
  · exact Or.inl fun c hc => Text.isHorizontalBlank_of_isFirm (h c hc)
  · exact Or.inr ⟨c, List.mem_of_head? hc, Text.isHorizontalBlank_of_isFirm hfirm⟩

theorem Border.closesItself_append {front stretch : Text} (h : Border front stretch) :
    closesItself (front ++ stretch) = closesItself stretch := by
  unfold closesItself
  rw [h.dropEnd_isBlank]
  cases hs : Text.dropEnd Text.isBlank stretch with
  | cons c rest => rw [List.getLast?_append_cons]
  | nil =>
    rw [List.append_nil]
    rcases h with h | ⟨c, hc, hfirm⟩
    · cases hl : front.getLast? with
      | none => rfl
      | some c => simpa using (Text.isFirm_iff.1 (h c hl)).2
    · exfalso
      rw [Text.dropEnd_eq_rdropWhile, List.rdropWhile_eq_nil_iff] at hs
      have := hs c (List.mem_of_head? hc)
      rw [(Text.isFirm_iff.1 hfirm).1] at this
      exact absurd this (by decide)

/-- **A seam stays behind the border**: what is in front of the stretch is kept as it is. -/
theorem seam_append {inserted front stretch : Text} (h : Border front stretch) :
    seam inserted (front ++ stretch) = front ++ seam inserted stretch := by
  cases hs : closesItself stretch
  · simp [seam, h.closesItself_append, hs, h.dropEnd_isHorizontalBlank]
  · obtain ⟨body, mid, rfl, hmid⟩ := exists_slash hs
    have hbody : Border front body := by
      rcases h with h | ⟨c, hc, hfirm⟩
      · exact Or.inl h
      · cases body with
        | nil =>
          simp only [List.nil_append, List.head?_cons, Option.some.injEq] at hc
          exact absurd hc.symm (Text.isFirm_iff.1 hfirm).2
        | cons d body => exact Or.inr ⟨c, by simpa using hc, hfirm⟩
    rw [← List.append_assoc, seam_append_slash hmid, seam_append_slash hmid, hbody.dropEnd_isHorizontalBlank]
    simp

theorem seam_cons {inserted stretch : Text} {c : Char} (hc : Text.isFirm c = true) :
    seam inserted (c :: stretch) = c :: seam inserted stretch := by
  have hborder : Border [c] stretch := by
    left
    intro d hd
    rw [List.getLast?_singleton, Option.some.injEq] at hd
    exact hd ▸ hc
  exact seam_append hborder

/-- a second seam at the same bracket puts its text behind that of the first, when that ends in a firm character -/
theorem seam_seam {first second stretch : Text} (h : ∃ c, first.getLast? = some c ∧ Text.isFirm c = true) :
    seam second (seam first stretch) = seam (first ++ second) stretch := by
  obtain ⟨c, hc, hfirm⟩ := h
  have hlast (front : Text) : (front ++ first).getLast? = some c := by
    rw [List.getLast?_append, hc]; rfl
  have hkeep (front : Text) : Text.dropEnd Text.isHorizontalBlank (front ++ first) = front ++ first :=
    Text.dropEnd_of_getLast? fun d hd => by
      rw [hlast, Option.some.injEq] at hd
      exact hd ▸ Text.isHorizontalBlank_of_isFirm hfirm
  cases hs : closesItself stretch
  · have hclose (front : Text) : closesItself (front ++ first) = false := by
      have hblank : Text.dropEnd Text.isBlank (front ++ first) = front ++ first :=
        Text.dropEnd_of_getLast? fun d hd => by
          rw [hlast, Option.some.injEq] at hd
          exact hd ▸ (Text.isFirm_iff.1 hfirm).1
      rw [closesItself, hblank, hlast]
      simpa using (Text.isFirm_iff.1 hfirm).2
    simp [seam, hs, hclose, hkeep]
  · obtain ⟨body, mid, rfl, hmid⟩ := exists_slash hs
    rw [seam_append_slash hmid, seam_append_slash hmid]
    have hnil : ∀ d ∈ ([] : Text), Text.isBlank d = true := by simp
    have : seam second (Text.dropEnd Text.isHorizontalBlank body ++ first ++ [' '] ++ ['/']) = _ :=
      seam_append_slash hnil
    rw [Text.dropEnd_append_of_all (by simp; decide), hkeep] at this
    simpa using this

end SourceMark
