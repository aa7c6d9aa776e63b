/-
A pass of the annotator as a weave. The annotator splices marked tags into the buffer with a cursor; what comes out is the
buffer woven with one seam for each eligible candidate, at the bracket that ends its tag.

Results:
- `splice_eq_weave`: the cursor neither loses nor repeats anything.
- `step_buffer`: a pass weaves its buffer.
-/
import Mathlib.Data.List.Find
import SourceMark.Annotator
import SourceMark.Proofs.Scan.Placed

namespace SourceMark

/-! ## The seams of a pass -/

namespace Annotator

variable (a : Annotator) (templateId : Text) (templateId_ne : templateId ≠ [])

def marker (c : Candidate) : Text :=
  Marker.text a.settings.attributeName (Reference.token ⟨templateId, c.line, templateId_ne, c.line_pos⟩)

theorem shape_marker (c : Candidate) : Marker.Shape (a.marker templateId templateId_ne c) :=
  Marker.shape_text a.settings _

/-- the seams of a pass that found these candidates: the marker of each eligible one at the end of its tag -/
def seams (offset : Nat) (text : Text) (found : List Candidate) : Seams := fun k =>
  (found.find? fun c => c.isEligible && endOf offset text c.tag == k).map fun c =>
    ' ' :: a.marker templateId templateId_ne c

theorem marked_seams (offset : Nat) (text : Text) (found : List Candidate) :
    (a.seams templateId templateId_ne offset text found).Marked := by
  intro k x hx
  obtain ⟨c, -, rfl⟩ := Option.map_eq_some_iff.1 hx
  exact .one (a.shape_marker templateId templateId_ne c)

theorem seams_eq_none {offset : Nat} {text : Text} {found : List Candidate} {k : Nat}
    (h : ∀ c ∈ found, c.isEligible = true → endOf offset text c.tag ≠ k) :
    a.seams templateId templateId_ne offset text found k = none := by
  rw [seams, Option.map_eq_none_iff, List.find?_eq_none]
  intro c hc hk
  rw [Bool.and_eq_true, beq_iff_eq] at hk
  exact h c hc hk.1 hk.2

theorem seams_cons_of_not_isEligible {offset : Nat} {text : Text} {c : Candidate} (hc : c.isEligible = false)
    (found : List Candidate) : a.seams templateId templateId_ne offset text (c :: found) =
      a.seams templateId templateId_ne offset text found := by
  funext k
  simp [seams, hc]

section First

variable {cursor : Nat} {text front rest : Text} {c : Candidate} {found : List Candidate}

theorem seams_front (htext : text = front ++ c.tag.text ++ rest) (hstart : c.tag.start = cursor + front.length)
    (hrest : Placed c.tag.stop rest (found.map (·.tag))) {k : Nat} (hk : k < brackets front + brackets c.tag.inner) :
    a.seams templateId templateId_ne cursor text (c :: found) k = none := by
  refine a.seams_eq_none templateId templateId_ne ?_
  intro d hd _
  rcases List.mem_cons.1 hd with rfl | hd
  · rw [endOf_eq htext hstart]
    omega
  · rw [Placed.endOf_behind htext hstart hrest (List.mem_map_of_mem hd)]
    omega

theorem seams_drop (htext : text = front ++ c.tag.text ++ rest) (hstart : c.tag.start = cursor + front.length)
    (hrest : Placed c.tag.stop rest (found.map (·.tag))) :
    (a.seams templateId templateId_ne cursor text (c :: found)).drop (brackets front + brackets c.tag.inner + 1) =
      a.seams templateId templateId_ne c.tag.stop rest found := by
  funext k
  have hskip : (endOf cursor text c.tag == brackets front + brackets c.tag.inner + 1 + k) = false := by
    rw [endOf_eq htext hstart, beq_eq_false_iff_ne]
    omega
  have hsame : found.find? (fun d => d.isEligible && endOf cursor text d.tag ==
        brackets front + brackets c.tag.inner + 1 + k) =
      found.find? fun d => d.isEligible && endOf c.tag.stop rest d.tag == k := by
    refine List.find?_congr ?_
    intro d hd
    rw [Placed.endOf_behind htext hstart hrest (List.mem_map_of_mem hd)]
    exact congrArg _ (Bool.eq_iff_iff.2 (by simp))
  simp only [Seams.drop, seams, List.find?_cons, hskip, Bool.and_false, hsame]

end First

/-- **The cursor neither loses nor repeats anything**: splicing marked tags into a text is weaving it. -/
theorem splice_eq_weave {cursor : Nat} {text : Text} {found : List Candidate}
    (h : Placed cursor text (found.map (·.tag))) :
    a.splice templateId templateId_ne cursor text found =
      weave (a.seams templateId templateId_ne cursor text found) text := by
  induction found generalizing cursor text with
  | nil => exact (weave_none fun _ _ => rfl).symm
  | cons c found ih =>
    have h : Placed cursor text (c.tag :: found.map (·.tag)) := h
    obtain ⟨front, rest, htext, hstart, hrest⟩ := h
    cases he : c.isEligible with
    | false =>
      have hplaced : Placed cursor text (found.map (·.tag)) := htext ▸ Placed.skip hstart hrest
      rw [splice, he, a.seams_cons_of_not_isEligible templateId templateId_ne he, ← ih hplaced]
      rfl
    | true =>
      have hnone {k : Nat} (hk : k < brackets front + brackets c.tag.inner) :
          a.seams templateId templateId_ne cursor text (c :: found) k = none :=
        a.seams_front templateId templateId_ne htext hstart hrest hk
      have hhere : a.seams templateId templateId_ne cursor text (c :: found) (brackets front + brackets c.tag.inner) =
          some (' ' :: a.marker templateId templateId_ne c) := by
        simp [seams, he, endOf_eq htext hstart]
      have htake := take_start htext hstart
      have hbehind := drop_stop htext hstart
      have hmark : a.mark templateId templateId_ne c =
          seam (' ' :: a.marker templateId templateId_ne c) c.tag.inner ++ ['>'] :=
        Marker.insert_eq_seam _ _
      have hfront : weave (a.seams templateId templateId_ne cursor text (c :: found)) front = front :=
        weave_none fun k hk => hnone (by omega)
      have hweave := weave_tag rest (show c.tag.inner.head? = some '<' from rfl) fun k _ hk => hnone hk
      rw [hhere, a.seams_drop templateId templateId_ne htext hstart hrest, sew_some, ← c.tag.text_eq_inner, ← htext,
        hfront] at hweave
      rw [splice, if_pos he, htake, hbehind, hmark, ih hrest, hweave]
      simp

/-! ## Passes -/

theorem candidates_map_tag (pass : Pass) (buffer : Text) (disk : Option Text) :
    (a.candidates pass buffer disk).map (·.tag) = (a.scanner.scan buffer).filter fun t => a.selects pass t.name := by
  rw [candidates, List.map_map]
  exact List.map_id _

theorem candidates_placed (pass : Pass) (buffer : Text) (disk : Option Text) :
    Placed 0 buffer ((a.candidates pass buffer disk).map (·.tag)) := by
  rw [candidates_map_tag]
  exact (Scanner.scan_placed a.scanner buffer).sublist List.filter_sublist

/-- the seams that a pass makes in a buffer -/
def passSeams (disk : Option Text) (pass : Pass) (buffer : Text) : Seams :=
  a.seams templateId templateId_ne 0 buffer (a.candidates pass buffer disk)

theorem marked_passSeams (disk : Option Text) (pass : Pass) (buffer : Text) :
    (a.passSeams templateId templateId_ne disk pass buffer).Marked :=
  a.marked_seams templateId templateId_ne 0 buffer _

def passed (disk : Option Text) (buffer : Text) (pass : Pass) : Text :=
  weave (a.passSeams templateId templateId_ne disk pass buffer) buffer

/-- **A pass weaves its buffer.** -/
theorem step_buffer (disk : Option Text) (p : Progress) (pass : Pass) :
    (Progress.step a templateId templateId_ne disk p pass).buffer =
      a.passed templateId templateId_ne disk p.buffer pass :=
  a.splice_eq_weave templateId templateId_ne (a.candidates_placed pass p.buffer disk)

/-- **The output is the source behind all passes.** -/
theorem annotate_output (source : Text) (disk : Option Text) :
    ∃ events, a.annotate source templateId disk =
      .ok ⟨a.passes.foldl (a.passed templateId templateId_ne disk) source, events⟩ := by
  have hfold (passes : List Pass) (p : Progress) :
      (passes.foldl (Progress.step a templateId templateId_ne disk) p).buffer =
        passes.foldl (a.passed templateId templateId_ne disk) p.buffer := by
    induction passes generalizing p with
    | nil => rfl
    | cons pass passes ih => rw [List.foldl_cons, List.foldl_cons, ih, step_buffer]
  have hbuffer := hfold a.passes ⟨source, 0, 0, []⟩
  dsimp only at hbuffer
  rw [annotate, dif_pos templateId_ne, ← hbuffer]
  exact ⟨_, rfl⟩

end Annotator

end SourceMark
