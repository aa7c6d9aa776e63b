/-
What the passes mark. A pass puts a seam at the end of each tag that it selects and finds no reason to leave alone, and
nowhere else. A tag that ends at a seam carries the marker's attribute from then on.

Results:
- `passSeams_ne_none`: the seams of a pass are at the ends of the tags that it marks.
- `reason?_of_seam`: a tag that ends at a seam is left alone, as marked already.
- `marksAt_passed`: behind a pass, a tag is marked as before, except where the pass has put a marker.
- `annotate_eq_weave`: the output is the source woven with the seams of all passes.
-/
import SourceMark.Proofs.Scan.Rescan
import SourceMark.Proofs.Splice

namespace SourceMark

namespace Text

theorem occursIn_append (front needle back : Text) : occursIn needle (front ++ needle ++ back) = true := by
  induction front with
  | nil =>
    rw [List.nil_append]
    cases h : needle ++ back with
    | nil => rw [(List.append_eq_nil_iff.1 h).1]; rfl
    | cons c rest =>
      have : needle.isPrefixOf (c :: rest) = true := List.isPrefixOf_iff_prefix.2 ⟨back, h⟩
      rw [occursIn, this, Bool.true_or]
  | cons c front ih => rw [List.cons_append, List.cons_append, occursIn, ih, Bool.or_true]

end Text

namespace Annotator

variable (a : Annotator) {templateId : Text} {templateId_ne : templateId ≠ []} {disk : Option Text} {pass : Pass}
  {buffer : Text}

/-! ## The seams of a pass -/

def Marks (pass : Pass) (t : Tag) : Prop :=
  a.selects pass t.name = true ∧ a.reason? t = none

instance (pass : Pass) (t : Tag) : Decidable (a.Marks pass t) := by
  unfold Marks; infer_instance

/-- whether a pass marks a tag of the text that ends at the bracket with number k -/
def MarksAt (pass : Pass) (text : Text) (k : Nat) : Prop :=
  ∃ t ∈ a.scanner.scan text, a.Marks pass t ∧ endOf 0 text t = k

instance (pass : Pass) (text : Text) (k : Nat) : Decidable (a.MarksAt pass text k) := by
  unfold MarksAt Marks; infer_instance

theorem mem_candidates {c : Candidate} : c ∈ a.candidates pass buffer disk ↔
    ∃ t ∈ a.scanner.scan buffer, a.selects pass t.name = true ∧ a.candidate buffer disk t = c := by
  simp [candidates, and_assoc]

theorem exists_eligible {p : Tag → Prop} :
    (∃ c ∈ a.candidates pass buffer disk, c.isEligible = true ∧ p c.tag) ↔
      ∃ t ∈ a.scanner.scan buffer, a.Marks pass t ∧ p t := by
  constructor
  · rintro ⟨c, hc, heligible, hp⟩
    obtain ⟨t, ht, hselects, rfl⟩ := a.mem_candidates.1 hc
    exact ⟨t, ht, ⟨hselects, Option.isNone_iff_eq_none.1 heligible⟩, hp⟩
  · rintro ⟨t, ht, ⟨hselects, hreason⟩, hp⟩
    exact ⟨a.candidate buffer disk t, a.mem_candidates.2 ⟨t, ht, hselects, rfl⟩, Option.isNone_iff_eq_none.2 hreason, hp⟩

theorem passSeams_eq_some {k : Nat} {x : Text} (h : a.passSeams templateId templateId_ne disk pass buffer k = some x) :
    ∃ c ∈ a.candidates pass buffer disk, c.isEligible = true ∧ endOf 0 buffer c.tag = k ∧
      x = ' ' :: a.marker templateId templateId_ne c := by
  obtain ⟨c, hc, rfl⟩ := Option.map_eq_some_iff.1 h
  have hfound := List.find?_some hc
  rw [Bool.and_eq_true, beq_iff_eq] at hfound
  exact ⟨c, List.mem_of_find?_eq_some hc, hfound.1, hfound.2, rfl⟩

/-- **The seams of a pass** are at the ends of the tags that it marks. -/
theorem passSeams_ne_none {k : Nat} :
    a.passSeams templateId templateId_ne disk pass buffer k ≠ none ↔ a.MarksAt pass buffer k := by
  rw [MarksAt, ← a.exists_eligible (p := fun t => endOf 0 buffer t = k)]
  constructor
  · intro h
    obtain ⟨x, hx⟩ := Option.ne_none_iff_exists'.1 h
    obtain ⟨c, hc, heligible, hend, -⟩ := a.passSeams_eq_some hx
    exact ⟨c, hc, heligible, hend⟩
  · rintro ⟨c, hc, heligible, hend⟩ hnone
    rw [passSeams, seams, Option.map_eq_none_iff, List.find?_eq_none] at hnone
    exact hnone c hc (by rw [heligible, hend, beq_self_eq_true, Bool.and_self])

theorem passSeams_eq_none {k : Nat} :
    a.passSeams templateId templateId_ne disk pass buffer k = none ↔ ¬a.MarksAt pass buffer k := by
  rw [← a.passSeams_ne_none, not_not]

theorem endSeams_passSeams :
    Scanner.EndSeams a.scanner buffer (a.passSeams templateId templateId_ne disk pass buffer) := by
  intro k hk
  obtain ⟨t, ht, -, hend⟩ := a.passSeams_ne_none.1 hk
  exact ⟨t, ht, hend⟩

theorem lt_brackets {k : Nat} (h : a.MarksAt pass buffer k) : k < brackets buffer := by
  obtain ⟨t, ht, -, rfl⟩ := h
  obtain ⟨front, rest, htext, -, -, -, hend⟩ := Scanner.exists_around ht
  have := congrArg brackets htext
  simp only [brackets_append, brackets_cons_bracket] at this
  omega

/-! ## Marked tags -/

variable {glue : Bool}

/-- a tag that holds the marker's attribute behind a blank is left alone: the blank does not lie in its name -/
theorem reason?_of_attribute (h : Scanner.Readable glue a.scanner) {text : Text} {t : Tag}
    (ht : t ∈ a.scanner.scan text) {front back : Text}
    (hinner : t.inner = front ++ ' ' :: (a.settings.attributeName ++ back)) : a.reason? t = some .alreadyMarked := by
  obtain ⟨-, hchars, -⟩ := Scanner.parts_of_tagAt? h (Scanner.tagAt?_of_mem_scan ht)
  have hname : ' ' ∉ '<' :: t.name := fun hm => (List.mem_cons.1 hm).elim (by decide) fun hm => hchars ' ' hm (by decide)
  have hattributes : ∃ front, t.attributes = front ++ a.settings.attributeName ++ back := by
    rw [Tag.inner] at hinner
    rcases List.append_eq_append_iff.1 hinner with ⟨e, -, he⟩ | ⟨e, he, he'⟩
    · exact ⟨e ++ [' '], by rw [he]; simp⟩
    · cases e with
      | nil => exact ⟨[' '], by rw [List.nil_append] at he'; rw [← he']; simp⟩
      | cons d e =>
        obtain rfl : ' ' = d := List.head_eq_of_cons_eq he'
        exact absurd (he ▸ List.mem_append_right _ List.mem_cons_self) hname
  obtain ⟨front, hattributes⟩ := hattributes
  rw [reason?, hattributes, Text.occursIn_append, if_pos rfl]

theorem reason?_of_marker (h : Scanner.Readable glue a.scanner) {text : Text} {t : Tag} (ht : t ∈ a.scanner.scan text)
    {front back : Text} {c : Candidate} (hinner : t.inner = front ++ ' ' :: a.marker templateId templateId_ne c ++ back) :
    a.reason? t = some .alreadyMarked := by
  have hattribute : t.inner = front ++ ' ' :: (a.settings.attributeName ++
      ("=\"".toList ++ Reference.token ⟨templateId, c.line, templateId_ne, c.line_pos⟩ ++ ['"'] ++ back)) := by
    rw [hinner]
    simp [marker, Marker.text]
  exact a.reason?_of_attribute h ht hattribute

/-- **A tag that ends at a seam is left alone**, as marked already. -/
theorem reason?_of_seam (h : Scanner.Readable glue a.scanner) {t : Tag}
    (ht : t ∈ a.scanner.scan (a.passed templateId templateId_ne disk buffer pass))
    (hseam : a.passSeams templateId templateId_ne disk pass buffer
      (endOf 0 (a.passed templateId templateId_ne disk buffer pass) t) ≠ none) : a.reason? t = some .alreadyMarked := by
  obtain ⟨x, hx⟩ := Option.ne_none_iff_exists'.1 hseam
  obtain ⟨front, back, hinner⟩ :=
    Scanner.exists_inner_of_seam (a.marked_passSeams templateId templateId_ne disk pass buffer) ht hx
  obtain ⟨c, -, -, -, rfl⟩ := a.passSeams_eq_some hx
  exact a.reason?_of_marker h ht hinner

/-- a tag found again without a seam has the same reason to be left alone, or the same lack of one -/
theorem reason?_of_rescanned {seams : Seams} {t t' : Tag} (h : Scanner.Rescanned buffer seams t t')
    (hseam : seams (endOf 0 buffer t) = none) : a.reason? t' = a.reason? t := by
  have hinner := h.inner
  rw [hseam, sew_none, Tag.inner, Tag.inner, h.name] at hinner
  have hattributes : t'.attributes = t.attributes := List.append_cancel_left hinner
  unfold reason?
  rw [Tag.text, Tag.text, h.name, h.nestedGt, hattributes]

/-! ## What a pass leaves to mark -/

/-- where a pass puts a marker, no pass finds a tag to mark behind it -/
theorem not_marksAt_passed (h : Scanner.Readable glue a.scanner) {other : Pass} {k : Nat}
    (hmarks : a.MarksAt pass buffer k) :
    ¬a.MarksAt other (a.passed templateId templateId_ne disk buffer pass) k := by
  rintro ⟨t, ht, ⟨-, hreason⟩, rfl⟩
  rw [a.reason?_of_seam h ht (a.passSeams_ne_none.2 hmarks)] at hreason
  exact absurd hreason (by simp)

/-- **Behind a pass, a tag is marked as before**, except where the pass has put a marker. -/
theorem marksAt_passed (h : Scanner.Readable glue a.scanner) (htidy : Nesting.Tidy a.scanner.dialect.nestedRegions)
    (hcode : glue = true → ∀ t ∈ a.scanner.scan buffer, a.Marks pass t → t.inner.getLast? ≠ some '?') {other : Pass}
    {k : Nat} : a.MarksAt other (a.passed templateId templateId_ne disk buffer pass) k ↔
      a.MarksAt other buffer k ∧ ¬a.MarksAt pass buffer k := by
  have hrescan := Scanner.rescan h htidy (a.marked_passSeams templateId templateId_ne disk pass buffer)
    a.endSeams_passSeams fun hglue t ht hseam => by
      obtain ⟨u, hu, hmarks, hend⟩ := a.passSeams_ne_none.1 hseam
      exact Scanner.eq_of_endOf_eq hu ht hend ▸ hcode hglue u hu hmarks
  constructor
  · intro hfound
    have hnot : ¬a.MarksAt pass buffer k := fun hmarks => a.not_marksAt_passed h hmarks hfound
    obtain ⟨t', ht', ⟨hselects, hreason⟩, hend⟩ := hfound
    obtain ⟨t, ht, hre⟩ := exists_left_of_forall₂ hrescan ht'
    have hk : endOf 0 buffer t = k := hre.endOf.symm.trans hend
    have hseam : a.passSeams templateId templateId_ne disk pass buffer (endOf 0 buffer t) = none :=
      a.passSeams_eq_none.2 (hk ▸ hnot)
    exact ⟨⟨t, ht, ⟨hre.name ▸ hselects, (a.reason?_of_rescanned hre hseam).symm.trans hreason⟩, hk⟩, hnot⟩
  · rintro ⟨⟨t, ht, ⟨hselects, hreason⟩, rfl⟩, hnot⟩
    obtain ⟨t', ht', hre⟩ := exists_right_of_forall₂ hrescan ht
    have hseam : a.passSeams templateId templateId_ne disk pass buffer (endOf 0 buffer t) = none :=
      a.passSeams_eq_none.2 hnot
    exact ⟨t', ht', ⟨hre.name ▸ hselects, (a.reason?_of_rescanned hre hseam).trans hreason⟩, hre.endOf⟩

/-! ## All passes -/

theorem plain_mem_passes : Pass.plain ∈ a.passes := by
  unfold passes
  split_ifs <;> simp

variable (templateId templateId_ne disk)

def bufferOf (source : Text) : Pass → Text
  | .plain => source
  | .component => (Progress.step a templateId templateId_ne disk ⟨source, 0, 0, []⟩ .plain).buffer

theorem bufferOf_component (source : Text) : a.bufferOf templateId templateId_ne disk source .component =
    a.passed templateId templateId_ne disk source .plain :=
  a.step_buffer templateId templateId_ne disk ⟨source, 0, 0, []⟩ .plain

/-- brackets have the same numbers in the source and in the buffer of a pass -/
theorem brackets_bufferOf (source : Text) (pass : Pass) :
    brackets (a.bufferOf templateId templateId_ne disk source pass) = brackets source := by
  cases pass with
  | plain => rfl
  | component =>
    rw [bufferOf_component]
    exact brackets_weave (a.marked_passSeams templateId templateId_ne disk .plain source)

def allSeams (source : Text) : Seams := fun k =>
  a.passes.foldl (fun inserted pass => Seams.both inserted
    (a.passSeams templateId templateId_ne disk pass (a.bufferOf templateId templateId_ne disk source pass) k)) none

/-- **The output is the source woven with the seams of all passes.** -/
theorem annotate_eq_weave (source : Text) : ∃ events, a.annotate source templateId disk =
    .ok ⟨weave (a.allSeams templateId templateId_ne disk source) source, events⟩ := by
  obtain ⟨events, hannotate⟩ := a.annotate_output templateId templateId_ne source disk
  refine ⟨events, hannotate.trans ?_⟩
  congr 2
  have hplain := a.marked_passSeams templateId templateId_ne disk .plain source
  unfold allSeams passes
  split_ifs
  · simp only [List.foldl_cons, List.foldl_nil, passed, bufferOf_component]
    rw [weave_weave hplain]
    rfl
  · rfl

/-- the weave of all passes is what they make of the source one after the other -/
theorem weave_allSeams (source : Text) : weave (a.allSeams templateId templateId_ne disk source) source =
    a.passes.foldl (a.passed templateId templateId_ne disk) source := by
  obtain ⟨events, hweave⟩ := a.annotate_eq_weave templateId templateId_ne disk source
  obtain ⟨events', hpasses⟩ := a.annotate_output templateId templateId_ne source disk
  rw [hweave] at hpasses
  exact congrArg Annotated.output (Except.ok.inj hpasses)

end Annotator

end SourceMark
