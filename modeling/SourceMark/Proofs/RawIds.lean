/-
Marking under an id from outside. An id that is a text marks as ever. Under any other id the source stays as it is until
a tag is to be marked, which no reference can be made for; so the run is refused just when some tag of the source, as the
preview shows it, is to be marked.

Results:
- `annotateRaw_ofText`: under a text, what is marked is what the annotator marks.
- `annotateRaw_eq_error_iff`: which ids are refused, and why.
-/
import SourceMark.Proofs.Preview

namespace SourceMark.Annotator

variable {a : Annotator} {source : Text} {disk : Option Text}

/-- what is said of an id that is no text -/
def notUnicode : RefusedId :=
  .invalidReference [⟨Reference.templateIdField, none, .notUnicode⟩]

/-- **A text marks as ever.** -/
theorem annotateRaw_ofText {templateId : Text} : templateId ≠ [] ↔
    ∃ p, a.annotateRaw source (.ofText templateId) disk = .ok p ∧
      a.annotate source templateId disk = .ok (p.finish templateId) := by
  have hraw : a.annotateRaw source (.ofText templateId) disk =
      if h : templateId ≠ [] then .ok (a.passes.foldl (Progress.step a templateId h disk) ⟨source, 0, 0, []⟩)
      else .error (.unfit .emptyTemplateId) := by
    rw [annotateRaw, RawText.toText?_ofText]
  by_cases h : templateId = []
  · refine iff_of_false (not_not_intro h) ?_
    rintro ⟨p, hp, -⟩
    rw [hraw, dif_neg (not_not_intro h)] at hp
    exact absurd hp nofun
  · refine iff_of_true h ⟨_, hraw.trans (dif_pos h), ?_⟩
    rw [annotate, dif_pos h]
    rfl

/-! ## Ids that are no texts -/

theorem stepRefused_eq_ok {p q : Progress} {pass : Pass} (h : p.stepRefused a disk pass = .ok q) :
    q.buffer = p.buffer ∧ ∀ c ∈ a.candidates pass p.buffer disk, c.isEligible = false := by
  simp only [Progress.stepRefused] at h
  split_ifs at h with hany
  obtain rfl := Except.ok.inj h
  refine ⟨rfl, fun c hc => ?_⟩
  rw [List.any_eq_true, not_exists] at hany
  simpa [hc] using hany c

theorem stepRefused_eq_error {p : Progress} {pass : Pass} {e : RefusedId} (h : p.stepRefused a disk pass = .error e) :
    e = notUnicode ∧ ∃ c ∈ a.candidates pass p.buffer disk, c.isEligible = true := by
  simp only [Progress.stepRefused] at h
  split_ifs at h with hany
  exact ⟨(Except.error.inj h).symm, List.any_eq_true.1 hany⟩

/-- the passes are refused at the first tag to be marked; until then the source stays as it is -/
theorem foldlM_stepRefused (passes : List Pass) (p : Progress) (e : RefusedId) :
    passes.foldlM (Progress.stepRefused a disk) p = .error e ↔
      e = notUnicode ∧ ∃ pass ∈ passes, ∃ c ∈ a.candidates pass p.buffer disk, c.isEligible = true := by
  induction passes generalizing p with
  | nil =>
    refine iff_of_false nofun ?_
    rintro ⟨-, pass, hpass, -⟩
    exact absurd hpass List.not_mem_nil
  | cons pass passes ih =>
    rw [List.foldlM_cons]
    cases hstep : Progress.stepRefused a disk p pass with
    | error found =>
      obtain ⟨rfl, hfound⟩ := stepRefused_eq_error hstep
      have herror : (Except.error notUnicode >>= fun q => passes.foldlM (Progress.stepRefused a disk) q) =
          (.error notUnicode : Except RefusedId Progress) := rfl
      rw [herror, Except.error.injEq]
      exact ⟨fun he => ⟨he.symm, pass, List.mem_cons_self, hfound⟩, fun he => he.1.symm⟩
    | ok q =>
      obtain ⟨hbuffer, hnone⟩ := stepRefused_eq_ok hstep
      have hok : (Except.ok q >>= fun q => passes.foldlM (Progress.stepRefused a disk) q) =
          passes.foldlM (Progress.stepRefused a disk) q := rfl
      have hhere : ¬∃ c ∈ a.candidates pass p.buffer disk, c.isEligible = true := by
        rintro ⟨c, hc, heligible⟩
        rw [hnone c hc] at heligible
        exact absurd heligible nofun
      simp only [hok, ih q, hbuffer, List.mem_cons, exists_eq_or_imp, hhere, false_or]

theorem exists_eligible_preview_iff : (∃ c ∈ a.preview source disk, c.isEligible = true) ↔
    ∃ pass ∈ a.passes, ∃ c ∈ a.candidates pass source disk, c.isEligible = true := by
  constructor
  · rintro ⟨c, hc, heligible⟩
    obtain ⟨pass, hpass, hc⟩ := (a.mem_preview disk source).1 hc
    exact ⟨pass, hpass, c, hc, heligible⟩
  · rintro ⟨pass, hpass, c, hc, heligible⟩
    exact ⟨c, (a.mem_preview disk source).2 ⟨pass, hpass, hc⟩, heligible⟩

/-- **Which ids are refused.** The empty one always; and one that is no text just when a tag of the source is to be
marked. -/
theorem annotateRaw_eq_error_iff {templateId : RawText} {e : RefusedId} :
    a.annotateRaw source templateId disk = .error e ↔
      templateId = [] ∧ e = .unfit .emptyTemplateId ∨
      (∃ half, .surrogate half ∈ templateId) ∧ (∃ c ∈ a.preview source disk, c.isEligible = true) ∧
        e = notUnicode := by
  cases htext : templateId.toText? with
  | none =>
    have hhalf := RawText.toText?_eq_none_iff.1 htext
    have hne : templateId ≠ [] := by
      rintro rfl
      exact absurd htext nofun
    rw [annotateRaw, htext, foldlM_stepRefused, exists_eligible_preview_iff]
    simp only [hne, false_and, false_or, hhalf, true_and]
    exact and_comm
  | some id =>
    obtain rfl := RawText.toText?_eq_some_iff.1 htext
    have hhalf : ¬∃ half, RawChar.surrogate half ∈ RawText.ofText id := by
      rw [← RawText.toText?_eq_none_iff, htext]
      exact nofun
    rw [annotateRaw, htext]
    simp only [hhalf, false_and, or_false]
    by_cases hid : id = []
    · subst hid
      rw [dif_neg (not_not_intro rfl), Except.error.injEq]
      exact ⟨fun he => ⟨rfl, he.symm⟩, fun he => he.2.symm⟩
    · rw [dif_pos hid]
      refine iff_of_false nofun ?_
      rintro ⟨hnil, -⟩
      exact hid (List.map_eq_nil_iff.1 hnil)

end SourceMark.Annotator
