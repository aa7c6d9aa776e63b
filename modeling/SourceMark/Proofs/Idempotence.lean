/-
Annotating twice. A run leaves nothing to mark: a pass marks every tag that it selects and finds no reason to leave
alone, the marker is such a reason, and no pass makes or hides a tag, in its own pass or in another.

Results:
- `settled_passed`: a pass settles itself and unsettles no other.
- `settled_passes`: behind all passes, every pass is settled.
- `annotate_annotate`: in Jinja templates the second run changes nothing, whatever the template ids and the files.
-/
import SourceMark.Proofs.Passes
import SourceMark.Proofs.Scan.Languages

namespace SourceMark.Annotator

variable (a : Annotator) {templateId : Text} {templateId_ne : templateId ≠ []} {disk : Option Text}
  {pass other : Pass} {text : Text}

/-- whether a pass finds nothing to mark in a text -/
def Settled (pass : Pass) (text : Text) : Prop :=
  ∀ k, ¬a.MarksAt pass text k

variable {a}

theorem Settled.passed_eq (h : a.Settled pass text) : a.passed templateId templateId_ne disk text pass = text :=
  weave_none fun k _ => a.passSeams_eq_none.2 (h k)

theorem Settled.isEligible_eq_false (h : a.Settled pass text) {c : Candidate} (hc : c ∈ a.candidates pass text disk) :
    c.isEligible = false := by
  rw [Bool.eq_false_iff]
  intro heligible
  exact h _ ((a.exists_eligible (p := fun t => endOf 0 text t = endOf 0 text c.tag)).1 ⟨c, hc, heligible, rfl⟩)

/-- **A pass settles itself and unsettles no other.** -/
theorem settled_passed (h : Scanner.Readable false a.scanner) (htidy : Nesting.Tidy a.scanner.dialect.nestedRegions)
    (hbefore : other = pass ∨ a.Settled other text) :
    a.Settled other (a.passed templateId templateId_ne disk text pass) := by
  intro k hmarks
  obtain ⟨hother, hpass⟩ := (a.marksAt_passed h htidy (fun hglue => absurd hglue (by decide))).1 hmarks
  rcases hbefore with rfl | hsettled
  · exact hpass hother
  · exact hsettled k hother

/-- **Behind the passes, each of them is settled.** -/
theorem settled_passes (h : Scanner.Readable false a.scanner) (htidy : Nesting.Tidy a.scanner.dialect.nestedRegions)
    (passes : List Pass) (hpass : pass ∈ passes ∨ a.Settled pass text) :
    a.Settled pass (passes.foldl (a.passed templateId templateId_ne disk) text) := by
  induction passes generalizing text with
  | nil => exact hpass.resolve_left List.not_mem_nil
  | cons first passes ih =>
    refine ih ?_
    rcases hpass with hpass | hsettled
    · rcases List.mem_cons.1 hpass with rfl | hpass
      · exact Or.inr (settled_passed h htidy (Or.inl rfl))
      · exact Or.inl hpass
    · exact Or.inr (settled_passed h htidy (Or.inr hsettled))

/-- passes that are settled leave a text as it is -/
theorem passes_eq_self {passes : List Pass} (h : ∀ pass ∈ passes, a.Settled pass text) :
    passes.foldl (a.passed templateId templateId_ne disk) text = text := by
  induction passes with
  | nil => rfl
  | cons first passes ih =>
    rw [List.foldl_cons, (h first List.mem_cons_self).passed_eq]
    exact ih fun pass hpass => h pass (List.mem_cons_of_mem _ hpass)

/-- **Annotating twice is annotating once** in Jinja templates, when the names of tags are ordinary. In the second run
no tag is eligible in any pass. -/
theorem annotate_annotate (s : Settings) (hjinja : s.language = .jinja) (hnames : s.HasOrdinaryNames)
    (source firstId secondId : Text) (hfirst : firstId ≠ []) (hsecond : secondId ≠ []) (firstDisk secondDisk : Option Text) :
    ∃ first second, (ofSettings s).annotate source firstId firstDisk = .ok first ∧
      (ofSettings s).annotate first.output secondId secondDisk = .ok second ∧ second.output = first.output ∧
        ∀ pass ∈ (ofSettings s).passes, ∀ c ∈ (ofSettings s).candidates pass first.output secondDisk,
          c.isEligible = false := by
  have hglues : s.language.glues = false := by rw [hjinja]; rfl
  have hreadable : Scanner.Readable false (ofSettings s).scanner := hglues ▸ readable_ofSettings hnames
  have hsettled : ∀ pass ∈ (ofSettings s).passes, (ofSettings s).Settled pass
      ((ofSettings s).passes.foldl ((ofSettings s).passed firstId hfirst firstDisk) source) := fun pass hpass =>
    settled_passes hreadable s.language.tidy _ (Or.inl hpass)
  obtain ⟨events, hrun⟩ := (ofSettings s).annotate_output firstId hfirst source firstDisk
  obtain ⟨events', hrun'⟩ := (ofSettings s).annotate_output secondId hsecond
    ((ofSettings s).passes.foldl ((ofSettings s).passed firstId hfirst firstDisk) source) secondDisk
  exact ⟨_, _, hrun, hrun', passes_eq_self hsettled, fun pass hpass c hc => (hsettled pass hpass).isEligible_eq_false hc⟩

theorem annotate_annotate_article : ({ language := .jinja } : Settings).HasOrdinaryNames ∧
    ∃ first second, (ofSettings { language := .jinja }).annotate "<article><x-card {{ a }}>".toList "home".toList none =
      .ok first ∧ (ofSettings { language := .jinja }).annotate first.output "other".toList (some "<p>".toList) = .ok second ∧
        second.output = first.output := by
  have hnames : ({ language := .jinja } : Settings).HasOrdinaryNames := by decide +kernel
  obtain ⟨first, second, hrun, hrun', heq, -⟩ := annotate_annotate { language := .jinja } rfl hnames
    "<article><x-card {{ a }}>".toList "home".toList "other".toList (by decide) (by decide) none (some "<p>".toList)
  exact ⟨hnames, first, second, hrun, hrun', heq⟩

end SourceMark.Annotator
