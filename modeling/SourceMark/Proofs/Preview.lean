/-
Previews. A preview lists the tags that the passes would mark in the source as it is. A run marks in its second pass what
it finds in the outcome of the first, so the two agree when the first pass neither makes nor hides a component tag.

Results:
- `mem_preview`, `preview_pairwise`: a preview lists the candidates of all passes over the source, each once and in order.
- `agrees_iff`: a run marks what its preview announces if and only if the component tags of the buffer are those of
  the source.
- `keepsComponents`: in Jinja they are; in Blade they are unless a marked tag has a question mark before its bracket.
- `preview_agrees`: all of it in one statement.
- `preview_disagrees`: a Blade template in which the marker hides the end of a block of code, so that a tag which the
  preview announces is not marked.
-/
import SourceMark.Proofs.Insertion
import SourceMark.Proofs.Scan.Languages

namespace SourceMark.Annotator

variable (a : Annotator) (templateId : Text) (templateId_ne : templateId ≠ []) (disk : Option Text) (source : Text)

/-! ## The candidates of a preview -/

variable {a disk source} in
theorem eq_of_start {c d : Candidate} (hc : ∃ t ∈ a.scanner.scan source, a.candidate source disk t = c)
    (hd : ∃ t ∈ a.scanner.scan source, a.candidate source disk t = d) (h : c.tag.start = d.tag.start) : c = d := by
  obtain ⟨t, ht, rfl⟩ := hc
  obtain ⟨u, hu, rfl⟩ := hd
  have hstart : t.start = u.start := h
  rcases (Scanner.scan_placed a.scanner source).apart ht hu with rfl | h | h
  · rfl
  · have := t.start_lt_stop
    omega
  · have := u.start_lt_stop
    omega

theorem candidates_pairwise (pass : Pass) :
    (a.candidates pass source disk).Pairwise fun c d => c.tag.start ≠ d.tag.start := by
  have hplaced := (a.candidates_placed pass source disk).pairwise
  rw [List.pairwise_map] at hplaced
  refine hplaced.imp ?_
  intro c d h
  have := c.tag.start_lt_stop
  omega

variable {a disk source} in
theorem exists_candidate {pass : Pass} {c : Candidate} (hc : c ∈ a.candidates pass source disk) :
    ∃ t ∈ a.scanner.scan source, a.candidate source disk t = c := by
  obtain ⟨t, ht, -, heq⟩ := a.mem_candidates.1 hc
  exact ⟨t, ht, heq⟩

/-- a pass adds its candidates: one that starts where another was found is that one -/
theorem mem_found {found : List Candidate} (hfound : ∀ c ∈ found, ∃ t ∈ a.scanner.scan source, a.candidate source disk t = c)
    {pass : Pass} {c : Candidate} :
    c ∈ found ++ (a.candidates pass source disk).filter (fun c => found.all (·.tag.start != c.tag.start)) ↔
      c ∈ found ∨ c ∈ a.candidates pass source disk := by
  rw [List.mem_append, List.mem_filter]
  constructor
  · rintro (hc | hc)
    · exact Or.inl hc
    · exact Or.inr hc.1
  · rintro (hc | hc)
    · exact Or.inl hc
    · by_cases hin : c ∈ found
      · exact Or.inl hin
      · refine Or.inr ⟨hc, List.all_eq_true.2 ?_⟩
        intro d hd
        rw [bne_iff_ne]
        intro hstart
        exact hin (eq_of_start (hfound d hd) (exists_candidate hc) hstart ▸ hd)

/-- pass after pass, what is found is each candidate once -/
theorem found_spec (passes : List Pass) (found : List Candidate)
    (hfound : ∀ c ∈ found, ∃ t ∈ a.scanner.scan source, a.candidate source disk t = c)
    (hapart : found.Pairwise fun c d => c.tag.start ≠ d.tag.start) :
    (passes.foldl (fun found pass => found ++ (a.candidates pass source disk).filter fun c =>
        found.all (·.tag.start != c.tag.start)) found).Pairwise (fun c d => c.tag.start ≠ d.tag.start) ∧
      ∀ c, c ∈ passes.foldl (fun found pass => found ++ (a.candidates pass source disk).filter fun c =>
          found.all (·.tag.start != c.tag.start)) found ↔
        c ∈ found ∨ ∃ pass ∈ passes, c ∈ a.candidates pass source disk := by
  induction passes generalizing found with
  | nil => exact ⟨hapart, fun c => by simp⟩
  | cons pass passes ih =>
    have hdrawn : ∀ c ∈ found ++ (a.candidates pass source disk).filter (fun c => found.all (·.tag.start != c.tag.start)),
        ∃ t ∈ a.scanner.scan source, a.candidate source disk t = c := by
      intro c hc
      rcases (a.mem_found disk source hfound).1 hc with hc | hc
      · exact hfound c hc
      · exact exists_candidate hc
    have hstarts : (found ++ (a.candidates pass source disk).filter fun c =>
        found.all (·.tag.start != c.tag.start)).Pairwise fun c d => c.tag.start ≠ d.tag.start := by
      refine List.pairwise_append.2 ⟨hapart, (a.candidates_pairwise disk source pass).filter _, ?_⟩
      intro c hc d hd
      exact bne_iff_ne.1 (List.all_eq_true.1 (List.mem_filter.1 hd).2 c hc)
    obtain ⟨hpairwise, hmem⟩ := ih _ hdrawn hstarts
    refine ⟨hpairwise, fun c => (hmem c).trans ?_⟩
    rw [a.mem_found disk source hfound, or_assoc]
    simp only [List.mem_cons, exists_eq_or_imp]

/-- **A preview lists the candidates of all passes** over the source. -/
theorem mem_preview {c : Candidate} :
    c ∈ a.preview source disk ↔ ∃ pass ∈ a.passes, c ∈ a.candidates pass source disk := by
  rw [preview, List.mem_mergeSort, (a.found_spec disk source a.passes [] (by simp) .nil).2]
  simp

/-- **A preview lists each tag once**, and the tags in the order in which they end. -/
theorem preview_pairwise :
    (a.preview source disk).Pairwise fun c d => endOf 0 source c.tag < endOf 0 source d.tag := by
  have hsorted : (a.preview source disk).Pairwise fun c d => c.tag.start ≤ d.tag.start := by
    refine (List.pairwise_mergeSort (fun c d e hcd hde => ?_) (fun c d => ?_) _).imp fun h => of_decide_eq_true h
    · exact decide_eq_true (Nat.le_trans (of_decide_eq_true hcd) (of_decide_eq_true hde))
    · rcases Nat.le_total c.tag.start d.tag.start with h | h <;> simp [h]
  have hapart : (a.preview source disk).Pairwise fun c d => c.tag.start ≠ d.tag.start :=
    (a.found_spec disk source a.passes [] (by simp) .nil).1.perm (List.mergeSort_perm _ _).symm fun h => h.symm
  have hscan : ∀ c ∈ a.preview source disk, c.tag ∈ a.scanner.scan source := by
    intro c hc
    obtain ⟨pass, -, hc⟩ := (a.mem_preview disk source).1 hc
    obtain ⟨t, ht, -, rfl⟩ := a.mem_candidates.1 hc
    exact ht
  refine (hsorted.and hapart).imp_of_mem fun {c d} hc hd ⟨hle, hne⟩ => ?_
  have hplaced := Scanner.scan_placed a.scanner source
  rcases hplaced.apart (hscan c hc) (hscan d hd) with heq | h | h
  · exact absurd (congrArg Tag.start heq) hne
  · exact hplaced.endOf_lt (hscan c hc) (hscan d hd) h
  · have := d.tag.start_lt_stop
    omega

/-! ## Agreement -/

/-- whether an output is the source with exactly the markers that the preview announces: at most one before each bracket,
and one if and only if an eligible candidate's tag ends there -/
def Agrees (output : Text) : Prop :=
  ∃ (marks : Nat → List Mark) (kept : Text),
    Inserts (fun k => (marks k).map (a.piece templateId templateId_ne)) 0 source output kept ∧
      ∀ k < brackets source, (marks k).length ≤ 1 ∧
        (marks k ≠ [] ↔ ∃ c ∈ a.preview source disk, c.isEligible = true ∧ endOf 0 source c.tag = k)

/-- whether the second pass marks in its buffer the tags that it would mark in the source, apart from those that the first
pass has marked -/
def KeepsComponents : Prop :=
  ∀ k, a.MarksAt .component (a.bufferOf templateId templateId_ne disk source .component) k ↔
    a.MarksAt .component source k ∧ ¬a.MarksAt .plain source k

/-- the eligible candidates of a preview are the tags that a pass marks in the source -/
theorem exists_previewed {k : Nat} :
    (∃ c ∈ a.preview source disk, c.isEligible = true ∧ endOf 0 source c.tag = k) ↔
      ∃ pass ∈ a.passes, a.MarksAt pass source k := by
  constructor
  · rintro ⟨c, hc, heligible, hend⟩
    obtain ⟨pass, hpass, hc⟩ := (a.mem_preview disk source).1 hc
    exact ⟨pass, hpass, (a.exists_eligible (p := fun t => endOf 0 source t = k)).1 ⟨c, hc, heligible, hend⟩⟩
  · rintro ⟨pass, hpass, hmarks⟩
    obtain ⟨c, hc, heligible, hend⟩ := (a.exists_eligible (p := fun t => endOf 0 source t = k)).2 hmarks
    exact ⟨c, (a.mem_preview disk source).2 ⟨pass, hpass, hc⟩, heligible, hend⟩

variable {a templateId templateId_ne disk source} {glue : Bool}

theorem exists_pass {p : Pass → Prop} :
    (∃ pass ∈ a.passes, p pass) ↔ p .plain ∨ .component ∈ a.passes ∧ p .component := by
  unfold passes
  split_ifs <;> simp

/-- where the first pass puts a marker, the second finds no tag to mark -/
theorem not_marksAt_component (h : Scanner.Readable glue a.scanner) {k : Nat} (hplain : a.MarksAt .plain source k) :
    ¬a.MarksAt .component (a.bufferOf templateId templateId_ne disk source .component) k := by
  rw [bufferOf_component]
  exact a.not_marksAt_passed h hplain

theorem marksAt_ne_nil {k : Nat} : a.marksAt templateId templateId_ne disk source k ≠ [] ↔
    ∃ pass ∈ a.passes, a.MarksAt pass (a.bufferOf templateId templateId_ne disk source pass) k := by
  rw [Ne, marksAt_eq_nil]
  simp only [not_forall, exists_prop, not_not]

theorem length_marksAt_le (h : Scanner.Readable glue a.scanner) (k : Nat) :
    (a.marksAt templateId templateId_ne disk source k).length ≤ 1 := by
  unfold marksAt passes
  split_ifs
  · rw [List.flatMap_cons, List.flatMap_cons, List.flatMap_nil, List.append_nil, List.length_append]
    by_cases hplain : a.MarksAt .plain source k
    · rw [(a.markAt?_eq_none templateId templateId_ne disk source).2 (not_marksAt_component h hplain)]
      simp
    · have hnone : a.markAt? templateId templateId_ne disk source k .plain = none :=
        (a.markAt?_eq_none templateId templateId_ne disk source).2 hplain
      rw [hnone]
      simp
  · simp

/-- **The second pass decides**: the marks of a run are at the brackets that the preview announces if and only if the
second pass keeps to the component tags of the source. -/
theorem marked_iff_previewed (h : Scanner.Readable glue a.scanner) :
    (∀ k < brackets source, a.marksAt templateId templateId_ne disk source k ≠ [] ↔
      ∃ c ∈ a.preview source disk, c.isEligible = true ∧ endOf 0 source c.tag = k) ↔
    (Pass.component ∈ a.passes → a.KeepsComponents templateId templateId_ne disk source) := by
  have hbrackets := a.brackets_bufferOf templateId templateId_ne disk source .component
  have hplain : a.bufferOf templateId templateId_ne disk source .plain = source := rfl
  simp only [marksAt_ne_nil, exists_previewed, exists_pass, hplain, KeepsComponents]
  have hapart {k : Nat} : a.MarksAt .plain source k →
      ¬a.MarksAt .component (a.bufferOf templateId templateId_ne disk source .component) k := not_marksAt_component h
  constructor
  · intro hall hpasses k
    by_cases hk : k < brackets source
    · have := hall k hk
      have := hapart (k := k)
      tauto
    · exact iff_of_false (fun hfound => hk (hbrackets ▸ a.lt_brackets hfound)) fun hannounced => hk (a.lt_brackets hannounced.1)
  · intro hall k _
    by_cases hpasses : Pass.component ∈ a.passes
    · have := hall hpasses k
      tauto
    · tauto

/-- **A run marks what its preview announces** if and only if the second pass keeps to the component tags of the source. -/
theorem agrees_iff (h : Scanner.Readable glue a.scanner) {output kept : Text}
    (hrun : Inserts (fun k => (a.marksAt templateId templateId_ne disk source k).map (a.piece templateId templateId_ne)) 0
      source output kept) : a.Agrees templateId templateId_ne disk source output ↔
        (Pass.component ∈ a.passes → a.KeepsComponents templateId templateId_ne disk source) := by
  rw [← marked_iff_previewed h]
  constructor
  · rintro ⟨marks, kept', hmarks, hagree⟩ k hk
    have hsame := hrun.eq_nil_iff hmarks (fun k => a.inserted_of_mem templateId templateId_ne)
      (fun k => a.inserted_of_mem templateId templateId_ne) (Nat.zero_le k) (by omega)
    rw [List.map_eq_nil_iff, List.map_eq_nil_iff] at hsame
    rw [Ne, hsame]
    exact (hagree k hk).2
  · exact fun hall => ⟨_, kept, hrun, fun k hk => ⟨length_marksAt_le h k, hall k hk⟩⟩

/-- **The second pass keeps to the component tags of the source** in Jinja templates, and in Blade templates unless the
first pass marks a tag with a question mark right before its bracket. -/
theorem keepsComponents (h : Scanner.Readable glue a.scanner) (htidy : Nesting.Tidy a.scanner.dialect.nestedRegions)
    (hcode : glue = true → ∀ t ∈ a.scanner.scan source, a.Marks .plain t → t.inner.getLast? ≠ some '?') :
    a.KeepsComponents templateId templateId_ne disk source := by
  intro k
  rw [bufferOf_component]
  exact a.marksAt_passed h htidy hcode

/-- **Previews agree with runs** to this extent. A preview lists each tag once. The run agrees with it if and only if the
second pass marks in its buffer the tags that it would mark in the source; that is so in Jinja templates, and in all
templates in which the first pass marks no tag with a question mark right before its bracket. -/
theorem preview_agrees {s : Settings} (hnames : s.HasOrdinaryNames) {templateId : Text} (templateId_ne : templateId ≠ [])
    (disk : Option Text) (source : Text) :
    ((ofSettings s).preview source disk).Pairwise (fun c d => endOf 0 source c.tag < endOf 0 source d.tag) ∧
      ∃ r, (ofSettings s).annotate source templateId disk = .ok r ∧
        ((ofSettings s).Agrees templateId templateId_ne disk source r.output ↔
          (Pass.component ∈ (ofSettings s).passes →
            (ofSettings s).KeepsComponents templateId templateId_ne disk source)) ∧
        (s.language = .jinja → (ofSettings s).Agrees templateId templateId_ne disk source r.output) ∧
        ((∀ t ∈ (ofSettings s).scanner.scan source, (ofSettings s).Marks .plain t → t.inner.getLast? ≠ some '?') →
          (ofSettings s).Agrees templateId templateId_ne disk source r.output) := by
  have hreadable := readable_ofSettings hnames
  obtain ⟨r, kept, hannotate, -, hrun⟩ := (ofSettings s).annotate_marksAt templateId templateId_ne disk source
  refine ⟨preview_pairwise _ _ _, r, hannotate, agrees_iff hreadable hrun, fun hjinja => ?_, fun hcode => ?_⟩
  · refine (agrees_iff hreadable hrun).2 fun _ => keepsComponents hreadable s.language.tidy ?_
    intro hglue
    rw [hjinja] at hglue
    exact absurd hglue (by decide)
  · exact (agrees_iff hreadable hrun).2 fun _ => keepsComponents hreadable s.language.tidy fun _ => hcode

theorem preview_agrees_article : Settings.standard.HasOrdinaryNames ∧ "home".toList ≠ [] ∧
    ∃ r, (ofSettings .standard).annotate "<article><x-card>".toList "home".toList none = .ok r ∧
      (ofSettings .standard).Agrees "home".toList (by decide) none "<article><x-card>".toList r.output := by
  have hnames : Settings.standard.HasOrdinaryNames := by decide +kernel
  have hcode : ∀ t ∈ (ofSettings .standard).scanner.scan "<article><x-card>".toList, t.inner.getLast? ≠ some '?' := by
    decide +kernel
  obtain ⟨-, r, hrun, -, -, hagrees⟩ :=
    preview_agrees hnames (show "home".toList ≠ [] by decide) none "<article><x-card>".toList
  exact ⟨hnames, by decide, r, hrun, hagrees fun t ht _ => hcode t ht⟩

/-- a Blade template in which the end of a block of code is the end of a plain tag too -/
def codeEndInTag : Text := "<x-a \x7b\x7b <?php \x7d\x7d <div ?> \x7d\x7d < <x-b> ?> \x7d\x7d >".toList

/-- the marker of the plain tag hides the end of the block, so the component tag behind it is not found any more -/
theorem preview_disagrees : ∃ r, (ofSettings .standard).annotate codeEndInTag "t".toList none = .ok r ∧
    ¬(ofSettings .standard).Agrees "t".toList (by decide) none codeEndInTag r.output := by
  have hreadable := readable_ofSettings (show Settings.standard.HasOrdinaryNames by decide +kernel)
  obtain ⟨r, kept, hannotate, -, hrun⟩ :=
    (ofSettings .standard).annotate_marksAt "t".toList (by decide) none codeEndInTag
  refine ⟨r, hannotate, ?_⟩
  intro hagrees
  have hkeeps := (agrees_iff hreadable hrun).1 hagrees (by decide)
  have hsource : (ofSettings .standard).MarksAt .component codeEndInTag 1 ∧
      ¬(ofSettings .standard).MarksAt .plain codeEndInTag 1 := by decide +kernel
  have hbuffer : ¬(ofSettings .standard).MarksAt .component
      ((ofSettings .standard).bufferOf "t".toList (by decide) none codeEndInTag .component) 1 := by decide +kernel
  exact hbuffer ((hkeeps 1).2 hsource)

end SourceMark.Annotator
