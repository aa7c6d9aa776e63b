/-
Code in tags. Where the walk over a tag enters a region of template code, outside quoted spans, the tag is to be left
alone. Whether it is depends on blanking, which knows no regions and no backslashes: it sees the opener as long as no span
before it holds a quote of its own kind. Raw code is seen in any case.

Results:
- `flatMap_steps`: the steps of the walk over a tag are its attributes.
- `reason?_of_entered`: a tag whose walk enters a region of code that is seen is left alone.
- `leaves_iff`: a run copies a tag that is left alone unchanged if and only if the second pass marks no tag that ends in it.
- `annotate_leaves_code`: all of it in one statement.
- `annotate_marks_code`: in both languages there is a tag with a region of code outside quotes that gets a marker.
-/
import SourceMark.Proofs.Places
import SourceMark.Proofs.TemplateBlocks
import SourceMark.Proofs.Walk.Steps

namespace SourceMark

/-! ## Hazards -/

namespace Dialect

theorem hazard?_of_rawCode {d : Dialect} {marker text : Text} (hm : marker ∈ d.rawCodeMarkers)
    (h : Text.occursIn marker text = true) : d.hazard? text ≠ none := by
  intro hnone
  rw [hazard?, Option.or_eq_none_iff, Option.map_eq_none_iff, List.find?_eq_none] at hnone
  exact hnone.1 marker hm h

theorem hazard?_of_unquoted {d : Dialect} {marker text : Text} (hm : marker ∈ d.unquotedMarkers)
    (h : Text.occursIn marker (Quote.blank text) = true) : d.hazard? text ≠ none := by
  intro hnone
  rw [hazard?, Option.or_eq_none_iff, Option.or_eq_none_iff, Option.map_eq_none_iff, Option.map_eq_none_iff,
    List.find?_eq_none, List.find?_eq_none] at hnone
  exact hnone.2.1 marker hm h

theorem hazard?_of_directive {d : Dialect} {text : Text} (h : d.findDirective? none (Quote.blank text) ≠ none) :
    d.hazard? text ≠ none := by
  intro hnone
  rw [hazard?, Option.or_eq_none_iff, Option.or_eq_none_iff, Option.or_eq_none_iff, Option.map_eq_none_iff] at hnone
  exact h (Option.map_eq_none_iff.1 hnone.2.2.2)

def codeOpeners (d : Dialect) : List Text :=
  (d.nestedRegions.map (·.opener)).filter (· != "(".toList)

end Dialect

namespace Language

/-- template code is a hazard, raw or not -/
theorem mem_markers_of_mem_codeOpeners (language : Language) : ∀ opener ∈ language.dialect.codeOpeners,
    opener ∈ language.dialect.rawCodeMarkers ∨ opener ∈ language.dialect.unquotedMarkers := by
  cases language <;> decide +kernel

theorem unquoted_regions (language : Language) :
    Nesting.Unquoted (language.dialect.nestedRegions.flatMap fun region => [region.opener, region.closer]) := by
  cases language <;> decide

end Language

/-! ## The walk over a tag -/

namespace Scanner

variable {glue : Bool} {sc : Scanner} {text : Text} {t : Tag}

def steps (sc : Scanner) (text : Text) (t : Tag) : List Nesting.Step :=
  Nesting.steps sc.dialect.nestedRegions (text.drop (t.start + t.name.length + 1))

/-- **The steps of the walk over a tag are its attributes**, and quotes are apart in each of them. -/
theorem flatMap_steps (h : Readable glue sc)
    (hquotes : Nesting.Unquoted (sc.dialect.nestedRegions.flatMap fun region => [region.opener, region.closer]))
    (ht : t ∈ sc.scan text) :
    (sc.steps text t).flatMap Nesting.Step.chars = t.attributes ∧ ∀ step ∈ sc.steps text t, step.Separate := by
  obtain ⟨front, rest, -, -, hdrop, -, -⟩ := exists_around ht
  have htag := tagAt?_of_mem_scan ht
  rw [hdrop] at htag
  obtain ⟨-, -, rest', hrest, hwalk⟩ := parts_of_tagAt? h htag
  obtain rfl : rest = rest' := List.tail_eq_of_cons_eq (List.append_cancel_left hrest)
  have hbehind : text.drop (t.start + t.name.length + 1) = t.attributes ++ '>' :: rest := by
    rw [Nat.add_assoc, ← List.drop_drop, hdrop, Tag.inner, List.cons_append, List.cons_append, List.drop_succ_cons,
      List.append_assoc, List.drop_left]
  have hcloses := h.dialect.regions.closes
  have hnone : Nesting.Closable [] := fun _ hm => absurd hm List.not_mem_nil
  rw [← Nesting.bodyFrom?_eq_tagEnd? hcloses hnone] at hwalk
  obtain ⟨body, hbody, hends⟩ := Option.map_eq_some_iff.1 hwalk
  have hattributes : body.attributes = t.attributes := by
    have hsplit := Nesting.bodyFrom?_eq_some hbody
    rw [(Prod.mk.inj hends).2] at hsplit
    exact (List.append_cancel_right hsplit).symm
  have hspec := Nesting.stepsFrom_spec hcloses hquotes hnone (fun _ hm => absurd hm List.not_mem_nil) hbody
  rw [hattributes] at hspec
  rw [steps, Nesting.steps, hbehind]
  exact hspec

/-- whether the walk over a tag enters a region of template code -/
def EntersCode (sc : Scanner) (text : Text) (t : Tag) : Prop :=
  ∃ opener ∈ sc.dialect.codeOpeners, .opener opener ∈ sc.steps text t

instance (sc : Scanner) (text : Text) (t : Tag) : Decidable (sc.EntersCode text t) := by
  unfold EntersCode; infer_instance

/-- whether the walk over a tag enters a region of template code that is raw, or that no span with a quote of its own kind
comes before -/
def EntersPlainly (sc : Scanner) (text : Text) (t : Tag) : Prop :=
  ∃ before opener after, sc.steps text t = before ++ .opener opener :: after ∧ opener ∈ sc.dialect.codeOpeners ∧
    (opener ∈ sc.dialect.rawCodeMarkers ∨ Nesting.NoEscapes before)

/-- a walk that enters a region of code, none of its spans holding a quote of its own kind, enters it plainly -/
theorem EntersCode.plainly (h : sc.EntersCode text t) (hplain : Nesting.NoEscapes (sc.steps text t)) :
    sc.EntersPlainly text t := by
  obtain ⟨opener, hopener, hmem⟩ := h
  obtain ⟨before, after, hsteps⟩ := List.append_of_mem hmem
  refine ⟨before, opener, after, hsteps, hopener, Or.inr ?_⟩
  intro quote content hspan
  exact hplain quote content (hsteps ▸ List.mem_append_left _ hspan)

/-- without a backslash in the tag, a walk that enters a region of code enters it plainly -/
theorem EntersCode.plainly_of_notMem (h : sc.EntersCode text t) (hreadable : Readable glue sc)
    (hquotes : Nesting.Unquoted (sc.dialect.nestedRegions.flatMap fun region => [region.opener, region.closer]))
    (ht : t ∈ sc.scan text) (hnone : '\\' ∉ t.attributes) : sc.EntersPlainly text t := by
  apply h.plainly
  intro quote content hspan hquote
  have hmem := Nesting.backslash_mem_of_span hspan hquote
  apply hnone
  rw [← (flatMap_steps hreadable hquotes ht).1]
  refine List.mem_flatMap.2 ⟨_, hspan, ?_⟩
  exact List.mem_cons_of_mem _ (List.mem_append_left _ hmem)

theorem notQuote_of_isOrdinary {p : Char} (h : isOrdinary p = true) :
    ∀ c ∈ ['"', '\''], Text.sameLetter p c = false := by
  have hquotes : ∀ c ∈ ['"', '\''], c.toNat < 128 ∧ AttributeName.isTail c = false := by decide
  exact fun c hc => sameLetter_of_isOrdinary h (hquotes c hc).1 (hquotes c hc).2

end Scanner

namespace Annotator

open Template

theorem foreign_quotes {s : Settings} (h : s.HasOrdinaryNames) : Scanner.Foreign (ofSettings s).scanner ['"', '\''] where
  component := fun p hp => Scanner.notQuote_of_isOrdinary (h _ List.mem_cons_self p hp)
  names := fun name hname p hp => Scanner.notQuote_of_isOrdinary (h name (List.mem_cons_of_mem _ hname) p hp)
  nameChars := by decide

theorem reason?_of_hazard {a : Annotator} {t : Tag} (h : a.settings.dialect.hazard? t.text ≠ none) : a.reason? t ≠ none := by
  rw [reason?]
  split_ifs
  · simp
  · split
    · simp
    · next hnone => exact absurd hnone h
  · split
    · simp
    · next hnone => exact absurd hnone h

/-- **A tag whose walk enters a region of code that is seen is left alone.** -/
theorem reason?_of_entered {s : Settings} (hnames : s.HasOrdinaryNames) {text : Text} {t : Tag}
    (ht : t ∈ (ofSettings s).scanner.scan text) (h : (ofSettings s).scanner.EntersPlainly text t) :
    (ofSettings s).reason? t ≠ none := by
  obtain ⟨before, opener, after, hsteps, hopener, hseen⟩ := h
  obtain ⟨hchars, hseparate⟩ := Scanner.flatMap_steps (readable_ofSettings hnames) s.language.unquoted_regions ht
  rw [hsteps] at hchars hseparate
  rw [List.flatMap_append, List.flatMap_cons] at hchars
  have hbefore : ∀ step ∈ before, step.Separate := fun step hm => hseparate step (List.mem_append_left _ hm)
  have hclear : ∀ c ∈ opener, Quote.isQuote c = false :=
    hseparate (.opener opener) (List.mem_append_right _ List.mem_cons_self)
  have hname : ∀ c ∈ '<' :: t.name, Quote.isQuote c = false := by
    intro c hc
    rcases List.mem_cons.1 hc with rfl | hc
    · decide
    · have hforeign := (foreign_quotes hnames).notMem_name (Scanner.tagAt?_of_mem_scan ht) c hc
      simp only [List.mem_cons, List.not_mem_nil, or_false, not_or] at hforeign
      simp [Quote.isQuote, hforeign]
  have htext : t.text = '<' :: t.name ++ (before.flatMap Nesting.Step.chars ++ (opener ++
      (after.flatMap Nesting.Step.chars ++ ['>']))) := by
    rw [Tag.text, ← hchars]
    simp [Nesting.Step.chars]
  have hhazard : (ofSettings s).settings.dialect.hazard? t.text ≠ none := by
    have hraw (hmem : opener ∈ s.dialect.rawCodeMarkers) : s.dialect.hazard? t.text ≠ none := by
      apply Dialect.hazard?_of_rawCode hmem
      rw [htext, ← List.append_assoc, ← List.append_assoc]
      exact Text.occursIn_append _ _ _
    rcases hseen with hmem | hplain
    · exact hraw hmem
    · rcases s.language.mem_markers_of_mem_codeOpeners opener hopener with hmem | hmem
      · exact hraw hmem
      · apply Dialect.hazard?_of_unquoted hmem
        rw [htext, Quote.blank_append hname, Nesting.blank_steps hbefore hplain, Quote.blank_append hclear,
          ← List.append_assoc, ← List.append_assoc]
        exact Text.occursIn_append _ _ _
  exact reason?_of_hazard hhazard

/-! ## Tags that are left alone -/

variable {a : Annotator} {templateId : Text} {templateId_ne : templateId ≠ []} {disk : Option Text} {source : Text}
  {glue : Bool} {t : Tag} {front rest output : Text}

variable (a templateId templateId_ne) in
/-- whether an output copies a piece of the source unchanged, with markers in front of it and behind it only -/
def Leaves (front piece rest output : Text) : Prop :=
  a.KeepsBlocks templateId templateId_ne [.text front, .code piece, .text rest] output

theorem inCode_piece {k : Nat} {piece : Text} : inCode 0 [.text front, .code piece, .text rest] k = true ↔
    brackets front ≤ k ∧ k < brackets front + brackets piece := by
  simp [inCode, Part.isCode, Part.chars]

theorem framed_text (t : Tag) : Framed t.text where
  first := ⟨'<', rfl, by decide, by decide⟩
  last := ⟨'>', by rw [t.text_eq_inner, List.getLast?_concat], by decide⟩

theorem brackets_text (t : Tag) : brackets t.text = brackets t.inner + 1 := by
  rw [t.text_eq_inner, brackets_append]
  rfl

/-- a pass marks no tag that ends in a tag that it leaves alone -/
theorem not_marksAt_left {buffer : Text} {pass : Pass} (ht : t ∈ a.scanner.scan buffer) (hreason : a.reason? t ≠ none)
    {k : Nat} (hlow : brackets (buffer.take t.start) ≤ k) (hhigh : k ≤ endOf 0 buffer t) : ¬a.MarksAt pass buffer k := by
  rintro ⟨u, hu, ⟨-, hnone⟩, rfl⟩
  obtain rfl := (Scanner.scan_placed a.scanner buffer).eq_of_endOf ht hu hlow hhigh
  exact hreason hnone

/-- **A pass copies a tag that it leaves alone**, and weaves what is around it by itself. -/
theorem passed_left {buffer : Text} (pass : Pass) (ht : t ∈ a.scanner.scan buffer) (hreason : a.reason? t ≠ none) :
    ∃ front rest, buffer = front ++ t.text ++ rest ∧ t.start = front.length ∧
      a.passed templateId templateId_ne disk buffer pass =
        weave (a.passSeams templateId templateId_ne disk pass buffer) front ++ t.text ++
          weave ((a.passSeams templateId templateId_ne disk pass buffer).drop (brackets front + brackets t.inner + 1)) rest := by
  obtain ⟨front, rest, hbuffer, hstart, htake, hend⟩ := Scanner.exists_text ht
  have hnone : ∀ k, brackets front ≤ k → k ≤ brackets front + brackets t.inner →
      a.passSeams templateId templateId_ne disk pass buffer k = none := by
    intro k hlow hhigh
    exact a.passSeams_eq_none.2 (not_marksAt_left ht hreason (htake ▸ hlow) (by omega))
  have hweave := weave_tag rest (show t.inner.head? = some '<' from rfl) fun k hlow hhigh => hnone k hlow (by omega)
  rw [hnone _ (Nat.le_add_right _ _) (Nat.le_refl _), sew_none, ← t.text_eq_inner, ← hbuffer] at hweave
  refine ⟨front, rest, hbuffer, hstart, ?_⟩
  rw [passed, hweave, t.text_eq_inner]
  simp

/-- **A run copies a tag of the source that is left alone** if and only if the second pass marks no tag that ends in it. -/
theorem leaves_iff (ht : t ∈ a.scanner.scan source) (hreason : a.reason? t ≠ none) (hsource : source = front ++ t.text ++ rest)
    (htake : source.take t.start = front) (hend : endOf 0 source t = brackets front + brackets t.inner) {kept : Text}
    (hweave : output = weave (a.allSeams templateId templateId_ne disk source) source)
    (hrun : Inserts (fun k => (a.marksAt templateId templateId_ne disk source k).map (a.piece templateId templateId_ne)) 0
      source output kept) :
    a.Leaves templateId templateId_ne front t.text rest output ↔
      (Pass.component ∈ a.passes → ∀ k, brackets front ≤ k → k ≤ endOf 0 source t →
        ¬a.MarksAt .component (a.bufferOf templateId templateId_ne disk source .component) k) := by
  have hchars : [Part.text front, .code t.text, .text rest].flatMap Part.chars = source := by
    rw [hsource]
    simp [Part.chars]
  have hframing : Framing [.text front, .code t.text, .text rest] :=
    ⟨by simp [Part.isCode], framed_text t, by simp, trivial⟩
  rw [Leaves, keepsBlocks_iff_of_framing hchars hframing hweave hrun]
  constructor
  · intro hcode hpass k hlow hhigh hmarks
    have hin : inCode 0 [.text front, .code t.text, .text rest] k = true := by
      rw [inCode_piece, brackets_text]
      omega
    rw [hcode .component hpass k hmarks] at hin
    exact absurd hin (by decide)
  · intro hnone pass hpass k hmarks
    rw [Bool.eq_false_iff]
    intro hin
    rw [inCode_piece, brackets_text] at hin
    cases pass with
    | plain => exact not_marksAt_left ht hreason (by rw [htake]; exact hin.1) (by omega) hmarks
    | component => exact hnone hpass k hin.1 (by omega) hmarks

/-- where the second pass keeps to the component tags of the source, a run copies every tag that is left alone -/
theorem leaves_of_keepsComponents (ht : t ∈ a.scanner.scan source) (hreason : a.reason? t ≠ none)
    (htake : source.take t.start = front) (hkeeps : a.KeepsComponents templateId templateId_ne disk source) {k : Nat}
    (hlow : brackets front ≤ k) (hhigh : k ≤ endOf 0 source t) :
    ¬a.MarksAt .component (a.bufferOf templateId templateId_ne disk source .component) k := by
  intro hmarks
  exact not_marksAt_left ht hreason (by rw [htake]; exact hlow) hhigh ((hkeeps k).1 hmarks).1

/-- **A tag with code outside quotes is left alone**, when the code is raw or no span before it holds a quote of its own
kind. Every pass that finds such a tag finds a reason to leave it alone, and copies it. A run copies such a tag of the
source if and only if its second pass marks no tag that ends in it; that is so in Jinja templates, and in all templates in
which the first pass marks no tag with a question mark right before its bracket. -/
theorem annotate_leaves_code {s : Settings} (hnames : s.HasOrdinaryNames) {templateId : Text}
    (templateId_ne : templateId ≠ []) (disk : Option Text) (source : Text) :
    (∀ buffer, ∀ pass, ∀ t ∈ (ofSettings s).scanner.scan buffer, (ofSettings s).scanner.EntersPlainly buffer t →
      (ofSettings s).reason? t ≠ none ∧ ∃ front rest front' rest', buffer = front ++ t.text ++ rest ∧
        t.start = front.length ∧
          (ofSettings s).passed templateId templateId_ne disk buffer pass = front' ++ t.text ++ rest') ∧
    ∃ r, (ofSettings s).annotate source templateId disk = .ok r ∧
      ∀ t ∈ (ofSettings s).scanner.scan source, (ofSettings s).scanner.EntersPlainly source t →
        ∃ front rest, source = front ++ t.text ++ rest ∧ t.start = front.length ∧
          ((ofSettings s).Leaves templateId templateId_ne front t.text rest r.output ↔
            (Pass.component ∈ (ofSettings s).passes → ∀ k, brackets front ≤ k → k ≤ endOf 0 source t →
              ¬(ofSettings s).MarksAt .component
                ((ofSettings s).bufferOf templateId templateId_ne disk source .component) k)) ∧
          (s.language = .jinja → (ofSettings s).Leaves templateId templateId_ne front t.text rest r.output) ∧
          ((∀ t ∈ (ofSettings s).scanner.scan source, (ofSettings s).Marks .plain t → t.inner.getLast? ≠ some '?') →
            (ofSettings s).Leaves templateId templateId_ne front t.text rest r.output) := by
  have hreadable := readable_ofSettings hnames
  refine ⟨fun buffer pass t ht henters => ?_, ?_⟩
  · have hreason := reason?_of_entered hnames ht henters
    obtain ⟨front, rest, hbuffer, hstart, hpassed⟩ :
        ∃ front rest, buffer = front ++ t.text ++ rest ∧ t.start = front.length ∧
          (ofSettings s).passed templateId templateId_ne disk buffer pass = _ := passed_left pass ht hreason
    exact ⟨hreason, front, rest, _, _, hbuffer, hstart, hpassed⟩
  · obtain ⟨r, kept, hannotate, hweave, hrun⟩ := (ofSettings s).annotate_marksAt templateId templateId_ne disk source
    refine ⟨r, hannotate, fun t ht henters => ?_⟩
    have hreason := reason?_of_entered hnames ht henters
    obtain ⟨front, rest, hsource, hstart, htake, hend⟩ := Scanner.exists_text ht
    have hiff := leaves_iff ht hreason hsource htake hend hweave hrun
    have hleaves (hkeeps : (ofSettings s).KeepsComponents templateId templateId_ne disk source) :
        (ofSettings s).Leaves templateId templateId_ne front t.text rest r.output :=
      hiff.2 fun _ k hlow hhigh => leaves_of_keepsComponents ht hreason htake hkeeps hlow hhigh
    refine ⟨front, rest, hsource, hstart, hiff, fun hjinja => hleaves ?_, fun hcode => hleaves ?_⟩
    · refine keepsComponents hreadable s.language.tidy ?_
      intro hglue
      rw [hjinja] at hglue
      exact absurd hglue (by decide)
    · exact keepsComponents hreadable s.language.tidy fun _ => hcode

theorem annotate_leaves_code_home : Settings.standard.HasOrdinaryNames ∧ "home".toList ≠ [] ∧
    ∃ r, (ofSettings .standard).annotate "<div \x7b\x7b $x \x7d\x7d><p>".toList "home".toList none = .ok r ∧
      (ofSettings .standard).Leaves "home".toList (by decide) [] "<div \x7b\x7b $x \x7d\x7d>".toList "<p>".toList r.output := by
  have hnames : Settings.standard.HasOrdinaryNames := by decide +kernel
  obtain ⟨-, r, hrun, hleaves⟩ := annotate_leaves_code hnames (show "home".toList ≠ [] by decide) none
    "<div \x7b\x7b $x \x7d\x7d><p>".toList
  have htag : ⟨"div".toList, " \x7b\x7b $x \x7d\x7d".toList, 0, false⟩ ∈
      (ofSettings .standard).scanner.scan "<div \x7b\x7b $x \x7d\x7d><p>".toList := by decide +kernel
  have henters : (ofSettings .standard).scanner.EntersCode "<div \x7b\x7b $x \x7d\x7d><p>".toList
      ⟨"div".toList, " \x7b\x7b $x \x7d\x7d".toList, 0, false⟩ := by decide +kernel
  have hcode : ∀ t ∈ (ofSettings .standard).scanner.scan "<div \x7b\x7b $x \x7d\x7d><p>".toList,
      t.inner.getLast? ≠ some '?' := by decide +kernel
  have hplainly := henters.plainly_of_notMem (readable_ofSettings hnames) Language.blade.unquoted_regions htag (by decide)
  obtain ⟨front, rest, hsource, hstart, -, -, hkept⟩ := hleaves _ htag hplainly
  obtain rfl : front = [] := List.length_eq_zero_iff.1 hstart.symm
  obtain rfl : rest = "<p>".toList := by
    rw [List.nil_append] at hsource
    exact List.append_cancel_left (hsource.symm.trans (by decide))
  exact ⟨hnames, by decide, r, hrun, hkept fun t ht _ => hcode t ht⟩

/-- a tag that the first pass marks is not left as it is -/
theorem exists_marked {s : Settings} {templateId : Text} (templateId_ne : templateId ≠ []) (disk : Option Text)
    {source : Text} {t : Tag} (hmarks : (ofSettings s).MarksAt .plain source (brackets t.inner)) (hsource : source = t.text) :
    ∃ r, (ofSettings s).annotate source templateId disk = .ok r ∧
      ¬(ofSettings s).Leaves templateId templateId_ne [] t.text [] r.output := by
  obtain ⟨r, kept, hannotate, hweave, hrun⟩ := (ofSettings s).annotate_marksAt templateId templateId_ne disk source
  refine ⟨r, hannotate, ?_⟩
  intro hleaves
  have hchars : [Part.text [], .code t.text, .text []].flatMap Part.chars = source := by
    rw [hsource]
    simp [Part.chars]
  have hframing : Framing [.text [], .code t.text, .text []] :=
    ⟨by simp [Part.isCode], framed_text t, by simp, trivial⟩
  have hin : inCode 0 [.text [], .code t.text, .text []] (brackets t.inner) = true := by
    rw [inCode_piece, brackets_text, brackets_nil]
    omega
  have hnone := (keepsBlocks_iff_of_framing hchars hframing hweave hrun).1 hleaves .plain
    (plain_mem_passes (ofSettings s)) _ hmarks
  rw [hnone] at hin
  exact absurd hin (by decide)

/-- a tag with a region of code between two spans that each hold an escaped quote -/
def escapedQuotes : Tag where
  name := "div".toList
  attributes := " ( \"\\\"\" \x7b\x7b x \x7d\x7d \"\\\"\" )".toList
  start := 0
  nestedGt := false

/-- in both languages blanking takes the region for the content of a quoted span, and the tag gets a marker -/
theorem annotate_marks_code :
    (escapedQuotes ∈ (ofSettings .standard).scanner.scan escapedQuotes.text ∧
      (ofSettings .standard).scanner.EntersCode escapedQuotes.text escapedQuotes ∧
      (ofSettings .standard).reason? escapedQuotes = none ∧
      ∃ r, (ofSettings .standard).annotate escapedQuotes.text "t".toList none = .ok r ∧
        ¬(ofSettings .standard).Leaves "t".toList (by decide) [] escapedQuotes.text [] r.output) ∧
    escapedQuotes ∈ (ofSettings { language := .jinja }).scanner.scan escapedQuotes.text ∧
      (ofSettings { language := .jinja }).scanner.EntersCode escapedQuotes.text escapedQuotes ∧
      (ofSettings { language := .jinja }).reason? escapedQuotes = none ∧
      ∃ r, (ofSettings { language := .jinja }).annotate escapedQuotes.text "t".toList none = .ok r ∧
        ¬(ofSettings { language := .jinja }).Leaves "t".toList (by decide) [] escapedQuotes.text [] r.output := by
  have hblade : (ofSettings .standard).MarksAt .plain escapedQuotes.text 0 := by decide +kernel
  have hjinja : (ofSettings { language := .jinja }).MarksAt .plain escapedQuotes.text 0 := by decide +kernel
  refine ⟨⟨by decide +kernel, by decide +kernel, by decide +kernel, ?_⟩, by decide +kernel, by decide +kernel,
    by decide +kernel, ?_⟩
  · exact exists_marked (by decide) none hblade rfl
  · exact exists_marked (by decide) none hjinja rfl

end Annotator

end SourceMark
