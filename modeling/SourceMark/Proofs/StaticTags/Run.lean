/-
Static tags in a run. The scanner finds a static tag, no hazard keeps the annotator from marking it, and just one pass
selects its name. With the marker the tag is a static tag with one more attribute, so a later pass finds that tag again and
passes over it.

Results:
- `selects_static`: one pass selects the name of a static tag, and no other.
- `insert_static`: a marked static tag is the static tag with one more attribute.
- `annotate_static`: every static tag is found and marked, with one marker.
-/
import SourceMark.Proofs.StaticTags.Hazards

namespace SourceMark

/-! ## The marked tag -/

/-- a text that ends in a character at which trimming stops -/
def EndsFirm (text : Text) : Prop :=
  ∃ c, text.getLast? = some c ∧ Text.isFirm c = true

theorem EndsFirm.append {text : Text} (h : EndsFirm text) (front : Text) : EndsFirm (front ++ text) := by
  obtain ⟨c, hc, hfirm⟩ := h
  exact ⟨c, by rw [List.getLast?_append, hc]; rfl, hfirm⟩

theorem isFirm_of_isTail {c : Char} (h : AttributeName.isTail c = true) : Text.isFirm c = true := by
  refine Text.isFirm_iff.2 ⟨Text.isBlank_of_isTail h, ?_⟩
  rintro rfl
  exact absurd h (by decide)

theorem EndsFirm.of_isTail {name : Text} (hne : name ≠ []) (h : ∀ c ∈ name, AttributeName.isTail c = true) :
    EndsFirm name :=
  ⟨name.getLast hne, List.getLast?_eq_some_getLast hne, isFirm_of_isTail (h _ (List.getLast_mem hne))⟩

theorem StaticAttribute.endsFirm (a : StaticAttribute) : EndsFirm a.text := by
  cases a with
  | bare name isName =>
    rw [text, lead, quoted, List.append_nil]
    exact .of_isTail isName.1.ne_nil fun c hc => isName.isTail hc
  | valued atSign name quote value isName isQuote quote_notMem =>
    have hspan : EndsFirm (quote :: (value ++ [quote])) :=
      ⟨quote, by rw [← List.cons_append, List.getLast?_concat], isFirm_of_isQuote isQuote⟩
    exact hspan.append _

namespace StaticTag

theorem endsFirm_written (attributes : List (Gap × StaticAttribute)) {front : Text} (h : EndsFirm front) :
    EndsFirm (front ++ written attributes) := by
  induction attributes generalizing front with
  | nil => rwa [written, List.flatMap_nil, List.append_nil]
  | cons a attributes ih =>
    rw [written_cons, ← List.append_assoc, ← List.append_assoc]
    exact ih (a.2.endsFirm.append _)

def markerGap (t : StaticTag) : Gap :=
  ⟨Text.dropEnd Text.isHorizontalBlank t.blanks ++ [' '], by simp, by
    obtain ⟨gap, hgap, -⟩ := Text.exists_gap Text.isHorizontalBlank t.blanks
    intro c hc
    rcases List.mem_append.1 hc with hc | hc
    · exact t.isBlank_blanks c (hgap ▸ List.mem_append_left gap hc)
    · rw [List.mem_singleton.1 hc]
      decide⟩

def marker (r : Reference) : StaticAttribute :=
  .valued false "data-source".toList '"' r.token
    ⟨⟨'d', "ata-source".toList, rfl, by decide, by decide⟩, by decide⟩ (by decide)
    fun hmem => absurd (Marker.isQuiet_of_mem_token hmem) (by decide)

def marked (t : StaticTag) (r : Reference) : StaticTag where
  name := t.name
  attributes := t.attributes ++ [(t.markerGap, marker r)]
  blanks := if t.closed then [' '] else []
  closed := t.closed
  isTargetName := t.isTargetName
  isBlank_blanks := by
    intro c hc
    split_ifs at hc
    · rw [List.mem_singleton.1 hc]
      decide
    · exact absurd hc List.not_mem_nil

theorem text_marker (r : Reference) : (marker r).text = Marker.text "data-source".toList r.token := by
  simp [marker, StaticAttribute.text, StaticAttribute.lead, StaticAttribute.quoted, Marker.text]

theorem seam_ending (t : StaticTag) (inserted : Text) : seam inserted t.ending =
    Text.dropEnd Text.isHorizontalBlank t.blanks ++ inserted ++ if t.closed then " /".toList else [] := by
  rw [ending]
  cases t.closed with
  | true => exact seam_append_slash fun c hc => absurd hc List.not_mem_nil
  | false =>
    have hslash : closesItself t.blanks = false := by
      rw [← Bool.not_eq_true]
      intro h
      obtain ⟨body, mid, hbody, -⟩ := exists_slash h
      have := t.isBlank_blanks '/' (hbody ▸ List.mem_append_right body List.mem_cons_self)
      exact absurd this (by decide)
    simp [seam, hslash]

/-- **A marked static tag** is the static tag with one more attribute. -/
theorem insert_static (t : StaticTag) (r : Reference) :
    Marker.insert (Marker.text "data-source".toList r.token) t.tag = (t.marked r).text := by
  have hfirm : EndsFirm ('<' :: t.name ++ written t.attributes) := by
    have hname : EndsFirm t.name := .of_isTail t.isTargetName.ne_nil t.isTargetName.isTail
    exact endsFirm_written t.attributes (hname.append ['<'])
  have hborder : Border ('<' :: t.name ++ written t.attributes) t.ending := by
    obtain ⟨c, hc, hfirm⟩ := hfirm
    left
    intro d hd
    rw [hc, Option.some.injEq] at hd
    exact hd ▸ hfirm
  have hinner : t.tag.inner = '<' :: t.name ++ written t.attributes ++ t.ending := by
    simp [Tag.inner, tag]
  rw [Marker.insert_eq_seam, hinner, seam_append hborder, seam_ending, text_eq, ← text_marker]
  cases hclosed : t.closed <;> simp [marked, written, ending, markerGap, hclosed]

end StaticTag

/-! ## The passes -/

namespace Annotator

/-- **One pass selects the name** of a static tag, and no other. -/
theorem selects_static {name : Text} (h : IsTargetName name) :
    ∃ pass, ∀ other, (ofSettings .standard).selects other name = decide (other = pass) := by
  have hlower : Text.lower name = name.map Char.toLower :=
    Text.lower_eq_map fun c hc => Text.ascii_of_isTail (h.isTail c hc)
  have hplain : (ofSettings .standard).isPlain name = defaultTags.contains (name.map Char.toLower) :=
    congrArg defaultTags.contains hlower
  have htail := h.isTail
  rcases h with htag | ⟨rest, rfl, hne, hrest⟩
  · refine ⟨.plain, fun other => ?_⟩
    have hdrop : Scanner.dropLetters? "x-".toList name = none := by
      rw [Option.eq_none_iff_forall_ne_some]
      intro r hr
      refine Scanner.prefix_notMem_defaultTags _ htag ?_
      exact Scanner.prefix_of_dropLetters? (by decide) (fun c hc => Text.ascii_of_isTail (htail c hc)) hr
    have hcomponent : (ofSettings .standard).isComponent name = false := by
      show (Scanner.dropLetters? "x-".toList name).any _ = false
      rw [hdrop]
      rfl
    cases other with
    | plain => exact hplain.trans (List.contains_iff_mem.2 htag)
    | component => exact hcomponent
  · refine ⟨.component, fun other => ?_⟩
    have hcomponent : (ofSettings .standard).isComponent ("x-".toList ++ rest) = true := by
      show (Scanner.dropLetters? "x-".toList ("x-".toList ++ rest)).any _ = true
      rw [show Scanner.dropLetters? "x-".toList ("x-".toList ++ rest) = some rest from
        Scanner.dropHeadBy?_self Text.sameLetter_self _ _]
      have hall : rest.all Dialect.isNameChar = true :=
        List.all_eq_true.2 fun c hc => Scanner.isNameChar_of_isTail (hrest c hc)
      simp [hne, hall]
    have hnot : ("x-".toList ++ rest).map Char.toLower ∉ defaultTags := by
      intro htag
      refine Scanner.prefix_notMem_defaultTags _ htag ?_
      rw [List.map_append]
      exact List.prefix_append _ _
    cases other with
    | plain => exact hplain.trans (by simpa using hnot)
    | component => exact hcomponent

variable {t : StaticTag} {pass : Pass}

theorem candidates_static (t : StaticTag) (pass : Pass) (disk : Option Text) :
    (ofSettings .standard).candidates pass t.text disk =
      if (ofSettings .standard).selects pass t.name then [(ofSettings .standard).candidate t.text disk t.tag] else [] := by
  have hname : t.tag.name = t.name := rfl
  rw [candidates, t.scan_static, List.filter_singleton, hname, Bool.cond_eq_ite]
  split_ifs <;> rfl

theorem reason?_static (hvalues : ∀ value ∈ StaticTag.values t.attributes, ¬"<?php".toList <:+: value ∧
    ¬"<?=".toList <:+: value) (hunmarked : ¬"data-source".toList <:+: t.tag.attributes) :
    (ofSettings .standard).reason? t.tag = none := by
  have hname : Text.occursIn (ofSettings .standard).settings.attributeName t.tag.attributes = false := by
    rw [← Bool.not_eq_true, Text.occursIn_iff]
    exact hunmarked
  have hraw : ∀ value ∈ StaticTag.values t.attributes, ∀ marker ∈ Language.bladeDialect.rawCodeMarkers,
      ¬marker <:+: value := by
    intro value hvalue marker hmarker
    rcases List.mem_pair.1 hmarker with rfl | rfl
    · exact (hvalues value hvalue).1
    · exact (hvalues value hvalue).2
  have hhazard : (ofSettings .standard).settings.dialect.hazard? t.tag.text = none := StaticTag.hazard?_static hraw
  rw [reason?, hname, if_neg (by decide)]
  simp only [hhazard]
  rfl

/-- a pass that does not select the name of a static tag leaves it as it is -/
theorem step_static_other (t : StaticTag) {templateId : Text} (templateId_ne : templateId ≠ []) (disk : Option Text)
    (h : (ofSettings .standard).selects pass t.name = false) (marked skipped : Nat) (events : List Event) :
    Progress.step (ofSettings .standard) templateId templateId_ne disk ⟨t.text, marked, skipped, events⟩ pass =
      ⟨t.text, marked, skipped, events⟩ := by
  have hnone : (ofSettings .standard).candidates pass t.text disk = [] := by
    rw [candidates_static, h]
    rfl
  simp [Progress.step, hnone, splice]

/-- the reference in the marker of a static tag -/
def referenceOf (t : StaticTag) {templateId : Text} (templateId_ne : templateId ≠ []) (disk : Option Text) : Reference :=
  let c := (ofSettings .standard).candidate t.text disk t.tag
  ⟨templateId, c.line, templateId_ne, c.line_pos⟩

theorem step_static_own (t : StaticTag) {templateId : Text} (templateId_ne : templateId ≠ []) (disk : Option Text)
    (h : (ofSettings .standard).selects pass t.name = true) (hreason : (ofSettings .standard).reason? t.tag = none)
    (marked skipped : Nat) (events : List Event) :
    Progress.step (ofSettings .standard) templateId templateId_ne disk ⟨t.text, marked, skipped, events⟩ pass =
      ⟨(t.marked (referenceOf t templateId_ne disk)).text, marked + 1, skipped, events⟩ := by
  set c := (ofSettings .standard).candidate t.text disk t.tag with hc
  have hone : (ofSettings .standard).candidates pass t.text disk = [c] := by
    rw [candidates_static, h, if_pos rfl]
  have hnone : c.reason = none := hreason
  have heligible : c.isEligible = true := by rw [Candidate.isEligible, hnone]; rfl
  have hevent : c.event? = none := by rw [Candidate.event?, hnone]; rfl
  have hstop : c.tag.stop - 0 = t.text.length := Nat.zero_add _
  have hmark : (ofSettings .standard).mark templateId templateId_ne c =
      (t.marked (referenceOf t templateId_ne disk)).text := t.insert_static _
  have hsplice : (ofSettings .standard).splice templateId templateId_ne 0 t.text [c] =
      (t.marked (referenceOf t templateId_ne disk)).text := by
    rw [splice, if_pos heligible, hmark, hstop, List.drop_length, splice, List.append_nil]
    rfl
  simp [Progress.step, hone, hsplice, heligible, hevent]

/-- **Every static tag is marked.** Unless a value holds raw code or the marker's attribute is there already, a preview of
the tag lists that tag alone, it is eligible, and a run writes one marker into it: the outcome is the static tag with one
more attribute, and one tag was marked and none left alone. -/
theorem annotate_static (t : StaticTag)
    (hvalues : ∀ value ∈ StaticTag.values t.attributes, ¬"<?php".toList <:+: value ∧ ¬"<?=".toList <:+: value)
    (hunmarked : ¬"data-source".toList <:+: t.tag.attributes) {templateId : Text} (templateId_ne : templateId ≠ [])
    (disk : Option Text) :
    ∃ c, (ofSettings .standard).preview t.text disk = [c] ∧ c.tag.start = 0 ∧ c.tag.text = t.text ∧
      c.isEligible = true ∧
      (ofSettings .standard).annotate t.text templateId disk =
        .ok ⟨(t.marked ⟨templateId, c.line, templateId_ne, c.line_pos⟩).text, [.finished templateId 1 0]⟩ := by
  have hreason := reason?_static hvalues hunmarked
  have hpasses : (ofSettings .standard).passes = [.plain, .component] := rfl
  obtain ⟨own, hown⟩ := selects_static t.isTargetName
  have hself : (ofSettings .standard).selects own t.name = true := by rw [hown, decide_eq_true rfl]
  have hothers {other : Pass} (hne : other ≠ own) : (ofSettings .standard).selects other t.name = false := by
    rw [hown, decide_eq_false hne]
  refine ⟨(ofSettings .standard).candidate t.text disk t.tag, ?_, rfl, rfl, ?_, ?_⟩
  · rw [preview, hpasses]
    cases own with
    | plain => simp [candidates_static, hself, hothers (show Pass.component ≠ .plain by decide)]
    | component => simp [candidates_static, hself, hothers (show Pass.plain ≠ .component by decide)]
  · show (ofSettings .standard).reason? t.tag |>.isNone
    rw [hreason]
    rfl
  · have hmarked (other : Pass) : (ofSettings .standard).selects other (t.marked (referenceOf t templateId_ne disk)).name =
        (ofSettings .standard).selects other t.name := rfl
    rw [annotate, dif_pos templateId_ne, hpasses]
    cases own with
    | plain =>
      have hcomponent := hothers (show Pass.component ≠ .plain by decide)
      simp only [List.foldl_cons, List.foldl_nil, step_static_own t templateId_ne disk hself hreason,
        step_static_other (t.marked _) templateId_ne disk ((hmarked _).trans hcomponent)]
      rfl
    | component =>
      have hplain := hothers (show Pass.plain ≠ .component by decide)
      simp only [List.foldl_cons, List.foldl_nil, step_static_other t templateId_ne disk hplain,
        step_static_own t templateId_ne disk hself hreason]
      rfl

/-- a tag over two lines, with handlers that are named like directives, and with brackets and an echo in values -/
def handlersTag : StaticTag where
  name := "DIV".toList
  attributes :=
    let newline : Gap := ⟨['\n', ' '], by decide⟩
    let blank : Gap := ⟨[' '], by decide⟩
    [(newline, .valued true "if".toList '"' "a > \x7b\x7b $b \x7d\x7d".toList
        ⟨⟨'i', ['f'], rfl, by decide, by decide⟩, by decide⟩ (by decide) (by decide)),
      (blank, .valued true "error".toList '\'' "show(\"<p>\")".toList
        ⟨⟨'e', "rror".toList, rfl, by decide, by decide⟩, by decide⟩ (by decide) (by decide)),
      (blank, .bare "x-cloak".toList ⟨⟨'x', "-cloak".toList, rfl, by decide, by decide⟩, by decide⟩)]
  blanks := [' ']
  closed := true
  isTargetName := Or.inl (by decide)
  isBlank_blanks := by decide

theorem annotate_static_handlers :
    handlersTag.text = "<DIV\n @if=\"a > \x7b\x7b $b \x7d\x7d\" @error='show(\"<p>\")' x-cloak />".toList ∧
      (∀ value ∈ StaticTag.values handlersTag.attributes, ¬"<?php".toList <:+: value ∧ ¬"<?=".toList <:+: value) ∧
      ¬"data-source".toList <:+: handlersTag.tag.attributes ∧ "card".toList ≠ [] ∧
      ∃ c, (ofSettings .standard).preview handlersTag.text none = [c] ∧ c.tag.start = 0 ∧
        c.tag.text = handlersTag.text ∧ c.isEligible = true ∧
        (ofSettings .standard).annotate handlersTag.text "card".toList none =
          .ok ⟨(handlersTag.marked ⟨"card".toList, c.line, by decide, c.line_pos⟩).text,
            [.finished "card".toList 1 0]⟩ := by
  have hvalues : ∀ value ∈ StaticTag.values handlersTag.attributes, ¬"<?php".toList <:+: value ∧
      ¬"<?=".toList <:+: value := by decide +kernel
  have hunmarked : ¬"data-source".toList <:+: handlersTag.tag.attributes := by decide +kernel
  exact ⟨rfl, hvalues, hunmarked, by decide, annotate_static handlersTag hvalues hunmarked (by decide) none⟩

end Annotator

end SourceMark
