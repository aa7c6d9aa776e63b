/-
Template code in a tag, as the annotator takes it. The scanner and the hazards of a tag are two readings of template code,
in different letters and by different delimiters. They agree on echoes, inline code and raw-text elements, and on
directive calls that are spelled as in the table. Between them fall calls in other letters, blocks between directives and
comments.

Results:
- `directive_of_overlooked`: a fragment that is no hazard is a directive, in other letters or with more behind it.
- `block_of_invaded`: a fragment with a tag in it is a comment or a block between two directives.
- `annotate_eq_source_iff`: a run leaves a text as it is if and only if no pass finds a tag to mark in it.
- `annotate_tagWith_iff`: which tags with template code in them are left unchanged.
- `annotate_marks_capitals`, `annotate_marks_blocks`: fragments of each of these kinds whose tags are changed.
-/
import SourceMark.Proofs.CodeRegions
import SourceMark.Proofs.Idempotence
import SourceMark.Proofs.TagCode.Scan

namespace SourceMark

/-! ## Hazards behind the name of the tag -/

namespace Dialect

theorem longest?_ne_none {test : Text → Bool} {texts : List Text} {text : Text} (hmem : text ∈ texts)
    (htest : test text = true) : longest? test texts ≠ none := by
  have step (texts : List Text) (best : Option Text) (h : best ≠ none ∨ text ∈ texts) :
      texts.foldl (fun best text =>
        if test text && best.all fun other => other.length < text.length then some text else best) best ≠ none := by
    induction texts generalizing best with
    | nil => exact h.resolve_right List.not_mem_nil
    | cons first texts ih =>
      apply ih
      by_cases hbest : best = none
      · rcases List.mem_cons.1 (h.resolve_left fun hne => hne hbest) with rfl | hmem
        · exact Or.inl (by simp [hbest, htest])
        · exact Or.inr hmem
      · refine Or.inl ?_
        dsimp only
        split_ifs
        · simp
        · exact hbest
  exact step texts none (Or.inr hmem)

theorem findDirective?_append {d : Dialect} {before : Option Char} (front : Text) {text : Text}
    (h : d.directiveAt? (· == ·) wordEnds (front.getLast?.or before) text ≠ none) :
    d.findDirective? before (front ++ text) ≠ none := by
  induction front generalizing before with
  | nil =>
    cases text with
    | nil => exact h
    | cons c rest =>
      rw [List.nil_append, findDirective?, Ne, Option.or_eq_none_iff]
      exact fun hnone => h hnone.1
  | cons c front ih =>
    rw [List.cons_append, findDirective?, Ne, Option.or_eq_none_iff]
    refine fun hnone => ih ?_ hnone.2
    rwa [List.getLast?_cons, Option.some_or, show some (front.getLast?.getD c) = front.getLast?.or (some c) by
      cases front.getLast? <;> rfl] at h

end Dialect

namespace Annotator

open SourceMark.Language Scanner

variable {fragment : Text} {t : Tag}

/-- the tag goes on behind a front of its text in which it does not end -/
theorem exists_behind (ht : (ofSettings .standard).scanner.tagAt? 0 (tagWith fragment) = some (.tag t))
    {front rest : Text} (hfront : '>' ∉ front) (htext : tagWith fragment = front ++ rest) :
    ∃ behind, t.text = front ++ behind ∧ behind.head? = rest.head? := by
  have hclose : '>' ∈ t.text := by simp [Tag.text]
  have hprefix := (text_eq_of_tagAt? ht).2
  rcases List.prefix_or_prefix_of_prefix hprefix ⟨rest, htext.symm⟩ with hshort | ⟨behind, hbehind⟩
  · exact absurd (hshort.subset hclose) hfront
  · refine ⟨behind, hbehind.symm, ?_⟩
    rw [htext, ← hbehind] at hprefix
    obtain ⟨c, more, rfl⟩ : ∃ c more, behind = c :: more := by
      cases behind with
      | nil =>
        rw [List.append_nil] at hbehind
        exact absurd (hbehind ▸ hclose) hfront
      | cons c more => exact ⟨c, more, rfl⟩
    obtain ⟨tail, htail⟩ := (List.prefix_append_right_inj front).1 hprefix
    rw [← htail]
    rfl

theorem hazard?_of_block {block : Delimiters} (hblock : block ∈ bladeDialect.codeBlocks) {rest : Text}
    (ht : (ofSettings .standard).scanner.tagAt? 0 (tagWith (block.opener ++ rest)) = some (.tag t)) :
    bladeDialect.hazard? t.text ≠ none := by
  have hopeners : ∀ block ∈ bladeDialect.codeBlocks,
      (∀ c ∈ "<div ".toList ++ block.opener, Quote.isQuote c = false ∧ c ≠ '>') ∧
      ((∃ marker ∈ bladeDialect.rawCodeMarkers, marker.isPrefixOf block.opener = true) ∨
        ∃ marker ∈ bladeDialect.unquotedMarkers, marker.isPrefixOf block.opener = true) := by
    decide
  obtain ⟨hchars, hmarker⟩ := hopeners block hblock
  obtain ⟨behind, hbehind, -⟩ := exists_behind ht (fun hm => (hchars _ hm).2 rfl) (tagWith_append block.opener rest)
  rcases hmarker with ⟨marker, hmem, hhead⟩ | ⟨marker, hmem, hhead⟩ <;>
    obtain ⟨tail, htail⟩ := List.isPrefixOf_iff_prefix.1 hhead
  · apply Dialect.hazard?_of_rawCode hmem
    rw [hbehind, ← htail, ← List.append_assoc, List.append_assoc]
    exact Text.occursIn_append _ _ _
  · apply Dialect.hazard?_of_unquoted hmem
    rw [hbehind, Quote.blank_append fun c hc => (hchars c hc).1, ← htail, ← List.append_assoc, List.append_assoc]
    exact Text.occursIn_append _ _ _

theorem directiveAt?_word {before : Option Char} (hbefore : Dialect.startsWord before = true) {word rest : Text}
    (hword : word ∈ bladeDialect.directiveKeywords) (hends : Dialect.wordEnds rest = true) :
    bladeDialect.directiveAt? (· == ·) Dialect.wordEnds before ('@' :: (word ++ rest)) ≠ none := by
  have hhead : bladeDialect.directiveHead? = some ['@'] := rfl
  have hat : Text.dropHeadBy? (· == ·) ['@'] ('@' :: (word ++ rest)) = some (word ++ rest) :=
    dropHeadBy?_self (fun c => beq_self_eq_true c) ['@'] (word ++ rest)
  simp only [Dialect.directiveAt?, hhead, if_pos hbefore, hat, Ne, Option.map_eq_none_iff]
  apply Dialect.longest?_ne_none hword
  rw [dropHeadBy?_self (fun c => beq_self_eq_true c), Option.any_some, hends]

theorem hazard?_of_directiveAt? {name : Text}
    (h : bladeDialect.directiveAt? (· == ·) Dialect.wordEnds none fragment = some name)
    (ht : (ofSettings .standard).scanner.tagAt? 0 (tagWith fragment) = some (.tag t)) :
    bladeDialect.hazard? t.text ≠ none := by
  obtain ⟨word, hword, u, rest, rfl, -, hu, hends⟩ := exists_word (fun c hc => (beq_iff_eq.1 hc).symm) h
  obtain rfl : word = u := by
    have heq := hu.imp fun _ _ => beq_iff_eq.1
    rwa [List.forall₂_eq_eq_eq] at heq
  have hfront : ∀ c ∈ "<div @".toList ++ word, Quote.isQuote c = false ∧ c ≠ '>' := by
    intro c hc
    rcases List.mem_append.1 hc with hc | hc
    · exact (show ∀ c ∈ "<div @".toList, Quote.isQuote c = false ∧ c ≠ '>' by decide) c hc
    · have hself : List.Forall₂ (fun p c => Text.sameLetter p c = true) word word :=
        List.forall₂_same.2 fun c _ => Text.sameLetter_self c
      obtain ⟨hquote, -, hclose, -⟩ := plain_of_isInert (isInert_of_word hword hself c hc)
      exact ⟨hquote, hclose⟩
  obtain ⟨behind, hbehind, hhead⟩ := exists_behind ht (fun hm => (hfront _ hm).2 rfl) (tagWith_append ('@' :: word) rest)
  have hends' : Dialect.wordEnds (Quote.blank behind) = true := by
    rw [Dialect.wordEnds, Quote.head?_blank, hhead, ← Dialect.wordEnds, wordEnds_bracket, hends]
  apply Dialect.hazard?_of_directive
  rw [hbehind, Quote.blank_append fun c hc => (hfront c hc).1]
  exact Dialect.findDirective?_append "<div ".toList (directiveAt?_word (by decide) hword hends')

/-! ## Which fragments are overlooked, and which end the tag -/

/-- whether the tag with a fragment is read and no reason is found to leave it alone -/
def Overlooked (fragment : Text) : Prop :=
  ∃ t, (ofSettings .standard).scanner.tagAt? 0 (tagWith fragment) = some (.tag t) ∧
    (ofSettings .standard).reason? t = none

/-- whether a pass marks a tag that begins inside a fragment -/
def Invaded (fragment : Text) : Prop :=
  ∃ pass ∈ (ofSettings .standard).passes, ∃ t ∈ (ofSettings .standard).scanner.scan (tagWith fragment),
    0 < t.start ∧ (ofSettings .standard).Marks pass t

theorem head?_of_behindWord? {before : Option Char} {rest : Text}
    (h : behindWord? bladeCodeDirectives.opener before fragment = some rest) : fragment.head? = some '@' := by
  unfold behindWord? at h
  split_ifs at h
  obtain ⟨u, rfl, hu⟩ := exists_recognised (Option.filter_eq_some_iff.1 h).1
  rw [show bladeCodeDirectives.opener = '@' :: "php".toList from rfl, List.forall₂_cons_left_iff] at hu
  obtain ⟨c, more, hc, -, rfl⟩ := hu
  exact congrArg some (Woven.exact_sameLetter '@' (by decide) c hc)

theorem walk?_of_tagAt? (ht : (ofSettings .standard).scanner.tagAt? 0 (tagWith fragment) = some (.tag t)) :
    ∃ body, walk? fragment = some body ∧ tagOf body = t := by
  rw [tagAt?_tagWith, Option.some.injEq] at ht
  cases hwalk : walk? fragment with
  | some body =>
    rw [hwalk] at ht
    exact ⟨body, rfl, Reading.tag.inj ht⟩
  | none =>
    rw [hwalk] at ht
    exact absurd ht (by simp)

/-- **Only directives are overlooked**, and only those that are not spelled as in the table or go on like a name. -/
theorem directive_of_overlooked (h : StepsOver bladeDialect fragment) (hoverlooked : Overlooked fragment) :
    fragment.head? = some '@' ∧ bladeDialect.directiveAt? (· == ·) Dialect.wordEnds none fragment = none := by
  obtain ⟨t, ht, hreason⟩ := hoverlooked
  have hnone {P : Prop} (hhazard : bladeDialect.hazard? t.text ≠ none) : P :=
    absurd hreason (reason?_of_hazard hhazard)
  constructor
  · obtain ⟨body, hwalk, -⟩ := walk?_of_tagAt? ht
    rcases h.kinds with hraw | ⟨block, hblock, hcode⟩ | hcode | ⟨n, hn, -⟩
    · rw [walk?_of_rawText hraw] at hwalk
      exact absurd hwalk (by simp)
    · obtain ⟨rest, hrest, -⟩ := Option.bind_eq_some_iff.1 hcode
      obtain rfl := eq_append_of_walk? hblock hrest hwalk
      exact hnone (hazard?_of_block hblock ht)
    · obtain ⟨rest, hrest, -⟩ := Option.bind_eq_some_iff.1 hcode
      exact head?_of_behindWord? hrest
    · obtain ⟨name, hname, -⟩ := Option.map_eq_some_iff.1 hn
      obtain ⟨word, -, u, rest, rfl, -⟩ := exists_word (Woven.exact_sameLetter '@' (by decide)) hname
      rfl
  · rw [Option.eq_none_iff_forall_ne_some]
    intro name hname
    exact hnone (hazard?_of_directiveAt? hname ht)

/-- **Tags are found in comments and in blocks between directives only.** -/
theorem block_of_invaded (h : StepsOver bladeDialect fragment) (hinvaded : Invaded fragment) :
    behindBlock? bladeComments fragment = some [] ∨ behindDirectives? bladeCodeDirectives none fragment = some [] := by
  obtain ⟨pass, -, t, ht, hstart, -⟩ := hinvaded
  by_contra hnot
  obtain ⟨hcomment, hdirectives⟩ := not_or.1 hnot
  cases hwalk : walk? fragment with
  | none =>
    rw [scan_of_walk?_eq_none h hwalk] at ht
    exact absurd ht List.not_mem_nil
  | some body =>
    obtain ⟨before, offset, hscan⟩ := scan_of_walk?_eq_some hwalk
    rw [h.rest_eq_nil hwalk hcomment hdirectives] at hscan
    rw [hscan] at ht
    rcases List.mem_cons.1 ht with rfl | ht
    · exact absurd hstart (Nat.lt_irrefl 0)
    · exact absurd ht List.not_mem_nil

/-! ## Annotating the tag -/

/-- **A run leaves a text as it is** if and only if no pass finds a tag to mark in it. -/
theorem annotate_eq_source_iff (a : Annotator) {templateId : Text} (templateId_ne : templateId ≠ []) (disk : Option Text)
    (source : Text) : ∃ r, a.annotate source templateId disk = .ok r ∧
      (r.output = source ↔ ∀ pass ∈ a.passes, a.Settled pass source) := by
  obtain ⟨r, kept, hannotate, hweave, hrun⟩ := a.annotate_marksAt templateId templateId_ne disk source
  refine ⟨r, hannotate, fun houtput => ?_, fun hsettled => ?_⟩
  · rw [houtput] at hrun
    have hnothing : Inserts (fun _ => []) 0 source source source := Inserts.refl fun _ _ _ => rfl
    have hnone (k : Nat) (hk : k < brackets source) : a.marksAt templateId templateId_ne disk source k = [] := by
      have hnil := hrun.eq_nil_iff hnothing (fun k => a.inserted_of_mem templateId templateId_ne) (by simp)
        (Nat.zero_le k) (by omega)
      exact List.map_eq_nil_iff.1 (hnil.2 rfl)
    have hpasses (pass : Pass) (hpass : pass ∈ a.passes) :
        a.Settled pass (a.bufferOf templateId templateId_ne disk source pass) := by
      intro k hmarks
      have hlt := a.lt_brackets hmarks
      rw [brackets_bufferOf] at hlt
      exact (a.marksAt_eq_nil templateId templateId_ne disk source).1 (hnone k hlt) pass hpass hmarks
    have hplain : a.Settled .plain source := hpasses .plain a.plain_mem_passes
    intro pass hpass
    cases pass with
    | plain => exact hplain
    | component =>
      have hcomponent := hpasses .component hpass
      rwa [bufferOf_component, hplain.passed_eq] at hcomponent
  · rw [hweave, weave_allSeams, passes_eq_self hsettled]

theorem settled_iff (a : Annotator) {pass : Pass} {text : Text} :
    a.Settled pass text ↔ ∀ t ∈ a.scanner.scan text, ¬a.Marks pass t :=
  ⟨fun h t ht hmarks => h _ ⟨t, ht, hmarks, rfl⟩, fun h _ ⟨t, ht, hmarks, _⟩ => h t ht hmarks⟩

/-- **Template code in a tag is recognised** to this extent. A tag with a fragment that the scanner steps over as a whole is
left unchanged if and only if the fragment is not overlooked and no tag in it is marked. Only directives are overlooked, and
only when they are not spelled as in the table of directives or go on like the name of an attribute; tags are found only in
comments and in blocks between two directives. -/
theorem annotate_tagWith_iff {fragment : Text} (h : StepsOver bladeDialect fragment) {templateId : Text}
    (templateId_ne : templateId ≠ []) (disk : Option Text) :
    ∃ r, (ofSettings .standard).annotate (tagWith fragment) templateId disk = .ok r ∧
      (r.output = tagWith fragment ↔ ¬Overlooked fragment ∧ ¬Invaded fragment) ∧
      (Overlooked fragment → fragment.head? = some '@' ∧
        bladeDialect.directiveAt? (· == ·) Dialect.wordEnds none fragment = none) ∧
      (Invaded fragment → behindBlock? bladeComments fragment = some [] ∨
        behindDirectives? bladeCodeDirectives none fragment = some []) := by
  obtain ⟨r, hannotate, houtput⟩ :=
    (ofSettings .standard).annotate_eq_source_iff templateId_ne disk (tagWith fragment)
  refine ⟨r, hannotate, houtput.trans ?_, directive_of_overlooked h, block_of_invaded h⟩
  simp only [settled_iff]
  constructor
  · intro hnone
    constructor
    · rintro ⟨t, ht, hreason⟩
      obtain ⟨body, hwalk, rfl⟩ := walk?_of_tagAt? ht
      obtain ⟨before, offset, hscan⟩ := scan_of_walk?_eq_some hwalk
      refine hnone .plain (plain_mem_passes _) (tagOf body) (hscan ▸ List.mem_cons_self) ⟨?_, hreason⟩
      show (ofSettings .standard).isPlain "div".toList = true
      decide +kernel
    · rintro ⟨pass, hpass, t, ht, -, hmarks⟩
      exact hnone pass hpass t ht hmarks
  · rintro ⟨hoverlooked, hinvaded⟩ pass hpass t ht hmarks
    rcases Nat.eq_zero_or_pos t.start with hstart | hstart
    · have htag := tagAt?_of_mem_scan ht
      rw [hstart, List.drop_zero] at htag
      exact hoverlooked ⟨t, htag, hmarks.2⟩
    · exact hinvaded ⟨pass, hpass, t, ht, hstart, hmarks⟩

/-- a call with a bracket among its arguments -/
theorem annotate_tagWith_call : StepsOver bladeDialect "@if($a > 1)".toList ∧ "t".toList ≠ [] ∧
    ∃ r, (ofSettings .standard).annotate (tagWith "@if($a > 1)".toList) "t".toList none = .ok r ∧
      r.output = tagWith "@if($a > 1)".toList := by
  have hover : StepsOver bladeDialect "@if($a > 1)".toList := by decide +kernel
  obtain ⟨r, hannotate, houtput, hoverlooked, hinvaded⟩ :=
    annotate_tagWith_iff hover (show "t".toList ≠ [] by decide) none
  refine ⟨hover, by decide, r, hannotate, houtput.2 ⟨fun h => ?_, fun h => ?_⟩⟩
  · exact absurd (hoverlooked h).2 (by decide +kernel)
  · exact absurd (hinvaded h) (by decide +kernel)

/-- whether a fragment is template code, and the tag with it is changed all the same -/
def Missed (fragment : Text) : Prop :=
  StepsOver bladeDialect fragment ∧ ∃ r, (ofSettings .standard).annotate (tagWith fragment) "t".toList none = .ok r ∧
    r.output ≠ tagWith fragment

theorem missed_of_marksAt {fragment : Text} (h : StepsOver bladeDialect fragment) {k : Nat}
    (hmarks : (ofSettings .standard).MarksAt .plain (tagWith fragment) k) : Missed fragment := by
  obtain ⟨r, hannotate, houtput⟩ := (ofSettings .standard).annotate_eq_source_iff
    (show "t".toList ≠ [] by decide) none (tagWith fragment)
  exact ⟨h, r, hannotate, fun heq => houtput.1 heq .plain (plain_mem_passes _) k hmarks⟩

/-- a call in capitals is overlooked -/
theorem annotate_marks_capitals : Missed "@IF($x)".toList := by
  have hmarks : (ofSettings .standard).MarksAt .plain (tagWith "@IF($x)".toList) 0 := by decide +kernel
  exact missed_of_marksAt (by decide +kernel) hmarks

/-- a block whose directive goes on like a name is overlooked, and a tag in a block or in a comment is marked -/
theorem annotate_marks_blocks : Missed "@php- > @endphp".toList ∧ Missed "@php > <div> @endphp".toList ∧
    Missed "\x7b\x7b-- \x7d\x7d > <div> --\x7d\x7d".toList := by
  have hname : (ofSettings .standard).MarksAt .plain (tagWith "@php- > @endphp".toList) 0 := by decide +kernel
  have hblock : (ofSettings .standard).MarksAt .plain (tagWith "@php > <div> @endphp".toList) 1 := by decide +kernel
  have hcomment : (ofSettings .standard).MarksAt .plain
      (tagWith "\x7b\x7b-- \x7d\x7d > <div> --\x7d\x7d".toList) 1 := by decide +kernel
  exact ⟨missed_of_marksAt (by decide +kernel) hname, missed_of_marksAt (by decide +kernel) hblock,
    missed_of_marksAt (by decide +kernel) hcomment⟩

end Annotator

end SourceMark
