/-
Static tags are not unsafe. Outside their values nothing stands that is code: no marker of code, since each has a character
that static tags do not have there or an equals sign before a bracket; no dynamic attribute, since no name starts with a
colon; and no directive, since the word behind an at sign goes on up to an equals sign.

Results:
- `rawCode_static`, `unquoted_static`: the markers of code are in values only.
- `dynamicAttribute_static`: there is no dynamic attribute.
- `directive_static`: event handlers are no directives.
- `hazard?_static`: a static tag is unsafe only through raw code in its values.
-/
import SourceMark.Proofs.StaticTags.Scan

namespace SourceMark

open SourceMark.Language

theorem StaticTag.text_emptied (t : StaticTag) : t.emptied.text =
    '<' :: t.name ++ (written (t.attributes.map fun a => (a.1, a.2.emptied)) ++ (t.ending ++ ['>'])) := by
  rw [text_eq, List.append_assoc]
  rfl

/-! ## Markers of code -/

theorem Text.occursIn_iff {needle text : Text} : occursIn needle text = true ↔ needle <:+: text := by
  induction text with
  | nil => rw [occursIn, List.isEmpty_iff, List.infix_nil]
  | cons c rest ih => rw [occursIn, Bool.or_eq_true, ih, List.isPrefixOf_iff_prefix, List.infix_cons_iff]

namespace StaticTag

variable {t : StaticTag}

theorem not_infix_of_stretch {u marker : Text} (hu : Stretch u)
    (hmarker : '?' ∈ marker ∨ '\x7b' ∈ marker ∨ ('=' ∈ marker ∧ '>' ∈ marker)) : ¬marker <:+: u := by
  intro h
  have hsigns {p : Char} (hp : p ∈ marker) (hloud : isPlain p = false ∧ p ≠ '<' ∧ p ≠ '>') : False := by
    rcases hu.chars p (h.subset hp) with hplain | hopen | hclose
    · rw [hloud.1] at hplain
      exact absurd hplain (by decide)
    · exact hloud.2.1 hopen
    · exact hloud.2.2 hclose
  rcases hmarker with hmarker | hmarker | ⟨hequals, hclose⟩
  · exact hsigns hmarker (by decide)
  · exact hsigns hmarker (by decide)
  · exact hu.apart.elim (fun hnot => hnot (h.subset hclose)) fun hnot => hnot (h.subset hequals)

theorem rawCode_static (hvalues : ∀ value ∈ values t.attributes, ∀ marker ∈ bladeDialect.rawCodeMarkers,
    ¬marker <:+: value) : bladeDialect.rawCodeMarkers.find? (Text.occursIn · t.text) = none := by
  have hmarkers : ∀ marker ∈ bladeDialect.rawCodeMarkers,
      (∀ c ∈ marker, Quote.isQuote c = false) ∧ '?' ∈ marker := by decide
  rw [List.find?_eq_none]
  intro marker hmarker hoccurs
  rcases t.exists_stretch (hmarkers marker hmarker).1 (Text.occursIn_iff.1 hoccurs) with
    ⟨value, hvalue, hin⟩ | ⟨u, hu, hin⟩
  · exact hvalues value hvalue marker hmarker hin
  · exact not_infix_of_stretch hu (Or.inl (hmarkers marker hmarker).2) hin

theorem eq_nil_of_mem_values (attributes : List (Gap × StaticAttribute)) :
    ∀ value ∈ values (attributes.map fun a => (a.1, a.2.emptied)), value = [] := by
  intro value hvalue
  obtain ⟨b, hb, hvalue⟩ := List.mem_filterMap.1 hvalue
  obtain ⟨⟨gap, a⟩, -, rfl⟩ := List.mem_map.1 hb
  cases a with
  | bare name isName => exact absurd hvalue (by simp [StaticAttribute.emptied, StaticAttribute.value?])
  | valued => exact (Option.some.inj hvalue).symm

theorem unquoted_static (t : StaticTag) :
    bladeDialect.unquotedMarkers.find? (Text.occursIn · t.emptied.text) = none := by
  have hmarkers : ∀ marker ∈ bladeDialect.unquotedMarkers, (∀ c ∈ marker, Quote.isQuote c = false) ∧ marker ≠ [] ∧
      ('?' ∈ marker ∨ '\x7b' ∈ marker ∨ ('=' ∈ marker ∧ '>' ∈ marker)) := by decide
  rw [List.find?_eq_none]
  intro marker hmarker hoccurs
  obtain ⟨hquotes, hne, hloud⟩ := hmarkers marker hmarker
  rcases t.emptied.exists_stretch hquotes (Text.occursIn_iff.1 hoccurs) with ⟨value, hvalue, hin⟩ | ⟨u, hu, hin⟩
  · rw [eq_nil_of_mem_values t.attributes value hvalue, List.infix_nil] at hin
    exact hne hin
  · exact not_infix_of_stretch hu hloud hin

end StaticTag

/-! ## Dynamic attributes -/

namespace Dialect

theorem dynamicAttributeAt?_of_head? {text : Text} (h : text.head? ≠ some ':') : dynamicAttributeAt? text = none := by
  unfold dynamicAttributeAt?
  split
  · exact absurd rfl h
  · rfl

/-- behind a blank that no colon follows there is no dynamic attribute -/
theorem dynamicAttributeBehindBlank?_cons {c : Char} {rest : Text}
    (h : Text.isBlank c = true → rest.head? ≠ some ':') :
    dynamicAttributeBehindBlank? (c :: rest) = dynamicAttributeBehindBlank? rest := by
  rw [dynamicAttributeBehindBlank?]
  split_ifs with hblank
  · rw [dynamicAttributeAt?_of_head? (h hblank), Option.none_or]
  · rfl

theorem dynamicAttributeBehindBlank?_solid {u : Text} (h : ∀ c ∈ u, Text.isBlank c = false) (rest : Text) :
    dynamicAttributeBehindBlank? (u ++ rest) = dynamicAttributeBehindBlank? rest := by
  induction u with
  | nil => rfl
  | cons c u ih =>
    have hc := h c List.mem_cons_self
    rw [List.cons_append, dynamicAttributeBehindBlank?_cons fun hblank => absurd hblank (by simp [hc])]
    exact ih fun d hd => h d (List.mem_cons_of_mem _ hd)

/-- no dynamic attribute begins in a text without colons before one that starts with none -/
theorem dynamicAttributeBehindBlank?_gap {u rest : Text} (h : ':' ∉ u) (hrest : rest.head? ≠ some ':') :
    dynamicAttributeBehindBlank? (u ++ rest) = dynamicAttributeBehindBlank? rest := by
  induction u with
  | nil => rfl
  | cons c u ih =>
    have hu : ':' ∉ u := fun hmem => h (List.mem_cons_of_mem _ hmem)
    have hhead : (u ++ rest).head? ≠ some ':' := by
      cases u with
      | nil => exact hrest
      | cons d u => exact fun hd => hu (Option.some.inj hd ▸ List.mem_cons_self)
    rw [List.cons_append, dynamicAttributeBehindBlank?_cons fun _ => hhead]
    exact ih hu

end Dialect

namespace StaticAttribute

theorem isBlank_emptied (a : StaticAttribute) : ∀ c ∈ a.emptied.text, Text.isBlank c = false := by
  intro c hc
  cases a with
  | bare name isName =>
    simp only [emptied, text, lead, quoted, List.append_nil] at hc
    exact Text.isBlank_of_isTail (isName.isTail hc)
  | valued atSign name quote value isName isQuote quote_notMem =>
    have hblank : Text.isBlank quote = false := (Text.isFirm_iff.1 (isFirm_of_isQuote isQuote)).1
    simp only [emptied, text, lead, quoted, List.mem_append, List.mem_cons, List.not_mem_nil, or_false, List.nil_append]
      at hc
    rcases hc with ((hc | hc) | rfl) | rfl | rfl
    · rw [eq_of_mem_atSign hc]; decide
    · exact Text.isBlank_of_isTail (isName.isTail hc)
    · decide
    · exact hblank
    · exact hblank

theorem head?_text (a : StaticAttribute) (rest : Text) : (a.text ++ rest).head? ≠ some ':' := by
  have hname {name : Text} (isName : IsStaticName name) (more : Text) : (name ++ more).head? ≠ some ':' := by
    obtain ⟨c, name', hc⟩ := List.exists_cons_of_ne_nil isName.1.ne_nil
    have hcolon := isName.2
    rw [hc] at hcolon ⊢
    exact hcolon
  cases a with
  | bare name isName =>
    rw [text, List.append_assoc]
    exact hname isName _
  | valued atSign name quote value isName isQuote quote_notMem =>
    simp only [text, lead, List.append_assoc]
    cases atSign with
    | true => simp
    | false => exact hname isName _

end StaticAttribute

namespace StaticTag

variable {t : StaticTag}

theorem dynamicAttributeBehindBlank?_written (attributes : List (Gap × StaticAttribute)) (rest : Text) :
    Dialect.dynamicAttributeBehindBlank? (written (attributes.map fun a => (a.1, a.2.emptied)) ++ rest) =
      Dialect.dynamicAttributeBehindBlank? rest := by
  induction attributes with
  | nil => rfl
  | cons a attributes ih =>
    have hgap : ':' ∉ a.1.1 := fun hmem => absurd (a.1.2.2 _ hmem) (by decide)
    rw [List.map_cons, written_cons, List.append_assoc, List.append_assoc,
      Dialect.dynamicAttributeBehindBlank?_gap hgap (a.2.emptied.head?_text _),
      Dialect.dynamicAttributeBehindBlank?_solid a.2.isBlank_emptied, ih]

/-- **A static tag has no dynamic attribute.** -/
theorem dynamicAttribute_static (t : StaticTag) : Dialect.findDynamicAttribute? t.emptied.text = none := by
  have hname : ∀ c ∈ '<' :: t.name, Text.isBlank c = false := by
    intro c hc
    rcases List.mem_cons.1 hc with rfl | hc
    · decide
    · exact Text.isBlank_of_isTail (t.isTargetName.isTail c hc)
  have hending : ':' ∉ t.ending := notMem_ending (by decide)
  rw [Dialect.findDynamicAttribute?, text_emptied, Dialect.dynamicAttributeAt?_of_head? (by simp), Option.none_or,
    Dialect.dynamicAttributeBehindBlank?_solid hname, dynamicAttributeBehindBlank?_written,
    Dialect.dynamicAttributeBehindBlank?_gap hending (by simp)]
  rfl

end StaticTag

/-! ## Directives -/

/-- no directive of Blade is found in the text, whatever stands before it -/
def NoDirective (text : Text) : Prop :=
  ∀ before, bladeDialect.findDirective? before text = none

namespace NoDirective

theorem directiveAt?_of_head? {text : Text} (h : text.head? ≠ some '@') (before : Option Char) :
    bladeDialect.directiveAt? (· == ·) Dialect.wordEnds before text = none := by
  have hhead : bladeDialect.directiveHead? = some ['@'] := rfl
  have hdrop : Text.dropHeadBy? (· == ·) ['@'] text = none := by
    cases text with
    | nil => rfl
    | cons c rest =>
      have hc : '@' ≠ c := fun heq => h (heq ▸ rfl)
      simp [Text.dropHeadBy?, hc]
  simp only [Dialect.directiveAt?, hhead, hdrop]
  split_ifs <;> rfl

theorem nil : NoDirective [] :=
  directiveAt?_of_head? (by simp)

theorem append {u text : Text} (h : NoDirective text) (hu : '@' ∉ u) : NoDirective (u ++ text) := by
  induction u with
  | nil => exact h
  | cons c u ih =>
    intro before
    have hc : (c :: (u ++ text)).head? ≠ some '@' := fun heq => hu (Option.some.inj heq ▸ List.mem_cons_self)
    rw [List.cons_append, Dialect.findDirective?, directiveAt?_of_head? hc, Option.none_or]
    exact ih (fun hmem => hu (List.mem_cons_of_mem _ hmem)) _

/-- **The word of an event handler is no directive**: it goes on up to the equals sign. -/
theorem directiveAt?_handler {name : Text} (hname : ∀ c ∈ name, AttributeName.isTail c = true) (before : Option Char)
    (rest : Text) :
    bladeDialect.directiveAt? (· == ·) Dialect.wordEnds before ('@' :: (name ++ '=' :: rest)) = none := by
  have hhead : bladeDialect.directiveHead? = some ['@'] := rfl
  have hdrop : Text.dropHeadBy? (· == ·) ['@'] ('@' :: (name ++ '=' :: rest)) = some (name ++ '=' :: rest) := by
    simp [Text.dropHeadBy?]
  have hequals : ∀ word ∈ bladeDialect.directiveKeywords, '=' ∉ word :=
    fun word hword hmem => absurd (isOrdinary_of_word word hword '=' hmem) (by decide)
  have hlongest : Dialect.longest? (fun word =>
      (Text.dropHeadBy? (· == ·) word (name ++ '=' :: rest)).any Dialect.wordEnds) bladeDialect.directiveKeywords =
        none := by
    rw [Option.eq_none_iff_forall_ne_some]
    intro word hfound
    obtain ⟨hword, hends⟩ := Scanner.longest?_eq_some hfound
    have hnone : ∀ p ∈ word, (p == '=') = false := by
      intro p hp
      rw [beq_eq_false_iff_ne]
      rintro rfl
      exact hequals word hword hp
    rw [Scanner.dropHeadBy?_append hnone] at hends
    cases hbehind : Text.dropHeadBy? (· == ·) word name with
    | none =>
      rw [hbehind] at hends
      exact absurd hends (by simp)
    | some behind =>
      -- what stands behind the word is the rest of the name or the equals sign
      rw [hbehind] at hends
      cases behind with
      | nil => exact absurd hends (by simp [Dialect.wordEnds, Dialect.continuesWord])
      | cons d behind =>
        obtain ⟨u, hu, -⟩ := Scanner.exists_recognised hbehind
        have hd := Scanner.isNameChar_of_isTail (hname d (hu ▸ List.mem_append_right u List.mem_cons_self))
        exact absurd hends (by simp [Dialect.wordEnds, Dialect.continuesWord, hd])
  simp only [Dialect.directiveAt?, hhead, hdrop, hlongest]
  split_ifs <;> rfl

theorem handler {name rest : Text} (hname : ∀ c ∈ name, AttributeName.isTail c = true) (h : NoDirective rest) :
    NoDirective ('@' :: (name ++ '=' :: rest)) := by
  have hat : '@' ∉ name ++ ['='] := by
    rw [List.mem_append, not_or]
    exact ⟨fun hmem => absurd (hname _ hmem) (by decide), by decide⟩
  have hbehind : NoDirective (name ++ '=' :: rest) := by
    rw [List.append_cons]
    exact h.append hat
  intro before
  rw [Dialect.findDirective?, directiveAt?_handler hname, Option.none_or]
  exact hbehind _

end NoDirective

namespace StaticTag

theorem noDirective_attribute (a : StaticAttribute) {rest : Text} (h : NoDirective rest) :
    NoDirective (a.emptied.text ++ rest) := by
  have hat {name : Text} (isName : IsStaticName name) : '@' ∉ name :=
    fun hmem => absurd (isName.isTail hmem) (by decide)
  cases a with
  | bare name isName =>
    simp only [StaticAttribute.emptied, StaticAttribute.text, StaticAttribute.lead, StaticAttribute.quoted,
      List.append_nil]
    exact h.append (hat isName)
  | valued atSign name quote value isName isQuote quote_notMem =>
    have hquote : '@' ∉ [quote, quote] := by
      intro hmem
      obtain rfl : '@' = quote := by simpa using hmem
      exact absurd isQuote (by decide)
    have hquoted : NoDirective ([quote, quote] ++ rest) := h.append hquote
    have htext : (StaticAttribute.valued atSign name quote value isName isQuote quote_notMem).emptied.text ++ rest =
        (if atSign then ['@'] else []) ++ (name ++ '=' :: ([quote, quote] ++ rest)) := by
      simp [StaticAttribute.emptied, StaticAttribute.text, StaticAttribute.lead, StaticAttribute.quoted]
    rw [htext]
    cases atSign with
    | true => exact hquoted.handler fun c hc => isName.isTail hc
    | false =>
      have hequals : '@' ∉ name ++ ['='] := by simp [hat isName]
      rw [List.append_cons name]
      exact hquoted.append hequals

theorem noDirective_written (attributes : List (Gap × StaticAttribute)) {rest : Text} (h : NoDirective rest) :
    NoDirective (written (attributes.map fun a => (a.1, a.2.emptied)) ++ rest) := by
  induction attributes with
  | nil => exact h
  | cons a attributes ih =>
    have hgap : '@' ∉ a.1.1 := fun hmem => absurd (a.1.2.2 _ hmem) (by decide)
    rw [List.map_cons, written_cons, List.append_assoc, List.append_assoc]
    exact (noDirective_attribute a.2 ih).append hgap

/-- **A static tag has no directive.** -/
theorem directive_static (t : StaticTag) : NoDirective t.emptied.text := by
  have hname : '@' ∉ '<' :: t.name := by
    rw [List.mem_cons, not_or]
    exact ⟨by decide, fun hmem => absurd (t.isTargetName.isTail _ hmem) (by decide)⟩
  have hending : '@' ∉ t.ending ++ ['>'] := by
    rw [List.mem_append, not_or]
    exact ⟨notMem_ending (by decide), by decide⟩
  have hbehind : NoDirective (t.ending ++ ['>']) := List.append_nil (t.ending ++ ['>']) ▸ NoDirective.nil.append hending
  rw [text_emptied]
  exact (noDirective_written t.attributes hbehind).append hname

/-! ## Unsafe tags -/

/-- **A static tag is not unsafe**, unless a value of it holds raw code. -/
theorem hazard?_static {t : StaticTag} (hvalues : ∀ value ∈ values t.attributes,
    ∀ marker ∈ bladeDialect.rawCodeMarkers, ¬marker <:+: value) : bladeDialect.hazard? t.text = none := by
  rw [Dialect.hazard?, rawCode_static hvalues, t.blank_text, t.unquoted_static, t.dynamicAttribute_static,
    t.directive_static none]
  rfl

end StaticTag

end SourceMark
