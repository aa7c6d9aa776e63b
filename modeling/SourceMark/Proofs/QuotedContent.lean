/-
What stands in quotes is hidden from the judgment of a tag. Blanking keeps the quotes of a closed span and forgets what is
between them; a quote that is never closed stays and hides nothing. So two texts are blanked alike just when they differ
in the content of closed spans only, and then they have the same hazard, unless one of them holds raw code, which counts
wherever it stands.

Results:
- `sameOutside_iff`: what blanking forgets.
- `hazard?_of_sameOutside`: what blanking forgets decides nothing.
- `hazard?_quoted`: the content of one span may be replaced.
Witness:
- `hazard?_quoted_title`: a directive behind an attribute value that may hold template code or nothing at all.
-/
import SourceMark.Proofs.StaticTags.Hazards

namespace SourceMark

namespace Quote

/-- two texts that differ in the content of closed spans only -/
inductive SameOutside : Text → Text → Prop
  | nil : SameOutside [] []
  | char {c : Char} {rest rest' : Text} (hc : isQuote c = false) (h : SameOutside rest rest') :
    SameOutside (c :: rest) (c :: rest')
  | span {quote : Char} {content content' rest rest' : Text} (hquote : isQuote quote = true) (hcontent : quote ∉ content)
    (hcontent' : quote ∉ content') (h : SameOutside rest rest') :
    SameOutside (quote :: (content ++ quote :: rest)) (quote :: (content' ++ quote :: rest'))
  /-- a quote that is never closed -/
  | loose {quote : Char} {rest rest' : Text} (hquote : isQuote quote = true) (hrest : quote ∉ rest)
    (hrest' : quote ∉ rest') (h : SameOutside rest rest') : SameOutside (quote :: rest) (quote :: rest')

/-- a text of closed spans and characters that are no quotes -/
inductive IsClosed : Text → Prop
  | nil : IsClosed []
  | char {c : Char} {rest : Text} (hc : isQuote c = false) (h : IsClosed rest) : IsClosed (c :: rest)
  | span {quote : Char} {content rest : Text} (hquote : isQuote quote = true) (hcontent : quote ∉ content)
    (h : IsClosed rest) : IsClosed (quote :: (content ++ quote :: rest))

/-! ## What blanking forgets -/

variable {text text' : Text}

theorem blank_char {c : Char} (hc : isQuote c = false) (rest : Text) : blank (c :: rest) = c :: blank rest := by
  have hfront : ∀ d ∈ [c], isQuote d = false := by
    intro d hd
    rwa [List.mem_singleton.1 hd]
  exact blank_append hfront rest

/-- a quote that is never closed stays -/
theorem blank_loose {quote : Char} (hquote : isQuote quote = true) {rest : Text} (h : quote ∉ rest) :
    blank (quote :: rest) = quote :: blank rest := by
  have hnone : length? false quote [] rest = none := by
    cases hlength : length? false quote [] rest with
    | none => rfl
    | some n =>
      obtain ⟨content, behind, rfl, -⟩ := exists_content hlength
      exact absurd (List.mem_append_right content List.mem_cons_self) h
  rw [blank, blankFrom, if_pos hquote, hnone]
  rfl

/-- behind a quote, the span is closed or the quote does not come again -/
theorem exists_span_or_notMem (quote : Char) (rest : Text) :
    (∃ content behind, rest = content ++ quote :: behind ∧ quote ∉ content) ∨ quote ∉ rest := by
  by_cases hmem : quote ∈ rest
  · exact .inl (List.eq_append_cons_of_mem hmem)
  · exact .inr hmem

theorem SameOutside.blank_eq (h : SameOutside text text') : blank text = blank text' := by
  induction h with
  | nil => rfl
  | char hc _ ih => rw [blank_char hc, blank_char hc, ih]
  | span hquote hcontent hcontent' _ ih => rw [blank_span hquote hcontent, blank_span hquote hcontent', ih]
  | loose hquote hrest hrest' _ ih => rw [blank_loose hquote hrest, blank_loose hquote hrest', ih]

/-- a closed span is not blanked like a quote that is never closed: a second quote is left of it -/
theorem blank_span_ne_loose {quote : Char} {behind rest : Text} (h : quote ∉ rest) :
    quote :: quote :: blank behind ≠ quote :: blank rest := by
  intro hblank
  have hhead : (blank rest).head? = some quote := by rw [← List.tail_eq_of_cons_eq hblank, List.head?_cons]
  rw [head?_blank] at hhead
  exact h (List.mem_of_mem_head? hhead)

/-- two texts behind one quote that are blanked alike: in both the quote is closed, or in neither -/
theorem cases_of_blank_quote_eq {quote : Char} (hquote : isQuote quote = true) {rest rest' : Text}
    (h : blank (quote :: rest) = blank (quote :: rest')) :
    (∃ content back content' back', (rest = content ++ quote :: back ∧ quote ∉ content) ∧
      (rest' = content' ++ quote :: back' ∧ quote ∉ content') ∧ blank back = blank back') ∨
    (quote ∉ rest ∧ quote ∉ rest' ∧ blank rest = blank rest') := by
  rcases exists_span_or_notMem quote rest with ⟨content, back, rfl, hcontent⟩ | hrest
  · rw [blank_span hquote hcontent] at h
    rcases exists_span_or_notMem quote rest' with ⟨content', back', rfl, hcontent'⟩ | hrest'
    · rw [blank_span hquote hcontent'] at h
      have hback : blank back = blank back' := List.tail_eq_of_cons_eq (List.tail_eq_of_cons_eq h)
      exact .inl ⟨content, back, content', back', ⟨rfl, hcontent⟩, ⟨rfl, hcontent'⟩, hback⟩
    · rw [blank_loose hquote hrest'] at h
      exact absurd h (blank_span_ne_loose hrest')
  · rw [blank_loose hquote hrest] at h
    rcases exists_span_or_notMem quote rest' with ⟨content', back', rfl, hcontent'⟩ | hrest'
    · rw [blank_span hquote hcontent'] at h
      exact absurd h.symm (blank_span_ne_loose hrest)
    · rw [blank_loose hquote hrest'] at h
      exact .inr ⟨hrest, hrest', List.tail_eq_of_cons_eq h⟩

theorem sameOutside_of_blank_eq (h : blank text = blank text') : SameOutside text text' := by
  -- by induction on the length, since a span takes several characters at once
  induction hlength : text.length using Nat.strong_induction_on generalizing text text' with
  | _ n ih =>
  have hhead : text.head? = text'.head? := by rw [← head?_blank, h, head?_blank]
  cases text with
  | nil =>
    obtain rfl : text' = [] := List.head?_eq_none_iff.1 hhead.symm
    exact .nil
  | cons c rest =>
    obtain ⟨rest', rfl⟩ := List.head?_eq_some_iff.1 hhead.symm
    have behind {back back' : Text} (hshort : back.length ≤ rest.length) (hback : blank back = blank back') :
        SameOutside back back' := by
      refine ih back.length ?_ hback rfl
      rw [← hlength, List.length_cons]
      exact Nat.lt_succ_of_le hshort
    cases hc : isQuote c with
    | false =>
      rw [blank_char hc, blank_char hc] at h
      exact .char hc (behind (Nat.le_refl _) (List.tail_eq_of_cons_eq h))
    | true =>
      rcases cases_of_blank_quote_eq hc h with
        ⟨content, back, content', back', ⟨rfl, hcontent⟩, ⟨rfl, hcontent'⟩, hback⟩ | ⟨hrest, hrest', hback⟩
      · have hshort : back.length ≤ (content ++ c :: back).length := by
          rw [List.length_append, List.length_cons]
          omega
        exact .span hc hcontent hcontent' (behind hshort hback)
      · exact .loose hc hrest hrest' (behind (Nat.le_refl _) hback)

/-- **What blanking forgets** is the content of closed spans, and nothing else. -/
theorem sameOutside_iff : SameOutside text text' ↔ blank text = blank text' :=
  ⟨SameOutside.blank_eq, sameOutside_of_blank_eq⟩

/-- a closed front does not decide how the quotes behind it are read -/
theorem IsClosed.sameOutside {front : Text} (hfront : IsClosed front) (h : SameOutside text text') :
    SameOutside (front ++ text) (front ++ text') := by
  induction hfront with
  | nil => exact h
  | char hc _ ih => exact .char hc ih
  | span hquote hcontent _ ih =>
    simp only [List.cons_append, List.append_assoc]
    exact .span hquote hcontent hcontent ih

/-! ## Closed texts -/

theorem isClosed_of_notQuote (h : ∀ c ∈ text, isQuote c = false) : IsClosed text := by
  induction text with
  | nil => exact .nil
  | cons c rest ih =>
    refine .char (h c List.mem_cons_self) (ih ?_)
    intro d hd
    exact h d (List.mem_cons_of_mem c hd)

theorem IsClosed.append (h : IsClosed text) (h' : IsClosed text') : IsClosed (text ++ text') := by
  induction h with
  | nil => exact h'
  | char hc _ ih => exact .char hc ih
  | span hquote hcontent _ ih =>
    simp only [List.cons_append, List.append_assoc]
    exact .span hquote hcontent ih

end Quote

/-! ## Hazards -/

namespace Dialect

variable {text text' : Text}

/-- **What blanking forgets decides nothing**: without raw code, two texts that differ in the content of closed spans only
have the same hazard. -/
theorem hazard?_of_sameOutside (d : Dialect) (hsame : Quote.SameOutside text text')
    (hraw : ∀ marker ∈ d.rawCodeMarkers, ¬marker <:+: text) (hraw' : ∀ marker ∈ d.rawCodeMarkers, ¬marker <:+: text') :
    d.hazard? text = d.hazard? text' := by
  have hnone {text : Text} (h : ∀ marker ∈ d.rawCodeMarkers, ¬marker <:+: text) :
      d.rawCodeMarkers.find? (Text.occursIn · text) = none := by
    rw [List.find?_eq_none]
    intro marker hmarker hoccurs
    exact h marker hmarker (Text.occursIn_iff.1 hoccurs)
  simp only [hazard?, hnone hraw, hnone hraw', hsame.blank_eq]

/-- **Quoted content is opaque.** In both languages: behind a front whose quotes are all closed, what a quoted span holds
may be replaced, whatever follows it. The tag has the same hazard as before, or none as before, as long as no raw code
stands in either text. -/
theorem hazard?_quoted (language : Language) {quote : Char} (hquote : Quote.isQuote quote = true) {front : Text}
    (hfront : Quote.IsClosed front) {content content' : Text} (hcontent : quote ∉ content) (hcontent' : quote ∉ content')
    (rest : Text)
    (hraw : ∀ marker ∈ language.dialect.rawCodeMarkers, ¬marker <:+: front ++ quote :: (content ++ quote :: rest))
    (hraw' : ∀ marker ∈ language.dialect.rawCodeMarkers, ¬marker <:+: front ++ quote :: (content' ++ quote :: rest)) :
    language.dialect.hazard? (front ++ quote :: (content ++ quote :: rest)) =
      language.dialect.hazard? (front ++ quote :: (content' ++ quote :: rest)) := by
  have hrest : Quote.SameOutside rest rest := Quote.sameOutside_iff.2 rfl
  apply hazard?_of_sameOutside
  · exact hfront.sameOutside (.span hquote hcontent hcontent' hrest)
  · exact hraw
  · exact hraw'

/-- what stands in front of the title of a link: one closed span, with an echo in it -/
def titleFront : Text :=
  "<a href=".toList ++ '\'' :: ("\x7b\x7b $x \x7d\x7d".toList ++ '\'' :: " title=".toList)

/-- what stands behind the title: a directive -/
def titleRest : Text := " @class(['z'])>".toList

/-- a title with an echo, a bracket and a directive -/
def codeTitle : Text := "\x7b\x7b $n > 1 \x7d\x7d @if('y')".toList

theorem isClosed_titleFront : Quote.IsClosed titleFront := by
  have hname : Quote.IsClosed "<a href=".toList := Quote.isClosed_of_notQuote (by decide)
  have htitle : Quote.IsClosed " title=".toList := Quote.isClosed_of_notQuote (by decide)
  exact hname.append (.span (by decide) (by decide) htitle)

/-- whatever the title holds, the directive behind it is found -/
theorem hazard?_quoted_title : Quote.isQuote '"' = true ∧ Quote.IsClosed titleFront ∧ '"' ∉ codeTitle ∧ '"' ∉ [] ∧
    (∀ marker ∈ Language.blade.dialect.rawCodeMarkers,
      ¬marker <:+: titleFront ++ '"' :: (codeTitle ++ '"' :: titleRest)) ∧
    (∀ marker ∈ Language.blade.dialect.rawCodeMarkers, ¬marker <:+: titleFront ++ '"' :: ([] ++ '"' :: titleRest)) ∧
    Language.blade.dialect.hazard? (titleFront ++ '"' :: (codeTitle ++ '"' :: titleRest)) =
      Language.blade.dialect.hazard? (titleFront ++ '"' :: ([] ++ '"' :: titleRest)) ∧
    Language.blade.dialect.hazard? (titleFront ++ '"' :: ([] ++ '"' :: titleRest)) =
      some (.directive "@class".toList) := by
  have hquote : Quote.isQuote '"' = true := by decide
  have hcontent : '"' ∉ codeTitle := by decide
  have hempty : '"' ∉ [] := List.not_mem_nil
  have hraw : ∀ marker ∈ Language.blade.dialect.rawCodeMarkers,
      ¬marker <:+: titleFront ++ '"' :: (codeTitle ++ '"' :: titleRest) := by
    simp only [← Text.occursIn_iff]
    decide +kernel
  have hraw' : ∀ marker ∈ Language.blade.dialect.rawCodeMarkers,
      ¬marker <:+: titleFront ++ '"' :: ([] ++ '"' :: titleRest) := by
    simp only [← Text.occursIn_iff]
    decide +kernel
  exact ⟨hquote, isClosed_titleFront, hcontent, hempty, hraw, hraw',
    hazard?_quoted .blade hquote isClosed_titleFront hcontent hempty titleRest hraw hraw', by decide +kernel⟩

end Dialect

end SourceMark
