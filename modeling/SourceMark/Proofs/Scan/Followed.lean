/-
One bracket behind a text. What is never markup and takes the whole of a text is also found when a closing bracket follows,
and then it takes the text with the bracket or without it. A call whose arguments end with the text is read as before: the
bracket continues neither its word nor its arguments.

Results:
- `extends_search`: a search that ends with the text ends there or with the bracket.
- `behindOpaque?_bracket`: so does a stretch that is never markup.
- `callHead?_bracket`: the head of a call does not look beyond its parenthesis.
-/
import SourceMark.Proofs.Scan.Languages

namespace SourceMark

/-! ## What a reader finds with one bracket more -/

/-- what is found in a text and in the text with a bracket behind it, by a reader that looks no further than it reads:
the same, or nothing but what ends with the bracket -/
def Grown (found found' : Option Text) : Prop :=
  (∀ r, found = some r → found' = some (r ++ ['>'])) ∧ (found = none → ∀ r, found' = some r → r = [])

/-- what is found in a text and in the text with a bracket behind it: where it takes the whole text, it does so again, with
the bracket or without it, and where nothing is found, nothing is found that ends sooner -/
def Extends (found found' : Option Text) : Prop :=
  (found = some [] → ∃ r, found' = some r ∧ r.length ≤ 1) ∧ (found = none → ∀ r, found' = some r → r.length ≤ 1)

section Combine

variable {a a' b b' : Option Text} {f f' : Text → Option Text}

theorem Grown.extends (h : Grown a a') : Extends a a' :=
  ⟨fun ha => ⟨['>'], h.1 [] ha, Nat.le_refl 1⟩, fun ha r hr => by simp [h.2 ha r hr]⟩

theorem Grown.bind (h : Grown a a') (hf : ∀ r, Grown (f r) (f' (r ++ ['>']))) (hend : ∀ r, f' [] = some r → r = []) :
    Grown (a.bind f) (a'.bind f') := by
  cases ha : a with
  | some r =>
    rw [h.1 r ha]
    exact hf r
  | none =>
    refine ⟨fun r hr => absurd hr (by simp), fun _ r hr => ?_⟩
    obtain ⟨s, hs, hr⟩ := Option.bind_eq_some_iff.1 hr
    rw [h.2 ha s hs] at hr
    exact hend r hr

theorem Extends.bind (h : Grown a a') (hf : ∀ r, Extends (f r) (f' (r ++ ['>'])))
    (hend : ∀ r, f' [] = some r → r.length ≤ 1) : Extends (a.bind f) (a'.bind f') := by
  cases ha : a with
  | some r =>
    rw [h.1 r ha]
    exact hf r
  | none =>
    refine ⟨fun hr => absurd hr (by simp), fun _ r hr => ?_⟩
    obtain ⟨s, hs, hr⟩ := Option.bind_eq_some_iff.1 hr
    rw [h.2 ha s hs] at hr
    exact hend r hr

theorem Extends.or (h : Extends a a') (hb : Extends b b') : Extends (a.or b) (a'.or b') := by
  cases ha : a with
  | some r =>
    refine ⟨fun hr => ?_, fun hr => absurd hr (by simp)⟩
    rw [Option.some_or] at hr
    obtain ⟨s, hs, hlen⟩ := h.1 (ha.trans hr)
    exact ⟨s, by rw [hs, Option.some_or], hlen⟩
  | none =>
    rw [Option.none_or]
    cases ha' : a' with
    | some r => exact ⟨fun _ => ⟨r, rfl, h.2 ha r ha'⟩, fun _ s hs => Option.some.inj hs ▸ h.2 ha r ha'⟩
    | none => exact hb

theorem Extends.findSome? {ι : Type} {items : List ι} {f f' : ι → Option Text}
    (h : ∀ i ∈ items, Extends (f i) (f' i)) : Extends (items.findSome? f) (items.findSome? f') := by
  induction items with
  | nil => exact ⟨fun h => absurd h (by simp), fun _ r hr => absurd hr (by simp)⟩
  | cons i items ih =>
    have hor (g : ι → Option Text) : (i :: items).findSome? g = (g i).or (items.findSome? g) := by
      rw [List.findSome?_cons]
      cases g i <;> rfl
    rw [hor, hor]
    exact (h i List.mem_cons_self).or (ih fun j hj => h j (List.mem_cons_of_mem _ hj))

end Combine

/-- **A search that ends with the text** ends there or with the bracket behind it. -/
theorem extends_search {find : Option Char → Text → Option Text}
    (hfind : ∀ before text, Extends (find before text) (find before (text ++ ['>'])))
    (hend : ∀ before r, find before [] = some r → r.length ≤ 1) (before : Option Char) (text : Text) :
    Extends (search find before text) (search find before (text ++ ['>'])) := by
  induction text generalizing before with
  | nil =>
    have hnone : Extends none (find (some '>') []) :=
      ⟨fun h => absurd h (by simp), fun _ r hr => hend _ r hr⟩
    have hor := (hfind before []).or hnone
    rwa [Option.or_none] at hor
  | cons c rest ih => exact (hfind before (c :: rest)).or (ih (some c))

namespace Scanner

/-! ## Words and delimiters -/

theorem grown_dropHeadBy? (same : Char → Char → Bool) (pattern text : Text) :
    Grown (Text.dropHeadBy? same pattern text) (Text.dropHeadBy? same pattern (text ++ ['>'])) := by
  induction pattern generalizing text with
  | nil => exact ⟨fun r hr => by rw [← Option.some.inj hr]; rfl, fun h => absurd h (by simp [Text.dropHeadBy?])⟩
  | cons p pattern ih =>
    cases text with
    | nil =>
      refine ⟨fun r hr => absurd hr (by simp [Text.dropHeadBy?]), fun _ r hr => ?_⟩
      simp only [List.nil_append, Text.dropHeadBy?] at hr
      split_ifs at hr
      cases pattern with
      | nil => exact (Option.some.inj hr).symm
      | cons q pattern => exact absurd hr (by simp [Text.dropHeadBy?])
    | cons c text =>
      simp only [List.cons_append, Text.dropHeadBy?]
      split_ifs
      · exact ih text
      · exact ⟨fun r hr => absurd hr (by simp), fun _ r hr => absurd hr (by simp)⟩

theorem eq_nil_of_dropHeadBy?_nil {same : Char → Char → Bool} {pattern r : Text}
    (h : Text.dropHeadBy? same pattern [] = some r) : r = [] := by
  rw [(Text.dropHeadBy?_eq_drop h).1, List.drop_nil]

theorem dropHeadBy?_self {same : Char → Char → Bool} (hsame : ∀ c, same c c = true) (pattern rest : Text) :
    Text.dropHeadBy? same pattern (pattern ++ rest) = some rest := by
  induction pattern with
  | nil => rfl
  | cons p pattern ih =>
    rw [List.cons_append, Text.dropHeadBy?, if_pos (hsame p)]
    exact ih

theorem wordBoundary_bracket (text : Text) : wordBoundary (text ++ ['>']) = wordBoundary text := by
  cases text with
  | nil => decide
  | cons c rest => rfl

theorem wordEnds_bracket (text : Text) : Dialect.wordEnds (text ++ ['>']) = Dialect.wordEnds text := by
  cases text with
  | nil => decide
  | cons c rest => rfl

theorem takeWhile_bracket (text : Text) :
    (text ++ ['>']).takeWhile Text.isHorizontalBlank = text.takeWhile Text.isHorizontalBlank := by
  rw [List.takeWhile_append]
  split_ifs with h
  · rw [List.takeWhile_cons_of_neg (by decide), List.append_nil]
    exact ((List.takeWhile_prefix _).eq_of_length h).symm
  · rfl

theorem callFollows_bracket (text : Text) : callFollows (text ++ ['>']) = callFollows text := by
  unfold callFollows
  rw [List.dropWhile_append]
  cases text.dropWhile Text.isHorizontalBlank with
  | nil => decide
  | cons c rest => rfl

/-! ## Stretches that are never markup -/

theorem extends_behindCloser? (closer text : Text) :
    Extends (behindCloser? closer text) (behindCloser? closer (text ++ ['>'])) := by
  rw [behindCloser?_eq_search closer none, behindCloser?_eq_search closer none]
  exact extends_search (fun _ text => (grown_dropHeadBy? _ closer text).extends)
    (fun _ r hr => by simp [eq_nil_of_dropHeadBy?_nil hr]) none text

theorem length_le_of_behindCloser? {closer text r : Text} (h : behindCloser? closer text = some r) :
    ∀ v, v <:+ text → closer <+: v → v.length ≤ closer.length + r.length := by
  intro v hv hcloser
  have hfound (c : Char) {rest s : Text} (hs : dropLetters? closer (c :: rest) = some s) :
      (c :: rest).length = closer.length + s.length := by
    obtain ⟨rfl, hlen⟩ := Text.dropHeadBy?_eq_drop hs
    rw [List.length_drop]
    omega
  induction text with
  | nil =>
    rw [List.suffix_nil.1 hv]
    exact Nat.zero_le _
  | cons c rest ih =>
    rw [behindCloser?] at h
    cases hhere : dropLetters? closer (c :: rest) with
    | some s =>
      rw [hhere, Option.some_or, Option.some.injEq] at h
      rw [← h, ← hfound c hhere]
      exact hv.length_le
    | none =>
      rw [hhere, Option.none_or] at h
      rcases List.suffix_cons_iff.1 hv with rfl | hv
      · obtain ⟨tail, htail⟩ := hcloser
        have hself : dropLetters? closer (closer ++ tail) = some tail :=
          dropHeadBy?_self Text.sameLetter_self closer tail
        rw [htail, hhere] at hself
        exact absurd hself (by simp)
      · exact ih h hv

theorem extends_behindBlock? (block : Delimiters) (text : Text) :
    Extends (behindBlock? block text) (behindBlock? block (text ++ ['>'])) :=
  Extends.bind (grown_dropHeadBy? _ block.opener text) (extends_behindCloser? block.closer)
    fun r hr => by simp [eq_nil_of_dropHeadBy?_nil (show Text.dropHeadBy? _ block.closer [] = some r from hr)]

theorem grown_behindWord? (word : Text) (before : Option Char) (text : Text) :
    Grown (behindWord? word before text) (behindWord? word before (text ++ ['>'])) := by
  unfold behindWord?
  split_ifs
  · have hgrown := grown_dropHeadBy? Text.sameLetter word text
    cases hword : dropLetters? word text with
    | some r =>
      rw [dropLetters?, hgrown.1 r hword, Option.filter_some, Option.filter_some, wordBoundary_bracket]
      split_ifs
      · exact ⟨fun s hs => by rw [← Option.some.inj hs], fun h => absurd h (by simp)⟩
      · exact ⟨fun s hs => absurd hs (by simp), fun _ s hs => absurd hs (by simp)⟩
    | none =>
      refine ⟨fun s hs => absurd hs (by simp), fun _ s hs => ?_⟩
      exact hgrown.2 hword s (Option.filter_eq_some_iff.1 hs).1
  · exact ⟨fun s hs => absurd hs (by simp), fun _ s hs => absurd hs (by simp)⟩

theorem eq_nil_of_behindWord?_nil {word r : Text} {before : Option Char} (h : behindWord? word before [] = some r) :
    r = [] := by
  rw [(behindWord?_eq_drop h).1, List.drop_nil]

theorem extends_behindLaterWord? (word : Text) (before : Option Char) (text : Text) :
    Extends (behindLaterWord? word before text) (behindLaterWord? word before (text ++ ['>'])) := by
  rw [behindLaterWord?_eq_search, behindLaterWord?_eq_search]
  exact extends_search (fun before text => (grown_behindWord? word before text).extends)
    (fun _ r hr => by simp [eq_nil_of_behindWord?_nil hr]) before text

theorem extends_behindDirectives? (block : Delimiters) (before : Option Char) (text : Text) :
    Extends (behindDirectives? block before text) (behindDirectives? block before (text ++ ['>'])) := by
  have hgrown := grown_behindWord? block.opener before text
  unfold behindDirectives?
  cases hword : behindWord? block.opener before text with
  | some r =>
    have htake : (text ++ ['>']).take block.opener.length = text.take block.opener.length :=
      List.take_append_of_le_length (behindWord?_eq_drop hword).2
    rw [hgrown.1 r hword, htake]
    simp only [bind, Option.bind_some, callFollows_bracket]
    split_ifs
    · exact ⟨fun h => absurd h (by simp), fun _ s hs => absurd hs (by simp)⟩
    · exact extends_behindLaterWord? block.closer _ r
  | none =>
    refine ⟨fun h => absurd h (by simp), fun _ s hs => ?_⟩
    simp only [bind, Option.bind_eq_some_iff] at hs
    obtain ⟨r, hr, hs⟩ := hs
    rw [hgrown.2 hword r hr] at hs
    split_ifs at hs
    simp [eq_nil_of_behindWord?_nil hs]

theorem grown_behindStartTag? (quote : Option Char) (text : Text) :
    Grown (behindStartTag? quote text) (behindStartTag? quote (text ++ ['>'])) := by
  induction text generalizing quote with
  | nil =>
    refine ⟨fun r hr => absurd hr (by simp [behindStartTag?]), fun _ r hr => ?_⟩
    cases quote with
    | some quote => exact absurd hr (by simp [behindStartTag?])
    | none => simpa [behindStartTag?] using hr.symm
  | cons c rest ih =>
    cases quote with
    | some quote => exact ih _
    | none =>
      simp only [List.cons_append, behindStartTag?]
      split_ifs
      · exact ⟨fun r hr => by rw [← Option.some.inj hr], fun h => absurd h (by simp)⟩
      · exact ⟨fun r hr => absurd hr (by simp), fun _ r hr => absurd hr (by simp)⟩
      all_goals exact ih _

theorem grown_endTagBracket (text : Text) :
    Grown (match text.dropWhile Text.isBlank with | '>' :: rest => some rest | _ => none)
      (match (text ++ ['>']).dropWhile Text.isBlank with | '>' :: rest => some rest | _ => none) := by
  rw [List.dropWhile_append]
  cases text.dropWhile Text.isBlank with
  | nil => exact ⟨fun r hr => absurd hr (by simp), fun _ r hr => (Option.some.inj hr).symm⟩
  | cons c rest =>
    by_cases hc : c = '>'
    · subst hc
      exact ⟨fun r hr => by rw [← Option.some.inj hr]; rfl, fun h => absurd h (by simp)⟩
    · refine ⟨fun r hr => absurd hr (by simp [hc]), fun _ r hr => absurd hr (by simp [hc])⟩

theorem grown_behindEndTagAt? (name text : Text) :
    Grown (behindEndTagAt? name text) (behindEndTagAt? name (text ++ ['>'])) := by
  refine Grown.bind (grown_dropHeadBy? _ "</".toList text) (fun r => ?_) fun r hr => ?_
  · exact Grown.bind (grown_dropHeadBy? _ name r) grown_endTagBracket fun s hs => absurd hs (by simp)
  · obtain ⟨s, hs, hr⟩ := Option.bind_eq_some_iff.1 hr
    rw [eq_nil_of_dropHeadBy?_nil hs] at hr
    exact absurd hr (by simp)

theorem extends_behindEndTag? (name text : Text) :
    Extends (behindEndTag? name text) (behindEndTag? name (text ++ ['>'])) := by
  have hnil (r : Text) : behindEndTagAt? name [] ≠ some r := by simp [behindEndTagAt?, Text.dropHead?, Text.dropHeadBy?]
  rw [behindEndTag?_eq_search name none, behindEndTag?_eq_search name none]
  exact extends_search (fun _ text => (grown_behindEndTagAt? name text).extends) (fun _ r hr => absurd hr (hnil r))
    none text

theorem extends_behindRawText? (text : Text) : Extends (behindRawText? text) (behindRawText? (text ++ ['>'])) := by
  cases text with
  | nil => exact ⟨fun h => absurd h (by simp [behindRawText?]), fun _ r hr => absurd hr (by simp [behindRawText?])⟩
  | cons c text =>
    by_cases hc : c = '<'
    · subst hc
      rw [List.cons_append]
      unfold behindRawText?
      refine Extends.findSome? fun name _ => ?_
      have hgrown := grown_dropHeadBy? Text.sameLetter name text
      cases hname : dropLetters? name text with
      | some r =>
        have htake : (text ++ ['>']).take name.length = text.take name.length :=
          List.take_append_of_le_length (Text.dropHeadBy?_eq_drop hname).2
        rw [dropLetters?, hgrown.1 r hname, htake]
        simp only [bind, Option.bind_some, wordBoundary_bracket]
        split_ifs
        · exact Extends.bind (grown_behindStartTag? none r) (extends_behindEndTag? _) fun s hs =>
            absurd hs (by simp [behindEndTag?])
        · exact ⟨fun h => absurd h (by simp), fun _ s hs => absurd hs (by simp)⟩
      | none =>
        refine ⟨fun h => absurd h (by simp), fun _ s hs => ?_⟩
        simp only [bind, Option.bind_eq_some_iff] at hs
        obtain ⟨r, hr, hs⟩ := hs
        rw [hgrown.2 hname r hr] at hs
        exact absurd hs (by simp [wordBoundary, behindStartTag?])
    · rw [List.cons_append, behindRawText?_of_ne hc, behindRawText?_of_ne hc]
      exact ⟨fun h => absurd h (by simp), fun _ r hr => absurd hr (by simp)⟩

/-- **A stretch that is never markup** and takes the whole of a text is found there with a bracket behind it. -/
theorem behindOpaque?_bracket (d : Dialect) (before : Option Char) (text : Text) :
    Extends (behindOpaque? d before text) (behindOpaque? d before (text ++ ['>'])) :=
  (extends_behindRawText? text).or <|
    (Extends.findSome? fun block _ => extends_behindBlock? block text).or <|
      Extends.findSome? fun block _ => extends_behindDirectives? block before text

/-! ## Calls -/

/-- **The head of a call** does not look beyond its parenthesis, when no letter of its words stands for a bracket. -/
theorem callHead?_bracket {d : Dialect} (hhead : ∀ head ∈ d.directiveHead?, ∀ p ∈ head, Text.sameLetter p '>' = false)
    (hwords : ∀ word ∈ d.directiveKeywords, ∀ p ∈ word, Text.sameLetter p '>' = false) (before : Option Char)
    (text : Text) : callHead? d before (text ++ ['>']) = callHead? d before text := by
  unfold callHead? Dialect.directiveAt?
  cases hd : d.directiveHead? with
  | none => rfl
  | some head =>
    simp only
    split_ifs
    swap
    · rfl
    rw [dropHeadBy?_append (hhead head hd)]
    cases hrest : Text.dropHeadBy? Text.sameLetter head text with
    | none => rfl
    | some rest =>
      rw [Option.map_some]
      have hlongest : Dialect.longest? (fun word => (Text.dropHeadBy? Text.sameLetter word (rest ++ ['>'])).any fun rest =>
            Dialect.wordEnds rest && callFollows rest) d.directiveKeywords =
          Dialect.longest? (fun word => (Text.dropHeadBy? Text.sameLetter word rest).any fun rest =>
            Dialect.wordEnds rest && callFollows rest) d.directiveKeywords :=
        longest?_congr fun word hword => by
          rw [dropHeadBy?_append (hwords word hword), Option.any_map]
          congr 1
          funext behind
          rw [wordEnds_bracket, callFollows_bracket]
      simp only [hlongest]
      cases hword : Dialect.longest? (fun word => (Text.dropHeadBy? Text.sameLetter word rest).any fun rest =>
          Dialect.wordEnds rest && callFollows rest) d.directiveKeywords with
      | none => rfl
      | some word =>
        obtain ⟨r, hr, -⟩ := (Option.any_eq_true _ _).1 (longest?_eq_some hword).2
        have hlen : head.length + word.length ≤ text.length := by
          have h₁ := Text.dropHeadBy?_eq_drop hrest
          have h₂ := (Text.dropHeadBy?_eq_drop hr).2
          rw [h₁.1, List.length_drop] at h₂
          omega
        simp only [Option.map_some]
        rw [List.take_append_of_le_length hlen, List.drop_append_of_le_length (by simp [hlen]), takeWhile_bracket]

end Scanner

end SourceMark
