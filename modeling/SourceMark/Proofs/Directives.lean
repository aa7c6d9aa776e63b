/-
Directives in Blade are whole tokens. A directive is looked for among the words of a table, many of which begin like
others, and the longest one that fits is taken. No choice is left in this: what stands behind a word that fits is no word
character, and all characters of the words are, so the word is the whole run of word characters behind the at sign.

Results:
- `findDynamicAttribute?_eq_none_iff`: what is looked for as a dynamic attribute.
- `directiveAt?_eq_some_iff`: what is taken for a directive at the head of a text.
- `findDirective?_eq_some_iff`: the directive that is found is the first one.
- `hazard?_eq_directive_iff`: when a directive is the reason to leave a tag alone.
- `hazard?_wholeWord`: all of it in one statement.
Witness:
- `hazard?_wholeWord_lookalikes`: a directive behind five places that look like one.
-/
import SourceMark.Proofs.StaticTags.Hazards
import SourceMark.Proofs.TagCode
import SourceMark.Proofs.Text.Blanks
import SourceMark.Proofs.Text.Pieces
import SourceMark.Proofs.Text.Runs

namespace SourceMark.Dialect

open SourceMark.Language Scanner

/-! ## Dynamic attributes -/

/-- a dynamic attribute at the head of a text: a colon, a name, and an equals sign with blanks before it or not -/
def StartsDynamicAttribute (text : Text) : Prop :=
  ∃ name blanks rest, text = ':' :: (name ++ (blanks ++ '=' :: rest)) ∧ name ≠ [] ∧
    (∀ c ∈ name, isNameChar c = true) ∧ ∀ c ∈ blanks, Text.isBlank c = true

/-- a dynamic attribute at the head of a text or behind a blank of it -/
def HasDynamicAttribute (text : Text) : Prop :=
  ∃ front rest, text = front ++ rest ∧ (∀ c, front.getLast? = some c → Text.isBlank c = true) ∧
    StartsDynamicAttribute rest

theorem dynamicAttributeAt?_ne_none_iff {text : Text} : dynamicAttributeAt? text ≠ none ↔ StartsDynamicAttribute text := by
  constructor
  · intro h
    unfold dynamicAttributeAt? at h
    split at h
    · next rest =>
      dsimp only at h
      split at h
      · next c name more hname hmore =>
        refine ⟨rest.takeWhile isNameChar, (rest.dropWhile isNameChar).takeWhile Text.isBlank, more, ?_, ?_, ?_, ?_⟩
        · rw [← hmore, List.takeWhile_append_dropWhile, List.takeWhile_append_dropWhile]
        · simp [hname]
        · exact fun c hc => List.mem_takeWhile_imp hc
        · exact fun c hc => List.mem_takeWhile_imp hc
      · exact absurd rfl h
    · exact absurd rfl h
  · rintro ⟨name, blanks, rest, rfl, hne, hname, hblanks⟩
    have hbehind : ∀ c, (blanks ++ '=' :: rest).head? = some c → isNameChar c = false := by
      intro c hc
      cases blanks with
      | nil => exact Option.some.inj hc ▸ (by decide)
      | cons b blanks => exact Option.some.inj hc ▸ isNameChar_of_isBlank (hblanks b List.mem_cons_self)
    have hequals : ∀ c, ('=' :: rest).head? = some c → Text.isBlank c = false := by
      intro c hc
      exact Option.some.inj hc ▸ (by decide)
    simp only [dynamicAttributeAt?, Text.takeWhile_run hname hbehind, Text.dropWhile_run hname hbehind,
      Text.dropWhile_run hblanks hequals]
    cases name with
    | nil => exact absurd rfl hne
    | cons c more => simp

theorem dynamicAttributeBehindBlank?_ne_none_iff {text : Text} : dynamicAttributeBehindBlank? text ≠ none ↔
    ∃ front c rest, text = front ++ c :: rest ∧ Text.isBlank c = true ∧ StartsDynamicAttribute rest := by
  induction text with
  | nil => simp [dynamicAttributeBehindBlank?]
  | cons d text ih =>
    have hstep : dynamicAttributeBehindBlank? (d :: text) ≠ none ↔
        (Text.isBlank d = true ∧ StartsDynamicAttribute text) ∨ dynamicAttributeBehindBlank? text ≠ none := by
      rw [dynamicAttributeBehindBlank?, ← dynamicAttributeAt?_ne_none_iff]
      split_ifs with hd
      · rw [Ne, Option.or_eq_none_iff, not_and_or]
        simp only [hd, true_and, Ne]
      · simp [hd]
    rw [hstep, ih]
    constructor
    · rintro (⟨hd, hstarts⟩ | ⟨front, c, rest, rfl, hc, hstarts⟩)
      · exact ⟨[], d, text, rfl, hd, hstarts⟩
      · exact ⟨d :: front, c, rest, rfl, hc, hstarts⟩
    · rintro ⟨front, c, rest, htext, hc, hstarts⟩
      cases front with
      | nil =>
        obtain ⟨rfl, rfl⟩ := List.cons.inj htext
        exact .inl ⟨hc, hstarts⟩
      | cons e front =>
        obtain ⟨-, rfl⟩ := List.cons.inj htext
        exact .inr ⟨front, c, rest, rfl, hc, hstarts⟩

/-- **A dynamic attribute is found** just when there is one at the head of the text or behind a blank. -/
theorem findDynamicAttribute?_eq_none_iff {text : Text} : findDynamicAttribute? text = none ↔ ¬HasDynamicAttribute text := by
  rw [← not_iff_not, not_not, findDynamicAttribute?, Option.or_eq_none_iff, not_and_or, ← Ne, ← Ne,
    dynamicAttributeAt?_ne_none_iff, dynamicAttributeBehindBlank?_ne_none_iff]
  constructor
  · rintro (hstarts | ⟨front, c, rest, rfl, hc, hstarts⟩)
    · exact ⟨[], text, rfl, by simp, hstarts⟩
    · refine ⟨front ++ [c], rest, by simp, fun d hd => ?_, hstarts⟩
      rw [List.getLast?_concat] at hd
      exact Option.some.inj hd ▸ hc
  · rintro ⟨front, rest, rfl, hlast, hstarts⟩
    rcases List.eq_nil_or_concat front with rfl | ⟨front, c, rfl⟩
    · exact .inl hstarts
    · exact .inr ⟨front, c, rest, by simp, hlast c (by simp), hstarts⟩

/-! ## The word behind an at sign -/

theorem isWord_of_mem_keyword : ∀ word ∈ bladeDialect.directiveKeywords, ∀ c ∈ word, Text.isWord c = true := by
  decide +kernel

theorem isWord_of_wordEnds {text : Text} (h : wordEnds text = true) {c : Char} (hc : text.head? = some c) :
    Text.isWord c = false := by
  rw [wordEnds, hc, Option.all_some, Bool.not_eq_true', continuesWord, isNameChar] at h
  simp only [Bool.or_eq_false_iff] at h
  exact h.1.1.1.1

/-- **A word fits** just when it is the whole run of word characters and ends there. -/
theorem any_wordEnds_iff {word text : Text} (hword : ∀ c ∈ word, Text.isWord c = true) :
    (Text.dropHeadBy? (· == ·) word text).any wordEnds = true ↔
      word = text.takeWhile Text.isWord ∧ wordEnds (text.dropWhile Text.isWord) = true := by
  have hrecognised {rest : Text} : Text.dropHeadBy? (· == ·) word text = some rest ↔ text = word ++ rest :=
    Text.dropHead?_eq_some_iff
  simp only [Option.any_eq_true, hrecognised]
  constructor
  · rintro ⟨rest, rfl, hends⟩
    have hstop : ∀ c, rest.head? = some c → Text.isWord c = false := fun c hc => isWord_of_wordEnds hends hc
    rw [Text.takeWhile_run hword hstop, Text.dropWhile_run hword hstop]
    exact ⟨rfl, hends⟩
  · rintro ⟨rfl, hends⟩
    exact ⟨_, List.takeWhile_append_dropWhile.symm, hends⟩

/-- so there is no choice between the words of the table -/
theorem longest?_word_eq_some_iff {text word : Text} :
    longest? (fun word => (Text.dropHeadBy? (· == ·) word text).any wordEnds) bladeDialect.directiveKeywords = some word ↔
      word ∈ bladeDialect.directiveKeywords ∧ word = text.takeWhile Text.isWord ∧
        wordEnds (text.dropWhile Text.isWord) = true := by
  constructor
  · intro h
    obtain ⟨hmem, hfits⟩ := longest?_eq_some h
    exact ⟨hmem, (any_wordEnds_iff (isWord_of_mem_keyword word hmem)).1 hfits⟩
  · rintro ⟨hmem, hrun, hends⟩
    have hfits := (any_wordEnds_iff (isWord_of_mem_keyword word hmem)).2 ⟨hrun, hends⟩
    have hsome : longest? (fun word => (Text.dropHeadBy? (· == ·) word text).any wordEnds)
        bladeDialect.directiveKeywords ≠ none := longest?_ne_none hmem hfits
    obtain ⟨found, hfound⟩ := Option.ne_none_iff_exists'.1 hsome
    obtain ⟨hfoundmem, hfoundfits⟩ := longest?_eq_some hfound
    rw [hfound, ((any_wordEnds_iff (isWord_of_mem_keyword found hfoundmem)).1 hfoundfits).1, hrun]

/-- **A directive at the head of a text**: an at sign with no word character and no other at sign before it, and a word of
the table that ends where the run of word characters ends. -/
theorem directiveAt?_eq_some_iff {before : Option Char} {text name : Text} :
    bladeDialect.directiveAt? (· == ·) wordEnds before text = some name ↔
      startsWord before = true ∧ ∃ rest, text = '@' :: rest ∧
        rest.takeWhile Text.isWord ∈ bladeDialect.directiveKeywords ∧
        wordEnds (rest.dropWhile Text.isWord) = true ∧ name = '@' :: rest.takeWhile Text.isWord := by
  by_cases hbefore : startsWord before = true
  swap
  · have hnone : bladeDialect.directiveAt? (· == ·) wordEnds before text = none := if_neg hbefore
    simp [hnone, hbefore]
  by_cases hhead : text.head? = some '@'
  swap
  · rw [NoDirective.directiveAt?_of_head? hhead]
    constructor
    · exact fun h => absurd h (by simp)
    · rintro ⟨-, rest, rfl, -⟩
      exact absurd rfl hhead
  obtain ⟨rest, rfl⟩ := List.head?_eq_some_iff.1 hhead
  have hdrop : Text.dropHeadBy? (· == ·) ['@'] ('@' :: rest) = some rest := Text.dropHead?_eq_some_iff.2 rfl
  have hprefix : bladeDialect.directiveHead? = some ['@'] := rfl
  have htake : ('@' :: rest).take (['@'].length + (rest.takeWhile Text.isWord).length) =
      '@' :: rest.takeWhile Text.isWord := by
    rw [List.length_singleton, Nat.add_comm, List.take_succ_cons, ← (List.prefix_iff_eq_take.1 (List.takeWhile_prefix _))]
  simp only [directiveAt?, hprefix, if_pos hbefore, hdrop, Option.map_eq_some_iff, longest?_word_eq_some_iff]
  constructor
  · rintro ⟨word, ⟨hmem, rfl, hends⟩, rfl⟩
    exact ⟨hbefore, rest, rfl, hmem, hends, htake⟩
  · rintro ⟨-, _, heq, hmem, hends, rfl⟩
    obtain rfl := List.tail_eq_of_cons_eq heq
    exact ⟨_, ⟨hmem, rfl, hends⟩, htake⟩

/-! ## Directives by place -/

def wordBehind (text : Text) (place : Nat) : Text :=
  (text.drop (place + 1)).takeWhile Text.isWord

/-- a directive at a place: an at sign inside no word and behind no other one, and a word of the table behind it that does
not go on as the name of an attribute does -/
structure DirectiveAt (text : Text) (place : Nat) : Prop where
  atSign : text[place]? = some '@'
  apart : ∀ c ∈ (text.take place).getLast?, Text.isWord c = false ∧ c ≠ '@'
  keyword : wordBehind text place ∈ bladeDialect.directiveKeywords
  ends : ∀ c ∈ text[place + 1 + (wordBehind text place).length]?, c ∉ ['.', ':', '-', '=']

theorem directiveAt_iff {text : Text} {place : Nat} : DirectiveAt text place ↔ text[place]? = some '@' ∧
    (∀ c ∈ (text.take place).getLast?, Text.isWord c = false ∧ c ≠ '@') ∧
    wordBehind text place ∈ bladeDialect.directiveKeywords ∧
    ∀ c ∈ text[place + 1 + (wordBehind text place).length]?, c ∉ ['.', ':', '-', '='] :=
  ⟨fun h => ⟨h.atSign, h.apart, h.keyword, h.ends⟩, fun ⟨atSign, apart, keyword, ends⟩ => ⟨atSign, apart, keyword, ends⟩⟩

-- what stands at the place is looked at; a search through all characters would decide the same, and take too long
instance {text : Text} {place : Nat} : Decidable (DirectiveAt text place) :=
  haveI (o : Option Char) (p : Char → Prop) [DecidablePred p] : Decidable (∀ c ∈ o, p c) := o.decidableForallMem
  decidable_of_iff' _ directiveAt_iff

theorem startsWord_iff {before : Option Char} :
    startsWord before = true ↔ ∀ c ∈ before, Text.isWord c = false ∧ c ≠ '@' := by
  cases before with
  | none => simp [startsWord]
  | some c => simp [startsWord]

/-- behind the run of word characters, a word ends unless an attribute's name goes on -/
theorem wordEnds_dropWhile_iff {text : Text} : wordEnds (text.dropWhile Text.isWord) = true ↔
    ∀ c ∈ text[(text.takeWhile Text.isWord).length]?, c ∉ ['.', ':', '-', '='] := by
  have hhead : (text.dropWhile Text.isWord).head? = text[(text.takeWhile Text.isWord).length]? := by
    rw [← Text.drop_takeWhile, List.head?_drop]
  rw [wordEnds, ← hhead]
  cases hfirst : (text.dropWhile Text.isWord).head? with
  | none => simp
  | some c =>
    have hword := Text.head?_dropWhile hfirst
    simp [continuesWord, isNameChar, hword, and_assoc]

/-- what is read as a directive at a place of a text, given the character before the text -/
def directiveBehind? (d : Dialect) (before : Option Char) (text : Text) (place : Nat) : Option Text :=
  d.directiveAt? (· == ·) wordEnds ((text.take place).getLast?.or before) (text.drop place)

theorem directiveBehind?_eq_some_iff {text name : Text} {place : Nat} :
    bladeDialect.directiveBehind? none text place = some name ↔
      DirectiveAt text place ∧ name = '@' :: wordBehind text place := by
  rw [directiveBehind?, Option.or_none, directiveAt?_eq_some_iff, startsWord_iff]
  have hdrop {rest : Text} (h : text.drop place = '@' :: rest) : text.drop (place + 1) = rest := by
    rw [← List.drop_drop, h, List.drop_one, List.tail_cons]
  constructor
  · rintro ⟨hbefore, rest, hrest, hmem, hends, rfl⟩
    have hsign : text[place]? = some '@' := by
      rw [← Nat.add_zero place, ← List.getElem?_drop, hrest, List.getElem?_cons_zero]
    rw [← hdrop hrest] at hmem hends ⊢
    refine ⟨⟨hsign, hbefore, hmem, fun c hc => ?_⟩, rfl⟩
    rw [← List.getElem?_drop] at hc
    exact wordEnds_dropWhile_iff.1 hends c hc
  · rintro ⟨⟨hsign, hbefore, hmem, hends⟩, rfl⟩
    obtain ⟨hlt, hsign⟩ := List.getElem?_eq_some_iff.1 hsign
    refine ⟨hbefore, text.drop (place + 1), ?_, hmem, wordEnds_dropWhile_iff.2 fun c hc => ?_, rfl⟩
    · rw [List.drop_eq_getElem_cons hlt, hsign]
    · rw [List.getElem?_drop] at hc
      exact hends c hc

/-- **The directive that is found** is the one at the first place where one is read. -/
theorem findDirective?_eq_some_iff {d : Dialect} {before : Option Char} {text name : Text} :
    d.findDirective? before text = some name ↔
      ∃ place, Minimal (fun k => d.directiveBehind? before text k ≠ none) place ∧
        d.directiveBehind? before text place = some name := by
  induction text generalizing before with
  | nil =>
    have hsame (k : Nat) : d.directiveBehind? before [] k = d.findDirective? before [] := by
      simp [directiveBehind?, findDirective?]
    simp only [hsame]
    constructor
    · intro h
      exact ⟨0, (Text.minimal_zero (by simp [h])).2 rfl, h⟩
    · rintro ⟨-, -, h⟩
      exact h
  | cons c text ih =>
    have hzero : d.directiveBehind? before (c :: text) 0 = d.directiveAt? (· == ·) wordEnds before (c :: text) := by
      simp [directiveBehind?]
    have hsucc (k : Nat) : d.directiveBehind? before (c :: text) (k + 1) = d.directiveBehind? (some c) text k := by
      simp [directiveBehind?, List.getLast?_cons, Option.or_some]
    rw [findDirective?, ← hzero]
    cases hhead : d.directiveBehind? before (c :: text) 0 with
    | some found =>
      rw [Option.some_or]
      simp only [Text.minimal_zero (P := fun k => d.directiveBehind? before (c :: text) k ≠ none) (by simp [hhead]),
        exists_eq_left, hhead]
    | none =>
      rw [Option.none_or, ih]
      simp only [Text.minimal_succ (P := fun k => d.directiveBehind? before (c :: text) k ≠ none) (by simp [hhead]), hsucc]
      constructor
      · rintro ⟨k, hfirst, hname⟩
        exact ⟨k + 1, ⟨k, rfl, hfirst⟩, by rw [hsucc, hname]⟩
      · rintro ⟨-, ⟨k, rfl, hfirst⟩, hname⟩
        exact ⟨k, hfirst, by rw [← hsucc, hname]⟩

theorem findDirective?_blade_iff {text name : Text} : bladeDialect.findDirective? none text = some name ↔
    ∃ place, Minimal (DirectiveAt text) place ∧ name = '@' :: wordBehind text place := by
  have hread : (fun k => bladeDialect.directiveBehind? none text k ≠ none) = DirectiveAt text := by
    funext k
    rw [Option.ne_none_iff_exists']
    simp only [directiveBehind?_eq_some_iff, exists_and_left, exists_eq, and_true]
  rw [findDirective?_eq_some_iff, hread]
  refine exists_congr fun place => and_congr_right fun hfirst => ?_
  rw [directiveBehind?_eq_some_iff, and_iff_right hfirst.prop]

/-! ## The reason to leave a tag alone -/

/-- nothing in the text of a tag is code of another kind than directives -/
structure Codeless (text : Text) : Prop where
  rawCode : ∀ marker ∈ bladeDialect.rawCodeMarkers, ¬marker <:+: text
  unquoted : ∀ marker ∈ bladeDialect.unquotedMarkers, ¬marker <:+: Quote.blank text
  dynamicAttribute : ¬HasDynamicAttribute (Quote.blank text)

theorem find?_occursIn_eq_none_iff {markers : List Text} {text : Text} :
    markers.find? (Text.occursIn · text) = none ↔ ∀ marker ∈ markers, ¬marker <:+: text := by
  simp only [List.find?_eq_none, Text.occursIn_iff]

theorem Codeless.hazard?_eq {text : Text} (h : Codeless text) :
    bladeDialect.hazard? text = (bladeDialect.findDirective? none (Quote.blank text)).map Hazard.directive := by
  have hdynamic : (if bladeDialect.dynamicAttributes then findDynamicAttribute? (Quote.blank text) else none) = none :=
    findDynamicAttribute?_eq_none_iff.2 h.dynamicAttribute
  rw [Dialect.hazard?, find?_occursIn_eq_none_iff.2 h.rawCode, find?_occursIn_eq_none_iff.2 h.unquoted, hdynamic]
  simp only [Option.map_none, Option.none_or]

/-- **A directive is the reason** when there is no code of another kind, and it is the first one outside quotes. -/
theorem hazard?_eq_directive_iff {text name : Text} : bladeDialect.hazard? text = some (.directive name) ↔
    Codeless text ∧ ∃ place, Minimal (DirectiveAt (Quote.blank text)) place ∧
      name = '@' :: wordBehind (Quote.blank text) place := by
  constructor
  · intro h
    simp only [Dialect.hazard?, Option.or_eq_some_iff, Option.map_eq_some_iff, Option.map_eq_none_iff] at h
    obtain ⟨_, -, hkind⟩ | ⟨hraw, ⟨_, -, hkind⟩ | ⟨hunquoted, ⟨_, -, hkind⟩ | ⟨hdynamic, found, hdirective, hkind⟩⟩⟩ := h
    · exact absurd hkind (by simp)
    · exact absurd hkind (by simp)
    · exact absurd hkind (by simp)
    · obtain rfl := Hazard.directive.inj hkind
      exact ⟨⟨find?_occursIn_eq_none_iff.1 hraw, find?_occursIn_eq_none_iff.1 hunquoted,
        findDynamicAttribute?_eq_none_iff.1 hdynamic⟩, findDirective?_blade_iff.1 hdirective⟩
  · rintro ⟨h, hplace⟩
    rw [h.hazard?_eq, findDirective?_blade_iff.2 hplace, Option.map_some]

/-- no word of the table needs an escape, so a message shows a directive as it stands -/
theorem message_directive : ∀ word ∈ bladeDialect.directiveKeywords,
    (Hazard.directive ('@' :: word)).message = "directive '@".toList ++ word ++ "'".toList := by
  decide +kernel

/-- **Directives are whole words.** In a tag without code of another kind, a directive is the reason just when some place
outside quotes has one, and then the reason gives the first of them: the at sign and the whole run of word characters
behind it. -/
theorem hazard?_wholeWord (text : Text) (h : Codeless text) :
    ((∃ name, bladeDialect.hazard? text = some (.directive name)) ↔ ∃ place, DirectiveAt (Quote.blank text) place) ∧
      (∀ place, Minimal (DirectiveAt (Quote.blank text)) place →
        bladeDialect.hazard? text = some (.directive ('@' :: wordBehind (Quote.blank text) place)) ∧
        (bladeDialect.hazard? text).map Hazard.message =
          some ("directive '@".toList ++ wordBehind (Quote.blank text) place ++ "'".toList)) ∧
      (bladeDialect.hazard? text = none ↔ ∀ place, ¬DirectiveAt (Quote.blank text) place) := by
  have hfirst {place : Nat} (hplace : Minimal (DirectiveAt (Quote.blank text)) place) :
      bladeDialect.hazard? text = some (.directive ('@' :: wordBehind (Quote.blank text) place)) :=
    hazard?_eq_directive_iff.2 ⟨h, place, hplace, rfl⟩
  have hreported : (∃ name, bladeDialect.hazard? text = some (.directive name)) ↔
      ∃ place, DirectiveAt (Quote.blank text) place := by
    constructor
    · rintro ⟨name, hname⟩
      obtain ⟨-, place, hplace, -⟩ := hazard?_eq_directive_iff.1 hname
      exact ⟨place, hplace.prop⟩
    · rintro ⟨place, hplace⟩
      obtain ⟨first, hplace⟩ := Text.exists_first hplace
      exact ⟨_, hfirst hplace⟩
  refine ⟨hreported, fun place hplace => ⟨hfirst hplace, ?_⟩, ?_⟩
  · rw [hfirst hplace, Option.map_some, message_directive _ hplace.prop.keyword]
  · rw [← not_exists, ← hreported, h.hazard?_eq]
    cases bladeDialect.findDirective? none (Quote.blank text) <;> simp

/-- a tag with a title, a doubled at sign, an attribute, an address and a longer word before its directive -/
def lookalikes : Text :=
  "<div title=\"@if\" @@if @for=\"x\" a@if @foreachx @foreach($xs)>".toList

/-- the directive is found behind five places that look like one -/
theorem hazard?_wholeWord_lookalikes : Codeless lookalikes ∧ Minimal (DirectiveAt (Quote.blank lookalikes)) 42 ∧
    bladeDialect.hazard? lookalikes = some (.directive "@foreach".toList) := by
  have hcodeless : Codeless lookalikes :=
    ⟨find?_occursIn_eq_none_iff.1 (by decide +kernel), find?_occursIn_eq_none_iff.1 (by decide +kernel),
      findDynamicAttribute?_eq_none_iff.1 (by decide +kernel)⟩
  have hfirst : Minimal (DirectiveAt (Quote.blank lookalikes)) 42 := by
    refine minimal_iff_forall_lt.2 ⟨by decide +kernel, ?_⟩
    decide +kernel
  have hword : '@' :: wordBehind (Quote.blank lookalikes) 42 = "@foreach".toList := by decide +kernel
  exact ⟨hcodeless, hfirst, hword ▸ ((hazard?_wholeWord lookalikes hcodeless).2.1 42 hfirst).1⟩

end SourceMark.Dialect
