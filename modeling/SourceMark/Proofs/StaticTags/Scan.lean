/-
Static tags, as the scanner reads them. The name of a static tag is read up to the blank, the slash or the bracket behind
it, whatever names there are besides; the walk finds no bracket before the one that ends the tag; and no stretch of code
and no call begins where the tag begins.

Results:
- `nameLength?_static`: the name is read as a whole.
- `tagRegion_static`: the attributes are a tag region without code.
- `scan_static`: the scanner finds the tag and nothing else.
-/
import SourceMark.Annotator
import SourceMark.Proofs.Scan.Followed
import SourceMark.Proofs.StaticTags.Basic
import SourceMark.Proofs.TagGrammar

namespace SourceMark

open Annotator SourceMark.Language

namespace Scanner

/-! ## ASCII names -/

section Ascii

variable {pattern text rest : Text}

theorem map_toLower_of_forall₂ {u : Text} (hpattern : ∀ p ∈ pattern, p.toNat < 128) (hu : ∀ c ∈ u, c.toNat < 128)
    (h : List.Forall₂ (fun p c => Text.sameLetter p c = true) pattern u) :
    u.map Char.toLower = pattern.map Char.toLower := by
  induction h with
  | nil => rfl
  | @cons p c pattern u hpc _ ih =>
    rw [Text.sameLetter_of_ascii (hpattern p List.mem_cons_self) (hu c List.mem_cons_self), beq_iff_eq] at hpc
    rw [List.map_cons, List.map_cons, hpc, ih (fun p hp => hpattern p (List.mem_cons_of_mem _ hp))
      fun c hc => hu c (List.mem_cons_of_mem _ hc)]

/-- a pattern that is recognised stands in the text in small letters -/
theorem prefix_of_dropLetters? (hpattern : ∀ p ∈ pattern, p.toNat < 128) (htext : ∀ c ∈ text, c.toNat < 128)
    (h : dropLetters? pattern text = some rest) : pattern.map Char.toLower <+: text.map Char.toLower := by
  obtain ⟨u, rfl, hu⟩ := exists_recognised h
  have hsame := map_toLower_of_forall₂ hpattern (fun c hc => htext c (List.mem_append_left _ hc)) hu
  rw [List.map_append, hsame]
  exact List.prefix_append _ _

theorem dropLetters?_of_map_toLower (hpattern : ∀ p ∈ pattern, p.toNat < 128) (htext : ∀ c ∈ text, c.toNat < 128)
    (h : text.map Char.toLower = pattern.map Char.toLower) : dropLetters? pattern text = some [] := by
  induction pattern generalizing text with
  | nil => rw [List.map_eq_nil_iff.1 h]; rfl
  | cons p pattern ih =>
    cases text with
    | nil => exact absurd h (by simp)
    | cons c text =>
      obtain ⟨hc, htail⟩ := List.cons.inj h
      have hsame : Text.sameLetter p c = true := by
        rw [Text.sameLetter_of_ascii (hpattern p List.mem_cons_self) (htext c List.mem_cons_self), beq_iff_eq]
        exact hc
      have hrest := ih (fun p hp => hpattern p (List.mem_cons_of_mem _ hp))
        (fun c hc => htext c (List.mem_cons_of_mem _ hc)) htail
      rw [dropLetters?, Text.dropHeadBy?, if_pos hsame]
      exact hrest

end Ascii

/-! ## Where a name ends -/

/-- the characters behind the name of a static tag -/
def IsStop (c : Char) : Prop :=
  isAsciiBlank c = true ∨ c = '/' ∨ c = '>'

theorem nameEnds_cons {c : Char} (h : IsStop c) (rest : Text) : nameEnds (c :: rest) = true := by
  rcases h with h | rfl | rfl
  · simp [nameEnds, (Bool.and_eq_true_iff.1 h).1]
  · rfl
  · rfl

theorem ascii_of_isStop {c : Char} (h : IsStop c) : c.toNat < 128 := by
  rcases h with h | rfl | rfl
  · exact of_decide_eq_true (Bool.and_eq_true_iff.1 h).2
  · decide
  · decide

theorem isTail_of_isStop {c : Char} (h : IsStop c) : AttributeName.isTail c = false := by
  rw [← Bool.not_eq_true]
  intro htail
  rcases h with h | rfl | rfl
  · rw [isAsciiBlank, Text.isBlank_of_isTail htail, Bool.false_and] at h
    exact absurd h (by decide)
  · exact absurd htail (by decide)
  · exact absurd htail (by decide)

/-- the characters of component names in ASCII are those of attribute names -/
theorem isNameChar_of_ascii {c : Char} (h : c.toNat < 128) : Dialect.isNameChar c = AttributeName.isTail c := by
  simp only [Dialect.isNameChar, Text.isWord, if_pos h, AttributeName.isTail]
  ac_rfl

theorem isNameChar_of_isTail {c : Char} (h : AttributeName.isTail c = true) : Dialect.isNameChar c = true := by
  rwa [isNameChar_of_ascii (Text.ascii_of_isTail h)]

theorem isNameChar_of_isStop {c : Char} (h : IsStop c) : Dialect.isNameChar c = false := by
  rw [isNameChar_of_ascii (ascii_of_isStop h), isTail_of_isStop h]

theorem nameEnds_of_isTail {c : Char} (h : AttributeName.isTail c = true) (rest : Text) :
    nameEnds (c :: rest) = false := by
  have hslash : c ≠ '/' := fun heq => absurd (heq ▸ h) (by decide)
  have hbracket : c ≠ '>' := fun heq => absurd (heq ▸ h) (by decide)
  simp [nameEnds, Text.isBlank_of_isTail h, hslash, hbracket]

theorem sameLetter_stop {p c : Char} (hp : AttributeName.isTail p = true) (hc : IsStop c) :
    Text.sameLetter p c = false := by
  rw [← Bool.not_eq_true]
  intro h
  have htail := Text.isTail_of_sameLetter hp (ascii_of_isStop hc) h
  rw [isTail_of_isStop hc] at htail
  exact absurd htail (by decide)

/-- a name is recognised before a stop in what stands before the stop -/
theorem dropLetters?_stop {pattern : Text} (hpattern : ∀ p ∈ pattern, AttributeName.isTail p = true) {c : Char}
    (hc : IsStop c) (u rest : Text) :
    dropLetters? pattern (u ++ c :: rest) = (dropLetters? pattern u).map (· ++ c :: rest) :=
  dropHeadBy?_append (fun p hp => sameLetter_stop (hpattern p hp) hc) u rest

/-! ## Names -/

section Names

variable {name pattern : Text} {c : Char} {rest : Text}

/-- **A pattern that is recognised at a name** stands in the name in small letters. -/
theorem prefix_of_name (hname : ∀ c ∈ name, AttributeName.isTail c = true)
    (hpattern : ∀ p ∈ pattern, AttributeName.isTail p = true) (hc : IsStop c) {r : Text}
    (h : dropLetters? pattern (name ++ c :: rest) = some r) :
    pattern.map Char.toLower <+: name.map Char.toLower := by
  rw [dropLetters?_stop hpattern hc] at h
  obtain ⟨s, hs, -⟩ := Option.map_eq_some_iff.1 h
  exact prefix_of_dropLetters? (fun p hp => Text.ascii_of_isTail (hpattern p hp))
    (fun c hc => Text.ascii_of_isTail (hname c hc)) hs

theorem isTail_of_mem_defaultTags : ∀ tag ∈ defaultTags, ∀ c ∈ tag, AttributeName.isTail c = true := by
  decide

theorem prefix_notMem_defaultTags : ∀ tag ∈ defaultTags, ¬"x-".toList <+: tag := by
  decide

theorem componentName?_component (hrest : name ≠ []) (hname : ∀ c ∈ name, AttributeName.isTail c = true)
    (hc : IsStop c) : (ofSettings .standard).scanner.componentName? ("x-".toList ++ name ++ c :: rest) =
      some ("x-".toList ++ name).length := by
  have hdrop : dropLetters? "x-".toList ("x-".toList ++ (name ++ c :: rest)) = some (name ++ c :: rest) :=
    dropHeadBy?_self Text.sameLetter_self _ _
  have hmore : (name ++ c :: rest).takeWhile Dialect.isNameChar = name := by
    rw [List.takeWhile_append_of_pos fun d hd => isNameChar_of_isTail (hname d hd),
      List.takeWhile_cons_of_neg (by simp [isNameChar_of_isStop hc]), List.append_nil]
  have hprefix : (ofSettings .standard).scanner.componentPrefix = "x-".toList := rfl
  rw [componentName?, hprefix, if_neg (by decide), List.append_assoc, hdrop, Option.bind_some]
  simp only [hmore, List.drop_left, nameEnds_cons hc, Bool.and_true, Bool.not_eq_true', List.isEmpty_eq_false_iff]
  rw [if_pos hrest, List.length_append]

theorem componentName?_defaultTag (hname : name.map Char.toLower ∈ defaultTags)
    (htail : ∀ c ∈ name, AttributeName.isTail c = true) (hc : IsStop c) :
    (ofSettings .standard).scanner.componentName? (name ++ c :: rest) = none := by
  have hdrop : dropLetters? (ofSettings .standard).scanner.componentPrefix (name ++ c :: rest) = none := by
    rw [Option.eq_none_iff_forall_ne_some]
    intro r hr
    exact prefix_notMem_defaultTags _ hname (prefix_of_name htail (by decide) hc hr)
  rw [componentName?, hdrop]
  split_ifs <;> rfl

theorem any_nameEnds_iff (htail : ∀ c ∈ name, AttributeName.isTail c = true)
    (hpattern : ∀ p ∈ pattern, AttributeName.isTail p = true) (hc : IsStop c) :
    (dropLetters? pattern (name ++ c :: rest)).any nameEnds = true ↔ dropLetters? pattern name = some [] := by
  rw [dropLetters?_stop hpattern hc]
  cases hdrop : dropLetters? pattern name with
  | none => simp
  | some r =>
    cases r with
    | nil => simp [nameEnds_cons hc]
    | cons d r =>
      obtain ⟨u, rfl, -⟩ := exists_recognised hdrop
      have hd := htail d (List.mem_append_right u List.mem_cons_self)
      simp [nameEnds_of_isTail hd]

theorem tagNames_defaultTag (hname : name.map Char.toLower ∈ defaultTags)
    (htail : ∀ c ∈ name, AttributeName.isTail c = true) (hc : IsStop c) :
    (defaultTags.findSome? fun tag =>
      if !tag.isEmpty && (dropLetters? tag (name ++ c :: rest)).any nameEnds then some tag.length else none) =
        some name.length := by
  have hlength {tag : Text} (htag : tag ∈ defaultTags) (h : dropLetters? tag name = some []) :
      tag.length = name.length := by
    obtain ⟨hnil, hle⟩ := Text.dropHeadBy?_eq_drop h
    exact Nat.le_antisymm hle (List.drop_eq_nil_iff.1 hnil.symm)
  have hascii : ∀ tag ∈ defaultTags, ∀ p ∈ tag, p.toNat < 128 :=
    fun tag htag p hp => Text.ascii_of_isTail (isTail_of_mem_defaultTags tag htag p hp)
  have hself : dropLetters? (name.map Char.toLower) name = some [] := by
    have hsmall : ∀ tag ∈ defaultTags, tag.map Char.toLower = tag := by decide
    exact dropLetters?_of_map_toLower (hascii _ hname) (fun c hc => Text.ascii_of_isTail (htail c hc))
      (hsmall _ hname).symm
  have hne : ∀ tag ∈ defaultTags, tag.isEmpty = false := by decide
  cases hfound : defaultTags.findSome? fun tag =>
      if !tag.isEmpty && (dropLetters? tag (name ++ c :: rest)).any nameEnds then some tag.length else none with
  | none =>
    have hmissed := List.findSome?_eq_none_iff.1 hfound _ hname
    rw [hne _ hname, (any_nameEnds_iff htail (isTail_of_mem_defaultTags _ hname) hc).2 hself] at hmissed
    exact absurd hmissed (by simp)
  | some n =>
    obtain ⟨tag, htag, hn⟩ := List.exists_of_findSome?_eq_some hfound
    split_ifs at hn with hends
    rw [← Option.some.inj hn]
    rw [Bool.and_eq_true, any_nameEnds_iff htail (isTail_of_mem_defaultTags tag htag) hc] at hends
    rw [hlength htag hends.2]

/-- **The name of a static tag** is read as a whole. -/
theorem nameLength?_static (h : IsTargetName name) (hc : IsStop c) (rest : Text) :
    (ofSettings .standard).scanner.nameLength? (name ++ c :: rest) = some name.length := by
  have htail := h.isTail
  rcases h with hname | ⟨more, rfl, hmore, hrest⟩
  · rw [nameLength?, componentName?_defaultTag hname htail hc, Option.none_or]
    exact tagNames_defaultTag hname htail hc
  · rw [nameLength?, componentName?_component hmore hrest hc, Option.some_or]

/-- a target name does not begin with the name of a raw-text element -/
theorem rawText_notMem_name (h : IsTargetName name) {element : Text} (helement : element ∈ rawTextElements) :
    ¬element.map Char.toLower <+: name.map Char.toLower := by
  intro hprefix
  rcases h.map_toLower with hname | hname
  · have hnone : ∀ element ∈ rawTextElements, ∀ tag ∈ defaultTags, ¬element.map Char.toLower <+: tag := by
      decide +kernel
    exact hnone element helement _ hname hprefix
  · have hapart : ∀ element ∈ rawTextElements,
        ¬element.map Char.toLower <+: "x-".toList ∧ ¬"x-".toList <+: element.map Char.toLower := by
      decide
    rcases List.prefix_or_prefix_of_prefix hprefix hname with hshort | hshort
    · exact (hapart element helement).1 hshort
    · exact (hapart element helement).2 hshort

theorem behindRawText?_static (h : IsTargetName name) (hc : IsStop c) :
    behindRawText? ('<' :: (name ++ c :: rest)) = none := by
  rw [behindRawText?, List.findSome?_eq_none_iff]
  intro element helement
  have helementTail : ∀ element ∈ rawTextElements, ∀ p ∈ element, AttributeName.isTail p = true := by decide
  have hdrop : dropLetters? element (name ++ c :: rest) = none := by
    rw [Option.eq_none_iff_forall_ne_some]
    intro r hr
    exact rawText_notMem_name h helement (prefix_of_name h.isTail (helementTail element helement) hc hr)
  simp only [bind, hdrop, Option.bind_none]

end Names

/-! ## What begins at a tag -/

theorem behindBlock?_name {block : Delimiters} (hblock : block ∈ bladeDialect.codeBlocks) {d : Char}
    (hd : AttributeName.isTail d = true) (rest : Text) : behindBlock? block ('<' :: d :: rest) = none := by
  have hquestion : Text.sameLetter '?' d = false := by
    rw [← Bool.not_eq_true]
    intro h
    rw [Text.sameLetter_sign (by decide) (by decide) h] at hd
    exact absurd hd (by decide)
  have hopeners : ∀ block ∈ bladeDialect.codeBlocks, (∃ more, block.opener = '\x7b' :: more) ∨
      ∃ more, block.opener = '<' :: '?' :: more := by
    intro block hblock
    simp only [bladeDialect, List.mem_cons, List.not_mem_nil, or_false] at hblock
    rcases hblock with rfl | rfl | rfl | rfl | rfl
    · exact Or.inl ⟨_, rfl⟩
    · exact Or.inl ⟨_, rfl⟩
    · exact Or.inl ⟨_, rfl⟩
    · exact Or.inr ⟨_, rfl⟩
    · exact Or.inr ⟨_, rfl⟩
  have hdrop : dropLetters? block.opener ('<' :: d :: rest) = none := by
    rcases hopeners block hblock with ⟨more, hmore⟩ | ⟨more, hmore⟩
    · rw [hmore, dropLetters?, Text.dropHeadBy?, if_neg (by decide)]
    · rw [hmore, dropLetters?, Text.dropHeadBy?, if_pos (Text.sameLetter_self '<'), Text.dropHeadBy?,
        if_neg (by simp [hquestion])]
  rw [behindBlock?, hdrop, Option.bind_none]

/-- **At a static tag a tag is read**, no stretch of code and no call. -/
theorem read_static {name : Text} (h : IsTargetName name) (hne : name ≠ []) {c : Char} (hc : IsStop c) (rest : Text) :
    (ofSettings .standard).scanner.read none 0 ('<' :: (name ++ c :: rest)) =
      ((ofSettings .standard).scanner.tagAt? 0 ('<' :: (name ++ c :: rest))).getD .ordinary := by
  have hat : ∀ more, dropLetters? ('@' :: more) ('<' :: (name ++ c :: rest)) = none := by
    intro more
    rw [dropLetters?, Text.dropHeadBy?, if_neg (by decide)]
  refine Checked.read_eq_tagAt? ?_ ?_
  · obtain ⟨d, more, rfl⟩ := List.exists_cons_of_ne_nil hne
    have hd := h.isTail d List.mem_cons_self
    have hblocks : bladeDialect.codeBlocks.findSome? (behindBlock? · ('<' :: (d :: more ++ c :: rest))) = none :=
      List.findSome?_eq_none_iff.2 fun block hblock => behindBlock?_name hblock hd _
    have hdirectives :
        bladeDialect.blockDirectives.findSome? (behindDirectives? · none ('<' :: (d :: more ++ c :: rest))) = none := by
      refine List.findSome?_eq_none_iff.2 fun block hblock => ?_
      obtain rfl := List.mem_singleton.1 hblock
      rw [behindDirectives?, behindWord?, show "@php".toList = '@' :: "php".toList from rfl, hat]
      rfl
    show behindOpaque? bladeDialect none _ = none
    rw [behindOpaque?, behindRawText?_static h hc, hblocks, hdirectives]
    rfl
  · show callHead? bladeDialect none _ = none
    have hhead : bladeDialect.directiveHead? = some ['@'] := rfl
    have hdrop : Text.dropHeadBy? Text.sameLetter ['@'] ('<' :: (name ++ c :: rest)) = none := hat []
    simp only [callHead?, Dialect.directiveAt?, hhead, hdrop]
    rfl

end Scanner

/-! ## The end of a tag -/

namespace StaticTag

open Nesting

theorem opensNone_of_isPlain {c : Char} (h : isPlain c = true) (text : Text) :
    OpensNone (regionsFor (some .blade)) (c :: text) := by
  have hheads : ∀ region ∈ regionsFor (some .blade), region.opener.head?.any (Text.signs.erase '@').contains = true := by
    decide
  intro region hregion hhead
  obtain ⟨p, hopener, hp⟩ := (Option.any_eq_true _ _).1 (hheads region hregion)
  rw [List.contains_iff_mem] at hp
  obtain ⟨more, hmore⟩ := List.head?_eq_some_iff.1 hopener
  rw [hmore, List.cons_prefix_cons] at hhead
  exact ne_of_isPlain h hp hhead.1.symm

theorem tagRegion_plain {u text rest : Text} {gt : Bool} (hu : ∀ c ∈ u, isPlain c = true)
    (h : TagRegion (regionsFor (some .blade)) text rest gt) :
    TagRegion (regionsFor (some .blade)) (u ++ text) rest gt := by
  induction u with
  | nil => exact h
  | cons c u ih =>
    have hc := hu c List.mem_cons_self
    have hbrackets : c ≠ '>' ∧ c ≠ '<' := ⟨ne_of_isPlain hc (by decide), ne_of_isPlain hc (by decide)⟩
    exact .char (isQuote_of_isPlain hc) hbrackets (opensNone_of_isPlain hc _)
      (ih fun d hd => hu d (List.mem_cons_of_mem _ hd))

theorem isSpan_of_notMem {quote : Char} {value : Text} (h : quote ∉ value) : Quote.IsSpan false quote value where
  ends := by simp
  passes front more hvalue := absurd (hvalue ▸ List.mem_append_right front List.mem_cons_self) h

theorem tagRegion_written (attributes : List (Gap × StaticAttribute)) {text rest : Text} {gt : Bool}
    (h : TagRegion (regionsFor (some .blade)) text rest gt) :
    TagRegion (regionsFor (some .blade)) (written attributes ++ text) rest gt := by
  induction attributes with
  | nil => exact h
  | cons a attributes ih =>
    obtain ⟨⟨blanks, hne, hblanks⟩, a⟩ := a
    have hgap : ∀ c ∈ blanks, isPlain c = true := fun c hc => isPlain_of_isBlank (hblanks c hc)
    simp only [written_cons, StaticAttribute.text, List.append_assoc]
    refine tagRegion_plain hgap (tagRegion_plain a.isPlain_lead ?_)
    cases a with
    | bare name isName => exact ih
    | valued atSign name quote value isName isQuote quote_notMem =>
      have hspan := TagRegion.span isQuote (isSpan_of_notMem quote_notMem) ih
      simpa [StaticAttribute.quoted] using hspan

/-- **The attributes of a static tag** are a tag region in which no bracket stands in code. -/
theorem tagRegion_static (t : StaticTag) (rest : Text) :
    TagRegion (regionsFor (some .blade)) (t.tag.attributes ++ '>' :: rest) ('>' :: rest) false := by
  rw [tag, List.append_assoc]
  exact tagRegion_written t.attributes (tagRegion_plain t.isPlain_ending (.nil _))

/-- behind the name of a static tag stands a blank, a slash or a bracket -/
theorem exists_stop (t : StaticTag) : ∃ c rest, t.tag.attributes ++ ['>'] = c :: rest ∧ Scanner.IsStop c := by
  have hgap {blanks : Text} (hne : blanks ≠ []) (hblanks : ∀ c ∈ blanks, isAsciiBlank c = true) (rest : Text) :
      ∃ c more, blanks ++ rest = c :: more ∧ Scanner.IsStop c := by
    obtain ⟨c, blanks, rfl⟩ := List.exists_cons_of_ne_nil hne
    exact ⟨c, _, rfl, Or.inl (hblanks c List.mem_cons_self)⟩
  rw [tag]
  cases t.attributes with
  | cons a attributes =>
    simp only [written_cons, List.append_assoc]
    exact hgap a.1.2.1 a.1.2.2 _
  | nil =>
    by_cases hne : t.blanks = []
    · cases hclosed : t.closed with
      | true => exact ⟨'/', ['>'], by simp [written, ending, hne, hclosed], Or.inr (Or.inl rfl)⟩
      | false => exact ⟨'>', [], by simp [written, ending, hne, hclosed], Or.inr (Or.inr rfl)⟩
    · simp only [written, List.flatMap_nil, List.nil_append, ending, List.append_assoc]
      exact hgap hne t.isBlank_blanks _

/-- **The scanner finds a static tag** and nothing else in its text. -/
theorem scan_static (t : StaticTag) : (ofSettings .standard).scanner.scan t.text = [t.tag] := by
  obtain ⟨c, rest, hrest, hc⟩ := t.exists_stop
  have htext : t.text = '<' :: (t.name ++ c :: rest) := by
    rw [← hrest]
    simp [text, Tag.text, tag]
  have hname := Scanner.nameLength?_static t.isTargetName hc rest
  have hbody : Nesting.body? (ofSettings .standard).scanner.dialect.nestedRegions ((t.name ++ c :: rest).drop t.name.length) =
      some ⟨t.tag.attributes, false, []⟩ := by
    rw [List.drop_left, ← hrest]
    exact (body?_eq_some_iff (wellFormed_regionsFor (some .blade)) (quiet_regionsFor (some .blade))).2
      ⟨rfl, t.tagRegion_static []⟩
  have htag : (ofSettings .standard).scanner.tagAt? 0 ('<' :: (t.name ++ c :: rest)) = some (.tag t.tag) := by
    rw [Scanner.tagAt?_of_name 0 hname, hbody, List.take_left]
    rfl
  have hread := Scanner.read_static t.isTargetName t.isTargetName.ne_nil hc rest
  rw [htag, Option.getD_some] at hread
  -- behind the tag its text is at its end
  rw [Scanner.scan, htext, Checked.scanFrom_of_tag hread, ← htext, Checked.behind, text, List.drop_length]
  rfl

end StaticTag

end SourceMark
