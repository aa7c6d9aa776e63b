/-
Template code in a tag, as the scanner reads it. A fragment is template code when the scanner, at its start, steps over it
at once and as a whole. With a tag around it the fragment is read by the walk over the tag, which knows other regions than
the scanner. Where the walk finds no end, the scanner comes to the fragment and steps over it.

Results:
- `StepsOver.scanFrom_eq_nil`: no tag is found in a fragment that the scanner steps over.
- `StepsOver.rest_eq_nil`: the tag ends behind the fragment, unless that is a comment or a block between two directives.
-/
import SourceMark.Proofs.Drift
import SourceMark.Proofs.Scan.Followed
import SourceMark.Proofs.Walk.Closers

namespace SourceMark

namespace Language

/-- the comments of Blade, the only blocks of its code that are no regions of a tag -/
def bladeComments : Delimiters :=
  ⟨"\x7b\x7b--".toList, "--\x7d\x7d".toList⟩

def bladeCodeDirectives : Delimiters :=
  ⟨"@php".toList, "@endphp".toList⟩

end Language

/-- a tag with a fragment behind its name -/
def tagWith (fragment : Text) : Text :=
  "<div ".toList ++ fragment ++ ['>']

theorem tagWith_append (front rest : Text) :
    tagWith (front ++ rest) = ("<div ".toList ++ front) ++ (rest ++ ['>']) := by
  rw [tagWith, ← List.append_assoc, List.append_assoc]

namespace Scanner

open SourceMark.Language

/-- whether a fragment is template code that the scanner steps over at once and as a whole: a stretch that is never markup,
or the call of a directive with arguments that end -/
def StepsOver (d : Dialect) (fragment : Text) : Prop :=
  behindOpaque? d none fragment = some [] ∨ behindOpaque? d none fragment = none ∧
    ∃ n ∈ callHead? d none fragment,
      Nesting.length? d.nestedRegions 0 [[')']] (fragment.drop n) = some (fragment.drop n).length

instance (d : Dialect) (fragment : Text) : Decidable (StepsOver d fragment) := by
  unfold StepsOver; infer_instance

variable {sc : Scanner} {fragment : Text}

/-! ## Stepping over a fragment -/

theorem readable_blade : ReadableDialect true bladeDialect :=
  readableDialect .blade

theorem closes_blade : Nesting.Closes bladeDialect.nestedRegions :=
  readable_blade.regions.closes

theorem StepsOver.ne_nil (h : StepsOver bladeDialect fragment) : fragment ≠ [] := by
  rintro rfl
  exact absurd h (by decide)

theorem sameLetter_bracket_of_word : ∀ word ∈ bladeDialect.directiveKeywords, ∀ p ∈ word,
    Text.sameLetter p '>' = false :=
  fun word hword p hp => nameable_of_isOrdinary (isOrdinary_of_word word hword) p hp '>' (by decide)

/-- what a fragment that the scanner steps over is -/
theorem StepsOver.kinds (h : StepsOver bladeDialect fragment) :
    behindRawText? fragment = some [] ∨ (∃ block ∈ bladeDialect.codeBlocks, behindBlock? block fragment = some []) ∨
      behindDirectives? bladeCodeDirectives none fragment = some [] ∨
        ∃ n, callHead? bladeDialect none fragment = some n ∧
          Nesting.length? bladeDialect.nestedRegions 0 [[')']] (fragment.drop n) = some (fragment.drop n).length := by
  rcases h with h | ⟨-, n, hn, hlength⟩
  · rw [behindOpaque?, Option.or_eq_some_iff, Option.or_eq_some_iff] at h
    rcases h with h | ⟨-, h | ⟨-, h⟩⟩
    · exact Or.inl h
    · obtain ⟨block, hblock, h⟩ := List.exists_of_findSome?_eq_some h
      exact Or.inr (Or.inl ⟨block, hblock, h⟩)
    · obtain ⟨block, hblock, h⟩ := List.exists_of_findSome?_eq_some h
      obtain rfl := List.mem_singleton.1 hblock
      exact Or.inr (Or.inr (Or.inl h))
  · exact Or.inr (Or.inr (Or.inr ⟨n, hn, hlength⟩))

/-- **The scanner steps over the fragment** also inside a longer text, alone or with the bracket that follows it. -/
theorem StepsOver.exists_stretch (h : StepsOver sc.dialect fragment) (hblade : sc.dialect = bladeDialect)
    {before : Option Char} (hbefore : Dialect.startsWord before = true) (offset : Nat) :
    ∃ n, sc.read before offset (fragment ++ ['>']) = .stretch n ∧ fragment.length ≤ n := by
  have hopaque := behindOpaque?_bracket sc.dialect before fragment
  have hstart : Dialect.startsWord none = Dialect.startsWord before := hbefore.symm
  rw [StepsOver, behindOpaque?_before hstart, callHead?_before hstart] at h
  unfold read
  cases hbracket : behindOpaque? sc.dialect before (fragment ++ ['>']) with
  | some r =>
    have hshort : r.length ≤ 1 := by
      rcases h with h | ⟨h, -⟩
      · obtain ⟨s, hs, hlen⟩ := hopaque.1 h
        rw [hbracket, Option.some.injEq] at hs
        rwa [hs]
      · exact hopaque.2 h r hbracket
    refine ⟨_, rfl, ?_⟩
    rw [List.length_append, List.length_singleton]
    omega
  | none =>
    rcases h with h | ⟨-, n, hn, hlength⟩
    · obtain ⟨s, hs, -⟩ := hopaque.1 h
      exact absurd (hbracket.symm.trans hs) (by simp)
    · rw [hblade] at hn hlength ⊢
      have hlt : n < fragment.length := by
        by_contra hge
        rw [List.drop_eq_nil_of_le (by omega)] at hlength
        exact absurd hlength (by simp [Nesting.length?])
      have hhead : callHead? bladeDialect before (fragment ++ ['>']) = some n :=
        (callHead?_bracket (by decide +kernel) sameLetter_bracket_of_word before fragment).trans hn
      have harguments := Nesting.length?_bracket closes_blade (by simp [Nesting.Closable]) (by decide +kernel) hlength
      refine ⟨n + (fragment.drop n).length, ?_, by rw [List.length_drop]; omega⟩
      rw [call?, hhead, Option.map_some, List.drop_append_of_le_length (by omega), harguments, Option.getD_some]

/-- nothing is found behind a fragment and in the bracket that follows it -/
theorem scanFrom_bracket (hblade : sc.dialect = bladeDialect) {n : Nat} (hn : fragment.length ≤ n) (before : Option Char)
    (offset : Nat) : sc.scanFrom 0 before offset ((fragment ++ ['>']).drop n) = [] := by
  have hrest : (fragment ++ ['>']).drop n = ['>'].drop (n - fragment.length) := by
    rw [List.drop_append, List.drop_eq_nil_of_le hn, List.nil_append]
  rw [hrest]
  cases n - fragment.length with
  | zero =>
    have hidle : sc.read before offset ['>'] = .ordinary :=
      read_idle (hblade.symm ▸ readable_blade) before offset (Or.inr (Or.inr rfl)) []
    rw [List.drop_zero, scanFrom, hidle]
    rfl
  | succ m => simp [scanFrom]

/-- **No tag is found in a fragment** that the scanner steps over, and none in the bracket that follows it. -/
theorem StepsOver.scanFrom_eq_nil (h : StepsOver sc.dialect fragment) (hblade : sc.dialect = bladeDialect)
    {before : Option Char} (hbefore : Dialect.startsWord before = true) (offset : Nat) :
    sc.scanFrom 0 before offset (fragment ++ ['>']) = [] := by
  obtain ⟨n, hread, hn⟩ := h.exists_stretch hblade hbefore offset
  obtain ⟨c, rest, hfragment⟩ := List.exists_cons_of_ne_nil (hblade ▸ h).ne_nil
  rw [hfragment, List.length_cons] at hn
  rw [hfragment, List.cons_append] at hread ⊢
  rw [scanFrom, hread]
  simp only
  rw [scanFrom_skip]
  have hdrop : (rest ++ ['>']).drop (n - 1) = (c :: rest ++ ['>']).drop n := by
    rw [List.cons_append, ← List.drop_succ_cons, Nat.sub_add_cancel (by omega)]
  rw [hdrop]
  exact scanFrom_bracket hblade hn _ _

/-! ## The tag -/

def walk? (fragment : Text) : Option Nesting.Body :=
  Nesting.body? bladeDialect.nestedRegions (' ' :: (fragment ++ ['>']))

def tagOf (body : Nesting.Body) : Tag :=
  ⟨"div".toList, body.attributes, 0, body.nestedGt⟩

theorem tagAt?_tagWith (fragment : Text) : (Annotator.ofSettings .standard).scanner.tagAt? 0 (tagWith fragment) =
    some (match walk? fragment with
      | some body => .tag (tagOf body)
      | none => .stretch 4) := by
  rfl

theorem read_tagWith (fragment : Text) : (Annotator.ofSettings .standard).scanner.read none 0 (tagWith fragment) =
    match walk? fragment with
      | some body => .tag (tagOf body)
      | none => .stretch 4 := by
  rfl

theorem scan_tagWith (fragment : Text) : (Annotator.ofSettings .standard).scanner.scan (tagWith fragment) =
    match walk? fragment with
      | some body => tagOf body :: (Annotator.ofSettings .standard).scanner.scanFrom ((tagOf body).text.length - 1)
          (some '<') 1 ("div".toList ++ ' ' :: (fragment ++ ['>']))
      | none => (Annotator.ofSettings .standard).scanner.scanFrom 0 (some 'v') 4 (' ' :: (fragment ++ ['>'])) := by
  have hread := read_tagWith fragment
  rw [show tagWith fragment = '<' :: ("div".toList ++ ' ' :: (fragment ++ ['>'])) from rfl] at hread ⊢
  rw [scan, scanFrom, hread]
  cases walk? fragment <;> rfl

theorem scan_of_walk?_eq_none (h : StepsOver bladeDialect fragment) (hwalk : walk? fragment = none) :
    (Annotator.ofSettings .standard).scanner.scan (tagWith fragment) = [] := by
  have hidle : (Annotator.ofSettings .standard).scanner.read (some 'v') 4 (' ' :: (fragment ++ ['>'])) = .ordinary :=
    read_idle readable_blade (some 'v') 4 (Or.inl (by decide)) _
  rw [scan_tagWith, hwalk]
  simp only
  rw [scanFrom, hidle]
  exact StepsOver.scanFrom_eq_nil h rfl (by decide) 5

theorem scan_of_walk?_eq_some {body : Nesting.Body} (hwalk : walk? fragment = some body) :
    ∃ before offset, (Annotator.ofSettings .standard).scanner.scan (tagWith fragment) =
      tagOf body :: (Annotator.ofSettings .standard).scanner.scanFrom 0 before offset body.rest := by
  have hrest : (tagWith fragment).drop (tagOf body).text.length = body.rest :=
    drop_text_length (s := "div".toList ++ ' ' :: (fragment ++ ['>'])) (n := 3) (by simp) rfl
      (Nesting.body?_eq_some hwalk)
  rw [scan_tagWith, hwalk]
  simp only
  rw [scanFrom_skip, ← hrest]
  exact ⟨_, _, rfl⟩

/-! ## Where the tag ends -/

theorem walk?_eq (fragment : Text) : walk? fragment =
    (Nesting.bodyFrom? bladeDialect.nestedRegions 0 [] (fragment ++ ['>'])).map (.push ' ' false) := by
  rfl

/-- a tag with an opening bracket in it is read when the bracket is one of raw code -/
theorem exists_marker {rest : Text} {body : Nesting.Body} (h : walk? ('<' :: rest) = some body) :
    ∃ marker ∈ bladeDialect.rawCodeMarkers, marker <+: '<' :: rest ++ ['>'] := by
  rw [walk?_eq] at h
  obtain ⟨inner, hinner, -⟩ := Option.map_eq_some_iff.1 h
  rw [List.cons_append, Nesting.bodyFrom?] at hinner
  cases hopening : Nesting.opening? bladeDialect.nestedRegions ('<' :: (rest ++ ['>'])) with
  | none => exact absurd hinner (by simp [Nesting.settle, Quote.isQuote, hopening])
  | some region =>
    obtain ⟨hmem, -, hhead⟩ := Nesting.opening?_eq_some hopening
    have hraw : ∀ region ∈ bladeDialect.nestedRegions, region.opener.head? = some '<' →
        region.opener ∈ bladeDialect.rawCodeMarkers := by
      decide
    have hprefix := List.isPrefixOf_iff_prefix.1 hhead
    refine ⟨region.opener, hraw region hmem ?_, hprefix⟩
    have hne : ∀ region ∈ bladeDialect.nestedRegions, region.opener ≠ [] := by decide
    obtain ⟨c, opener, hopener⟩ := List.exists_cons_of_ne_nil (hne region hmem)
    rw [hopener, List.cons_prefix_cons] at hprefix
    rw [hopener, hprefix.1]
    rfl

theorem walk?_of_rawText {r : Text} (h : behindRawText? fragment = some r) : walk? fragment = none := by
  unfold behindRawText? at h
  split at h
  · next text =>
    obtain ⟨name, hname, h⟩ := List.exists_of_findSome?_eq_some h
    simp only [bind, Option.bind_eq_some_iff] at h
    obtain ⟨rest, hrest, -⟩ := h
    obtain ⟨u, rfl, hu⟩ := exists_recognised hrest
    rw [Option.eq_none_iff_forall_ne_some]
    intro body hbody
    obtain ⟨marker, hmarker, hprefix⟩ := exists_marker hbody
    have hletter : ∀ name ∈ rawTextElements, ∃ p tail, name = p :: tail ∧ Text.sameLetter p '?' = false := by
      intro name hname
      simp only [rawTextElements, List.mem_cons, List.not_mem_nil, or_false] at hname
      rcases hname with rfl | rfl
      · exact ⟨'s', "cript".toList, rfl, by decide⟩
      · exact ⟨'s', "tyle".toList, rfl, by decide⟩
    obtain ⟨p, tail, rfl, hp⟩ := hletter name hname
    have hmarkers : ∀ marker ∈ bladeDialect.rawCodeMarkers, ∃ tail, marker = '<' :: '?' :: tail := by
      intro marker hmarker
      simp only [bladeDialect, List.mem_cons, List.not_mem_nil, or_false] at hmarker
      rcases hmarker with rfl | rfl
      · exact ⟨"php".toList, rfl⟩
      · exact ⟨"=".toList, rfl⟩
    obtain ⟨markerTail, rfl⟩ := hmarkers marker hmarker
    cases hu with
    | cons hc hu =>
      have hquestion := (List.cons_prefix_cons.1 (List.cons_prefix_cons.1 hprefix).2).1
      rw [← hquestion, hp] at hc
      exact absurd hc (by decide)
  · exact absurd h (by simp)

theorem eq_append_of_signs {pattern text rest : Text} (hsigns : ∀ p ∈ pattern, p.toNat < 128 ∧ p.isAlpha = false)
    (h : dropLetters? pattern text = some rest) : text = pattern ++ rest := by
  obtain ⟨u, rfl, hu⟩ := exists_recognised h
  clear h
  induction hu with
  | nil => rfl
  | cons hc _ ih =>
    have hp := hsigns _ List.mem_cons_self
    rw [Text.sameLetter_sign hp.1 hp.2 hc, List.cons_append, List.cons_append,
      ih fun p hp => hsigns p (List.mem_cons_of_mem _ hp)]

/-- the opener of inline code in a tag is in small letters: without it, the tag would end at its opening bracket -/
theorem eq_php_of_walk? {u rest : Text} (hu : List.Forall₂ (fun p c => Text.sameLetter p c = true) "<?php".toList u)
    {body : Nesting.Body} (hwalk : walk? (u ++ rest) = some body) : u = "<?php".toList := by
  rw [show "<?php".toList = ['<', '?', 'p', 'h', 'p'] from rfl] at hu ⊢
  simp only [List.forall₂_cons_left_iff, List.forall₂_nil_left_iff] at hu
  obtain ⟨c₁, -, h₁, ⟨c₂, -, h₂, ⟨c₃, -, h₃, ⟨c₄, -, h₄, ⟨c₅, -, h₅, rfl, rfl⟩, rfl⟩, rfl⟩, rfl⟩, rfl⟩ := hu
  obtain rfl : c₁ = '<' := Text.sameLetter_sign (by decide) (by decide) h₁
  obtain rfl : c₂ = '?' := Text.sameLetter_sign (by decide) (by decide) h₂
  obtain ⟨marker, hmarker, hprefix⟩ := exists_marker hwalk
  simp only [bladeDialect, List.mem_cons, List.not_mem_nil, or_false] at hmarker
  rcases hmarker with rfl | rfl
  · obtain ⟨rfl, rfl, rfl⟩ : 'p' = c₃ ∧ 'h' = c₄ ∧ 'p' = c₅ := by simpa [List.cons_prefix_cons] using hprefix
    rfl
  · obtain rfl : '=' = c₃ := by simpa [List.cons_prefix_cons] using hprefix
    exact absurd h₃ (by decide +kernel)

/-- the opener of a block in a tag is as it is written in the table -/
theorem eq_append_of_walk? {block : Delimiters} (hblock : block ∈ bladeDialect.codeBlocks) {rest : Text}
    {body : Nesting.Body} (h : dropLetters? block.opener fragment = some rest) (hwalk : walk? fragment = some body) :
    fragment = block.opener ++ rest := by
  have hcases : ∀ block ∈ bladeDialect.codeBlocks,
      block.opener = "<?php".toList ∨ ∀ p ∈ block.opener, p.toNat < 128 ∧ p.isAlpha = false := by
    decide
  rcases hcases block hblock with hphp | hsigns
  · obtain ⟨u, rfl, hu⟩ := exists_recognised h
    rw [hphp] at hu ⊢
    rw [eq_php_of_walk? hu hwalk]
  · exact eq_append_of_signs hsigns h

theorem rest_of_block {block : Delimiters} (hblock : block ∈ bladeDialect.codeBlocks) (hcomment : block ≠ bladeComments)
    {body : Nesting.Body} (h : behindBlock? block fragment = some []) (hwalk : walk? fragment = some body) :
    body.rest = [] := by
  obtain ⟨rest, hrest, hcloser⟩ := Option.bind_eq_some_iff.1 h
  obtain rfl := eq_append_of_walk? hblock hrest hwalk
  have hopening : Nesting.opening? bladeDialect.nestedRegions (block.opener ++ (rest ++ ['>'])) = some block := by
    simp only [bladeDialect, List.mem_cons, List.not_mem_nil, or_false] at hblock
    rcases hblock with rfl | rfl | rfl | rfl | rfl
    · exact absurd rfl hcomment
    all_goals rfl
  have hdelimiters : ∀ block ∈ bladeDialect.codeBlocks, block.closer ≠ [] ∧ block.opener ≠ [] ∧
      ∀ c ∈ block.opener, Quote.isQuote c = false ∧ c ≠ '>' := by
    decide
  obtain ⟨hclosable, hne, hchars⟩ := hdelimiters block hblock
  obtain ⟨c, opener, hopener⟩ := List.exists_cons_of_ne_nil hne
  obtain ⟨hquote, hcloses⟩ := hchars c (hopener ▸ List.mem_cons_self)
  rw [walk?_eq, List.append_assoc, hopener] at hwalk
  rw [hopener] at hopening
  obtain ⟨outer, houter, rfl⟩ := Option.map_eq_some_iff.1 hwalk
  obtain ⟨inner, hinner, hsame⟩ := Nesting.exists_opened hopener hquote hcloses hopening houter
  obtain ⟨r, hr, hshort⟩ := (extends_behindCloser? block.closer rest).1 hcloser
  have hlast (v : Text) (hv : v <:+ rest ++ ['>']) (hv' : block.closer <+: v) : v.length ≤ block.closer.length + 1 :=
    (length_le_of_behindCloser? hr v hv hv').trans (Nat.add_le_add_left hshort _)
  rw [← List.nil_append [block.closer]] at hinner
  have hlength := Nesting.rest_of_closer closes_blade (by simpa [Nesting.Closable] using hclosable) hlast hinner
  show outer.rest = []
  rw [← hsame]
  exact List.length_eq_zero_iff.1 (Nat.lt_one_iff.1 hlength)

theorem plain_of_isInert {c : Char} (hc : Text.isInert c = true) : Nesting.Plain bladeDialect.nestedRegions c := by
  have hne {d : Char} (hd : d ∈ Text.signs) : c ≠ d := Text.ne_of_isInert hc hd
  refine ⟨?_, hne (by decide), hne (by decide), fun region hregion hhead => ?_⟩
  · simp [Quote.isQuote, hne (show '"' ∈ Text.signs by decide), hne (show '\'' ∈ Text.signs by decide)]
  · have hsign := (readable_blade.regions region hregion).1.1
    rw [hhead, Option.any_some, Bool.and_eq_true, List.contains_iff_mem] at hsign
    exact hne hsign.1 rfl

theorem isInert_of_word {word u : Text} (hword : word ∈ bladeDialect.directiveKeywords)
    (hu : List.Forall₂ (fun p c => Text.sameLetter p c = true) word u) : ∀ c ∈ u, Text.isInert c = true := by
  intro c hc
  obtain ⟨p, hp, hsame⟩ := exists_left_of_forall₂ hu hc
  have hsigns : ∀ c ∈ Text.signs, c.toNat < 128 ∧ AttributeName.isTail c = false := by decide
  rw [Text.isInert_iff]
  intro hmem
  rw [sameLetter_of_isOrdinary (isOrdinary_of_word word hword p hp) (hsigns c hmem).1 (hsigns c hmem).2] at hsame
  exact absurd hsame (by decide)

/-- a directive at the head of a fragment: the at sign, a word in any case, and what fits behind it -/
theorem exists_word {same : Char → Char → Bool} {fits : Text → Bool} {fragment name : Text}
    (hat : ∀ c, same '@' c = true → c = '@') (h : bladeDialect.directiveAt? same fits none fragment = some name) :
    ∃ word ∈ bladeDialect.directiveKeywords, ∃ u rest, fragment = '@' :: (u ++ rest) ∧
      name.length = u.length + 1 ∧ List.Forall₂ (fun p c => same p c = true) word u ∧ fits rest = true := by
  have hhead : bladeDialect.directiveHead? = some ['@'] := rfl
  simp only [Dialect.directiveAt?, hhead, if_pos (show Dialect.startsWord none = true from rfl)] at h
  split at h
  · exact absurd h (by simp)
  · next rest hrest =>
    obtain ⟨word, hword, rfl⟩ := Option.map_eq_some_iff.1 h
    obtain ⟨hmem, htest⟩ := longest?_eq_some hword
    obtain ⟨behind, hbehind, hfits⟩ := (Option.any_eq_true _ _).1 htest
    obtain ⟨u, rfl, hu⟩ := exists_recognised hbehind
    obtain ⟨v, rfl, hv⟩ := exists_recognised hrest
    simp only [List.forall₂_cons_left_iff, List.forall₂_nil_left_iff] at hv
    obtain ⟨c, -, hc, rfl, rfl⟩ := hv
    obtain rfl := hat c hc
    refine ⟨word, hmem, u, behind, rfl, ?_, hu, hfits⟩
    rw [List.length_take, hu.length_eq]
    simp
    omega

theorem exists_arguments {n : Nat} (h : callHead? bladeDialect none fragment = some n) :
    ∃ front, fragment = front ++ '(' :: fragment.drop n ∧
      ∀ c ∈ front, Nesting.Plain bladeDialect.nestedRegions c := by
  obtain ⟨name, hname, rfl⟩ := Option.map_eq_some_iff.1 h
  obtain ⟨word, hword, u, rest, rfl, hlength, hu, hfits⟩ := exists_word (Woven.exact_sameLetter '@' (by decide)) hname
  obtain ⟨args, hargs⟩ := List.head?_eq_some_iff.1 (of_decide_eq_true (Bool.and_eq_true_iff.1 hfits).2)
  have hrest : rest = rest.takeWhile Text.isHorizontalBlank ++ '(' :: args := by
    rw [← hargs, List.takeWhile_append_dropWhile]
  have hbehind : ('@' :: (u ++ rest)).drop name.length = rest := by
    rw [hlength, List.drop_succ_cons, List.drop_left]
  refine ⟨'@' :: (u ++ rest.takeWhile Text.isHorizontalBlank), ?_, fun c hc => ?_⟩
  · have hdrop : rest.drop ((rest.takeWhile Text.isHorizontalBlank).length + 1) = args := by
      rw [drop_behind_blanks, hargs]
      rfl
    rw [Nat.add_assoc, ← List.drop_drop, hbehind, hdrop, List.cons_append, List.append_assoc, ← hrest]
  · rcases List.mem_cons.1 hc with rfl | hc
    · decide
    · rcases List.mem_append.1 hc with hc | hc
      · exact plain_of_isInert (isInert_of_word hword hu c hc)
      · have hblank := Text.isBlank_of_isHorizontalBlank (List.mem_takeWhile_imp hc)
        exact plain_of_isInert (Text.isInert_of_isBlank hblank)

theorem rest_of_call {n : Nat} (hn : callHead? bladeDialect none fragment = some n)
    (hlength : Nesting.length? bladeDialect.nestedRegions 0 [[')']] (fragment.drop n) = some (fragment.drop n).length)
    {body : Nesting.Body} (hwalk : walk? fragment = some body) : body.rest = [] := by
  have hnone : Nesting.Closable [] := fun _ hm => absurd hm List.not_mem_nil
  have hparenthesis : Nesting.Closable [[')']] := by simp [Nesting.Closable]
  obtain ⟨front, hfragment, hfront⟩ := exists_arguments hn
  have hend : Nesting.regionEnd? bladeDialect.nestedRegions (.inside 0 [[')']]) (fragment.drop n) = some [] := by
    rw [← Nesting.length?_eq_regionEnd? closes_blade hparenthesis, hlength, Option.map_some, List.drop_length]
  have hbehind := Nesting.tagEnd?_of_regionEnd? (Nesting.regionEnd?_bracket (by decide +kernel) hend)
  have htag := Nesting.bodyFrom?_eq_tagEnd? closes_blade hnone 0 (fragment ++ ['>'])
  rw [walk?_eq] at hwalk
  obtain ⟨outer, houter, rfl⟩ := Option.map_eq_some_iff.1 hwalk
  have hopen (text : Text) : (Nesting.tagEnd? bladeDialect.nestedRegions (.inside 0 []) ('(' :: text)).map Prod.snd =
      (Nesting.tagEnd? bladeDialect.nestedRegions (.inside 0 [[')']]) text).map Prod.snd := by
    have hnext : Nesting.Place.next bladeDialect.nestedRegions '(' text (.inside 0 []) = .inside 0 [[')']] := rfl
    rw [Nesting.tagEnd?, if_neg (by simp), if_neg (by simp), hnext, Option.map_map]
    rfl
  have hsnd := congrArg (Option.map Prod.snd) htag
  rw [houter, Option.map_some, Option.map_some, hfragment, List.append_assoc, List.cons_append,
    Nesting.tagEnd?_plain hfront, hopen, hbehind] at hsnd
  exact Option.some.inj hsnd

/-- **Where the tag ends**: behind the fragment, unless that is a comment or a block between two directives. -/
theorem StepsOver.rest_eq_nil (h : StepsOver bladeDialect fragment) {body : Nesting.Body}
    (hwalk : walk? fragment = some body) (hcomment : behindBlock? bladeComments fragment ≠ some [])
    (hdirectives : behindDirectives? bladeCodeDirectives none fragment ≠ some []) : body.rest = [] := by
  rcases h.kinds with hraw | ⟨block, hblock, hcode⟩ | hcode | ⟨n, hn, hlength⟩
  · rw [walk?_of_rawText hraw] at hwalk
    exact absurd hwalk (by simp)
  · refine rest_of_block hblock ?_ hcode hwalk
    rintro rfl
    exact hcomment hcode
  · exact absurd hcode hdirectives
  · exact rest_of_call hn hlength hwalk

end Scanner

end SourceMark
