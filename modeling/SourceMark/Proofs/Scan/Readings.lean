/-
What stands at a place, in texts that differ by markers. The calls of directives, the names of tags and the tags
themselves are read alike in both texts, and nothing is read at a character of a marker.

Results:
- `callHead?_blind`, `call?_blind`: a directive call is the same in both texts, and so is the end of its arguments.
- `nameLength?_blind`: the name of a tag is the same in both texts.
- `read_blind`: what is read at a character that both texts share is the same in both.
- `read_idle`: nothing is read at an inert character, a double quote or a bracket.
-/
import SourceMark.Proofs.Scan.Opaque
import SourceMark.Proofs.Walk.Blind

namespace SourceMark.Scanner

variable {glue : Bool} {s o r q : Text} {d : Dialect} {before : Option Char}

/-! ## Scanners that are blind to markers -/

/-- a delimiter that starts with a sign other than a quote or a bracket -/
def Starts (delimiter : Text) : Prop :=
  (delimiter.head?.any fun c => Text.signs.contains c && c != '"' && c != '>') = true

instance (delimiter : Text) : Decidable (Starts delimiter) := by
  unfold Starts; infer_instance

/-- a dialect all of whose delimiters and words are seen in spite of markers -/
structure ReadableDialect (glue : Bool) (d : Dialect) : Prop where
  regions : Nesting.LegibleRegions glue d.nestedRegions
  blocks : ApparentBlocks glue d
  codeStarts : ∀ block ∈ d.codeBlocks, Starts block.opener
  directiveStarts : ∀ block ∈ d.blockDirectives, Starts block.opener
  headStarts : ∀ head ∈ d.directiveHead?, Starts head ∧ Woven.Seen Text.sameLetter glue head
  words : ∀ word ∈ d.directiveKeywords, Woven.Seen Text.sameLetter glue word

/-- a text no letter of which is taken for an opening bracket or for a character that can follow a marker's place -/
def Nameable (text : Text) : Prop :=
  ∀ p ∈ text, ∀ c ∈ '<' :: stops, Text.sameLetter p c = false

instance (text : Text) : Decidable (Nameable text) := by
  unfold Nameable; infer_instance

theorem Nameable.seen {text : Text} (h : Nameable text) : Woven.Seen Text.sameLetter glue text :=
  Or.inl fun p hp c hc => h p hp c (List.mem_cons_of_mem _ hc)

/-- a scanner that is blind to markers -/
structure Readable (glue : Bool) (sc : Scanner) : Prop where
  dialect : ReadableDialect glue sc.dialect
  component : Nameable sc.componentPrefix
  names : ∀ name ∈ sc.tagNames, Nameable name

/-- a character at which nothing is read -/
def Idle (c : Char) : Prop := Text.isInert c = true ∨ c = '"' ∨ c = '>'

theorem dropLetters?_idle {delimiter : Text} (hd : Starts delimiter) {c : Char} (hc : Idle c) (rest : Text) :
    dropLetters? delimiter (c :: rest) = none := by
  unfold Starts at hd
  cases delimiter with
  | nil => exact absurd hd (by decide)
  | cons e delimiter =>
    simp only [List.head?_cons, Option.any_some, Bool.and_eq_true, List.contains_iff_mem, bne_iff_ne] at hd
    obtain ⟨⟨hsign, hquote⟩, hgt⟩ := hd
    rw [dropLetters?, Text.dropHeadBy?, if_neg]
    intro hsame
    obtain rfl := Woven.exact_sameLetter e hsign c hsame
    rcases hc with hc | hc | hc
    · exact Text.isInert_iff.1 hc hsign
    · exact hquote hc
    · exact hgt hc

/-! ## Directive calls -/

theorem longest?_congr {test test' : Text → Bool} {texts : List Text} (h : ∀ text ∈ texts, test text = test' text) :
    Dialect.longest? test texts = Dialect.longest? test' texts := by
  unfold Dialect.longest?
  exact List.foldl_ext _ _ _ fun best text htext => by rw [h text htext]

theorem longest?_eq_some {test : Text → Bool} {texts : List Text} {text : Text}
    (h : Dialect.longest? test texts = some text) : text ∈ texts ∧ test text = true := by
  unfold Dialect.longest? at h
  refine List.foldlRecOn (motive := fun best => ∀ found, best = some found → found ∈ texts ∧ test found = true)
    texts _ (by simp) ?_ text h
  intro best hbest item hitem found hfound
  split_ifs at hfound with hif
  · rw [Bool.and_eq_true] at hif
    rw [← Option.some.inj hfound]
    exact ⟨hitem, hif.1⟩
  · exact hbest found hfound

/-- a call's head in numbers: a word's length, the blanks behind it and the parenthesis -/
theorem callHead_length {head word rest rest' : Text} (hhead : Text.dropHeadBy? Text.sameLetter head s = some rest)
    (hword : Text.dropHeadBy? Text.sameLetter word rest = some rest') :
    (s.take (head.length + word.length)).length = head.length + word.length ∧
      s.drop (head.length + word.length) = rest' := by
  obtain ⟨rfl, hlen⟩ := Text.dropHeadBy?_eq_drop hhead
  obtain ⟨rfl, hlen'⟩ := Text.dropHeadBy?_eq_drop hword
  rw [List.length_drop] at hlen'
  rw [List.length_take, List.drop_drop]
  exact ⟨by omega, rfl⟩

theorem tail_of_head {c e : Char} (hc : c ∉ stops) (h : Woven glue (c :: s) (e :: o)) : c = e ∧ Woven glue s o := by
  generalize hs : c :: s = cs at h
  generalize ho : e :: o = eo at h
  cases h with
  | nil => cases hs
  | keep hheld tail =>
    obtain ⟨rfl, rfl⟩ := List.cons.inj hs
    obtain ⟨rfl, rfl⟩ := List.cons.inj ho
    exact ⟨rfl, tail⟩
  | closing hx hy hz hhead tail =>
    obtain ⟨⟨f, hf, s', hs'⟩, -⟩ := Woven.heads_closing (y := []) (o := []) hx hhead
    rw [hs'] at hs
    exact absurd (List.head_eq_of_cons_eq hs ▸ hf) hc

theorem drop_behind_blanks (text : Text) : text.drop ((text.takeWhile Text.isHorizontalBlank).length + 1) =
    (text.dropWhile Text.isHorizontalBlank).drop 1 := by
  have hdrop : (text.takeWhile Text.isHorizontalBlank ++ text.dropWhile Text.isHorizontalBlank).drop
      (text.takeWhile Text.isHorizontalBlank).length = text.dropWhile Text.isHorizontalBlank := List.drop_left
  rw [List.takeWhile_append_dropWhile] at hdrop
  rw [← List.drop_drop, hdrop]

theorem kept_parenthesis (hw : Woven glue s o) (h : callFollows s = true) :
    s.takeWhile Text.isHorizontalBlank = o.takeWhile Text.isHorizontalBlank ∧
      Kept glue s o (s.drop ((s.takeWhile Text.isHorizontalBlank).length + 1))
        (o.drop ((s.takeWhile Text.isHorizontalBlank).length + 1)) := by
  obtain ⟨htake, hkept⟩ := (callFollows_blind hw).2 h
  refine ⟨htake, ?_⟩
  rw [drop_behind_blanks, htake, drop_behind_blanks]
  obtain ⟨r, hr⟩ := List.head?_eq_some_iff.1 (of_decide_eq_true h)
  obtain ⟨q, hq⟩ := List.head?_eq_some_iff.1 (of_decide_eq_true ((callFollows_blind hw).1 ▸ h))
  rw [hr, hq] at hkept ⊢
  exact hkept.trans (Woven.kept_tail (tail_of_head (by decide) hkept.after.woven).2)

/-- **A directive call begins in both texts or in neither**, and its parenthesis stands behind the same characters. -/
theorem callHead?_blind (hd : ReadableDialect glue d) (before : Option Char) (hw : Woven glue s o) :
    callHead? d before s = callHead? d before o ∧
      ∀ n, callHead? d before s = some n → Kept glue s o (s.drop n) (o.drop n) := by
  unfold callHead? Dialect.directiveAt?
  cases hhead : d.directiveHead? with
  | none => exact ⟨rfl, fun n h => absurd h (by simp)⟩
  | some head =>
    simp only
    split_ifs
    swap
    · exact ⟨rfl, fun n h => absurd h (by simp)⟩
    rcases rel_cases (hw.dropHeadBy? Woven.exact_sameLetter (hd.headStarts head hhead).2) with
      ⟨hs, ho⟩ | ⟨r, q, hs, ho, hkept⟩ <;> rw [hs, ho]
    · exact ⟨rfl, fun n h => absurd h (by simp)⟩
    have hwords (word : Text) (hword : word ∈ d.directiveKeywords) :=
      hkept.after.woven.dropHeadBy? Woven.exact_sameLetter (hd.words word hword)
    have hlongest : Dialect.longest? (fun word => (Text.dropHeadBy? Text.sameLetter word r).any fun rest =>
          Dialect.wordEnds rest && callFollows rest) d.directiveKeywords =
        Dialect.longest? (fun word => (Text.dropHeadBy? Text.sameLetter word q).any fun rest =>
          Dialect.wordEnds rest && callFollows rest) d.directiveKeywords :=
      longest?_congr fun word hword => any_eq_of_rel (hwords word hword) fun r q hkept => by
        rw [hkept.after.woven.wordEnds_eq, (callFollows_blind hkept.after.woven).1]
    simp only [← hlongest]
    cases hword : Dialect.longest? (fun word => (Text.dropHeadBy? Text.sameLetter word r).any fun rest =>
        Dialect.wordEnds rest && callFollows rest) d.directiveKeywords with
    | none => exact ⟨rfl, fun n h => absurd h (by simp)⟩
    | some word =>
      obtain ⟨hmem, htest⟩ := longest?_eq_some hword
      obtain ⟨r', hr', hfits⟩ := (Option.any_eq_true _ _).1 htest
      rcases rel_cases (hwords word hmem) with ⟨hr, -⟩ | ⟨_, q', hr, hq', hkept'⟩
      · rw [hr'] at hr; exact absurd hr (by simp)
      obtain rfl : r' = _ := Option.some.inj (hr'.symm.trans hr)
      obtain ⟨hlen, hdrop⟩ := callHead_length hs hr'
      obtain ⟨hleno, hdropo⟩ := callHead_length ho hq'
      obtain ⟨htake, hparen⟩ := kept_parenthesis hkept'.after.woven (Bool.and_eq_true_iff.1 hfits).2
      simp only [Option.map_some, hlen, hleno, hdrop, hdropo, htake, Option.some.injEq]
      refine ⟨trivial, ?_⟩
      rintro n rfl
      have drop_eq (t : Text) (k : Nat) : t.drop (head.length + word.length + k + 1) =
          (t.drop (head.length + word.length)).drop (k + 1) := by
        rw [List.drop_drop, Nat.add_assoc]
      rw [drop_eq, drop_eq, hdrop, hdropo, ← htake]
      exact (hkept.trans hkept').trans hparen

/-- **A directive call ends in both texts**, behind its arguments when these end and else behind its parenthesis. -/
theorem call?_blind (hd : ReadableDialect glue d) (before : Option Char) (hw : Woven glue s o) :
    Option.Rel (fun m n => After glue s o (s.drop m) (o.drop n)) (call? d before s) (call? d before o) := by
  obtain ⟨heq, hkept⟩ := callHead?_blind hd before hw
  unfold call?
  rw [← heq]
  cases hn : callHead? d before s with
  | none => exact .none
  | some n =>
    have hkept := hkept n hn
    have hready : (Nesting.Place.inside 0 [[')']]).Ready glue := by
      refine ⟨rfl, ?_⟩
      intro closer hcloser
      rw [List.mem_singleton.1 hcloser]
      cases glue <;> decide
    have hclosable : Nesting.Closable [[')']] := by
      intro closer hcloser
      rw [List.mem_singleton.1 hcloser]
      exact List.cons_ne_nil _ _
    have hrel := Nesting.regionEnd?_blind hd.regions hready (fun h => absurd h (by simp [Nesting.Place.nesting])) hkept.after.woven
    rw [← Nesting.length?_eq_regionEnd? hd.regions.closes hclosable, ← Nesting.length?_eq_regionEnd? hd.regions.closes hclosable] at hrel
    rw [Option.map_some, Option.map_some]
    refine .some ?_
    rcases rel_cases hrel with ⟨hs, ho⟩ | ⟨r, q, hs, ho, hafter⟩
    · rw [Option.map_eq_none_iff.1 hs, Option.map_eq_none_iff.1 ho]
      exact hkept.after
    · obtain ⟨m, hm, rfl⟩ := Option.map_eq_some_iff.1 hs
      obtain ⟨m', hm', rfl⟩ := Option.map_eq_some_iff.1 ho
      rw [hm, hm', Option.getD_some, Option.getD_some, ← List.drop_drop, ← List.drop_drop]
      exact hkept.after.trans hafter

/-! ## Names of tags -/

variable {sc : Scanner}

theorem componentName?_blind (hc : Nameable sc.componentPrefix) (hw : Woven glue s o) :
    Option.Rel (fun m n => m = n ∧ 0 < n ∧ n ≤ s.length ∧ Kept glue s o (s.drop n) (o.drop n))
      (sc.componentName? s) (sc.componentName? o) := by
  unfold componentName?
  split_ifs with hempty
  · exact .none
  rcases rel_cases (hw.dropHeadBy? Woven.exact_sameLetter hc.seen) with ⟨hs, ho⟩ | ⟨r, q, hs, ho, hkept⟩ <;>
    rw [Scanner.dropLetters?, Scanner.dropLetters?, hs, ho]
  · exact .none
  obtain ⟨rfl, hlen⟩ := Text.dropHeadBy?_eq_drop hs
  obtain ⟨rfl, -⟩ := Text.dropHeadBy?_eq_drop ho
  obtain ⟨htake, hname⟩ := hkept.after.woven.takeWhile_eq (p := Dialect.isNameChar) (by decide)
  have hdrop (t : Text) : t.drop (t.takeWhile Dialect.isNameChar).length = t.dropWhile Dialect.isNameChar := by
    have : (t.takeWhile Dialect.isNameChar ++ t.dropWhile Dialect.isNameChar).drop
        (t.takeWhile Dialect.isNameChar).length = t.dropWhile Dialect.isNameChar := List.drop_left
    rwa [List.takeWhile_append_dropWhile] at this
  simp only [Option.bind_some, hdrop, htake, hname.after.woven.nameEnds_eq]
  split_ifs
  · refine .some ⟨rfl, ?_, ?_, ?_⟩
    · have : sc.componentPrefix.length ≠ 0 := by simpa using hempty
      omega
    · have := (List.takeWhile_sublist Dialect.isNameChar (l := s.drop sc.componentPrefix.length)).length_le
      rw [List.length_drop, htake] at this
      omega
    · rw [← List.drop_drop, ← List.drop_drop, hdrop, ← htake, hdrop]
      exact hkept.trans hname
  · exact .none

/-- **The name of a tag is the same in both texts.** -/
theorem nameLength?_blind (h : Readable glue sc) (hw : Woven glue s o) :
    Option.Rel (fun m n => m = n ∧ 0 < n ∧ n ≤ s.length ∧ Kept glue s o (s.drop n) (o.drop n))
      (sc.nameLength? s) (sc.nameLength? o) := by
  refine rel_or (componentName?_blind h.component hw) (rel_findSome? fun name hname => ?_)
  rcases rel_cases (hw.dropHeadBy? Woven.exact_sameLetter (h.names name hname).seen) with
    ⟨hs, ho⟩ | ⟨r, q, hs, ho, hkept⟩ <;> rw [Scanner.dropLetters?, Scanner.dropLetters?, hs, ho]
  · simp
  rw [Option.any_some, Option.any_some, hkept.after.woven.nameEnds_eq]
  split_ifs with hif
  · obtain ⟨rfl, hlen⟩ := Text.dropHeadBy?_eq_drop hs
    obtain ⟨rfl, -⟩ := Text.dropHeadBy?_eq_drop ho
    have hne : name ≠ [] := by
      rw [Bool.and_eq_true, Bool.not_eq_true', List.isEmpty_eq_false_iff] at hif
      exact hif.1
    exact .some ⟨rfl, List.length_pos_iff.2 hne, hlen, hkept⟩
  · exact .none

/-! ## Any reading -/

/-- the same reading at the heads of two texts: both go on behind it at corresponding places -/
inductive SameReading (glue : Bool) (s o : Text) : Reading → Reading → Prop
  | ordinary : SameReading glue s o .ordinary .ordinary
  | stretch {m n : Nat} : After glue s o (s.drop m) (o.drop n) → SameReading glue s o (.stretch m) (.stretch n)
  | tag {t t' : Tag} : t.name = t'.name → t.nestedGt = t'.nestedGt →
      After glue s o (s.drop t.text.length) (o.drop t'.text.length) → SameReading glue s o (.tag t) (.tag t')

theorem tagAt?_of_ne (sc : Scanner) (offset : Nat) {c : Char} (h : c ≠ '<') (rest : Text) :
    sc.tagAt? offset (c :: rest) = none := by
  unfold tagAt?
  split
  · next heq => exact absurd (List.head_eq_of_cons_eq heq) h
  · rfl

theorem drop_text_length {name : Text} {n offset : Nat} {body : Nesting.Body} (hn : n ≤ s.length)
    (hname : name = s.take n) (hbody : s.drop n = body.attributes ++ '>' :: body.rest) :
    ('<' :: s).drop (Tag.mk name body.attributes offset body.nestedGt).text.length = body.rest := by
  have hlen : name.length = n := by rw [hname, List.length_take]; omega
  have : (Tag.mk name body.attributes offset body.nestedGt).text.length = n + body.attributes.length + 1 + 1 := by
    simp only [Tag.text, List.length_append, List.length_cons, List.length_nil, hlen]
    omega
  rw [this, List.drop_succ_cons, Nat.add_assoc, ← List.drop_drop, hbody, ← List.drop_drop, List.drop_left]
  rfl

/-- **A tag is read in both texts**, or its name is and its end is not found, or no name is. -/
theorem tagAt?_blind (h : Readable glue sc) (i j : Nat) (htail : Woven glue s o) :
    Option.Rel (SameReading glue ('<' :: s) ('<' :: o)) (sc.tagAt? i ('<' :: s)) (sc.tagAt? j ('<' :: o)) := by
  simp only [tagAt?]
  rcases rel_cases (nameLength?_blind h htail) with ⟨hs, ho⟩ | ⟨n, _, hs, ho, rfl, hpos, hlen, hkept⟩ <;> rw [hs, ho]
  · exact .none
  have hlen' : n ≤ o.length := by
    have := congrArg List.length (hkept.take_eq hlen).1
    rw [List.length_take, List.length_take] at this
    omega
  have hready : (Nesting.Place.inside 0 []).Ready glue := ⟨rfl, fun _ hm => absurd hm List.not_mem_nil⟩
  have hclosable : Nesting.Closable [] := fun _ hm => absurd hm List.not_mem_nil
  have hrel := Nesting.tagEnd?_blind h.dialect.regions hready hkept.after.woven
  rw [← Nesting.bodyFrom?_eq_tagEnd? h.dialect.regions.closes hclosable,
    ← Nesting.bodyFrom?_eq_tagEnd? h.dialect.regions.closes hclosable] at hrel
  rw [Option.map_some, Option.map_some]
  refine .some ?_
  unfold Nesting.body?
  rcases rel_cases hrel with ⟨hbs, hbo⟩ | ⟨found, found', hbs, hbo, hgt, hafter⟩
  · rw [Option.map_eq_none_iff.1 hbs, Option.map_eq_none_iff.1 hbo]
    exact .stretch (hkept.cons '<').after
  · obtain ⟨body, hbody, rfl⟩ := Option.map_eq_some_iff.1 hbs
    obtain ⟨body', hbody', rfl⟩ := Option.map_eq_some_iff.1 hbo
    rw [hbody, hbody']
    refine .tag (hkept.take_eq hlen).1 hgt ?_
    rw [drop_text_length hlen rfl (Nesting.body?_eq_some hbody), drop_text_length hlen' rfl (Nesting.body?_eq_some hbody')]
    exact (hkept.cons '<').after.trans hafter

/-- **What is read at a character that both texts share is the same in both.** -/
theorem read_blind (h : Readable glue sc) (before : Option Char) (i j : Nat) {c : Char}
    (hw : Woven glue (c :: s) (c :: o)) (htail : Woven glue s o) :
    SameReading glue (c :: s) (c :: o) (sc.read before i (c :: s)) (sc.read before j (c :: o)) := by
  unfold read
  rcases rel_cases (behindOpaque?_blind h.dialect.blocks before hw) with ⟨hs, ho⟩ | ⟨r, q, hs, ho, hafter⟩ <;>
    rw [hs, ho]
  · rcases rel_cases (call?_blind h.dialect before hw) with ⟨hs, ho⟩ | ⟨m, n, hs, ho, hafter⟩ <;> rw [hs, ho]
    · by_cases hc : c = '<'
      · subst hc
        rcases rel_cases (tagAt?_blind h i j htail) with ⟨hs, ho⟩ | ⟨a, b, hs, ho, hab⟩ <;> rw [hs, ho]
        · exact .ordinary
        · exact hab
      · rw [tagAt?_of_ne sc i hc, tagAt?_of_ne sc j hc]
        exact .ordinary
    · exact .stretch hafter
  · obtain ⟨u, v, hsu, hov, hlast, hrq⟩ := hafter
    refine .stretch ?_
    rw [hsu, hov]
    simp only [List.length_append, Nat.add_sub_cancel, List.drop_left]
    exact ⟨u, v, rfl, rfl, hlast, hrq⟩

/-- **Nothing is read at a character of a marker**, at a blank, a slash or a bracket. -/
theorem read_idle (h : ReadableDialect glue sc.dialect) (before : Option Char) (offset : Nat) {c : Char} (hc : Idle c) (rest : Text) :
    sc.read before offset (c :: rest) = .ordinary := by
  have hne : c ≠ '<' := by
    rintro rfl
    rcases hc with hc | hc | hc <;> exact absurd hc (by decide)
  have hblocks : sc.dialect.codeBlocks.findSome? (behindBlock? · (c :: rest)) = none :=
    List.findSome?_eq_none_iff.2 fun block hblock => by
      rw [behindBlock?, dropLetters?_idle (h.codeStarts block hblock) hc]
      rfl
  have hdirectives : sc.dialect.blockDirectives.findSome? (behindDirectives? · before (c :: rest)) = none :=
    List.findSome?_eq_none_iff.2 fun block hblock => by
      have : behindWord? block.opener before (c :: rest) = none := by
        rw [behindWord?, dropLetters?_idle (h.directiveStarts block hblock) hc]
        split_ifs <;> rfl
      simp only [behindDirectives?, bind, this, Option.bind_none]
  have hcall : call? sc.dialect before (c :: rest) = none := by
    have : callHead? sc.dialect before (c :: rest) = none := by
      unfold callHead? Dialect.directiveAt?
      cases hhead : sc.dialect.directiveHead? with
      | none => rfl
      | some head =>
        have hdrop : Text.dropHeadBy? Text.sameLetter head (c :: rest) = none :=
          dropLetters?_idle (h.headStarts head hhead).1 hc rest
        simp only [hdrop]
        split_ifs <;> rfl
    rw [call?, this]
    rfl
  simp only [read, behindOpaque?, behindRawText?_of_ne hne, hblocks, hdirectives, Option.or_none, hcall,
    tagAt?_of_ne sc offset hne, Option.getD_none]

end SourceMark.Scanner
