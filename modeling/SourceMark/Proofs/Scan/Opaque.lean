/-
Stretches that are never markup, in texts that differ by markers. Raw-text elements, code blocks and blocks between two
directives begin at the same places of both texts and end at the same places, or never end in either. The searches for
the end of a stretch share one shape, `search`: the first place at which something is found. Nothing is found inside a
marker.

Results:
- `search_blind`: a search finds the same place in both texts.
- `behindEndTagAt?_blind`: no marker is inside an end tag, because its bracket is held.
- `behindOpaque?_blind`: what is never markup is the same in both texts.
-/
import Mathlib.Data.List.Forall2
import SourceMark.Proofs.Marker.Woven

namespace SourceMark

variable {glue : Bool} {s o r q : Text}

/-! ## Related results -/

section Related

variable {α β γ δ : Type} {R : α → β → Prop} {Q : γ → δ → Prop}

theorem rel_or {a a' : Option α} {b b' : Option β} (h : Option.Rel R a b) (h' : Option.Rel R a' b') :
    Option.Rel R (a.or a') (b.or b') := by
  cases h with
  | none => exact h'
  | some h => exact .some h

theorem rel_bind {a : Option α} {b : Option β} {f : α → Option γ} {g : β → Option δ} (h : Option.Rel R a b)
    (hfg : ∀ x y, R x y → Option.Rel Q (f x) (g y)) : Option.Rel Q (a.bind f) (b.bind g) := by
  cases h with
  | none => exact .none
  | some h => exact hfg _ _ h

theorem rel_findSome? {ι : Type} {items : List ι} {f : ι → Option α} {g : ι → Option β}
    (h : ∀ i ∈ items, Option.Rel R (f i) (g i)) : Option.Rel R (items.findSome? f) (items.findSome? g) := by
  induction items with
  | nil => exact .none
  | cons i items ih =>
    have hi := h i List.mem_cons_self
    have ih := ih fun j hj => h j (List.mem_cons_of_mem _ hj)
    rw [List.findSome?_cons, List.findSome?_cons]
    rcases rel_cases hi with ⟨hf, hg⟩ | ⟨x, y, hf, hg, hxy⟩ <;> rw [hf, hg]
    · exact ih
    · exact .some hxy

theorem rel_mono {R' : α → β → Prop} {a : Option α} {b : Option β} (h : Option.Rel R a b)
    (himp : ∀ x y, R x y → R' x y) : Option.Rel R' a b := by
  cases h with
  | none => exact .none
  | some h => exact .some (himp _ _ h)

theorem any_eq_of_rel {a : Option α} {b : Option β} (h : Option.Rel R a b) {p : α → Bool} {p' : β → Bool}
    (hp : ∀ x y, R x y → p x = p' y) : a.any p = b.any p' := by
  cases h with
  | none => rfl
  | some h => exact hp _ _ h

theorem exists_left_of_forall₂ {as : List α} {bs : List β} (h : List.Forall₂ R as bs)
    {b : β} (hb : b ∈ bs) : ∃ a ∈ as, R a b := by
  induction h with
  | nil => exact absurd hb List.not_mem_nil
  | cons hab _ ih =>
    rcases List.mem_cons.1 hb with rfl | hb
    · exact ⟨_, List.mem_cons_self, hab⟩
    · obtain ⟨a, ha, hab⟩ := ih hb
      exact ⟨a, List.mem_cons_of_mem _ ha, hab⟩

theorem exists_right_of_forall₂ {as : List α} {bs : List β} (h : List.Forall₂ R as bs)
    {a : α} (ha : a ∈ as) : ∃ b ∈ bs, R a b :=
  exists_left_of_forall₂ (R := flip R) (List.Forall₂.flip h) ha

end Related

/-! ## Searches -/

/-- what is found at the first place where something is found; `before` is the character before the text -/
def search (find : Option Char → Text → Option Text) : (before : Option Char) → Text → Option Text
  | before, [] => find before []
  | before, c :: rest => (find before (c :: rest)).or (search find (some c) rest)

/-- nothing is found at a blank, a slash or a bracket, or inside what is inserted -/
structure Skips (find : Option Char → Text → Option Text) : Prop where
  dull : ∀ before c rest, isDull c = true ∨ c = '>' → find before (c :: rest) = none
  inserted : ∀ before tail rest, tail ≠ [] → (∀ c ∈ tail, Marker.isQuiet c = true ∨ c = '"') →
    tail.getLast? = some '"' → find before (tail ++ rest) = none

theorem search_run {find : Option Char → Text → Option Text} {run rest : Text} (before : Option Char)
    (h : ∀ before u v, run = u ++ v → v ≠ [] → find before (v ++ rest) = none) :
    search find before (run ++ rest) = search find (run.getLast?.or before) rest := by
  induction run generalizing before with
  | nil => rfl
  | cons c run ih =>
    have hc := h before [] (c :: run) rfl (List.cons_ne_nil c run)
    rw [List.cons_append] at hc ⊢
    rw [search, hc, Option.none_or, ih (some c) fun b u v huv => h b (c :: u) v (by rw [huv]; rfl)]
    congr 1
    cases run with
    | nil => rfl
    | cons d run => rw [List.getLast?_cons_cons, List.getLast?_eq_some_getLast (List.cons_ne_nil d run)]; rfl

theorem search_dull {find : Option Char → Text → Option Text} (hf : Skips find) {z : Text}
    (hz : ∀ c ∈ z, isDull c = true) (before : Option Char) (rest : Text) :
    search find before (z ++ '>' :: rest) = search find (some '>') rest := by
  have hnone : ∀ b u v, z ++ ['>'] = u ++ v → v ≠ [] → find b (v ++ rest) = none := by
    intro b u v huv hv
    cases v with
    | nil => exact absurd rfl hv
    | cons c v =>
      have hc : c ∈ z ++ ['>'] := huv ▸ List.mem_append_right _ List.mem_cons_self
      rcases List.mem_append.1 hc with hc | hc
      · exact hf.dull b c _ (Or.inl (hz c hc))
      · exact hf.dull b c _ (Or.inr (List.mem_singleton.1 hc))
  simpa using search_run before hnone

theorem search_inserted {find : Option Char → Text → Option Text} (hf : Skips find) {x : Text} (hx : Inserted x)
    (before : Option Char) (rest : Text) : search find before (x ++ rest) = search find (some '"') rest := by
  have hnone : ∀ b u v, x = u ++ v → v ≠ [] → find b (v ++ rest) = none := by
    intro b u v huv hv
    refine hf.inserted b v rest hv (fun c hc => hx.mem c (huv ▸ List.mem_append_right _ hc)) ?_
    have hlast := hx.last
    rw [huv, List.getLast?_append] at hlast
    cases hl : v.getLast? with
    | none => exact absurd (List.getLast?_eq_none_iff.1 hl) hv
    | some c => rw [hl] at hlast; exact hlast
  rw [search_run before hnone, hx.last]
  rfl

/-- **A search finds the same place in both texts.** -/
theorem search_blind {find : Option Char → Text → Option Text} (hf : Skips find)
    (hfind : ∀ before {s o}, Woven glue s o → Option.Rel (After glue s o) (find before s) (find before o))
    (hw : Woven glue s o) (before : Option Char) :
    Option.Rel (After glue s o) (search find before s) (search find before o) := by
  induction hw generalizing before with
  | nil => exact hfind before .nil
  | @keep c s o hheld tail ih =>
    exact rel_or (hfind before (.keep hheld tail)) ((Woven.kept_tail tail).after.lift (ih (some c)))
  | @closing x y z s o hx hy hz hhead tail ih =>
    have hafter : After glue (z ++ '>' :: s) (x ++ y ++ '>' :: o) s o := Woven.after_closing tail
    rw [search_dull hf hz, List.append_assoc, search_inserted hf hx, search_dull hf hy]
    rw [List.append_assoc] at hafter
    exact hafter.lift (ih (some '>'))

namespace Scanner

/-! ## Blocks of code -/

/-- a delimiter of blocks that is seen in spite of markers: it starts with an ASCII sign that is no blank, slash or
bracket, some sign in it is in no marker, and no letter of it is taken for a double quote -/
structure Apparent (glue : Bool) (delimiter : Text) : Prop where
  head : (delimiter.head?.any fun c => c.toNat < 128 && !c.isAlpha && !isDull c && c != '>') = true
  sign : (delimiter.any fun c => Text.signs.contains c && c != '"') = true
  unquoted : (delimiter.all fun c => !Text.sameLetter c '"') = true
  seen : Woven.Seen Text.sameLetter glue delimiter

theorem apparent_iff {glue : Bool} {delimiter : Text} : Apparent glue delimiter ↔
    (delimiter.head?.any fun c => c.toNat < 128 && !c.isAlpha && !isDull c && c != '>') = true ∧
      (delimiter.any fun c => Text.signs.contains c && c != '"') = true ∧
        (delimiter.all fun c => !Text.sameLetter c '"') = true ∧ Woven.Seen Text.sameLetter glue delimiter :=
  ⟨fun h => ⟨h.head, h.sign, h.unquoted, h.seen⟩, fun h => ⟨h.1, h.2.1, h.2.2.1, h.2.2.2⟩⟩

instance (glue : Bool) (delimiter : Text) : Decidable (Apparent glue delimiter) :=
  decidable_of_iff' _ apparent_iff

theorem Apparent.dropLetters? {delimiter : Text} (hd : Apparent glue delimiter) (h : Woven glue s o) :
    Option.Rel (Kept glue s o) (dropLetters? delimiter s) (dropLetters? delimiter o) :=
  h.dropHeadBy? Woven.exact_sameLetter hd.seen

theorem Apparent.dropLetters?_dull {delimiter : Text} (hd : Apparent glue delimiter) {c : Char}
    (hc : isDull c = true ∨ c = '>') (rest : Text) : Scanner.dropLetters? delimiter (c :: rest) = none := by
  have hhead := hd.head
  cases delimiter with
  | nil => exact absurd hhead (by decide)
  | cons d delimiter =>
    simp only [List.head?_cons, Option.any_some, Bool.and_eq_true, Bool.not_eq_true', decide_eq_true_eq,
      bne_iff_ne] at hhead
    obtain ⟨⟨⟨hascii, halpha⟩, hdull⟩, hne⟩ := hhead
    rw [Scanner.dropLetters?, Text.dropHeadBy?, if_neg]
    intro hsame
    obtain rfl := Text.sameLetter_sign hascii halpha hsame
    rcases hc with hc | hc
    · rw [hdull] at hc; exact absurd hc (by decide)
    · exact hne hc

theorem dropLetters?_inserted {delimiter : Text} (hsign : ∃ c ∈ delimiter, c ∈ Text.signs ∧ c ≠ '"')
    (hquote : ∀ c ∈ delimiter, Text.sameLetter c '"' = false) {tail : Text}
    (htail : ∀ c ∈ tail, Marker.isQuiet c = true ∨ c = '"') (hlast : tail.getLast? = some '"') (rest : Text) :
    Scanner.dropLetters? delimiter (tail ++ rest) = none := by
  induction delimiter generalizing tail with
  | nil =>
    obtain ⟨c, hc, -⟩ := hsign
    exact absurd hc List.not_mem_nil
  | cons d delimiter ih =>
    cases tail with
    | nil => exact absurd hlast (by decide)
    | cons c tail =>
      rw [List.cons_append, Scanner.dropLetters?, Text.dropHeadBy?]
      split
      · next hsame =>
        have hc : c ≠ '"' := by
          rintro rfl
          rw [hquote d List.mem_cons_self] at hsame
          exact absurd hsame (by decide)
        have hquiet : Marker.isQuiet c = true := (htail c List.mem_cons_self).resolve_right hc
        refine ih ?_ (fun e he => hquote e (List.mem_cons_of_mem _ he))
          (fun e he => htail e (List.mem_cons_of_mem _ he)) ?_
        · -- the sign that no marker has is still to come
          obtain ⟨e, he, hsigne, hne⟩ := hsign
          rcases List.mem_cons.1 he with rfl | he
          · obtain rfl := Woven.exact_sameLetter e hsigne c hsame
            exact absurd hsigne (Text.isInert_iff.1 (Text.isInert_of_isQuiet hquiet))
          · exact ⟨e, he, hsigne, hne⟩
        · cases tail with
          | nil => exact absurd (Option.some.inj hlast) hc
          | cons e tail => rwa [List.getLast?_cons_cons] at hlast
      · rfl

theorem Apparent.skips {delimiter : Text} (hd : Apparent glue delimiter) :
    Skips fun _ text => Scanner.dropLetters? delimiter text where
  dull := fun _ c rest hc => hd.dropLetters?_dull hc rest
  inserted := by
    intro _ tail rest _ htail hlast
    refine dropLetters?_inserted ?_ ?_ htail hlast rest
    · obtain ⟨c, hc, h⟩ := List.any_eq_true.1 hd.sign
      exact ⟨c, hc, by simpa using h⟩
    · intro c hc
      simpa using List.all_eq_true.1 hd.unquoted c hc

theorem behindCloser?_eq_search (closer : Text) (before : Option Char) (text : Text) :
    behindCloser? closer text = search (fun _ text => Scanner.dropLetters? closer text) before text := by
  induction text generalizing before with
  | nil => rfl
  | cons c rest ih => rw [behindCloser?, search, ih]

theorem behindBlock?_blind {block : Delimiters} (hopener : Apparent glue block.opener)
    (hcloser : Apparent glue block.closer) (hw : Woven glue s o) :
    Option.Rel (After glue s o) (behindBlock? block s) (behindBlock? block o) := by
  refine rel_bind (hopener.dropLetters? hw) ?_
  intro r q hkept
  rw [behindCloser?_eq_search _ none, behindCloser?_eq_search _ none]
  exact hkept.after.lift (search_blind hcloser.skips (fun _ _ _ hw => rel_mono (hcloser.dropLetters? hw)
    fun _ _ h => h.after) hkept.after.woven none)

/-! ## Blocks between directives -/

theorem behindWord?_blind {word : Text} (hd : Apparent glue word) (before : Option Char) (hw : Woven glue s o) :
    Option.Rel (Kept glue s o) (behindWord? word before s) (behindWord? word before o) := by
  unfold behindWord?
  split_ifs
  · rcases rel_cases (hd.dropLetters? hw) with ⟨hs, ho⟩ | ⟨r, q, hs, ho, hkept⟩ <;> rw [hs, ho]
    · exact .none
    · rw [Option.filter_some, Option.filter_some, hkept.after.woven.wordBoundary_eq]
      split_ifs
      · exact .some hkept
      · exact .none
  · exact .none

theorem behindWord?_eq_drop {word text rest : Text} {before : Option Char} (h : behindWord? word before text = some rest) :
    rest = text.drop word.length ∧ word.length ≤ text.length := by
  unfold behindWord? at h
  split_ifs at h
  obtain ⟨h, -⟩ := Option.filter_eq_some_iff.1 h
  exact Text.dropHeadBy?_eq_drop h

theorem Apparent.skips_word {word : Text} (hd : Apparent glue word) : Skips (behindWord? word) := by
  have hnone {before : Option Char} {text : Text} (h : Scanner.dropLetters? word text = none) :
      behindWord? word before text = none := by
    rw [behindWord?, h]
    split_ifs <;> rfl
  exact ⟨fun before c rest hc => hnone (hd.skips.dull before c rest hc),
    fun before tail rest hne htail hlast => hnone (hd.skips.inserted before tail rest hne htail hlast)⟩

theorem behindLaterWord?_eq_search (word : Text) (before : Option Char) (text : Text) :
    behindLaterWord? word before text = search (behindWord? word) before text := by
  induction text generalizing before with
  | nil => rfl
  | cons c rest ih => rw [behindLaterWord?, search, ih]

theorem not_callFollows_dull {z : Text} (hz : ∀ c ∈ z, isDull c = true) (rest : Text) :
    callFollows (z ++ '>' :: rest) = false := by
  induction z with
  | nil => rfl
  | cons c z ih =>
    have ih := ih fun d hd => hz d (List.mem_cons_of_mem _ hd)
    unfold callFollows at ih ⊢
    rw [List.cons_append, List.dropWhile_cons]
    split_ifs
    · exact ih
    · have hne : c ≠ '(' := fun h => absurd (hz c List.mem_cons_self) (by rw [h]; decide)
      simpa using hne

theorem not_callFollows_name {c : Char} (hc : AttributeName.isHead c = true) (rest : Text) :
    callFollows (' ' :: c :: rest) = false := by
  have hblank : Text.isHorizontalBlank c = false := by
    by_contra h
    simp only [Text.isHorizontalBlank, Bool.not_eq_false, Bool.or_eq_true, beq_iff_eq] at h
    rcases h with rfl | rfl <;> exact absurd hc (by decide)
  have hne : c ≠ '(' := fun h => absurd hc (by rw [h]; decide)
  have hspace : Text.isHorizontalBlank ' ' = true := by decide
  simp [callFollows, hspace, hblank, hne]

/-- a parenthesis follows in both texts or in neither, and then behind the same blanks -/
theorem callFollows_blind (hw : Woven glue s o) : callFollows s = callFollows o ∧ (callFollows s = true →
    s.takeWhile Text.isHorizontalBlank = o.takeWhile Text.isHorizontalBlank ∧
      Kept glue s o (s.dropWhile Text.isHorizontalBlank) (o.dropWhile Text.isHorizontalBlank)) := by
  induction hw with
  | nil => exact ⟨rfl, fun h => absurd h (by decide)⟩
  | @keep c s o hheld tail ih =>
    unfold callFollows at ih ⊢
    by_cases hc : Text.isHorizontalBlank c = true
    · simp only [List.dropWhile_cons, List.takeWhile_cons, hc, if_true]
      exact ⟨ih.1, fun h => ⟨congrArg _ (ih.2 h).1, (ih.2 h).2.cons c⟩⟩
    · simp only [List.dropWhile_cons, List.takeWhile_cons, hc]
      exact ⟨rfl, fun _ => ⟨rfl, .refl (.keep hheld tail)⟩⟩
  | @closing x y z s o hx hy hz hhead tail ih =>
    obtain ⟨-, c, o', ho, hc⟩ := Woven.heads_closing (y := y) (s := s) (o := o) hx hhead
    rw [not_callFollows_dull hz, ho, not_callFollows_name hc]
    exact ⟨rfl, fun h => absurd h (by decide)⟩

theorem behindDirectives?_blind {block : Delimiters} (hopener : Apparent glue block.opener)
    (hcloser : Apparent glue block.closer) (before : Option Char) (hw : Woven glue s o) :
    Option.Rel (After glue s o) (behindDirectives? block before s) (behindDirectives? block before o) := by
  unfold behindDirectives?
  simp only [bind]
  rcases rel_cases (behindWord?_blind hopener before hw) with ⟨hs, ho⟩ | ⟨r, q, hs, ho, hkept⟩ <;> rw [hs, ho]
  · exact .none
  · obtain ⟨rfl, hlen⟩ := behindWord?_eq_drop hs
    have htake : s.take block.opener.length = o.take block.opener.length := (hkept.take_eq hlen).1
    simp only [Option.bind_some, (callFollows_blind hkept.after.woven).1, htake]
    split_ifs
    · exact .none
    · rw [behindLaterWord?_eq_search, behindLaterWord?_eq_search]
      exact hkept.after.lift (search_blind hcloser.skips_word
        (fun before _ _ hw => rel_mono (behindWord?_blind hcloser before hw) fun _ _ h => h.after) hkept.after.woven _)

/-! ## Raw-text elements -/

theorem behindStartTag?_inert {quote : Option Char} (hq : ∀ c ∈ quote, Quote.isQuote c = true) {c : Char}
    (hc : Text.isInert c = true) (rest : Text) : behindStartTag? quote (c :: rest) = behindStartTag? quote rest := by
  have hquote : Quote.isQuote c = false := by
    rw [Quote.isQuote, Bool.or_eq_false_iff, beq_eq_false_iff_ne, beq_eq_false_iff_ne]
    exact ⟨Text.ne_of_isInert hc (by decide), Text.ne_of_isInert hc (by decide)⟩
  cases quote with
  | none =>
    rw [behindStartTag?, if_neg (Text.ne_of_isInert hc (by decide)), if_neg (Text.ne_of_isInert hc (by decide)), hquote]
    rfl
  | some q =>
    have hne : c ≠ q := by
      rintro rfl
      rw [hq c rfl] at hquote
      exact absurd hquote (by decide)
    rw [behindStartTag?, if_neg hne]

theorem behindStartTag?_run {quote : Option Char} (hq : ∀ c ∈ quote, Quote.isQuote c = true) {run : Text}
    (hrun : ∀ c ∈ run, Text.isInert c = true) (rest : Text) :
    behindStartTag? quote (run ++ rest) = behindStartTag? quote rest := by
  induction run with
  | nil => rfl
  | cons c run ih =>
    rw [List.cons_append, behindStartTag?_inert hq (hrun c List.mem_cons_self)]
    exact ih fun d hd => hrun d (List.mem_cons_of_mem _ hd)

/-- a start tag is read past what is inserted, whatever quotes it is in -/
theorem behindStartTag?_inserted {quote : Option Char} (hq : ∀ c ∈ quote, Quote.isQuote c = true) {x : Text}
    (hx : Inserted x) (rest : Text) : behindStartTag? quote (x ++ rest) = behindStartTag? quote rest := by
  induction hx generalizing rest with
  | @one marker hm =>
    obtain ⟨front, value, rfl, hfront, hvalue⟩ := Text.exists_quotes hm
    have hdouble : ∀ c ∈ some '"', Quote.isQuote c = true := by simp [Quote.isQuote]
    have hnone : ∀ c ∈ (none : Option Char), Quote.isQuote c = true := by simp
    rw [List.cons_append, behindStartTag?_inert hq (by decide), List.append_assoc, behindStartTag?_run hq hfront]
    cases quote with
    | none =>
      calc behindStartTag? none ('"' :: value ++ ['"'] ++ rest)
          = behindStartTag? (some '"') (value ++ '"' :: rest) := by simp [behindStartTag?, Quote.isQuote]
        _ = behindStartTag? none rest := by rw [behindStartTag?_run hdouble hvalue]; simp [behindStartTag?]
    | some q =>
      by_cases h : q = '"'
      · subst h
        calc behindStartTag? (some '"') ('"' :: value ++ ['"'] ++ rest)
            = behindStartTag? none (value ++ '"' :: rest) := by simp [behindStartTag?]
          _ = behindStartTag? (some '"') rest := by
            rw [behindStartTag?_run hnone hvalue]; simp [behindStartTag?, Quote.isQuote]
      · calc behindStartTag? (some q) ('"' :: value ++ ['"'] ++ rest)
            = behindStartTag? (some q) (value ++ '"' :: rest) := by simp [behindStartTag?, Ne.symm h]
          _ = behindStartTag? (some q) rest := by
            rw [behindStartTag?_run hq hvalue]; simp [behindStartTag?, Ne.symm h]
  | append _ _ ihx ihy => rw [List.append_assoc, ihx, ihy]

theorem behindStartTag?_blind {quote : Option Char} (hq : ∀ c ∈ quote, Quote.isQuote c = true) (hw : Woven glue s o) :
    Option.Rel (After glue s o) (behindStartTag? quote s) (behindStartTag? quote o) := by
  induction hw generalizing quote with
  | nil => cases quote <;> exact .none
  | @keep c s o hheld tail ih =>
    have hlift {quote : Option Char} (hq : ∀ c ∈ quote, Quote.isQuote c = true) :=
      (Woven.kept_tail (c := c) tail).after.lift (ih hq)
    cases quote with
    | none =>
      simp only [behindStartTag?]
      split_ifs with _ _ hquote
      · exact .some (Woven.kept_tail tail).after
      · exact .none
      · exact hlift (by simpa using hquote)
      · exact hlift (by simp)
    | some q =>
      simp only [behindStartTag?]
      split_ifs
      · exact hlift (by simp)
      · exact hlift hq
  | @closing x y z s o hx hy hz hhead tail ih =>
    have hafter : After glue (z ++ '>' :: s) (x ++ y ++ '>' :: o) s o := Woven.after_closing tail
    have hinert {t : Text} (ht : ∀ c ∈ t, isDull c = true) : ∀ c ∈ t, Text.isInert c = true :=
      fun c hc => isInert_of_isDull (ht c hc)
    rw [List.append_assoc] at hafter ⊢
    rw [behindStartTag?_run hq (hinert hz), behindStartTag?_inserted hq hx, behindStartTag?_run hq (hinert hy)]
    cases quote with
    | none => exact .some hafter
    | some q =>
      have hne : '>' ≠ q := fun h => absurd (hq q rfl) (by rw [← h]; decide)
      rw [behindStartTag?, behindStartTag?, if_neg hne]
      exact hafter.lift (ih hq)

/-- what is recognised at the head of a text, character by character -/
theorem exists_recognised {same : Char → Char → Bool} {pattern text rest : Text}
    (h : Text.dropHeadBy? same pattern text = some rest) :
    ∃ u, text = u ++ rest ∧ List.Forall₂ (fun p c => same p c = true) pattern u := by
  induction pattern generalizing text with
  | nil => exact ⟨[], Option.some.inj h, .nil⟩
  | cons p pattern ih =>
    cases text with
    | nil => simp [Text.dropHeadBy?] at h
    | cons c text =>
      rw [Text.dropHeadBy?] at h
      split_ifs at h with hc
      obtain ⟨u, rfl, hu⟩ := ih h
      exact ⟨c :: u, rfl, .cons hc hu⟩

/-- a pattern is recognised before a character that it does not match -/
theorem dropHeadBy?_append {same : Char → Char → Bool} {pattern : Text} {c : Char}
    (h : ∀ p ∈ pattern, same p c = false) (u rest : Text) :
    Text.dropHeadBy? same pattern (u ++ c :: rest) = (Text.dropHeadBy? same pattern u).map (· ++ c :: rest) := by
  induction pattern generalizing u with
  | nil => rfl
  | cons p pattern ih =>
    cases u with
    | nil => simp [Text.dropHeadBy?, h p List.mem_cons_self]
    | cons d u =>
      simp only [List.cons_append, Text.dropHeadBy?]
      split_ifs
      · exact ih (fun e he => h e (List.mem_cons_of_mem _ he)) u
      · rfl

/-- a name of inert characters, whatever their case -/
def Unsigned (name : Text) : Prop :=
  ∀ n ∈ name, ∀ c, Text.sameSmallForm n c = true → Text.isInert c = true

/-- an end tag that is recognised consists of inert characters up to its bracket -/
theorem exists_endTag {name text rest : Text} (hname : Unsigned name) (h : behindEndTagAt? name text = some rest) :
    ∃ run, text = '<' :: '/' :: run ++ '>' :: rest ∧ ∀ c ∈ run, Text.isInert c = true := by
  simp only [behindEndTagAt?, bind, Option.bind_eq_some_iff] at h
  obtain ⟨t, ht, w, hw, h⟩ := h
  obtain ⟨u, rfl, hu⟩ := exists_recognised hw
  have htext : text = '<' :: '/' :: (u ++ w) := by
    match text, ht with
    | [], ht => simp [Text.dropHead?, Text.dropHeadBy?] at ht
    | [c], ht => simp [Text.dropHead?, Text.dropHeadBy?] at ht
    | c :: d :: rest, ht =>
      rw [show "</".toList = ['<', '/'] from rfl] at ht
      simp only [Text.dropHead?, Text.dropHeadBy?] at ht
      split_ifs at ht with hc hd
      rw [← Option.some.inj ht, ← beq_iff_eq.1 hc, ← beq_iff_eq.1 hd]
  split at h
  · next after hafter =>
    obtain rfl := Option.some.inj h
    refine ⟨u ++ w.takeWhile Text.isBlank, ?_, fun c hc => ?_⟩
    · rw [htext, List.cons_append, List.cons_append, List.append_assoc, ← hafter, List.takeWhile_append_dropWhile]
    · rcases List.mem_append.1 hc with hc | hc
      · obtain ⟨n, hn, hsame⟩ := exists_left_of_forall₂ hu hc
        exact hname n hn c hsame
      · exact Text.isInert_of_isBlank (List.mem_takeWhile_imp hc)
  · simp at h

/-- whether an end tag ends is told by what stands before its bracket -/
theorem behindEndTagAt?_bracket {name run : Text} (hname : Unsigned name) (hrun : '>' ∉ run) (rest : Text) :
    behindEndTagAt? name ('<' :: '/' :: run ++ '>' :: rest) =
      if (Text.dropHeadBy? Text.sameSmallForm name run).any (fun v => (v.dropWhile Text.isBlank).isEmpty) then some rest
      else none := by
  have hpass : ∀ n ∈ name, Text.sameSmallForm n '>' = false := by
    intro n hn
    exact Bool.eq_false_iff.2 fun h => absurd (hname n hn '>' h) (by decide)
  have hdrop : Text.dropHead? "</".toList ('<' :: '/' :: run ++ '>' :: rest) = some (run ++ '>' :: rest) := by
    simp [Text.dropHead?, Text.dropHeadBy?]
  simp only [behindEndTagAt?, bind, hdrop, Option.bind_some, dropHeadBy?_append hpass]
  cases hv : Text.dropHeadBy? Text.sameSmallForm name run with
  | none => simp
  | some v =>
    obtain ⟨u, rfl, -⟩ := exists_recognised hv
    simp only [Option.map_some, Option.bind_some, Option.any_some]
    rw [List.dropWhile_append]
    by_cases hd : v.dropWhile Text.isBlank = []
    · simp only [hd, List.isEmpty_nil, if_true]
      rfl
    · obtain ⟨c, w, hd⟩ := List.exists_cons_of_ne_nil hd
      have hc : c ≠ '>' := by
        rintro rfl
        refine hrun (List.mem_append_right _ ?_)
        exact List.dropWhile_subset _ (hd ▸ List.mem_cons_self)
      simp [hd, hc]

/-- **No marker is inside an end tag.** -/
theorem behindEndTagAt?_blind {name : Text} (hname : Unsigned name) (hw : Woven glue s o) :
    Option.Rel (After glue s o) (behindEndTagAt? name s) (behindEndTagAt? name o) := by
  -- where one of the texts begins with an end tag, both do, up to the bracket
  have both {run r q : Text} (hrun : ∀ c ∈ run, Text.isInert c = true) (hs : s = '<' :: '/' :: run ++ '>' :: r)
      (ho : o = '<' :: '/' :: run ++ '>' :: q) (hrq : Woven glue r q) :
      Option.Rel (After glue s o) (behindEndTagAt? name s) (behindEndTagAt? name o) := by
    have hnot : '>' ∉ run := fun hm => Text.ne_of_isInert (hrun _ hm) (by decide) rfl
    have hafter : After glue s o r q :=
      ⟨'<' :: '/' :: run ++ ['>'], '<' :: '/' :: run ++ ['>'], by simp [hs], by simp [ho], rfl, hrq⟩
    rw [hs, ho, behindEndTagAt?_bracket hname hnot, behindEndTagAt?_bracket hname hnot, ← hs, ← ho]
    split_ifs
    · exact .some hafter
    · exact .none
  have exact {run q : Text} (hrun : ∀ c ∈ run, Text.isInert c = true) (ho : o = '<' :: '/' :: run ++ '>' :: q) :
      Option.Rel (After glue s o) (behindEndTagAt? name s) (behindEndTagAt? name o) := by
    have hquote : '"' ∉ '<' :: '/' :: run := by
      simp only [List.mem_cons, not_or]
      exact ⟨by decide, by decide, fun hm => Text.ne_of_isInert (hrun _ hm) (by decide) rfl⟩
    obtain ⟨r, hs, hrq⟩ := hw.exact ho (bracket_notMem_of_isInert hrun) hquote
    exact both hrun hs ho hrq
  cases hs : behindEndTagAt? name s with
  | some rest =>
    obtain ⟨run, htext, hrun⟩ := exists_endTag hname hs
    obtain ⟨run', q, ho, hrun'⟩ := beginsEndTag_iff.1 (hw.beginsEndTag (beginsEndTag_iff.2 ⟨run, rest, htext, hrun⟩))
    rw [← hs]
    exact exact hrun' ho
  | none =>
    cases ho : behindEndTagAt? name o with
    | none => exact .none
    | some rest =>
      obtain ⟨run, htext, hrun⟩ := exists_endTag hname ho
      rw [← hs, ← ho]
      exact exact hrun htext

theorem behindEndTagAt?_of_ne {name : Text} {c : Char} (h : c ≠ '<') (rest : Text) :
    behindEndTagAt? name (c :: rest) = none := by
  have hne : ('<' == c) = false := beq_eq_false_iff_ne.2 (Ne.symm h)
  have hdrop : Text.dropHead? "</".toList (c :: rest) = none := by
    rw [show "</".toList = ['<', '/'] from rfl]
    simp [Text.dropHead?, Text.dropHeadBy?, hne]
  simp only [behindEndTagAt?, bind, hdrop, Option.bind_none]

theorem skips_endTag (name : Text) : Skips fun _ text => behindEndTagAt? name text where
  dull := by
    intro _ c rest hc
    refine behindEndTagAt?_of_ne ?_ rest
    rintro rfl
    rcases hc with hc | hc <;> exact absurd hc (by decide)
  inserted := by
    intro _ tail rest hne htail _
    obtain ⟨c, tail, rfl⟩ := List.exists_cons_of_ne_nil hne
    refine behindEndTagAt?_of_ne ?_ _
    rintro rfl
    rcases htail '<' List.mem_cons_self with h | h <;> exact absurd h (by decide)

theorem behindEndTag?_eq_search (name : Text) (before : Option Char) (text : Text) :
    behindEndTag? name text = search (fun _ text => behindEndTagAt? name text) before text := by
  induction text generalizing before with
  | nil => rfl
  | cons c rest ih => rw [behindEndTag?, search, ih]

/-- no character of a raw-text element's name is a sign, in any case -/
theorem unsigned_of_sameLetter {name : Text} (hname : name ∈ rawTextElements) {u : Text}
    (hu : ∀ n ∈ u, ∃ p ∈ name, Text.sameLetter p n = true) : Unsigned u := by
  have forms : ∀ name ∈ rawTextElements, ∀ p ∈ name, Text.toLower p ∉ Text.signs ∧
      ∀ f ∈ (Text.furtherForms.lookup (Text.toLower p)).getD [], f ∉ Text.signs := by
    decide +kernel
  have fixed : ∀ c ∈ Text.signs, Text.toLower c = c := by decide +kernel
  intro n hn c hsame
  rw [Text.isInert_iff]
  intro hc
  obtain ⟨p, hp, hletter⟩ := hu n hn
  obtain ⟨hsmall, hfurther⟩ := forms name hname p hp
  have hlower : Text.toLower n = c := by
    rw [← fixed c hc]
    exact beq_iff_eq.1 hsame
  simp only [Text.sameLetter, hlower, Bool.or_eq_true, Bool.and_eq_true, beq_iff_eq, List.contains_iff_mem] at hletter
  rcases hletter with h | ⟨-, h⟩
  · exact hsmall (h ▸ hc)
  · exact hfurther c h hc

theorem behindRawText?_of_ne {c : Char} (h : c ≠ '<') (rest : Text) : behindRawText? (c :: rest) = none := by
  unfold behindRawText?
  split
  · next heq => exact absurd (List.head_eq_of_cons_eq heq) h
  · rfl

theorem behindRawText?_blind (hw : Woven glue s o) :
    Option.Rel (After glue s o) (behindRawText? s) (behindRawText? o) := by
  have seen : ∀ name ∈ rawTextElements, Woven.Seen Text.sameLetter glue name := by
    cases glue <;> decide +kernel
  cases hw with
  | nil => exact .none
  | closing hx hy hz hhead tail =>
    obtain ⟨⟨e, he, s', hs⟩, c, o', ho, -⟩ := Woven.heads_closing hx hhead
    rw [hs, ho, behindRawText?_of_ne (fun h => absurd (h ▸ he) (by decide)), behindRawText?_of_ne (by decide)]
    exact .none
  | @keep c s o hheld tail =>
    by_cases hc : c = '<'
    · subst hc
      simp only [behindRawText?]
      refine rel_findSome? ?_
      intro name hname
      simp only [bind, Scanner.dropLetters?]
      rcases rel_cases (tail.dropHeadBy? Woven.exact_sameLetter (seen name hname)) with
        ⟨hs, ho⟩ | ⟨r, q, hs, ho, hkept⟩ <;> rw [hs, ho]
      · exact .none
      · obtain ⟨rfl, hlen⟩ := Text.dropHeadBy?_eq_drop hs
        obtain ⟨u, hu, hletters⟩ := exists_recognised hs
        have hname' : Unsigned (s.take name.length) := by
          refine unsigned_of_sameLetter hname fun n hn => exists_left_of_forall₂ hletters ?_
          rwa [List.append_cancel_right ((List.take_append_drop name.length s).trans hu)] at hn
        simp only [Option.bind_some, hkept.after.woven.wordBoundary_eq, ← (hkept.take_eq hlen).1]
        split_ifs
        · have hnone : ∀ c ∈ (none : Option Char), Quote.isQuote c = true := by simp
          have hstart := behindStartTag?_blind hnone hkept.after.woven
          refine (hkept.cons '<').after.lift (rel_bind hstart fun r q hafter => ?_)
          rw [behindEndTag?_eq_search _ none, behindEndTag?_eq_search _ none]
          exact hafter.lift (search_blind (skips_endTag _) (fun _ _ _ hw => behindEndTagAt?_blind hname' hw)
            hafter.woven none)
        · exact .none
    · rw [behindRawText?_of_ne hc, behindRawText?_of_ne hc]
      exact .none

/-! ## Any stretch -/

/-- a dialect whose blocks are seen in spite of markers -/
structure ApparentBlocks (glue : Bool) (d : Dialect) : Prop where
  code : ∀ block ∈ d.codeBlocks, Apparent glue block.opener ∧ Apparent glue block.closer
  directives : ∀ block ∈ d.blockDirectives, Apparent glue block.opener ∧ Apparent glue block.closer

/-- **What is never markup is the same in both texts.** -/
theorem behindOpaque?_blind {d : Dialect} (hd : ApparentBlocks glue d) (before : Option Char) (hw : Woven glue s o) :
    Option.Rel (After glue s o) (behindOpaque? d before s) (behindOpaque? d before o) := by
  refine rel_or (behindRawText?_blind hw) (rel_or ?_ ?_)
  · exact rel_findSome? fun block hblock => behindBlock?_blind (hd.code block hblock).1 (hd.code block hblock).2 hw
  · exact rel_findSome? fun block hblock =>
      behindDirectives?_blind (hd.directives block hblock).1 (hd.directives block hblock).2 before hw

end Scanner

end SourceMark
