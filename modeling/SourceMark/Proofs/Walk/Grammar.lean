/-
The grammar of a tag's attributes. A code body for a closer is read from left to right: at each place a quoted span, in
which backslashes escape, or else the closer, which ends the body, or else the longest opener with a code body for its
closer, or else any one character. A tag region has quoted spans without escapes, openers with their code bodies, and
characters other than angle brackets. A quote always opens a span and an opener always opens a body: where the span or
the body does not end, nothing is read.

The walk is one loop over a stack of closers. What it reads while a region is open is a code body, whatever is open
around the region; so the loop and the recursion of the grammar read the same.

Results:
- `length?_eq_some_iff`: a quoted span ends at the first quote of its kind that is not escaped.
- `CodeBody.exists_read`, `Reader.exists_codeBody`: a code body is what a walk reads until its region is closed.
- `length?_eq_some_iff_codeBody`: where the walk leaves a region is where a code body ends.
- `body?_eq_some_iff`: a tag ends where a tag region comes to a closing bracket.
-/
import SourceMark.Proofs.Checked.Walk

namespace SourceMark

/-! ## Quoted spans -/

namespace Quote

/-- a text that ends in an odd run of backslashes escapes what follows it -/
def Escaping (text : Text) : Prop :=
  ∃ front k, text = front ++ List.replicate (2 * k + 1) '\\' ∧ front.getLast? ≠ some '\\'

/-- the content of a quoted span, up to the first quote of its kind that is not escaped -/
structure IsSpan (escapes : Bool) (quote : Char) (content : Text) : Prop where
  ends : ¬(escapes = true ∧ Escaping content)
  passes : ∀ front behind, content = front ++ quote :: behind → escapes = true ∧ Escaping front

theorem escaping_iff {text : Text} : Escaping text ↔ unescaped text.reverse = false := by
  constructor
  · rintro ⟨front, k, rfl, hfront⟩
    have hrun : front.reverse.takeWhile (· == '\\') = [] := by
      cases hreverse : front.reverse with
      | nil => rfl
      | cons c rest =>
        have hc : c ≠ '\\' := by
          rintro rfl
          exact hfront (by rw [← List.head?_reverse, hreverse, List.head?_cons])
        simp [hc]
    rw [unescaped, List.reverse_append, List.reverse_replicate, List.takeWhile_append_of_pos (by simp), hrun]
    simp [Nat.add_mod]
  · intro h
    have hsplit := List.takeWhile_append_dropWhile (p := (· == '\\')) (l := text.reverse)
    have hrun : text.reverse.takeWhile (· == '\\') =
        List.replicate (text.reverse.takeWhile (· == '\\')).length '\\' := by
      rw [List.eq_replicate_iff]
      exact ⟨rfl, fun c hc => by simpa using List.all_eq_true.1 List.all_takeWhile c hc⟩
    have hodd : (text.reverse.takeWhile (· == '\\')).length % 2 = 1 := by
      rw [unescaped, beq_eq_false_iff_ne] at h
      omega
    refine ⟨(text.reverse.dropWhile (· == '\\')).reverse, (text.reverse.takeWhile (· == '\\')).length / 2, ?_, ?_⟩
    · have htext := congrArg List.reverse hsplit
      rw [List.reverse_append, List.reverse_reverse, hrun, List.reverse_replicate] at htext
      rw [show 2 * ((text.reverse.takeWhile (· == '\\')).length / 2) + 1 =
        (text.reverse.takeWhile (· == '\\')).length by omega]
      exact htext.symm
    · rw [List.getLast?_reverse]
      intro hhead
      have := List.head?_dropWhile_not (· == '\\') text.reverse
      rw [hhead] at this
      simp at this

/-- the rest of the content of a quoted span that holds `before` so far, written backwards -/
def IsSpanBehind (escapes : Bool) (quote : Char) (before content : Text) : Prop :=
  ¬(escapes = true ∧ Escaping (before.reverse ++ content)) ∧
    ∀ front more, content = front ++ quote :: more → escapes = true ∧ Escaping (before.reverse ++ front)

section Behind

variable {escapes : Bool} {quote : Char} {before : Text}

theorem closes_iff : (!escapes || unescaped before) = true ↔ ¬(escapes = true ∧ Escaping before.reverse) := by
  rw [escaping_iff, List.reverse_reverse]
  cases escapes <;> simp

theorem isSpanBehind_nil : IsSpanBehind escapes quote before [] ↔ (!escapes || unescaped before) = true := by
  rw [closes_iff, IsSpanBehind, List.append_nil]
  simp

theorem isSpanBehind_cons {c : Char} {content : Text} : IsSpanBehind escapes quote before (c :: content) ↔
    ¬(c = quote ∧ (!escapes || unescaped before) = true) ∧ IsSpanBehind escapes quote (c :: before) content := by
  have hreverse (content : Text) : (c :: before).reverse ++ content = before.reverse ++ c :: content := by simp
  simp only [IsSpanBehind, hreverse, closes_iff, not_and]
  constructor
  · rintro ⟨hends, hpasses⟩
    refine ⟨?_, hends, ?_⟩
    · rintro rfl
      simpa using hpasses [] content rfl
    · intro front more hfront
      exact hpasses (c :: front) more (by rw [hfront, List.cons_append])
  · rintro ⟨hquote, hends, hpasses⟩
    refine ⟨hends, ?_⟩
    intro front more hfront
    cases front with
    | nil =>
      obtain ⟨rfl, -⟩ := List.cons.inj hfront
      simpa using hquote rfl
    | cons d front =>
      obtain ⟨rfl, rfl⟩ := List.cons.inj hfront
      exact hpasses front more rfl

/-- a quoted span ends at the first quote of its kind that is not escaped, whatever it holds so far -/
theorem length?_eq_some_iff_from {text : Text} {n : Nat} : length? escapes quote before text = some n ↔
    ∃ content behind, text = content ++ quote :: behind ∧ n = content.length + 1 ∧
      IsSpanBehind escapes quote before content := by
  induction text generalizing before n with
  | nil => simp [length?]
  | cons c rest ih =>
    rw [length?]
    by_cases hend : (c = quote && (!escapes || unescaped before)) = true
    · rw [if_pos hend]
      rw [Bool.and_eq_true, decide_eq_true_eq] at hend
      constructor
      · rintro ⟨⟩
        exact ⟨[], rest, by rw [hend.1]; rfl, rfl, isSpanBehind_nil.2 hend.2⟩
      · rintro ⟨content, behind, htext, rfl, hspan⟩
        cases content with
        | nil => rfl
        | cons d content =>
          obtain rfl := (List.cons.inj htext).1
          exact absurd hend (isSpanBehind_cons.1 hspan).1
    · rw [if_neg hend, Option.map_eq_some_iff]
      rw [Bool.and_eq_true, decide_eq_true_eq] at hend
      constructor
      · rintro ⟨m, hm, rfl⟩
        obtain ⟨content, behind, rfl, rfl, hspan⟩ := ih.1 hm
        exact ⟨c :: content, behind, rfl, rfl, isSpanBehind_cons.2 ⟨hend, hspan⟩⟩
      · rintro ⟨content, behind, htext, rfl, hspan⟩
        cases content with
        | nil => exact absurd ⟨(List.cons.inj htext).1, isSpanBehind_nil.1 hspan⟩ hend
        | cons d content =>
          obtain ⟨rfl, rfl⟩ := List.cons.inj htext
          exact ⟨content.length + 1, ih.2 ⟨content, behind, rfl, rfl, (isSpanBehind_cons.1 hspan).2⟩, rfl⟩

/-- **A quoted span** ends at the first quote of its kind that is not escaped. -/
theorem length?_eq_some_iff {text : Text} {n : Nat} : length? escapes quote [] text = some n ↔
    ∃ content behind, text = content ++ quote :: behind ∧ n = content.length + 1 ∧ IsSpan escapes quote content := by
  have hspan (content : Text) : IsSpanBehind escapes quote [] content ↔ IsSpan escapes quote content :=
    ⟨fun h => ⟨h.1, h.2⟩, fun h => ⟨h.ends, h.passes⟩⟩
  simp only [length?_eq_some_iff_from, hspan]

end Behind

end Quote

namespace Nesting

/-! ## The grammar -/

section Grammar

variable (regions : List Delimiters)

def StartsPlain (text : Text) : Prop :=
  ∃ c rest, text = c :: rest ∧ Quote.isQuote c = false

def Opens (text : Text) (region : Delimiters) : Prop :=
  region ∈ regions ∧ region.opener <+: text ∧
    ∀ other ∈ regions, other.opener <+: text → other.opener.length ≤ region.opener.length

def OpensNone (text : Text) : Prop :=
  ∀ region ∈ regions, ¬region.opener <+: text

/-- the text starts with a code body for the closer, `rest` follows the body, and `gt` says whether the body reads a
closing angle bracket as a character, itself or in a body inside it -/
inductive CodeBody : (closer text rest : Text) → (gt : Bool) → Prop
  | span {closer text rest content : Text} {quote : Char} {gt : Bool} (hquote : Quote.isQuote quote = true)
      (hspan : Quote.IsSpan true quote content) (hbehind : CodeBody closer text rest gt) :
      CodeBody closer (quote :: (content ++ quote :: text)) rest gt
  | closer {closer rest : Text} (hplain : StartsPlain (closer ++ rest)) : CodeBody closer (closer ++ rest) rest false
  | nested {closer text middle rest : Text} {region : Delimiters} {gt gt' : Bool}
      (hplain : StartsPlain (region.opener ++ text)) (hcloser : ¬closer <+: region.opener ++ text)
      (hopens : Opens regions (region.opener ++ text) region) (hinside : CodeBody region.closer text middle gt)
      (hbehind : CodeBody closer middle rest gt') : CodeBody closer (region.opener ++ text) rest (gt || gt')
  | char {closer text rest : Text} {c : Char} {gt : Bool} (hplain : Quote.isQuote c = false)
      (hcloser : ¬closer <+: c :: text) (hopens : OpensNone regions (c :: text))
      (hbehind : CodeBody closer text rest gt) : CodeBody closer (c :: text) rest (c == '>' || gt)

/-- the text starts with a tag region, `rest` follows the region, and `gt` says whether a code body in the region reads
a closing angle bracket as a character -/
inductive TagRegion : (text rest : Text) → (gt : Bool) → Prop
  | nil (text : Text) : TagRegion text text false
  | span {text rest content : Text} {quote : Char} {gt : Bool} (hquote : Quote.isQuote quote = true)
      (hspan : Quote.IsSpan false quote content) (hbehind : TagRegion text rest gt) :
      TagRegion (quote :: (content ++ quote :: text)) rest gt
  | nested {text middle rest : Text} {region : Delimiters} {gt gt' : Bool}
      (hplain : StartsPlain (region.opener ++ text)) (hopens : Opens regions (region.opener ++ text) region)
      (hinside : CodeBody regions region.closer text middle gt) (hbehind : TagRegion middle rest gt') :
      TagRegion (region.opener ++ text) rest (gt || gt')
  | char {text rest : Text} {c : Char} {gt : Bool} (hplain : Quote.isQuote c = false)
      (hbrackets : c ≠ '>' ∧ c ≠ '<') (hopens : OpensNone regions (c :: text)) (hbehind : TagRegion text rest gt) :
      TagRegion (c :: text) rest gt

end Grammar

variable {regions : List Delimiters}

/-! ## Openers -/

theorem opening?_eq_some_iff (h : Checked.WellFormed regions) {text : Text} {region : Delimiters} :
    opening? regions text = some region ↔ Opens regions text region := by
  constructor
  · intro hopening
    obtain ⟨hmem, -, hhead⟩ := opening?_eq_some hopening
    refine ⟨hmem, List.isPrefixOf_iff_prefix.1 hhead, fun other hother hstands => ?_⟩
    obtain ⟨found, hfound, hlength⟩ :=
      Checked.opening?_longest h.openers other hother (List.isPrefixOf_iff_prefix.2 hstands)
    rw [hopening, Option.some.injEq] at hfound
    rwa [hfound]
  · rintro ⟨hmem, hhead, hlongest⟩
    obtain ⟨found, hfound, hlength⟩ :=
      Checked.opening?_longest h.openers region hmem (List.isPrefixOf_iff_prefix.2 hhead)
    obtain ⟨hfoundmem, -, hfoundhead⟩ := opening?_eq_some hfound
    rw [List.isPrefixOf_iff_prefix] at hfoundhead
    have hback := hlongest found hfoundmem hfoundhead
    have hsame : region.opener = found.opener :=
      (List.prefix_of_prefix_length_le hhead hfoundhead hlength).eq_of_length (Nat.le_antisymm hlength hback)
    rw [hfound, List.inj_on_of_nodup_map h.distinct hmem hfoundmem hsame]

theorem opening?_eq_none_iff (h : Checked.WellFormed regions) {text : Text} :
    opening? regions text = none ↔ OpensNone regions text := by
  constructor
  · intro hnone region hmem hhead
    obtain ⟨found, hfound, -⟩ :=
      Checked.opening?_longest h.openers region hmem (List.isPrefixOf_iff_prefix.2 hhead)
    rw [hnone] at hfound
    exact absurd hfound (by simp)
  · intro hnone
    cases hopening : opening? regions text with
    | none => rfl
    | some region =>
      obtain ⟨hmem, -, hhead⟩ := opening?_eq_some hopening
      exact absurd (List.isPrefixOf_iff_prefix.1 hhead) (hnone region hmem)

/-! ## Tokens -/

theorem StartsPlain.not_isQuote {c : Char} {rest : Text} (h : StartsPlain (c :: rest)) : Quote.isQuote c = false := by
  obtain ⟨d, more, heq, hd⟩ := h
  rwa [(List.cons.inj heq).1]

/-- the closer of the innermost region does not stand at the head of the text -/
def StaysOpen (nesting : Nesting) (text : Text) : Prop :=
  ∀ closer outer, nesting = closer :: outer → ¬closer <+: text

theorem staysOpen_nil (text : Text) : StaysOpen [] text := by
  intro closer outer hnesting
  exact absurd hnesting (by simp)

theorem staysOpen_cons {closer : Text} {outer : Nesting} {text : Text} :
    StaysOpen (closer :: outer) text ↔ ¬closer <+: text := by
  constructor
  · intro h
    exact h closer outer rfl
  · intro h closer' outer' hnesting
    obtain ⟨rfl, rfl⟩ := List.cons.inj hnesting
    exact h

section Tokens

variable {nesting : Nesting} {text : Text}

variable (regions) in
theorem token?_span {quote : Char} {content : Text} (hquote : Quote.isQuote quote = true) (nesting : Nesting)
    (hspan : Quote.IsSpan (!nesting.isEmpty) quote content) (text : Text) :
    token? regions nesting quote (content ++ [quote] ++ text) = some ((content ++ [quote]).length, nesting) := by
  have hlength := Quote.length?_eq_some_iff.2 ⟨content, text, (List.append_cons content quote text).symm, rfl, hspan⟩
  simp only [token?, hquote, if_true, hlength, Option.map_some, List.length_append, List.length_singleton]

variable (regions) in
/-- the closer of the innermost region is one token, which leaves the region -/
theorem token?_closer {c : Char} (hquote : Quote.isQuote c = false) (more : Text) (outer : Nesting) (text : Text) :
    token? regions ((c :: more) :: outer) c (more ++ text) = some (more.length, outer) := by
  simp [token?, hquote]

/-- where the innermost region does not close, the longest opener is one token, which enters its region -/
theorem token?_opener (hr : Checked.WellFormed regions) {region : Delimiters} {c : Char} {more : Text}
    (hopener : region.opener = c :: more) (hquote : Quote.isQuote c = false)
    (hopens : Opens regions (c :: (more ++ text)) region) (hcloser : StaysOpen nesting (c :: (more ++ text))) :
    token? regions nesting c (more ++ text) = some (more.length, region.closer :: nesting) := by
  have hopening := (opening?_eq_some_iff hr).2 hopens
  rcases token?_of_not_isQuote regions nesting hquote (more ++ text) with
    ⟨closer, outer, hnesting, hhead, -⟩ | ⟨found, hfound, -, htoken⟩ | ⟨hnone, -, -⟩
  · exact absurd (List.isPrefixOf_iff_prefix.1 hhead) (hcloser closer outer hnesting)
  · rw [hopening, Option.some.injEq] at hfound
    rw [htoken, ← hfound, hopener]
    rfl
  · rw [hopening] at hnone
    exact absurd hnone (by simp)

theorem token?_char (hr : Checked.WellFormed regions) {c : Char} (hquote : Quote.isQuote c = false)
    (hopens : OpensNone regions (c :: text)) (hcloser : StaysOpen nesting (c :: text)) :
    token? regions nesting c ([] ++ text) = some (0, nesting) := by
  have hopening := (opening?_eq_none_iff hr).2 hopens
  rcases token?_of_not_isQuote regions nesting hquote text with
    ⟨closer, outer, hnesting, hhead, -⟩ | ⟨found, hfound, -, -⟩ | ⟨-, -, htoken⟩
  · exact absurd (List.isPrefixOf_iff_prefix.1 hhead) (hcloser closer outer hnesting)
  · rw [hopening] at hfound
    exact absurd hfound (by simp)
  · exact htoken

/-- what stands behind the first character of a delimiter at the head of a text -/
theorem exists_more {delimiter : Text} (hne : delimiter ≠ []) {c : Char}
    (hhead : delimiter.isPrefixOf (c :: text) = true) :
    ∃ more behind, delimiter = c :: more ∧ text = more ++ behind := by
  obtain ⟨behind, hbehind⟩ := List.isPrefixOf_iff_prefix.1 hhead
  obtain ⟨d, more, rfl⟩ := List.exists_cons_of_ne_nil hne
  obtain ⟨rfl, rfl⟩ := List.cons.inj hbehind
  exact ⟨more, behind, rfl, rfl⟩

/-- **What a token is**: a quoted span, the closer of the innermost region, the longest opener, or one character. -/
theorem token?_cases (hr : Checked.WellFormed regions) (hne : ∀ outer, nesting ≠ [] :: outer) {c : Char} {n : Nat}
    {nesting' : Nesting} (h : token? regions nesting c text = some (n, nesting')) :
    ∃ more behind, text = more ++ behind ∧ n = more.length ∧
      ((∃ content, Quote.isQuote c = true ∧ more = content ++ [c] ∧ Quote.IsSpan (!nesting.isEmpty) c content ∧
          nesting' = nesting) ∨
        (Quote.isQuote c = false ∧ nesting = (c :: more) :: nesting') ∨
        (Quote.isQuote c = false ∧ StaysOpen nesting (c :: text) ∧ ∃ region, region.opener = c :: more ∧
          Opens regions (c :: text) region ∧ nesting' = region.closer :: nesting) ∨
        (Quote.isQuote c = false ∧ StaysOpen nesting (c :: text) ∧ OpensNone regions (c :: text) ∧ more = [] ∧
          nesting' = nesting)) := by
  cases hquote : Quote.isQuote c with
  | true =>
    simp only [token?, hquote, if_true, Option.map_eq_some_iff, Prod.mk.injEq] at h
    obtain ⟨m, hm, rfl, rfl⟩ := h
    obtain ⟨content, behind, rfl, rfl, hspan⟩ := Quote.length?_eq_some_iff.1 hm
    exact ⟨content ++ [c], behind, by simp, by simp, .inl ⟨content, rfl, rfl, hspan, rfl⟩⟩
  | false =>
    have hopen (hno : ∀ closer outer, nesting = closer :: outer → closer.isPrefixOf (c :: text) = false) :
        StaysOpen nesting (c :: text) := by
      intro closer outer hnesting hhead
      rw [← List.isPrefixOf_iff_prefix, hno closer outer hnesting] at hhead
      exact absurd hhead (by decide)
    rcases token?_of_not_isQuote regions nesting hquote text with
      ⟨closer, outer, hnesting, hhead, htoken⟩ | ⟨region, hregion, hno, htoken⟩ | ⟨hnone, hno, htoken⟩
    all_goals
      rw [htoken, Option.some.injEq, Prod.mk.injEq] at h
      obtain ⟨rfl, rfl⟩ := h
    · subst hnesting
      obtain ⟨more, behind, rfl, rfl⟩ := exists_more (fun hnil => hne outer (by rw [hnil])) hhead
      exact ⟨more, behind, rfl, rfl, .inr (.inl ⟨rfl, rfl⟩)⟩
    · obtain ⟨more, behind, hopener, htext⟩ :=
        exists_more (hr.openers region (opening?_eq_some hregion).1) (opening?_eq_some hregion).2.2
      exact ⟨more, behind, htext, by rw [hopener]; rfl,
        .inr (.inr (.inl ⟨rfl, hopen hno, region, hopener, (opening?_eq_some_iff hr).1 hregion, rfl⟩))⟩
    · exact ⟨[], text, rfl, rfl, .inr (.inr (.inr ⟨rfl, hopen hno, (opening?_eq_none_iff hr).1 hnone, rfl, rfl⟩))⟩

end Tokens

/-! ## Readings token by token -/

variable (regions) in
/-- a reading that goes on token by token while a region is open, and puts the characters of each token in front of what
it finds behind them -/
structure Reader (Found : Type) where
  read : Nesting → Text → Option Found
  extend : (front : Text) → (gt : Bool) → Found → Found
  extend_extend : ∀ front more gt gt' found,
    extend front gt (extend more gt' found) = extend (front ++ more) (gt || gt') found
  read_nil : ∀ closer outer, read (closer :: outer) [] = none
  read_cons : ∀ closer outer c rest, closer ≠ [] → read (closer :: outer) (c :: rest) =
    (token? regions (closer :: outer) c rest).bind fun token =>
      (read token.2 (rest.drop token.1)).map (extend (c :: rest.take token.1) (c == '>'))

/-- regions whose delimiters do not start with a closing angle bracket -/
def Quiet (regions : List Delimiters) : Prop :=
  ∀ region ∈ regions, region.opener.head? ≠ some '>' ∧ region.closer.head? ≠ some '>'

instance (regions : List Delimiters) : Decidable (Quiet regions) := by
  unfold Quiet; infer_instance

section Readers

variable {Found : Type} {R : Reader regions Found} {closer : Text} {outer : Nesting}

theorem Reader.read_token (R : Reader regions Found) (hne : closer ≠ []) {c : Char} {more text : Text} {n : Nat}
    {nesting' : Nesting} (hn : n = more.length)
    (htoken : token? regions (closer :: outer) c (more ++ text) = some (n, nesting')) :
    R.read (closer :: outer) (c :: (more ++ text)) = (R.read nesting' text).map (R.extend (c :: more) (c == '>')) := by
  subst hn
  rw [R.read_cons _ _ _ _ hne, htoken, Option.bind_some, List.drop_left, List.take_left]

theorem Reader.map_extend (R : Reader regions Found) (front more : Text) (gt gt' : Bool) (found : Option Found) :
    (found.map (R.extend more gt')).map (R.extend front gt) = found.map (R.extend (front ++ more) (gt || gt')) := by
  rw [Option.map_map]
  exact Option.map_congr fun found _ => R.extend_extend front more gt gt' found

theorem sign_of_isQuote {quote : Char} (h : Quote.isQuote quote = true) : (quote == '>') = false := by
  rw [beq_eq_false_iff_ne]
  rintro rfl
  exact absurd h (by decide)

theorem brackets_of_isQuote {quote : Char} (h : Quote.isQuote quote = true) : quote ≠ '>' ∧ quote ≠ '<' := by
  constructor <;> (rintro rfl; exact absurd h (by decide))

theorem sign_of_head? {delimiter more : Text} {c : Char} (h : delimiter.head? ≠ some '>')
    (hcons : delimiter = c :: more) :
    (c == '>') = false := by
  rw [hcons] at h
  simpa using h

/-- **A code body is read as a whole**, whatever is open around it. -/
theorem CodeBody.exists_read (R : Reader regions Found) (hr : Checked.WellFormed regions) (hquiet : Quiet regions)
    {text rest : Text} {gt : Bool} (h : CodeBody regions closer text rest gt) (hne : closer ≠ []) :
    ∃ front gt', text = front ++ rest ∧ (closer.head? ≠ some '>' → gt' = gt) ∧
      ∀ outer, R.read (closer :: outer) text = (R.read outer rest).map (R.extend front gt') := by
  induction h with
  | @span closer text rest content quote gt hquote hspan hbehind ih =>
    obtain ⟨front, gt', rfl, hgt, hread⟩ := ih hne
    refine ⟨quote :: (content ++ [quote]) ++ front, gt', by simp, hgt, fun outer => ?_⟩
    have htoken := token?_span regions hquote (closer :: outer) hspan (front ++ rest)
    rw [List.append_cons content, R.read_token hne rfl htoken, hread, R.map_extend, sign_of_isQuote hquote,
      Bool.false_or]
  | @closer closer rest hplain =>
    obtain ⟨c, more, rfl⟩ := List.exists_cons_of_ne_nil hne
    refine ⟨c :: more, c == '>', rfl, fun hc => sign_of_head? hc rfl, fun outer => ?_⟩
    exact R.read_token hne rfl (token?_closer regions hplain.not_isQuote more outer rest)
  | @nested closer text middle rest region gt gt' hplain hcloser hopens hinside hbehind ihinside ihbehind =>
    obtain ⟨inside, gtInside, rfl, hgtInside, hreadInside⟩ := ihinside (hr.closers region hopens.1)
    obtain ⟨behind, gtBehind, rfl, hgtBehind, hreadBehind⟩ := ihbehind hne
    obtain ⟨hheadOpener, hheadCloser⟩ := hquiet region hopens.1
    refine ⟨region.opener ++ (inside ++ behind), gtInside || gtBehind, by simp, fun hc => ?_, fun outer => ?_⟩
    · rw [hgtInside hheadCloser, hgtBehind hc]
    · obtain ⟨c, more, hopener⟩ := List.exists_cons_of_ne_nil (hr.openers region hopens.1)
      rw [hopener, List.cons_append] at hplain hcloser hopens
      have hopen : StaysOpen (closer :: outer) (c :: (more ++ (inside ++ (behind ++ rest)))) := staysOpen_cons.2 hcloser
      have htoken := token?_opener hr hopener hplain.not_isQuote hopens hopen
      rw [hopener, List.cons_append, R.read_token hne rfl htoken, hreadInside, hreadBehind, R.map_extend, R.map_extend,
        sign_of_head? hheadOpener hopener, Bool.false_or, List.append_assoc]
  | @char closer text rest c gt hplain hcloser hopens hbehind ih =>
    obtain ⟨front, gt', rfl, hgt, hread⟩ := ih hne
    refine ⟨c :: front, c == '>' || gt', rfl, fun hc => by rw [hgt hc], fun outer => ?_⟩
    have hopen : StaysOpen (closer :: outer) (c :: (front ++ rest)) := staysOpen_cons.2 hcloser
    rw [← List.nil_append (front ++ rest), R.read_token hne List.length_nil.symm (token?_char hr hplain hopens hopen),
      hread, R.map_extend, List.singleton_append]

/-- **What is read while a region is open starts with a code body**, whatever is open around the region. -/
theorem Reader.exists_codeBody (R : Reader regions Found) (hr : Checked.WellFormed regions) (hquiet : Quiet regions)
    {text : Text} (hne : closer ≠ []) (h : (R.read (closer :: outer) text).isSome) :
    ∃ rest gt, CodeBody regions closer text rest gt := by
  -- on the length: behind an opener two bodies follow, and the second is read where the first ends
  induction hlength : text.length using Nat.strongRecOn generalizing closer outer text with
  | ind length ih =>
    cases text with
    | nil =>
      rw [R.read_nil] at h
      exact absurd h (by simp)
    | cons c behind =>
      rw [R.read_cons _ _ _ _ hne] at h
      cases htoken : token? regions (closer :: outer) c behind with
      | none =>
        rw [htoken] at h
        exact absurd h (by simp)
      | some token =>
        have hinner : ∀ outer', closer :: outer ≠ [] :: outer' := fun _ heq => hne (List.cons.inj heq).1
        obtain ⟨more, text, rfl, hn, hcases⟩ := token?_cases hr hinner htoken
        rw [htoken, Option.bind_some, Option.isSome_map, hn, List.drop_left] at h
        rw [List.length_cons, List.length_append] at hlength
        rcases hcases with ⟨content, hquote, rfl, hspan, hnesting⟩ | ⟨hquote, hnesting⟩ |
          ⟨hquote, hopen, region, hopener, hopens, hnesting⟩ | ⟨hquote, hopen, hopens, rfl, hnesting⟩
        · rw [hnesting] at h
          obtain ⟨rest, gt, hbody⟩ := ih text.length (by omega) hne h rfl
          rw [← List.append_cons]
          exact ⟨rest, gt, .span hquote hspan hbody⟩
        · rw [(List.cons.inj hnesting).1]
          exact ⟨text, false, .closer ⟨c, more ++ text, rfl, hquote⟩⟩
        · have hcloser := hr.closers region hopens.1
          rw [hnesting] at h
          obtain ⟨middle, gt, hinside⟩ := ih text.length (by omega) hcloser h rfl
          obtain ⟨front, gt', hfront, -, hread⟩ := hinside.exists_read R hr hquiet hcloser
          rw [hread, Option.isSome_map] at h
          obtain ⟨rest, gt', hbody⟩ := ih middle.length (by simp [hfront] at hlength; omega) hne h rfl
          have hplain : StartsPlain (c :: (more ++ text)) := ⟨c, _, rfl, hquote⟩
          have hclosed := staysOpen_cons.1 hopen
          rw [← List.cons_append, ← hopener] at hplain hclosed hopens ⊢
          exact ⟨rest, _, .nested hplain hclosed hopens hinside hbody⟩
        · rw [hnesting] at h
          obtain ⟨rest, gt, hbody⟩ := ih text.length (by omega) hne h rfl
          exact ⟨rest, _, .char hquote (staysOpen_cons.1 hopen) hopens hbody⟩

end Readers

/-! ## The end of a region -/

/-- a region with characters in its closer is still open where a character is read -/
theorem settle_cons (c : Char) {closer : Text} (hne : closer ≠ []) (outer : Nesting) :
    settle c (closer :: outer) = closer :: outer := by
  unfold settle
  split
  · rfl
  · exact List.dropWhile_cons_of_neg (by simpa using hne)

/-- while a region is open, the walk reads a token and goes on behind it -/
theorem length?_token (closer : Text) (outer : Nesting) (c : Char) (rest : Text) (hne : closer ≠ []) :
    length? regions 0 (closer :: outer) (c :: rest) =
      (token? regions (closer :: outer) c rest).bind fun token =>
        (length? regions 0 token.2 (rest.drop token.1)).map fun n => (c :: rest.take token.1).length + n := by
  simp only [length?, settle_cons c hne]
  cases htoken : token? regions (closer :: outer) c rest with
  | none => rfl
  | some token =>
    have hle := Checked.token?_le htoken
    simp only [Option.bind_some]
    rw [Checked.length?_skip hle, Option.map_map]
    refine Option.map_congr fun n _ => ?_
    simp only [Function.comp_apply, List.length_cons, List.length_take_of_le hle]
    omega

theorem length_append_add (front more : Text) (n : Nat) :
    front.length + (more.length + n) = (front ++ more).length + n := by
  rw [List.length_append, Nat.add_assoc]

variable (regions) in
/-- the walk to the end of the open regions counts the characters that it reads -/
def regionReader : Reader regions Nat where
  read := length? regions 0
  extend front _ n := front.length + n
  extend_extend front more _ _ n := length_append_add front more n
  read_nil _ _ := rfl
  read_cons := length?_token

/-- **A region ends where a code body for its closer ends.** -/
theorem length?_eq_some_iff_codeBody (hr : Checked.WellFormed regions) (hquiet : Quiet regions) {closer : Text}
    (hne : closer ≠ []) {text : Text} {n : Nat} : length? regions 0 [closer] text = some n ↔
      ∃ body rest gt, text = body ++ rest ∧ body.length = n ∧ CodeBody regions closer text rest gt := by
  have hend {text rest : Text} {gt : Bool} (hbody : CodeBody regions closer text rest gt) :
      ∃ body, text = body ++ rest ∧ length? regions 0 [closer] text = some body.length := by
    obtain ⟨body, gt', htext, -, hread⟩ := hbody.exists_read (regionReader regions) hr hquiet hne
    refine ⟨body, htext, (hread []).trans ?_⟩
    simp [regionReader, length?]
  constructor
  · intro h
    obtain ⟨rest, gt, hbody⟩ := (regionReader regions).exists_codeBody hr hquiet hne (Option.isSome_of_eq_some h)
    obtain ⟨body, htext, hlength⟩ := hend hbody
    rw [h, Option.some.injEq] at hlength
    exact ⟨body, rest, gt, htext, hlength.symm, hbody⟩
  · rintro ⟨body, rest, gt, htext, rfl, hbody⟩
    obtain ⟨front, hfront, hlength⟩ := hend hbody
    rw [hlength, List.append_cancel_right (hfront.symm.trans htext)]

theorem length?_eq_none_iff_codeBody (hr : Checked.WellFormed regions) (hquiet : Quiet regions) {closer : Text}
    (hne : closer ≠ []) {text : Text} :
    length? regions 0 [closer] text = none ↔ ∀ rest gt, ¬CodeBody regions closer text rest gt := by
  constructor
  · intro hnone rest gt hbody
    obtain ⟨body, -, htext, -⟩ := hbody.exists_read (regionReader regions) hr hquiet hne
    rw [(length?_eq_some_iff_codeBody hr hquiet hne).2 ⟨body, rest, gt, htext, rfl, hbody⟩] at hnone
    exact absurd hnone (by simp)
  · intro hnone
    rw [Option.eq_none_iff_forall_ne_some]
    intro n hn
    obtain ⟨body, rest, gt, -, -, hbody⟩ := (length?_eq_some_iff_codeBody hr hquiet hne).1 hn
    exact hnone rest gt hbody

/-! ## The end of a tag -/

def Body.extend (front : Text) (gt : Bool) (body : Body) : Body :=
  { body with attributes := front ++ body.attributes, nestedGt := gt || body.nestedGt }

theorem bodyFrom?_token {nesting nesting' : Nesting} {c : Char} {rest : Text} {n : Nat}
    (htoken : token? regions nesting c rest = some (n, nesting')) (gt : Bool) :
    (bodyFrom? regions n nesting' rest).map (Body.push c gt) =
      (bodyFrom? regions 0 nesting' (rest.drop n)).map (Body.extend (c :: rest.take n) gt) := by
  rw [Checked.bodyFrom?_skip (Checked.token?_le htoken), Option.map_map]
  rfl

variable (regions) in
/-- the walk to the end of a tag gathers the attributes and notes the brackets inside regions -/
def tagReader : Reader regions Body where
  read := bodyFrom? regions 0
  extend := Body.extend
  extend_extend front more gt gt' body := by
    simp only [Body.extend, List.append_assoc, Bool.or_assoc]
  read_nil _ _ := rfl
  read_cons closer outer c rest hne := by
    simp only [bodyFrom?, settle_cons c hne, List.isEmpty_cons, Bool.false_and, Bool.not_false, Bool.and_true]
    cases htoken : token? regions (closer :: outer) c rest with
    | none => rfl
    | some token => exact bodyFrom?_token htoken _

theorem bodyFrom?_bracket (regions : List Delimiters) (rest : Text) :
    bodyFrom? regions 0 [] ('>' :: rest) = some ⟨[], false, rest⟩ :=
  rfl

/-- outside every region, what is no bracket is read token by token -/
theorem bodyFrom?_cons {c : Char} (hc : c ≠ '>') {rest : Text} (hbracket : c = '<' → ¬OpensNone regions (c :: rest))
    (hr : Checked.WellFormed regions) : bodyFrom? regions 0 [] (c :: rest) =
      (token? regions [] c rest).bind fun token =>
        (bodyFrom? regions 0 token.2 (rest.drop token.1)).map (Body.extend (c :: rest.take token.1) false) := by
  have hsettle : settle c [] = [] := by simp [settle]
  have hnot : ¬((c == '<' && (opening? regions (c :: rest)).isNone) = true) := by
    rw [Bool.and_eq_true, beq_iff_eq, Option.isNone_iff_eq_none, opening?_eq_none_iff hr]
    exact fun h => hbracket h.1 h.2
  simp only [bodyFrom?, hsettle, List.isEmpty_nil, Bool.true_and, Bool.not_true, Bool.and_false,
    beq_eq_false_iff_ne.2 hc, Bool.false_eq_true, if_false, if_neg hnot]
  cases htoken : token? regions [] c rest with
  | none => rfl
  | some token => exact bodyFrom?_token htoken _

/-- outside every region, a bracket that opens nothing is in no tag -/
theorem bodyFrom?_angle (hr : Checked.WellFormed regions) {rest : Text} (h : OpensNone regions ('<' :: rest)) :
    bodyFrom? regions 0 [] ('<' :: rest) = none := by
  have hopening := (opening?_eq_none_iff hr).2 h
  simp [bodyFrom?, settle, hopening]

theorem bodyFrom?_read_token (hr : Checked.WellFormed regions) {c : Char} (hc : c ≠ '>') {more text : Text}
    (hbracket : c = '<' → ¬OpensNone regions (c :: (more ++ text))) {n : Nat} {nesting' : Nesting}
    (hn : n = more.length)
    (htoken : token? regions [] c (more ++ text) = some (n, nesting')) :
    bodyFrom? regions 0 [] (c :: (more ++ text)) =
      (bodyFrom? regions 0 nesting' text).map (Body.extend (c :: more) false) := by
  subst hn
  rw [bodyFrom?_cons hc hbracket hr, htoken, Option.bind_some, List.drop_left, List.take_left]

/-- **A tag region is read as a whole.** -/
theorem TagRegion.exists_read (hr : Checked.WellFormed regions) (hquiet : Quiet regions) {text rest : Text} {gt : Bool}
    (h : TagRegion regions text rest gt) : ∃ front, text = front ++ rest ∧
      bodyFrom? regions 0 [] text = (bodyFrom? regions 0 [] rest).map (Body.extend front gt) := by
  induction h with
  | nil text =>
    refine ⟨[], rfl, ?_⟩
    cases bodyFrom? regions 0 [] text <;> rfl
  | @span text rest content quote gt hquote hspan hbehind ih =>
    obtain ⟨front, rfl, hread⟩ := ih
    refine ⟨quote :: (content ++ [quote]) ++ front, by simp, ?_⟩
    have hbrackets := brackets_of_isQuote hquote
    have htoken := token?_span regions hquote [] hspan (front ++ rest)
    rw [List.append_cons content, bodyFrom?_read_token hr hbrackets.1 (fun hc => absurd hc hbrackets.2) rfl htoken,
      hread]
    exact (tagReader regions).map_extend _ _ _ _ _
  | @nested text middle rest region gt gt' hplain hopens hinside hbehind ih =>
    obtain ⟨inside, gtInside, rfl, hgt, hreadInside⟩ :=
      hinside.exists_read (tagReader regions) hr hquiet (hr.closers region hopens.1)
    obtain ⟨behind, rfl, hread⟩ := ih
    obtain ⟨hheadOpener, hheadCloser⟩ := hquiet region hopens.1
    obtain ⟨c, more, hopener⟩ := List.exists_cons_of_ne_nil (hr.openers region hopens.1)
    have hc := beq_eq_false_iff_ne.1 (sign_of_head? hheadOpener hopener)
    refine ⟨region.opener ++ (inside ++ behind), by simp, ?_⟩
    rw [hopener, List.cons_append] at hplain hopens
    have htoken := token?_opener hr hopener hplain.not_isQuote hopens (staysOpen_nil _)
    have hbracket : c = '<' → ¬OpensNone regions (c :: (more ++ (inside ++ (behind ++ rest)))) :=
      fun _ hnone => hnone region hopens.1 hopens.2.1
    rw [hopener, List.cons_append, bodyFrom?_read_token hr hc hbracket rfl htoken]
    -- the body for the closer is read next, and the rest of the tag behind it
    calc ((tagReader regions).read [region.closer] (inside ++ (behind ++ rest))).map (Body.extend (c :: more) false)
      _ = (((bodyFrom? regions 0 [] rest).map (Body.extend behind gt')).map (Body.extend inside gtInside)).map
            (Body.extend (c :: more) false) := by
          rw [hreadInside []]
          exact congrArg (fun found => (Option.map _ found).map _) hread
      _ = ((bodyFrom? regions 0 [] rest).map (Body.extend (inside ++ behind) (gtInside || gt'))).map
            (Body.extend (c :: more) false) := congrArg _ ((tagReader regions).map_extend _ _ _ _ _)
      _ = (bodyFrom? regions 0 [] rest).map (Body.extend (c :: more ++ (inside ++ behind)) (gt || gt')) := by
          rw [← hgt hheadCloser]
          exact (tagReader regions).map_extend _ _ _ _ _
  | @char text rest c gt hplain hbrackets hopens hbehind ih =>
    obtain ⟨front, rfl, hread⟩ := ih
    refine ⟨c :: front, rfl, ?_⟩
    have htoken := token?_char hr hplain hopens (staysOpen_nil _)
    rw [← List.nil_append (front ++ rest), bodyFrom?_read_token hr hbrackets.1 (fun hc => absurd hc hbrackets.2)
      List.length_nil.symm htoken, hread]
    exact (tagReader regions).map_extend _ _ _ _ _

/-- **What is read of a tag starts with a tag region** that comes to a closing bracket. -/
theorem exists_tagRegion (hr : Checked.WellFormed regions) (hquiet : Quiet regions) {text : Text}
    (h : (bodyFrom? regions 0 [] text).isSome) : ∃ rest gt, TagRegion regions text ('>' :: rest) gt := by
  induction hlength : text.length using Nat.strongRecOn generalizing text with
  | ind length ih =>
    cases text with
    | nil => exact absurd h (by simp [bodyFrom?])
    | cons c behind =>
      by_cases hend : c = '>'
      · subst hend
        exact ⟨behind, false, .nil _⟩
      have hbracket : c = '<' → ¬OpensNone regions (c :: behind) := by
        rintro rfl hopens
        rw [bodyFrom?_angle hr hopens] at h
        exact absurd h (by simp)
      rw [bodyFrom?_cons hend hbracket hr] at h
      cases htoken : token? regions [] c behind with
      | none =>
        rw [htoken] at h
        exact absurd h (by simp)
      | some token =>
        obtain ⟨more, text, rfl, hn, hcases⟩ := token?_cases hr (by simp) htoken
        rw [htoken, Option.bind_some, Option.isSome_map, hn, List.drop_left] at h
        rw [List.length_cons, List.length_append] at hlength
        rcases hcases with ⟨content, hquote, rfl, hspan, hnesting⟩ | ⟨-, hnesting⟩ |
          ⟨hquote, -, region, hopener, hopens, hnesting⟩ | ⟨hquote, -, hopens, rfl, hnesting⟩
        · rw [hnesting] at h
          obtain ⟨rest, gt, hregion⟩ := ih text.length (by omega) h rfl
          rw [← List.append_cons]
          exact ⟨rest, gt, .span hquote hspan hregion⟩
        · exact absurd hnesting (by simp)
        · have hcloser := hr.closers region hopens.1
          rw [hnesting] at h
          obtain ⟨middle, gt, hinside⟩ := (tagReader regions).exists_codeBody hr hquiet hcloser h
          obtain ⟨front, gt', hfront, -, hread⟩ := hinside.exists_read (tagReader regions) hr hquiet hcloser
          have hmiddle : (bodyFrom? regions 0 [] middle).isSome := by
            rw [← Option.isSome_map (f := Body.extend front gt')]
            exact (congrArg Option.isSome (hread [])).symm.trans h
          obtain ⟨rest, gt', hregion⟩ := ih middle.length (by simp [hfront] at hlength; omega) hmiddle rfl
          have hplain : StartsPlain (c :: (more ++ text)) := ⟨c, _, rfl, hquote⟩
          rw [← List.cons_append, ← hopener] at hplain hopens ⊢
          exact ⟨rest, _, .nested hplain hopens hinside hregion⟩
        · rw [hnesting] at h
          obtain ⟨rest, gt, hregion⟩ := ih text.length (by omega) h rfl
          exact ⟨rest, gt, .char hquote ⟨hend, fun hc => hbracket hc hopens⟩ hopens hregion⟩

/-- **A tag ends where a tag region comes to a closing bracket.** -/
theorem body?_eq_some_iff (hr : Checked.WellFormed regions) (hquiet : Quiet regions) {text : Text} {body : Body} :
    body? regions text = some body ↔
      text = body.attributes ++ '>' :: body.rest ∧ TagRegion regions text ('>' :: body.rest) body.nestedGt := by
  have hend {rest : Text} {gt : Bool} (hregion : TagRegion regions text ('>' :: rest) gt) :
      ∃ front, text = front ++ '>' :: rest ∧ body? regions text = some ⟨front, gt, rest⟩ := by
    obtain ⟨front, htext, hread⟩ := hregion.exists_read hr hquiet
    refine ⟨front, htext, ?_⟩
    rw [body?, hread, bodyFrom?_bracket]
    simp [Body.extend]
  constructor
  · intro h
    obtain ⟨rest, gt, hregion⟩ := exists_tagRegion hr hquiet (Option.isSome_of_eq_some h)
    obtain ⟨front, htext, hbody⟩ := hend hregion
    rw [h, Option.some.injEq] at hbody
    subst hbody
    exact ⟨htext, hregion⟩
  · rintro ⟨htext, hregion⟩
    obtain ⟨front, hfront, hbody⟩ := hend hregion
    rw [hbody, List.append_cancel_right (hfront.symm.trans htext)]

/-- a tag never ends where no tag region comes to a closing bracket -/
theorem body?_eq_none_iff (hr : Checked.WellFormed regions) (hquiet : Quiet regions) {text : Text} :
    body? regions text = none ↔ ∀ rest gt, ¬TagRegion regions text ('>' :: rest) gt := by
  constructor
  · intro hnone rest gt hregion
    obtain ⟨front, htext, -⟩ := hregion.exists_read hr hquiet
    rw [show body? regions text = some ⟨front, gt, rest⟩ from (body?_eq_some_iff hr hquiet).2 ⟨htext, hregion⟩] at hnone
    exact absurd hnone (by simp)
  · intro hnone
    rw [Option.eq_none_iff_forall_ne_some]
    intro body hbody
    exact hnone _ _ ((body?_eq_some_iff hr hquiet).1 hbody).2

end Nesting

end SourceMark
