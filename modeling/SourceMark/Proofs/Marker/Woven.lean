/-
Texts that differ by markers. `Woven glue s o` says that `o` is `s` with markers put before some closing brackets. Of
blanks and slashes right before such a bracket the relation says nothing: no reader tells them apart. A bracket that ends
an end tag is held: no marker comes between it and the text before it. With `glue` the same goes for a bracket behind a
question mark, which ends a block of code.

The relation is local, so it holds again of what follows a delimiter, a word or a name that both texts begin with.

Results:
- `woven_weave`: a weave without seams at held brackets is woven.
- `Woven.exact`: up to a bracket without a marker before it, the text is the same.
- `Woven.dropHeadBy?`: what is recognised at the head of one text is recognised at the head of the other.
- `Woven.count_eq`: both texts have the same brackets.
-/
import SourceMark.Proofs.Marker.Weave
import SourceMark.Proofs.Text.Sign
import SourceMark.Tag.Scanner

namespace SourceMark

theorem rel_cases {α β : Type} {R : α → β → Prop} {a : Option α} {b : Option β} (h : Option.Rel R a b) :
    (a = none ∧ b = none) ∨ ∃ x y, a = some x ∧ b = some y ∧ R x y := by
  cases h with
  | none => exact Or.inl ⟨rfl, rfl⟩
  | some h => exact Or.inr ⟨_, _, rfl, rfl, h⟩

/-! ## Held brackets -/

/-- a blank or a slash: what may stand between a marker and its bracket -/
def isDull (c : Char) : Bool :=
  Text.isBlank c || c == '/'

/-- the characters that can follow the place at which a marker goes -/
def stops : List Char := [' ', '\t', '/', '>']

/-- whether the text begins like an end tag, with no sign up to its bracket -/
def beginsEndTag : Text → Bool
  | '<' :: '/' :: rest => (rest.dropWhile Text.isInert).head? == some '>'
  | _ => false

/-- whether the text begins with the end of a block of code -/
def beginsCodeEnd : Text → Bool
  | '?' :: '>' :: _ => true
  | _ => false

/-- whether the first bracket of the text is held by what the text begins with -/
def isHeld (glue : Bool) (text : Text) : Bool :=
  beginsEndTag text || (glue && beginsCodeEnd text)

theorem isInert_of_isDull {c : Char} (h : isDull c = true) : Text.isInert c = true :=
  Text.isInert_of (by decide) h

theorem beginsEndTag_iff {text : Text} : beginsEndTag text = true ↔
    ∃ run rest, text = '<' :: '/' :: run ++ '>' :: rest ∧ ∀ c ∈ run, Text.isInert c = true := by
  constructor
  · intro h
    unfold beginsEndTag at h
    split at h
    · next rest =>
      obtain ⟨after, hafter⟩ := List.head?_eq_some_iff.1 (beq_iff_eq.1 h)
      refine ⟨rest.takeWhile Text.isInert, after, ?_, fun c hc => List.mem_takeWhile_imp hc⟩
      rw [List.cons_append, List.cons_append, ← hafter, List.takeWhile_append_dropWhile]
    · exact absurd h (by decide)
  · rintro ⟨run, rest, rfl, hrun⟩
    have : (run ++ '>' :: rest).dropWhile Text.isInert = '>' :: rest := by
      rw [List.dropWhile_append_of_pos hrun]
      rfl
    simp [beginsEndTag, this]

theorem bracket_notMem_of_isInert {run : Text} (h : ∀ c ∈ run, Text.isInert c = true) : '>' ∉ '<' :: '/' :: run := by
  simp only [List.mem_cons, not_or]
  exact ⟨by decide, by decide, fun hm => Text.ne_of_isInert (h _ hm) (by decide) rfl⟩

theorem isHeld_congr {glue : Bool} {v : Text} (hv : '>' ∉ v) (r q : Text) (h : isHeld glue (v ++ '>' :: r) = true) :
    isHeld glue (v ++ '>' :: q) = true := by
  simp only [isHeld, Bool.or_eq_true, Bool.and_eq_true] at h ⊢
  rcases h with h | ⟨hglue, h⟩
  · obtain ⟨run, rest, hrun, hinert⟩ := beginsEndTag_iff.1 h
    obtain ⟨rfl, -⟩ := cut_inj hv (bracket_notMem_of_isInert hinert) hrun
    exact Or.inl (beginsEndTag_iff.2 ⟨run, q, rfl, hinert⟩)
  · refine Or.inr ⟨hglue, ?_⟩
    unfold beginsCodeEnd at h
    split at h
    · next rest hrest =>
      obtain ⟨rfl, -⟩ := cut_inj (b := ['?']) hv (by decide) hrest
      rfl
    · exact absurd h (by decide)

theorem isHeld_bracket (glue : Bool) (rest : Text) : isHeld glue ('>' :: rest) = false := by
  cases glue <;> rfl

/-! ## The relation -/

/-- `o` is `s` with markers before some closing brackets that are not held -/
inductive Woven (glue : Bool) : Text → Text → Prop
  | nil : Woven glue [] []
  | keep {c : Char} {s o : Text} (hheld : isHeld glue (c :: s) = true → isHeld glue (c :: o) = true)
      (tail : Woven glue s o) : Woven glue (c :: s) (c :: o)
  | closing {x y z s o : Text} (hx : Inserted x) (hy : ∀ c ∈ y, isDull c = true) (hz : ∀ c ∈ z, isDull c = true)
      (hhead : ∀ c, z.head? = some c → c ∈ stops) (tail : Woven glue s o) :
      Woven glue (z ++ '>' :: s) (x ++ y ++ '>' :: o)

/-- both texts go on at `r` and `q` behind the same characters -/
def Kept (glue : Bool) (s o r q : Text) : Prop :=
  ∃ u, s = u ++ r ∧ o = u ++ q ∧ Woven glue r q

/-- both texts go on at `r` and `q`, and the character before is the same -/
def After (glue : Bool) (s o r q : Text) : Prop :=
  ∃ u v, s = u ++ r ∧ o = v ++ q ∧ u.getLast? = v.getLast? ∧ Woven glue r q

variable {glue : Bool} {s o r q : Text}

namespace Kept

theorem refl (h : Woven glue s o) : Kept glue s o s o := ⟨[], rfl, rfl, h⟩

theorem cons (h : Kept glue s o r q) (c : Char) : Kept glue (c :: s) (c :: o) r q := by
  obtain ⟨u, rfl, rfl, h⟩ := h
  exact ⟨c :: u, rfl, rfl, h⟩

theorem trans {r' q' : Text} (h : Kept glue s o r q) (h' : Kept glue r q r' q') : Kept glue s o r' q' := by
  obtain ⟨u, rfl, rfl, -⟩ := h
  obtain ⟨v, rfl, rfl, h⟩ := h'
  exact ⟨u ++ v, by simp, by simp, h⟩

theorem after (h : Kept glue s o r q) : After glue s o r q := by
  obtain ⟨u, hs, ho, h⟩ := h
  exact ⟨u, u, hs, ho, rfl, h⟩

theorem take_eq {n : Nat} (h : Kept glue s o (s.drop n) q) (hn : n ≤ s.length) : s.take n = o.take n ∧ q = o.drop n := by
  obtain ⟨u, hs, ho, -⟩ := h
  obtain rfl : s.take n = u := List.append_cancel_right ((List.take_append_drop n s).trans hs)
  have hlen : (s.take n).length = n := by rw [List.length_take]; omega
  rw [ho, List.take_left' hlen, List.drop_left' hlen]
  exact ⟨rfl, rfl⟩

end Kept

namespace After

theorem woven (h : After glue s o r q) : Woven glue r q := by
  obtain ⟨-, -, -, -, -, h⟩ := h
  exact h

theorem trans {r' q' : Text} (h : After glue s o r q) (h' : After glue r q r' q') : After glue s o r' q' := by
  obtain ⟨u, v, rfl, rfl, huv, -⟩ := h
  obtain ⟨u', v', rfl, rfl, huv', h⟩ := h'
  exact ⟨u ++ u', v ++ v', by simp, by simp, by rw [List.getLast?_append, List.getLast?_append, huv, huv'], h⟩

theorem lift (h : After glue s o r q) {a b : Option Text} (hab : Option.Rel (After glue r q) a b) :
    Option.Rel (After glue s o) a b := by
  cases hab with
  | none => exact .none
  | some hab => exact .some (h.trans hab)

end After

namespace Woven

theorem refl (s : Text) : Woven glue s s := by
  induction s with
  | nil => exact .nil
  | cons c s ih => exact .keep id ih

theorem kept_tail {c : Char} (h : Woven glue s o) : Kept glue (c :: s) (c :: o) s o := ⟨[c], rfl, rfl, h⟩

theorem after_closing {x y z : Text} (h : Woven glue s o) : After glue (z ++ '>' :: s) (x ++ y ++ '>' :: o) s o :=
  ⟨z ++ ['>'], x ++ y ++ ['>'], by simp, by simp, by simp, h⟩

/-- where a marker has its place, one text goes on with a blank and a letter, the other with a stop -/
theorem heads_closing {x y z s o : Text} (hx : Inserted x) (hhead : ∀ c, z.head? = some c → c ∈ stops) :
    (∃ e ∈ stops, ∃ s', z ++ '>' :: s = e :: s') ∧
      ∃ c o', x ++ y ++ '>' :: o = ' ' :: c :: o' ∧ AttributeName.isHead c = true := by
  obtain ⟨c, rest, rfl, hc⟩ := hx.exists_front
  refine ⟨?_, c, rest ++ y ++ '>' :: o, by simp, hc⟩
  cases z with
  | nil => exact ⟨'>', by decide, s, rfl⟩
  | cons d z => exact ⟨d, hhead d rfl, z ++ '>' :: s, rfl⟩

/-- a test that comes out alike wherever a marker may go comes out alike in both texts -/
theorem head?_all (h : Woven glue s o) {p : Char → Bool} (hp : ∀ c ∈ stops, p c = true) :
    s.head?.all p = o.head?.all p := by
  cases h with
  | nil => rfl
  | keep => rfl
  | closing hx hy hz hhead tail =>
    obtain ⟨⟨e, he, s', hs⟩, c, o', ho, -⟩ := heads_closing hx hhead
    rw [hs, ho]
    simp [hp e he, hp ' ' (by decide)]

theorem head?_any (h : Woven glue s o) {p : Char → Bool} (hp : ∀ c ∈ stops, p c = true) :
    s.head?.any p = o.head?.any p := by
  cases h with
  | nil => rfl
  | keep => rfl
  | closing hx hy hz hhead tail =>
    obtain ⟨⟨e, he, s', hs⟩, c, o', ho, -⟩ := heads_closing hx hhead
    rw [hs, ho]
    simp [hp e he, hp ' ' (by decide)]

theorem wordBoundary_eq (h : Woven glue s o) : Scanner.wordBoundary s = Scanner.wordBoundary o :=
  h.head?_all (by decide)

theorem wordEnds_eq (h : Woven glue s o) : Dialect.wordEnds s = Dialect.wordEnds o :=
  h.head?_all (by decide)

theorem nameEnds_eq (h : Woven glue s o) : Scanner.nameEnds s = Scanner.nameEnds o :=
  h.head?_any (by decide)

/-- a run of characters none of which can follow the place of a marker is the same in both texts -/
theorem takeWhile_eq (h : Woven glue s o) {p : Char → Bool} (hp : ∀ c ∈ stops, p c = false) :
    s.takeWhile p = o.takeWhile p ∧ Kept glue s o (s.dropWhile p) (o.dropWhile p) := by
  have stopped {s o : Text} (h : Woven glue s o) {c d : Char} {s' o' : Text} (hs : s = c :: s') (ho : o = d :: o')
      (hc : p c = false) (hd : p d = false) :
      s.takeWhile p = o.takeWhile p ∧ Kept glue s o (s.dropWhile p) (o.dropWhile p) := by
    have hs' : s.takeWhile p = [] ∧ s.dropWhile p = s := by simp [hs, hc]
    have ho' : o.takeWhile p = [] ∧ o.dropWhile p = o := by simp [ho, hd]
    rw [hs'.1, hs'.2, ho'.1, ho'.2]
    exact ⟨rfl, .refl h⟩
  induction h with
  | nil => exact ⟨rfl, .refl .nil⟩
  | @keep c s o hheld tail ih =>
    cases hc : p c
    · exact stopped (.keep hheld tail) rfl rfl hc hc
    · simp only [List.takeWhile_cons, List.dropWhile_cons, hc, if_true]
      exact ⟨congrArg _ ih.1, ih.2.cons c⟩
  | closing hx hy hz hhead tail =>
    obtain ⟨⟨e, he, s', hs⟩, c, o', ho, -⟩ := heads_closing hx hhead
    exact stopped (.closing hx hy hz hhead tail) hs ho (hp e he) (hp ' ' (by decide))

/-! ## Patterns at the head -/

/-- a way to match characters in which signs match themselves only -/
def Exact (same : Char → Char → Bool) : Prop :=
  ∀ p ∈ Text.signs, ∀ c, same p c = true → c = p

theorem exact_beq : Exact (· == ·) := fun _ _ _ h => (beq_iff_eq.1 h).symm

theorem exact_sameLetter : Exact Text.sameLetter := fun _ hp _ h =>
  have hascii : ∀ p ∈ Text.signs, p.toNat < 128 ∧ p.isAlpha = false := by decide
  Text.sameLetter_sign (hascii _ hp).1 (hascii _ hp).2 h

/-- a pattern that markers neither hide nor make: no character of it matches one that can follow the place of a marker,
or it is the end of a block of code and no marker goes there -/
def Seen (same : Char → Char → Bool) (glue : Bool) (pattern : Text) : Prop :=
  (∀ p ∈ pattern, ∀ c ∈ stops, same p c = false) ∨ (glue = true ∧ pattern = ['?', '>'])

instance (same : Char → Char → Bool) (glue : Bool) (pattern : Text) : Decidable (Seen same glue pattern) := by
  unfold Seen; infer_instance

theorem head?_of_isHeld_code {text : Text} (h : isHeld true ('?' :: text) = true) : text.head? = some '>' := by
  simp only [isHeld, Bool.true_and, Bool.or_eq_true] at h
  rcases h with h | h
  · obtain ⟨run, rest, hrun, -⟩ := beginsEndTag_iff.1 h
    exact absurd (List.head_eq_of_cons_eq hrun) (by decide)
  · unfold beginsCodeEnd at h
    split at h
    · next hrest => rw [List.tail_eq_of_cons_eq hrest]; rfl
    · exact absurd h (by decide)

theorem dropHeadBy?_of_stops {same : Char → Char → Bool} {pattern : Text} (h : Woven glue s o)
    (hp : ∀ p ∈ pattern, ∀ c ∈ stops, same p c = false) :
    Option.Rel (Kept glue s o) (Text.dropHeadBy? same pattern s) (Text.dropHeadBy? same pattern o) := by
  induction pattern generalizing s o with
  | nil => exact .some (.refl h)
  | cons p ps ih =>
    cases h with
    | nil => exact .none
    | @keep c s o hheld tail =>
      simp only [Text.dropHeadBy?]
      split
      · rcases rel_cases (ih tail fun q hq => hp q (List.mem_cons_of_mem _ hq)) with
          ⟨hs, ho⟩ | ⟨r, q, hs, ho, hkept⟩ <;> rw [hs, ho]
        · exact .none
        · exact .some (hkept.cons c)
      · exact .none
    | closing hx hy hz hhead tail =>
      obtain ⟨⟨e, he, s', hs⟩, c, o', ho, -⟩ := heads_closing hx hhead
      rw [hs, ho]
      simp only [Text.dropHeadBy?, hp p List.mem_cons_self e he, hp p List.mem_cons_self ' ' (by decide),
        Bool.false_eq_true, if_false]
      exact .none

theorem dropHeadBy?_codeEnd {same : Char → Char → Bool} (h : Woven true s o) (he : Exact same) :
    Option.Rel (Kept true s o) (Text.dropHeadBy? same ['?', '>'] s) (Text.dropHeadBy? same ['?', '>'] o) := by
  have differs {p c : Char} (hp : p ∈ Text.signs) (hc : c ≠ p) : same p c = false :=
    Bool.eq_false_iff.2 fun h => hc (he p hp c h)
  cases h with
  | nil => exact .none
  | closing hx hy hz hhead tail =>
    obtain ⟨⟨e, he, s', hs⟩, c, o', ho, -⟩ := heads_closing hx hhead
    have hne : e ≠ '?' := fun h => absurd (h ▸ he) (by decide)
    rw [hs, ho]
    simp only [Text.dropHeadBy?, differs (by decide) hne, differs (p := '?') (c := ' ') (by decide) (by decide),
      Bool.false_eq_true, if_false]
    exact .none
  | @keep c s o hheld tail =>
    simp only [Text.dropHeadBy?]
    split
    · next hc =>
      have hc : c = '?' := he '?' (by decide) c hc
      subst hc
      cases tail with
      | nil => exact .none
      | @keep d s o hheld' tail =>
        simp only [Text.dropHeadBy?]
        split
        · exact .some ((kept_tail tail).cons '?')
        · exact .none
      | closing hx hy hz hhead tail =>
        obtain ⟨⟨e, hstop, s', hs⟩, c, o', ho, -⟩ := heads_closing hx hhead
        rw [hs, ho] at hheld ⊢
        -- the bracket is held, so no marker stands before it
        have hne : e ≠ '>' := by
          rintro rfl
          exact absurd (head?_of_isHeld_code (hheld rfl)) (by simp)
        simp only [Text.dropHeadBy?, differs (by decide) hne, differs (p := '>') (c := ' ') (by decide) (by decide),
          Bool.false_eq_true, if_false]
        exact .none
    · exact .none

/-- **What is recognised at the head of one text is recognised at the head of the other.** -/
theorem dropHeadBy? {same : Char → Char → Bool} {pattern : Text} (h : Woven glue s o) (he : Exact same)
    (hp : Seen same glue pattern) :
    Option.Rel (Kept glue s o) (Text.dropHeadBy? same pattern s) (Text.dropHeadBy? same pattern o) := by
  rcases hp with hp | ⟨rfl, rfl⟩
  · exact h.dropHeadBy?_of_stops hp
  · exact h.dropHeadBy?_codeEnd he

/-! ## The same up to a bracket -/

/-- **Up to a bracket without a marker before it, the text is the same.** -/
theorem exact {u : Text} (h : Woven glue s o) (ho : o = u ++ '>' :: q) (hu : '>' ∉ u) (hquote : '"' ∉ u) :
    ∃ r, s = u ++ '>' :: r ∧ Woven glue r q := by
  induction h generalizing u with
  | nil => simp at ho
  | @keep c s o hheld tail ih =>
    cases u with
    | nil =>
      simp only [List.nil_append, List.cons.injEq] at ho
      exact ⟨s, by rw [ho.1]; rfl, ho.2 ▸ tail⟩
    | cons d u =>
      simp only [List.cons_append, List.cons.injEq] at ho
      simp only [List.mem_cons, not_or] at hu hquote
      obtain ⟨r, rfl, hr⟩ := ih ho.2 hu.2 hquote.2
      exact ⟨r, by rw [ho.1]; rfl, hr⟩
  | @closing x y z s o hx hy hz hhead tail ih =>
    have hxy : '>' ∉ x ++ y := by
      simp only [List.mem_append, not_or]
      exact ⟨hx.bracket_notMem, fun hm => absurd (hy _ hm) (by decide)⟩
    obtain ⟨rfl, -⟩ := cut_inj hu hxy ho.symm
    exact absurd (List.mem_append_left _ (List.mem_of_getLast? hx.last)) hquote

/-- what begins like an end tag does so in spite of markers, because the bracket is held -/
theorem beginsEndTag (h : Woven glue s o) (hs : SourceMark.beginsEndTag s = true) : SourceMark.beginsEndTag o = true := by
  obtain ⟨run, rest, htext, -⟩ := beginsEndTag_iff.1 hs
  cases h with
  | nil => exact hs
  | closing hx hy hz hhead tail =>
    obtain ⟨⟨e, he, s', hs'⟩, -⟩ := heads_closing (y := []) (o := []) hx hhead
    rw [hs'] at htext
    exact absurd (List.head_eq_of_cons_eq htext ▸ he) (by decide)
  | @keep c s o hheld tail =>
    obtain rfl : c = '<' := List.head_eq_of_cons_eq htext
    have := hheld (by rw [isHeld, hs]; rfl)
    simp only [isHeld, Bool.or_eq_true, Bool.and_eq_true] at this
    rcases this with h | ⟨-, h⟩
    · exact h
    · exact absurd h (by simp [beginsCodeEnd])

/-- **Both texts have the same brackets**, and the same of every character that neither markers nor their places have. -/
theorem count_eq (h : Woven glue s o) {c : Char} (hquiet : Marker.isQuiet c = false) (hquote : c ≠ '"')
    (hdull : isDull c = false) : s.count c = o.count c := by
  induction h with
  | nil => rfl
  | keep hheld tail ih => rw [List.count_cons, List.count_cons, ih]
  | @closing x y z s o hx hy hz hhead tail ih =>
    have dull {t : Text} (ht : ∀ d ∈ t, isDull d = true) : t.count c = 0 :=
      List.count_eq_zero.2 fun hm => by rw [ht c hm] at hdull; exact absurd hdull (by decide)
    rw [List.count_append, List.count_append, List.count_append, dull hy, dull hz,
      List.count_eq_zero.2 (hx.notMem hquiet hquote), List.count_cons, List.count_cons, ih]

theorem brackets_eq (h : Woven glue s o) : brackets s = brackets o :=
  h.count_eq (by decide) (by decide) (by decide)

end Woven

/-! ## Weaves are woven -/

/-- no seam is at a held bracket -/
def Clear (glue : Bool) (seams : Seams) (text : Text) : Prop :=
  ∀ u v r, text = u ++ v ++ '>' :: r → '>' ∉ v → isHeld glue (v ++ ['>']) = true → seams (brackets u) = none

namespace Clear

theorem behind {seams : Seams} {n : Nat} {stretch rest : Text} (hs : '>' ∉ stretch)
    (h : Clear glue (seams.drop n) (stretch ++ '>' :: rest)) : Clear glue (seams.drop (n + 1)) rest := by
  intro u v r hrest hv hheld
  have := h (stretch ++ '>' :: u) v r (by simp [hrest]) hv hheld
  rw [brackets_append, brackets_cons_bracket, brackets_eq_zero.2 hs, Seams.drop] at this
  rw [← this, Seams.drop]
  congr 1
  omega

theorem not_held {seams : Seams} {n : Nat} {u v rest : Text} (hs : '>' ∉ u ++ v)
    (h : Clear glue (seams.drop n) (u ++ v ++ '>' :: rest)) (hn : seams n ≠ none) :
    isHeld glue (v ++ ['>']) = false := by
  refine Bool.eq_false_iff.2 fun hheld => hn ?_
  simp only [List.mem_append, not_or] at hs
  have := h u v rest rfl hs.2 hheld
  rwa [brackets_eq_zero.2 hs.1] at this

theorem drop_zero {seams : Seams} {text : Text} (h : Clear glue seams text) :
    Clear glue (seams.drop 0) text := by
  intro u v r hrest hv hheld
  rw [Seams.drop, Nat.zero_add]
  exact h u v r hrest hv hheld

end Clear

theorem woven_stretch {v : Text} (hv : '>' ∉ v) (h : Woven glue r q) : Woven glue (v ++ '>' :: r) (v ++ '>' :: q) := by
  induction v with
  | nil => exact .keep (fun hh => by rw [isHeld_bracket] at hh; exact absurd hh (by decide)) h
  | cons c v ih =>
    exact .keep (isHeld_congr (v := c :: v) hv r q) (ih fun hm => hv (List.mem_cons_of_mem _ hm))

theorem woven_seam {body x y z : Text} (hx : Inserted x) (hy : ∀ c ∈ y, isDull c = true)
    (hz : ∀ c ∈ z, isDull c = true) (hhead : ∀ c, z.head? = some c → c ∈ stops) (h : Woven glue r q)
    (hbody : '>' ∉ body) (hclear : ∀ u v, body ++ z = u ++ v → isHeld glue (v ++ ['>']) = false) :
    Woven glue (body ++ z ++ '>' :: r) (body ++ x ++ y ++ '>' :: q) := by
  induction body with
  | nil => simpa using Woven.closing hx hy hz hhead h
  | cons c body ih =>
    have hrest := ih (fun hm => hbody (List.mem_cons_of_mem _ hm)) fun u v huv =>
      hclear (c :: u) v (by rw [List.cons_append, huv, List.cons_append])
    have hz' : '>' ∉ z := fun hm => absurd (hz _ hm) (by decide)
    refine .keep (fun hh => ?_) hrest
    have := isHeld_congr (v := c :: (body ++ z)) (q := []) (by simp_all) r (by simpa using hh)
    rw [hclear [] (c :: (body ++ z)) rfl] at this
    exact absurd this (by decide)

theorem woven_sewn {x stretch : Text} (hx : Inserted x) (h : Woven glue r q) (hs : '>' ∉ stretch)
    (hclear : ∀ u v, stretch = u ++ v → isHeld glue (v ++ ['>']) = false) :
    Woven glue (stretch ++ '>' :: r) (seam x stretch ++ '>' :: q) := by
  have hdull {gap : Text} (hgap : ∀ c ∈ gap, Text.isHorizontalBlank c = true) : ∀ c ∈ gap, isDull c = true :=
    fun c hc => by simp [isDull, Text.isBlank_of_isHorizontalBlank (hgap c hc)]
  have hstops {c : Char} (hc : Text.isHorizontalBlank c = true) : c ∈ stops := by
    simp only [Text.isHorizontalBlank, Bool.or_eq_true, beq_iff_eq] at hc
    rcases hc with rfl | rfl <;> decide
  rcases seam_cases stretch with ⟨body, gap, rfl, hgap, hseam⟩ | ⟨body, gap, mid, rfl, hgap, hmid, hseam⟩
  · rw [hseam]
    have := woven_seam (y := []) hx (by simp) (hdull hgap) (fun c hc => hstops (hgap c (List.mem_of_head? hc))) h
      (fun hm => hs (List.mem_append_left _ hm)) hclear
    simpa using this
  · rw [hseam]
    have hz : ∀ c ∈ gap ++ '/' :: mid, isDull c = true := by
      intro c hc
      simp only [List.mem_append, List.mem_cons] at hc
      rcases hc with hc | rfl | hc
      · exact hdull hgap c hc
      · decide
      · simp [isDull, hmid c hc]
    have hhead : ∀ c, (gap ++ '/' :: mid).head? = some c → c ∈ stops := by
      intro c hc
      cases gap with
      | nil => rw [← Option.some.inj hc]; decide
      | cons d gap => exact Option.some.inj hc ▸ hstops (hgap d List.mem_cons_self)
    have hbody : '>' ∉ body := fun hm => hs (by simp [hm])
    have := woven_seam (y := " /".toList) hx (by decide) hz hhead h hbody (by simpa using hclear)
    simpa using this

theorem woven_weaveFrom {seams : Seams} {n : Nat} {stretch text : Text} (hm : seams.Marked) (hs : '>' ∉ stretch)
    (hclear : Clear glue (seams.drop n) (stretch ++ text)) :
    Woven glue (stretch ++ text) (weaveFrom seams n stretch text) := by
  induction text generalizing n stretch with
  | nil => simpa [weaveFrom] using Woven.refl stretch
  | cons c rest ih =>
    by_cases hc : c = '>'
    · subst hc
      have hrest : Woven glue rest (weaveFrom seams (n + 1) [] rest) := ih List.not_mem_nil (hclear.behind hs)
      rw [weaveFrom_bracket]
      cases hseam : seams n with
      | none => exact woven_stretch hs hrest
      | some x =>
        refine woven_sewn (hm n x hseam) hrest hs fun u v huv => ?_
        subst huv
        exact hclear.not_held hs (by simp [hseam])
    · rw [weaveFrom_cons_of_ne hc]
      have hs' : '>' ∉ stretch ++ [c] := by simp [hs, Ne.symm hc]
      have := ih hs' (n := n) (by simpa using hclear)
      simpa using this

/-- **A weave is woven**, when no seam is at a held bracket. -/
theorem woven_weave {seams : Seams} {text : Text} (hm : seams.Marked) (hclear : Clear glue seams text) :
    Woven glue text (weave seams text) :=
  woven_weaveFrom hm List.not_mem_nil hclear.drop_zero

end SourceMark
