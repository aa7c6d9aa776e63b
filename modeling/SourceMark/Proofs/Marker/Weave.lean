/-
Weaving markers into a text. The closing brackets of a text are numbered from zero; `weave seams text` is the text with
`seams k` put before the bracket with number k. Nothing but the stretch before a bracket with a seam changes, and there
only blanks next to the bracket or the slash before it.

Results:
- `brackets_weave`: a weave keeps the brackets, so their numbers hold in the text and in the weave.
- `weave_weave`: two weaves one after the other are one.
- `weave_append`: a weave is done part by part where trimming stops at the border of the parts.
- `weave_tag`: a seam at the end of a tag, done by itself.
- `exists_sewn`: the stretch before a bracket of a weave is a stretch with the seam of that bracket.
- `cut_inj`, `cut_last`: a text is cut in one way at a bracket.
-/
import Mathlib.Data.List.Basic
import SourceMark.Proofs.Marker.Shape

namespace SourceMark

def brackets (text : Text) : Nat :=
  text.count '>'

@[simp] theorem brackets_nil : brackets [] = 0 := rfl

@[simp] theorem brackets_append (a b : Text) : brackets (a ++ b) = brackets a + brackets b :=
  List.count_append

@[simp] theorem brackets_cons_bracket (text : Text) : brackets ('>' :: text) = brackets text + 1 := by
  simp [brackets]

theorem brackets_cons_of_ne {c : Char} (h : c ≠ '>') (text : Text) : brackets (c :: text) = brackets text := by
  simp [brackets, h]

theorem brackets_eq_zero {text : Text} : brackets text = 0 ↔ '>' ∉ text :=
  List.count_eq_zero

/-! ## One seam -/

/-- a stretch with a seam, if there is one -/
def sew (inserted : Option Text) (stretch : Text) : Text :=
  inserted.elim stretch (seam · stretch)

@[simp] theorem sew_none (stretch : Text) : sew none stretch = stretch := rfl

@[simp] theorem sew_some (inserted stretch : Text) : sew (some inserted) stretch = seam inserted stretch := rfl

theorem bracket_notMem_seam {inserted stretch : Text} (hi : '>' ∉ inserted) (hs : '>' ∉ stretch) :
    '>' ∉ seam inserted stretch := by
  rcases seam_cases stretch with ⟨body, gap, rfl, -, hseam⟩ | ⟨body, gap, mid, rfl, -, -, hseam⟩
  · rw [hseam]
    simp_all
  · rw [hseam]
    simp_all

/-! ## Weaves -/

/-- what goes before the bracket of a number, if anything -/
abbrev Seams := Nat → Option Text

namespace Seams

def Marked (seams : Seams) : Prop :=
  ∀ k x, seams k = some x → Inserted x

/-- what two seams insert at a bracket -/
def both : Option Text → Option Text → Option Text
  | none, y => y
  | some x, none => some x
  | some x, some y => some (x ++ y)

def append (first second : Seams) : Seams := fun k => both (first k) (second k)

theorem Marked.append {first second : Seams} (h₁ : first.Marked) (h₂ : second.Marked) : (first.append second).Marked := by
  intro k x hx
  unfold Seams.append at hx
  cases h₁k : first k with
  | none => rw [h₁k] at hx; exact h₂ k x hx
  | some y =>
    cases h₂k : second k with
    | none =>
      rw [h₁k, h₂k] at hx
      exact h₁ k x (h₁k.trans hx)
    | some z =>
      rw [h₁k, h₂k] at hx
      simp only [both, Option.some.injEq] at hx
      exact hx ▸ (h₁ k y h₁k).append (h₂ k z h₂k)

def drop (n : Nat) (seams : Seams) : Seams := fun k => seams (n + k)

end Seams

/-- the weave of a text whose first bracket has the number `n`; `stretch` is what stands before it so far -/
def weaveFrom (seams : Seams) : (n : Nat) → (stretch : Text) → Text → Text
  | _, stretch, [] => stretch
  | n, stretch, c :: rest =>
    if c = '>' then sew (seams n) stretch ++ '>' :: weaveFrom seams (n + 1) [] rest
    else weaveFrom seams n (stretch ++ [c]) rest

/-- the text with `seams k` before the bracket with number k -/
def weave (seams : Seams) (text : Text) : Text :=
  weaveFrom seams 0 [] text

variable {seams first second : Seams} {n : Nat} {stretch text : Text}

theorem weaveFrom_bracket (seams : Seams) (n : Nat) (stretch rest : Text) :
    weaveFrom seams n stretch ('>' :: rest) = sew (seams n) stretch ++ '>' :: weaveFrom seams (n + 1) [] rest := by
  simp [weaveFrom]

theorem weaveFrom_cons_of_ne {c : Char} (h : c ≠ '>') (rest : Text) :
    weaveFrom seams n stretch (c :: rest) = weaveFrom seams n (stretch ++ [c]) rest := by
  simp [weaveFrom, h]

theorem weaveFrom_append_of_notMem {front : Text} (h : '>' ∉ front) (rest : Text) :
    weaveFrom seams n stretch (front ++ rest) = weaveFrom seams n (stretch ++ front) rest := by
  induction front generalizing stretch with
  | nil => simp
  | cons c front ih =>
    have hc : c ≠ '>' := fun e => h (e ▸ List.mem_cons_self)
    rw [List.cons_append, weaveFrom_cons_of_ne hc, ih fun hm => h (List.mem_cons_of_mem _ hm)]
    simp

theorem weaveFrom_none (h : ∀ k, n ≤ k → k < n + brackets text → seams k = none) :
    weaveFrom seams n stretch text = stretch ++ text := by
  induction text generalizing n stretch with
  | nil => simp [weaveFrom]
  | cons c rest ih =>
    by_cases hc : c = '>'
    · subst hc
      simp only [brackets_cons_bracket] at h
      rw [weaveFrom_bracket, h n le_rfl (by omega), sew_none, ih fun k h₁ h₂ => h k (by omega) (by omega)]
      simp
    · rw [brackets_cons_of_ne hc] at h
      rw [weaveFrom_cons_of_ne hc, ih h]
      simp

theorem weave_none (h : ∀ k < brackets text, seams k = none) : weave seams text = text :=
  weaveFrom_none fun k _ hk => h k (by omega)

theorem weaveFrom_drop (m : Nat) : weaveFrom (seams.drop m) n stretch text = weaveFrom seams (m + n) stretch text := by
  induction text generalizing n stretch with
  | nil => rfl
  | cons c rest ih =>
    by_cases hc : c = '>'
    · subst hc
      rw [weaveFrom_bracket, weaveFrom_bracket, ih, Nat.add_assoc]
      rfl
    · rw [weaveFrom_cons_of_ne hc, weaveFrom_cons_of_ne hc, ih]

theorem brackets_sew {inserted : Option Text} (hi : ∀ x, inserted = some x → '>' ∉ x) (hs : '>' ∉ stretch) :
    brackets (sew inserted stretch) = 0 := by
  rw [brackets_eq_zero]
  cases inserted with
  | none => exact hs
  | some x => exact bracket_notMem_seam (hi x rfl) hs

theorem brackets_weaveFrom (hm : seams.Marked) (hs : '>' ∉ stretch) :
    brackets (weaveFrom seams n stretch text) = brackets text := by
  induction text generalizing n stretch with
  | nil => simpa [weaveFrom] using brackets_eq_zero.2 hs
  | cons c rest ih =>
    by_cases hc : c = '>'
    · subst hc
      rw [weaveFrom_bracket, brackets_append, brackets_cons_bracket, brackets_cons_bracket, ih (by simp),
        brackets_sew (fun x hx => (hm n x hx).bracket_notMem) hs, Nat.zero_add]
    · rw [weaveFrom_cons_of_ne hc, brackets_cons_of_ne hc, ih (by simp [hs, Ne.symm hc])]

/-- **A weave keeps the brackets.** -/
theorem brackets_weave (hm : seams.Marked) : brackets (weave seams text) = brackets text :=
  brackets_weaveFrom hm (by simp)

/-! ## Weaving twice -/

theorem sew_sew {x y : Option Text} (hx : ∀ t, x = some t → Inserted t) :
    sew y (sew x stretch) = sew (Seams.both x y) stretch := by
  cases x with
  | none => cases y <;> rfl
  | some t =>
    cases y with
    | none => rfl
    | some u => exact seam_seam (hx t rfl).last_isFirm

theorem weaveFrom_weaveFrom (hm : first.Marked) (hs : '>' ∉ stretch) :
    weaveFrom second n [] (weaveFrom first n stretch text) = weaveFrom (first.append second) n stretch text := by
  induction text generalizing n stretch with
  | nil =>
    have : weaveFrom second n [] (stretch ++ []) = weaveFrom second n ([] ++ stretch) [] :=
      weaveFrom_append_of_notMem hs []
    simpa [weaveFrom] using this
  | cons c rest ih =>
    by_cases hc : c = '>'
    · subst hc
      have hsew : '>' ∉ sew (first n) stretch :=
        brackets_eq_zero.1 (brackets_sew (fun x hx => (hm n x hx).bracket_notMem) hs)
      rw [weaveFrom_bracket, weaveFrom_append_of_notMem hsew, weaveFrom_bracket, weaveFrom_bracket, ih (by simp),
        List.nil_append, sew_sew (hm n)]
      rfl
    · rw [weaveFrom_cons_of_ne hc, weaveFrom_cons_of_ne hc, ih (by simp [hs, Ne.symm hc])]

/-- **Two weaves are one.** -/
theorem weave_weave (hm : first.Marked) : weave second (weave first text) = weave (first.append second) text :=
  weaveFrom_weaveFrom hm (by simp)

/-! ## Weaving part by part -/

theorem sew_append {inserted : Option Text} {front : Text} (h : Border front stretch) :
    sew inserted (front ++ stretch) = front ++ sew inserted stretch := by
  cases inserted with
  | none => rfl
  | some x => exact seam_append h

/-- a stretch is kept up to its last firm character, or up to a firm character that follows it -/
theorem weaveFrom_front {front : Text} (h : (∀ c, front.getLast? = some c → Text.isFirm c = true) ∨
      ∃ c, (stretch ++ text).head? = some c ∧ Text.isFirm c = true ∧ c ≠ '>') :
    weaveFrom seams n (front ++ stretch) text = front ++ weaveFrom seams n stretch text := by
  induction text generalizing stretch with
  | nil => rfl
  | cons c rest ih =>
    by_cases hc : c = '>'
    · subst hc
      have hborder : Border front stretch := by
        rcases h with h | ⟨c, hc, hfirm, hne⟩
        · exact Or.inl h
        · cases stretch with
          | nil =>
            simp only [List.nil_append, List.head?_cons, Option.some.injEq] at hc
            exact absurd hc.symm hne
          | cons d stretch => exact Or.inr ⟨c, by simpa using hc, hfirm⟩
      rw [weaveFrom_bracket, weaveFrom_bracket, sew_append hborder, List.append_assoc]
    · rw [weaveFrom_cons_of_ne hc, weaveFrom_cons_of_ne hc, List.append_assoc]
      exact ih (by simpa using h)

theorem weaveFrom_append {a b : Text} (h : (∀ c, (stretch ++ a).getLast? = some c → Text.isFirm c = true) ∨
      ∃ c, b.head? = some c ∧ Text.isFirm c = true ∧ c ≠ '>') :
    weaveFrom seams n stretch (a ++ b) = weaveFrom seams n stretch a ++ weaveFrom seams (n + brackets a) [] b := by
  induction a generalizing n stretch with
  | nil =>
    have : weaveFrom seams n (stretch ++ []) b = stretch ++ weaveFrom seams n [] b :=
      weaveFrom_front (by simpa using h)
    simpa [weaveFrom] using this
  | cons c rest ih =>
    by_cases hc : c = '>'
    · subst hc
      have hrest : (∀ c, (([] : Text) ++ rest).getLast? = some c → Text.isFirm c = true) ∨
          ∃ c, b.head? = some c ∧ Text.isFirm c = true ∧ c ≠ '>' := by
        rcases h with h | h
        · refine Or.inl fun c hc => h c ?_
          rw [List.nil_append] at hc
          rw [List.getLast?_append, List.getLast?_cons, hc]
          rfl
        · exact Or.inr h
      rw [List.cons_append, weaveFrom_bracket, weaveFrom_bracket, ih hrest, brackets_cons_bracket, List.append_assoc,
        List.cons_append]
      congr 4
      omega
    · rw [List.cons_append, weaveFrom_cons_of_ne hc, weaveFrom_cons_of_ne hc, brackets_cons_of_ne hc]
      exact ih (by simpa using h)

/-- **Weaving part by part**, where the first part ends in a firm character or the second starts with one. -/
theorem weave_append {a b : Text} (h : (∀ c, a.getLast? = some c → Text.isFirm c = true) ∨
      ∃ c, b.head? = some c ∧ Text.isFirm c = true ∧ c ≠ '>') :
    weave seams (a ++ b) = weave seams a ++ weave (seams.drop (brackets a)) b := by
  unfold weave
  rw [weaveFrom_drop, Nat.add_zero, ← Nat.zero_add (brackets a)]
  exact weaveFrom_append (by rwa [List.nil_append])

/-! ## The stretch before a bracket -/

theorem exists_stretch {k : Nat} (hm : seams.Marked) (hs : '>' ∉ stretch) (hk : n ≤ k) (hk' : k < n + brackets text) :
    ∃ front v rest, weaveFrom seams n stretch text = front ++ sew (seams k) v ++ '>' :: rest ∧
      n + brackets text = k + 1 + brackets rest := by
  induction text generalizing n stretch with
  | nil => rw [brackets_nil] at hk'; omega
  | cons c rest ih =>
    by_cases hc : c = '>'
    · subst hc
      rw [brackets_cons_bracket] at hk' ⊢
      rw [weaveFrom_bracket]
      rcases Nat.eq_or_lt_of_le hk with rfl | hlt
      · exact ⟨[], stretch, _, rfl, by rw [brackets_weaveFrom hm List.not_mem_nil]; omega⟩
      · obtain ⟨front, v, rest', hweave, hcount⟩ := ih List.not_mem_nil hlt (by omega)
        exact ⟨sew (seams n) stretch ++ '>' :: front, v, rest', by rw [hweave]; simp, by omega⟩
    · rw [brackets_cons_of_ne hc] at hk' ⊢
      rw [weaveFrom_cons_of_ne hc]
      exact ih (by simp [hs, Ne.symm hc]) hk hk'

/-- **The stretch before a bracket of a weave** is a stretch with the seam of that bracket. -/
theorem exists_sewn {k : Nat} (hm : seams.Marked) (hk : k < brackets text) :
    ∃ front v rest, weave seams text = front ++ sew (seams k) v ++ '>' :: rest ∧
      brackets text = k + 1 + brackets rest := by
  have hk : k < 0 + brackets text := by omega
  obtain ⟨front, v, rest, hweave, hcount⟩ := exists_stretch hm List.not_mem_nil (Nat.zero_le k) hk
  exact ⟨front, v, rest, hweave, by omega⟩

/-! ## One seam at the end of a tag -/

theorem weaveFrom_last (h : ∀ k, n ≤ k → k < n + brackets text → seams k = none) :
    weaveFrom seams n stretch (text ++ ['>']) = sew (seams (n + brackets text)) (stretch ++ text) ++ ['>'] := by
  induction text generalizing n stretch with
  | nil => simp [weaveFrom]
  | cons c rest ih =>
    by_cases hc : c = '>'
    · subst hc
      rw [brackets_cons_bracket] at h ⊢
      have hborder : Border (stretch ++ ['>']) rest := by
        left
        intro c hc
        rw [List.getLast?_concat, Option.some.injEq] at hc
        exact hc ▸ by decide
      have hrest : weaveFrom seams (n + 1) [] (rest ++ ['>']) = sew (seams (n + 1 + brackets rest)) ([] ++ rest) ++ ['>'] :=
        ih fun k hk hk' => h k (by omega) (by omega)
      rw [List.cons_append, weaveFrom_bracket, h n le_rfl (by omega), sew_none, hrest, List.nil_append,
        show stretch ++ '>' :: rest = (stretch ++ ['>']) ++ rest by simp, sew_append hborder,
        show n + 1 + brackets rest = n + (brackets rest + 1) by omega]
      simp
    · rw [brackets_cons_of_ne hc] at h ⊢
      rw [List.cons_append, weaveFrom_cons_of_ne hc, ih h]
      simp

/-- **One seam at the end of a tag**: what stands before the tag and behind it is woven by itself. -/
theorem weave_tag {front inner : Text} (rest : Text) (hinner : inner.head? = some '<')
    (h : ∀ k, brackets front ≤ k → k < brackets front + brackets inner → seams k = none) :
    weave seams (front ++ (inner ++ ['>']) ++ rest) =
      weave seams front ++ sew (seams (brackets front + brackets inner)) inner ++
        '>' :: weave (seams.drop (brackets front + brackets inner + 1)) rest := by
  have hhead : ∃ c, (inner ++ ['>']).head? = some c ∧ Text.isFirm c = true ∧ c ≠ '>' :=
    ⟨'<', by rw [List.head?_append, hinner]; rfl, by decide, by decide⟩
  have hlast : ∀ c, (front ++ (inner ++ ['>'])).getLast? = some c → Text.isFirm c = true := by
    intro c hc
    rw [← List.append_assoc, List.getLast?_concat, Option.some.injEq] at hc
    exact hc ▸ by decide
  have htag : weave (seams.drop (brackets front)) (inner ++ ['>']) =
      sew (seams (brackets front + brackets inner)) inner ++ ['>'] := by
    have hnone : ∀ k, 0 ≤ k → k < 0 + brackets inner → seams.drop (brackets front) k = none :=
      fun k _ hk => h _ (by omega) (by omega)
    rw [weave, weaveFrom_last hnone]
    simp [Seams.drop]
  rw [weave_append (Or.inl hlast), weave_append (Or.inr hhead), htag, brackets_append, brackets_append,
    brackets_cons_bracket, brackets_nil]
  simp [Nat.add_assoc]

/-! ## Cuts -/

theorem cut_inj {c : Char} {a b r q : Text} (ha : c ∉ a) (hb : c ∉ b) (h : a ++ c :: r = b ++ c :: q) :
    a = b ∧ r = q := by
  induction a generalizing b with
  | nil =>
    cases b with
    | nil => exact ⟨rfl, List.tail_eq_of_cons_eq h⟩
    | cons d b => exact absurd (List.head_eq_of_cons_eq h ▸ List.mem_cons_self) hb
  | cons d a ih =>
    cases b with
    | nil => exact absurd ((List.head_eq_of_cons_eq h).symm ▸ List.mem_cons_self) ha
    | cons e b =>
      simp only [List.cons_append, List.cons.injEq] at h
      obtain ⟨rfl, rfl⟩ := ih (fun hm => ha (List.mem_cons_of_mem _ hm)) (fun hm => hb (List.mem_cons_of_mem _ hm)) h.2
      exact ⟨by rw [h.1], rfl⟩

/-- a text is cut in one way at the place of a character behind which as many of it follow -/
theorem cut_last {c : Char} {a b r q : Text} (h : a ++ c :: r = b ++ c :: q) (hcount : r.count c = q.count c) :
    a = b ∧ r = q := by
  rcases List.append_eq_append_iff.1 h with ⟨e, rfl, hr⟩ | ⟨e, rfl, hq⟩
  · cases e with
    | nil => exact ⟨(List.append_nil a).symm, List.tail_eq_of_cons_eq hr⟩
    | cons d e =>
      rw [List.cons_append] at hr
      rw [(List.cons.inj hr).2, List.count_append, List.count_cons_self] at hcount
      omega
  · cases e with
    | nil => exact ⟨List.append_nil b, (List.tail_eq_of_cons_eq hq).symm⟩
    | cons d e =>
      rw [List.cons_append] at hq
      rw [(List.cons.inj hq).2, List.count_append, List.count_cons_self] at hcount
      omega

end SourceMark
