/-
Insertions. `Inserts` says what an output is made of: the characters of the source in order, with pieces put before some
closing brackets, or before the slash in front of one. Nothing else gives way to a piece but blanks next to the bracket
or the slash. The third text of the relation is the output without the pieces.

Results:
- `Inserts.ink_eq`: without the pieces, the output has the characters of the source, blanks apart.
- `Inserts.append`: what is inserted part by part is inserted in the whole.
- `Inserts.eq_nil_iff`: the source and the output tell at which brackets something is inserted.
- `inserts_weave`: a weave inserts what its seams hold.
-/
import SourceMark.Proofs.Marker.Weave

namespace SourceMark

/-! ## Characters that are no blanks -/

/-- the characters of a text that are no blanks -/
def ink (text : Text) : Text :=
  text.filter fun c => !Text.isBlank c

theorem ink_append (a b : Text) : ink (a ++ b) = ink a ++ ink b :=
  List.filter_append a b

theorem ink_of_blank {gap : Text} (h : ∀ c ∈ gap, Text.isBlank c = true) : ink gap = [] :=
  List.filter_eq_nil_iff.2 fun c hc => by simp [h c hc]

theorem ink_cons (c : Char) (text : Text) : ink (c :: text) = ink [c] ++ ink text := ink_append [c] text

theorem bracket_notMem_of_blank {gap : Text} (h : ∀ c ∈ gap, Text.isBlank c = true) : '>' ∉ gap :=
  fun hm => absurd (h _ hm) (by decide)

theorem brackets_of_blank {gap : Text} (h : ∀ c ∈ gap, Text.isBlank c = true) : brackets gap = 0 :=
  brackets_eq_zero.2 (bracket_notMem_of_blank h)

/-! ## Insertions -/

/-- `output` is `source` with `pieces k` before the bracket with number k, where the first bracket has the number `n`;
`kept` is `output` without the pieces -/
inductive Inserts (pieces : Nat → List Text) : (n : Nat) → (source output kept : Text) → Prop
  | nil (n : Nat) : Inserts pieces n [] [] []
  | char {n : Nat} {c : Char} {s o r : Text} (hc : c ≠ '>') (tail : Inserts pieces n s o r) :
      Inserts pieces n (c :: s) (c :: o) (c :: r)
  | bracket {n : Nat} {s o r : Text} (hn : pieces n = []) (tail : Inserts pieces (n + 1) s o r) :
      Inserts pieces n ('>' :: s) ('>' :: o) ('>' :: r)
  | marked {n : Nat} {gap s o r : Text} (hn : pieces n ≠ []) (hgap : ∀ c ∈ gap, Text.isHorizontalBlank c = true)
      (tail : Inserts pieces (n + 1) s o r) :
      Inserts pieces n (gap ++ '>' :: s) ((pieces n).flatten ++ '>' :: o) ('>' :: r)
  | selfClosing {n : Nat} {gap mid s o r : Text} (hn : pieces n ≠ [])
      (hgap : ∀ c ∈ gap, Text.isHorizontalBlank c = true) (hmid : ∀ c ∈ mid, Text.isBlank c = true)
      (tail : Inserts pieces (n + 1) s o r) :
      Inserts pieces n (gap ++ '/' :: (mid ++ '>' :: s)) ((pieces n).flatten ++ ' ' :: '/' :: '>' :: o)
        (' ' :: '/' :: '>' :: r)

variable {pieces : Nat → List Text} {n : Nat} {s o r : Text}

/-- **Without the pieces, the output has the characters of the source**, blanks apart. -/
theorem Inserts.ink_eq (h : Inserts pieces n s o r) : ink r = ink s := by
  induction h with
  | nil => rfl
  | @char n c s o r _ _ ih => rw [ink_cons, ih, ← ink_cons]
  | @bracket n s o r _ _ ih => rw [ink_cons, ih, ← ink_cons]
  | @marked n gap s o r _ hgap _ ih =>
    rw [ink_append, ink_of_blank fun c hc => Text.isBlank_of_isHorizontalBlank (hgap c hc), List.nil_append, ink_cons, ih,
      ← ink_cons]
  | @selfClosing n gap mid s o r _ hgap hmid _ ih =>
    have hkept : ink (' ' :: '/' :: '>' :: r) = '/' :: '>' :: ink r := rfl
    have hsource : ink ('/' :: (mid ++ '>' :: s)) = '/' :: ink (mid ++ '>' :: s) := rfl
    have hbracket : ink ('>' :: s) = '>' :: ink s := rfl
    rw [hkept, ih, ink_append, ink_of_blank fun c hc => Text.isBlank_of_isHorizontalBlank (hgap c hc), List.nil_append,
      hsource, ink_append, ink_of_blank hmid, List.nil_append, hbracket]

theorem Inserts.append_of_notMem {front : Text} (hf : '>' ∉ front) (h : Inserts pieces n s o r) :
    Inserts pieces n (front ++ s) (front ++ o) (front ++ r) := by
  induction front with
  | nil => exact h
  | cons c front ih =>
    exact .char (fun hc => hf (hc ▸ List.mem_cons_self)) (ih fun hm => hf (List.mem_cons_of_mem _ hm))

theorem Inserts.refl (h : ∀ k, n ≤ k → k < n + brackets s → pieces k = []) : Inserts pieces n s s s := by
  induction s generalizing n with
  | nil => exact .nil n
  | cons c s ih =>
    by_cases hc : c = '>'
    · subst hc
      rw [brackets_cons_bracket] at h
      exact .bracket (h n le_rfl (by omega)) (ih fun k hk hk' => h k (by omega) (by omega))
    · rw [brackets_cons_of_ne hc] at h
      exact .char hc (ih h)

theorem Inserts.append {a : Text} (h : Inserts pieces n a o r) {b o' r' : Text}
    (h' : Inserts pieces (n + brackets a) b o' r') : Inserts pieces n (a ++ b) (o ++ o') (r ++ r') := by
  induction h with
  | nil => simpa using h'
  | @char n c s o r hc _ ih =>
    rw [brackets_cons_of_ne hc] at h'
    exact .char hc (ih h')
  | @bracket n s o r hn _ ih =>
    rw [brackets_cons_bracket, Nat.add_comm (brackets s), ← Nat.add_assoc] at h'
    exact .bracket hn (ih h')
  | @marked n gap s o r hn hgap _ ih =>
    rw [brackets_append, brackets_cons_bracket, brackets_of_blank fun c hc => Text.isBlank_of_isHorizontalBlank (hgap c hc),
      Nat.zero_add, Nat.add_comm (brackets s), ← Nat.add_assoc] at h'
    simpa using Inserts.marked hn hgap (ih h')
  | @selfClosing n gap mid s o r hn hgap hmid _ ih =>
    rw [brackets_append, brackets_cons_of_ne (by decide), brackets_append, brackets_cons_bracket,
      brackets_of_blank fun c hc => Text.isBlank_of_isHorizontalBlank (hgap c hc), brackets_of_blank hmid,
      Nat.zero_add, Nat.zero_add, Nat.add_comm (brackets s), ← Nat.add_assoc] at h'
    simpa using Inserts.selfClosing hn hgap hmid (ih h')

theorem Inserts.shift {pieces' : Nat → List Text} {m j : Nat} (h : ∀ k < j + 1, pieces (n + k) = pieces' (m + k)) :
    ∀ k < j, pieces (n + 1 + k) = pieces' (m + 1 + k) := by
  intro k hk
  have := h (1 + k) (by omega)
  rwa [← Nat.add_assoc, ← Nat.add_assoc] at this

/-- what is inserted at other brackets does not matter, nor does the number of the first bracket -/
theorem Inserts.congr {pieces' : Nat → List Text} {m : Nat} (h : Inserts pieces n s o r)
    (heq : ∀ k < brackets s, pieces (n + k) = pieces' (m + k)) : Inserts pieces' m s o r := by
  induction h generalizing m with
  | nil => exact .nil m
  | @char n c s o r hc _ ih =>
    rw [brackets_cons_of_ne hc] at heq
    exact .char hc (ih heq)
  | @bracket n s o r hn _ ih =>
    rw [brackets_cons_bracket] at heq
    exact .bracket ((heq 0 (Nat.succ_pos _)).symm.trans hn) (ih (Inserts.shift heq))
  | @marked n gap s o r hn hgap _ ih =>
    rw [brackets_append, brackets_cons_bracket, ← Nat.add_assoc] at heq
    have hhere : pieces n = pieces' m := heq 0 (Nat.succ_pos _)
    rw [hhere] at hn ⊢
    exact .marked hn hgap (ih (Inserts.shift fun k hk => heq k (by omega)))
  | @selfClosing n gap mid s o r hn hgap hmid _ ih =>
    rw [brackets_append, brackets_cons_of_ne (by decide), brackets_append, brackets_cons_bracket] at heq
    have hhere : pieces n = pieces' m := heq 0 (by omega)
    rw [hhere] at hn ⊢
    exact .selfClosing hn hgap hmid (ih (Inserts.shift fun k hk => heq k (by omega)))

/-! ## What is inserted is told by the texts -/

/-- the first bracket of the source in the output: what is inserted before it has characters of its own -/
theorem Inserts.split {v : Text} (h : Inserts pieces n (v ++ '>' :: s) o r) (hv : '>' ∉ v)
    (hp : ∀ p ∈ pieces n, '>' ∉ p) : ∃ w o' r', o = w ++ '>' :: o' ∧ '>' ∉ w ∧ Inserts pieces (n + 1) s o' r' ∧
      (ink w).length = (ink v).length + (ink (pieces n).flatten).length := by
  generalize htext : v ++ '>' :: s = text at h
  have hflat {n : Nat} (hp : ∀ p ∈ pieces n, '>' ∉ p) : '>' ∉ (pieces n).flatten := by
    intro hm
    obtain ⟨p, hmem, hbracket⟩ := List.mem_flatten.1 hm
    exact hp p hmem hbracket
  induction h generalizing v with
  | nil => exact absurd htext (by simp)
  | @char n c s' o r hc tail ih =>
    cases v with
    | nil => exact absurd (List.head_eq_of_cons_eq htext).symm hc
    | cons d v =>
      obtain rfl : d = c := List.head_eq_of_cons_eq htext
      obtain ⟨w, o', r', rfl, hw, hrest, hlen⟩ :=
        ih (fun hm => hv (List.mem_cons_of_mem _ hm)) hp (List.tail_eq_of_cons_eq htext)
      refine ⟨d :: w, o', r', rfl, ?_, hrest, ?_⟩
      · exact fun hm => (List.mem_cons.1 hm).elim (fun h => hc h.symm) hw
      · rw [ink_cons, ink_cons d v, List.length_append, List.length_append, hlen, Nat.add_assoc]
  | @bracket n s' o r hn tail _ =>
    obtain ⟨rfl, rfl⟩ := cut_inj hv (b := []) List.not_mem_nil htext
    exact ⟨[], o, r, rfl, List.not_mem_nil, tail, by rw [hn]; rfl⟩
  | @marked n gap s' o r hn hgap tail _ =>
    have hblank : ∀ c ∈ gap, Text.isBlank c = true := fun c hc => Text.isBlank_of_isHorizontalBlank (hgap c hc)
    obtain ⟨rfl, rfl⟩ := cut_inj hv (bracket_notMem_of_blank hblank) htext
    exact ⟨(pieces n).flatten, o, r, rfl, hflat hp, tail, by rw [ink_of_blank hblank]; simp⟩
  | @selfClosing n gap mid s' o r hn hgap hmid tail _ =>
    have hblank : ∀ c ∈ gap, Text.isBlank c = true := fun c hc => Text.isBlank_of_isHorizontalBlank (hgap c hc)
    have hgapmid : '>' ∉ gap ++ '/' :: mid := by
      simp only [List.mem_append, List.mem_cons, not_or]
      exact ⟨bracket_notMem_of_blank hblank, by decide, bracket_notMem_of_blank hmid⟩
    obtain ⟨rfl, rfl⟩ := cut_inj hv hgapmid (by simpa using htext)
    refine ⟨(pieces n).flatten ++ [' ', '/'], o, r, by simp, ?_, tail, ?_⟩
    · simp only [List.mem_append, not_or]
      exact ⟨hflat hp, by decide⟩
    · have hslash : ink ('/' :: mid) = ['/'] := by
        rw [ink_cons, ink_of_blank hmid]
        rfl
      rw [ink_append, ink_append, ink_of_blank hblank, hslash, List.length_append, Nat.add_comm]
      rfl

theorem ink_flatten_pos {pieces : List Text} (hp : ∀ p ∈ pieces, Inserted p) (h : pieces ≠ []) :
    0 < (ink pieces.flatten).length := by
  obtain ⟨p, hmem⟩ := List.exists_mem_of_ne_nil _ h
  have hquote : '"' ∈ pieces.flatten := List.mem_flatten.2 ⟨p, hmem, List.mem_of_getLast? (hp p hmem).last⟩
  exact List.length_pos_of_mem (List.mem_filter.2 ⟨hquote, by decide⟩)

/-- **The texts tell at which brackets something is inserted.** -/
theorem Inserts.eq_nil_iff {pieces' : Nat → List Text} {r' : Text} (h : Inserts pieces n s o r)
    (h' : Inserts pieces' n s o r') (hp : ∀ k, ∀ p ∈ pieces k, Inserted p) (hp' : ∀ k, ∀ p ∈ pieces' k, Inserted p)
    {k : Nat} (hk : n ≤ k) (hk' : k < n + brackets s) : pieces k = [] ↔ pieces' k = [] := by
  induction hcount : brackets s generalizing n s o r r' with
  | zero => omega
  | succ m ih =>
    have hmem : '>' ∈ s := List.count_pos_iff.1 (by rw [← brackets, hcount]; exact Nat.succ_pos m)
    obtain ⟨v, s, rfl, hv⟩ := List.eq_append_cons_of_mem hmem
    obtain ⟨w, q, t, rfl, hw, hrest, hlen⟩ := h.split hv fun p hmem => (hp n p hmem).bracket_notMem
    obtain ⟨w', q', t', heq, hw', hrest', hlen'⟩ := h'.split hv fun p hmem => (hp' n p hmem).bracket_notMem
    obtain ⟨rfl, rfl⟩ := cut_inj hw hw' heq
    rw [brackets_append, brackets_cons_bracket, brackets_eq_zero.2 hv] at hcount hk'
    rcases Nat.eq_or_lt_of_le hk with rfl | hlt
    · have hsame : (ink (pieces n).flatten).length = (ink (pieces' n).flatten).length := by omega
      constructor
      · intro hnil
        by_contra hne
        have := ink_flatten_pos (hp' n) hne
        rw [← hsame, hnil] at this
        exact absurd this (by decide)
      · intro hnil
        by_contra hne
        have := ink_flatten_pos (hp n) hne
        rw [hsame, hnil] at this
        exact absurd this (by decide)
    · exact ih hrest hrest' hlt (by omega) (by omega)

/-! ## Weaves -/

/-- what pieces insert together at a bracket, if there are any -/
def joined (pieces : List Text) : Option Text :=
  if pieces = [] then none else some pieces.flatten

theorem joined_eq_none {pieces : List Text} : joined pieces = none ↔ pieces = [] := by
  simp [joined]

theorem inserted_joined {pieces : List Text} (h : ∀ p ∈ pieces, Inserted p) {x : Text} (hx : joined pieces = some x) :
    Inserted x := by
  induction pieces generalizing x with
  | nil => exact absurd hx (by simp [joined])
  | cons p pieces ih =>
    obtain rfl : (p :: pieces).flatten = x := Option.some.inj hx
    have hp : Inserted p := h p List.mem_cons_self
    cases hrest : pieces with
    | nil => simpa using hp
    | cons q others =>
      have hjoined : joined pieces = some pieces.flatten := by simp [joined, hrest]
      rw [List.flatten_cons, ← hrest]
      exact hp.append (ih (fun r hr => h r (List.mem_cons_of_mem _ hr)) hjoined)

theorem both_joined (first second : List Text) :
    Seams.both (joined first) (joined second) = joined (first ++ second) := by
  unfold joined
  cases first <;> cases second <;> simp [Seams.both]

theorem inserts_seam {stretch : Text} (hn : pieces n ≠ []) (hs : '>' ∉ stretch) (h : Inserts pieces (n + 1) s o r) :
    ∃ kept, Inserts pieces n (stretch ++ '>' :: s) (seam (pieces n).flatten stretch ++ '>' :: o) kept := by
  rcases seam_cases stretch with ⟨body, gap, rfl, hgap, hseam⟩ | ⟨body, gap, mid, rfl, hgap, hmid, hseam⟩
  · refine ⟨body ++ '>' :: r, ?_⟩
    rw [hseam, List.append_assoc, List.append_assoc]
    exact (Inserts.marked hn hgap h).append_of_notMem fun hm => hs (List.mem_append_left _ hm)
  · refine ⟨body ++ ' ' :: '/' :: '>' :: r, ?_⟩
    have hbody : '>' ∉ body := fun hm => hs (by simp [hm])
    have := (Inserts.selfClosing hn hgap hmid h).append_of_notMem hbody
    rw [hseam]
    simpa using this

theorem inserts_weaveFrom {seams : Seams} {stretch text : Text} (h : ∀ k, seams k = joined (pieces k))
    (hs : '>' ∉ stretch) : ∃ kept, Inserts pieces n (stretch ++ text) (weaveFrom seams n stretch text) kept := by
  induction text generalizing n stretch with
  | nil =>
    have hnil : Inserts pieces n [] [] [] := .nil n
    exact ⟨stretch, by simpa [weaveFrom] using hnil.append_of_notMem hs⟩
  | cons c rest ih =>
    by_cases hc : c = '>'
    · subst hc
      have hrest : ∃ kept, Inserts pieces (n + 1) ([] ++ rest) (weaveFrom seams (n + 1) [] rest) kept :=
        ih List.not_mem_nil
      obtain ⟨kept, hkept⟩ := hrest
      rw [List.nil_append] at hkept
      rw [weaveFrom_bracket, h, joined]
      split_ifs with hn
      · exact ⟨stretch ++ '>' :: kept, (Inserts.bracket hn hkept).append_of_notMem hs⟩
      · exact inserts_seam hn hs hkept
    · have hs' : '>' ∉ stretch ++ [c] := by simp [hs, Ne.symm hc]
      rw [weaveFrom_cons_of_ne hc]
      simpa using ih hs' (n := n)

/-- **A weave inserts what its seams hold.** -/
theorem inserts_weave {seams : Seams} (h : ∀ k, seams k = joined (pieces k)) (text : Text) :
    ∃ kept, Inserts pieces 0 text (weave seams text) kept :=
  inserts_weaveFrom h List.not_mem_nil

end SourceMark
