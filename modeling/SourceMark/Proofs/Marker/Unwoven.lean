/-
Pieces of a weave. A piece that starts with an opening bracket and ends with a closing one either holds what is inserted
at one of its brackets or stands in the text that was woven, character for character.

Results:
- `exists_inserted`: a piece with a seam at one of its brackets holds what is inserted there.
- `exists_unwoven`: a piece without seams stands in the text, and what is in front of it is woven by itself.
-/
import SourceMark.Proofs.Marker.Weave

namespace SourceMark

variable {seams : Seams} {text f u r : Text}

/-! ## Cuts at a bracket -/

theorem exists_cut {k : Nat} (hk : k < brackets text) : ∃ a b, text = a ++ '>' :: b ∧ brackets a = k := by
  induction text generalizing k with
  | nil => exact absurd hk (Nat.not_lt_zero k)
  | cons c rest ih =>
    by_cases hc : c = '>'
    · subst hc
      cases k with
      | zero => exact ⟨[], rest, rfl, rfl⟩
      | succ k =>
        rw [brackets_cons_bracket] at hk
        obtain ⟨a, b, rfl, ha⟩ := ih (Nat.lt_of_succ_lt_succ hk)
        exact ⟨'>' :: a, b, rfl, by rw [brackets_cons_bracket, ha]⟩
    · rw [brackets_cons_of_ne hc] at hk
      obtain ⟨a, b, rfl, ha⟩ := ih hk
      exact ⟨c :: a, b, rfl, by rw [brackets_cons_of_ne hc, ha]⟩

theorem exists_cut_behind {k : Nat} (hk : k ≤ brackets text) :
    ∃ a b, text = a ++ b ∧ brackets a = k ∧ ∀ c, a.getLast? = some c → c = '>' := by
  cases k with
  | zero => exact ⟨[], text, rfl, rfl, fun c hc => absurd hc (by simp)⟩
  | succ k =>
    obtain ⟨a, b, rfl, ha⟩ := exists_cut hk
    refine ⟨a ++ ['>'], b, by simp, by rw [brackets_append, ha]; rfl, ?_⟩
    intro c hc
    rw [List.getLast?_concat] at hc
    exact (Option.some.inj hc).symm

/-! ## Pieces with a seam -/

theorem exists_seam {x : Text} (stretch : Text) : ∃ body back, seam x stretch = body ++ x ++ back ∧ '<' ∉ back := by
  rcases seam_cases stretch with ⟨body, gap, -, -, hseam⟩ | ⟨body, gap, mid, -, -, -, hseam⟩
  · exact ⟨body, [], by rw [hseam, List.append_nil], List.not_mem_nil⟩
  · exact ⟨body, " /".toList, hseam x, by decide⟩

/-- **A piece with a seam at one of its brackets** holds what is inserted there. -/
theorem exists_inserted (hm : seams.Marked) (h : weave seams text = f ++ '<' :: u ++ '>' :: r) {k : Nat} {x : Text}
    (hx : seams k = some x) (hlow : brackets f ≤ k) (hhigh : k ≤ brackets f + brackets u) :
    ∃ front back, '<' :: u = front ++ x ++ back := by
  have htotal := congrArg brackets h
  rw [brackets_weave hm] at htotal
  have hu : brackets ('<' :: u) = brackets u := brackets_cons_of_ne (by decide) u
  simp only [brackets_append, brackets_cons_bracket, hu] at htotal
  obtain ⟨w, w', hw, hcount⟩ : ∃ w w', '<' :: u ++ ['>'] = w ++ '>' :: w' ∧ brackets w = k - brackets f := by
    refine exists_cut ?_
    rw [brackets_append, hu, brackets_cons_bracket, brackets_nil]
    omega
  obtain ⟨front, v, rest, hweave, hrest⟩ := exists_sewn hm (show k < brackets text by omega)
  obtain ⟨body, back, hseam, hback⟩ := exists_seam (x := x) v
  rw [hx, sew_some, hseam] at hweave
  have hsplit : f ++ '<' :: u ++ '>' :: r = f ++ w ++ '>' :: (w' ++ r) := by
    have := congrArg (f ++ · ++ r) hw
    simpa using this
  have htotal' := congrArg brackets (h.trans hsplit)
  rw [brackets_weave hm] at htotal'
  simp only [brackets_append, brackets_cons_bracket] at htotal'
  obtain ⟨hcut, -⟩ := cut_last (hsplit.symm.trans (h.symm.trans hweave)) (show brackets (w' ++ r) = brackets rest by
    rw [brackets_append]
    omega)
  -- the opening bracket of the piece is in front of what is inserted
  have hclosed : '<' ∉ x ++ back := by
    intro hmem
    exact (List.mem_append.1 hmem).elim ((hm _ x hx).notMem (by decide) (by decide)) hback
  have hopen : ∃ w₁, w = '<' :: w₁ := by
    cases w with
    | nil => exact absurd (List.head_eq_of_cons_eq hw) (by decide)
    | cons c w₁ => exact ⟨w₁, by rw [← List.head_eq_of_cons_eq hw]⟩
  obtain ⟨e, he⟩ : ∃ e, w = e ++ (x ++ back) := by
    rw [List.append_assoc body, ← List.append_assoc front] at hcut
    rcases List.append_eq_append_iff.1 hcut with ⟨e, -, he⟩ | ⟨e, -, he⟩
    · exact ⟨e, he⟩
    · obtain ⟨w₁, rfl⟩ := hopen
      exact absurd (he ▸ List.mem_append_right e List.mem_cons_self) hclosed
  -- what is inserted ends before the bracket of the seam, and that is not behind the bracket of the piece
  rw [he] at hw
  rcases List.append_eq_append_iff.1 hw with ⟨d, hd, hd'⟩ | ⟨d, hd, -⟩
  · cases d with
    | nil => exact ⟨e, back, by rw [List.append_nil] at hd; rw [← hd]; simp⟩
    | cons c d =>
      have := congrArg List.length hd'
      simp at this
  · exact ⟨e, back ++ d, by rw [hd]; simp⟩

/-! ## Pieces without seams -/

theorem getLast?_weaveFrom {n : Nat} {stretch : Text} (text : Text) :
    (weaveFrom seams n stretch (text ++ ['>'])).getLast? = some '>' := by
  induction text generalizing n stretch with
  | nil => rw [List.nil_append, weaveFrom_bracket, weaveFrom, List.getLast?_concat]
  | cons c rest ih =>
    by_cases hc : c = '>'
    · subst hc
      rw [List.cons_append, weaveFrom_bracket, List.getLast?_append, List.getLast?_cons, ih]
      rfl
    · rw [List.cons_append, weaveFrom_cons_of_ne hc, ih]

/-- what is in front of a bracket ends in a bracket in the weave too -/
theorem getLast?_weave {a : Text} (ha : ∀ c, a.getLast? = some c → c = '>') {c : Char}
    (hc : (weave seams a).getLast? = some c) : c = '>' := by
  rcases List.eq_nil_or_concat a with rfl | ⟨a, d, rfl⟩
  · exact absurd hc (by simp [weave, weaveFrom])
  · obtain rfl : d = '>' := ha d (by simp)
    rw [List.concat_eq_append, weave, getLast?_weaveFrom] at hc
    exact (Option.some.inj hc).symm

/-- **A piece without seams stands in the text.** What is in front of it is woven by itself, and so is what follows. -/
theorem exists_unwoven (hm : seams.Marked) (h : weave seams text = f ++ '<' :: u ++ '>' :: r)
    (hnone : ∀ k, brackets f ≤ k → k ≤ brackets f + brackets u → seams k = none) :
    ∃ front rest, text = front ++ '<' :: u ++ '>' :: rest ∧ weave seams front = f ∧ brackets front = brackets f ∧
      weave (seams.drop (brackets f + brackets u + 1)) rest = r := by
  have htotal := congrArg brackets h
  rw [brackets_weave hm] at htotal
  have hu : brackets ('<' :: u) = brackets u := brackets_cons_of_ne (by decide) u
  simp only [brackets_append, brackets_cons_bracket, hu] at htotal
  -- the text is cut at the bracket of the piece, and before that behind the brackets in front of the piece
  obtain ⟨pre, rest, rfl, hpre⟩ := exists_cut (show brackets f + brackets u < brackets text by omega)
  obtain ⟨p, s, rfl, hp, hlast⟩ := exists_cut_behind (show brackets f ≤ brackets pre by omega)
  rw [brackets_append] at hpre
  have hfirm : ∀ c, p.getLast? = some c → Text.isFirm c = true := fun c hc => hlast c hc ▸ by decide
  have hpiece : weave (seams.drop (brackets f)) (s ++ ['>']) = s ++ ['>'] := by
    refine weave_none fun k hk => ?_
    rw [brackets_append, brackets_cons_bracket, brackets_nil] at hk
    exact hnone _ (by omega) (by omega)
  have hends : ∀ c, (s ++ ['>']).getLast? = some c → Text.isFirm c = true := by
    intro c hc
    rw [List.getLast?_concat, Option.some.injEq] at hc
    exact hc ▸ by decide
  have hweave : weave seams (p ++ s ++ '>' :: rest) = weave seams p ++ s ++ '>' ::
      weave ((seams.drop (brackets f)).drop (brackets (s ++ ['>']))) rest := by
    rw [show p ++ s ++ '>' :: rest = p ++ ((s ++ ['>']) ++ rest) by simp, weave_append (Or.inl hfirm), hp,
      weave_append (Or.inl hends), hpiece]
    simp
  have hdrop : (seams.drop (brackets f)).drop (brackets (s ++ ['>'])) = seams.drop (brackets f + brackets u + 1) := by
    funext k
    rw [Seams.drop, Seams.drop, Seams.drop, brackets_append, brackets_cons_bracket, brackets_nil]
    congr 1
    omega
  rw [hdrop] at hweave
  have hmark : (seams.drop (brackets f + brackets u + 1)).Marked := fun k x hx => hm _ x hx
  have hrest : brackets (weave (seams.drop (brackets f + brackets u + 1)) rest) = brackets r := by
    rw [brackets_weave hmark]
    simp only [brackets_append, brackets_cons_bracket] at htotal
    omega
  obtain ⟨hcut, hbehind⟩ := cut_last (hweave.symm.trans h) hrest
  -- the piece lies behind the cut: what is in front of the cut ends in a bracket
  obtain ⟨e, hf, hs⟩ : ∃ e, f = weave seams p ++ e ∧ s = e ++ '<' :: u := by
    rcases List.append_eq_append_iff.1 hcut with ⟨e, hf, hs⟩ | ⟨e, hp', hs⟩
    · exact ⟨e, hf, hs⟩
    · rcases List.eq_nil_or_concat e with rfl | ⟨e, c, rfl⟩
      · exact ⟨[], by simpa using hp'.symm, by simpa using hs.symm⟩
      · have hends : (weave seams p).getLast? = some c := by
          rw [hp']
          simp
        obtain rfl : c = '>' := getLast?_weave hlast hends
        have := congrArg brackets hp'
        rw [brackets_weave hm] at this
        simp only [List.concat_eq_append, brackets_append, brackets_cons_bracket, brackets_nil] at this
        omega
  have he : brackets e = 0 := by
    have := congrArg brackets hs
    rw [brackets_append, hu] at this
    omega
  refine ⟨p ++ e, rest, by rw [hs]; simp, ?_, by rw [brackets_append, hp, he, Nat.add_zero], hbehind⟩
  have hidle : weave (seams.drop (brackets p)) e = e := weave_none fun k hk => absurd hk (by omega)
  rw [weave_append (Or.inl hfirm), hidle, hf]

end SourceMark
