/-
Copies of a piece in a weave. A piece that starts with an opening bracket and ends with a closing one, and that has no
seam at any of its brackets wherever it stands in the weave, is nowhere made by weaving: each of its copies in the weave
is one of the text.

Results:
- `exists_carried`: where a copy in the weave comes from.
- `Carried.apart`, `Carried.reach`: copies keep their order, and copies that overlap keep their distance.
- `forall₂_carried`: when the weave has as many counted copies as the text, they belong together in order.
-/
import SourceMark.Proofs.Lines.Occurrences
import SourceMark.Proofs.Marker.Unwoven

namespace SourceMark

/-! ## What is in front of a place -/

theorem weaveFrom_append_of_bracket_notMem {seams : Seams} {n : Nat} {stretch front e : Text} (h : '>' ∉ e) :
    weaveFrom seams n stretch (front ++ e) = weaveFrom seams n stretch front ++ e := by
  induction front generalizing n stretch with
  | nil =>
    have hstretch : weaveFrom seams n stretch (e ++ []) = weaveFrom seams n (stretch ++ e) [] :=
      weaveFrom_append_of_notMem h []
    simpa [weaveFrom] using hstretch
  | cons c front ih =>
    by_cases hc : c = '>'
    · subst hc
      rw [List.cons_append, weaveFrom_bracket, weaveFrom_bracket, ih, List.append_assoc, List.cons_append]
    · rw [List.cons_append, weaveFrom_cons_of_ne hc, weaveFrom_cons_of_ne hc, ih]

/-- a place of the text is known by what is in front of it in the weave -/
theorem weave_front_inj {seams : Seams} (hm : seams.Marked) {front front' a b : Text} (h : front ++ a = front' ++ b)
    (hweave : weave seams front = weave seams front') : front = front' := by
  have hextend {front e : Text} (hsame : weave seams front = weave seams (front ++ e)) : e = [] := by
    have hcount := congrArg brackets hsame
    rw [brackets_weave hm, brackets_weave hm, brackets_append] at hcount
    have he : '>' ∉ e := brackets_eq_zero.1 (by omega)
    rw [weave, weave, weaveFrom_append_of_bracket_notMem he] at hsame
    exact List.self_eq_append_right.1 hsame
  rcases List.append_eq_append_iff.1 h with ⟨e, rfl, -⟩ | ⟨e, rfl, -⟩
  · rw [hextend hweave, List.append_nil]
  · rw [hextend hweave.symm, List.append_nil]

/-! ## Copies -/

/-- the copy of a piece at the place `q` of a weave is the one at the place `p` of the text -/
def Carried (seams : Seams) (text piece : Text) (q p : Nat) : Prop :=
  ∃ f r front rest, weave seams text = f ++ piece ++ r ∧ f.length = q ∧ text = front ++ piece ++ rest ∧
    front.length = p ∧ weave seams front = f

/-- a piece between two brackets that has no seam at a bracket wherever it stands in a weave -/
structure Seamless (seams : Seams) (text piece : Text) : Prop where
  shape : ∃ u, piece = '<' :: u ++ ['>']
  none : ∀ f r, weave seams text = f ++ piece ++ r → ∀ k, brackets f ≤ k → k < brackets f + brackets piece →
    seams k = none

section Copies

variable {seams : Seams} (hm : seams.Marked) {text piece : Text}

include hm

/-- a copy without seams stands in the text, behind what becomes the part of the weave in front of it -/
theorem exists_front {f r : Text} (hshape : ∃ u, piece = '<' :: u ++ ['>']) (hf : weave seams text = f ++ piece ++ r)
    (hnone : ∀ k, brackets f ≤ k → k < brackets f + brackets piece → seams k = none) :
    ∃ front rest, text = front ++ piece ++ rest ∧ weave seams front = f := by
  obtain ⟨u, rfl⟩ := hshape
  have hu : brackets ('<' :: u ++ ['>']) = brackets u + 1 := by
    rw [brackets_append, brackets_cons_of_ne (by decide), brackets_cons_bracket, brackets_nil]
  have hf' : weave seams text = f ++ '<' :: u ++ '>' :: r := by
    rw [hf]
    simp
  obtain ⟨front, rest, htext, hfront, -, -⟩ := exists_unwoven hm hf' fun k hlow hhigh => hnone k hlow (by omega)
  exact ⟨front, rest, by rw [htext]; simp, hfront⟩

variable (h : Seamless seams text piece)

include h

/-- **A copy in the weave comes from the text.** -/
theorem exists_carried {q : Nat} (hq : Text.StandsAt piece (weave seams text) q) :
    ∃ p, Carried seams text piece q p := by
  obtain ⟨f, r, hf, rfl⟩ := hq
  obtain ⟨front, rest, htext, hfront⟩ := exists_front hm h.shape hf (h.none f r hf)
  exact ⟨front.length, f, r, front, rest, hf, rfl, htext, rfl, hfront⟩

variable {q q' p p' : Nat}

/-- **Copies keep their order.** -/
theorem Carried.apart (hqp : Carried seams text piece q p) (hqp' : Carried seams text piece q' p')
    (hapart : q + piece.length ≤ q') : p + piece.length ≤ p' := by
  obtain ⟨f, r, front, rest, hf, rfl, htext, rfl, hfront⟩ := hqp
  obtain ⟨f', r', front', rest', hf', rfl, htext', rfl, hfront'⟩ := hqp'
  -- the first copy lies in front of the second one in the weave, and so it does in the text
  obtain ⟨g, rfl⟩ : f ++ piece <+: f' := by
    have hfirst : f ++ piece <+: weave seams text := ⟨r, hf.symm⟩
    have hsecond : f' <+: weave seams text := ⟨piece ++ r', by rw [hf', List.append_assoc]⟩
    exact List.prefix_of_prefix_length_le hfirst hsecond (by simpa using hapart)
  obtain ⟨front₂, rest₂, rfl, hfront₂⟩ := exists_front hm h.shape hfront' (h.none f r hf)
  have hsame : front = front₂ := by
    have hplaces := htext.symm.trans htext'
    simp only [List.append_assoc] at hplaces
    exact weave_front_inj hm hplaces (hfront.trans hfront₂.symm)
  rw [hsame]
  simp

theorem weave_append_head {f r front e : Text} (hf : weave seams text = f ++ piece ++ r) (hfront : weave seams front = f)
    (he : e <+: piece) : weave seams (front ++ e) = f ++ e := by
  cases e with
  | nil => rw [List.append_nil, List.append_nil, hfront]
  | cons c e =>
    obtain ⟨e', rfl⟩ := he
    obtain ⟨u, hu⟩ := h.shape
    obtain rfl : c = '<' := List.head_eq_of_cons_eq hu
    have hcount : brackets front = brackets f := by rw [← hfront, brackets_weave hm]
    have hnone : weave (seams.drop (brackets front)) ('<' :: e) = '<' :: e := by
      refine weave_none fun k hk => h.none f r hf _ (by omega) ?_
      rw [brackets_append]
      omega
    rw [weave_append (Or.inr ⟨'<', rfl, by decide, by decide⟩), hnone, hfront]

/-- **Copies that overlap keep their distance.** -/
theorem Carried.reach (hqp : Carried seams text piece q p) (hqp' : Carried seams text piece q' p') (hle : q ≤ q')
    (hlt : q' < q + piece.length) : p ≤ p' ∧ p' < p + piece.length := by
  obtain ⟨f, r, front, rest, hf, rfl, htext, rfl, hfront⟩ := hqp
  obtain ⟨f', r', front', rest', hf', rfl, htext', rfl, hfront'⟩ := hqp'
  have hfirst : f <+: weave seams text := ⟨piece ++ r, by rw [hf, List.append_assoc]⟩
  have hsecond : f' <+: weave seams text := ⟨piece ++ r', by rw [hf', List.append_assoc]⟩
  obtain ⟨e, rfl⟩ := List.prefix_of_prefix_length_le hfirst hsecond hle
  rw [List.length_append] at hlt
  -- the second copy starts behind a head of the first one
  obtain ⟨e', he'⟩ : e <+: piece := by
    have hboth := hf.symm.trans hf'
    simp only [List.append_assoc] at hboth
    have hhead : e <+: piece ++ r := ⟨piece ++ r', (List.append_cancel_left hboth).symm⟩
    exact List.prefix_of_prefix_length_le hhead ⟨r, rfl⟩ (by omega)
  have hfront₂ : weave seams (front ++ e) = f ++ e := weave_append_head hm h hf hfront ⟨e', he'⟩
  have hsame : front ++ e = front' := by
    have hplaces : front ++ e ++ (e' ++ rest) = front' ++ (piece ++ rest') := by
      rw [← List.append_assoc front', ← htext', htext, ← he']
      simp
    exact weave_front_inj hm hplaces (hfront₂.trans hfront'.symm)
  rw [← hsame, List.length_append]
  omega

/-- **Counted copies belong together** when the weave has as many as the text: each one in the weave comes from a copy of
the text over which the counted copy of its number reaches. -/
theorem forall₂_carried
    (hlength : (Text.occurrences piece (weave seams text)).length = (Text.occurrences piece text).length) :
    List.Forall₂ (fun q p => ∃ p₀, Carried seams text piece q p₀ ∧ p ≤ p₀ ∧ p₀ < p + piece.length)
      (Text.occurrences piece (weave seams text)) (Text.occurrences piece text) := by
  have hne : piece ≠ [] := by
    obtain ⟨u, rfl⟩ := h.shape
    simp
  have hpos := List.length_pos_iff.2 hne
  have hsorted : (Text.occurrences piece text).Pairwise (· < ·) :=
    (Text.pairwise_occurrences hne text).imp fun hapart => by omega
  refine Text.forall₂_of_apart (Text.pairwise_occurrences hne _) hsorted ?_ ?_ hlength
  · intro q hq
    obtain ⟨p₀, hcarried⟩ := exists_carried hm h (Text.standsAt_of_mem hne hq)
    have hcopy : Text.StandsAt piece text p₀ := by
      obtain ⟨-, -, front, rest, -, -, htext, hp₀, -⟩ := hcarried
      exact ⟨front, rest, htext, hp₀⟩
    obtain ⟨p, hp, hle, hlt⟩ := hcopy.exists_counted hne
    exact ⟨p, hp, p₀, hcarried, hle, hlt⟩
  · rintro q q' p p' hapart ⟨p₀, hcarried, hle, hlt⟩ ⟨p₀', hcarried', hle', hlt'⟩
    have := hcarried.apart hm h hcarried' hapart
    omega

end Copies

end SourceMark
