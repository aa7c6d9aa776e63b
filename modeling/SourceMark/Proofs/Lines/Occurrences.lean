/-
Counted copies. `Text.occurrences` goes through a text from the left and counts a copy wherever one stands that does not
overlap the copy counted before.

Results:
- `standsAt_of_mem`, `pairwise_occurrences`: counted copies are copies and do not overlap.
- `occurrences_around`: at each place where a copy stands, the counted copies in front of it are those of the text in
  front, and the next one reaches over the place.
- `counted_occurrences`, `Counted.eq_occurrences`: there is one way to count.
- `length_occurrences_take`: in front of the counted copy with index n there are n counted copies.
- `forall₂_of_apart`: places that go to counted copies in order go to all of them, when they are as many.
-/
import SourceMark.Text.Basic
import Mathlib.Data.List.Sort

namespace SourceMark.Text

variable {needle : Text}

def StandsAt (needle text : Text) (place : Nat) : Prop :=
  ∃ front rest, text = front ++ needle ++ rest ∧ front.length = place

/-! ## Counting -/

theorem occurrencesFrom_skip (skipped rest : Text) (offset : Nat) :
    occurrencesFrom needle skipped.length offset (skipped ++ rest) =
      occurrencesFrom needle 0 (offset + skipped.length) rest := by
  induction skipped generalizing offset with
  | nil => rfl
  | cons c skipped ih =>
    rw [List.length_cons, List.cons_append, occurrencesFrom, ih]
    congr 1
    omega

theorem occurrencesFrom_eq_map (skip offset : Nat) (text : Text) :
    occurrencesFrom needle skip offset text = (occurrencesFrom needle skip 0 text).map (offset + ·) := by
  induction text generalizing skip offset with
  | nil => cases skip <;> rfl
  | cons c rest ih =>
    have hnext (skip : Nat) : occurrencesFrom needle skip (offset + 1) rest =
        (occurrencesFrom needle skip (0 + 1) rest).map (offset + ·) := by
      rw [ih skip (offset + 1), ih skip (0 + 1), List.map_map]
      apply List.map_congr_left
      intro p _
      simp only [Function.comp_apply]
      omega
    cases skip with
    | succ skip => rw [occurrencesFrom, occurrencesFrom, hnext]
    | zero =>
      rw [occurrencesFrom, occurrencesFrom, hnext, hnext]
      split_ifs <;> simp

/-- a copy at the head of the text is counted, and the count goes on behind it -/
theorem occurrences_append (hne : needle ≠ []) (rest : Text) :
    occurrences needle (needle ++ rest) = 0 :: (occurrences needle rest).map (needle.length + ·) := by
  cases needle with
  | nil => exact absurd rfl hne
  | cons c tail =>
    have hhead : (c :: tail).isPrefixOf (c :: (tail ++ rest)) = true := List.isPrefixOf_iff_prefix.2 ⟨rest, rfl⟩
    rw [List.cons_append, occurrences, occurrencesFrom, if_pos hhead, List.length_cons, Nat.add_sub_cancel,
      occurrencesFrom_skip, occurrencesFrom_eq_map]
    simp [occurrences, Nat.add_comm]

theorem occurrences_cons_of_not {c : Char} {rest : Text} (h : ¬needle <+: c :: rest) :
    occurrences needle (c :: rest) = (occurrences needle rest).map (1 + ·) := by
  have hhead : ¬needle.isPrefixOf (c :: rest) = true := fun hp => h (List.isPrefixOf_iff_prefix.1 hp)
  rw [occurrences, occurrencesFrom, if_neg hhead, occurrencesFrom_eq_map]
  rfl

theorem occurrences_behind {c : Char} {tail front : Text} (hfront : c ∉ front) (rest : Text) :
    occurrences (c :: tail) (front ++ rest) = (occurrences (c :: tail) rest).map (front.length + ·) := by
  induction front with
  | nil => simp
  | cons d front ih =>
    have hhead : ¬(c :: tail) <+: d :: (front ++ rest) := fun hcopy =>
      hfront ((List.cons_prefix_cons.1 hcopy).1 ▸ List.mem_cons_self)
    rw [List.cons_append, occurrences_cons_of_not hhead, ih fun hc => hfront (List.mem_cons_of_mem _ hc), List.map_map,
      List.length_cons]
    refine List.map_congr_left fun place _ => ?_
    rw [Function.comp_apply]
    omega

/-- induction along the count: a text is empty, or starts with a copy, or starts with a character at which none stands -/
@[elab_as_elim]
theorem copies_induction {motive : Text → Prop} (hne : needle ≠ []) (nil : motive [])
    (copy : ∀ rest, motive rest → motive (needle ++ rest))
    (other : ∀ c rest, ¬needle <+: c :: rest → motive rest → motive (c :: rest)) (text : Text) : motive text := by
  induction h : text.length using Nat.strong_induction_on generalizing text with
  | _ n ih =>
    subst h
    cases text with
    | nil => exact nil
    | cons c rest =>
      by_cases hhead : needle <+: c :: rest
      · obtain ⟨behind, hbehind⟩ := hhead
        have hpos := List.length_pos_iff.2 hne
        have hlength := congrArg List.length hbehind
        rw [List.length_append] at hlength
        rw [← hbehind]
        exact copy behind (ih behind.length (by omega) behind rfl)
      · exact other c rest hhead (ih rest.length (Nat.lt_succ_self _) rest rfl)

/-! ## Counted copies -/

theorem StandsAt.cons {text : Text} {place : Nat} (c : Char) (h : StandsAt needle text place) :
    StandsAt needle (c :: text) (1 + place) := by
  obtain ⟨front, rest, rfl, rfl⟩ := h
  exact ⟨c :: front, rest, by simp, by simp [Nat.add_comm]⟩

theorem StandsAt.append {text : Text} {place : Nat} (before : Text) (h : StandsAt needle text place) :
    StandsAt needle (before ++ text) (before.length + place) := by
  obtain ⟨front, rest, rfl, rfl⟩ := h
  exact ⟨before ++ front, rest, by simp, by simp⟩

theorem standsAt_of_mem (hne : needle ≠ []) {text : Text} {place : Nat} (h : place ∈ occurrences needle text) :
    StandsAt needle text place := by
  induction text using copies_induction hne generalizing place with
  | nil => exact absurd h List.not_mem_nil
  | copy rest ih =>
    rw [occurrences_append hne] at h
    rcases List.mem_cons.1 h with rfl | h
    · exact ⟨[], rest, rfl, rfl⟩
    · obtain ⟨p, hp, rfl⟩ := List.mem_map.1 h
      exact (ih hp).append needle
  | other c rest hc ih =>
    rw [occurrences_cons_of_not hc] at h
    obtain ⟨p, hp, rfl⟩ := List.mem_map.1 h
    exact (ih hp).cons c

theorem pairwise_occurrences (hne : needle ≠ []) (text : Text) :
    (occurrences needle text).Pairwise fun p q => p + needle.length ≤ q := by
  have hshift (n : Nat) {places : List Nat} (h : places.Pairwise fun p q => p + needle.length ≤ q) :
      (places.map (n + ·)).Pairwise fun p q => p + needle.length ≤ q :=
    List.pairwise_map.2 (h.imp fun hpq => by omega)
  induction text using copies_induction hne with
  | nil => exact List.Pairwise.nil
  | copy rest ih =>
    rw [occurrences_append hne, List.pairwise_cons]
    refine ⟨?_, hshift _ ih⟩
    intro q hq
    obtain ⟨p, -, rfl⟩ := List.mem_map.1 hq
    omega
  | other c rest hc ih =>
    rw [occurrences_cons_of_not hc]
    exact hshift 1 ih

theorem occurrences_of_length_lt (hne : needle ≠ []) {text : Text} (h : text.length < needle.length) :
    occurrences needle text = [] := by
  apply List.eq_nil_iff_forall_not_mem.2
  intro place hplace
  obtain ⟨front, rest, rfl, -⟩ := standsAt_of_mem hne hplace
  simp only [List.length_append] at h
  omega

/-- **Where a copy stands**, the counted copies in front of it are those of the text in front, and the next counted copy
reaches over its place. -/
theorem occurrences_around (hne : needle ≠ []) (front rest : Text) :
    ∃ place later, occurrences needle (front ++ needle ++ rest) = occurrences needle front ++ place :: later ∧
      place ≤ front.length ∧ front.length < place + needle.length := by
  induction front using copies_induction hne with
  | nil => exact ⟨0, _, occurrences_append hne rest, Nat.le_refl 0, by simpa using List.length_pos_iff.2 hne⟩
  | copy front ih =>
    obtain ⟨place, later, hcopies, hle, hlt⟩ := ih
    refine ⟨needle.length + place, later.map (needle.length + ·), ?_, ?_, ?_⟩
    · rw [occurrences_append hne front, List.append_assoc, List.append_assoc, occurrences_append hne,
        ← List.append_assoc front, hcopies, List.map_append, List.map_cons, List.cons_append]
    · rw [List.length_append]
      omega
    · rw [List.length_append]
      omega
  | other c front hc ih =>
    by_cases hhead : needle <+: c :: (front ++ needle ++ rest)
    · -- the copy at the head reaches into the one at the place
      have hshort : (c :: front).length < needle.length := by
        by_contra hlong
        have hfront : c :: front <+: c :: (front ++ needle ++ rest) := ⟨needle ++ rest, by simp⟩
        exact hc (List.prefix_of_prefix_length_le hhead hfront (Nat.le_of_not_lt hlong))
      obtain ⟨behind, hbehind⟩ := hhead
      refine ⟨0, (occurrences needle behind).map (needle.length + ·), ?_, Nat.zero_le _, by omega⟩
      rw [occurrences_of_length_lt hne hshort, List.cons_append, List.cons_append, ← hbehind, occurrences_append hne,
        List.nil_append]
    · obtain ⟨place, later, hcopies, hle, hlt⟩ := ih
      refine ⟨1 + place, later.map (1 + ·), ?_, ?_, ?_⟩
      · rw [occurrences_cons_of_not hc, List.cons_append, List.cons_append, occurrences_cons_of_not hhead, hcopies,
          List.map_append, List.map_cons]
      · rw [List.length_cons]
        omega
      · rw [List.length_cons]
        omega

theorem StandsAt.exists_counted (hne : needle ≠ []) {text : Text} {place : Nat} (h : StandsAt needle text place) :
    ∃ p ∈ occurrences needle text, p ≤ place ∧ place < p + needle.length := by
  obtain ⟨front, rest, rfl, rfl⟩ := h
  obtain ⟨p, later, hcopies, hle, hlt⟩ := occurrences_around hne front rest
  exact ⟨p, hcopies ▸ List.mem_append_right _ List.mem_cons_self, hle, hlt⟩

/-! ## One way to count -/

/-- the places of the copies of a needle, counted from the left without overlap -/
structure Counted (needle text : Text) (places : List Nat) : Prop where
  stands : ∀ place ∈ places, StandsAt needle text place
  apart : places.Pairwise fun p q => p + needle.length ≤ q
  reached : ∀ place, StandsAt needle text place → ∃ p ∈ places, p ≤ place ∧ place < p + needle.length

theorem counted_occurrences (hne : needle ≠ []) (text : Text) : Counted needle text (occurrences needle text) where
  stands := fun _ hplace => standsAt_of_mem hne hplace
  apart := pairwise_occurrences hne text
  reached := fun _ hplace => hplace.exists_counted hne

namespace Counted

variable {text : Text} {places others : List Nat}

theorem sorted (h : Counted needle text places) (hne : needle ≠ []) : places.Pairwise (· < ·) := by
  have hpos := List.length_pos_iff.2 hne
  exact h.apart.imp fun hapart => by omega

theorem eq_or_apart (h : Counted needle text places) {p q : Nat} (hp : p ∈ places) (hq : q ∈ places) :
    p = q ∨ p + needle.length ≤ q ∨ q + needle.length ≤ p := by
  have hall : ∀ p ∈ places, ∀ q ∈ places, p = q ∨ p + needle.length ≤ q ∨ q + needle.length ≤ p := by
    apply List.Pairwise.forall_of_forall_of_flip
    · exact fun p _ => Or.inl rfl
    · exact h.apart.imp fun hapart => Or.inr (Or.inl hapart)
    · exact h.apart.imp fun hapart => Or.inr (Or.inr hapart)
  exact hall p hp q hq

theorem subset (h : Counted needle text places) (h' : Counted needle text others) : places ⊆ others := by
  intro place hplace
  -- by the copies in front: the copy that reaches over the place in the other count is counted in both
  induction place using Nat.strong_induction_on generalizing places others with
  | _ place ih =>
    obtain ⟨q, hq, hle, hlt⟩ := h'.reached place (h.stands place hplace)
    rcases Nat.eq_or_lt_of_le hle with rfl | hfront
    · exact hq
    · have hboth := ih q hfront h' h hq
      have := h.eq_or_apart hboth hplace
      omega

/-- **There is one way to count.** -/
theorem eq_occurrences (h : Counted needle text places) (hne : needle ≠ []) : places = occurrences needle text := by
  have hcounted := counted_occurrences hne text
  apply List.Pairwise.eq_of_mem_iff (h.sorted hne) (hcounted.sorted hne)
  intro place
  exact ⟨fun hplace => h.subset hcounted hplace, fun hplace => hcounted.subset h hplace⟩

end Counted

theorem eq_of_reach (hne : needle ≠ []) {text : Text} {p q place : Nat} (hp : p ∈ occurrences needle text)
    (hq : q ∈ occurrences needle text) (hple : p ≤ place) (hplt : place < p + needle.length) (hqle : q ≤ place)
    (hqlt : place < q + needle.length) : p = q := by
  have := (counted_occurrences hne text).eq_or_apart hp hq
  omega

theorem occurrences_eq_nil_iff (hne : needle ≠ []) {text : Text} : occurrences needle text = [] ↔ ¬needle <:+: text := by
  constructor
  · rintro hnil ⟨front, rest, htext⟩
    obtain ⟨place, later, hcopies, -⟩ := occurrences_around hne front rest
    rw [htext, hnil] at hcopies
    simp at hcopies
  · intro hnone
    apply List.eq_nil_iff_forall_not_mem.2
    intro place hplace
    obtain ⟨front, rest, htext, -⟩ := standsAt_of_mem hne hplace
    exact hnone ⟨front, rest, htext.symm⟩

/-- **In front of a counted copy** there are as many counted copies as its index says. -/
theorem length_occurrences_take (hne : needle ≠ []) {text : Text} {n place : Nat} (h : (occurrences needle text)[n]? = some place) :
    (occurrences needle (text.take place)).length = n := by
  have hmem := List.mem_of_getElem? h
  obtain ⟨front, rest, htext, hlength⟩ := standsAt_of_mem hne hmem
  obtain ⟨found, later, hcopies, hle, hlt⟩ := occurrences_around hne front rest
  rw [← htext] at hcopies
  have htake : text.take place = front := by
    rw [htext, ← hlength, List.append_assoc, List.take_left]
  have hpos := List.length_pos_iff.2 hne
  have hfound : found ∈ occurrences needle text := hcopies ▸ List.mem_append_right _ List.mem_cons_self
  obtain rfl : found = place := eq_of_reach hne hfound hmem hle hlt (by omega) (by omega)
  have hindex : (occurrences needle text)[(occurrences needle front).length]? = some found := by
    rw [hcopies, List.getElem?_append_right (Nat.le_refl _), Nat.sub_self]
    rfl
  have hnodup : (occurrences needle text).Nodup :=
    ((counted_occurrences hne text).sorted hne).imp fun hlt => Nat.ne_of_lt hlt
  rw [htake]
  obtain ⟨hn, -⟩ := List.getElem?_eq_some_iff.1 h
  exact ((List.getElem?_inj hn hnodup).1 (h.trans hindex.symm)).symm

/-! ## Pairing -/

/-- **Places that go to others in order** go to all of them when they are as many, the first to the first and so on. -/
theorem forall₂_of_apart {apart : Nat → Nat → Prop} {goes : Nat → Nat → Prop} {qs ps : List Nat}
    (hqs : qs.Pairwise apart) (hps : ps.Pairwise (· < ·)) (hex : ∀ q ∈ qs, ∃ p ∈ ps, goes q p)
    (horder : ∀ q q' p p', apart q q' → goes q p → goes q' p' → p < p') (hlength : qs.length = ps.length) :
    List.Forall₂ goes qs ps := by
  choose! f hmem hgoes using hex
  have hsorted : (qs.map f).Pairwise (· < ·) :=
    List.pairwise_map.2 (hqs.imp_of_mem fun hq hq' hapart => horder _ _ _ _ hapart (hgoes _ hq) (hgoes _ hq'))
  have hsubset : qs.map f ⊆ ps := by
    intro p hp
    obtain ⟨q, hq, rfl⟩ := List.mem_map.1 hp
    exact hmem q hq
  have hsub : (qs.map f).Sublist ps := by
    refine List.sublist_of_subperm_of_pairwise (List.subperm_of_subset ?_ hsubset) hsorted hps
    exact hsorted.imp fun hlt => Nat.ne_of_lt hlt
  rw [← hsub.eq_of_length (by rw [List.length_map, hlength]), List.forall₂_map_right_iff]
  exact List.forall₂_same.2 hgoes

/-- the partner of a member of the first list stands in the second list at its place -/
theorem exists_partner {related : Nat → Nat → Prop} {left later places : List Nat} {q : Nat}
    (h : List.Forall₂ related (left ++ q :: later) places) :
    ∃ p, places[left.length]? = some p ∧ related q p := by
  have hlt : left.length < (left ++ q :: later).length := by
    rw [List.length_append, List.length_cons]
    omega
  have hlt' : left.length < places.length := h.length_eq ▸ hlt
  refine ⟨places[left.length], List.getElem?_eq_getElem hlt', ?_⟩
  simpa using h.get hlt hlt'

end SourceMark.Text
