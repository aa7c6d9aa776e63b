/-
The tags of a scan in the text. A scan yields tags in the order in which they stand, and no two of them overlap.

Results:
- `scanFrom_skip`: the rest of a stretch is skipped as a whole.
- `Placed.eq_of_endOf`: the bracket that ends a tag lies in no other tag.
- `scan_placed`: the tags of a scan stand in the text, one behind the other.
- `tagAt?_of_mem_scan`: each tag of a scan is what is read where it stands.
-/
import Mathlib.Data.List.Basic
import SourceMark.Proofs.Marker.Weave

namespace SourceMark

/-- the tags stand in the text in this order, without overlap; the text starts at `offset` -/
def Placed : (offset : Nat) → (text : Text) → List Tag → Prop
  | _, _, [] => True
  | offset, text, t :: tags =>
    ∃ front rest, text = front ++ t.text ++ rest ∧ t.start = offset + front.length ∧ Placed t.stop rest tags

theorem Tag.start_lt_stop (t : Tag) : t.start < t.stop := by
  rw [stop, t.text_eq_inner, List.length_append]
  simp

namespace Placed

variable {offset : Nat} {text : Text} {tags : List Tag}

theorem append {front : Text} (h : Placed (offset + front.length) text tags) : Placed offset (front ++ text) tags := by
  cases tags with
  | nil => trivial
  | cons t tags =>
    obtain ⟨front', rest, rfl, hstart, hrest⟩ := h
    exact ⟨front ++ front', rest, by simp, by rw [hstart, List.length_append]; omega, hrest⟩

theorem skip {front rest : Text} {t : Tag} (hstart : t.start = offset + front.length) (h : Placed t.stop rest tags) :
    Placed offset (front ++ t.text ++ rest) tags := by
  apply append
  rw [List.length_append, ← Nat.add_assoc, ← hstart]
  exact h

theorem eq_nil (h : Placed offset [] tags) : tags = [] := by
  cases tags with
  | nil => rfl
  | cons t tags =>
    obtain ⟨front, rest, htext, -⟩ := h
    simp [Tag.text] at htext

theorem of_mem (h : Placed offset text tags) {t : Tag} (ht : t ∈ tags) :
    ∃ front rest, text = front ++ t.text ++ rest ∧ t.start = offset + front.length := by
  induction tags generalizing offset text with
  | nil => exact absurd ht List.not_mem_nil
  | cons head tags ih =>
    obtain ⟨front, rest, rfl, hstart, hrest⟩ := h
    rcases List.mem_cons.1 ht with rfl | ht
    · exact ⟨front, rest, rfl, hstart⟩
    · obtain ⟨front', rest', rfl, hstart'⟩ := ih hrest ht
      refine ⟨front ++ head.text ++ front', rest', by simp, ?_⟩
      rw [hstart', Tag.stop, hstart, List.length_append, List.length_append]
      omega

theorem sublist {tags' : List Tag} (h : Placed offset text tags) (hsub : tags'.Sublist tags) :
    Placed offset text tags' := by
  induction hsub generalizing offset text with
  | slnil => trivial
  | cons t hsub ih =>
    obtain ⟨front, rest, rfl, hstart, hrest⟩ := h
    exact ih (skip hstart hrest)
  | cons_cons t hsub ih =>
    obtain ⟨front, rest, htext, hstart, hrest⟩ := h
    exact ⟨front, rest, htext, hstart, ih hrest⟩

theorem pairwise (h : Placed offset text tags) : tags.Pairwise fun t u => t.stop ≤ u.start := by
  induction tags generalizing offset text with
  | nil => exact .nil
  | cons t tags ih =>
    obtain ⟨-, rest, -, -, hrest⟩ := h
    refine .cons (fun u hu => ?_) (ih hrest)
    obtain ⟨front, -, -, hstart⟩ := hrest.of_mem hu
    omega

end Placed

/-! ## The text around a tag -/

section Around

variable {offset : Nat} {text front rest : Text} {t : Tag} (htext : text = front ++ t.text ++ rest)
  (hstart : t.start = offset + front.length)

include htext hstart

theorem take_start : text.take (t.start - offset) = front := by
  rw [hstart, Nat.add_sub_cancel_left, htext, List.append_assoc, List.take_left]

theorem take_stop : text.take (t.stop - offset) = front ++ t.text := by
  have hlen : t.stop - offset = (front ++ t.text).length := by
    rw [Tag.stop, hstart, List.length_append]
    omega
  rw [hlen, htext, List.take_left]

theorem drop_stop : text.drop (t.stop - offset) = rest := by
  have hsplit := List.take_append_drop (t.stop - offset) text
  rw [take_stop htext hstart] at hsplit
  exact List.append_cancel_left (hsplit.trans htext)

end Around

/-! ## Brackets that end tags -/

/-- the number of the bracket that ends a tag of a text; the text starts at `offset` -/
def endOf (offset : Nat) (text : Text) (t : Tag) : Nat :=
  brackets (text.take (t.stop - 1 - offset))

theorem endOf_eq {offset : Nat} {text front rest : Text} {t : Tag} (htext : text = front ++ t.text ++ rest)
    (hstart : t.start = offset + front.length) : endOf offset text t = brackets front + brackets t.inner := by
  have hlen : t.stop - 1 - offset = (front ++ t.inner).length := by
    rw [Tag.stop, hstart, t.text_eq_inner]
    simp only [List.length_append, List.length_cons, List.length_nil]
    omega
  rw [endOf, hlen, htext, t.text_eq_inner, ← List.append_assoc, List.append_assoc (front ++ t.inner), List.take_left,
    brackets_append]

/-- the bracket that ends a later tag, counted from behind the first one -/
theorem Placed.endOf_behind {offset : Nat} {text front rest : Text} {t u : Tag} {tags : List Tag}
    (htext : text = front ++ t.text ++ rest) (hstart : t.start = offset + front.length) (h : Placed t.stop rest tags)
    (hu : u ∈ tags) : endOf offset text u = brackets front + brackets t.inner + 1 + endOf t.stop rest u := by
  obtain ⟨front', rest', hrest, hstart'⟩ := h.of_mem hu
  have htext' : text = (front ++ t.text ++ front') ++ u.text ++ rest' := by
    rw [htext, hrest]
    simp
  have hstart'' : u.start = offset + (front ++ t.text ++ front').length := by
    rw [hstart', Tag.stop, hstart, List.length_append, List.length_append]
    omega
  rw [endOf_eq htext' hstart'', endOf_eq hrest hstart', t.text_eq_inner]
  simp only [brackets_append, brackets_cons_bracket, brackets_nil]
  omega

theorem brackets_take_mono (text : Text) {m n : Nat} (h : m ≤ n) : brackets (text.take m) ≤ brackets (text.take n) := by
  have : text.take m = (text.take n).take m := by rw [List.take_take, Nat.min_eq_left h]
  rw [this]
  exact (List.take_sublist m (text.take n)).count_le '>'

namespace Placed

variable {text : Text} {tags : List Tag} {t u : Tag}

theorem brackets_stop (h : Placed 0 text tags) (ht : t ∈ tags) :
    brackets (text.take t.start) ≤ endOf 0 text t ∧ brackets (text.take t.stop) = endOf 0 text t + 1 := by
  obtain ⟨front, rest, htext, hstart⟩ := h.of_mem ht
  have hfront : text.take t.start = front := take_start htext hstart
  have hstop : text.take t.stop = front ++ t.text := take_stop htext hstart
  rw [endOf_eq htext hstart, hfront, hstop, t.text_eq_inner]
  simp only [brackets_append, brackets_cons_bracket, brackets_nil]
  omega

theorem endOf_lt (h : Placed 0 text tags) (ht : t ∈ tags) (hu : u ∈ tags) (htu : t.stop ≤ u.start) :
    endOf 0 text t < endOf 0 text u := by
  obtain ⟨-, htstop⟩ := h.brackets_stop ht
  obtain ⟨hustart, -⟩ := h.brackets_stop hu
  have := brackets_take_mono text htu
  omega

theorem apart {offset : Nat} (h : Placed offset text tags) (ht : t ∈ tags) (hu : u ∈ tags) :
    t = u ∨ t.stop ≤ u.start ∨ u.stop ≤ t.start := by
  induction tags generalizing offset text with
  | nil => exact absurd ht List.not_mem_nil
  | cons head tags ih =>
    obtain ⟨front, rest, -, -, hrest⟩ := h
    rcases List.mem_cons.1 ht with rfl | ht' <;> rcases List.mem_cons.1 hu with rfl | hu'
    · exact Or.inl rfl
    · obtain ⟨front', -, -, hstart⟩ := hrest.of_mem hu'
      exact Or.inr (Or.inl (by omega))
    · obtain ⟨front', -, -, hstart⟩ := hrest.of_mem ht'
      exact Or.inr (Or.inr (by omega))
    · exact ih hrest ht' hu'

/-- **No tag ends inside another**: a bracket that ends a tag lies in no other tag. -/
theorem eq_of_endOf (h : Placed 0 text tags) (ht : t ∈ tags) (hu : u ∈ tags)
    (hlow : brackets (text.take t.start) ≤ endOf 0 text u) (hhigh : endOf 0 text u ≤ endOf 0 text t) : t = u := by
  obtain ⟨htstart, htstop⟩ := h.brackets_stop ht
  obtain ⟨hustart, hustop⟩ := h.brackets_stop hu
  rcases h.apart ht hu with h | h | h
  · exact h
  · have := brackets_take_mono text h
    omega
  · have := brackets_take_mono text h
    omega

end Placed

namespace Scanner

variable {sc : Scanner}

theorem scanFrom_skip (sc : Scanner) (skip : Nat) (before : Option Char) (offset : Nat) (text : Text) :
    sc.scanFrom skip before offset text =
      sc.scanFrom 0 ((text.take skip).getLast?.or before) (offset + skip) (text.drop skip) := by
  induction text generalizing skip before offset with
  | nil => cases skip <;> rfl
  | cons c rest ih =>
    cases skip with
    | zero => rfl
    | succ skip =>
      rw [scanFrom, ih, List.drop_succ_cons, List.take_succ_cons, Nat.add_assoc, Nat.add_comm 1 skip,
        List.getLast?_cons, Option.or_some]
      rfl

theorem scanFrom_stretch {n : Nat} {c : Char} {rest u r : Text} (hu : c :: rest = u ++ r) (hr : r = (c :: rest).drop n)
    (hne : u ≠ []) (offset : Nat) :
    sc.scanFrom (n - 1) (some c) (offset + 1) rest = sc.scanFrom 0 u.getLast? (offset + u.length) r := by
  obtain ⟨n, rfl⟩ : ∃ m, n = m + 1 := by
    cases n with
    | zero =>
      rw [List.drop_zero] at hr
      rw [← hr] at hu
      exact absurd (List.self_eq_append_left.1 hu) hne
    | succ n => exact ⟨n, rfl⟩
  have htake : (c :: rest).take (n + 1) = u :=
    List.append_cancel_right ((List.take_append_drop (n + 1) (c :: rest)).trans (hr ▸ hu))
  rw [Nat.add_sub_cancel, scanFrom_skip, hr, List.drop_succ_cons]
  by_cases hnil : rest.drop n = []
  · rw [hnil]; rfl
  have hlast : (rest.take n).getLast?.or (some c) = u.getLast? := by
    rw [← htake, List.take_succ_cons, List.getLast?_cons, Option.or_some]
  have hlen : u.length = n + 1 := by
    rw [← htake, List.length_take]
    have := List.length_pos_iff.2 hnil
    rw [List.length_drop] at this
    simp only [List.length_cons]
    omega
  rw [hlast, hlen, Nat.add_assoc, Nat.add_comm 1 n]

theorem tagAt?_of_read {before : Option Char} {offset : Nat} {text : Text} {t : Tag}
    (h : sc.read before offset text = .tag t) : sc.tagAt? offset text = some (.tag t) := by
  unfold read at h
  split at h
  · simp at h
  · split at h
    · simp at h
    · cases htag : sc.tagAt? offset text with
      | none => rw [htag] at h; simp at h
      | some reading => rw [htag, Option.getD_some] at h; rw [h]

/-- what holds of the tags behind the first character or behind a stretch holds of the tags from its start on -/
theorem placed_behind {offset n : Nat} {c : Char} {rest : Text} {tags : List Tag}
    (h : Placed (offset + 1 + n) (rest.drop n) tags) : Placed offset (c :: rest) tags := by
  by_cases hn : n ≤ rest.length
  · have hlen : (c :: rest.take n).length = n + 1 := by
      rw [List.length_cons, List.length_take]
      omega
    have hbehind : Placed (offset + (c :: rest.take n).length) (rest.drop n) tags := by
      rwa [hlen, Nat.add_comm n, ← Nat.add_assoc]
    have := hbehind.append
    rwa [List.cons_append, List.take_append_drop] at this
  · rw [List.drop_eq_nil_of_le (by omega)] at h
    rw [h.eq_nil]
    trivial

theorem scanFrom_placed (skip : Nat) (before : Option Char) (offset : Nat) (text : Text) :
    Placed (offset + skip) (text.drop skip) (sc.scanFrom skip before offset text) := by
  induction text generalizing skip before offset with
  | nil => cases skip <;> trivial
  | cons c rest ih =>
    cases skip with
    | succ skip =>
      have := ih skip (some c) (offset + 1)
      rwa [scanFrom, List.drop_succ_cons, Nat.add_comm skip, ← Nat.add_assoc]
    | zero =>
      rw [scanFrom, List.drop_zero, Nat.add_zero]
      split
      · exact placed_behind (ih 0 (some c) (offset + 1))
      · exact placed_behind (ih _ (some c) (offset + 1))
      · next t hread =>
        obtain ⟨hstart, after, hafter⟩ := text_eq_of_tagAt? (tagAt?_of_read hread)
        refine ⟨[], after, hafter.symm, hstart, ?_⟩
        have hlen : t.text.length = t.text.length - 1 + 1 := by simp [Tag.text]
        have hplaced := ih (t.text.length - 1) (some c) (offset + 1)
        have hdrop : rest.drop (t.text.length - 1) = after := by
          rw [← List.drop_succ_cons, ← hlen, ← hafter, List.drop_left]
        rw [hdrop] at hplaced
        have hstop : t.stop = offset + 1 + (t.text.length - 1) := by
          rw [Tag.stop, hstart]
          omega
        rw [hstop]
        exact hplaced

/-- **The tags of a scan stand in the text**, one behind the other. -/
theorem scan_placed (sc : Scanner) (text : Text) : Placed 0 text (sc.scan text) :=
  scanFrom_placed 0 none 0 text

theorem tagAt?_of_mem_scanFrom {skip : Nat} {before : Option Char} {offset : Nat} {text : Text} {t : Tag}
    (h : t ∈ sc.scanFrom skip before offset text) :
    ∃ n, t.start = offset + n ∧ sc.tagAt? t.start (text.drop n) = some (.tag t) := by
  induction text generalizing skip before offset with
  | nil => cases skip <;> exact absurd h List.not_mem_nil
  | cons c rest ih =>
    have behind {skip : Nat} (h : t ∈ sc.scanFrom skip (some c) (offset + 1) rest) :
        ∃ n, t.start = offset + n ∧ sc.tagAt? t.start ((c :: rest).drop n) = some (.tag t) := by
      obtain ⟨n, hstart, htag⟩ := ih h
      exact ⟨n + 1, by omega, htag⟩
    cases skip with
    | succ skip => exact behind h
    | zero =>
      rw [scanFrom] at h
      split at h
      · exact behind h
      · exact behind h
      · next t' hread =>
        rcases List.mem_cons.1 h with rfl | h
        · have htag := tagAt?_of_read hread
          obtain ⟨hstart, -⟩ := text_eq_of_tagAt? htag
          exact ⟨0, hstart, by rw [hstart]; exact htag⟩
        · exact behind h

/-- **Each tag of a scan is what is read where it stands.** -/
theorem tagAt?_of_mem_scan {text : Text} {t : Tag} (h : t ∈ sc.scan text) :
    sc.tagAt? t.start (text.drop t.start) = some (.tag t) := by
  obtain ⟨n, hstart, htag⟩ := tagAt?_of_mem_scanFrom h
  rw [Nat.zero_add] at hstart
  rwa [← hstart] at htag

end Scanner

end SourceMark
