/-
Pieces of a text. A head is dropped just when the text begins with it. Splitting and joining undo each other, and together
they replace one separator by another.

Results:
- `dropHead?_eq_some_iff`: what stands behind a head.
- `splitOn_append`, `length_splitOn`: where pieces end, and how many there are.
- `splitOn_join`: pieces without the separator are got back from their text.
- `join_splitOn_map`: splitting at one character and joining with another replaces the one by the other.
-/
import Mathlib.Data.List.Basic
import SourceMark.Text.Basic

namespace SourceMark.Text

theorem endsWith_singleton (c : Char) (text : Text) : endsWith [c] text = true ↔ text.getLast? = some c := by
  rw [List.getLast?_eq_head?_reverse]
  cases h : text.reverse with
  | nil => simp [endsWith, h]
  | cons d rest =>
    simp only [endsWith, h, List.reverse_singleton, List.isPrefixOf, Bool.and_true, beq_iff_eq, List.head?_cons,
      Option.some.injEq]
    exact eq_comm

theorem dropHead?_eq_some_iff {pattern text rest : Text} :
    dropHead? pattern text = some rest ↔ text = pattern ++ rest := by
  unfold dropHead?
  induction pattern generalizing text with
  | nil => simp [dropHeadBy?]
  | cons p pattern ih =>
    cases text with
    | nil => simp [dropHeadBy?]
    | cons c text =>
      rw [dropHeadBy?]
      by_cases hc : p = c
      · simp [hc, ih]
      · simp [hc, Ne.symm hc]

/-- a separator begins a piece, and any other character joins the first piece of what follows -/
theorem exists_splitOn_cons (separator c : Char) (rest : Text) :
    ∃ first pieces, splitOn separator rest = first :: pieces ∧
      splitOn separator (c :: rest) = if c = separator then [] :: first :: pieces else (c :: first) :: pieces := by
  obtain ⟨first, pieces, hpieces⟩ := List.exists_cons_of_ne_nil (splitOn_ne_nil separator rest)
  exact ⟨first, pieces, hpieces, by rw [splitOn, hpieces]⟩

theorem splitOn_eq (separator : Char) (text : Text) : splitOn separator text = List.splitOn separator text := by
  induction text with
  | nil => rfl
  | cons c rest ih =>
    obtain ⟨first, pieces, hpieces, hcons⟩ := exists_splitOn_cons separator c rest
    rw [hcons, List.splitOn_cons_eq_if_modifyHead, ← ih, hpieces]
    simp

theorem join_snoc (separator : Text) (front : List Text) (last : Text) :
    join separator (front ++ [last]) = front.flatMap (· ++ separator) ++ last := by
  induction front with
  | nil => simp [join]
  | cons piece front ih =>
    have hrest : separator.intercalate (front ++ [last]) = front.flatMap (· ++ separator) ++ last := ih
    rw [join, List.cons_append, List.intercalate_cons_of_ne_nil (by simp), hrest]
    simp

theorem splitOn_join {separator : Char} {pieces : List Text} (h : ∀ piece ∈ pieces, separator ∉ piece)
    (hne : pieces ≠ []) : splitOn separator (join [separator] pieces) = pieces := by
  rw [splitOn_eq]
  exact List.splitOn_intercalate separator h hne

theorem splitOn_append (separator : Char) (front back : Text) :
    splitOn separator (front ++ separator :: back) = splitOn separator front ++ splitOn separator back := by
  rw [splitOn_eq, splitOn_eq, splitOn_eq, List.splitOn_append_cons_self]

theorem splitOn_of_notMem {separator : Char} {text : Text} (h : separator ∉ text) : splitOn separator text = [text] := by
  rw [splitOn_eq]
  exact List.splitOn_eq_singleton h

theorem length_splitOn (separator : Char) (text : Text) :
    (splitOn separator text).length = text.count separator + 1 := by
  induction text with
  | nil => rfl
  | cons c rest ih =>
    obtain ⟨first, pieces, hpieces, hcons⟩ := exists_splitOn_cons separator c rest
    rw [hpieces] at ih
    rw [hcons]
    split_ifs with hc
    · rw [hc, List.count_cons_self, List.length_cons, ih]
    · rw [List.count_cons_of_ne hc, ← ih]
      rfl

theorem not_mem_of_mem_splitOn {separator : Char} {text piece : Text} (h : piece ∈ splitOn separator text) :
    separator ∉ piece := by
  induction text generalizing piece with
  | nil => simp_all [splitOn]
  | cons c rest ih =>
    obtain ⟨first, pieces, hpieces, hcons⟩ := exists_splitOn_cons separator c rest
    rw [hcons] at h
    split_ifs at h with hc
    · rcases List.mem_cons.1 h with rfl | h
      · simp
      · exact ih (hpieces ▸ h)
    · rcases List.mem_cons.1 h with rfl | h
      · have hfirst := ih (hpieces ▸ List.mem_cons_self)
        simp only [List.mem_cons, not_or]
        exact ⟨fun hc' => hc hc'.symm, hfirst⟩
      · exact ih (hpieces ▸ List.mem_cons_of_mem first h)

/-- the characters of a text but the separators are those of its pieces -/
theorem mem_iff_exists_splitOn {separator c : Char} (hc : c ≠ separator) {text : Text} :
    c ∈ text ↔ ∃ piece ∈ splitOn separator text, c ∈ piece := by
  induction text with
  | nil => simp [splitOn]
  | cons d rest ih =>
    obtain ⟨first, pieces, hpieces, hcons⟩ := exists_splitOn_cons separator d rest
    rw [hpieces] at ih
    rw [hcons]
    split_ifs with hd
    · simp [ih, hd, hc]
    · simp [ih, or_assoc]

/-- **Splitting at one character and joining with another** replaces the one by the other. -/
theorem join_splitOn_map (old new : Char) (text : Text) :
    join [new] (splitOn old text) = text.map fun c => if c = old then new else c := by
  induction text with
  | nil => rfl
  | cons c rest ih =>
    obtain ⟨first, pieces, hpieces, hcons⟩ := exists_splitOn_cons old c rest
    rw [hcons, List.map_cons, ← ih, hpieces]
    split_ifs with hc
    · simp [join, List.intercalate]
    · cases pieces <;> simp [join, List.intercalate]

/-- the pieces of a text stay when its separators are replaced by a character that the text does not hold -/
theorem splitOn_map {old new : Char} {text : Text} (h : new ∉ text) :
    splitOn new (text.map fun c => if c = old then new else c) = splitOn old text := by
  rw [← join_splitOn_map]
  refine splitOn_join (fun piece hpiece hnew => ?_) (splitOn_ne_nil old text)
  by_cases hc : new = old
  · exact not_mem_of_mem_splitOn hpiece (hc ▸ hnew)
  · exact h ((mem_iff_exists_splitOn hc).2 ⟨piece, hpiece, hnew⟩)

end SourceMark.Text
