/-
Escapes in a quoted span, read forward. The end of a span is looked for by going from quote to quote, and a quote ends the
span when an even run of backslashes stands right before it. Read forward, a backslash makes the character behind it
literal, and the first quote that is not literal ends the span. Both come to the same place. The run before a quote begins
at the start of the span or behind a character that is no backslash, and there nothing is literal; from then on every
second backslash is.

Results:
- `length?_eq_lengthForward?`: counting backwards and reading forward come to the same length.
- `lengthForward?_eq_some_iff`, `lengthForward?_eq_none_iff`: reading forward comes to the first quote that is not literal.
- `spanEnd_forward`: the search from quote to quote ends, and it ends there.
Witness:
- `spanEnd_forward_runs`: runs of backslashes of both parities, and a span that is never closed.
-/
import SourceMark.Proofs.Checked.Walk
import SourceMark.Proofs.Text.Runs

namespace SourceMark

namespace Quote

/-! ## Reading forward -/

/-- whether the character behind a text is literal, when the text is read forward: a backslash that is not literal itself
makes the next character literal. `literal` says whether the first character is. -/
def leavesLiteral : (literal : Bool) → Text → Bool
  | literal, [] => literal
  | literal, c :: rest => leavesLiteral (!literal && c == '\\') rest

/-- how many characters of the text belong to a span that is read forward, its closing quote included; `literal` says
whether the first character is literal -/
def lengthForward? (quote : Char) : (literal : Bool) → Text → Option Nat
  | _, [] => none
  | literal, c :: rest =>
    if !literal && c == quote then some 1
    else (lengthForward? quote (!literal && c == '\\') rest).map (· + 1)

/-- a backslash turns an even run into an odd one, and any other character ends the run -/
theorem unescaped_cons (c : Char) (before : Text) : unescaped (c :: before) = !(unescaped before && c == '\\') := by
  by_cases hc : c = '\\'
  · have hrun : ((c :: before).takeWhile (· == '\\')).length = (before.takeWhile (· == '\\')).length + 1 := by
      rw [List.takeWhile_cons_of_pos (by simp [hc]), List.length_cons]
    rw [unescaped, unescaped, hrun, hc, beq_self_eq_true, Bool.and_true]
    rcases Nat.mod_two_eq_zero_or_one (before.takeWhile (· == '\\')).length with hmod | hmod
    · simp [Nat.add_mod, hmod]
    · simp [Nat.add_mod, hmod]
  · have hrun : (c :: before).takeWhile (· == '\\') = [] := List.takeWhile_cons_of_neg (by simpa using hc)
    rw [unescaped, hrun, beq_eq_false_iff_ne.2 hc, Bool.and_false]
    rfl

/-- **Counting backwards and reading forward come to the same length**: a character is literal just when an odd run of
backslashes stands right before it. -/
theorem length?_eq_lengthForward? (quote : Char) (before text : Text) :
    length? true quote before text = lengthForward? quote (!unescaped before) text := by
  induction text generalizing before with
  | nil => rfl
  | cons c rest ih =>
    have hend : (decide (c = quote) && (!true || unescaped before)) = (!!unescaped before && c == quote) := by
      rw [Bool.not_true, Bool.false_or, Bool.not_not, Bool.and_comm]
      rfl
    have hnext : (!unescaped (c :: before)) = (!!unescaped before && c == '\\') := by
      rw [unescaped_cons, Bool.not_not, Bool.not_not]
    rw [length?, lengthForward?, hend, ih, hnext]

/-! ## The first quote that is not literal -/

def EndsAt (quote : Char) (literal : Bool) (text : Text) (place : Nat) : Prop :=
  text[place]? = some quote ∧ leavesLiteral literal (text.take place) = false

variable {quote c : Char} {literal : Bool} {text rest : Text}

theorem endsAt_zero : EndsAt quote literal (c :: rest) 0 ↔ (!literal && c == quote) = true := by
  simp [EndsAt, leavesLiteral, and_comm]

theorem endsAt_succ {place : Nat} :
    EndsAt quote literal (c :: rest) (place + 1) ↔ EndsAt quote (!literal && c == '\\') rest place :=
  Iff.rfl

/-- **Reading forward comes to the first quote that is not literal.** -/
theorem lengthForward?_eq_some_iff {n : Nat} : lengthForward? quote literal text = some n ↔
    ∃ place, n = place + 1 ∧ Minimal (EndsAt quote literal text) place := by
  induction text generalizing literal n with
  | nil => simp [lengthForward?, Minimal, EndsAt]
  | cons c rest ih =>
    rw [lengthForward?]
    split_ifs with hend
    · simp only [Text.minimal_zero (endsAt_zero.2 hend), exists_eq_right, Option.some.injEq]
      exact eq_comm
    · simp only [Text.minimal_succ fun h => hend (endsAt_zero.1 h), endsAt_succ, Option.map_eq_some_iff, ih]
      constructor
      · rintro ⟨_, ⟨place, rfl, hplace⟩, rfl⟩
        exact ⟨place + 1, rfl, place, rfl, hplace⟩
      · rintro ⟨_, rfl, place, rfl, hplace⟩
        exact ⟨place + 1, ⟨place, rfl, hplace⟩, rfl⟩

/-- reading forward comes to nothing just when every such quote is literal -/
theorem lengthForward?_eq_none_iff :
    lengthForward? quote literal text = none ↔ ∀ place, ¬EndsAt quote literal text place := by
  rw [Option.eq_none_iff_forall_ne_some]
  constructor
  · intro hnone place hplace
    obtain ⟨first, hfirst⟩ := Text.exists_first hplace
    exact hnone _ (lengthForward?_eq_some_iff.2 ⟨first, rfl, hfirst⟩)
  · intro hnone n hn
    obtain ⟨place, -, hplace⟩ := lengthForward?_eq_some_iff.1 hn
    exact hnone place hplace.prop

end Quote

namespace Checked

/-- behind a position where a span opens, a place where its quote stands and is not literal -/
structure ClosesAt (text : Text) (position : Nat) (quote : Char) (place : Nat) : Prop where
  behind : position < place
  stands : text[place]? = some quote
  notLiteral : Quote.leavesLiteral false (slice text (position + 1) place) = false

variable {text : Text} {position : Nat} {quote : Char}

theorem closesAt_add {k : Nat} : ClosesAt text position quote (k + (position + 1)) ↔
    Quote.EndsAt quote false (text.drop (position + 1)) k := by
  have hslice : slice text (position + 1) (k + (position + 1)) = (text.drop (position + 1)).take k := by
    rw [slice, Nat.add_sub_cancel]
  have hstands : text[k + (position + 1)]? = (text.drop (position + 1))[k]? := by
    rw [List.getElem?_drop, Nat.add_comm]
  rw [Quote.EndsAt, ← hslice, ← hstands]
  constructor
  · exact fun h => ⟨h.stands, h.notLiteral⟩
  · exact fun h => ⟨by omega, h.1, h.2⟩

theorem minimal_closesAt_iff {place : Nat} : Minimal (ClosesAt text position quote) place ↔
    ∃ k, place = k + (position + 1) ∧ Minimal (Quote.EndsAt quote false (text.drop (position + 1))) k := by
  have hbehind : ∀ place < position + 1, ¬ClosesAt text position quote place :=
    fun place hlt hcloses => Nat.not_lt.2 hcloses.behind hlt
  simp only [Text.minimal_add hbehind, closesAt_add]

/-- **Counting backslashes backwards is reading forward.** At a quote, the search that goes from quote to quote and counts
the backslashes right before each always ends. It comes to where the text is read character by character, a backslash
making the next character literal: behind the first quote of the same kind that is not literal, or to nothing when there
is none. -/
theorem spanEnd_forward (hopens : text[position]? = some quote) :
    spanEnd true text position =
      .ok ((Quote.lengthForward? quote false (text.drop (position + 1))).map (position + 1 + ·)) ∧
    Quote.length? true quote [] (text.drop (position + 1)) =
      Quote.lengthForward? quote false (text.drop (position + 1)) ∧
    (∀ stop, spanEnd true text position = .ok (some stop) ↔
      ∃ place, stop = place + 1 ∧ Minimal (ClosesAt text position quote) place) ∧
    (spanEnd true text position = .ok none ↔ ∀ place, ¬ClosesAt text position quote place) := by
  have hdrop : text.drop position = quote :: text.drop (position + 1) := by
    obtain ⟨hlt, hget⟩ := List.getElem?_eq_some_iff.1 hopens
    rw [← hget]
    exact List.drop_eq_getElem_cons hlt
  have hforward : Quote.length? true quote [] (text.drop (position + 1)) =
      Quote.lengthForward? quote false (text.drop (position + 1)) := Quote.length?_eq_lengthForward? quote [] _
  have hend := spanEnd_eq true hdrop
  rw [hforward] at hend
  refine ⟨hend, hforward, fun stop => ?_, ?_⟩
  · simp only [hend, Except.ok.injEq, Option.map_eq_some_iff, Quote.lengthForward?_eq_some_iff, minimal_closesAt_iff]
    constructor
    · rintro ⟨_, ⟨k, rfl, hk⟩, rfl⟩
      exact ⟨k + (position + 1), by omega, k, rfl, hk⟩
    · rintro ⟨_, rfl, k, rfl, hk⟩
      exact ⟨k + 1, ⟨k, rfl, hk⟩, by omega⟩
  · simp only [hend, Except.ok.injEq, Option.map_eq_none_iff, Quote.lengthForward?_eq_none_iff, ← closesAt_add]
    constructor
    · intro hnone place hcloses
      obtain ⟨k, rfl⟩ := Nat.exists_eq_add_of_le' hcloses.behind
      exact hnone k hcloses
    · intro hnone k
      exact hnone (k + (position + 1))

/-- a quote behind one backslash is passed, one behind two of them ends the span, and the span that opens there is never
closed: its only quote stands behind three -/
theorem spanEnd_forward_runs :
    let text := ['(', '"', 'a', '\\', '"', '\\', '\\', '"', '\\', '\\', '\\', '"', ')']
    text[1]? = some '"' ∧ text[7]? = some '"' ∧ spanEnd true text 1 = .ok (some 8) ∧ spanEnd true text 7 = .ok none := by
  intro text
  have hfirst : text[1]? = some '"' := rfl
  have hsecond : text[7]? = some '"' := rfl
  refine ⟨hfirst, hsecond, ?_, ?_⟩
  · rw [(spanEnd_forward hfirst).1]
    rfl
  · rw [(spanEnd_forward hsecond).1]
    rfl

end Checked

end SourceMark
