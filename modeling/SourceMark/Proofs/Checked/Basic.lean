/-
Runs that say where they fail. An operation that is not defined everywhere gives a fault where it is not: a character
behind the end of a text, the innermost region when none is open, the least of no lines. A loop is the repetition of a
round, and a round that does not move on is a fault as well. A run that gives a result has met none of them.

Results:
- `charAt_of_drop`: inside a text there is a character.
- `findFrom?_char`: a character is found where it stands first.
- `iterate_eq`: a loop gives what each of its rounds keeps, when every round moves on.
-/
import Mathlib.Data.List.Basic
import SourceMark.Reference

namespace SourceMark.Checked

inductive Fault where
  /-- a character is asked for where there is none -/
  | outOfRange (length position : Nat)
  /-- the innermost open region is asked for when none is open -/
  | noOpenRegion
  /-- a region is asked for by an opener that no region has -/
  | unknownOpener (opener : Text)
  /-- a round of a loop does not move on -/
  | stuck (position : Nat)
  /-- a line is asked for by an index that no line has -/
  | noLine (index : Nat)
  /-- the line nearest to another one is asked for among none -/
  | noLines
  /-- the last slash of a text without one is asked for -/
  | noSlash (text : Text)
  | invalidReference (errors : List FieldError)
  | unknownLanguage (name : Text)
  /-- a scanner is asked for that has no name to look for -/
  | noNames
  | emptyTemplateId

theorem ok_bind {α β : Type} (a : α) (next : α → Except Fault β) : (Except.ok a >>= next) = next a := rfl

theorem mapError_eq_error_iff {ε ε' α : Type} {f : ε → ε'} {x : Except ε α} {e' : ε'} :
    x.mapError f = .error e' ↔ ∃ e, x = .error e ∧ e' = f e := by
  cases x with
  | error e => simp [Except.mapError, eq_comm]
  | ok a => simp [Except.mapError]

/-! ## Characters -/

def charAt (text : Text) (position : Nat) : Except Fault Char :=
  match text[position]? with
  | some c => .ok c
  | none => .error (.outOfRange text.length position)

/-- the characters from one position to another; positions behind the end stand for the end -/
def slice (text : Text) (start stop : Nat) : Text :=
  (text.drop start).take (stop - start)

theorem charAt_of_drop {text rest : Text} {position : Nat} {c : Char} (h : text.drop position = c :: rest) :
    charAt text position = .ok c := by
  have hget : text[position]? = some c := by
    rw [← List.head?_drop, h, List.head?_cons]
  rw [charAt, hget]

theorem exists_drop {text : Text} {position : Nat} (h : position < text.length) :
    ∃ c rest, text.drop position = c :: rest ∧ text.drop (position + 1) = rest :=
  ⟨_, _, List.drop_eq_getElem_cons h, rfl⟩

theorem slice_append {text : Text} {start middle stop : Nat} (h : start ≤ middle) (h' : middle ≤ stop) :
    slice text start middle ++ slice text middle stop = slice text start stop := by
  rw [slice, slice, slice, show stop - start = (middle - start) + (stop - middle) by omega, List.take_add,
    List.drop_drop, show start + (middle - start) = middle by omega]

theorem slice_of_drop {text front rest : Text} {start : Nat} (h : text.drop start = front ++ rest) :
    slice text start (start + front.length) = front := by
  rw [slice, h, Nat.add_sub_cancel_left, List.take_left]

theorem slice_succ {text rest : Text} {start stop : Nat} {c : Char} (h : start ≤ stop)
    (hdrop : text.drop stop = c :: rest) : slice text start (stop + 1) = slice text start stop ++ [c] := by
  have hlast : slice text stop (stop + 1) = [c] := slice_of_drop (hdrop.trans (List.singleton_append).symm)
  rw [← slice_append h (Nat.le_succ stop), hlast]

/-! ## Searches -/

/-- the first place where `needle` stands; the text starts at `position` -/
def findFrom? (needle : Text) : (position : Nat) → Text → Option Nat
  | position, [] => if needle.isEmpty then some position else none
  | position, c :: rest =>
    if needle.isPrefixOf (c :: rest) then some position else findFrom? needle (position + 1) rest

/-- the first place from a position on where `needle` stands -/
def find? (needle text : Text) (position : Nat) : Option Nat :=
  findFrom? needle position (text.drop position)

theorem findFrom?_char (c : Char) (position : Nat) (text : Text) :
    (findFrom? [c] position text = none ∧ c ∉ text) ∨
      ∃ front rest, text = front ++ c :: rest ∧ c ∉ front ∧
        findFrom? [c] position text = some (position + front.length) := by
  induction text generalizing position with
  | nil => exact .inl ⟨rfl, List.not_mem_nil⟩
  | cons d rest ih =>
    by_cases hd : c = d
    · exact .inr ⟨[], rest, by rw [hd]; rfl, List.not_mem_nil, by simp [findFrom?, hd]⟩
    · have hstep : findFrom? [c] position (d :: rest) = findFrom? [c] (position + 1) rest := by
        simp [findFrom?, hd]
      rw [hstep]
      rcases ih (position + 1) with ⟨hnone, hc⟩ | ⟨front, behind, rfl, hfront, hsome⟩
      · exact .inl ⟨hnone, by simp [hd, hc]⟩
      · refine .inr ⟨d :: front, behind, rfl, by simp [hd, hfront], ?_⟩
        rw [hsome, List.length_cons]
        congr 1
        omega

/-! ## Loops -/

/-- what a round of a loop comes to: the result, or the state and the position of the next round -/
inductive Round (σ β : Type) where
  | done (result : β)
  | next (state : σ) (position : Nat)

/-- repeats a round until it is done; every round is to begin at or before `limit` and to move on -/
def iterate {σ β : Type} (limit : Nat) (round : σ → Nat → Except Fault (Round σ β)) (state : σ) (position : Nat) :
    Except Fault β :=
  match round state position with
  | .error fault => .error fault
  | .ok (.done result) => .ok result
  | .ok (.next state' position') =>
    if position < position' ∧ position ≤ limit then iterate limit round state' position'
    else .error (.stuck position)
termination_by limit + 1 - position

/-- a round keeps what is expected: it is done with it, or it moves on, the invariant holds there too, and the same is
expected from there on -/
def Keeps {σ β : Type} (limit : Nat) (round : σ → Nat → Except Fault (Round σ β)) (invariant : σ → Nat → Prop)
    (expected : σ → Nat → β) (state : σ) (position : Nat) : Prop :=
  round state position = .ok (.done (expected state position)) ∨
    ∃ state' position', round state position = .ok (.next state' position') ∧ position < position' ∧
      position ≤ limit ∧ invariant state' position' ∧ expected state' position' = expected state position

/-- **A loop gives what its rounds keep.** -/
theorem iterate_eq {σ β : Type} {limit : Nat} {round : σ → Nat → Except Fault (Round σ β)}
    {invariant : σ → Nat → Prop} {expected : σ → Nat → β}
    (hround : ∀ state position, invariant state position → Keeps limit round invariant expected state position)
    {state : σ} {position : Nat} (h : invariant state position) :
    iterate limit round state position = .ok (expected state position) := by
  induction hleft : limit + 1 - position using Nat.strongRecOn generalizing state position with
  | _ left ih =>
    rw [iterate]
    rcases hround state position h with hdone | ⟨state', position', hnext, hmove, hlimit, hstate', hsame⟩
    · rw [hdone]
    · rw [hnext]
      simp only [hmove, hlimit, and_self, if_true]
      rw [← hsame]
      exact ih _ (by omega) hstate' rfl

end SourceMark.Checked
