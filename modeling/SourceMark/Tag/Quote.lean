/-
Quoted spans inside a tag. In an attribute value a span ends at the next quote of its kind. In a region of code a
backslash may escape the quote: the span then ends at the first quote with an even run of backslashes right before it.

`blank` empties every closed span and leaves a quote that is never closed as it is.
-/
import SourceMark.Text.Basic

namespace SourceMark.Quote

def isQuote (c : Char) : Bool :=
  c == '"' || c == '\''

/-- whether a quote that stands after `before`, written backwards, has an even run of backslashes before it -/
def unescaped (before : Text) : Bool :=
  (before.takeWhile (· == '\\')).length % 2 == 0

/-- how many characters of the text belong to a span, its closing quote included; `before` is what the span holds so
far, written backwards -/
def length? (escapes : Bool) (quote : Char) : (before : Text) → Text → Option Nat
  | _, [] => none
  | before, c :: rest =>
    if c = quote && (!escapes || unescaped before) then some 1
    else (length? escapes quote (c :: before) rest).map (· + 1)

/-- `blank` after the first `skip` characters, which belong to a span -/
def blankFrom : (skip : Nat) → Text → Text
  | _, [] => []
  | skip + 1, _ :: rest => blankFrom skip rest
  | 0, c :: rest =>
    if isQuote c then
      match length? false c [] rest with
      | some n => c :: c :: blankFrom n rest
      | none => c :: blankFrom 0 rest
    else c :: blankFrom 0 rest

/-- the text with the content of every quoted span left out -/
def blank (text : Text) : Text :=
  blankFrom 0 text

theorem length?_le {escapes : Bool} {quote : Char} {before text : Text} {n : Nat}
    (h : length? escapes quote before text = some n) : 0 < n ∧ n ≤ text.length := by
  induction text generalizing before n with
  | nil => simp [length?] at h
  | cons c rest ih =>
    simp only [length?] at h
    split at h
    · simp only [Option.some.injEq] at h
      simp [← h]
    · obtain ⟨m, hm, rfl⟩ := Option.map_eq_some_iff.1 h
      have := ih hm
      simp
      omega

end SourceMark.Quote
