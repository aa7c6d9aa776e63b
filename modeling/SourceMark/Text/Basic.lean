/-
Texts as lists of characters, so that a length or an offset counts code points and every reading of a text is a
recursion on its characters. Here are the operations that are about characters alone: heads and tails, splitting,
trimming, occurrences and replacement.

`occurrences` lists the places of a needle left to right without overlap. `join_splitOn`: splitting at a character
loses nothing. `dropHeadBy?_eq_drop`: a head that is recognised is as long as its pattern.
-/
namespace SourceMark

/-- a text: its characters in order -/
abbrev Text := List Char

namespace Text

/-- whether a code point lies in one of the ranges, each given by its first and its last member -/
def inRanges (ranges : List (Nat × Nat)) (n : Nat) : Bool :=
  ranges.any fun range => range.1 ≤ n && n ≤ range.2

/-! ## Heads and tails -/

/-- what follows `pattern` in a text that begins with it, where `same p c` lets the character `c` stand for `p` -/
def dropHeadBy? (same : Char → Char → Bool) : (pattern : Text) → Text → Option Text
  | [], text => some text
  | _ :: _, [] => none
  | p :: ps, c :: cs => if same p c then dropHeadBy? same ps cs else none

/-- what follows `pattern` in a text that begins with it -/
def dropHead? (pattern : Text) (text : Text) : Option Text :=
  dropHeadBy? (· == ·) pattern text

theorem dropHeadBy?_eq_drop {same : Char → Char → Bool} {pattern text rest : Text}
    (h : dropHeadBy? same pattern text = some rest) :
    rest = text.drop pattern.length ∧ pattern.length ≤ text.length := by
  induction pattern generalizing text with
  | nil => simp_all [dropHeadBy?]
  | cons p ps ih =>
    cases text with
    | nil => simp [dropHeadBy?] at h
    | cons c cs =>
      simp only [dropHeadBy?] at h
      split at h
      · obtain ⟨h₁, h₂⟩ := ih h
        exact ⟨by simpa using h₁, by simpa using h₂⟩
      · simp at h

/-- the text without the characters at its end that satisfy `p` -/
def dropEnd (p : Char → Bool) (text : Text) : Text :=
  (text.reverse.dropWhile p).reverse

/-- the text without the characters at either end that satisfy `p` -/
def trim (p : Char → Bool) (text : Text) : Text :=
  dropEnd p (text.dropWhile p)

def endsWith (tail text : Text) : Bool :=
  tail.reverse.isPrefixOf text.reverse

/-! ## Pieces -/

/-- the pieces between the occurrences of a character; one more than there are occurrences -/
def splitOn (separator : Char) : Text → List Text
  | [] => [[]]
  | c :: rest =>
    if c = separator then [] :: splitOn separator rest
    else
      match splitOn separator rest with
      | [] => [[c]]
      | piece :: pieces => (c :: piece) :: pieces

def join (separator : Text) (pieces : List Text) : Text :=
  separator.intercalate pieces

theorem splitOn_ne_nil (separator : Char) (text : Text) : splitOn separator text ≠ [] := by
  cases text with
  | nil => simp [splitOn]
  | cons c rest =>
    simp only [splitOn]
    split
    · simp
    · split <;> simp

theorem join_splitOn (separator : Char) (text : Text) : join [separator] (splitOn separator text) = text := by
  induction text with
  | nil => rfl
  | cons c rest ih =>
    have hne := splitOn_ne_nil separator rest
    simp only [splitOn]
    cases hs : splitOn separator rest with
    | nil => exact absurd hs hne
    | cons piece pieces =>
      rw [hs] at ih
      split
      · next h => simp_all [join, List.intercalate]
      · cases pieces <;> simp_all [join, List.intercalate]

/-! ## Occurrences -/

def occursIn (needle : Text) : Text → Bool
  | [] => needle.isEmpty
  | c :: rest => needle.isPrefixOf (c :: rest) || occursIn needle rest

/-- the offsets of the occurrences of `needle`, counted from `offset`; the first `skip` characters belong to the
occurrence before -/
def occurrencesFrom (needle : Text) : (skip offset : Nat) → Text → List Nat
  | _, _, [] => []
  | skip + 1, offset, _ :: rest => occurrencesFrom needle skip (offset + 1) rest
  | 0, offset, c :: rest =>
    if needle.isPrefixOf (c :: rest) then offset :: occurrencesFrom needle (needle.length - 1) (offset + 1) rest
    else occurrencesFrom needle 0 (offset + 1) rest

/-- the offsets at which a non-empty `needle` stands, left to right and not overlapping -/
def occurrences (needle text : Text) : List Nat :=
  occurrencesFrom needle 0 0 text

/-- puts `new` in the place of every occurrence of a non-empty `old`; the first `skip` characters are already replaced
-/
def replaceFrom (old new : Text) : (skip : Nat) → Text → Text
  | _, [] => []
  | skip + 1, _ :: rest => replaceFrom old new skip rest
  | 0, c :: rest =>
    if old.isPrefixOf (c :: rest) then new ++ replaceFrom old new (old.length - 1) rest
    else c :: replaceFrom old new 0 rest

/-- puts `new` in the place of every occurrence of `old`, left to right; the empty text stands before each character and
at the end -/
def replaceAll (old new text : Text) : Text :=
  if old.isEmpty then text.flatMap (fun c => new ++ [c]) ++ new else replaceFrom old new 0 text

/-- the text with every line end, be it a carriage return, a line feed or both, written as one line feed -/
def unifyNewlines : Text → Text
  | [] => []
  | '\r' :: '\n' :: rest => '\n' :: unifyNewlines rest
  | c :: rest => (if c = '\r' then '\n' else c) :: unifyNewlines rest

def newlines (text : Text) : Nat :=
  text.count '\n'

end Text

end SourceMark
