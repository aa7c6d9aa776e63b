/-
The walk over a tag's attributes and over a directive's arguments. The walk keeps the closers of the regions that are
open, innermost first, and reads one token at a time: a quoted span, the innermost closer, an opener, or one
character. Backslashes escape quotes inside regions only. A tag ends at the first closing angle bracket outside every
region, and an opening angle bracket there means that it is no tag.

`body?_eq_some`: what `body?` gives is a split of the text at the bracket that ends the tag.
-/
import SourceMark.Dialect.Basic
import SourceMark.Tag.Quote

namespace SourceMark

/-- the closers of the regions that are open, innermost first -/
abbrev Nesting := List Text

namespace Nesting

/-- the region that opens at the head of the text: the longest opener counts, and of equal openers the last -/
def opening? (regions : List Delimiters) (text : Text) : Option Delimiters :=
  regions.foldl (fun best region =>
    if !region.opener.isEmpty && region.opener.isPrefixOf text &&
        best.all fun other => other.opener.length ≤ region.opener.length
    then some region else best) none

/-- the regions that are still open where `c` is read: a closer without characters closes its region at once, though a
quote is read before it -/
def settle (c : Char) (nesting : Nesting) : Nesting :=
  if Quote.isQuote c then nesting else nesting.dropWhile (·.isEmpty)

/-- reads the token that starts with `c`: how many characters after `c` belong to it, and the regions open behind it;
nothing when it is a quote that is never closed -/
def token? (regions : List Delimiters) (nesting : Nesting) (c : Char) (rest : Text) : Option (Nat × Nesting) :=
  if Quote.isQuote c then (Quote.length? (!nesting.isEmpty) c [] rest).map fun n => (n, nesting)
  else
    match nesting with
    | closer :: outer =>
      if closer.isPrefixOf (c :: rest) then some (closer.length - 1, outer) else opened (closer :: outer)
    | [] => opened []
where
  /-- the token when no region closes here -/
  opened (nesting : Nesting) : Option (Nat × Nesting) :=
    match opening? regions (c :: rest) with
    | some region => some (region.opener.length - 1, region.closer :: nesting)
    | none => some (0, nesting)

/-- how many characters of the text belong to the open regions, the last closer included; the first `skip` characters
belong to the token before -/
def length? (regions : List Delimiters) : (skip : Nat) → Nesting → Text → Option Nat
  | skip + 1, nesting, _ :: rest => (length? regions skip nesting rest).map (· + 1)
  | _ + 1, _, [] => none
  | 0, [], _ => some 0
  | 0, _ :: _, [] => none
  | 0, closer :: outer, c :: rest =>
    match settle c (closer :: outer) with
    | [] => some 0
    | nesting =>
      match token? regions nesting c rest with
      | none => none
      | some (n, nesting') => (length? regions n nesting' rest).map (· + 1)

/-- the rest of a tag behind its name: the attributes, whether a closing angle bracket stands inside one of their
regions, and what follows the tag -/
structure Body where
  attributes : Text
  nestedGt : Bool
  rest : Text

/-- the body with one more character in front, which may be a closing angle bracket inside a region -/
def Body.push (c : Char) (nestedGt : Bool) (body : Body) : Body :=
  { body with attributes := c :: body.attributes, nestedGt := nestedGt || body.nestedGt }

/-- reads the rest of a tag; the first `skip` characters belong to the token before -/
def bodyFrom? (regions : List Delimiters) : (skip : Nat) → Nesting → Text → Option Body
  | _, _, [] => none
  | skip + 1, nesting, c :: rest => (bodyFrom? regions skip nesting rest).map (.push c false)
  | 0, nesting, c :: rest =>
    let nestedGt := c == '>' && !nesting.isEmpty
    let nesting := settle c nesting
    if nesting.isEmpty && c == '>' then some ⟨[], nestedGt, rest⟩
    else if nesting.isEmpty && c == '<' && (opening? regions (c :: rest)).isNone then none
    else
      match token? regions nesting c rest with
      | none => none
      | some (n, nesting') => (bodyFrom? regions n nesting' rest).map (.push c nestedGt)

/-- reads the rest of a tag behind its name -/
def body? (regions : List Delimiters) (text : Text) : Option Body :=
  bodyFrom? regions 0 [] text

theorem bodyFrom?_eq_some {regions : List Delimiters} {skip : Nat} {nesting : Nesting} {text : Text} {body : Body}
    (h : bodyFrom? regions skip nesting text = some body) : text = body.attributes ++ '>' :: body.rest := by
  induction text generalizing skip nesting body with
  | nil => cases skip <;> simp [bodyFrom?] at h
  | cons c rest ih =>
    have pushed {n : Nat} {nesting' : Nesting} {gt : Bool}
        (h : (bodyFrom? regions n nesting' rest).map (.push c gt) = some body) :
        c :: rest = body.attributes ++ '>' :: body.rest := by
      obtain ⟨inner, hinner, rfl⟩ := Option.map_eq_some_iff.1 h
      simp [Body.push, ← ih hinner]
    cases skip with
    | succ skip => exact pushed (by simpa only [bodyFrom?] using h)
    | zero =>
      simp only [bodyFrom?] at h
      split at h
      · next hc =>
        simp only [Bool.and_eq_true, beq_iff_eq] at hc
        simp only [Option.some.injEq] at h
        simp [← h, hc.2]
      · split at h
        · simp at h
        · split at h
          · simp at h
          · exact pushed h

theorem body?_eq_some {regions : List Delimiters} {text : Text} {body : Body} (h : body? regions text = some body) :
    text = body.attributes ++ '>' :: body.rest :=
  bodyFrom?_eq_some h

end Nesting

end SourceMark
