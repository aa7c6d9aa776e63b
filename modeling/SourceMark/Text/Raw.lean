/-
Texts from outside. The name of a file, or a value that another program hands over, can hold lone surrogates: halves of
a character that stand for nothing by themselves and that no encoding writes. Without them it is a text.

`toText?_eq_some_iff`: a text is read back. `toText?_eq_none_iff`: only a lone surrogate is in its way.
-/
import SourceMark.Text.Basic

namespace SourceMark

/-- the code points that are kept for halves of characters -/
abbrev Surrogate := { code : Nat // 0xD800 ≤ code ∧ code ≤ 0xDFFF }

/-- a code point of a text from outside -/
inductive RawChar where
  | char (c : Char)
  | surrogate (half : Surrogate)
  deriving DecidableEq

abbrev RawText := List RawChar

namespace RawText

def ofText (text : Text) : RawText :=
  text.map .char

/-- the text, if all its code points are characters -/
def toText? : RawText → Option Text
  | [] => some []
  | .char c :: rest => (toText? rest).map (c :: ·)
  | .surrogate _ :: _ => none

theorem toText?_ofText (text : Text) : toText? (ofText text) = some text := by
  induction text with
  | nil => rfl
  | cons c text ih =>
    have hcons : toText? (ofText (c :: text)) = (toText? (ofText text)).map (c :: ·) := rfl
    rw [hcons, ih, Option.map_some]

theorem toText?_eq_some_iff {raw : RawText} {text : Text} : toText? raw = some text ↔ raw = ofText text := by
  constructor
  · intro h
    induction raw generalizing text with
    | nil =>
      obtain rfl := Option.some.inj h
      rfl
    | cons c raw ih =>
      cases c with
      | surrogate half => exact absurd h nofun
      | char c =>
        obtain ⟨rest, hrest, rfl⟩ := Option.map_eq_some_iff.1 h
        rw [ih hrest]
        rfl
  · rintro rfl
    exact toText?_ofText text

theorem toText?_eq_none_iff {raw : RawText} : toText? raw = none ↔ ∃ half, .surrogate half ∈ raw := by
  induction raw with
  | nil =>
    refine iff_of_false nofun ?_
    rintro ⟨half, hhalf⟩
    exact absurd hhalf List.not_mem_nil
  | cons c raw ih =>
    cases c with
    | surrogate half => exact iff_of_true rfl ⟨half, List.mem_cons_self⟩
    | char c =>
      have hcons : toText? (.char c :: raw) = (toText? raw).map (c :: ·) := rfl
      rw [hcons, Option.map_eq_none_iff, ih]
      simp

end RawText

end SourceMark
