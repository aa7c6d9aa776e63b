/-
Caseless letters. A character stands for a pattern letter when their small forms agree, or when its small form is one
of the letter's further forms: the long s for s, the dotless i for i, the final sigma for sigma and so on.

`sameLetter_self`: every character stands for itself.
-/
import SourceMark.Text.Lower

namespace SourceMark.Text

/-- small letters with further small forms that fold together with them -/
def furtherForms : List (Char × List Char) := [
  ('\u0069', ['\u0131']), ('\u0073', ['\u017f']), ('\u00b5', ['\u03bc']), ('\u0131', ['\u0069']),
  ('\u017f', ['\u0073']), ('\u0345', ['\u03b9', '\u1fbe']), ('\u0390', ['\u1fd3']), ('\u03b0', ['\u1fe3']),
  ('\u03b2', ['\u03d0']), ('\u03b5', ['\u03f5']), ('\u03b8', ['\u03d1']), ('\u03b9', ['\u0345', '\u1fbe']),
  ('\u03ba', ['\u03f0']), ('\u03bc', ['\u00b5']), ('\u03c0', ['\u03d6']), ('\u03c1', ['\u03f1']),
  ('\u03c2', ['\u03c3']), ('\u03c3', ['\u03c2']), ('\u03c6', ['\u03d5']), ('\u03d0', ['\u03b2']),
  ('\u03d1', ['\u03b8']), ('\u03d5', ['\u03c6']), ('\u03d6', ['\u03c0']), ('\u03f0', ['\u03ba']),
  ('\u03f1', ['\u03c1']), ('\u03f5', ['\u03b5']), ('\u0432', ['\u1c80']), ('\u0434', ['\u1c81']),
  ('\u043e', ['\u1c82']), ('\u0441', ['\u1c83']), ('\u0442', ['\u1c84', '\u1c85']), ('\u044a', ['\u1c86']),
  ('\u0463', ['\u1c87']), ('\u1c80', ['\u0432']), ('\u1c81', ['\u0434']), ('\u1c82', ['\u043e']),
  ('\u1c83', ['\u0441']), ('\u1c84', ['\u0442', '\u1c85']), ('\u1c85', ['\u0442', '\u1c84']),
  ('\u1c86', ['\u044a']), ('\u1c87', ['\u0463']), ('\u1c88', ['\ua64b']), ('\u1e61', ['\u1e9b']),
  ('\u1e9b', ['\u1e61']), ('\u1fbe', ['\u0345', '\u03b9']), ('\u1fd3', ['\u0390']), ('\u1fe3', ['\u03b0']),
  ('\ua64b', ['\u1c88']), ('\ufb05', ['\ufb06']), ('\ufb06', ['\ufb05'])]

/-- whether `c` stands for the pattern letter `p` when case does not count -/
def sameLetter (p c : Char) : Bool :=
  let small := toLower p
  toLower c == small ||
    ((small.isAlpha || 128 ≤ small.toNat) && ((furtherForms.lookup small).getD []).contains (toLower c))

/-- whether two characters have the same small form -/
def sameSmallForm (p c : Char) : Bool :=
  toLower p == toLower c

theorem sameLetter_self (c : Char) : sameLetter c c = true := by
  simp [sameLetter]

end SourceMark.Text
