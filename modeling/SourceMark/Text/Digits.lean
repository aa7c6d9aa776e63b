/-
Decimal numbers in texts: how they are written, and how they are read where a person types them, with blanks around, a
sign, single underscores between digits and the decimal digits of any script.
-/
import SourceMark.Text.Blank

namespace SourceMark.Text

/-- the zeros of the decimal digits of every script; the other nine digits follow each zero -/
def zeros : List Nat := [
  0x30, 0x660, 0x6F0, 0x7C0, 0x966, 0x9E6, 0xA66, 0xAE6, 0xB66, 0xBE6, 0xC66, 0xCE6, 0xD66, 0xDE6, 0xE50, 0xED0,
  0xF20, 0x1040, 0x1090, 0x17E0, 0x1810, 0x1946, 0x19D0, 0x1A80, 0x1A90, 0x1B50, 0x1BB0, 0x1C40, 0x1C50, 0xA620,
  0xA8D0, 0xA900, 0xA9D0, 0xA9F0, 0xAA50, 0xABF0, 0xFF10, 0x104A0, 0x10D30, 0x11066, 0x110F0, 0x11136, 0x111D0,
  0x112F0, 0x11450, 0x114D0, 0x11650, 0x116C0, 0x11730, 0x118E0, 0x11950, 0x11C50, 0x11D50, 0x11DA0, 0x16A60,
  0x16AC0, 0x16B50, 0x1D7CE, 0x1D7D8, 0x1D7E2, 0x1D7EC, 0x1D7F6, 0x1E140, 0x1E2F0, 0x1E950, 0x1FBF0]

def digitValue? (c : Char) : Option Nat :=
  (zeros.find? fun first => first ≤ c.toNat && c.toNat < first + 10).map (c.toNat - ·)

def decimal (n : Nat) : Text :=
  Nat.toDigits 10 n

def signedDecimal (n : Int) : Text :=
  if n < 0 then '-' :: decimal n.natAbs else decimal n.natAbs

/-- the number that digits stand for, the text before them standing for `before` -/
def ofDigits (before : Nat) (digits : List Nat) : Nat :=
  digits.foldl (fun value digit => 10 * value + digit) before

/-- the values of digits, a single underscore allowed between two of them -/
def digitRun? : Text → Option (List Nat)
  | [] => none
  | c :: rest =>
    match digitValue? c, rest with
    | none, _ => none
    | some d, [] => some [d]
    | some d, next :: rest' =>
      if next = '_' then (digitRun? rest').map (d :: ·) else (digitRun? (next :: rest')).map (d :: ·)

/-- the blanks that may stand around a typed number: all but the information separators -/
def isNumberBlank (c : Char) : Bool :=
  isBlank c && !(0x1C ≤ c.toNat && c.toNat ≤ 0x1F)

/-- how many digits a typed number may have -/
def maxTypedDigits : Nat := 4300

/-- the number that typed digits stand for -/
def typedNumber? (text : Text) : Option Nat :=
  ((digitRun? text).filter fun digits => digits.length ≤ maxTypedDigits).map (ofDigits 0)

/-- the integer that a typed text stands for -/
def typedInteger? (text : Text) : Option Int :=
  match trim isNumberBlank text with
  | '-' :: digits => (typedNumber? digits).map fun n => -(n : Int)
  | '+' :: digits => (typedNumber? digits).map fun n => (n : Int)
  | digits => (typedNumber? digits).map fun n => (n : Int)

end SourceMark.Text
