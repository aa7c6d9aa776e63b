/-
Reading JSON. The reader is strict: control characters must be escaped, surrogates must come in pairs, numbers have no
superfluous zeros, nothing but blanks may follow the value. Beyond the standard it takes `NaN`, `Infinity` and
`-Infinity` as values, and it refuses arrays and objects that are nested more than 200 deep, empty ones not counted.

Every step of the reader takes at least one character, so the length of the text bounds the number of steps.
-/
import SourceMark.Json.Value

namespace SourceMark.Json

/-- the blanks that may stand between the parts of a value -/
def isSpace (c : Char) : Bool :=
  c == ' ' || c == '\t' || c == '\n' || c == '\r'

def skipSpaces (text : Text) : Text :=
  text.dropWhile isSpace

def hexValue? (c : Char) : Option Nat :=
  if c.isDigit then some (c.toNat - '0'.toNat)
  else if 'a' ≤ c && c ≤ 'f' then some (c.toNat - 'a'.toNat + 10)
  else if 'A' ≤ c && c ≤ 'F' then some (c.toNat - 'A'.toNat + 10)
  else none

def unit? (a b c d : Char) : Option Nat := do
  return (← hexValue? a) * 0x1000 + (← hexValue? b) * 0x100 + (← hexValue? c) * 0x10 + (← hexValue? d)

/-- the character that an escape of one letter stands for -/
def unescape? (c : Char) : Option Char :=
  [('"', '"'), ('\\', '\\'), ('/', '/'), ('b', '\x08'), ('f', '\x0c'), ('n', '\n'), ('r', '\r'), ('t', '\t')].lookup c

/-- puts a character before the text that was read -/
def consRead (c : Char) (read : Text × Text) : Text × Text :=
  (c :: read.1, read.2)

/-- reads a string whose opening quote is already read; gives the string and what follows its closing quote -/
def readString? : Text → Option (Text × Text)
  | [] => none
  | '"' :: rest => some ([], rest)
  | '\\' :: 'u' :: a :: b :: c :: d :: rest =>
    match unit? a b c d with
    | none => none
    | some high =>
      if high < 0xD800 || 0xE000 ≤ high then (readString? rest).map (consRead (Char.ofNat high))
      else if 0xDC00 ≤ high then none
      else
        match rest with
        | '\\' :: 'u' :: e :: f :: g :: h :: rest' =>
          match unit? e f g h with
          | none => none
          | some low =>
            if 0xDC00 ≤ low && low < 0xE000 then
              (readString? rest').map (consRead (Char.ofNat (0x10000 + (high - 0xD800) * 0x400 + (low - 0xDC00))))
            else none
        | _ => none
  | '\\' :: c :: rest =>
    match unescape? c with
    | none => none
    | some c' => (readString? rest).map (consRead c')
  | c :: rest => if c.toNat < 32 || c = '\\' then none else (readString? rest).map (consRead c)

/-- reads digits; there must be one -/
def readDigits? (text : Text) : Option (Text × Text) :=
  match text.takeWhile Char.isDigit with
  | [] => none
  | digits => some (digits, text.dropWhile Char.isDigit)

/-- reads an exponent when there is one -/
def readExponent? : Text → Option (Option Int × Text)
  | c :: rest =>
    if c = 'e' || c = 'E' then
      match rest with
      | '-' :: digits => (readDigits? digits).map fun read => (some (-(Nat.ofDigitChars 10 read.1 0 : Int)), read.2)
      | '+' :: digits => (readDigits? digits).map fun read => (some (Nat.ofDigitChars 10 read.1 0 : Int), read.2)
      | digits => (readDigits? digits).map fun read => (some (Nat.ofDigitChars 10 read.1 0 : Int), read.2)
    else some (none, c :: rest)
  | [] => some (none, [])

/-- reads a number without its sign -/
def readMagnitude? (negative : Bool) (text : Text) : Option (Json × Text) := do
  let sign : Int := if negative then -1 else 1
  let (whole, rest) ← readDigits? text
  if whole.head? = some '0' && 1 < whole.length then none
  match rest with
  | '.' :: digits =>
    let (fraction, rest) ← readDigits? digits
    let (exponent, rest) ← readExponent? rest
    return (.decimal (sign * Nat.ofDigitChars 10 (whole ++ fraction) 0) (exponent.getD 0 - fraction.length), rest)
  | _ =>
    match ← readExponent? rest with
    | (none, rest) => return (.int (sign * Nat.ofDigitChars 10 whole 0), rest)
    | (some exponent, rest) => return (.decimal (sign * Nat.ofDigitChars 10 whole 0) exponent, rest)

/-- reads a value that is neither a string nor an array nor an object -/
def readPlain? (text : Text) : Option (Json × Text) :=
  let word (word : String) (value : Json) := (Text.dropHead? word.toList text).map fun rest => (value, rest)
  word "null" .null <|> word "true" (.bool true) <|> word "false" (.bool false) <|> word "NaN" .notFinite <|>
    word "Infinity" .notFinite <|> word "-Infinity" .notFinite <|>
      match text with
      | '-' :: rest => readMagnitude? true rest
      | _ => readMagnitude? false text

/-- how many arrays and objects may be nested -/
def maxNesting : Nat := 200

mutual

/-- reads a value in at most `fuel` steps, with `depth` more levels of nesting to use -/
def readValue? (fuel depth : Nat) (text : Text) : Option (Json × Text) :=
  match fuel with
  | 0 => none
  | fuel + 1 =>
    match text with
    | '"' :: rest => (readString? rest).map fun read => (.text read.1, read.2)
    | '[' :: rest =>
      match skipSpaces rest with
      | ']' :: rest' => some (.array [], rest')
      | rest' => if depth = 0 then none else (readItems? fuel (depth - 1) rest').map fun read => (.array read.1, read.2)
    | '\x7b' :: rest =>
      match skipSpaces rest with
      | '\x7d' :: rest' => some (.object [], rest')
      | rest' =>
        if depth = 0 then none else (readMembers? fuel (depth - 1) rest').map fun read => (.object read.1, read.2)
    | _ => readPlain? text

def readItems? (fuel depth : Nat) (text : Text) : Option (List Json × Text) :=
  match fuel with
  | 0 => none
  | fuel + 1 =>
    match readValue? fuel depth text with
    | none => none
    | some (item, rest) =>
      match skipSpaces rest with
      | ']' :: rest' => some ([item], rest')
      | ',' :: rest' => (readItems? fuel depth (skipSpaces rest')).map fun read => (item :: read.1, read.2)
      | _ => none

def readMembers? (fuel depth : Nat) (text : Text) : Option (List (Text × Json) × Text) :=
  match fuel with
  | 0 => none
  | fuel + 1 =>
    match text with
    | '"' :: rest =>
      match readString? rest with
      | none => none
      | some (name, rest') =>
        match skipSpaces rest' with
        | ':' :: rest'' =>
          match readValue? fuel depth (skipSpaces rest'') with
          | none => none
          | some (value, rest₃) =>
            match skipSpaces rest₃ with
            | '\x7d' :: rest₄ => some ([(name, value)], rest₄)
            | ',' :: rest₄ =>
              (readMembers? fuel depth (skipSpaces rest₄)).map fun read => ((name, value) :: read.1, read.2)
            | _ => none
        | _ => none
    | _ => none

end

/-- the value that a text holds, blanks around it apart -/
def read? (text : Text) : Option Json :=
  match readValue? (2 * text.length + 2) maxNesting (skipSpaces text) with
  | some (value, rest) => if (skipSpaces rest).isEmpty then some value else none
  | none => none

end SourceMark.Json
