/-
Texts as bytes. `encode` writes a text as UTF-8; `decode` reads it strictly, and where the bytes are no UTF-8 it says
at which byte the first fault starts, how many bytes it spans and what is wrong with them.

A character is read by its first byte, which fixes the range of every byte after it: overlong forms, surrogates and
code points past the last one have no first byte or no second byte in range, so nothing needs to be checked
afterwards.
-/
import SourceMark.Text.Quoted
import SourceMark.Text.Digits

namespace SourceMark

/-- a file's content -/
abbrev Bytes := List UInt8

namespace Utf8

def encodeChar (c : Char) : Bytes :=
  let n := c.toNat
  if n < 0x80 then [.ofNat n]
  else if n < 0x800 then [.ofNat (0xC0 + n / 0x40), .ofNat (0x80 + n % 0x40)]
  else if n < 0x10000 then [.ofNat (0xE0 + n / 0x1000), .ofNat (0x80 + n / 0x40 % 0x40), .ofNat (0x80 + n % 0x40)]
  else
    [.ofNat (0xF0 + n / 0x40000), .ofNat (0x80 + n / 0x1000 % 0x40), .ofNat (0x80 + n / 0x40 % 0x40),
      .ofNat (0x80 + n % 0x40)]

def encode (text : Text) : Bytes :=
  text.flatMap encodeChar

/-- what can be wrong with bytes that should be UTF-8 -/
inductive Fault where
  | invalidStart
  | invalidContinuation
  | unexpectedEnd
  deriving DecidableEq

/-- the first fault of a byte sequence: where it starts, the byte there, and how many bytes it spans -/
structure DecodeError where
  position : Nat
  byte : UInt8
  span : Nat
  fault : Fault
  deriving DecidableEq

/-- the bits that a first byte contributes and the ranges of the bytes that follow it -/
def lead? (byte : Nat) : Option (Nat × List (Nat × Nat)) :=
  if byte < 0x80 then some (byte, [])
  else if byte < 0xC2 then none
  else if byte < 0xE0 then some (byte - 0xC0, [(0x80, 0xBF)])
  else if byte = 0xE0 then some (0, [(0xA0, 0xBF), (0x80, 0xBF)])
  else if byte = 0xED then some (0xD, [(0x80, 0x9F), (0x80, 0xBF)])
  else if byte < 0xF0 then some (byte - 0xE0, [(0x80, 0xBF), (0x80, 0xBF)])
  else if byte = 0xF0 then some (0, [(0x90, 0xBF), (0x80, 0xBF), (0x80, 0xBF)])
  else if byte < 0xF4 then some (byte - 0xF0, [(0x80, 0xBF), (0x80, 0xBF), (0x80, 0xBF)])
  else if byte = 0xF4 then some (4, [(0x80, 0x8F), (0x80, 0xBF), (0x80, 0xBF)])
  else none

/-- adds the bits of the following bytes to `bits`; on a fault, tells it and how many of the bytes were good -/
def tail (bits good : Nat) : (expected : List (Nat × Nat)) → Bytes → Except (Fault × Nat) Nat
  | [], _ => .ok bits
  | _ :: _, [] => .error (.unexpectedEnd, good)
  | (low, high) :: expected, byte :: rest =>
    if low ≤ byte.toNat && byte.toNat ≤ high then tail (bits * 0x40 + byte.toNat % 0x40) (good + 1) expected rest
    else .error (.invalidContinuation, good)

/-- `decode` from `position` on; the first `skip` bytes belong to the character before -/
def decodeFrom : (skip position : Nat) → Bytes → Except DecodeError Text
  | _, _, [] => .ok []
  | skip + 1, position, _ :: rest => decodeFrom skip (position + 1) rest
  | 0, position, byte :: rest =>
    match lead? byte.toNat with
    | none => .error ⟨position, byte, 1, .invalidStart⟩
    | some (bits, expected) =>
      match tail bits 1 expected rest with
      | .error (fault, span) => .error ⟨position, byte, span, fault⟩
      | .ok code => (decodeFrom expected.length (position + 1) rest).map (Char.ofNat code :: ·)

def decode (bytes : Bytes) : Except DecodeError Text :=
  decodeFrom 0 0 bytes

def Fault.message : Fault → Text
  | .invalidStart => "invalid start byte".toList
  | .invalidContinuation => "invalid continuation byte".toList
  | .unexpectedEnd => "unexpected end of data".toList

/-- the error in words; it shows the byte when it spans only one -/
def DecodeError.message (e : DecodeError) : Text :=
  "'utf-8' codec can't decode ".toList ++
    (if e.span = 1 then "byte 0x".toList ++ Text.hex 2 e.byte.toNat ++ " in position ".toList ++ Text.decimal e.position
    else "bytes in position ".toList ++ Text.decimal e.position ++ '-' :: Text.decimal (e.position + e.span - 1)) ++
    ": ".toList ++ e.fault.message

end Utf8

end SourceMark
