/-
Base64 with the standard alphabet. `encode` pads the last group; `decode?` is strict: symbols outside the alphabet,
missing padding and anything after the padding are refused. It is lenient in two ways only: unused bits of the last
symbol may be set, and any number of padding signs may follow complete groups.

`decode?_encode`: decoding gives back what was encoded.
-/
import SourceMark.Bytes.Utf8

namespace SourceMark.Base64

/-- the symbols of the six-bit values in order -/
def alphabet : Text :=
  "ABCDEFGHIJKLMNOPQRSTUVWXYZabcdefghijklmnopqrstuvwxyz0123456789+/".toList

def symbol (value : Nat) : Char :=
  alphabet.getD value '='

def value? (c : Char) : Option Nat :=
  alphabet.idxOf? c

/-- the symbols of the bytes, three bytes to four symbols -/
def encode : Bytes → Text
  | [] => []
  | [a] => [symbol (a.toNat / 4), symbol (a.toNat % 4 * 16), '=', '=']
  | [a, b] => [symbol (a.toNat / 4), symbol (a.toNat % 4 * 16 + b.toNat / 16), symbol (b.toNat % 16 * 4), '=']
  | a :: b :: c :: rest =>
    symbol (a.toNat / 4) :: symbol (a.toNat % 4 * 16 + b.toNat / 16) :: symbol (b.toNat % 16 * 4 + c.toNat / 64) ::
      symbol (c.toNat % 64) :: encode rest

def firstByte (a b : Nat) : UInt8 := .ofNat (a * 4 + b / 16)

def secondByte (b c : Nat) : UInt8 := .ofNat (b % 16 * 16 + c / 4)

def thirdByte (c d : Nat) : UInt8 := .ofNat (c % 4 * 64 + d)

/-- the bytes of groups of four symbols -/
def decodeGroups? : Text → Option Bytes
  | [] => some []
  | a :: rest =>
    if a = '=' then
      if rest.all (· == '=') then some [] else none
    else
      match rest with
      | [b, '=', '='] => do return [firstByte (← value? a) (← value? b)]
      | [b, c, '='] => do
        let vb ← value? b
        let vc ← value? c
        return [firstByte (← value? a) vb, secondByte vb vc]
      | b :: c :: d :: rest' => do
        let vb ← value? b
        let vc ← value? c
        let group := [firstByte (← value? a) vb, secondByte vb vc, thirdByte vc (← value? d)]
        return group ++ (← decodeGroups? rest')
      | _ => none

/-- the bytes that the symbols stand for; padding may not come first -/
def decode? (text : Text) : Option Bytes :=
  if text.head? = some '=' then none else decodeGroups? text

theorem value?_symbol {n : Nat} (h : n < 64) : value? (symbol n) = some n := by
  revert n
  decide +kernel

theorem symbol_mem {n : Nat} (h : n < 64) : symbol n ∈ alphabet := by
  have hlength : n < alphabet.length := h
  rw [symbol, List.getD_eq_getElem?_getD, List.getElem?_eq_getElem hlength, Option.getD_some]
  exact List.getElem_mem hlength

theorem symbol_ne_pad {n : Nat} (h : n < 64) : symbol n ≠ '=' :=
  fun hpad => absurd (hpad ▸ symbol_mem h) (show '=' ∉ alphabet by decide)

theorem firstByte_of (a : UInt8) (k : Nat) (h : k < 16) : firstByte (a.toNat / 4) (a.toNat % 4 * 16 + k) = a := by
  have := a.toNat_lt
  rw [firstByte, show a.toNat / 4 * 4 + (a.toNat % 4 * 16 + k) / 16 = a.toNat by omega]
  exact UInt8.ofNat_toNat

theorem secondByte_of (b : UInt8) (j k : Nat) (h : k < 4) :
    secondByte (j * 16 + b.toNat / 16) (b.toNat % 16 * 4 + k) = b := by
  have := b.toNat_lt
  rw [secondByte, show (j * 16 + b.toNat / 16) % 16 * 16 + (b.toNat % 16 * 4 + k) / 4 = b.toNat by omega]
  exact UInt8.ofNat_toNat

theorem thirdByte_of (c : UInt8) (j : Nat) : thirdByte (j * 4 + c.toNat / 64) (c.toNat % 64) = c := by
  have := c.toNat_lt
  rw [thirdByte, show (j * 4 + c.toNat / 64) % 4 * 64 + c.toNat % 64 = c.toNat by omega]
  exact UInt8.ofNat_toNat

theorem decodeGroups?_encode (bytes : Bytes) : decodeGroups? (encode bytes) = some bytes := by
  fun_induction encode bytes with
  | case1 => rfl
  | case2 a =>
    have ha := a.toNat_lt
    have h₁ := value?_symbol (n := a.toNat / 4) (by omega)
    have h₂ := value?_symbol (n := a.toNat % 4 * 16) (by omega)
    have hf := firstByte_of a 0 (by omega)
    simp_all [decodeGroups?, symbol_ne_pad (n := a.toNat / 4) (by omega)]
  | case3 a b =>
    have ha := a.toNat_lt
    have hb := b.toNat_lt
    have h₁ := value?_symbol (n := a.toNat / 4) (by omega)
    have h₂ := value?_symbol (n := a.toNat % 4 * 16 + b.toNat / 16) (by omega)
    have h₃ := value?_symbol (n := b.toNat % 16 * 4) (by omega)
    have hf := firstByte_of a (b.toNat / 16) (by omega)
    have hs := secondByte_of b (a.toNat % 4) 0 (by omega)
    simp_all [decodeGroups?, symbol_ne_pad (n := a.toNat / 4) (by omega),
      symbol_ne_pad (n := b.toNat % 16 * 4) (by omega)]
  | case4 a b c rest ih =>
    have ha := a.toNat_lt
    have hb := b.toNat_lt
    have hc := c.toNat_lt
    have h₁ := value?_symbol (n := a.toNat / 4) (by omega)
    have h₂ := value?_symbol (n := a.toNat % 4 * 16 + b.toNat / 16) (by omega)
    have h₃ := value?_symbol (n := b.toNat % 16 * 4 + c.toNat / 64) (by omega)
    have h₄ := value?_symbol (n := c.toNat % 64) (by omega)
    have hf := firstByte_of a (b.toNat / 16) (by omega)
    have hs := secondByte_of b (a.toNat % 4) (c.toNat / 64) (by omega)
    have ht := thirdByte_of c (b.toNat % 16)
    simp_all [decodeGroups?, symbol_ne_pad (n := a.toNat / 4) (by omega),
      symbol_ne_pad (n := c.toNat % 64) (by omega)]

theorem decode?_encode (bytes : Bytes) : decode? (encode bytes) = some bytes := by
  have hne : (encode bytes).head? ≠ some '=' := by
    fun_cases encode bytes with
    | case1 => simp
    | case2 a => simpa using symbol_ne_pad (n := a.toNat / 4) (by have := a.toNat_lt; omega)
    | case3 a b => simpa using symbol_ne_pad (n := a.toNat / 4) (by have := a.toNat_lt; omega)
    | case4 a b c rest => simpa using symbol_ne_pad (n := a.toNat / 4) (by have := a.toNat_lt; omega)
  simp [decode?, hne, decodeGroups?_encode]

end SourceMark.Base64
