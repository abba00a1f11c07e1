/-! # Reading bytes as text

Decoding UTF-8 byte by byte, with the place and kind of the first fault.

* `Utf8.Invalid`: how a byte sequence fails to be text: a malformed sequence of one to three bytes, or a sequence
  that the end of the input cuts short.
* `Utf8.decode`: the characters of a byte sequence, or its first fault.

A byte is refused as soon as no character starts with the bytes up to it; the bytes before it are then the
malformed sequence, or it alone if it starts none.
-/

namespace DeskCalc.Text.Utf8
set_option autoImplicit false

inductive Invalid where
  | malformed (length index : Nat)
  | incomplete (index : Nat)
  deriving DecidableEq, Repr

def Invalid.message : Invalid → String
  | .malformed length index => s!"invalid utf-8 sequence of {length} bytes from index {index}"
  | .incomplete index => s!"incomplete utf-8 byte sequence from index {index}"

/-- A character of which some bytes have been read: where it starts, how many bytes it has so far and how many are
still owed, the bounds of the next byte, and the code point read so far. -/
structure Partial where
  start : Nat
  taken : Nat
  owed : Nat
  low : Nat
  high : Nat
  value : Nat
  deriving DecidableEq, Repr

/-- What a byte of 0x80 or more promises when it stands first. The bounds leave out overlong forms, surrogates
and code points past the last plane. -/
def opening (start b : Nat) : Option Partial :=
  if 0xC2 ≤ b && b ≤ 0xDF then some ⟨start, 1, 1, 0x80, 0xBF, b - 0xC0⟩
  else if b = 0xE0 then some ⟨start, 1, 2, 0xA0, 0xBF, 0⟩
  else if b = 0xED then some ⟨start, 1, 2, 0x80, 0x9F, 0xD⟩
  else if 0xE1 ≤ b && b ≤ 0xEF then some ⟨start, 1, 2, 0x80, 0xBF, b - 0xE0⟩
  else if b = 0xF0 then some ⟨start, 1, 3, 0x90, 0xBF, 0⟩
  else if 0xF1 ≤ b && b ≤ 0xF3 then some ⟨start, 1, 3, 0x80, 0xBF, b - 0xF0⟩
  else if b = 0xF4 then some ⟨start, 1, 3, 0x80, 0x8F, 4⟩
  else none

/-- Reads on at index `i`, inside a character if one is open. -/
def decodeFrom (i : Nat) : Option Partial → List UInt8 → Except Invalid (List Char)
  | none, [] => .ok []
  | some p, [] => .error (.incomplete p.start)
  | none, b :: bs =>
    if b.toNat < 0x80 then (Char.ofNat b.toNat :: ·) <$> decodeFrom (i + 1) none bs
    else match opening i b.toNat with
      | none => .error (.malformed 1 i)
      | some p => decodeFrom (i + 1) (some p) bs
  | some p, b :: bs =>
    if p.low ≤ b.toNat && b.toNat ≤ p.high then
      let value := 64 * p.value + (b.toNat - 0x80)
      if p.owed = 1 then (Char.ofNat value :: ·) <$> decodeFrom (i + 1) none bs
      else decodeFrom (i + 1) (some ⟨p.start, p.taken + 1, p.owed - 1, 0x80, 0xBF, value⟩) bs
    else .error (.malformed p.taken p.start)

def decode (bytes : List UInt8) : Except Invalid (List Char) := decodeFrom 0 none bytes

/-- The bytes of a string. -/
def bytes (s : String) : List UInt8 := s.toUTF8.data.toList

theorem bytes_append (s t : String) : bytes (s ++ t) = bytes s ++ bytes t := by
  simp [bytes, String.toByteArray_append, ByteArray.data_append]

example : (decode (bytes "aé€😀")).toOption = some "aé€😀".toList := by decide +kernel

end DeskCalc.Text.Utf8
