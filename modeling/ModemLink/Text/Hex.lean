import ModemLink.Text.Utf8

/-!
# Hexadecimal text

Two readers: `Hex.decode` writes the bytes that pairs of digits stand for into a buffer,
`Hex.toNat` reads at most eight digits as one number.  Both work on the UTF-8 form of the text, so
that a character outside ASCII is reported by the first of its bytes.
-/

namespace ModemLink

/-- Why hexadecimal text could not be read. -/
inductive HexError where
  | oddLength
  | invalidDigit (byte : UInt8)
  | noMemory
  deriving DecidableEq, Repr

namespace HexError

/-- The two lower case hexadecimal digits of a byte. -/
def byteText (byte : UInt8) : Text :=
  [Nat.digitChar (byte.toNat / 16), Nat.digitChar (byte.toNat % 16)]

/-- The wording shown to people. -/
def message : HexError → Text
  | .oddLength => "input string has an odd number of bytes"
  | .invalidDigit byte => "invalid hex digit 0x".toList ++ byteText byte
  | .noMemory => "output buffer too small"

/-- The cause as the text helpers name it. -/
def toTextError : HexError → TextError
  | .noMemory => .noMemory
  | .oddLength | .invalidDigit _ => .badParameter

end HexError

namespace Hex

def nibble (byte : UInt8) : Except HexError UInt8 :=
  if 48 ≤ byte ∧ byte ≤ 57 then .ok (byte - 48)
  else if 97 ≤ byte ∧ byte ≤ 102 then .ok (byte - 97 + 10)
  else if 65 ≤ byte ∧ byte ≤ 70 then .ok (byte - 65 + 10)
  else .error (.invalidDigit byte)

/-- The byte that two digits stand for.  Of two bad digits the first is reported. -/
def pair (high low : UInt8) : Except HexError UInt8 := do
  let h ← nibble high
  let l ← nibble low
  return (h <<< 4) ||| l

/-- Overwrite the start of `out` with what the pairs of `digits` stand for, up to the first bad
digit. -/
def fill : Bytes → Bytes → Bytes × Option HexError
  | high :: low :: digits, slot :: out =>
      match pair high low with
      | .ok byte =>
          let (rest, failure) := fill digits out
          (byte :: rest, failure)
      | .error failure => (slot :: out, some failure)
  | _, out => (out, none)

/-- Decode `s` into `out`.  Returns the buffer, which shows what was written before a failure, and
the number of bytes that were decoded. -/
def decode (s : Text) (out : Bytes) : Bytes × Except HexError Nat :=
  let digits := s.toBytes
  if digits.length % 2 ≠ 0 then (out, .error .oddLength)
  else if out.length < digits.length / 2 then (out, .error .noMemory)
  else
    match fill digits out with
    | (written, none) => (written, .ok (digits.length / 2))
    | (written, some failure) => (written, .error failure)

/-- Filling overwrites in place. -/
theorem length_fill (digits out : Bytes) : (fill digits out).1.length = out.length := by
  fun_induction fill digits out <;> simp_all

/-- Decoding keeps the size of the buffer, whether it succeeds or not. -/
theorem length_decode (s : Text) (out : Bytes) : (decode s out).1.length = out.length := by
  have := length_fill s.toBytes out
  unfold decode
  grind

/-- Append one digit to a number. -/
def pushDigit (value : Nat) (byte : UInt8) : Except HexError Nat := do
  let digit ← nibble byte
  return value * 16 + digit.toNat

/-- The number that one to eight digits stand for. -/
def toNat (s : Text) : Except HexError Nat :=
  let digits := s.toBytes
  if digits = [] ∨ 8 < digits.length then .error .noMemory
  else digits.foldlM pushDigit 0

end Hex

end ModemLink
