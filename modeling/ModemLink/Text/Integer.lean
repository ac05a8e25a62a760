import ModemLink.Text.Basic

/-!
# Numbers in text

`Text.toInt` reads the integer at the start of a text in any radix from 2 to 36, ignores what
follows the digits, and accepts the range of a signed 32-bit word.  `Text.toIntIn` narrows it to a
smaller range, and `Text.toNatBelow` to numbers below a bound.
-/

namespace ModemLink

/-- A closed range of integers. -/
structure IntRange where
  low : Int
  high : Int
  deriving DecidableEq, Repr

namespace IntRange

def Contains (range : IntRange) (n : Int) : Prop := range.low ≤ n ∧ n ≤ range.high

instance (range : IntRange) (n : Int) : Decidable (range.Contains n) :=
  inferInstanceAs (Decidable (_ ∧ _))

/-- The values of a signed word of `bits` bits. -/
def signed (bits : Nat) : IntRange := ⟨-Int.pow 2 (bits - 1), Int.pow 2 (bits - 1) - 1⟩

/-- The values of an unsigned word of `bits` bits. -/
def unsigned (bits : Nat) : IntRange := ⟨0, Int.pow 2 bits - 1⟩

end IntRange

namespace Text

/-- The value of a letter or digit as a digit: `0` to `9`, then the letters in either case. -/
def digitValue (c : Char) : Option Nat :=
  if '0' ≤ c ∧ c ≤ '9' then some (c.toNat - '0'.toNat)
  else if 'a' ≤ c ∧ c ≤ 'z' then some (c.toNat - 'a'.toNat + 10)
  else if 'A' ≤ c ∧ c ≤ 'Z' then some (c.toNat - 'A'.toNat + 10)
  else none

/-- The value of a character as a digit in `radix`. -/
def digitIn (radix : Nat) (c : Char) : Option Nat :=
  (digitValue c).filter (· < radix)

/-- The values of the longest run of digits at the start. -/
def leadingDigits (radix : Nat) : Text → List Nat
  | [] => []
  | c :: rest =>
      match digitIn radix c with
      | some digit => digit :: leadingDigits radix rest
      | none => []

/-- The number that a list of digits stands for, the most significant digit first. -/
def ofDigits (radix : Nat) (digits : List Nat) : Nat :=
  digits.foldl (fun value digit => value * radix + digit) 0

/-- Split off at most one sign.  The flag tells whether it is a minus. -/
def takeSign : Text → Bool × Text
  | '-' :: rest => (true, rest)
  | '+' :: rest => (false, rest)
  | s => (false, s)

/-- The integer at the start of `s`, after ASCII blanks and at most one sign. -/
def toInt (radix : Nat) (s : Text) : Except TextError Int :=
  if 2 ≤ radix ∧ radix ≤ 36 then
    let (negative, unsigned) := takeSign (s.dropStart isAsciiBlank)
    match leadingDigits radix unsigned with
    | [] => .error .malformed
    | digits =>
        let magnitude : Int := ofDigits radix digits
        let value := if negative then -magnitude else magnitude
        if (IntRange.signed 32).Contains value then .ok value else .error .malformed
  else
    .error .badParameter

/-- `toInt` for values of `range` only. -/
def toIntIn (range : IntRange) (radix : Nat) (s : Text) : Except TextError Int := do
  let value ← s.toInt radix
  if range.Contains value then .ok value else .error .malformed

/-- `toInt` for an unsigned word of `bits` bits. -/
def toWord (bits : Nat) (radix : Nat) (s : Text) : Except TextError Nat := do
  let value ← s.toIntIn (IntRange.unsigned bits) radix
  return value.toNat

/-- A whole text that is a decimal number without sign or with a plus sign.  Sizes are machine
words, so the value must lie below `UInt64.size`. -/
def toSize? (s : Text) : Option Nat :=
  let digits := match s with
    | '+' :: rest => rest
    | _ => s
  if digits ≠ [] ∧ digits.all Char.isDigit then
    let value := ofDigits 10 (leadingDigits 10 digits)
    if value < UInt64.size then some value else none
  else
    none

/-- The decimal form of a number. -/
def ofNat (n : Nat) : Text := Nat.toDigits 10 n

end Text

end ModemLink
