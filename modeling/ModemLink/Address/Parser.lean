import ModemLink.Address.Basic

/-!
# Reading addresses

The dotted form has four decimal octets; only the octet zero begins with a zero, and it may consist
of any number of them.  The colon form has eight groups of one to four hexadecimal digits.  One `::`
stands for the groups that are missing, at least one, and a dotted tail may take the place of the
last two groups.  A reader returns what it read together with the rest; `Address.ofText?` wants no
rest.
-/

namespace ModemLink.Address

/-- A number of at least one digit: the digits at the start of `s`, the value they stand for, and the
rest. -/
def readNumber (radix : Nat) (s : Text) : Option (List Nat × Nat × Text) :=
  match Text.leadingDigits radix s with
  | [] => none
  | digits => some (digits, Text.ofDigits radix digits, s.drop digits.length)

/-- One octet of the dotted form. -/
def readOctet (s : Text) : Option (UInt8 × Text) := do
  let (digits, value, rest) ← readNumber 10 s
  if 256 ≤ value ∨ (digits.head? = some 0 ∧ value ≠ 0) then none
  else some (UInt8.ofNat value, rest)

def readChar (c : Char) : Text → Option Text
  | [] => none
  | d :: rest => if d = c then some rest else none

/-- Four octets between dots. -/
def readDotted (s : Text) : Option ((UInt8 × UInt8 × UInt8 × UInt8) × Text) := do
  let (a, s) ← readOctet s
  let (b, s) ← readOctet (← readChar '.' s)
  let (c, s) ← readOctet (← readChar '.' s)
  let (d, s) ← readOctet (← readChar '.' s)
  return ((a, b, c, d), s)

/-- The colon in front of every group but the first of a run. -/
def readSeparator (first : Bool) (s : Text) : Option Text :=
  if first then some s else readChar ':' s

/-- One group, with the colon in front of it. -/
def readGroup (first : Bool) (s : Text) : Option (UInt16 × Text) := do
  let (digits, value, rest) ← readNumber 16 (← readSeparator first s)
  if 4 < digits.length then none
  else some (UInt16.ofNat value, rest)

/-- Two octets as one group. -/
def joinOctets (high low : UInt8) : UInt16 := (high.toUInt16 <<< 8) ||| low.toUInt16

/-- A dotted tail as two groups, with the colon in front of it. -/
def readDottedTail (first : Bool) (s : Text) : Option ((UInt16 × UInt16) × Text) := do
  let ((a, b, c, d), rest) ← readDotted (← readSeparator first s)
  return ((joinOctets a b, joinOctets c d), rest)

/-- The longest run of groups that fits into `room`.  The flag tells whether the run ended with a
dotted tail. -/
def readGroups (first : Bool) : Nat → Text → List UInt16 × Bool × Text
  | 0, s => ([], false, s)
  | room + 1, s =>
      match if room = 0 then none else readDottedTail first s with
      | some ((high, low), rest) => ([high, low], true, rest)
      | none =>
          match readGroup first s with
          | none => ([], false, s)
          | some (group, rest) =>
              let (groups, dotted, rest) := readGroups false room rest
              (group :: groups, dotted, rest)

/-- The address with `head` at its start, `tail` at its end, and zero groups between them. -/
def ofHeadTail (head tail : List UInt16) : Address :=
  let groups := head ++ List.replicate (8 - head.length - tail.length) 0 ++ tail
  .v6 (Vector.ofFn fun i => groups.getD i 0)

/-- The colon form. -/
def readColonForm (s : Text) : Option (Address × Text) :=
  let (head, dotted, rest) := readGroups true 8 s
  if head.length = 8 then
    some (ofHeadTail head [], rest)
  else if dotted then
    none
  else do
    let rest ← readChar ':' (← readChar ':' rest)
    let (tail, _, rest) := readGroups true (7 - head.length) rest
    return (ofHeadTail head tail, rest)

def read (s : Text) : Option (Address × Text) :=
  match readDotted s with
  | some ((a, b, c, d), rest) => some (.v4 a b c d, rest)
  | none => readColonForm s

/-- The address that the whole of `s` denotes. -/
def ofText? (s : Text) : Option Address :=
  match read s with
  | some (address, []) => some address
  | _ => none

end ModemLink.Address
