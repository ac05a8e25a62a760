import ModemLink.Address.Basic

/-!
# Writing addresses

Four octets are written in dotted form.  Of eight groups, the first longest run of at least two
zero groups is written as `::`.  Addresses that embed a dotted address, with five zero groups in
front and a sixth of zeros or ones, show it; `::` and `::1` are no such addresses.
-/

namespace ModemLink

namespace Address

def dotted (a b c d : Nat) : Text := Text.join "." ([a, b, c, d].map Text.ofNat)

/-- Groups in lower case, without leading zeros, between colons. -/
def colonForm (groups : List UInt16) : Text :=
  Text.join ":" (groups.map fun group => Nat.toDigits 16 group.toNat)

/-- Where the first longest run of zero groups starts, and how long it is. -/
def longestZeroRun : List UInt16 → Nat × Nat
  | [] => (0, 0)
  | group :: groups =>
      let here := ((group :: groups).takeWhile (· = 0)).length
      let (start, length) := longestZeroRun groups
      if length ≤ here then (0, here) else (start + 1, length)

/-- The colon form with its longest run of zero groups left out. -/
def compressed (groups : List UInt16) : Text :=
  let (start, length) := longestZeroRun groups
  if 2 ≤ length then
    colonForm (groups.take start) ++ "::".toList ++ colonForm (groups.drop (start + length))
  else
    colonForm groups

/-- The dotted form of the last two groups. -/
def dottedTail (high low : UInt16) : Text :=
  dotted (high.toNat / 256) (high.toNat % 256) (low.toNat / 256) (low.toNat % 256)

/-- The eight groups of an address as text. -/
def groupsText : List UInt16 → Text
  | [0, 0, 0, 0, 0, 0, 0, 0] => "::"
  | [0, 0, 0, 0, 0, 0, 0, 1] => "::1"
  | [0, 0, 0, 0, 0, 0, high, low] => "::".toList ++ dottedTail high low
  | [0, 0, 0, 0, 0, 0xFFFF, high, low] => "::ffff:".toList ++ dottedTail high low
  | groups => compressed groups

def toText : Address → Text
  | v4 a b c d => dotted a.toNat b.toNat c.toNat d.toNat
  | v6 groups => groupsText groups.toList

end Address

/-- The text of an address and a port; brackets keep the colons of the two apart. -/
def Endpoint.toText (endpoint : Endpoint) : Text :=
  match endpoint.address with
  | .v4 .. => endpoint.address.toText ++ ':' :: Text.ofNat endpoint.port
  | .v6 _ => '[' :: endpoint.address.toText ++ "]:".toList ++ Text.ofNat endpoint.port

end ModemLink
