import ModemLink.Text.Integer

/-!
# Network addresses

An address is either four octets or eight groups of 16 bits.  `Address.Parser` reads addresses and
`Address.Printer` writes them.
-/

namespace ModemLink

inductive Address where
  | v4 (first second third fourth : UInt8)
  | v6 (groups : Vector UInt16 8)
  deriving DecidableEq, Repr

structure Endpoint where
  address : Address
  port : Nat
  deriving DecidableEq, Repr

namespace Address

/-- Whether the address stands for no particular host: all of its bits are zero. -/
def isUnspecified : Address → Bool
  | v4 a b c d => a = 0 && b = 0 && c = 0 && d = 0
  | v6 groups => groups.all (· = 0)

end Address

end ModemLink
