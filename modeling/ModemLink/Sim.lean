import ModemLink.Text.Basic

/-!
# The SIM card
-/

namespace ModemLink.Sim

/-- Whether a card is present. -/
inductive Presence where
  | unknown
  | removed
  | inserted
  deriving DecidableEq, Repr

/-- What keeps the card from being used. -/
inductive Lock where
  | ready
  | pin
  | puk
  | pin2
  | puk2
  | networkPin
  | networkPuk
  | subnetworkPin
  | subnetworkPuk
  | providerPin
  | providerPuk
  | corporatePin
  | corporatePuk
  | imsiPin
  | imsiPuk
  | unknown
  deriving DecidableEq, Repr

/-- The codes of `+CPIN` and the locks they announce. -/
def lockCodes : List (Text × Lock) :=
  [("READY", .ready), ("SIM PIN", .pin), ("SIM PUK", .puk), ("SIM PIN2", .pin2),
    ("SIM PUK2", .puk2), ("PH-NET PIN", .networkPin), ("PH-NET PUK", .networkPuk),
    ("PH-NETSUB PIN", .subnetworkPin), ("PH-NETSUB PUK", .subnetworkPuk),
    ("PH-SP PIN", .providerPin), ("PH-SP PUK", .providerPuk), ("PH-CORP PIN", .corporatePin),
    ("PH-CORP PUK", .corporatePuk), ("PH-SIM PIN", .imsiPin), ("PH-SIM PUK", .imsiPuk)]

/-- The lock that a code of `+CPIN` announces. -/
def Lock.ofCode (code : Text) : Lock := (lockCodes.lookup code).getD .unknown

structure Status where
  presence : Presence
  lock : Lock
  deriving DecidableEq, Repr

def Status.unknown : Status := { presence := .unknown, lock := .unknown }

end ModemLink.Sim
