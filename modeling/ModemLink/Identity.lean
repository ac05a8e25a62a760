import ModemLink.Text.Basic

/-!
# What the modem says about itself
-/

namespace ModemLink

/-- Manufacturer, model, firmware and serial number of the modem. -/
structure Identity where
  manufacturer : Text
  model : Text
  firmware : Text
  imei : Text
  deriving DecidableEq, Repr

namespace Identity

/-- Bytes kept of each text but the serial number. -/
def textCapacity : Nat := 32

/-- Bytes kept of the serial number. -/
def imeiCapacity : Nat := 16

def unknown : Identity := { manufacturer := [], model := [], firmware := [], imei := [] }

end Identity

end ModemLink
