import ModemLink.Urc.Dispatch

/-!
# Unsolicited result codes of every modem

The registration reports of 3GPP, and the lines that announce a start and the two ways of going
down.
-/

namespace ModemLink.Urc

/-- A registration report that came unasked. -/
def registration (report : Registration.Report) : UrcHandler := fun device payload =>
  device.applyRegistration report payload true

def ready : UrcHandler := fun device _ => (device.modemEvent .started, .ok ())

def powerDown : UrcHandler := fun device _ => (device.modemEvent .poweredDown, .ok ())

def powerSaving : UrcHandler := fun device _ => (device.modemEvent .enteredPowerSaving, .ok ())

end ModemLink.Urc
