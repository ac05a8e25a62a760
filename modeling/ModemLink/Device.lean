import ModemLink.Notice
import ModemLink.Registration.Tracker
import ModemLink.Socket.Table

/-!
# What is known of the modem

A `Device` holds the registration, the signal, the sockets and the contexts, and the log of the
notices that listeners were sent.  The operations here are what handlers of unsolicited result codes
may do.  Each changes its part first and notifies afterwards, so a listener sees the new state.
-/

namespace ModemLink

/-- The modem as the engine knows it. -/
structure Device where
  registration : Registration.Tracker
  signal : Signal
  sockets : SocketTable
  pdn : Pdn.Table
  listeners : Listeners
  /-- All notices sent so far, the oldest first. -/
  notices : List Notice
  deriving DecidableEq, Repr

namespace Device

def initial (listeners : Listeners) : Device :=
  { registration := .initial, signal := .unknown, sockets := .initial, pdn := .initial
    listeners := listeners, notices := [] }

def notify (device : Device) (notice : Notice) : Device :=
  if device.listeners.wants notice then { device with notices := device.notices ++ [notice] }
  else device

/-! ## Registration, signal and power -/

/-- Apply a registration report.  A changed status is notified. -/
def applyRegistration (device : Device) (report : Registration.Report) (payload : Text)
    (unsolicited : Bool) : Device × Except TextError Unit :=
  let (registration, answer) := device.registration.update report payload unsolicited
  let device := { device with registration := registration }
  match answer with
  | .error failure => (device, .error failure)
  | .ok none => (device, .ok ())
  | .ok (some domain) => (device.notify (.registration domain registration.summary), .ok ())

/-- The modem as a whole did something.  One that has started knows no registration. -/
def modemEvent (device : Device) (event : ModemEvent) : Device :=
  let device := match event with
    | .started => { device with registration := .initial }
    | _ => device
  device.notify (.modem event)

/-- A new reading of the signal. -/
def signalChanged (device : Device) (signal : Signal) : Device :=
  { device with signal := signal }.notify (.signal signal)

/-! ## Contexts -/

/-- Notify that a context became active or inactive. -/
def contextNotice (device : Device) (active : Bool) (id : Nat) : Device :=
  match device.pdn.activation id with
  | .ok seen => device.notify (.context active id seen)
  | .error _ => device

/-- A context is active.  A change is notified. -/
def contextActivated (device : Device) (id : Nat) (address : Option Address) :
    Device × Except TextError Unit :=
  let (pdn, answer) := device.pdn.setActive id address
  let device := { device with pdn := pdn }
  match answer with
  | .error _ => (device, .error .badParameter)
  | .ok changed => (if changed then device.contextNotice true id else device, .ok ())

/-- A context is inactive.  A change is notified. -/
def contextDeactivated (device : Device) (id : Nat) : Device × Except TextError Unit :=
  let (pdn, answer) := device.pdn.setInactive id
  let device := { device with pdn := pdn }
  match answer with
  | .error _ => (device, .error .badParameter)
  | .ok changed => (if changed then device.contextNotice false id else device, .ok ())

/-- All contexts are lost.  Each that was in use is notified, in ascending order. -/
def loseContexts (device : Device) : Device :=
  let (pdn, lost) := device.pdn.deactivateAll
  lost.foldl (fun device id => device.contextNotice false id) { device with pdn := pdn }

/-! ## Sockets -/

/-- Drive the lifecycle of a socket and tell its owner. -/
def socketEvent (device : Device) (handle : SocketHandle) (event : SocketEvent) :
    Device × Except Error Unit :=
  let (sockets, answer) := device.sockets.transition handle event
  let device := { device with sockets := sockets }
  match answer with
  | .error failure => (device, .error failure)
  | .ok none => (device, .ok ())
  | .ok (some notice) =>
      match sockets.state handle with
      | .ok seen => (device.notify (.socket handle notice seen), .ok ())
      | .error _ => (device, .ok ())

/-- The link broke: every socket moves towards failure, in ascending order of the handles. -/
def loseSockets (device : Device) : Device :=
  SocketTable.allHandles.foldl (fun device handle => (device.socketEvent handle .linkFailed).1)
    device

/-- A line that nobody else takes. -/
def genericLine (device : Device) (line : Text) : Device := device.notify (.line line)

end Device

end ModemLink
