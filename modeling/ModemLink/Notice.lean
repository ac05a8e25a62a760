import ModemLink.Registration.Basic
import ModemLink.Signal
import ModemLink.Socket.Basic

/-!
# Notices

What the application is told without having asked.  A notice carries what the listener sees when it
is called.
-/

namespace ModemLink

/-- What happens to the modem as a whole. -/
inductive ModemEvent where
  | started
  | poweredDown
  | enteredPowerSaving
  deriving DecidableEq, Repr

/-- One call of a listener. -/
inductive Notice where
  | registration (domain : Registration.Domain) (summary : Registration.Summary)
  /-- A context became active or inactive; `seen` is what the table shows at that moment. -/
  | context (active : Bool) (id : Nat) (seen : Pdn.Activation)
  | signal (signal : Signal)
  | modem (event : ModemEvent)
  /-- A line without a handler, or one that its handler refused. -/
  | line (text : Text)
  /-- A socket moved; `seen` is the state it is in now. -/
  | socket (handle : SocketHandle) (notice : SocketNotice) (seen : SocketState)
  deriving DecidableEq, Repr

/-- The notices that the application wants.  Sockets have listeners of their own. -/
structure Listeners where
  registration : Bool := true
  context : Bool := true
  signal : Bool := true
  modem : Bool := true
  line : Bool := true
  deriving DecidableEq, Repr

namespace Listeners

def none : Listeners :=
  { registration := false, context := false, signal := false, modem := false, line := false }

/-- Whether a notice is wanted.  Socket notices are sent only if the owner of the socket wants
them, and are not filtered again. -/
def wants (listeners : Listeners) : Notice → Bool
  | .registration .. => listeners.registration
  | .context .. => listeners.context
  | .signal _ => listeners.signal
  | .modem _ => listeners.modem
  | .line _ => listeners.line
  | .socket .. => true

end Listeners

end ModemLink
