import ModemLink.Device
import ModemLink.TokenTable
import ModemLink.Response

/-!
# Unsolicited result codes

`Device.dispatch` hands an unsolicited line to the handler that the token table has for it.  A line
without a handler, and one that its handler refuses, goes to whoever listens for lines.
-/

namespace ModemLink

/-- A handler of one unsolicited result code.  It gets the payload of the line, and what it did to
the device stays done when it refuses the line in the end. -/
abbrev UrcHandler := Device → Text → Device × Except TextError Unit

/-- The token of an unsolicited line and the payload for its handler.  In prefix form the token
stands between the plus signs and the colon, and the payload follows the colon.  Any other line is
its own token and payload. -/
def Text.urcToken (line : Text) : Text × Text :=
  if line.hasPrefixForm then
    (line.beforeColon.dropStart (· = '+'), line.fromColon.drop 1)
  else
    (line.trim, line.trim)

namespace Device

/-- Let the handler of an entry take the line. -/
def handleUrc (device : Device) (entry : UrcEntry UrcHandler) (payload : Text) :
    Device × Except TextError Unit :=
  match entry.handler with
  | some handler => handler device payload
  | none => (device, .error .unsupported)

/-- Process an unsolicited line. -/
def dispatch (table : TokenTable UrcHandler) (device : Device) (line : Text) : Device :=
  let (token, payload) := line.urcToken
  match table.find? token with
  | none => device.genericLine line
  | some entry =>
      match device.handleUrc entry payload with
      | (device, .ok ()) => device
      | (device, .error _) => device.genericLine line

end Device

end ModemLink
