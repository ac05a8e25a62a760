/-!
# What can go wrong

Three layers report errors: the text helpers, the byte link, and the engine that callers talk to.
The engine absorbs the causes of the lower layers where it has one of its own, and carries them
along otherwise (`Error.ofText`, `Error.ofLink`).
-/

namespace ModemLink

/-- Why a piece of modem text could not be handled. -/
inductive TextError where
  /-- The text is empty, too long, or not of the form the operation asks for. -/
  | badParameter
  /-- The result does not fit its destination. -/
  | noMemory
  | unsupported
  /-- The text is not a value of the kind asked for. -/
  | malformed
  deriving DecidableEq, Repr

/-- Why the byte link refused or failed an operation. -/
inductive LinkError where
  | failure
  | badParameter
  | noMemory
  | timeout
  | driver
  | busy
  deriving DecidableEq, Repr

/-- Why a call of the engine failed. -/
inductive Error where
  | invalidHandle
  | modemNotReady
  | notOpen
  | alreadyOpen
  | badParameter
  | noMemory
  | timeout
  | socketClosed
  | socketNotConnected
  | internalFailure
  | resourceCreation
  | unsupported
  | notAllowed
  | unknown
  /-- The modem answered the command with an error token. -/
  | modemError
  | text (cause : TextError)
  | link (cause : LinkError)
  deriving DecidableEq, Repr

namespace Error

/-- A text cause that the engine has a name for takes that name. -/
def ofText : TextError → Error
  | .badParameter => .badParameter
  | .noMemory => .noMemory
  | .unsupported => .unsupported
  | .malformed => .text .malformed

/-- A link that ran out of time is a timeout of the call. -/
def ofLink : LinkError → Error
  | .timeout => .timeout
  | cause => .link cause

end Error

end ModemLink
