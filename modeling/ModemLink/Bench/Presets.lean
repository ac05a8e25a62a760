import ModemLink.Address.Parser
import ModemLink.Bg96.PayloadHeader
import ModemLink.Urc.Dispatch

/-!
# Ready-made parts for a bench

Configurations with short times or unusual line ends, and hooks and a handler that no particular
modem has.
-/

namespace ModemLink.Bench

/-! ## Configurations -/

/-- Short times. -/
def quickConfig : Config := { commandTimeout := 200, sendTimeout := 50 }

/-- Only CR and LF together end a line, sent or received. -/
def pairConfig : Config := { commandTimeout := 1000, terminator := [13, 10], lineEnding := .pair }

/-- A terminator too long for the longest command. -/
def longTerminatorConfig : Config := { terminator := [13, 10, 13, 10, 13, 10, 13, 10, 13] }

/-! ## Hooks -/

/-- Recognise the header `#<length>` and LF.  The length has no bound. -/
def hashHeader : Bytes → HeaderMatch
  | 35 :: bytes =>
      let digits := bytes.takeWhile (· ≠ 10)
      if digits.length = bytes.length then .incomplete
      else
        match (Text.ofBytes? digits).bind Text.toSize? with
        | none => .absent
        | some length => .found (digits.length + 2) length
  | _ => .absent

/-- A prompt of no bytes at all. -/
def emptyPrompt : Bytes → Option Nat := fun _ => some 0

/-- A prompt one byte longer than what has arrived. -/
def overlongPrompt : Bytes → Option Nat := fun bytes => some (bytes.length + 1)

def connectPrompt : Bytes → Option Nat := fun bytes =>
  if (Text.toBytes "CONNECT").isPrefixOf bytes then some 7 else none

/-! ## Handlers -/

/-- `<context>[,<address>]`: a context was activated. -/
def activationReport : UrcHandler := fun device payload =>
  let fields : Except TextError (Nat × Option Address) := do
    let (id, rest) ← payload.takeField
    let id ← id.toWord 8 10
    if rest = [] then
      return (id, none)
    match Address.ofText? rest with
    | some address => return (id, some address)
    | none => throw .malformed
  match fields with
  | .error failure => (device, .error failure)
  | .ok (id, address) => device.contextActivated id address

end ModemLink.Bench
