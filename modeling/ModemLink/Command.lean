import ModemLink.Error
import ModemLink.ReadBuffer
import ModemLink.Text.Utf8

/-!
# Commands

A command is a text and the kind of answer it has.  The *label* is the text that the answering lines
begin with, such as `+CSQ`.
-/

namespace ModemLink

/-- What a command is answered with before its final result code. -/
inductive CommandKind where
  | noResult
  /-- One line without label. -/
  | oneLine
  /-- One line with the label. -/
  | oneLabelled
  /-- Any number of lines with the label. -/
  | manyLabelled
  /-- Any number of lines without label. -/
  | manyLines
  /-- Any number of lines, possibly with raw payload. -/
  | manyLinesWithData
  /-- One line without label, and no final result code. -/
  | oneLineOnly
  /-- One line with the label, and no final result code. -/
  | oneLabelledOnly
  /-- No command at all. -/
  | noCommand
  deriving DecidableEq, Repr

namespace CommandKind

/-- Whether the answer must show the label. -/
def requiresLabel : CommandKind → Bool
  | oneLabelled | manyLabelled | oneLabelledOnly => true
  | _ => false

/-- Whether the first line is the whole answer. -/
def completesWithoutResultCode : CommandKind → Bool
  | oneLineOnly | oneLabelledOnly => true
  | _ => false

/-- Whether more than one line is an error. -/
def isSingleLine : CommandKind → Bool
  | oneLine | oneLabelled | oneLineOnly | oneLabelledOnly => true
  | _ => false

/-- Whether lines in no prefix form belong to the answer even if the command has a label. -/
def allowsUnlabelledLines : CommandKind → Bool
  | manyLinesWithData | oneLabelled | manyLabelled => true
  | _ => false

end CommandKind

/-- A command as a caller issues it. -/
structure Request where
  /-- Without terminator. -/
  command : Text
  kind : CommandKind
  label : Option Text := none
  deriving DecidableEq, Repr

namespace Request

/-- A label is present if the kind of answer needs one, and fits its bounds. -/
def labelFits (request : Request) : Bool :=
  match request.label with
  | some label => label ≠ [] && label.size ≤ Limits.responsePrefix
  | none => !request.kind.requiresLabel

/-- Refuse requests that cannot be sent or answered. -/
def check (request : Request) : Except Error Unit :=
  if request.command = [] ∨ Limits.command < request.command.size then .error .badParameter
  else if request.kind = .noCommand then .error .badParameter
  else if request.labelFits then .ok ()
  else .error .badParameter

/-- The bytes on the wire, if they fit. -/
def encode (request : Request) (terminator : Bytes) : Except Error Bytes :=
  let bytes := request.command.toBytes ++ terminator
  if bytes.length ≤ Limits.commandWithTerminator then .ok bytes else .error .badParameter

end Request

/-- Raw payload that follows a command after the prompt of the modem. -/
structure Payload where
  data : Bytes
  /-- Sent right after the data when the modem wants a terminator. -/
  ending : Option Bytes := none
  deriving DecidableEq, Repr

namespace Payload

/-- Payload that may be sent is neither empty nor too long. -/
def check (payload : Payload) : Except Error Unit :=
  if payload.data = [] ∨ Limits.sentPayload < payload.data.length then .error .badParameter
  else .ok ()

end Payload

/-- What the receive loop has to know of the command in flight. -/
structure InFlight where
  kind : CommandKind
  label : Option Text
  hooks : Hooks
  /-- Success tokens of this command only. -/
  successTokens : List Text

end ModemLink
