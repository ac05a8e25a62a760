import ModemLink.Command
import ModemLink.TokenTable

/-!
# Responses

A response collects the lines and the payload that answer a command.  `Response.feed` gives it one
line more: final result codes end it, with the tokens for success tried before those for failure,
and every other line is kept as the kind of the command allows.
-/

namespace ModemLink

/-- How a response ended. -/
inductive ResponseStatus where
  | success
  /-- With an error token. -/
  | modemError
  /-- Its lines are not what the kind of the command allows. -/
  | error
  /-- With a success token, but without any line that shows the label. -/
  | unknown
  deriving DecidableEq, Repr

/-- What the caller is told. -/
def ResponseStatus.check : ResponseStatus → Except Error Unit
  | .success => .ok ()
  | .modemError => .error .modemError
  | .error => .error (.text .malformed)
  | .unknown => .error .unknown

/-- What has arrived for one command. -/
structure Response where
  status : ResponseStatus
  /-- The lines before the final result code, in order. -/
  lines : List Text
  data : Bytes
  deriving DecidableEq, Repr

namespace Response

def empty : Response := { status := .error, lines := [], data := [] }

/-- Whether some line shows the label. -/
def hasLabel (response : Response) (label : Option Text) : Bool :=
  label.any fun label => response.lines.any fun line => line.beginsWith label

/-- The first line with a given label, without everything up to its colon and without blanks after
that. -/
def payload (response : Response) (label : Text) : Except TextError Text :=
  match response.lines.find? fun line => line.beginsWith label with
  | none => .error .malformed
  | some line => do
      let rest ← line.afterColon
      return rest.dropStart isAsciiBlank

/-- Add a line, if it fits. -/
def pushLine? (response : Response) (line : Text) : Option Response :=
  if line.size ≤ Limits.line ∧ response.lines.length < Limits.responseLines then
    some { response with lines := response.lines ++ [line] }
  else
    none

/-- Add payload, if it fits. -/
def pushData? (response : Response) (data : Bytes) : Option Response :=
  if response.data.length + data.length ≤ Limits.receivedPayload then
    some { response with data := response.data ++ data }
  else
    none

def finish (response : Response) (status : ResponseStatus) : Response × Option ResponseStatus :=
  ({ response with status := status }, some status)

/-- The status of a response that arrived completely: successful, unless a label is missing. -/
def completion (response : Response) (inFlight : InFlight) : ResponseStatus :=
  if inFlight.kind.requiresLabel && !response.hasLabel inFlight.label then .unknown else .success

/-- Keep a line that is no final result code. -/
def feedIntermediate (inFlight : InFlight) (response : Response) (line : Text) :
    Response × Option ResponseStatus :=
  if inFlight.kind.isSingleLine ∧ response.lines ≠ [] then response.finish .error
  else
    match response.pushLine? line with
    | none => response.finish .error
    | some response =>
        if inFlight.kind.completesWithoutResultCode then
          response.finish (response.completion inFlight)
        else
          (response, none)

/-- Process one line of the answer.  The status is there once the response is complete. -/
def feed {Handler : Type} (table : TokenTable Handler) (inFlight : InFlight) (response : Response)
    (line : Text) : Response × Option ResponseStatus :=
  if table.isSuccess inFlight.successTokens line then
    response.finish (response.completion inFlight)
  else if table.isError line then response.finish .modemError
  else feedIntermediate inFlight response line

end Response

/-! ## Telling answers from unsolicited lines -/

/-- How a line relates to the command in flight. -/
inductive LineRole where
  /-- It belongs to the answer. -/
  | solicited
  | unsolicited
  /-- It belongs to no command and has no form that is known to come unasked. -/
  | undefined
  deriving DecidableEq, Repr

/-- Whether a line begins with the label of the command. -/
def InFlight.labels (inFlight : InFlight) (line : Text) : Bool :=
  match inFlight.label with
  | none => false
  | some label =>
      match line.startsWith label with
      | .ok found => found
      | .error _ => false

/-- Whether a line is in prefix form.  A line that is too long is not. -/
def Text.hasPrefixForm (line : Text) : Bool := decide line.Bounded && line.isPrefixed

/-- The role of a line.  Lines that the table lists as unsolicited always are.  A line in prefix form
is an answer only if it begins with the label of the command in flight.  Other lines are answers if
the command has no label or a kind that allows them. -/
def LineRole.of {Handler : Type} (table : TokenTable Handler) (inFlight : Option InFlight)
    (line : Text) : LineRole :=
  if table.isBareUrc line then .unsolicited
  else
    match inFlight with
    | none => if line.hasPrefixForm then .unsolicited else .undefined
    | some inFlight =>
        if line.hasPrefixForm then
          if inFlight.kind ≠ .noCommand ∧ inFlight.labels line then .solicited else .unsolicited
        else if inFlight.kind ≠ .noCommand
            ∧ (inFlight.label = none ∨ inFlight.kind.allowsUnlabelledLines) then .solicited
        else .undefined

end ModemLink
