import ModemLink.Engine.Call

/-!
# Requests

A request sends a command and waits for its outcome; a payload request sends raw bytes in addition,
once the modem has prompted for them.  Both hold the lock from the first byte to the last line.  The
reader of a response runs only if that ended with a success token.
-/

namespace ModemLink.Request

variable {α : Type}

/-- The tokens that end the command phase of a payload request. -/
def promptTokens : List Text := [">"]

/-- Hand all of `bytes` to the link.  Fewer are a failure of the link. -/
def transmitAll (profile : Profile) (bytes : Bytes) : Caller Unit := ExceptT.mk <|
  Call.transmit bytes profile.config.sendTimeout fun
    | .error cause => Call.done (.error (.ofLink cause))
    | .ok sent =>
        Call.done (if sent = bytes.length then .ok () else .error (.link .failure))

/-- Run a part of a request.  If it fails, the command is withdrawn. -/
def withdrawOnFailure (body : Caller α) : Caller α := do
  match ← body.attempt with
  | .ok value => return value
  | .error failure =>
      Caller.exchange Exchange.withdraw
      throw failure

/-- Wait for the outcome of the command in flight.  A command that took too long is withdrawn. -/
def awaitStatus (timeout : Nat) : Caller ResponseStatus := do
  match ← ExceptT.lift (Call.awaitOutcome timeout Call.done) with
  | some outcome => Caller.ofExcept outcome
  | none =>
      Caller.exchange Exchange.withdraw
      throw .timeout

/-- Send a command and wait for its status, while the lock is held. -/
def exchange (profile : Profile) (request : Request) (timeout : Nat) (hooks : Hooks)
    (successTokens : List Text) : Caller ResponseStatus := do
  let bytes ← Caller.ofExcept (request.encode profile.config.terminator)
  Caller.exchange fun exchange => exchange.start
    { kind := request.kind, label := request.label, hooks := hooks, successTokens := successTokens }
  withdrawOnFailure (transmitAll profile bytes)
  awaitStatus timeout

/-- Send a command and read its response. -/
def run (profile : Profile) (request : Request) (timeout : Nat) (hooks : Hooks)
    (read : Response → Except Error α) : Caller α := do
  Caller.checkOpen
  Caller.ofExcept request.check
  Caller.locked do
    let status ← exchange profile request timeout hooks []
    Caller.ofExcept status.check
    Caller.ofExcept (read (← Caller.engine).exchange.response)

/-- Send a command within the usual time and read its response. -/
def send (profile : Profile) (request : Request) (read : Response → Except Error α) : Caller α :=
  request.run profile profile.config.commandTimeout .none read

/-- Send a command whose response may carry raw payload after a header. -/
def sendWithHeader (profile : Profile) (request : Request) (header : Bytes → HeaderMatch)
    (read : Response → Except Error α) : Caller α :=
  request.run profile profile.config.commandTimeout { header := some header, prompt := none } read

/-- Send a command of which only the outcome counts. -/
def sendPlain (profile : Profile) (request : Request) : Caller Unit :=
  request.send profile fun _ => .ok ()

/-- The bytes of a payload and then its terminator, if it has one.  Ends with the number of payload
bytes. -/
def transmitPayload (profile : Profile) (payload : Payload) : Caller Nat := do
  transmitAll profile payload.data
  match payload.ending with
  | some ending => transmitAll profile ending
  | none => pure ()
  return payload.data.length

/-- Send a command, wait for the prompt of the modem, send the payload, and wait for the final result
code.  `successTokens` count as success of the payload phase.  Ends with the number of payload bytes
sent. -/
def sendPayload (profile : Profile) (request : Request) (payload : Payload)
    (prompt : Bytes → Option Nat) (successTokens : List Text) : Caller Nat := do
  Caller.checkOpen
  Caller.ofExcept request.check
  Caller.ofExcept (profile.table.checkSuccesses promptTokens)
  Caller.ofExcept (profile.table.checkSuccesses successTokens)
  Caller.ofExcept payload.check
  Caller.locked do
    let timeout := profile.config.commandTimeout
    let prompted ← exchange profile request timeout { header := none, prompt := some prompt }
      promptTokens
    Caller.ofExcept prompted.check
    Caller.exchange fun exchange => exchange.start
      { kind := .noResult, label := none, hooks := .none, successTokens := successTokens }
    let sent ← withdrawOnFailure (transmitPayload profile payload)
    let status ← awaitStatus timeout
    Caller.ofExcept status.check
    return sent

end ModemLink.Request
