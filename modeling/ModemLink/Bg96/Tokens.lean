import ModemLink.Urc.Standard

/-!
# The token table of the BG96

Besides the codes of every modem, the BG96 reports the signal (`+QIND`), the outcome of an open
request (`+QIOPEN`), and what happens to sockets and contexts (`+QIURC`).
-/

namespace ModemLink.Bg96

def signalReport (device : Device) (fields : Text) : Device × Except TextError Unit :=
  let reading : Except TextError (Nat × Nat) := do
    let (rssi, fields) ← fields.takeField
    let rssi ← rssi.toWord 8 10
    let (ber, _) ← fields.takeField
    return (rssi, ← ber.toWord 8 10)
  match reading with
  | .error failure => (device, .error failure)
  | .ok (rssi, ber) =>
      (device.signalChanged ((Signal.ofCsq rssi ber).withBars device.registration.radio), .ok ())

/-- `+QIND: "csq",<rssi>,<ber>`.  Other indications mean nothing here. -/
def indication : UrcHandler := fun device payload =>
  match payload.compact.bind Text.takeField with
  | .error failure => (device, .error failure)
  | .ok (kind, fields) =>
      if kind = "csq".toList then signalReport device fields else (device, .ok ())

/-- Drive a socket.  An event that the socket does not accept makes the line unacceptable. -/
def socketReport (device : Device) (handle : SocketHandle) (event : SocketEvent) :
    Device × Except TextError Unit :=
  match device.socketEvent handle event with
  | (device, .ok ()) => (device, .ok ())
  | (device, .error _) => (device, .error .malformed)

/-- `+QIOPEN: <socket>,<error>`; the error zero means success. -/
def openReport : UrcHandler := fun device payload =>
  let fields : Except TextError (Nat × Nat) := do
    let (handle, rest) ← (← payload.compact).takeField
    let handle ← handle.toWord 8 10
    let (failure, _) ← rest.takeField
    return (handle, ← failure.toWord 16 10)
  match fields with
  | .error failure => (device, .error failure)
  | .ok (handle, failure) =>
      socketReport device handle (if failure = 0 then .opened else .openFailed)

/-- The kinds of `+QIURC` that are acted on. -/
inductive ConnectionReport where
  | received
  | closed
  | deactivated
  deriving DecidableEq, Repr

def ConnectionReport.ofName? (name : Text) : Option ConnectionReport :=
  if name = "recv".toList then some .received
  else if name = "closed".toList then some .closed
  else if name = "pdpdeact".toList then some .deactivated
  else none

/-- `+QIURC: "recv"|"closed",<socket>` and `+QIURC: "pdpdeact",<context>`.  Other kinds mean nothing
here. -/
def connectionReport : UrcHandler := fun device payload =>
  match payload.compact.bind Text.takeField with
  | .error failure => (device, .error failure)
  | .ok (name, fields) =>
      match ConnectionReport.ofName? name with
      | none => (device, .ok ())
      | some kind =>
          match fields.takeField.bind fun field => field.1.toWord 8 10 with
          | .error failure => (device, .error failure)
          | .ok id =>
              match kind with
              | .received => socketReport device id .dataReady
              | .closed => socketReport device id .remoteClosed
              | .deactivated => device.contextDeactivated id

/-- The tokens and handlers of the BG96. -/
def tokenTable : TokenTable UrcHandler :=
  { errors := ["ERROR", "BUSY", "NO CARRIER", "NO ANSWER", "NO DIALTONE", "ABORTED", "+CMS ERROR",
      "+CME ERROR", "SEND FAIL"]
    successes := ["OK", "CONNECT", "SEND OK", ">"]
    extraSuccesses := []
    bareUrcs := ["NORMAL POWER DOWN", "PSM POWER DOWN", "RDY"]
    urcs := #[⟨"CEREG", some (Urc.registration .cereg)⟩, ⟨"CGREG", some (Urc.registration .cgreg)⟩,
      ⟨"CREG", some (Urc.registration .creg)⟩, ⟨"NORMAL POWER DOWN", some Urc.powerDown⟩,
      ⟨"PSM POWER DOWN", some Urc.powerSaving⟩, ⟨"QIND", some indication⟩,
      ⟨"QIOPEN", some openReport⟩, ⟨"QIURC", some connectionReport⟩, ⟨"RDY", some Urc.ready⟩] }

end ModemLink.Bg96
