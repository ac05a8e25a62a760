import ModemLink.Address.Parser
import ModemLink.Engine.Request
import ModemLink.Identity
import ModemLink.Sim

/-!
# Queries of every modem

The 3GPP commands that ask for signal, registration, SIM card, identity and contexts.  What they
report about the modem is kept in the device, as if it had come unasked.
-/

namespace ModemLink.Query

/-- The request for lines with a label. -/
def labelled (command label : Text) : Request :=
  { command := command, kind := .oneLabelled, label := some label }

/-- The result of a text helper as the result of a call. -/
def ofText {α : Type} (result : Except TextError α) : Except Error α :=
  result.mapError Error.ofText

/-! ## Signal -/

def signalLabel : Text := "+CSQ"

/-- The two raw numbers of `+CSQ`. -/
def readSignal (response : Response) : Except Error (Nat × Nat) := ofText do
  let (rssi, rest) ← (← response.payload signalLabel).takeField
  let rssi ← rssi.toWord 8 10
  let (ber, _) ← rest.takeField
  return (rssi, ← ber.toWord 8 10)

def signalQuality (profile : Profile) : Caller Signal := do
  let (rssi, ber) ← (labelled "AT+CSQ" signalLabel).send profile readSignal
  let radio := (← Caller.engine).device.registration.radio
  let signal := (Signal.ofCsq rssi ber).withBars radio
  Caller.act fun engine => { engine with device := { engine.device with signal := signal } }
  return signal

/-! ## Registration -/

/-- The command that asks for a report. -/
def registrationCommand : Registration.Report → Text
  | .creg => "AT+CREG?"
  | .cgreg => "AT+CGREG?"
  | .cereg => "AT+CEREG?"

/-- Ask for one report and apply it. -/
def registrationReport (profile : Profile) (report : Registration.Report) : Caller Unit := do
  let payload ← (labelled (registrationCommand report) report.label).send profile fun response =>
    ofText do Text.copy Limits.line (← response.payload report.label)
  Caller.report fun device => device.applyRegistration report payload false

/-- Ask for one report.  A modem that rejects the command leaves its domain as it is. -/
def optionalReport (profile : Profile) (report : Registration.Report) : Caller Unit := do
  match ← (registrationReport profile report).attempt with
  | .ok () | .error .modemError => return
  | .error failure => throw failure

def registration (profile : Profile) : Caller Registration.Summary := do
  optionalReport profile .creg
  optionalReport profile .cgreg
  optionalReport profile .cereg
  return (← Caller.engine).device.registration.summary

/-! ## SIM card -/

def simLabel : Text := "+CPIN"

def readLock (response : Response) : Except Error Sim.Lock := ofText do
  let code ← Text.unquote (← response.payload simLabel)
  return Sim.Lock.ofCode code.trim

/-- Ask for the state of the SIM card.  A modem that answers with an error has none. -/
def simCard (profile : Profile) : Caller Sim.Status := do
  match ← ((labelled "AT+CPIN?" simLabel).send profile readLock).attempt with
  | .ok lock => return { presence := .inserted, lock := lock }
  | .error .modemError => return { presence := .removed, lock := .unknown }
  | .error failure => throw failure

/-! ## Identity -/

/-- The first line of a response, if it fits. -/
def readLine (capacity : Nat) (response : Response) : Except Error Text :=
  match response.lines with
  | [] => .error .unknown
  | line :: _ => ofText (line.trim.copy capacity)

def line (profile : Profile) (command : Text) (capacity : Nat) : Caller Text :=
  Request.send profile { command := command, kind := .oneLine } (readLine capacity)

/-- Ask the modem what it is. -/
def identity (profile : Profile) : Caller Identity := do
  let manufacturer ← line profile "AT+CGMI" Identity.textCapacity
  let model ← line profile "AT+CGMM" Identity.textCapacity
  let firmware ← line profile "AT+CGMR" Identity.textCapacity
  let imei ← line profile "AT+CGSN" Identity.imeiCapacity
  return { manufacturer := manufacturer, model := model, firmware := firmware, imei := imei }

/-! ## Contexts -/

def contextsLabel : Text := "+CGACT"

/-- One line `+CGACT: <id>,<state>`: the number of the context, and whether it is active. -/
def readContext (line : Text) : Except TextError (Nat × Bool) := do
  let (id, rest) ← (← line.afterColon).takeField
  let id ← id.toWord 8 10
  let (state, _) ← rest.takeField
  return (id, (← state.toWord 8 10) = 1)

/-- Read the lines of a list of contexts, which has room for as many entries as there are contexts.
Lines about contexts that do not exist are left out. -/
def readContextLines : (room : Nat) → List Text → Except Error (List (Nat × Bool))
  | _, [] => .ok []
  | room, line :: lines => do
      let (id, active) ← ofText (readContext line)
      if Pdn.ValidId id then
        match room with
        | 0 => .error .noMemory
        | room + 1 => return (id, active) :: (← readContextLines room lines)
      else
        readContextLines room lines

/-- The contexts that a response lists. -/
def readContexts (response : Response) : Except Error (List (Nat × Bool)) :=
  readContextLines Limits.contexts
    (response.lines.filter fun line => line.beginsWith contextsLabel)

/-- Bring one context in line with what the modem reported.  Nobody is notified. -/
def adoptContext (id : Nat) (active : Bool) : Caller Pdn.Status := do
  if active then
    let _ ← Caller.pdn fun pdn => pdn.setActive id none
  else
    let _ ← Caller.pdn fun pdn => pdn.setInactive id
  Caller.ask fun device => device.pdn.status id

/-- Bring the reported contexts in line, one after the other. -/
def adoptContexts : List (Nat × Bool) → Caller (List Pdn.Status)
  | [] => pure []
  | (id, active) :: rest => do
      let status ← adoptContext id active
      return status :: (← adoptContexts rest)

/-- Ask which contexts are active. -/
def contexts (profile : Profile) : Caller (List Pdn.Status) := do
  let request : Request :=
    { command := "AT+CGACT?", kind := .manyLabelled, label := some contextsLabel }
  adoptContexts (← request.send profile readContexts)

def addressLabel : Text := "+CGPADDR"

/-- The address in `+CGPADDR: <id>[,<address>[,<address>]]`.  Of two addresses the first counts, and
the unspecified address is none. -/
def readAddress (response : Response) : Except Error (Option Address) := do
  let (_, rest) ← ofText do Text.takeField (← response.payload addressLabel)
  if rest = [] then
    return none
  let text ← ofText do
    let (token, _) ← rest.takeField
    token.trim.withoutQuotes Limits.addressText
  if text = [] then
    return none
  match Address.ofText? text with
  | none => throw (.text .malformed)
  | some address => return if address.isUnspecified then none else some address

def address (profile : Profile) (id : Nat) : Caller (Option Address) := do
  Caller.ofExcept (Pdn.checkId id)
  let command := "AT+CGPADDR=".toList ++ Text.ofNat id
  let address ← (labelled command addressLabel).send profile readAddress
  match address with
  | some address => Caller.pdn fun pdn => pdn.setAddress id address
  | none => pure ()
  return address

end ModemLink.Query
