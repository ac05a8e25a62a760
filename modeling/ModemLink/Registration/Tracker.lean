import ModemLink.Registration.Basic
import ModemLink.Text.Field
import ModemLink.Text.Hex
import ModemLink.Text.Integer

/-!
# Following the registration

A `Tracker` holds what the modem reported last.  `Tracker.update` applies one report to it, either
wholly or, if the report is malformed, not at all, and tells which domain changed its status.
-/

namespace ModemLink.Registration

/-- What is known of the registration. -/
structure Tracker where
  circuit : Status
  packet : Status
  location : Nat
  tracking : Nat
  cell : Nat
  radio : Radio
  routing : Nat
  circuitRejectType : Nat
  circuitRejectCause : Nat
  packetRejectType : Nat
  packetRejectCause : Nat
  deriving DecidableEq, Repr

namespace Tracker

/-- The area code of an unknown place. -/
def noArea : Nat := 0xFFFF

/-- The cell of an unknown place. -/
def noCell : Nat := 0xFFFFFFFF

/-- The routing area of an unknown place. -/
def noRouting : Nat := 0xFF

/-- A modem that has just started searches in both domains. -/
def initial : Tracker :=
  { circuit := .searching, packet := .searching, location := noArea, tracking := noArea
    cell := noCell, radio := .invalid, routing := noRouting
    circuitRejectType := 0, circuitRejectCause := 0, packetRejectType := 0, packetRejectCause := 0 }

/-- A modem is connected when its packet domain is registered. -/
def isRegistered (tracker : Tracker) : Bool := tracker.packet.isRegistered

def status (tracker : Tracker) : Domain → Status
  | .circuit => tracker.circuit
  | .packet => tracker.packet

/-- The registration as callers see it.  The tracking area stands in for a location area that is not
known. -/
def summary (tracker : Tracker) : Summary :=
  { radio := tracker.radio
    circuit := tracker.circuit
    packet := tracker.packet
    area := if tracker.location ≠ noArea then tracker.location else tracker.tracking
    cell := tracker.cell
    circuitRejectType := tracker.circuitRejectType
    circuitRejectCause := tracker.circuitRejectCause
    packetRejectType := tracker.packetRejectType
    packetRejectCause := tracker.packetRejectCause }

/-! ## Single fields -/

/-- Forget where the modem is.  The tracking area is kept. -/
def clearLocation (tracker : Tracker) : Tracker :=
  { tracker with location := noArea, cell := noCell, radio := .invalid, routing := noRouting }

/-- Record the status of a domain.  A modem that is not registered has no location. -/
def setStatus (tracker : Tracker) (domain : Domain) (status : Status) : Tracker :=
  let updated := match domain with
    | .circuit => { tracker with circuit := status }
    | .packet => { tracker with packet := status }
  if status.isRegistered then updated else updated.clearLocation

/-- Record an area code.  `+CEREG` reports a tracking area, the others a location area. -/
def setArea (tracker : Tracker) (report : Report) (code : Nat) : Tracker :=
  match report with
  | .creg | .cgreg => { tracker with location := code }
  | .cereg => { tracker with tracking := code }

/-- The technologies that a report may name.  Other known technologies count as unknown. -/
def reportedRadio (radio : Radio) : Radio :=
  match radio with
  | .gsm | .edge | .lte | .catM1 | .nbIot => radio
  | _ => .invalid

/-- Record why registration was denied, in the fields of the domain. -/
def setReject (tracker : Tracker) (domain : Domain) (isType : Bool) (value : Nat) : Tracker :=
  match domain, isType with
  | .circuit, true => { tracker with circuitRejectType := value }
  | .circuit, false => { tracker with circuitRejectCause := value }
  | .packet, true => { tracker with packetRejectType := value }
  | .packet, false => { tracker with packetRejectCause := value }

/-- Record why registration was denied, if it is. -/
def noteReject (tracker : Tracker) (domain : Domain) (isType : Bool) (value : Nat) : Tracker :=
  if tracker.status domain = .denied then tracker.setReject domain isType value else tracker

def applyField (tracker : Tracker) (report : Report) (field : Field) (token : Text) :
    Except TextError Tracker :=
  match field with
  | .mode => .ok tracker
  | .status => do
      let number ← token.toWord 8 10
      if 10 < number then .error .malformed
      else return tracker.setStatus report.domain (Status.ofNumber number)
  | .area => do return tracker.setArea report (← token.toWord 16 16)
  | .cell =>
      match Hex.toNat token with
      | .ok cell => .ok { tracker with cell := cell }
      | .error failure => .error failure.toTextError
  | .radio => do
      let radio := Radio.ofNumber (← token.toWord 8 10)
      if radio = .invalid then .error .malformed
      else return { tracker with radio := reportedRadio radio }
  | .routing => do return { tracker with routing := ← token.toWord 8 16 }
  | .rejectType => do return tracker.noteReject report.domain true (← token.toWord 8 10)
  | .rejectCause => do return tracker.noteReject report.domain false (← token.toWord 8 10)

/-! ## Whole reports -/

/-- Apply the fields of a report in order.  Empty ones change nothing, those beyond the known ones
are ignored. -/
def applyFields (report : Report) : List Field → Text → Tracker → Except TextError Tracker
  | _, [], tracker => .ok tracker
  | [], _ :: _, tracker => .ok tracker
  | field :: fields, rest, tracker => do
      let (token, rest) ← rest.takeField
      let tracker ← if token = [] then .ok tracker else tracker.applyField report field token
      applyFields report fields rest tracker

/-- What a report makes of a tracker. -/
def apply (tracker : Tracker) (report : Report) (payload : Text) (unsolicited : Bool) :
    Except TextError Tracker := do
  let fields ← payload.compact
  if fields = [] then .error .badParameter
  else applyFields report (report.layout unsolicited) fields tracker

/-- Apply the text after the label of a report.  Returns the tracker and the domain whose status
changed, if one did; after an error the tracker is as before. -/
def update (tracker : Tracker) (report : Report) (payload : Text) (unsolicited : Bool) :
    Tracker × Except TextError (Option Domain) :=
  match tracker.apply report payload unsolicited with
  | .error failure => (tracker, .error failure)
  | .ok next =>
      let changed := next.status report.domain ≠ tracker.status report.domain
      (next, .ok (if changed then some report.domain else none))

end Tracker

end ModemLink.Registration
