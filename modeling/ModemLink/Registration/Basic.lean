import ModemLink.Radio
import ModemLink.Text.Basic

/-!
# Vocabulary of network registration
-/

namespace ModemLink.Registration

/-- The status of one domain, numbered as in the 3GPP field `<stat>`. -/
inductive Status where
  | notRegistered
  | home
  | searching
  | denied
  | unknown
  | roaming
  /-- Registered for emergency services only. -/
  | emergency
  deriving DecidableEq, Repr

namespace Status

def ofNumber : Nat → Status
  | 0 => notRegistered
  | 1 => home
  | 2 => searching
  | 3 => denied
  | 5 => roaming
  | 8 => emergency
  | _ => unknown

/-- Registered for all services, at home or abroad. -/
def isRegistered : Status → Bool
  | home | roaming => true
  | _ => false

end Status

/-- How much the unsolicited reports of a domain say. -/
inductive Mode where
  | unknown
  | disabled
  | enabled
  | withLocation
  | withLocationAndCause
  deriving DecidableEq, Repr

def Mode.ofNumber : Nat → Mode
  | 0 => .disabled
  | 1 => .enabled
  | 2 => .withLocation
  | 3 => .withLocationAndCause
  | _ => .unknown

/-- The two domains that a modem registers in. -/
inductive Domain where
  | circuit
  | packet
  deriving DecidableEq, Repr

/-- The three reports about registration. -/
inductive Report where
  /-- `+CREG`, circuit switched. -/
  | creg
  /-- `+CGREG`, packet switched over GPRS. -/
  | cgreg
  /-- `+CEREG`, packet switched over EPS. -/
  | cereg
  deriving DecidableEq, Repr

/-- One field of a report. -/
inductive Field where
  | mode
  | status
  | area
  | cell
  | radio
  | routing
  | rejectType
  | rejectCause
  deriving DecidableEq, Repr

namespace Report

def label : Report → Text
  | creg => "+CREG"
  | cgreg => "+CGREG"
  | cereg => "+CEREG"

/-- The domain that a report is about. -/
def domain : Report → Domain
  | creg => .circuit
  | cgreg | cereg => .packet

/-- The fields of a read response, in order.  Unsolicited reports lack the mode; further fields
(power saving timers) are ignored. -/
def fields : Report → List Field
  | creg | cereg => [.mode, .status, .area, .cell, .radio, .rejectType, .rejectCause]
  | cgreg => [.mode, .status, .area, .cell, .radio, .routing, .rejectType, .rejectCause]

/-- The fields of a report, which depend on whether it came unasked. -/
def layout (report : Report) (unsolicited : Bool) : List Field :=
  if unsolicited then report.fields.tail else report.fields

end Report

/-- The registration as callers see it. -/
structure Summary where
  radio : Radio
  circuit : Status
  packet : Status
  /-- Location or tracking area code. -/
  area : Nat
  cell : Nat
  circuitRejectType : Nat
  circuitRejectCause : Nat
  packetRejectType : Nat
  packetRejectCause : Nat
  deriving DecidableEq, Repr

/-- A summary of which nothing is known. -/
def Summary.blank : Summary :=
  { radio := .invalid, circuit := .unknown, packet := .unknown, area := 0, cell := 0
    circuitRejectType := 0, circuitRejectCause := 0, packetRejectType := 0, packetRejectCause := 0 }

end ModemLink.Registration
