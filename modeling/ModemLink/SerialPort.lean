import ModemLink.Config
import ModemLink.Error

/-!
# A link over a serial port

Sending loops over partial writes until everything is accepted or the time is up; receiving waits for
the first bytes.  The devices under the port are given by what they will do: when each read or write
is ready, and what it yields then.  An operation that runs out of time leaves the turn of the device
for the next one.  Times are absolute, in milliseconds; what is ready at the last moment still counts.
-/

namespace ModemLink

/-- What one read does: yield bytes, or fail. -/
structure ReadTurn where
  ready : Nat := 0
  /-- None if the read fails. -/
  data : Option Bytes
  deriving DecidableEq, Repr

/-- What one write does: accept at most some bytes, or fail. -/
structure WriteTurn where
  ready : Nat := 0
  /-- None if the write fails. -/
  accepts : Option Nat
  deriving DecidableEq, Repr

/-- What flushing does, and when. -/
inductive FlushTurn where
  | succeeds (ready : Nat := 0)
  | fails (ready : Nat := 0)
  /-- It never returns. -/
  | stalls
  deriving DecidableEq, Repr

/-- A port, the time, and what its devices will do. -/
structure SerialPort where
  now : Nat
  isOpen : Bool
  /-- A reader without turns never returns. -/
  reader : List ReadTurn
  /-- A writer without turns accepts everything at once. -/
  writer : List WriteTurn
  flush : FlushTurn
  /-- The bytes of each write that did not fail, the first one first. -/
  written : List Bytes
  deriving DecidableEq, Repr

namespace SerialPort

def initial (reader : List ReadTurn) (writer : List WriteTurn) (flush : FlushTurn) : SerialPort :=
  { now := 0, isOpen := false, reader := reader, writer := writer, flush := flush, written := [] }

/-- Let the time reach `time`. -/
def waitUntil (port : SerialPort) (time : Nat) : SerialPort :=
  { port with now := max port.now time }

/-- Whether a device that is ready at `ready` is so before the deadline has passed. -/
def InTime (port : SerialPort) (deadline ready : Nat) : Prop := ready ≤ max port.now deadline

instance (port : SerialPort) (deadline ready : Nat) : Decidable (port.InTime deadline ready) :=
  inferInstanceAs (Decidable (_ ≤ _))

/-! ## Opening and closing -/

def openPort (port : SerialPort) : SerialPort × Except LinkError Unit :=
  ({ port with isOpen := true }, .ok ())

def closePort (port : SerialPort) : SerialPort × Except LinkError Unit :=
  ({ port with isOpen := false }, if port.isOpen then .ok () else .error .failure)

/-! ## Sending -/

/-- How a single write ends. -/
inductive WriteEnd where
  | accepted (count : Nat)
  | failed
  /-- The deadline passed first. -/
  | expired
  deriving DecidableEq, Repr

def write (port : SerialPort) (deadline : Nat) (data : Bytes) : SerialPort × WriteEnd :=
  match port.writer with
  | [] => ({ port with written := port.written ++ [data] }, .accepted data.length)
  | turn :: writer =>
      if port.InTime deadline turn.ready then
        let port := { port.waitUntil turn.ready with writer := writer }
        match turn.accepts with
        | none => (port, .failed)
        | some limit =>
            let accepted := data.take limit
            ({ port with written := port.written ++ [accepted] }, .accepted accepted.length)
      else
        (port.waitUntil deadline, .expired)

/-- Write until all of `data` is accepted, the deadline passes, or the writer fails.  `sent` bytes
were accepted before.  Every turn accepts at least one byte, so the number of bytes bounds the number
of turns. -/
def writeAll (deadline : Nat) :
    (fuel : Nat) → SerialPort → (data : Bytes) → (sent : Nat) → SerialPort × Except LinkError Nat
  | 0, port, _, sent => (port, .ok sent)
  | fuel + 1, port, data, sent =>
      if data = [] then (port, .ok sent)
      else
        match port.write deadline data with
        | (port, .expired) => (port, .ok sent)
        | (port, .failed) => (port, .error .driver)
        | (port, .accepted 0) => (port, .error .failure)
        | (port, .accepted count) => writeAll deadline fuel port (data.drop count) (sent + count)

/-- Flush what was written, until the deadline at most.  Only a failure in time matters. -/
def flushUntil (port : SerialPort) (deadline : Nat) : SerialPort × Except LinkError Unit :=
  match port.flush with
  | .succeeds ready => (port.waitUntil (min ready deadline), .ok ())
  | .fails ready =>
      if port.InTime deadline ready then (port.waitUntil ready, .error .driver)
      else (port.waitUntil deadline, .ok ())
  | .stalls => (port.waitUntil deadline, .ok ())

/-- Send data within `timeout` milliseconds.  Ends with the number of bytes accepted, which is short
if the time was up before. -/
def send (port : SerialPort) (data : Bytes) (timeout : Nat) : SerialPort × Except LinkError Nat :=
  if !port.isOpen then (port, .error .failure)
  else if data = [] then (port, .error .badParameter)
  else
    let deadline := port.now + timeout
    match writeAll deadline data.length port data 0 with
    | (port, .error cause) => (port, .error cause)
    | (port, .ok 0) => (port, .error .timeout)
    | (port, .ok sent) =>
        match port.flushUntil deadline with
        | (port, .ok ()) => (port, .ok sent)
        | (port, .error cause) => (port, .error cause)

/-! ## Receiving -/

/-- Receive at most `capacity` bytes, waiting for the first of them for `timeout` milliseconds.  What
does not fit stays with the reader. -/
def receive (port : SerialPort) (capacity timeout : Nat) : SerialPort × Except LinkError Bytes :=
  if !port.isOpen then (port, .error .failure)
  else if capacity = 0 then (port, .error .noMemory)
  else
    let deadline := port.now + timeout
    match port.reader with
    | [] => (port.waitUntil deadline, .error .timeout)
    | turn :: reader =>
        if port.InTime deadline turn.ready then
          let port := port.waitUntil turn.ready
          match turn.data with
          | none => ({ port with reader := reader }, .error .driver)
          | some data =>
              let rest := data.drop capacity
              let reader := if rest = [] then reader else { turn with data := some rest } :: reader
              let port := { port with reader := reader }
              if data = [] then (port, .error .failure) else (port, .ok (data.take capacity))
        else
          (port.waitUntil deadline, .error .timeout)

end SerialPort

end ModemLink
