import ModemLink.Config
import ModemLink.Error

/-!
# A scripted modem

The modem at the other end of a test bench.  It answers what it is sent by a script: when everything
received so far ends with what the first entry expects, that entry is used up and its reply is queued
in chunks, each of which becomes available after a delay.  Its mode says how it behaves as a link:
how long opening takes, and whether sending stalls, fails, or is cut short.
-/

namespace ModemLink.Bench

/-- How the modem behaves as a link. -/
structure Mode where
  /-- In milliseconds. -/
  openDelay : Nat := 1
  openError : Option LinkError := none
  /-- Sending waits until time is up. -/
  stalls : Bool := false
  sendError : Option LinkError := none
  /-- The most bytes accepted at once. -/
  limit : Option Nat := none
  deriving DecidableEq, Repr

/-- What one receive operation yields. -/
inductive Chunk where
  | data (bytes : Bytes)
  | failure (cause : LinkError)
  deriving DecidableEq, Repr

/-- A chunk that is delivered some milliseconds after the one before it. -/
structure Delivery where
  chunk : Chunk
  delay : Nat := 0
  deriving DecidableEq, Repr

/-- One exchange of the script. -/
structure Entry where
  expected : Bytes
  reply : List Delivery
  /-- The mode from then on, if it changes. -/
  mode : Option Mode := none
  deriving DecidableEq, Repr

structure Modem where
  mode : Mode
  isOpen : Bool
  /-- Everything that the modem accepted. -/
  received : Bytes
  script : List Entry
  /-- Chunks with the time from which they are available, in order. -/
  queue : List (Nat × Chunk)
  deriving DecidableEq, Repr

namespace Modem

def initial (mode : Mode) (script : List Entry) : Modem :=
  { mode := mode, isOpen := false, received := [], script := script, queue := [] }

/-! ## What the modem sends -/

/-- Queue one delivery.  Its delay counts from the last chunk still queued, or from now. -/
def enqueue (now : Nat) (modem : Modem) (delivery : Delivery) : Modem :=
  let start := match modem.queue.getLast? with
    | some (available, _) => max now available
    | none => now
  { modem with queue := modem.queue ++ [(start + delivery.delay, delivery.chunk)] }

def enqueueAll (now : Nat) (modem : Modem) (reply : List Delivery) : Modem :=
  reply.foldl (enqueue now) modem

/-- Take what one receive operation with room for `capacity` bytes yields, if anything is available.
What does not fit stays at the front. -/
def take? (now capacity : Nat) (modem : Modem) : Option (Chunk × Modem) :=
  match modem.queue with
  | [] => none
  | (available, chunk) :: queue =>
      if now < available then none
      else
        match chunk with
        | .failure cause => some (.failure cause, { modem with queue := queue })
        | .data bytes =>
            if bytes.length ≤ capacity then some (.data bytes, { modem with queue := queue })
            else
              some (.data (bytes.take capacity),
                { modem with queue := (available, .data (bytes.drop capacity)) :: queue })

/-- An upper bound for the number of receive operations that yield something. -/
def backlog (modem : Modem) : Nat :=
  modem.queue.foldl (fun total delivery =>
    match delivery with
    | (_, .data bytes) => total + bytes.length + 1
    | (_, .failure _) => total + 1) 0

/-! ## What the modem is sent -/

/-- Use up the first entry of the script if what was received ends as it expects. -/
def react (now : Nat) (modem : Modem) : Modem :=
  match modem.script with
  | [] => modem
  | entry :: script =>
      if entry.expected.isSuffixOf modem.received then
        enqueueAll now { modem with script := script, mode := entry.mode.getD modem.mode }
          entry.reply
      else
        modem

/-- Offer bytes to a modem that does not stall.  Returns how many it accepted. -/
def accept (now : Nat) (modem : Modem) (bytes : Bytes) : Modem × Except LinkError Nat :=
  match modem.mode.sendError with
  | some cause => (modem, .error cause)
  | none =>
      if modem.isOpen then
        let accepted := bytes.take (modem.mode.limit.getD bytes.length)
        (react now { modem with received := modem.received ++ accepted }, .ok accepted.length)
      else
        (modem, .error .failure)

end Modem

end ModemLink.Bench
