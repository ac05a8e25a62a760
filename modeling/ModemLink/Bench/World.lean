import ModemLink.Bench.Modem
import ModemLink.Engine.Call
import ModemLink.Engine.Receive

/-!
# The world of a test bench

One engine and one modem in virtual time.  Code takes no time; `World.now` moves only when everything
waits.  This file runs the receive loop in that world.
-/

namespace ModemLink.Bench

/-- An engine, a modem, and the time in milliseconds. -/
structure World where
  now : Nat
  engine : Engine
  modem : Modem
  /-- Whether something was done since this was last cleared. -/
  busy : Bool

/-- Change the engine. -/
def World.act (world : World) (change : Engine → Engine) : World :=
  { world with engine := change world.engine, busy := true }

/-- Where a receive loop is. -/
inductive Stage where
  | waiting
  /-- The link is being opened and will be up at a given time. -/
  | opening (due : Nat)
  | reading
  | ended (result : Except Error Unit)

/-- A receive loop and its read buffer. -/
structure Receiver where
  stage : Stage
  buffer : ReadBuffer

namespace Receiver

def initial : Receiver := { stage := .waiting, buffer := .empty }

/-- The result of a receive loop that has ended. -/
def result? (receiver : Receiver) : Option (Except Error Unit) :=
  match receiver.stage with
  | .ended result => some result
  | _ => none

/-- End with a result and close the link. -/
def finish (world : World) (receiver : Receiver) (result : Except Error Unit) :
    World × Receiver :=
  ({ world.act Engine.becomeClosed with modem := { world.modem with isOpen := false } },
    { receiver with stage := .ended result })

/-- Read until nothing is available, the link fails, or somebody asks for an end.  Every turn takes
something off the queue of the modem, so its backlog bounds the number of turns. -/
def read (profile : Profile) : (fuel : Nat) → World → Receiver → World × Receiver
  | 0, world, receiver => (world, receiver)
  | fuel + 1, world, receiver =>
      if world.engine.shutdown then
        finish (world.act Engine.endInOrder) receiver (.ok ())
      else
        match world.modem.take? world.now (Limits.readBuffer - receiver.buffer.bytes.length) with
        | none => (world, receiver)
        | some (.failure .timeout, modem) =>
            read profile fuel { world with modem := modem, busy := true } receiver
        | some (.failure cause, modem) =>
            finish ({ world with modem := modem }.act (·.loseLink cause)) receiver
              (.error (.link cause))
        | some (.data chunk, modem) =>
            let (engine, buffer) := world.engine.receive profile receiver.buffer chunk
            read profile fuel { world with engine := engine, modem := modem, busy := true }
              { receiver with buffer := buffer }

/-- Read for as long as something is available. -/
def readAll (profile : Profile) (world : World) (receiver : Receiver) : World × Receiver :=
  read profile (world.modem.backlog + 1) world receiver

/-- The link is up, or could not be opened. -/
def opened (profile : Profile) (world : World) (receiver : Receiver) : World × Receiver :=
  match world.modem.mode.openError with
  | some cause =>
      (world.act Engine.becomeClosed, { receiver with stage := .ended (.error (.ofLink cause)) })
  | none =>
      readAll profile
        { world.act Engine.becomeOpen with modem := { world.modem with isOpen := true } }
        { stage := .reading, buffer := .empty }

/-- Run a receive loop until it waits. -/
def run (profile : Profile) (world : World) (receiver : Receiver) : World × Receiver :=
  match receiver.stage with
  | .waiting =>
      match world.engine.beginOpening with
      | .error failure => (world, { receiver with stage := .ended (.error failure) })
      | .ok engine =>
          ({ world with engine := engine, busy := true },
            { receiver with stage := .opening (world.now + world.modem.mode.openDelay) })
  | .opening due => if due ≤ world.now then opened profile world receiver else (world, receiver)
  | .reading => readAll profile world receiver
  | .ended _ => (world, receiver)

/-- When the receive loop can go on, if that depends on time alone. -/
def timer? (world : World) (receiver : Receiver) : Option Nat :=
  match receiver.stage with
  | .opening due => some due
  | .reading => world.modem.queue.head?.map Prod.fst
  | .waiting | .ended _ => none

end Receiver

end ModemLink.Bench
