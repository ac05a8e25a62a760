import ModemLink.Bench.World

/-!
# Steps and activities

A `Step` is one thing that the user of a bench asks for: a call on the engine, a change of the
modem, a pause, another receive loop, two steps side by side, or a step with a time limit.  A step
that has begun is an `Activity`.  Activities are resumed in turn; each goes on until it has to wait.
A waiting activity looks at what it waits for before it looks at its timer, so that what arrives at
the last moment still counts.
-/

namespace ModemLink.Bench

variable {ρ : Type}

/-- What a step ends with. -/
inductive Report (ρ : Type) where
  | value (value : ρ)
  /-- The end of a step that has no value. -/
  | nothing
  /-- The step ran out of its time limit. -/
  | cancelled
  /-- The result of another receive loop. -/
  | loop (result : Except Error Unit)
  /-- The reports of two steps, each with the time of its end. -/
  | both (first : Report ρ) (firstEnd : Nat) (second : Report ρ) (secondEnd : Nat)

/-- What the user of a bench asks for. -/
inductive Step (ρ : Type) where
  | call (call : Call ρ)
  | sleep (milliseconds : Nat)
  /-- Queue chunks at the modem and sleep. -/
  | inject (deliveries : List Delivery) (milliseconds : Nat)
  | setMode (mode : Mode)
  /-- Append to the script of the modem. -/
  | extendScript (entries : List Entry)
  /-- Run another receive loop on the same engine. -/
  | receiver
  /-- Run two steps side by side; the first is always served first. -/
  | both (first second : Step ρ)
  /-- Run a step for at most some milliseconds and drop it then. -/
  | limited (milliseconds : Nat) (step : Step ρ)

/-- A step that has begun. -/
inductive Activity (ρ : Type) where
  /-- A call that waits.  `holding` tells whether it holds the lock of the engine. -/
  | calling (call : Call ρ) (timer : Option Nat) (holding : Bool)
  | sleeping (due : Nat)
  | receiving (receiver : Receiver)
  | both (first second : Activity ρ)
  | limited (due : Nat) (activity : Activity ρ)
  | finished (report : Report ρ) (time : Nat)

/-! ## Calls -/

/-- Whether a timer that was set has run out. -/
def timerDue (now : Nat) (timer : Option Nat) : Bool := timer.any (· ≤ now)

/-- Run a call until it waits.  `timer` belongs to what it waits for at the start. -/
def runCall (world : World) (timer : Option Nat) (holding : Bool) :
    Call ρ → World × Activity ρ
  | .done value => ({ world with busy := true }, .finished (.value value) world.now)
  | .act change next => runCall (world.act change) none holding (next world.engine)
  | .acquire next =>
      if world.engine.locked then (world, .calling (.acquire next) none holding)
      else runCall (world.act fun engine => { engine with locked := true }) none true next
  | .release next =>
      runCall (world.act fun engine => { engine with locked := false }) none false next
  | .transmit bytes timeout next =>
      if timer.isNone && !world.modem.mode.stalls then
        let (modem, answer) := world.modem.accept world.now bytes
        runCall { world with modem := modem, busy := true } none holding (next answer)
      else if timerDue world.now timer then
        runCall { world with busy := true } none holding (next (.error .timeout))
      else
        (world, .calling (.transmit bytes timeout next)
          (timer.or (some (world.now + timeout))) holding)
  | .awaitOutcome timeout next =>
      match world.engine.exchange.outcome with
      | some outcome =>
          runCall
            (world.act fun engine => { engine with exchange := engine.exchange.takeOutcome })
            none holding (next (some outcome))
      | none =>
          if timerDue world.now timer then
            runCall { world with busy := true } none holding (next none)
          else
            (world, .calling (.awaitOutcome timeout next)
              (timer.or (some (world.now + timeout))) holding)
  | .awaitLink condition next =>
      if condition world.engine.link then runCall { world with busy := true } none holding next
      else (world, .calling (.awaitLink condition next) none holding)

/-! ## Activities -/

namespace Activity

def report? : Activity ρ → Option (Report ρ × Nat)
  | finished report time => some (report, time)
  | _ => none

def join (now : Nat) (first second : Activity ρ) : Activity ρ :=
  match first, second with
  | finished r s, finished r' s' => finished (.both r s r' s') now
  | _, _ => both first second

def ofReceiver (now : Nat) (receiver : Receiver) : Activity ρ :=
  match receiver.result? with
  | some result => finished (.loop result) now
  | none => receiving receiver

/-- Drop an activity.  The lock it may hold is given back; a command it may have in flight stays in
flight. -/
def drop (world : World) : Activity ρ → World
  | calling _ _ true => world.act fun engine => { engine with locked := false }
  | both first second => second.drop (first.drop world)
  | limited _ activity => activity.drop world
  | _ => world

/-- Resume an activity until it waits. -/
def resume (profile : Profile) (world : World) : Activity ρ → World × Activity ρ
  | calling call timer holding => runCall world timer holding call
  | sleeping due =>
      if due ≤ world.now then ({ world with busy := true }, finished .nothing world.now)
      else (world, sleeping due)
  | receiving receiver =>
      let (world, receiver) := receiver.run profile world
      (world, ofReceiver world.now receiver)
  | both first second =>
      let (world, first) := first.resume profile world
      let (world, second) := second.resume profile world
      (world, join world.now first second)
  | limited due activity =>
      match activity.resume profile world with
      | (world, finished report _) => (world, finished report world.now)
      | (world, activity) =>
          if due ≤ world.now then (activity.drop world, finished .cancelled world.now)
          else (world, limited due activity)
  | finished report time => (world, finished report time)

/-- The times at which the activity may go on by itself. -/
def timers (world : World) : Activity ρ → List Nat
  | calling _ timer _ => timer.toList
  | sleeping due => [due]
  | receiving receiver => (receiver.timer? world).toList
  | both first second => first.timers world ++ second.timers world
  | limited due activity => due :: activity.timers world
  | finished .. => []

end Activity

/-! ## Steps -/

/-- Begin a step and run it until it waits.  Timers are set at this point and looked at no earlier
than on the next turn. -/
def Step.begin (profile : Profile) (world : World) : Step ρ → World × Activity ρ
  | .call program => runCall world none false program
  | .sleep milliseconds => (world, .sleeping (world.now + milliseconds))
  | .inject deliveries milliseconds =>
      ({ world with modem := world.modem.enqueueAll world.now deliveries, busy := true },
        .sleeping (world.now + milliseconds))
  | .setMode mode =>
      ({ world with modem := { world.modem with mode := mode }, busy := true },
        .finished .nothing world.now)
  | .extendScript entries =>
      ({ world with
          modem := { world.modem with script := world.modem.script ++ entries }, busy := true },
        .finished .nothing world.now)
  | .receiver =>
      let (world, loop) := Receiver.initial.run profile world
      (world, .ofReceiver world.now loop)
  | .both first second =>
      let (world, first) := first.begin profile world
      let (world, second) := second.begin profile world
      (world, .join world.now first second)
  | .limited milliseconds step =>
      match step.begin profile world with
      | (world, .finished report _) => (world, .finished report world.now)
      | (world, activity) => (world, .limited (world.now + milliseconds) activity)

end ModemLink.Bench
