import ModemLink.Urc.Dispatch

/-!
# The engine

An engine shares one link between the *receive loop* and any number of *callers*.  One command is in
flight at a time.  Its `Exchange` is what the two sides hand each other: the caller installs the
command, the receive loop collects the response and signals the outcome, and the caller takes it.

* `Exchange.start` installs a command and drops what the previous one left behind.
* `Exchange.complete` signals an outcome, but only while a command is in flight.
* `Exchange.withdraw` forgets the command; what still arrives for it belongs to nobody.
-/

namespace ModemLink

/-- What an engine is built with. -/
structure Profile where
  config : Config
  table : TokenTable UrcHandler

/-- Whether the link is up. -/
inductive LinkStatus where
  | closed
  | opening
  | opened
  deriving DecidableEq, Repr

/-- How a command ended: with a response, or because the engine gave it up. -/
abbrev Outcome := Except Error ResponseStatus

/-- The command in flight and what has come of it. -/
structure Exchange where
  inFlight : Option InFlight
  response : Response
  /-- Signalled by the receive loop and not yet taken by the caller. -/
  outcome : Option Outcome

namespace Exchange

def idle : Exchange := { inFlight := none, response := .empty, outcome := none }

def start (_ : Exchange) (inFlight : InFlight) : Exchange :=
  { inFlight := some inFlight, response := .empty, outcome := none }

/-- Forget the command in flight, for instance after a timeout. -/
def withdraw (exchange : Exchange) : Exchange :=
  { exchange with inFlight := none, response := .empty }

/-- Signal how the command in flight ended, if there is one. -/
def complete (exchange : Exchange) (outcome : Outcome) : Exchange :=
  if exchange.inFlight.isSome then
    { exchange with inFlight := none, outcome := some outcome }
  else
    exchange

@[simp] theorem inFlight_start (exchange : Exchange) (inFlight : InFlight) :
    (exchange.start inFlight).inFlight = some inFlight := rfl

@[simp] theorem inFlight_withdraw (exchange : Exchange) : exchange.withdraw.inFlight = none := rfl

@[simp] theorem inFlight_complete (exchange : Exchange) (outcome : Outcome) :
    (exchange.complete outcome).inFlight = none := by
  unfold complete
  cases h : exchange.inFlight <;> simp [h]

@[simp] theorem response_complete (exchange : Exchange) (outcome : Outcome) :
    (exchange.complete outcome).response = exchange.response := by
  unfold complete
  split <;> rfl

/-- Without a command in flight there is nobody to signal an outcome to. -/
theorem complete_of_idle {exchange : Exchange} (h : exchange.inFlight = none) (outcome : Outcome) :
    exchange.complete outcome = exchange := by
  simp [complete, h]

def takeOutcome (exchange : Exchange) : Exchange := { exchange with outcome := none }

def hooks (exchange : Exchange) : Hooks :=
  match exchange.inFlight with
  | some inFlight => inFlight.hooks
  | none => .none

/-- Process a line that belongs to the answer. -/
def feed (exchange : Exchange) (table : TokenTable UrcHandler) (inFlight : InFlight)
    (line : Text) : Exchange :=
  let (response, status) := exchange.response.feed table inFlight line
  let exchange := { exchange with response := response }
  match status with
  | none => exchange
  | some status => exchange.complete (.ok status)

/-- Process raw payload.  Without a command in flight nobody wants it, and payload that does not fit
ends the command. -/
def receivePayload (exchange : Exchange) (data : Bytes) : Exchange :=
  match exchange.inFlight with
  | none => exchange
  | some _ =>
      match exchange.response.pushData? data with
      | some response => { exchange with response := response }
      | none => exchange.complete (.error .internalFailure)

end Exchange

/-- Everything that the receive loop and the callers share. -/
structure Engine where
  link : LinkStatus
  exchange : Exchange
  device : Device
  /-- Held by the caller whose command is in flight. -/
  locked : Bool
  /-- Somebody asked the receive loop to end. -/
  shutdown : Bool

namespace Engine

/-- An engine whose link was never opened. -/
def initial (listeners : Listeners) : Engine :=
  { link := .closed, exchange := .idle, device := .initial listeners, locked := false
    shutdown := false }

/-- An engine is built only with a table that it can rely on. -/
def new (profile : Profile) (listeners : Listeners) : Except Error Engine := do
  profile.table.validate
  return initial listeners

/-- Refuse to work on a link that is not open. -/
def checkOpen (engine : Engine) : Except Error Unit :=
  if engine.link = .opened then .ok () else .error .notOpen

end Engine

end ModemLink
