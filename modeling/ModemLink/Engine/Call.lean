import ModemLink.Engine.Basic

/-!
# Calls

A call is what a caller runs on an engine.  It acts on the engine without interruption (`act`,
`release`) until it is suspended in one of four places, where anything may happen to the engine
before it goes on:

* `acquire` waits for the lock that serialises commands;
* `transmit` waits for the link to accept bytes;
* `awaitOutcome` waits for the outcome of the command in flight, or for time to run out;
* `awaitLink` waits for the link to reach a status.

Being a tree of these steps, a call can be run by any scheduler, in virtual time as well as in a
proof.  `Call.advance` runs it up to its next suspension.
-/

namespace ModemLink

/-- A program of a caller that ends with a value. -/
inductive Call (α : Type) : Type where
  | done (value : α)
  /-- Change the engine.  What follows sees the engine as it was before the change. -/
  | act (change : Engine → Engine) (next : Engine → Call α)
  /-- Wait until no other caller holds the lock, and take it. -/
  | acquire (next : Call α)
  | release (next : Call α)
  /-- Hand bytes to the link, which may take `timeout` milliseconds.  The answer is the number of
  bytes that it accepted. -/
  | transmit (bytes : Bytes) (timeout : Nat) (next : Except LinkError Nat → Call α)
  /-- Wait for an outcome for at most `timeout` milliseconds. -/
  | awaitOutcome (timeout : Nat) (next : Option Outcome → Call α)
  /-- Wait until the status of the link satisfies a condition. -/
  | awaitLink (condition : LinkStatus → Bool) (next : Call α)

namespace Call

variable {α β γ : Type}

/-- Continue with what a call ends with. -/
def bind : Call α → (α → Call β) → Call β
  | done value, f => f value
  | act change next, f => act change fun engine => (next engine).bind f
  | acquire next, f => acquire (next.bind f)
  | release next, f => release (next.bind f)
  | transmit bytes timeout next, f => transmit bytes timeout fun sent => (next sent).bind f
  | awaitOutcome timeout next, f => awaitOutcome timeout fun outcome => (next outcome).bind f
  | awaitLink condition next, f => awaitLink condition (next.bind f)

instance : Monad Call where
  pure := done
  bind := bind

theorem bind_done (call : Call α) : call.bind done = call := by
  induction call with
  | done value => rfl
  | act change next ih => simp [bind, ih]
  | acquire next ih => simp [bind, ih]
  | release next ih => simp [bind, ih]
  | transmit bytes timeout next ih => simp [bind, ih]
  | awaitOutcome timeout next ih => simp [bind, ih]
  | awaitLink condition next ih => simp [bind, ih]

theorem bind_assoc (call : Call α) (f : α → Call β) (g : β → Call γ) :
    (call.bind f).bind g = call.bind fun value => (f value).bind g := by
  induction call with
  | done value => rfl
  | act change next ih => simp [bind, ih]
  | acquire next ih => simp [bind, ih]
  | release next ih => simp [bind, ih]
  | transmit bytes timeout next ih => simp [bind, ih]
  | awaitOutcome timeout next ih => simp [bind, ih]
  | awaitLink condition next ih => simp [bind, ih]

instance : LawfulMonad Call := LawfulMonad.mk' Call bind_done (fun _ _ => rfl) bind_assoc

/-- Change the engine and end with what the change answers. -/
def update (f : Engine → Engine × α) : Call α :=
  act (fun engine => (f engine).1) fun engine => done (f engine).2

/-- Run a call until it has to wait or is done. -/
def advance (engine : Engine) : Call α → Engine × Call α
  | act change next => (next engine).advance (change engine)
  | release next => next.advance { engine with locked := false }
  | call => (engine, call)

/-- Two calls in sequence: the second goes on from where the first has come to. -/
theorem advance_bind (engine : Engine) (call : Call α) (f : α → Call β) :
    (call.bind f).advance engine =
      ((call.advance engine).2.bind f).advance (call.advance engine).1 := by
  induction call generalizing engine with
  | act change next ih => simp only [bind, advance]; exact ih engine _
  | release next ih => simp only [bind, advance]; exact ih _
  | _ => rfl

/-- A call that waits does not go on by itself. -/
@[simp] theorem advance_advance (engine : Engine) (call : Call α) :
    (call.advance engine).2.advance (call.advance engine).1 = call.advance engine := by
  induction call generalizing engine with
  | act change next ih => simp only [advance]; exact ih engine _
  | release next ih => simp only [advance]; exact ih _
  | _ => rfl

def value? : Call α → Option α
  | done value => some value
  | _ => none

end Call

abbrev Caller := ExceptT Error Call

namespace Caller

variable {α : Type}

def engine : Caller Engine := ExceptT.lift (Call.act id Call.done)

def act (change : Engine → Engine) : Caller Unit :=
  ExceptT.lift (Call.act change fun _ => Call.done ())

def exchange (change : Exchange → Exchange) : Caller Unit :=
  act fun engine => { engine with exchange := change engine.exchange }

/-- Run an operation of the device that may fail. -/
def device (f : Device → Device × Except Error α) : Caller α :=
  ExceptT.mk <| Call.update fun engine =>
    let (device, answer) := f engine.device
    ({ engine with device := device }, answer)

/-- Run an operation of the device that fails with the error of a text helper. -/
def report (f : Device → Device × Except TextError α) : Caller α :=
  device fun device =>
    let (device, answer) := f device
    (device, answer.mapError Error.ofText)

/-- Run an operation on the contexts. -/
def pdn (f : Pdn.Table → Pdn.Table × Except Error α) : Caller α :=
  device fun device =>
    let (pdn, answer) := f device.pdn
    ({ device with pdn := pdn }, answer)

/-- Run an operation on the sockets that nobody is told about. -/
def sockets (f : SocketTable → SocketTable × Except Error α) : Caller α :=
  device fun device =>
    let (sockets, answer) := f device.sockets
    ({ device with sockets := sockets }, answer)

def ask (f : Device → Except Error α) : Caller α := do
  match f (← engine).device with
  | .ok value => return value
  | .error failure => throw failure

/-- End with a result that was computed. -/
def ofExcept (result : Except Error α) : Caller α := ExceptT.mk (Call.done result)

/-- Fail unless the link is open. -/
def checkOpen : Caller Unit := do ofExcept (← engine).checkOpen

/-- Hold the lock while a call runs, however that ends. -/
def locked (body : Caller α) : Caller α := ExceptT.mk do
  Call.acquire (Call.done ())
  let result ← body.run
  Call.release (Call.done ())
  return result

/-- Give the result of a call, be it a failure, to the next. -/
def attempt (body : Caller α) : Caller (Except Error α) := ExceptT.lift body.run

end Caller

end ModemLink
