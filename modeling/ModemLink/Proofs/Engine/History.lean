import ModemLink.Proofs.Framing.Reader

/-!
# Histories

What happens to an engine and to the read buffer of its receive loop is a sequence of events, in any
order: chunks arrive, callers install and withdraw commands and collect outcomes, the link comes up
and goes down.  Each event is one uninterrupted step of the receive loop or of a caller.
-/

namespace ModemLink.Engine

/-- What can happen between two suspensions. -/
inductive Event where
  /-- A receive loop has opened the link.  It begins with an empty buffer. -/
  | opened
  | received (chunk : Bytes)
  /-- A caller installs a command. -/
  | begun (inFlight : InFlight)
  /-- A caller gives its command up, because time ran out or the command could not be sent. -/
  | withdrawn
  /-- A caller takes the outcome of its command. -/
  | collected
  /-- The receive loop ends because somebody asked for it. -/
  | ended
  /-- The receive loop ends because the link failed. -/
  | lost (cause : LinkError)
  /-- Everything but the exchange becomes that of another engine. -/
  | aside (other : Engine)

namespace Event

/-- Whether the event installs a command. -/
def begins : Event → Bool
  | begun _ => true
  | _ => false

/-- What an event does. -/
def apply (profile : Profile) : Event → Engine × ReadBuffer → Engine × ReadBuffer
  | opened, (engine, _) => (engine.becomeOpen, .empty)
  | received chunk, (engine, buffer) => engine.receive profile buffer chunk
  | begun inFlight, (engine, buffer) =>
      ({ engine with exchange := engine.exchange.start inFlight }, buffer)
  | withdrawn, (engine, buffer) => ({ engine with exchange := engine.exchange.withdraw }, buffer)
  | collected, (engine, buffer) => ({ engine with exchange := engine.exchange.takeOutcome }, buffer)
  | ended, (engine, buffer) => (engine.endInOrder, buffer)
  | lost cause, (engine, buffer) => (engine.loseLink cause, buffer)
  | aside other, (engine, buffer) => ({ other with exchange := engine.exchange }, buffer)

end Event

/-- What a new engine becomes. -/
def after (profile : Profile) (listeners : Listeners) (events : List Event) : Engine × ReadBuffer :=
  events.foldl (fun now event => event.apply profile now) (initial listeners, .empty)

/-- A command that is answered with its result code only. -/
def plainCommand : InFlight :=
  { kind := .noResult, label := none, hooks := .none, successTokens := [] }

end ModemLink.Engine
