import ModemLink.Engine.Basic

/-!
# The receive loop

What the receive loop does between two suspensions.  `Engine.receive` takes one chunk of bytes and
handles every frame that it completes; which frames there are depends on the command in flight, and
handling a frame may end that command, so the hooks are looked up anew for each.  The other
operations are the turning points of the loop: opening the link, ending in order, and losing the
link.
-/

namespace ModemLink.Engine

/-! ## Frames -/

/-- Handle a line: part of the answer, or unsolicited. -/
def handleLine (table : TokenTable UrcHandler) (engine : Engine) (line : Text) : Engine :=
  match LineRole.of table engine.exchange.inFlight line, engine.exchange.inFlight with
  | .solicited, some inFlight =>
      { engine with exchange := engine.exchange.feed table inFlight line }
  | _, _ => { engine with device := engine.device.dispatch table line }

/-- Handle a frame.  A line that is no text is dropped. -/
def handleFrame (table : TokenTable UrcHandler) (engine : Engine) : Frame → Engine
  | .line bytes =>
      match Text.ofBytes? bytes with
      | some line => engine.handleLine table line
      | none => engine
  | .payload data => { engine with exchange := engine.exchange.receivePayload data }

/-- Handle frames until none is complete.  Every frame takes at least one byte off the buffer, so
`fuel` beyond the number of its bytes changes nothing. -/
def drain (profile : Profile) : (fuel : Nat) → Engine → ReadBuffer → Engine × ReadBuffer
  | 0, engine, buffer => (engine, buffer)
  | fuel + 1, engine, buffer =>
      match buffer.next Limits.readBuffer profile.config.lineEnding engine.exchange.hooks with
      | (none, buffer) => (engine, buffer)
      | (some frame, buffer) => drain profile fuel (engine.handleFrame profile.table frame) buffer

/-- Handle one received chunk.  A buffer that is still full afterwards holds a frame that can never
be completed, and is emptied. -/
def receive (profile : Profile) (engine : Engine) (buffer : ReadBuffer) (chunk : Bytes) :
    Engine × ReadBuffer :=
  let buffer := buffer.append chunk
  let (engine, buffer) := drain profile (buffer.bytes.length + 1) engine buffer
  (engine, buffer.resetIfFull Limits.readBuffer)

/-! ## Turning points -/

/-- A receive loop starts to open the link, which must be closed. -/
def beginOpening (engine : Engine) : Except Error Engine :=
  if engine.link = .closed then .ok { engine with link := .opening } else .error .alreadyOpen

/-- The link is up.  An older request to shut down does not count. -/
def becomeOpen (engine : Engine) : Engine := { engine with link := .opened, shutdown := false }

def becomeClosed (engine : Engine) : Engine := { engine with link := .closed }

/-- The receive loop ends because somebody asked for it. -/
def endInOrder (engine : Engine) : Engine :=
  { engine with shutdown := false, exchange := engine.exchange.complete (.error .notOpen) }

/-- The receive loop ends because the link failed.  The command in flight fails, every socket moves
towards failure, and every context is lost. -/
def loseLink (engine : Engine) (cause : LinkError) : Engine :=
  { engine with
    exchange := engine.exchange.complete (.error (.link cause))
    device := engine.device.loseSockets.loseContexts }

end ModemLink.Engine
