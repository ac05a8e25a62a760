import ModemLink.Pdn

/-!
# One socket

A socket moves forward through its lifecycle:

```
created → opening → connected → closing → closed
                  ↘ openFailed
```

`Socket.next` is the whole transition table.  Repeating the event that led to the current state is
accepted silently, so the owner is told about each transition at most once.  A close that the modem
initiates takes a connected socket straight to `closed`.
-/

namespace ModemLink

abbrev SocketHandle := Nat

/-- Where a socket is in its lifecycle. -/
inductive SocketState where
  | created
  | opening
  | connected
  | openFailed
  | closing
  | closed
  deriving DecidableEq, Repr

/-- What drives the lifecycle. -/
inductive SocketEvent where
  | openRequested
  /-- The modem confirmed the open. -/
  | opened
  /-- The modem refused the open. -/
  | openFailed
  | dataReady
  | closeRequested
  /-- The modem confirmed the close. -/
  | closed
  /-- The modem closed the socket on its own. -/
  | remoteClosed
  | linkFailed
  deriving DecidableEq, Repr

/-- What the owner of a socket is told. -/
inductive SocketNotice where
  /-- The open request settled; the flag tells whether the socket is connected. -/
  | opened (connected : Bool)
  | dataReady
  | closed
  deriving DecidableEq, Repr

inductive SocketFamily where
  | inet
  | inet6
  deriving DecidableEq, Repr

/-- The service that a socket offers. -/
inductive SocketService where
  | stream
  | datagram
  deriving DecidableEq, Repr

/-- The protocol under a socket. -/
inductive SocketProtocol where
  | tcp
  | udp
  deriving DecidableEq, Repr

/-- How received data reaches the host. -/
inductive AccessMode where
  /-- The modem buffers data and announces it. -/
  | buffered
  /-- The modem pushes data with the announcement. -/
  | pushed
  | transparent
  deriving DecidableEq, Repr

/-- What can be set on a socket. -/
inductive SocketOption where
  | sendTimeout (milliseconds : Nat)
  | receiveTimeout (milliseconds : Nat)
  /-- Only while the socket is created. -/
  | context (id : Nat)
  /-- Only while the socket is created. -/
  | localPort (port : Nat)
  deriving DecidableEq, Repr

/-- The notices that the owner of a socket wants. -/
structure SocketListeners where
  opened : Bool
  dataReady : Bool
  closed : Bool
  deriving DecidableEq, Repr

namespace SocketListeners

/-- The owner wants nothing. -/
def none : SocketListeners := { opened := false, dataReady := false, closed := false }

def all : SocketListeners := { opened := true, dataReady := true, closed := true }

/-- Whether the owner wants a notice. -/
def wants (listeners : SocketListeners) : SocketNotice → Bool
  | .opened _ => listeners.opened
  | .dataReady => listeners.dataReady
  | .closed => listeners.closed

end SocketListeners

structure Socket where
  contextId : Nat
  state : SocketState
  family : SocketFamily
  service : SocketService
  protocol : SocketProtocol
  accessMode : AccessMode
  localPort : Nat
  remote : Option Endpoint
  /-- In milliseconds. -/
  sendTimeout : Nat
  /-- In milliseconds. -/
  receiveTimeout : Nat
  listeners : SocketListeners
  deriving DecidableEq, Repr

namespace Socket

def fresh (contextId : Nat) (family : SocketFamily) (service : SocketService)
    (protocol : SocketProtocol) : Socket :=
  { contextId := contextId, state := .created, family := family, service := service
    protocol := protocol, accessMode := .buffered, localPort := 0, remote := none
    sendTimeout := 1000, receiveTimeout := 1000, listeners := .none }

/-- The state that an event leads to, and what the owner is told.  The event is refused where the
lifecycle has no place for it. -/
def next (state : SocketState) (event : SocketEvent) :
    Except Error (SocketState × Option SocketNotice) :=
  match state, event with
  | .created, .openRequested => .ok (.opening, none)
  | .opening, .opened => .ok (.connected, some (.opened true))
  | .connected, .opened => .ok (.connected, none)
  | .opening, .openFailed | .opening, .remoteClosed | .opening, .linkFailed =>
      .ok (.openFailed, some (.opened false))
  | .openFailed, .openFailed | .openFailed, .remoteClosed | .openFailed, .linkFailed =>
      .ok (.openFailed, none)
  | .connected, .dataReady => .ok (.connected, some .dataReady)
  | .closed, .dataReady => .error .socketClosed
  | _, .dataReady => .error .socketNotConnected
  | .opening, .closeRequested | .connected, .closeRequested => .ok (.closing, none)
  | .created, .closeRequested | .openFailed, .closeRequested => .ok (.closed, none)
  | .closing, .closeRequested => .ok (.closing, none)
  | .closing, .closed => .ok (.closed, some .closed)
  | .connected, .remoteClosed | .closing, .remoteClosed
  | .connected, .linkFailed | .closing, .linkFailed => .ok (.closed, some .closed)
  | .closed, .closed | .closed, .remoteClosed | .closed, .linkFailed => .ok (.closed, none)
  | .created, .linkFailed => .ok (.created, none)
  | _, _ => .error .notAllowed

/-- Whether the slot of a socket may be freed: it never opened, failed to open, or is closed. -/
def isRemovable (state : SocketState) : Bool :=
  match state with
  | .created | .openFailed | .closed => true
  | .opening | .connected | .closing => false

def setOption (socket : Socket) : SocketOption → Socket × Except Error Unit
  | .sendTimeout time => ({ socket with sendTimeout := time }, .ok ())
  | .receiveTimeout time => ({ socket with receiveTimeout := time }, .ok ())
  | .context id =>
      if socket.state ≠ .created then (socket, .error .notAllowed)
      else if Pdn.ValidId id then ({ socket with contextId := id }, .ok ())
      else (socket, .error .badParameter)
  | .localPort port =>
      if socket.state ≠ .created then (socket, .error .notAllowed)
      else ({ socket with localPort := port }, .ok ())

end Socket

end ModemLink
