import ModemLink.Engine.Call

/-!
# Managing an engine

Calls that send nothing: waiting for the link, ending the receive loop, and creating sockets.
-/

namespace ModemLink.Engine

def waitOpen : Caller Unit := ExceptT.lift (Call.awaitLink (· = .opened) (Call.done ()))

/-- Wait while a receive loop is opening the link. -/
def waitSettled : Caller Unit := ExceptT.lift (Call.awaitLink (· ≠ .opening) (Call.done ()))

/-- Ask the receive loop to end, and wait until it has closed the link. -/
def close : Caller Unit := do
  Caller.checkOpen
  Caller.act fun engine => { engine with shutdown := true }
  ExceptT.lift (Call.awaitLink (· = .closed) (Call.done ()))

def setListeners (listeners : Listeners) : Caller Unit :=
  Caller.act fun engine => { engine with device := { engine.device with listeners := listeners } }

def registration : Caller Registration.Summary := do
  return (← Caller.engine).device.registration.summary

def signal : Caller Signal := do return (← Caller.engine).device.signal

/-! ## Sockets -/

/-- Create a socket whose owner wants the given notices. -/
def createSocket (contextId : Nat) (family : SocketFamily) (service : SocketService)
    (protocol : SocketProtocol) (listeners : SocketListeners) : Caller SocketHandle := do
  Caller.checkOpen
  let handle ← Caller.sockets fun sockets => sockets.allocate contextId family service protocol
  Caller.sockets fun sockets => sockets.setListeners handle fun _ => listeners
  return handle

def removeSocket (handle : SocketHandle) : Caller Unit :=
  Caller.sockets fun sockets => sockets.remove handle

def setSocketOption (handle : SocketHandle) (option : SocketOption) : Caller Unit :=
  Caller.sockets fun sockets => sockets.setOption handle option

/-- Choose which notices the owner of a socket wants. -/
def setSocketListeners (handle : SocketHandle) (listeners : SocketListeners) : Caller Unit :=
  Caller.sockets fun sockets => sockets.setListeners handle fun _ => listeners

def setSocketRemote (handle : SocketHandle) (remote : Endpoint) : Caller Unit :=
  Caller.sockets fun sockets => sockets.setRemote handle remote

def driveSocket (handle : SocketHandle) (event : SocketEvent) : Caller Unit :=
  Caller.device fun device => device.socketEvent handle event

def socketState (handle : SocketHandle) : Caller SocketState :=
  Caller.ask fun device => device.sockets.state handle

def socketInfo (handle : SocketHandle) : Caller Socket :=
  Caller.ask fun device => device.sockets.info handle

/-- The handles in use. -/
def socketHandles : Caller (List SocketHandle) := do
  return (← Caller.engine).device.sockets.handles

end ModemLink.Engine
