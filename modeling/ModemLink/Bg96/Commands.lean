import ModemLink.Address.Printer
import ModemLink.Bg96.PayloadHeader
import ModemLink.Bg96.Tokens
import ModemLink.Engine.Request

/-!
# Commands of the BG96

Switching the modem on, activating contexts, and sockets.  The handle of a socket is its connection
number on the modem.  Received data stays in the modem until it is read (`AT+QIRD`).
-/

namespace ModemLink.Bg96

/-- A command with no result but its outcome. -/
def plain (command : Text) : Request := { command := command, kind := .noResult }

/-- Send a command that may take longer than usual. -/
def sendSlow (profile : Profile) (command : Text) (timeout : Nat) : Caller Unit :=
  (plain command).run profile timeout .none fun _ => .ok ()

/-! ## Switching on -/

/-- How often a command is tried while the modem may still be starting. -/
def attempts : Nat := 3

/-- How long each attempt may take, in milliseconds. -/
def attemptTimeout : Nat := 5000

/-- Try a request up to `count` times.  The last failure is the result. -/
def retry (profile : Profile) (request : Request) : (count : Nat) → Caller Unit
  | 0 => throw .timeout
  | count + 1 => do
      match ← (request.run profile attemptTimeout .none fun _ => .ok ()).attempt with
      | .ok () => return
      | .error failure => if count = 0 then throw failure else retry profile request count

/-- The configuration of the serial lines, the bands and the search order; the radio comes last. -/
def startCommands : List Text :=
  ["AT&D0", "AT+IFC=2,2", "AT+QURCCFG=\"urcport\",\"uart1\"",
    "AT+QCFG=\"band\",f,400a0e189f,a0e189f", "AT+QCFG=\"nwscanmode\",0,1",
    "AT+QCFG=\"iotopmode\",2,1", "AT+QCFG=\"nwscanseq\",020301,1", "AT+CFUN=1"]

/-- Turn the echo off, configure the modem and switch the radio on.  The first command may still be
echoed as a line of its own. -/
def enable (profile : Profile) : Caller Unit := do
  retry profile { command := "ATE0", kind := .manyLines } attempts
  startCommands.forM fun command => retry profile (plain command) attempts

/-- The commands that make the modem report registration unasked, with location. -/
def reportCommands : List Text :=
  ["AT+COPS=3,2", "AT+CREG=2", "AT+CGREG=2", "AT+CEREG=2", "AT+CTZR=1"]

/-- Make the modem report registration unasked.  Failures are ignored. -/
def enableReports (profile : Profile) : Caller Unit :=
  reportCommands.forM fun command => do
    let _ ← ((plain command).sendPlain profile).attempt

/-! ## Contexts -/

/-- How long an activation may take, in milliseconds. -/
def activationTimeout : Nat := 150000

/-- How long a deactivation may take, in milliseconds. -/
def deactivationTimeout : Nat := 40000

/-- Send the command of an activation or deactivation that is marked in the table.  If it succeeds,
`settle` it, otherwise take the mark back. -/
def changeContext (profile : Profile) (command : Text) (timeout id : Nat)
    (settle : Device → Device × Except TextError Unit) : Caller Unit := do
  match ← (sendSlow profile command timeout).attempt with
  | .ok () => Caller.report settle
  | .error failure =>
      Caller.pdn fun pdn => pdn.abort id
      throw failure

def activate (profile : Profile) (id : Nat) : Caller Unit := do
  Caller.pdn fun pdn => pdn.beginActivate id .ipv4
  changeContext profile ("AT+QIACT=".toList ++ Text.ofNat id) activationTimeout id
    fun device => device.contextActivated id none

def deactivate (profile : Profile) (id : Nat) : Caller Unit := do
  Caller.pdn fun pdn => pdn.beginDeactivate id
  changeContext profile ("AT+QIDEACT=".toList ++ Text.ofNat id) deactivationTimeout id
    fun device => device.contextDeactivated id

/-! ## Sockets -/

def protocolName : SocketProtocol → Text
  | .tcp => "TCP"
  | .udp => "UDP"

/-- The modem's number for an access mode. -/
def accessModeNumber : AccessMode → Nat
  | .buffered => 0
  | .pushed => 1
  | .transparent => 2

def quoted (s : Text) : Text := '"' :: s ++ ['"']

def openCommand (handle : SocketHandle) (socket : Socket) (remote : Endpoint) : Text :=
  "AT+QIOPEN=".toList ++ Text.join ","
    [Text.ofNat socket.contextId, Text.ofNat handle, quoted (protocolName socket.protocol),
      quoted remote.address.toText, Text.ofNat remote.port, Text.ofNat socket.localPort,
      Text.ofNat (accessModeNumber socket.accessMode)]

/-- Request a connection.  Its outcome arrives later and unasked; a request that fails leaves the
socket failed. -/
def connect (profile : Profile) (handle : SocketHandle) (remote : Endpoint) : Caller Unit := do
  let socket ← Caller.ask fun device => device.sockets.info handle
  if socket.state ≠ .created then
    throw .notAllowed
  Caller.sockets fun sockets => sockets.setRemote handle remote
  Caller.device fun device => device.socketEvent handle .openRequested
  match ← ((plain (openCommand handle socket remote)).sendPlain profile).attempt with
  | .ok () => return
  | .error failure =>
      let _ ← (Caller.device fun device => device.socketEvent handle .openFailed).attempt
      throw failure

/-- Refuse a socket that is not connected. -/
def checkConnected (socket : Socket) : Except Error Unit :=
  match socket.state with
  | .connected => .ok ()
  | .closed => .error .socketClosed
  | _ => .error .socketNotConnected

/-- Send data, at most as much as one command carries.  Ends with the number of bytes sent. -/
def sendData (profile : Profile) (handle : SocketHandle) (data : Bytes) : Caller Nat := do
  let socket ← Caller.ask fun device => device.sockets.info handle
  Caller.ofExcept (checkConnected socket)
  if data = [] then
    throw .badParameter
  let data := data.take Limits.sentPayload
  let command := "AT+QISEND=".toList
    ++ Text.join "," [Text.ofNat handle, Text.ofNat data.length]
  (plain command).sendPayload profile { data := data } Hooks.dataPrompt []

/-- Read at most `capacity` bytes of what the modem holds for a socket, which may be nothing. -/
def receiveData (profile : Profile) (handle : SocketHandle) (capacity : Nat) : Caller Bytes := do
  let socket ← Caller.ask fun device => device.sockets.info handle
  Caller.ofExcept (checkConnected socket)
  if capacity = 0 then
    throw .badParameter
  let command := "AT+QIRD=".toList
    ++ Text.join "," [Text.ofNat handle, Text.ofNat (min capacity Limits.receivedPayload)]
  let request : Request := { command := command, kind := .manyLinesWithData, label := some "+QIRD" }
  request.sendWithHeader profile payloadHeader fun response => .ok (response.data.take capacity)

/-- How long a close may take, in milliseconds. -/
def closeTimeout : Nat := 10000

/-- Close a socket and free its slot.  The modem is told unless no open was ever requested, and the
slot is freed whatever it answers. -/
def closeSocket (profile : Profile) (handle : SocketHandle) : Caller Unit := do
  let state ← Caller.ask fun device => device.sockets.state handle
  if state ≠ .closed then
    Caller.device fun device => device.socketEvent handle .closeRequested
  let result ←
    if state ≠ .created then
      (sendSlow profile ("AT+QICLOSE=".toList ++ Text.ofNat handle) closeTimeout).attempt
    else
      pure (.ok ())
  if (← Caller.ask fun device => device.sockets.state handle) = .closing then
    Caller.device fun device => device.socketEvent handle .closed
  Caller.sockets fun sockets => sockets.remove handle
  Caller.ofExcept result

end ModemLink.Bg96
