import ModemLink.Socket.Basic

/-!
# The sockets of a modem

A fixed number of slots holds the sockets; the handle of a socket is the number of its slot.  Every
operation names one slot and leaves the others alone, and one that fails changes nothing.
`SocketTable.transition` returns what the owner of the socket is to be told along with the new
table.
-/

namespace ModemLink

/-- The slots.  A slot without a socket is free. -/
structure SocketTable where
  slots : Vector (Option Socket) Limits.sockets
  deriving DecidableEq, Repr

namespace SocketTable

def initial : SocketTable := { slots := Vector.replicate _ none }

def get? (table : SocketTable) (handle : SocketHandle) : Option Socket :=
  table.slots[handle]?.join

/-- Fill or free a slot. -/
def put (table : SocketTable) (handle : SocketHandle) (socket : Option Socket) : SocketTable :=
  { slots := table.slots.setIfInBounds handle socket }

section

variable {table : SocketTable} {handle other : SocketHandle}

@[simp] theorem get?_initial : initial.get? handle = none := by
  simp only [get?, initial, Vector.getElem?_replicate]
  split <;> rfl

theorem get?_of_not_lt (h : ¬ handle < Limits.sockets) : table.get? handle = none := by
  simp [get?, Vector.getElem?_eq_none (Nat.le_of_not_lt h)]

theorem lt_of_get? {socket : Socket} (h : table.get? handle = some socket) :
    handle < Limits.sockets := by
  by_cases hlt : handle < Limits.sockets
  · exact hlt
  · rw [get?_of_not_lt hlt] at h
    contradiction

@[simp] theorem get?_put_self {socket : Option Socket} (h : handle < Limits.sockets) :
    (table.put handle socket).get? handle = socket := by
  simp [get?, put, h]

@[simp] theorem get?_put_of_ne {socket : Option Socket} (h : other ≠ handle) :
    (table.put handle socket).get? other = table.get? other := by
  simp [get?, put, h.symm]

end

def allHandles : List SocketHandle := List.range Limits.sockets

/-- The handles in use, in ascending order. -/
def handles (table : SocketTable) : List SocketHandle :=
  allHandles.filter fun handle => (table.get? handle).isSome

theorem mem_handles {table : SocketTable} {handle : SocketHandle} :
    handle ∈ table.handles ↔ (table.get? handle).isSome := by
  simp only [handles, allHandles, List.mem_filter, List.mem_range, and_iff_right_iff_imp]
  intro h
  obtain ⟨socket, hs⟩ := Option.isSome_iff_exists.mp h
  exact lt_of_get? hs

/-- The lowest handle not in use. -/
def lowestFree? (table : SocketTable) : Option SocketHandle :=
  allHandles.find? fun handle => (table.get? handle).isNone

/-- Answer a question about a socket. -/
def ask {α : Type} (table : SocketTable) (handle : SocketHandle) (f : Socket → α) :
    Except Error α :=
  match table.get? handle with
  | none => .error .invalidHandle
  | some socket => .ok (f socket)

/-- Replace a socket and answer. -/
def change {α : Type} (table : SocketTable) (handle : SocketHandle)
    (f : Socket → Socket × Except Error α) : SocketTable × Except Error α :=
  match table.get? handle with
  | none => (table, .error .invalidHandle)
  | some socket =>
      let (next, answer) := f socket
      (table.put handle (some next), answer)

/-- Changing one socket leaves the others alone. -/
theorem get?_change_of_ne {α : Type} {table : SocketTable} {handle other : SocketHandle}
    {f : Socket → Socket × Except Error α} (h : other ≠ handle) :
    (table.change handle f).1.get? other = table.get? other := by
  unfold change
  split
  · rfl
  · exact get?_put_of_ne h

/-- Whether a protocol carries a service. -/
def Matches (service : SocketService) (protocol : SocketProtocol) : Bool :=
  match service, protocol with
  | .stream, .tcp | .datagram, .udp => true
  | _, _ => false

/-- Put a fresh socket into the lowest free slot. -/
def allocate (table : SocketTable) (contextId : Nat) (family : SocketFamily)
    (service : SocketService) (protocol : SocketProtocol) :
    SocketTable × Except Error SocketHandle :=
  if Pdn.ValidId contextId ∧ Matches service protocol then
    match table.lowestFree? with
    | some handle =>
        (table.put handle (some (Socket.fresh contextId family service protocol)), .ok handle)
    | none => (table, .error .noMemory)
  else
    (table, .error .badParameter)

/-- Free a slot whose socket is not in use. -/
def remove (table : SocketTable) (handle : SocketHandle) : SocketTable × Except Error Unit :=
  match table.get? handle with
  | none => (table, .error .invalidHandle)
  | some socket =>
      if Socket.isRemovable socket.state then (table.put handle none, .ok ())
      else (table, .error .notAllowed)

def state (table : SocketTable) (handle : SocketHandle) : Except Error SocketState :=
  table.ask handle Socket.state

def info (table : SocketTable) (handle : SocketHandle) : Except Error Socket :=
  table.ask handle id

/-- Record the peer of an open request. -/
def setRemote (table : SocketTable) (handle : SocketHandle) (remote : Endpoint) :
    SocketTable × Except Error Unit :=
  table.change handle fun socket => ({ socket with remote := some remote }, .ok ())

def setOption (table : SocketTable) (handle : SocketHandle) (option : SocketOption) :
    SocketTable × Except Error Unit :=
  table.change handle fun socket => socket.setOption option

def setListeners (table : SocketTable) (handle : SocketHandle)
    (f : SocketListeners → SocketListeners) : SocketTable × Except Error Unit :=
  table.change handle fun socket => ({ socket with listeners := f socket.listeners }, .ok ())

/-- Drive the lifecycle of a socket.  The answer is the notice for its owner, if the owner wants
one. -/
def transition (table : SocketTable) (handle : SocketHandle) (event : SocketEvent) :
    SocketTable × Except Error (Option SocketNotice) :=
  table.change handle fun socket =>
    match Socket.next socket.state event with
    | .error failure => (socket, .error failure)
    | .ok (state, notice) =>
        ({ socket with state := state }, .ok (notice.filter socket.listeners.wants))

end SocketTable

end ModemLink
