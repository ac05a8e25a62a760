import ModemLink.Device

/-!
# Operations on sockets

What a single operation does to a socket and to the log of what its owner was told.

* `socketEvent_of_ok` and `socketEvent_of_error`: an event that the lifecycle has a place for moves
  the socket and tells the owner; any other changes nothing.
* `SocketOperation.effect_apply`: an operation frees a socket in use, leaves it alone, or moves it
  by one event, and then the notice shows the state that the socket is in afterwards.
-/

namespace ModemLink

namespace SocketTable

variable {table : SocketTable} {handle other : SocketHandle}

/-- Filling a slot with what it holds changes nothing. -/
@[simp] theorem put_get? (table : SocketTable) (handle : SocketHandle) :
    table.put handle (table.get? handle) = table := by
  obtain ⟨slots⟩ := table
  simp only [put, get?, mk.injEq]
  ext i hi
  rw [Vector.getElem_setIfInBounds]
  split
  next heq =>
    subst heq
    simp [Vector.getElem?_eq_getElem hi]
  · rfl

theorem put_of_get? {socket : Socket} (h : table.get? handle = some socket) :
    table.put handle (some socket) = table := by
  rw [← h, put_get?]

/-- The lowest free handle belongs to a slot, and that is free. -/
theorem of_lowestFree? (h : table.lowestFree? = some handle) :
    handle < Limits.sockets ∧ table.get? handle = none := by
  have hfree := List.find?_some h
  have hmem := List.mem_of_find?_eq_some h
  exact ⟨List.mem_range.mp hmem, Option.isNone_iff_eq_none.mp hfree⟩

variable {contextId : Nat} {family : SocketFamily} {service : SocketService}
  {protocol : SocketProtocol} {next : SocketTable}

/-- An allocation takes a free slot for a fresh socket. -/
theorem allocate_eq_ok
    (h : table.allocate contextId family service protocol = (next, .ok handle)) :
    handle < Limits.sockets ∧ table.get? handle = none ∧
      next = table.put handle (some (Socket.fresh contextId family service protocol)) := by
  unfold allocate at h
  split at h
  · split at h
    next hlowest =>
      cases h
      exact ⟨(of_lowestFree? hlowest).1, (of_lowestFree? hlowest).2, rfl⟩
    · cases h
  · cases h

/-- An allocation leaves the sockets in use alone. -/
theorem get?_allocate_of_isSome (h : (table.get? other).isSome) :
    (table.allocate contextId family service protocol).1.get? other = table.get? other := by
  unfold allocate
  split
  · split
    next handle hlowest =>
      refine get?_put_of_ne fun heq => ?_
      rw [heq, (of_lowestFree? hlowest).2] at h
      cases h
    · rfl
  · rfl

theorem get?_remove_of_ne (h : other ≠ handle) :
    (table.remove handle).1.get? other = table.get? other := by
  unfold remove
  split
  · rfl
  · split
    · exact get?_put_of_ne h
    · rfl

theorem remove_of_free (h : table.get? handle = none) :
    table.remove handle = (table, .error .invalidHandle) := by
  unfold remove
  rw [h]

theorem state_of_get? {socket : Socket} (h : table.get? handle = some socket) :
    table.state handle = .ok socket.state := by
  rw [state, ask, h]

theorem info_of_get? {socket : Socket} (h : table.get? handle = some socket) :
    table.info handle = .ok socket := by
  rw [info, ask, h]
  rfl

theorem change_of_free {α : Type} {f : Socket → Socket × Except Error α}
    (h : table.get? handle = none) : table.change handle f = (table, .error .invalidHandle) := by
  unfold change
  rw [h]

theorem change_of_get? {α : Type} {socket : Socket} {f : Socket → Socket × Except Error α}
    (h : table.get? handle = some socket) :
    table.change handle f = (table.put handle (some (f socket).1), (f socket).2) := by
  unfold change
  rw [h]

theorem get?_change_self {α : Type} {socket : Socket} {f : Socket → Socket × Except Error α}
    (h : table.get? handle = some socket) :
    (table.change handle f).1.get? handle = some (f socket).1 := by
  rw [change_of_get? h]
  exact get?_put_self (lt_of_get? h)

end SocketTable

namespace Socket

theorem state_setOption (socket : Socket) (option : SocketOption) :
    (socket.setOption option).1.state = socket.state := by
  cases option <;> unfold setOption <;> (repeat' split) <;> rfl

theorem listeners_setOption (socket : Socket) (option : SocketOption) :
    (socket.setOption option).1.listeners = socket.listeners := by
  cases option <;> unfold setOption <;> (repeat' split) <;> rfl

end Socket

namespace Device

variable {device : Device} {handle other : SocketHandle} {socket : Socket} {event : SocketEvent}

/-- What the owner of a socket has been told, each time with the state that it saw. -/
def told (device : Device) (handle : SocketHandle) : List (SocketNotice × SocketState) :=
  device.notices.filterMap fun
    | .socket owner notice seen => if owner = handle then some (notice, seen) else none
    | _ => none

/-! ## Events -/

/-- An event that the lifecycle has a place for moves the socket, and the owner is told if it wants
that. -/
theorem socketEvent_of_ok {state : SocketState} {notice : Option SocketNotice}
    (h : device.sockets.get? handle = some socket)
    (hnext : Socket.next socket.state event = .ok (state, notice)) :
    device.socketEvent handle event =
      ({ device with
          sockets := device.sockets.put handle (some { socket with state := state })
          notices := device.notices ++
            ((notice.filter socket.listeners.wants).map (Notice.socket handle · state)).toList },
        .ok ()) := by
  -- the owner is told after the socket has moved, so it sees the new state
  have hstate : (device.sockets.put handle (some { socket with state := state })).state handle =
      .ok state := by
    rw [SocketTable.state, SocketTable.ask, SocketTable.get?_put_self (SocketTable.lt_of_get? h)]
  have htransition : device.sockets.transition handle event =
      (device.sockets.put handle (some { socket with state := state }),
        .ok (notice.filter socket.listeners.wants)) := by
    unfold SocketTable.transition SocketTable.change
    simp only [h, hnext]
  unfold socketEvent
  rw [htransition]
  cases notice.filter socket.listeners.wants with
  | none => simp
  | some notice => simp [hstate, notify, Listeners.wants]

theorem get?_socketEvent_of_ok {state : SocketState} {notice : Option SocketNotice}
    (h : device.sockets.get? handle = some socket)
    (hnext : Socket.next socket.state event = .ok (state, notice)) :
    (device.socketEvent handle event).1.sockets.get? handle =
      some { socket with state := state } := by
  rw [socketEvent_of_ok h hnext]
  exact SocketTable.get?_put_self (SocketTable.lt_of_get? h)

theorem socketEvent_of_free (h : device.sockets.get? handle = none) :
    device.socketEvent handle event = (device, .error .invalidHandle) := by
  unfold socketEvent SocketTable.transition SocketTable.change
  rw [h]

/-- An event that the lifecycle has no place for is refused. -/
theorem socketEvent_of_refused {failure : Error} (h : device.sockets.get? handle = some socket)
    (hnext : Socket.next socket.state event = .error failure) :
    device.socketEvent handle event = (device, .error failure) := by
  unfold socketEvent SocketTable.transition SocketTable.change
  simp only [h, hnext, SocketTable.put_of_get? h]

/-- An event is refused, and then nothing changes, or it moves the socket. -/
theorem socketEvent_cases (device : Device) (handle : SocketHandle) (event : SocketEvent) :
    (∃ failure, device.socketEvent handle event = (device, .error failure)) ∨
      ∃ socket state notice, device.sockets.get? handle = some socket ∧
        Socket.next socket.state event = .ok (state, notice) := by
  cases hsocket : device.sockets.get? handle with
  | none => exact .inl ⟨_, socketEvent_of_free hsocket⟩
  | some socket =>
      cases hnext : Socket.next socket.state event with
      | ok moved => exact .inr ⟨socket, moved.1, moved.2, rfl, hnext⟩
      | error failure => exact .inl ⟨_, socketEvent_of_refused hsocket hnext⟩

/-- An event that is refused changes nothing and tells nobody. -/
theorem socketEvent_of_error {failure : Error}
    (h : (device.socketEvent handle event).2 = .error failure) :
    (device.socketEvent handle event).1 = device := by
  rcases socketEvent_cases device handle event with ⟨cause, heq⟩ | ⟨_, _, _, hsocket, hnext⟩
  · rw [heq]
  · rw [socketEvent_of_ok hsocket hnext] at h
    cases h

theorem get?_socketEvent_of_ne (h : other ≠ handle) :
    (device.socketEvent handle event).1.sockets.get? other = device.sockets.get? other := by
  rcases socketEvent_cases device handle event with ⟨cause, heq⟩ | ⟨_, _, _, hsocket, hnext⟩
  · rw [heq]
  · rw [socketEvent_of_ok hsocket hnext]
    exact SocketTable.get?_put_of_ne h

theorem told_socketEvent_of_ne (h : other ≠ handle) :
    (device.socketEvent handle event).1.told other = device.told other := by
  rcases socketEvent_cases device handle event with
    ⟨cause, heq⟩ | ⟨socket, state, notice, hsocket, hnext⟩
  · rw [heq]
  · rw [socketEvent_of_ok hsocket hnext]
    cases notice.filter socket.listeners.wants with
    | none => simp [told]
    | some notice => simp [told, List.filterMap_append, h.symm]

/-- The owner of a socket is told about each move that it wants to know of. -/
theorem told_socketEvent_of_ok {state : SocketState} {notice : Option SocketNotice}
    (h : device.sockets.get? handle = some socket)
    (hnext : Socket.next socket.state event = .ok (state, notice)) :
    (device.socketEvent handle event).1.told handle =
      device.told handle ++
        ((notice.filter socket.listeners.wants).map (·, state)).toList := by
  rw [socketEvent_of_ok h hnext]
  cases notice.filter socket.listeners.wants with
  | none => simp [told]
  | some notice => simp [told, List.filterMap_append]

/-- The owner of a socket that wants every notice is told about each move. -/
theorem told_socketEvent {state : SocketState} {notice : Option SocketNotice}
    (h : device.sockets.get? handle = some socket) (hall : socket.listeners = .all)
    (hnext : Socket.next socket.state event = .ok (state, notice)) :
    (device.socketEvent handle event).1.told handle =
      device.told handle ++ (notice.map (·, state)).toList := by
  have hwants : notice.filter socket.listeners.wants = notice := by
    rw [hall]
    cases notice with
    | none => rfl
    | some notice => cases notice <;> rfl
  rw [told_socketEvent_of_ok h hnext, hwants]

end Device

/-! ## Operations -/

/-- What can be done with the sockets of a device. -/
inductive SocketOperation where
  | allocate (contextId : Nat) (family : SocketFamily) (service : SocketService)
      (protocol : SocketProtocol)
  | remove (handle : SocketHandle)
  | setRemote (handle : SocketHandle) (remote : Endpoint)
  | setOption (handle : SocketHandle) (option : SocketOption)
  | setListeners (handle : SocketHandle) (f : SocketListeners → SocketListeners)
  | drive (handle : SocketHandle) (event : SocketEvent)
  /-- The link to the modem broke. -/
  | failAll

namespace SocketOperation

/-- What an operation does. -/
def apply (device : Device) : SocketOperation → Device
  | allocate contextId family service protocol =>
      { device with
        sockets := (device.sockets.allocate contextId family service protocol).1 }
  | remove handle => { device with sockets := (device.sockets.remove handle).1 }
  | setRemote handle remote =>
      { device with sockets := (device.sockets.setRemote handle remote).1 }
  | setOption handle option =>
      { device with sockets := (device.sockets.setOption handle option).1 }
  | setListeners handle f => { device with sockets := (device.sockets.setListeners handle f).1 }
  | drive handle event => (device.socketEvent handle event).1
  | failAll => device.loseSockets

/-- Whether an operation chooses anew what the owner of a socket wants to be told. -/
def setsListeners (handle : SocketHandle) : SocketOperation → Bool
  | setListeners owner _ => owner = handle
  | _ => false

/-- What operations do one after the other. -/
def applyAll (device : Device) (operations : List SocketOperation) : Device :=
  operations.foldl apply device

variable {device : Device} {handle : SocketHandle} {socket : Socket}

@[simp] theorem applyAll_nil (device : Device) : applyAll device [] = device := rfl

@[simp] theorem applyAll_cons (device : Device) (operation : SocketOperation)
    (operations : List SocketOperation) :
    applyAll device (operation :: operations) = applyAll (operation.apply device) operations := rfl

theorem applyAll_append (device : Device) (first second : List SocketOperation) :
    applyAll device (first ++ second) = applyAll (applyAll device first) second :=
  List.foldl_append

/-! ## What an operation does to one socket -/

/-- What may become of a socket whose owner wants every notice, and of the log of its notices. -/
inductive Effect (handle : SocketHandle) (socket : Socket) (before after : Device) : Prop
  /-- Its slot is freed. -/
  | freed (hget : after.sockets.get? handle = none) (htold : after.told handle = before.told handle)
  | kept (later : Socket) (hget : after.sockets.get? handle = some later)
      (hall : later.listeners = .all) (hstate : later.state = socket.state)
      (htold : after.told handle = before.told handle)
  /-- An event moves it, and a notice shows the state that it is in now. -/
  | moved (later : Socket) (event : SocketEvent) (notice : Option SocketNotice)
      (hget : after.sockets.get? handle = some later) (hall : later.listeners = .all)
      (hnext : Socket.next socket.state event = .ok (later.state, notice))
      (htold : after.told handle = before.told handle ++ (notice.map (·, later.state)).toList)

/-- An operation that leaves the slot and the notices alone. -/
theorem Effect.of_eq {after : Device} (h : device.sockets.get? handle = some socket)
    (hall : socket.listeners = .all)
    (hget : after.sockets.get? handle = device.sockets.get? handle)
    (htold : after.told handle = device.told handle) : Effect handle socket device after :=
  .kept socket (hget.trans h) hall rfl htold

/-- An operation that replaces one socket by another in the same state. -/
theorem Effect.of_change {α : Type} {owner : SocketHandle} {f : Socket → Socket × Except Error α}
    (h : device.sockets.get? handle = some socket) (hall : socket.listeners = .all)
    (hstate : ∀ socket, (f socket).1.state = socket.state)
    (hlisteners : handle = owner → ∀ socket, (f socket).1.listeners = socket.listeners) :
    Effect handle socket device { device with sockets := (device.sockets.change owner f).1 } := by
  by_cases heq : handle = owner
  · have hget := SocketTable.get?_change_self (f := f) (heq ▸ h)
    rw [← heq] at hget ⊢
    exact .kept (f socket).1 hget ((hlisteners heq socket).trans hall) (hstate socket) rfl
  · exact .of_eq h hall (SocketTable.get?_change_of_ne heq) rfl

theorem effect_remove (owner : SocketHandle) (h : device.sockets.get? handle = some socket)
    (hall : socket.listeners = .all) :
    Effect handle socket device ((remove owner).apply device) := by
  by_cases heq : handle = owner
  · subst heq
    cases hremovable : Socket.isRemovable socket.state with
    | true =>
        refine .freed ?_ rfl
        simp only [apply, SocketTable.remove, h, hremovable, if_true]
        exact SocketTable.get?_put_self (SocketTable.lt_of_get? h)
    | false =>
        refine .of_eq h hall ?_ rfl
        simp [apply, SocketTable.remove, h, hremovable]
  · exact .of_eq h hall (SocketTable.get?_remove_of_ne heq) rfl

theorem effect_drive (owner : SocketHandle) (event : SocketEvent)
    (h : device.sockets.get? handle = some socket) (hall : socket.listeners = .all) :
    Effect handle socket device ((drive owner event).apply device) := by
  by_cases heq : handle = owner
  · subst heq
    rcases Device.socketEvent_cases device handle event with
      ⟨failure, hfailed⟩ | ⟨moving, state, notice, hmoving, hnext⟩
    · exact .of_eq h hall (by rw [apply, hfailed]) (by rw [apply, hfailed])
    · obtain rfl : socket = moving := Option.some.inj (h.symm.trans hmoving)
      refine .moved { socket with state := state } event notice ?_ hall hnext ?_
      · exact Device.get?_socketEvent_of_ok h hnext
      · exact Device.told_socketEvent h hall hnext
  · exact .of_eq h hall (Device.get?_socketEvent_of_ne heq) (Device.told_socketEvent_of_ne heq)

/-- Driving other sockets leaves a socket and the log of its notices alone. -/
theorem drives_of_not_mem (event : SocketEvent) {handles : List SocketHandle}
    (h : handle ∉ handles) (device : Device) :
    (applyAll device (handles.map fun handle => drive handle event)).sockets.get? handle =
        device.sockets.get? handle ∧
      (applyAll device (handles.map fun handle => drive handle event)).told handle =
        device.told handle := by
  induction handles generalizing device with
  | nil => exact ⟨rfl, rfl⟩
  | cons owner handles ih =>
      rw [List.mem_cons, not_or] at h
      obtain ⟨hget, htold⟩ := ih h.2 ((drive owner event).apply device)
      exact ⟨hget.trans (Device.get?_socketEvent_of_ne h.1),
        htold.trans (Device.told_socketEvent_of_ne h.1)⟩

/-- Losing the link drives every socket, each of them once. -/
theorem loseSockets_eq_applyAll (device : Device) :
    device.loseSockets =
      applyAll device (SocketTable.allHandles.map fun handle => drive handle .linkFailed) := by
  rw [applyAll, List.foldl_map]
  rfl

theorem effect_failAll (h : device.sockets.get? handle = some socket)
    (hall : socket.listeners = .all) : Effect handle socket device (failAll.apply device) := by
  have hmem : handle ∈ SocketTable.allHandles := List.mem_range.mpr (SocketTable.lt_of_get? h)
  obtain ⟨before, after, hsplit⟩ := List.append_of_mem hmem
  have hnodup : (before ++ handle :: after).Nodup := hsplit ▸ List.nodup_range
  obtain ⟨-, hrest, hne⟩ := List.nodup_append.mp hnodup
  have hbefore : handle ∉ before := fun hmem => hne handle hmem handle List.mem_cons_self rfl
  have hafter : handle ∉ after := (List.nodup_cons.mp hrest).1
  -- only the event of its own handle concerns the socket
  let first := applyAll device (before.map fun handle => drive handle .linkFailed)
  let second := (drive handle .linkFailed).apply first
  have hfailAll : failAll.apply device =
      applyAll second (after.map fun handle => drive handle .linkFailed) := by
    rw [apply, loseSockets_eq_applyAll, hsplit, List.map_append, applyAll_append, List.map_cons,
      applyAll_cons]
  obtain ⟨hfirst, htoldFirst⟩ := drives_of_not_mem .linkFailed hbefore device
  obtain ⟨hlast, htoldLast⟩ := drives_of_not_mem .linkFailed hafter second
  rw [hfailAll]
  cases effect_drive handle .linkFailed (hfirst.trans h) hall with
  | freed hget htold =>
      exact .freed (hlast.trans hget) ((htoldLast.trans htold).trans htoldFirst)
  | kept later hget hall hstate htold =>
      exact .kept later (hlast.trans hget) hall hstate ((htoldLast.trans htold).trans htoldFirst)
  | moved later event notice hget hall hnext htold =>
      refine .moved later event notice (hlast.trans hget) hall hnext ?_
      rw [htoldLast, htold]
      exact congrArg (· ++ _) htoldFirst

/-- Every operation frees a socket, leaves it alone, or moves it by one event. -/
theorem effect_apply {operation : SocketOperation} (h : device.sockets.get? handle = some socket)
    (hall : socket.listeners = .all) (hlisteners : operation.setsListeners handle = false) :
    Effect handle socket device (operation.apply device) := by
  cases operation with
  | allocate contextId family service protocol =>
      have hused : (device.sockets.get? handle).isSome := by rw [h]; rfl
      exact .of_eq h hall (SocketTable.get?_allocate_of_isSome hused) rfl
  | remove owner => exact effect_remove owner h hall
  | setRemote owner remote => exact .of_change h hall (fun _ => rfl) fun _ _ => rfl
  | setOption owner option =>
      exact .of_change h hall (fun socket => socket.state_setOption option)
        fun _ socket => socket.listeners_setOption option
  | setListeners owner f =>
      refine .of_change h hall (fun _ => rfl) fun heq => ?_
      simp [setsListeners, heq] at hlisteners
  | drive owner event => exact effect_drive owner event h hall
  | failAll => exact effect_failAll h hall

end SocketOperation

end ModemLink
