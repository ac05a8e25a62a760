import Mathlib.Data.List.Basic
import ModemLink.Proofs.Socket.Operations

/-!
# Sockets without a link

What a link that breaks does to the sockets: one that was open or about to be has failed or is
closed, and its owner is told once.

* `Device.get?_loseSockets`: what becomes of each socket.
* `Device.socketsLost_loseSockets`: who is told, and that nothing else changes.
* `Device.loseSockets_of_settled`: a link that is lost again has nothing more to bring down.
-/

namespace ModemLink

namespace SocketState

/-- What a lost link makes of a state. -/
def cutOff : SocketState → SocketState
  | opening => openFailed
  | connected | closing => closed
  | settled => settled

/-- What the owner of a socket in a state is told about a lost link. -/
def lossNotice? : SocketState → Option SocketNotice
  | opening => some (.opened false)
  | connected | closing => some .closed
  | _ => none

/-- Nothing happens to a socket in this state when the link is lost. -/
def Settled (state : SocketState) : Prop :=
  state ≠ opening ∧ state ≠ connected ∧ state ≠ closing

theorem settled_cutOff (state : SocketState) : state.cutOff.Settled := by
  cases state <;> exact ⟨nofun, nofun, nofun⟩

theorem cutOff_of_settled {state : SocketState} (h : state.Settled) :
    state.cutOff = state ∧ state.lossNotice? = none := by
  obtain ⟨hopening, hconnected, hclosing⟩ := h
  cases state <;> first | contradiction | exact ⟨rfl, rfl⟩

end SocketState

namespace Socket

/-- The lifecycle has a place for a lost link in every state. -/
theorem next_linkFailed (state : SocketState) :
    next state .linkFailed = .ok (state.cutOff, state.lossNotice?) := by
  cases state <;> rfl

/-- A socket after the link was lost. -/
def cutOff (socket : Socket) : Socket := { socket with state := socket.state.cutOff }

end Socket

namespace SocketTable

theorem put_none_of_get? {table : SocketTable} {handle : SocketHandle}
    (h : table.get? handle = none) : table.put handle none = table := by
  rw [← h, put_get?]

end SocketTable

namespace Device

variable {device : Device} {handle : SocketHandle}

/-- What the owner of a socket is told when the link is lost, if it wants to know. -/
def lossNotice (device : Device) (handle : SocketHandle) : Option Notice := do
  let socket ← device.sockets.get? handle
  let notice ← socket.state.lossNotice?.filter socket.listeners.wants
  return .socket handle notice socket.state.cutOff

/-- The link failed for one socket. -/
theorem socketEvent_linkFailed (device : Device) (handle : SocketHandle) :
    (device.socketEvent handle .linkFailed).1 =
      { device with
        sockets := device.sockets.put handle ((device.sockets.get? handle).map Socket.cutOff)
        notices := device.notices ++ (device.lossNotice handle).toList } := by
  cases hsocket : device.sockets.get? handle with
  | none =>
      simp [socketEvent_of_free hsocket, lossNotice, hsocket,
        SocketTable.put_none_of_get? hsocket]
  | some socket =>
      rw [socketEvent_of_ok hsocket (Socket.next_linkFailed socket.state)]
      simp only [lossNotice, hsocket, Option.map_some, Socket.cutOff]
      cases hnotice : socket.state.lossNotice?.filter socket.listeners.wants <;> simp [hnotice]

/-- What becomes of a device whose link failed for some of the sockets. -/
structure SocketsLost (handles : List SocketHandle) (before after : Device) : Prop where
  hit : ∀ handle ∈ handles,
    after.sockets.get? handle = (before.sockets.get? handle).map Socket.cutOff
  notices : after.notices = before.notices ++ handles.filterMap before.lossNotice
  rest : after = { before with sockets := after.sockets, notices := after.notices }

theorem SocketsLost.pdn {handles : List SocketHandle} {before after : Device}
    (h : SocketsLost handles before after) : after.pdn = before.pdn := by
  rw [h.rest]

theorem SocketsLost.listeners {handles : List SocketHandle} {before after : Device}
    (h : SocketsLost handles before after) : after.listeners = before.listeners := by
  rw [h.rest]

/-- The link fails for one socket after the other. -/
theorem socketsLost_foldl {handles : List SocketHandle} (hnodup : handles.Nodup)
    (device : Device) :
    SocketsLost handles device
      (handles.foldl (fun device handle => (device.socketEvent handle .linkFailed).1) device) := by
  induction handles generalizing device with
  | nil => exact ⟨nofun, by simp, rfl⟩
  | cons first handles ih =>
      obtain ⟨hfirst, hnodup⟩ := List.nodup_cons.mp hnodup
      let next := (device.socketEvent first .linkFailed).1
      have hnext : next = _ := socketEvent_linkFailed device first
      have hget : ∀ handle ≠ first, next.sockets.get? handle = device.sockets.get? handle :=
        fun handle hne => get?_socketEvent_of_ne hne
      obtain ⟨hit, hnotices, hrest⟩ := ih hnodup next
      have hframe := SocketOperation.drives_of_not_mem .linkFailed hfirst next
      rw [List.foldl_cons]
      refine ⟨fun handle hmem => ?_, ?_, ?_⟩
      · rcases List.mem_cons.mp hmem with rfl | hmem
        · -- the later events are about other sockets
          rw [SocketOperation.applyAll, List.foldl_map] at hframe
          refine hframe.1.trans ?_
          rw [hnext]
          by_cases hlt : handle < Limits.sockets
          · exact SocketTable.get?_put_self hlt
          · simp [SocketTable.get?_of_not_lt hlt]
        · rw [hit handle hmem, hget handle (ne_of_mem_of_not_mem hmem hfirst)]
      · -- the first event touched no other socket, so what their owners are told is the same
        have hlater : handles.filterMap next.lossNotice = handles.filterMap device.lossNotice :=
          List.filterMap_congr fun handle hmem => by
            rw [lossNotice, hget handle (ne_of_mem_of_not_mem hmem hfirst)]
            rfl
        rw [hnotices, hlater, List.filterMap_cons, hnext]
        cases device.lossNotice first <;> simp
      · rw [hrest, hnext]

/-- Losing the link cuts every socket off and tells the owners, each of them once. -/
theorem socketsLost_loseSockets (device : Device) :
    SocketsLost SocketTable.allHandles device device.loseSockets :=
  socketsLost_foldl List.nodup_range device

theorem get?_loseSockets (device : Device) (handle : SocketHandle) :
    device.loseSockets.sockets.get? handle =
      (device.sockets.get? handle).map Socket.cutOff := by
  -- all handles are visited, and there is nothing beyond them
  by_cases hlt : handle < Limits.sockets
  · exact (socketsLost_loseSockets device).hit handle (List.mem_range.mpr hlt)
  · simp [SocketTable.get?_of_not_lt hlt]

/-- A link that is lost again finds all sockets settled. -/
theorem loseSockets_of_settled
    (h : ∀ handle socket, device.sockets.get? handle = some socket → socket.state.Settled) :
    device.loseSockets = device := by
  have hidle (handle : SocketHandle) : (device.socketEvent handle .linkFailed).1 = device := by
    rw [socketEvent_linkFailed]
    cases hsocket : device.sockets.get? handle with
    | none => simp [lossNotice, hsocket, SocketTable.put_none_of_get? hsocket]
    | some socket =>
        obtain ⟨hstate, hnotice⟩ := SocketState.cutOff_of_settled (h handle socket hsocket)
        have hcut : socket.cutOff = socket := by rw [Socket.cutOff, hstate]
        simp [lossNotice, hsocket, hnotice, hcut, SocketTable.put_of_get? hsocket]
  unfold loseSockets
  generalize SocketTable.allHandles = handles
  induction handles with
  | nil => rfl
  | cons first handles ih => rw [List.foldl_cons, hidle, ih]

end Device

end ModemLink
