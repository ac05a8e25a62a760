import ModemLink.Proofs.Socket.Operations

/-!
# The life of a socket

A socket is driven by events in any order, by its user, by the modem and by a link that breaks.
`Socket.next` decides which of them count.  Two things follow from the table alone: the state never
goes back (`next_precedes`), and what the owner has been told is determined by the state up to the
number of data notices (`Told.next`).

`told_lifecycle` carries this over to whole lives, from the allocation of a socket to its removal,
with operations on this and other sockets in any order.
-/

namespace ModemLink

/-! ## Forward only -/

namespace SocketState

/-- How far along its lifecycle a socket is. -/
def place : SocketState → Nat
  | created => 0
  | opening => 1
  | connected | openFailed => 2
  | closing => 3
  | closed => 4

/-- A socket in the one state may later be in the other. -/
def Precedes (state later : SocketState) : Prop := state = later ∨ state.place < later.place

theorem Precedes.refl (state : SocketState) : state.Precedes state := .inl rfl

theorem Precedes.trans {first second third : SocketState} (h : first.Precedes second)
    (hnext : second.Precedes third) : first.Precedes third := by
  rcases h with rfl | h
  · exact hnext
  · rcases hnext with rfl | hnext
    · exact .inr h
    · exact .inr (Nat.lt_trans h hnext)

end SocketState

namespace Socket

theorem next_precedes {state later : SocketState} {event : SocketEvent}
    {notice : Option SocketNotice} (h : next state event = .ok (later, notice)) :
    state.Precedes later := by
  cases state <;> cases event <;> cases h
  all_goals first | exact .inl rfl | exact .inr (by decide)

/-! ## The log -/

/-- What the owner of a socket has been told, given the state of the socket. -/
inductive Told : SocketState → List SocketNotice → Prop
  | created : Told .created []
  | opening : Told .opening []
  | connected (count : Nat) : Told .connected (.opened true :: List.replicate count .dataReady)
  | openFailed : Told .openFailed [.opened false]
  | closingUnopened : Told .closing []
  | closing (count : Nat) : Told .closing (.opened true :: List.replicate count .dataReady)
  | closedUnopened : Told .closed []
  | closedFailed : Told .closed [.opened false]
  | closedOpening : Told .closed [.closed]
  | closed (count : Nat) :
      Told .closed (.opened true :: List.replicate count .dataReady ++ [.closed])

/-- Each event adds what the new state asks for. -/
theorem Told.next {state later : SocketState} {event : SocketEvent} {notice : Option SocketNotice}
    {log : List SocketNotice} (h : Told state log)
    (hnext : Socket.next state event = .ok (later, notice)) :
    Told later (log ++ notice.toList) := by
  -- state by state, the events that the lifecycle takes there, in the order of `SocketEvent`
  cases h with
  | created =>
      cases event <;> cases hnext
      · exact .opening
      · exact .closedUnopened
      · exact .created
  | opening =>
      cases event <;> cases hnext
      · exact .connected 0
      · exact .openFailed
      · exact .closingUnopened
      · exact .openFailed
      · exact .openFailed
  | connected count =>
      -- data adds one more notice to those of before, and an end of the connection closes the log
      cases event <;> cases hnext
      · simpa using Told.connected count
      · simpa [List.replicate_succ'] using Told.connected (count + 1)
      · simpa using Told.closing count
      · exact .closed count
      · exact .closed count
  | openFailed =>
      cases event <;> cases hnext
      · exact .openFailed
      · exact .closedFailed
      · exact .openFailed
      · exact .openFailed
  | closingUnopened =>
      -- the open was never confirmed, so the close is the only notice
      cases event <;> cases hnext
      · exact .closingUnopened
      · exact .closedOpening
      · exact .closedOpening
      · exact .closedOpening
  | closing count =>
      cases event <;> cases hnext
      · simpa using Told.closing count
      · exact .closed count
      · exact .closed count
      · exact .closed count
  | closedUnopened => cases event <;> cases hnext <;> exact .closedUnopened
  | closedFailed => cases event <;> cases hnext <;> exact .closedFailed
  | closedOpening => cases event <;> cases hnext <;> exact .closedOpening
  | closed count =>
      cases event <;> cases hnext <;> simpa using Told.closed count

/-- The logs that there can be: nothing, a failed open, a close before the open was confirmed, or an
open, then any number of data notices, and then possibly a close. -/
def WholeLog (log : List SocketNotice) : Prop :=
  log = [] ∨ log = [.opened false] ∨ log = [.closed] ∨
    (∃ count, log = .opened true :: List.replicate count .dataReady) ∨
    ∃ count, log = .opened true :: List.replicate count .dataReady ++ [.closed]

theorem Told.wholeLog {state : SocketState} {log : List SocketNotice} (h : Told state log) :
    WholeLog log := by
  cases h with
  | created | opening | closingUnopened | closedUnopened => exact .inl rfl
  | openFailed | closedFailed => exact .inr (.inl rfl)
  | closedOpening => exact .inr (.inr (.inl rfl))
  | connected count | closing count => exact .inr (.inr (.inr (.inl ⟨count, rfl⟩)))
  | closed count => exact .inr (.inr (.inr (.inr ⟨count, rfl⟩)))

end Socket

/-! ## Whole lives -/

namespace SocketOperation

variable {start device : Device} {handle : SocketHandle} {socket : Socket}
  {operations : List SocketOperation}

/-- A socket is in use until the last of the operations, which may free it. -/
def InUse (handle : SocketHandle) : Device → List SocketOperation → Prop
  | _, [] => True
  | device, operation :: operations =>
      (device.sockets.get? handle).isSome ∧ InUse handle (operation.apply device) operations

instance InUse.decide (handle : SocketHandle) : (device : Device) →
    (operations : List SocketOperation) → Decidable (InUse handle device operations)
  | _, [] => inferInstanceAs (Decidable True)
  | device, operation :: operations =>
      have := InUse.decide handle (operation.apply device) operations
      inferInstanceAs (Decidable (_ ∧ InUse handle (operation.apply device) operations))

theorem inUse_append {first second : List SocketOperation} :
    InUse handle device (first ++ second) ↔
      InUse handle device first ∧ InUse handle (applyAll device first) second := by
  induction first generalizing device with
  | nil => simp [InUse]
  | cons operation first ih => simp only [List.cons_append, InUse, applyAll_cons, ih, and_assoc]

/-- A socket whose owner wants every notice, and has been told since `start` what the state of the
socket says. -/
structure Alive (start device : Device) (handle : SocketHandle) (socket : Socket) : Prop where
  get? : device.sockets.get? handle = some socket
  listeners : socket.listeners = .all
  told : ∃ log, device.told handle = start.told handle ++ log ∧
    Socket.Told socket.state (log.map Prod.fst)

/-- A socket that an operation does not free goes on along its lifecycle. -/
theorem Alive.apply {operation : SocketOperation} (h : Alive start device handle socket)
    (hlisteners : operation.setsListeners handle = false) :
    ((operation.apply device).sockets.get? handle = none ∧
        (operation.apply device).told handle = device.told handle) ∨
      ∃ later, Alive start (operation.apply device) handle later ∧
        socket.state.Precedes later.state := by
  obtain ⟨log, htold, hlog⟩ := h.told
  cases effect_apply h.get? h.listeners hlisteners with
  | freed hget hsame => exact .inl ⟨hget, hsame⟩
  | kept later hget hall hstate hsame =>
      refine .inr ⟨later, ⟨hget, hall, log, hsame.trans htold, ?_⟩, .inl hstate.symm⟩
      rw [hstate]
      exact hlog
  | moved later event notice hget hall hnext hmore =>
      refine .inr ⟨later, ⟨hget, hall, log ++ (notice.map (·, later.state)).toList, ?_, ?_⟩,
        Socket.next_precedes hnext⟩
      · rw [hmore, htold, List.append_assoc]
      · -- the entry of the log holds the notice beside the state that its owner saw
        have hfst : (notice.map (·, later.state)).toList.map Prod.fst = notice.toList := by
          cases notice <;> rfl
        rw [List.map_append, hfst]
        exact hlog.next hnext

/-- The owner of a socket in use has been told what the state says; once the slot is freed it is
told nothing more. -/
theorem Alive.applyAll (h : Alive start device handle socket)
    (hlisteners : ∀ operation ∈ operations, operation.setsListeners handle = false)
    (hused : InUse handle device operations) :
    (∃ later, Alive start (SocketOperation.applyAll device operations) handle later ∧
        socket.state.Precedes later.state) ∨
      ((SocketOperation.applyAll device operations).sockets.get? handle = none ∧
        ∃ state log,
          (SocketOperation.applyAll device operations).told handle = start.told handle ++ log ∧
            Socket.Told state (log.map Prod.fst)) := by
  induction operations generalizing device socket with
  | nil => exact .inl ⟨socket, h, .refl _⟩
  | cons operation operations ih =>
      rw [applyAll_cons]
      rcases h.apply (hlisteners operation List.mem_cons_self) with
        ⟨hfree, hsame⟩ | ⟨next, hnext, hmove⟩
      · -- the socket is gone, so this was the last operation
        cases operations with
        | nil =>
            obtain ⟨log, htold, hlog⟩ := h.told
            exact .inr ⟨hfree, socket.state, log, hsame.trans htold, hlog⟩
        | cons second rest =>
            have hstill := hused.2.1
            rw [hfree] at hstill
            cases hstill
      · have hrest := fun later hlater => hlisteners later (List.mem_cons_of_mem _ hlater)
        rcases ih hnext hrest hused.2 with ⟨later, hlater, hforward⟩ | hfreed
        · exact .inl ⟨later, hlater, hmove.trans hforward⟩
        · exact .inr hfreed

/-- The life of a socket, from its allocation to its removal. -/
structure Life (handle : SocketHandle) (start : Device) (operations : List SocketOperation) :
    Prop where
  /-- What the owner has been told is one of the logs that there can be. -/
  log : ∃ log, (SocketOperation.applyAll start operations).told handle = start.told handle ++ log ∧
    Socket.WholeLog (log.map Prod.fst)
  /-- The state only goes forward. -/
  forward : ∀ before between after socket later, operations = before ++ between ++ after →
    (SocketOperation.applyAll start before).sockets.get? handle = some socket →
    (SocketOperation.applyAll start (before ++ between)).sockets.get? handle = some later →
      socket.state.Precedes later.state
  /-- An operation tells the owner at most one thing, and the owner sees the new state. -/
  seen : ∀ before operation after, operations = before ++ operation :: after →
    ∃ entry : Option (SocketNotice × SocketState),
      (operation.apply (SocketOperation.applyAll start before)).told handle =
        (SocketOperation.applyAll start before).told handle ++ entry.toList ∧
      ∀ notice state, entry = some (notice, state) →
        ((operation.apply (SocketOperation.applyAll start before)).sockets.get? handle).map
          Socket.state = some state

theorem Alive.life (h : Alive start start handle socket)
    (hlisteners : ∀ operation ∈ operations, operation.setsListeners handle = false)
    (hused : InUse handle start operations) : Life handle start operations where
  log := by
    rcases h.applyAll hlisteners hused with ⟨later, hlater, -⟩ | ⟨-, state, log, htold, hlog⟩
    · obtain ⟨log, htold, hlog⟩ := hlater.told
      exact ⟨log, htold, hlog.wholeLog⟩
    · exact ⟨log, htold, hlog.wholeLog⟩
  forward := by
    rintro before between after socket later rfl hsocket hlater
    rw [inUse_append, inUse_append] at hused
    simp only [List.forall_mem_append] at hlisteners
    -- the life up to the first of the two moments, and from there to the second
    rcases h.applyAll hlisteners.1.1 hused.1.1 with ⟨first, hfirst, -⟩ | ⟨hfree, -⟩
    · obtain rfl : first = socket := Option.some.inj (hfirst.get?.symm.trans hsocket)
      rw [applyAll_append] at hlater
      rcases hfirst.applyAll hlisteners.1.2 hused.1.2 with ⟨second, hsecond, hmove⟩ | ⟨hfree, -⟩
      · obtain rfl : second = later := Option.some.inj (hsecond.get?.symm.trans hlater)
        exact hmove
      · rw [hfree] at hlater
        cases hlater
    · rw [hfree] at hsocket
      cases hsocket
  seen := by
    rintro before operation after rfl
    rw [inUse_append] at hused
    simp only [List.forall_mem_append, List.forall_mem_cons] at hlisteners
    rcases h.applyAll hlisteners.1 hused.1 with ⟨now, hnow, -⟩ | ⟨hfree, -⟩
    · cases effect_apply hnow.get? hnow.listeners hlisteners.2.1 with
      | freed hget hsame => exact ⟨none, hsame.trans (List.append_nil _).symm, nofun⟩
      | kept later hget hall hstate hsame =>
          exact ⟨none, hsame.trans (List.append_nil _).symm, nofun⟩
      | moved later event notice hget hall hnext hmore =>
          refine ⟨notice.map (·, later.state), hmore, fun told state hentry => ?_⟩
          obtain ⟨_, -, heq⟩ := Option.map_eq_some_iff.mp hentry
          rw [hget, Option.map_some, (Prod.mk.inj heq).2]
    · have hstill := hused.2.1
      rw [hfree] at hstill
      cases hstill

variable {contextId : Nat} {family : SocketFamily} {service : SocketService}
  {protocol : SocketProtocol}

/-- A device with one more socket, whose owner wants every notice. -/
def withSocket (device : Device) (contextId : Nat) (family : SocketFamily)
    (service : SocketService) (protocol : SocketProtocol) (handle : SocketHandle) : Device :=
  applyAll device
    [.allocate contextId family service protocol, .setListeners handle fun _ => .all]

theorem alive_withSocket
    (h : (device.sockets.allocate contextId family service protocol).2 = .ok handle) :
    ∃ socket, Alive (withSocket device contextId family service protocol handle)
      (withSocket device contextId family service protocol handle) handle socket := by
  let next := (device.sockets.allocate contextId family service protocol).1
  have hallocate : device.sockets.allocate contextId family service protocol =
      (next, .ok handle) := Prod.ext rfl h
  obtain ⟨hlt, -, hnext⟩ := SocketTable.allocate_eq_ok hallocate
  have hget : next.get? handle = some (Socket.fresh contextId family service protocol) := by
    rw [hnext]
    exact SocketTable.get?_put_self hlt
  exact ⟨_, SocketTable.get?_change_self hget, rfl, [], (List.append_nil _).symm, .created⟩

/-- From its allocation to its removal a socket goes forward only, and what its owner is told is one
of the logs of `Socket.WholeLog`, each notice with the state that the socket is in by then; and an
event that is refused, of whatever socket, changes nothing and tells nobody. -/
theorem told_lifecycle
    (hallocate : (device.sockets.allocate contextId family service protocol).2 = .ok handle)
    (hlisteners : ∀ operation ∈ operations, operation.setsListeners handle = false)
    (hused : InUse handle (withSocket device contextId family service protocol handle) operations) :
    Life handle (withSocket device contextId family service protocol handle) operations ∧
      ∀ (device : Device) (owner : SocketHandle) (event : SocketEvent) (failure : Error),
        (device.socketEvent owner event).2 = .error failure →
          (drive owner event).apply device = device := by
  obtain ⟨socket, halive⟩ := alive_withSocket hallocate
  exact ⟨halive.life hlisteners hused, fun device owner event failure hrefused =>
    Device.socketEvent_of_error hrefused⟩

/-- A socket that is opened, gets data and is closed by the modem, beside another one; one event is
refused. -/
def aLife : List SocketOperation :=
  [.drive 0 .openRequested, .allocate 2 .inet6 .datagram .udp, .drive 0 .opened,
    .setOption 0 (.sendTimeout 5), .drive 0 .dataReady, .drive 0 .openFailed, .drive 0 .dataReady,
    .failAll, .drive 0 .remoteClosed, .remove 0]

theorem told_lifecycle_aLife :
    (applyAll (withSocket (.initial {}) 1 .inet .stream .tcp 0) aLife).told 0 =
        [(.opened true, .connected), (.dataReady, .connected), (.dataReady, .connected),
          (.closed, .closed)] ∧
      Life 0 (withSocket (.initial {}) 1 .inet .stream .tcp 0) aLife :=
  ⟨by decide +kernel, (told_lifecycle rfl (by decide) (by decide +kernel)).1⟩

end SocketOperation

end ModemLink
