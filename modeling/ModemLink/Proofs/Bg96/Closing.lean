import ModemLink.Proofs.Engine.Errands
import ModemLink.Proofs.Engine.Runs
import ModemLink.Proofs.Engine.Sockets

/-!
# Closing a socket

A close has three parts.  It moves the socket on, it sends the command that releases the connection
unless none was ever requested, and it frees the slot.  Only the command waits, and meanwhile the
modem or a lost link may come first and close the socket.

* `Socket.farewell` is what the owner is told when its socket is closed.  After the first part,
  what it has been told and what it is still to be told are the same whatever happens
  (`Device.WindsUp`).
* `Bg96.closeSocket_frees`: however the command ends, the slot is free, the owner has been told
  once, and the result is that of the command.
-/

namespace ModemLink

/-! ## What the owner is told -/

namespace SocketState

/-- A close was requested of a socket in this state. -/
def shut : SocketState → SocketState
  | opening | connected | closing => closing
  | created | openFailed | closed => closed

theorem shut_cases (state : SocketState) : state.shut = closing ∨ state.shut = closed := by
  cases state <;> first | exact .inl rfl | exact .inr rfl

end SocketState

namespace Socket

variable {socket : Socket}

/-- What the owner of a socket is told, with the state that it sees, when the socket is closed. -/
def farewell (socket : Socket) : List (SocketNotice × SocketState) :=
  match socket.state with
  | .opening | .connected | .closing =>
      if socket.listeners.closed then [(.closed, .closed)] else []
  | .created | .openFailed | .closed => []

theorem next_closeRequested {state : SocketState} (h : state ≠ .closed) :
    next state .closeRequested = .ok (state.shut, none) := by
  cases state <;> first | rfl | exact absurd rfl h

/-- Requesting the close does not count as one. -/
theorem farewell_shut (socket : Socket) :
    ({ socket with state := socket.state.shut } : Socket).farewell = socket.farewell := by
  unfold farewell
  cases socket.state <;> rfl

/-- Once a close was requested, an event tells the owner what it is to be told, or leaves that for
later. -/
theorem farewell_next {state : SocketState} {event : SocketEvent} {notice : Option SocketNotice}
    (hshut : socket.state = .closing ∨ socket.state = .closed)
    (hnext : next socket.state event = .ok (state, notice)) :
    (state = .closing ∨ state = .closed) ∧
      ((notice.filter socket.listeners.wants).map (·, state)).toList ++
        ({ socket with state := state } : Socket).farewell = socket.farewell := by
  have hwants : socket.listeners.wants .closed = socket.listeners.closed := rfl
  rcases hshut with hclosing | hclosed
  · rw [hclosing] at hnext
    cases event <;> cases hnext
    · -- closing again tells nothing yet, everything else closes the socket and tells the owner
      exact ⟨.inl rfl, by simp [farewell, hclosing]⟩
    all_goals
      refine ⟨.inr rfl, ?_⟩
      cases hlistens : socket.listeners.closed <;>
        simp [farewell, hclosing, hwants, hlistens, Option.filter]
  · rw [hclosed] at hnext
    cases event <;> cases hnext <;> exact ⟨.inr rfl, by simp [farewell, hclosed]⟩

end Socket

namespace Device

variable {device before after : Device} {handle : SocketHandle} {socket : Socket}
  {log : List (SocketNotice × SocketState)}

/-- The socket is closed or about to be, and `log` is what its owner has been told by the time that
it is closed. -/
def WindsUp (handle : SocketHandle) (log : List (SocketNotice × SocketState)) (device : Device) :
    Prop :=
  ∃ socket, device.sockets.get? handle = some socket ∧
    (socket.state = .closing ∨ socket.state = .closed) ∧
      device.told handle ++ socket.farewell = log

theorem socketEvent_of_closed (h : device.sockets.get? handle = some socket)
    (hclosed : socket.state = .closed) :
    (device.socketEvent handle .closeRequested).1 = device := by
  rcases socketEvent_cases device handle .closeRequested with
    ⟨failure, heq⟩ | ⟨moving, _, _, hmoving, hnext⟩
  · rw [heq]
  · obtain rfl : socket = moving := Option.some.inj (h.symm.trans hmoving)
    rw [hclosed] at hnext
    cases hnext

theorem windsUp_closeRequested (h : device.sockets.get? handle = some socket) :
    WindsUp handle (device.told handle ++ socket.farewell)
      (device.socketEvent handle .closeRequested).1 := by
  by_cases hclosed : socket.state = .closed
  · rw [socketEvent_of_closed h hclosed]
    exact ⟨socket, h, .inr hclosed, rfl⟩
  · have hnext := Socket.next_closeRequested hclosed
    refine ⟨{ socket with state := socket.state.shut }, get?_socketEvent_of_ok h hnext,
      socket.state.shut_cases, ?_⟩
    rw [told_socketEvent_of_ok h hnext, Socket.farewell_shut]
    simp

theorem WindsUp.socketEvent (h : WindsUp handle log device) (event : SocketEvent) :
    WindsUp handle log (device.socketEvent handle event).1 := by
  obtain ⟨socket, hsocket, hshut, hlog⟩ := h
  rcases socketEvent_cases device handle event with
    ⟨failure, heq⟩ | ⟨moving, state, notice, hmoving, hnext⟩
  · rw [heq]
    exact ⟨socket, hsocket, hshut, hlog⟩
  · obtain rfl : socket = moving := Option.some.inj (hsocket.symm.trans hmoving)
    obtain ⟨hlater, hsame⟩ := Socket.farewell_next hshut hnext
    refine ⟨{ socket with state := state }, get?_socketEvent_of_ok hsocket hnext, hlater, ?_⟩
    rw [told_socketEvent_of_ok hsocket hnext, List.append_assoc, hsame, hlog]

/-- Nothing that may happen meanwhile keeps the socket from being closed, or tells the owner
twice. -/
theorem Driven.windsUp (hdriven : Driven handle before after) (h : WindsUp handle log before) :
    WindsUp handle log after := by
  induction hdriven with
  | event device event => exact h.socketEvent event
  | aside hslot htold =>
      obtain ⟨socket, hsocket, hshut, hlog⟩ := h
      exact ⟨socket, hslot.trans hsocket, hshut, htold ▸ hlog⟩
  | trans _ _ hfirst hsecond => exact hsecond (hfirst h)

/-- Other sockets are left alone, and so are the logs of their owners. -/
def OnlySocket (handle : SocketHandle) (before after : Device) : Prop :=
  ∀ other ≠ handle, after.sockets.get? other = before.sockets.get? other ∧
    after.told other = before.told other

theorem OnlySocket.refl (device : Device) : OnlySocket handle device device :=
  fun _ _ => ⟨rfl, rfl⟩

theorem onlySocket_socketEvent (device : Device) (event : SocketEvent) :
    OnlySocket handle device (device.socketEvent handle event).1 :=
  fun _ hne => ⟨get?_socketEvent_of_ne hne, told_socketEvent_of_ne hne⟩

theorem onlySocket_remove (device : Device) :
    OnlySocket handle device { device with sockets := (device.sockets.remove handle).1 } :=
  fun _ hne => ⟨SocketTable.get?_remove_of_ne hne, rfl⟩

end Device

/-! ## The parts of a close -/

namespace Bg96

open Caller Device

variable {profile : Profile} {handle : SocketHandle} {engine : Engine} {socket : Socket}
  {log : List (SocketNotice × SocketState)}

/-- The command that releases the connection. -/
def closeRequest (profile : Profile) (handle : SocketHandle) : Caller Unit :=
  sendSlow profile ("AT+QICLOSE=".toList ++ Text.ofNat handle) closeTimeout

/-- What is left to do once the command has ended, if there was one. -/
def freeSocket (handle : SocketHandle) (result : Except Error Unit) : Caller Unit := do
  if (← Caller.ask fun device => device.sockets.state handle) = .closing then
    Caller.device fun device => device.socketEvent handle .closed
  Caller.sockets fun sockets => sockets.remove handle
  Caller.ofExcept result

/-- The engine once the close was requested.  For a closed socket that changes nothing. -/
def closing (handle : SocketHandle) (engine : Engine) : Engine :=
  { engine with device := (engine.device.socketEvent handle .closeRequested).1 }

/-- The first part of a close does not wait. -/
theorem advance_closeSocket (h : engine.device.sockets.get? handle = some socket) :
    (closeSocket profile handle).run.advance engine =
      (if socket.state = .created then freeSocket handle (.ok ())
        else (closeRequest profile handle).attempt >>= freeSocket handle).run.advance
          (closing handle engine) := by
  unfold closeSocket
  rw [advance_bind_of_ok (advance_ask (SocketTable.state_of_get? h))]
  -- the command goes out unless no open was requested, whether or not the event below happens
  have hrest : (do
      let result ←
        if socket.state ≠ .created then
          (sendSlow profile ("AT+QICLOSE=".toList ++ Text.ofNat handle) closeTimeout).attempt
        else
          pure (.ok ())
      freeSocket handle result : Caller Unit).run.advance (closing handle engine) =
      (if socket.state = .created then freeSocket handle (.ok ())
        else (closeRequest profile handle).attempt >>= freeSocket handle).run.advance
          (closing handle engine) := by
    by_cases hcreated : socket.state = .created
    · rw [if_neg (not_not_intro hcreated), if_pos hcreated]
      rfl
    · rw [if_pos hcreated, if_neg hcreated]
      rfl
  by_cases hclosed : socket.state = .closed
  · -- a closed socket is not asked to close again
    have hsame : closing handle engine = engine := by
      rw [closing, socketEvent_of_closed h hclosed]
    rw [hsame] at hrest ⊢
    rw [if_neg (not_not_intro hclosed)]
    exact hrest
  · have hevent : (engine.device.socketEvent handle .closeRequested).2 = .ok () := by
      rw [socketEvent_of_ok h (Socket.next_closeRequested hclosed)]
    rw [if_pos hclosed, advance_bind_of_ok (advance_device hevent)]
    exact hrest

theorem advance_remove (h : engine.device.sockets.get? handle = some socket)
    (hremovable : Socket.isRemovable socket.state = true) :
    (Caller.sockets fun sockets => sockets.remove handle).run.advance engine =
      ({ engine with device := { engine.device with
          sockets := engine.device.sockets.put handle none } }, .done (.ok ())) := by
  have hremove : engine.device.sockets.remove handle =
      (engine.device.sockets.put handle none, .ok ()) := by
    simp only [SocketTable.remove, h, hremovable, if_true]
  rw [advance_sockets (congrArg Prod.snd hremove), hremove]

/-- The last part of a close does not wait either.  It frees the slot, and tells the owner what is
still to be told. -/
theorem advance_freeSocket (h : WindsUp handle log engine.device) (result : Except Error Unit) :
    ∃ device, (freeSocket handle result).run.advance engine =
        ({ engine with device := device }, .done result) ∧
      device.sockets.get? handle = none ∧ device.told handle = log := by
  -- once the socket is closed, all that is left is to remove it
  have hremoved : ∀ {engine : Engine} {socket : Socket},
      engine.device.sockets.get? handle = some socket → socket.state = .closed →
      engine.device.told handle ++ socket.farewell = log →
      ∃ device, (do
          Caller.sockets fun sockets => sockets.remove handle
          Caller.ofExcept result : Caller Unit).run.advance engine =
            ({ engine with device := device }, .done result) ∧
        device.sockets.get? handle = none ∧ device.told handle = log := by
    intro engine socket hsocket hclosed hlog
    have hremovable : Socket.isRemovable socket.state = true := by
      rw [hclosed]
      rfl
    refine ⟨{ engine.device with sockets := engine.device.sockets.put handle none }, ?_, ?_, ?_⟩
    · rw [advance_bind_of_ok (advance_remove hsocket hremovable), advance_ofExcept]
    · exact SocketTable.get?_put_self (SocketTable.lt_of_get? hsocket)
    · rw [← hlog, Socket.farewell, hclosed, List.append_nil]
      rfl
  obtain ⟨socket, hsocket, hshut, hlog⟩ := h
  unfold freeSocket
  rw [advance_bind_of_ok (advance_ask (SocketTable.state_of_get? hsocket))]
  rcases hshut with hclosing | hclosed
  · -- nobody has closed the socket meanwhile, so this call does, and the owner is told now
    have hnext : Socket.next socket.state .closed = .ok (.closed, some .closed) := by
      rw [hclosing]
      rfl
    have hevent : (engine.device.socketEvent handle .closed).2 = .ok () := by
      rw [socketEvent_of_ok hsocket hnext]
    rw [if_pos hclosing, advance_bind_of_ok (advance_device hevent)]
    refine hremoved (get?_socketEvent_of_ok hsocket hnext) rfl ?_
    rw [told_socketEvent_of_ok hsocket hnext, List.append_assoc,
      (Socket.farewell_next (.inl hclosing) hnext).2, hlog]
  · -- the socket was closed meanwhile, and the owner was told then
    have hne : socket.state ≠ .closing := by
      rw [hclosed]
      nofun
    rw [if_neg hne]
    exact hremoved hsocket hclosed hlog

/-! ## The whole of it -/

/-- What a close has come to when it ends, for a socket as it was when the close began. -/
structure Closed (profile : Profile) (handle : SocketHandle) (socket : Socket)
    (engine later : Engine) (result : Except Error Unit) : Prop where
  freed : later.device.sockets.get? handle = none
  told : later.device.told handle = engine.device.told handle ++ socket.farewell
  /-- Where no open was ever requested, the close does not wait, and does nothing but free the
  slot. -/
  created : socket.state = .created → result = .ok () ∧
    (closeSocket profile handle).run.advance engine = (later, .done (.ok ())) ∧
      later = { engine with device := later.device }
  /-- Otherwise the command is sent once the close was requested, and its result is the result.
  After it only the device is changed. -/
  requested : socket.state ≠ .created → ∃ during,
    Call.Runs (Engine.Meanwhile profile handle) (closing handle engine)
        (closeRequest profile handle).run during result ∧
      later = { during with device := later.device }

variable {during later : Engine} {result : Except Error Unit}

theorem windsUp_closing (h : engine.device.sockets.get? handle = some socket) :
    WindsUp handle (engine.device.told handle ++ socket.farewell) (closing handle engine).device :=
  windsUp_closeRequested h

/-- While the command is sent and answered, the socket is on its way to be closed. -/
theorem windsUp_closeRequest (htable : AllDrive profile.table)
    (hrun : Call.Runs (Engine.Meanwhile profile handle) engine (closeRequest profile handle).run
      during result)
    (h : WindsUp handle log engine.device) : WindsUp handle log during.device := by
  have hguarded : (closeRequest profile handle).Guarded (Driven handle) :=
    sendSlow_guarded .refl _ _
  have hduring : Driven handle engine.device during.device :=
    hrun.device .refl .trans (Engine.follows_meanwhile follows_driven (htable handle)) hguarded
  exact hduring.windsUp h

/-- A close of a socket that may be connected sends its command and frees the slot. -/
theorem advance_closeSocket_of_ne (h : engine.device.sockets.get? handle = some socket)
    (hne : socket.state ≠ .created) :
    (closeSocket profile handle).run.advance engine =
      ((closeRequest profile handle).run.bind fun result =>
        (freeSocket handle result).run).advance (closing handle engine) := by
  rw [advance_closeSocket h, if_neg hne, run_attempt_bind]

theorem exists_run_closeRequest (hfree : engine.locked = false) :
    ∃ during result, Call.Runs (Engine.Meanwhile profile handle) engine
      (closeRequest profile handle).run during result :=
  Job.exists_run (fun _ => .refl) hfree
    (.run (plain ("AT+QICLOSE=".toList ++ Text.ofNat handle)) closeTimeout .none fun _ => .ok ())

/-- When the command ends, so does the close. -/
theorem exists_run_closeSocket (htable : AllDrive profile.table)
    (h : engine.device.sockets.get? handle = some socket) (hne : socket.state ≠ .created)
    (hrun : Call.Runs (Engine.Meanwhile profile handle) (closing handle engine)
      (closeRequest profile handle).run during result) :
    ∃ later, Call.Runs (Engine.Meanwhile profile handle) engine (closeSocket profile handle).run
      later result := by
  -- whatever happened before the command ended, the socket can be freed then
  obtain ⟨device, hfree, -⟩ :=
    advance_freeSocket (windsUp_closeRequest htable hrun (windsUp_closing h)) result
  exact ⟨_, .of_advance (advance_closeSocket_of_ne h hne) (hrun.bind (.ended hfree))⟩

/-- Without a command to send, the close is over at once. -/
theorem advance_closeSocket_of_created (h : engine.device.sockets.get? handle = some socket)
    (hcreated : socket.state = .created) :
    ∃ device, (closeSocket profile handle).run.advance engine =
        ({ engine with device := device }, .done (.ok ())) ∧
      device.sockets.get? handle = none ∧
        device.told handle = engine.device.told handle ++ socket.farewell := by
  obtain ⟨device, hfree, hgone, htold⟩ := advance_freeSocket (windsUp_closing h) (.ok ())
  refine ⟨device, ?_, hgone, htold⟩
  rw [advance_closeSocket h, if_pos hcreated, hfree]
  rfl

theorem closed_of_created (h : engine.device.sockets.get? handle = some socket)
    (hcreated : socket.state = .created)
    (hrun : Call.Runs (Engine.Meanwhile profile handle) engine (closeSocket profile handle).run
      later result) :
    Closed profile handle socket engine later result := by
  obtain ⟨device, hadvance, hgone, htold⟩ := advance_closeSocket_of_created h hcreated
  obtain ⟨rfl, rfl⟩ := hrun.eq_of_advance hadvance
  exact ⟨hgone, htold, fun _ => ⟨rfl, hadvance, rfl⟩, fun hne => absurd hcreated hne⟩

theorem closed_of_ne_created (htable : AllDrive profile.table)
    (h : engine.device.sockets.get? handle = some socket) (hne : socket.state ≠ .created)
    (hrun : Call.Runs (Engine.Meanwhile profile handle) engine (closeSocket profile handle).run
      later result) :
    Closed profile handle socket engine later result := by
  -- the run splits where the command ends: what is left does not wait
  obtain ⟨during, answer, hrequest, hrest⟩ :=
    Call.Runs.of_bind (hrun.of_advance (advance_closeSocket_of_ne h hne).symm)
  obtain ⟨device, hfree, hgone, htold⟩ :=
    advance_freeSocket (windsUp_closeRequest htable hrequest (windsUp_closing h)) answer
  obtain ⟨rfl, rfl⟩ := hrest.eq_of_advance hfree
  exact ⟨hgone, htold, fun hcreated => absurd hcreated hne, fun _ => ⟨during, hrequest, rfl⟩⟩

/-- Closing a socket in use frees its slot, in whatever state the socket is and whatever happens
meanwhile; its owner is told once that a socket that was opening, connected or closing is closed;
the result is that of the command, which is sent unless no open was ever requested; and the close
itself does nothing to other sockets.  It ends however the command ends, and it can end if it finds
the lock free or has nothing to send. -/
theorem closeSocket_frees (htable : AllDrive profile.table)
    (h : engine.device.sockets.get? handle = some socket) :
    (∀ later result, Call.Runs (Engine.Meanwhile profile handle) engine
        (closeSocket profile handle).run later result →
          Closed profile handle socket engine later result) ∧
      (socket.state ≠ .created → ∀ during result,
        Call.Runs (Engine.Meanwhile profile handle) (closing handle engine)
            (closeRequest profile handle).run during result →
          ∃ later, Call.Runs (Engine.Meanwhile profile handle) engine
            (closeSocket profile handle).run later result) ∧
      (socket.state = .created ∨ engine.locked = false →
        ∃ later result, Call.Runs (Engine.Meanwhile profile handle) engine
          (closeSocket profile handle).run later result) ∧
      (closeSocket profile handle).Guarded (OnlySocket handle) := by
  refine ⟨fun later result hrun => ?_, fun hne during result hrun => ?_, fun hcan => ?_, ?_⟩
  · by_cases hcreated : socket.state = .created
    · exact closed_of_created h hcreated hrun
    · exact closed_of_ne_created htable h hcreated hrun
  · exact exists_run_closeSocket htable h hne hrun
  · by_cases hcreated : socket.state = .created
    · -- nothing is sent, so no lock is needed
      obtain ⟨device, hadvance, -⟩ := advance_closeSocket_of_created h hcreated
      exact ⟨_, _, .ended hadvance⟩
    · have hfree : (closing handle engine).locked = false := hcan.resolve_left hcreated
      obtain ⟨during, result, hrequest⟩ := exists_run_closeRequest hfree
      obtain ⟨later, hrun⟩ := exists_run_closeSocket htable h hcreated hrequest
      exact ⟨later, result, hrun⟩
  · exact closeSocket_guarded .refl (fun device event _ => onlySocket_socketEvent device event)
      onlySocket_remove

/-- A connected socket, on an open link, whose owner wants every notice. -/
def attendedSocket : Socket :=
  { Socket.fresh 1 .inet .stream .tcp with state := .connected, listeners := .all }

def attendedEngine : Engine :=
  { Engine.initial {} with
    link := .opened
    device := { Device.initial {} with sockets := SocketTable.initial.put 0 attendedSocket } }

/-- The peer closes the connection while the command is on its way, and the modem never answers. -/
theorem closeSocket_frees_closedByPeer :
    let profile : Profile := { config := {}, table := tokenTable }
    AllDrive profile.table ∧ attendedEngine.device.sockets.get? 0 = some attendedSocket ∧
      ∃ later, Call.Runs (Engine.Meanwhile profile 0) attendedEngine (closeSocket profile 0).run
          later (.error .timeout) ∧
        later.device.sockets.get? 0 = none ∧ later.device.told 0 = [(.closed, .closed)] := by
  intro profile
  have hsocket : attendedEngine.device.sockets.get? 0 = some attendedSocket := rfl
  have hrequest : ∃ during, Call.Runs (Engine.Meanwhile profile 0) (closing 0 attendedEngine)
      (closeRequest profile 0).run during (.error .timeout) := by
    apply Exists.intro
    apply Call.Runs.acquires rfl .refl rfl
    apply Call.Runs.answered (.ok 13) rfl .refl
    apply Call.Runs.expired rfl
      (.single (.received _ .empty (Text.toBytes "+QIURC: \"closed\",0\r\n")))
    exact .ended rfl
  obtain ⟨during, hduring⟩ := hrequest
  obtain ⟨hcloses, hends, -, -⟩ :=
    @closeSocket_frees profile 0 attendedEngine attendedSocket allDrive hsocket
  obtain ⟨later, hlater⟩ := hends nofun during _ hduring
  have hclosed := hcloses later _ hlater
  exact ⟨allDrive, hsocket, later, hlater, hclosed.freed, hclosed.told⟩

end Bg96

end ModemLink
