import ModemLink.Proofs.Engine.Errands
import ModemLink.Proofs.Engine.Runs
import ModemLink.Proofs.Engine.Sockets

/-!
# Connecting a socket

A connect has three parts.  It records the peer and moves the socket to `opening`, it sends the
command that asks for the connection, and if that fails it declares the open failed.  Only the
command waits, and meanwhile the modem may confirm or refuse the open, or the link may be lost;
each of these settles the open as well.

* A socket owes its owner the notice that its open has settled as long as it is opening
  (`Socket.unsettled`).  Whatever is reported, what is owed goes down by what is told
  (`Device.Reported.balance`).
* `Bg96.connect_settles`: a connect that fails leaves nothing owed, and so nothing half open.
-/

namespace ModemLink

/-! ## What the owner is told -/

/-- The notice says that an open has settled. -/
def SocketNotice.settles : SocketNotice → Bool
  | opened _ => true
  | dataReady | closed => false

/-- How often a log says that an open has settled. -/
def settlements (log : List (SocketNotice × SocketState)) : Nat :=
  log.countP fun entry => entry.1.settles

@[simp] theorem settlements_append (log more : List (SocketNotice × SocketState)) :
    settlements (log ++ more) = settlements log + settlements more := List.countP_append

namespace Socket

variable {socket : Socket} {event : SocketEvent} {state : SocketState}
  {notice : Option SocketNotice}

/-- How often the owner of a socket is still to be told that the open has settled. -/
def unsettled (socket : Socket) : Nat :=
  if socket.state = .opening ∧ socket.listeners.opened = true then 1 else 0

theorem unsettled_le_one (socket : Socket) : socket.unsettled ≤ 1 := by
  unfold unsettled
  split <;> omega

theorem unsettled_of_ne (h : socket.state ≠ .opening) : socket.unsettled = 0 :=
  if_neg fun hopening => h hopening.1

/-- A report settles the open of a socket that is opening if it moves the socket, and it starts no
open. -/
theorem next_report (hreport : event.isReport = true)
    (hnext : next socket.state event = .ok (state, notice)) :
    state ≠ .opening ∧ notice.any SocketNotice.settles = decide (socket.state = .opening) := by
  generalize socket.state = earlier at *
  cases event with
  | openRequested | closeRequested => cases hreport
  | opened | openFailed | dataReady | closed | remoteClosed | linkFailed =>
      cases earlier <;> cases hnext <;> exact ⟨nofun, rfl⟩

/-- An owner that wants to know is told that the open has settled. -/
theorem settlements_filter (socket : Socket) (notice : Option SocketNotice) (state : SocketState) :
    settlements ((notice.filter socket.listeners.wants).map (·, state)).toList =
      if notice.any SocketNotice.settles = true ∧ socket.listeners.opened = true then 1 else 0 := by
  have hopened (connected : Bool) :
      socket.listeners.wants (.opened connected) = socket.listeners.opened := rfl
  cases notice with
  | none => rfl
  | some notice =>
      rw [Option.filter_some, Option.any_some]
      cases notice with
      | opened connected =>
          rw [hopened]
          cases socket.listeners.opened <;> rfl
      | dataReady | closed => split <;> rfl

/-- What is told is no longer owed. -/
theorem settlements_next (hreport : event.isReport = true)
    (hnext : next socket.state event = .ok (state, notice)) :
    settlements ((notice.filter socket.listeners.wants).map (·, state)).toList +
        ({ socket with state := state } : Socket).unsettled = socket.unsettled := by
  -- the socket is no longer opening, so nothing is owed now, and it was told exactly if it was
  obtain ⟨hne, hsettles⟩ := next_report hreport hnext
  have hnone : ({ socket with state := state } : Socket).unsettled = 0 := unsettled_of_ne hne
  rw [hnone, Nat.add_zero, settlements_filter, hsettles, unsettled]
  simp only [decide_eq_true_eq]

theorem next_openRequested (h : socket.state = .created) :
    next socket.state .openRequested = .ok (.opening, none) := by
  rw [h]
  rfl

/-- Once the open is declared failed, it has settled. -/
theorem next_openFailed (h : socket.state = .opening) :
    next socket.state .openFailed = .ok (.openFailed, some (.opened false)) := by
  rw [h]
  rfl

end Socket

namespace Device

variable {device before after : Device} {handle : SocketHandle} {socket : Socket}

/-- Of a socket only the state has changed, and its owner has been told as often that the open
settled as that is no longer owed. -/
def Balances (handle : SocketHandle) (socket : Socket) (before after : Device) : Prop :=
  ∃ later log, after.sockets.get? handle = some later ∧
    later = { socket with state := later.state } ∧ after.told handle = before.told handle ++ log ∧
      settlements log + later.unsettled = socket.unsettled

theorem balances_refl (h : device.sockets.get? handle = some socket) :
    Balances handle socket device device :=
  ⟨socket, [], h, rfl, (List.append_nil _).symm, Nat.zero_add _⟩

theorem Balances.socketEvent (h : Balances handle socket before after) {event : SocketEvent}
    (hreport : event.isReport = true) :
    Balances handle socket before (after.socketEvent handle event).1 := by
  obtain ⟨later, log, hlater, hkept, htold, hbalance⟩ := h
  rcases socketEvent_cases after handle event with
    ⟨failure, heq⟩ | ⟨moving, state, notice, hmoving, hnext⟩
  · rw [heq]
    exact ⟨later, log, hlater, hkept, htold, hbalance⟩
  · -- one more report: the log grows by what `settlements_next` takes off the debt
    obtain rfl : later = moving := Option.some.inj (hlater.symm.trans hmoving)
    have hstep := Socket.settlements_next hreport hnext
    have hmore := told_socketEvent_of_ok hlater hnext
    generalize ((notice.filter later.listeners.wants).map (·, state)).toList = more at hstep hmore
    refine ⟨{ later with state := state }, log ++ more, get?_socketEvent_of_ok hlater hnext, ?_, ?_,
      ?_⟩
    · rw [hkept]
    · rw [hmore, htold, List.append_assoc]
    · rw [settlements_append]
      omega

theorem Balances.socketEvents (h : Balances handle socket before after)
    {events : List SocketEvent} (hreports : ∀ event ∈ events, event.isReport = true) :
    Balances handle socket before (after.socketEvents handle events) := by
  induction events generalizing after with
  | nil => exact h
  | cons event events ih =>
      have hfirst := h.socketEvent (hreports event List.mem_cons_self)
      exact ih hfirst fun later hlater => hreports later (List.mem_cons_of_mem _ hlater)

/-- Whatever is reported, what is owed goes down by what is told. -/
theorem Reported.balances (h : Reported handle before after)
    (hsocket : before.sockets.get? handle = some socket) :
    Balances handle socket before after := by
  obtain ⟨events, hreports, hsame⟩ := h
  obtain ⟨later, log, hlater, hkept, htold, hbalance⟩ :=
    (balances_refl hsocket).socketEvents hreports
  exact ⟨later, log, hsame.slot.trans hlater, hkept, hsame.told.trans htold, hbalance⟩

/-- A socket is not opening once its open was declared failed. -/
theorem state_openFailed (h : (device.socketEvent handle .openFailed).1.sockets.get? handle =
    some socket) : socket.state ≠ .opening := by
  intro hopening
  rcases socketEvent_cases device handle .openFailed with
    ⟨failure, heq⟩ | ⟨moving, state, notice, hmoving, hnext⟩
  · -- a refused event changes nothing, but an opening socket does not refuse this one
    rw [heq] at h
    have hagain := socketEvent_of_ok h (Socket.next_openFailed hopening)
    rw [heq] at hagain
    cases congrArg Prod.snd hagain
  · rw [get?_socketEvent_of_ok hmoving hnext] at h
    obtain rfl := Option.some.inj h
    exact (Socket.next_report rfl hnext).1 hopening

end Device

namespace Bg96

open Caller Device

variable {profile : Profile} {handle : SocketHandle} {remote : Endpoint}
  {engine during later : Engine}
  {socket : Socket} {result : Except Error Unit}

/-! ## The parts of a connect -/

/-- The command that asks for the connection. -/
def openRequest (profile : Profile) (handle : SocketHandle) (socket : Socket) (remote : Endpoint) :
    Caller Unit :=
  (plain (openCommand handle socket remote)).sendPlain profile

theorem openRequest_eq (profile : Profile) (handle : SocketHandle) (socket : Socket)
    (remote : Endpoint) :
    openRequest profile handle socket remote =
      (plain (openCommand handle socket remote)).run profile profile.config.commandTimeout .none
        fun _ => .ok () := rfl

/-- What is left to do once the command has ended. -/
def finishOpen (handle : SocketHandle) : Except Error Unit → Caller Unit
  | .ok () => return
  | .error failure => do
      let _ ← (Caller.device fun device => device.socketEvent handle .openFailed).attempt
      throw failure

/-- The device with the peer of a socket recorded. -/
def withRemote (handle : SocketHandle) (remote : Endpoint) (device : Device) : Device :=
  { device with sockets := (device.sockets.setRemote handle remote).1 }

/-- The engine once the open was requested. -/
def opening (handle : SocketHandle) (remote : Endpoint) (engine : Engine) : Engine :=
  { engine with
    device := ((withRemote handle remote engine.device).socketEvent handle .openRequested).1 }

/-- The device once the command has ended.  If it failed, so does the open. -/
def settleOpen (handle : SocketHandle) (device : Device) : Except Error Unit → Device
  | .ok () => device
  | .error _ => (device.socketEvent handle .openFailed).1

theorem get?_withRemote (h : engine.device.sockets.get? handle = some socket) :
    (withRemote handle remote engine.device).sockets.get? handle =
      some { socket with remote := some remote } :=
  SocketTable.get?_change_self h

theorem get?_opening (h : engine.device.sockets.get? handle = some socket)
    (hcreated : socket.state = .created) :
    (opening handle remote engine).device.sockets.get? handle =
      some { socket with remote := some remote, state := .opening } :=
  get?_socketEvent_of_ok (get?_withRemote h) (Socket.next_openRequested hcreated)

theorem told_opening (h : engine.device.sockets.get? handle = some socket)
    (hcreated : socket.state = .created) :
    (opening handle remote engine).device.told handle = engine.device.told handle :=
  (told_socketEvent_of_ok (get?_withRemote h) (Socket.next_openRequested hcreated)).trans
    (List.append_nil _)

theorem advance_connect_of_none (h : engine.device.sockets.get? handle = none) :
    (connect profile handle remote).run.advance engine =
      (engine, .done (.error .invalidHandle)) := by
  have hinfo : engine.device.sockets.info handle = .error .invalidHandle := by
    rw [SocketTable.info, SocketTable.ask, h]
  unfold connect
  rw [advance_bind_of_error (advance_ask hinfo)]

theorem advance_connect_of_ne (h : engine.device.sockets.get? handle = some socket)
    (hstate : socket.state ≠ .created) :
    (connect profile handle remote).run.advance engine = (engine, .done (.error .notAllowed)) := by
  unfold connect
  rw [advance_bind_of_ok (advance_ask (SocketTable.info_of_get? h)), if_pos hstate]
  rfl

/-- Up to its command, a connect does not wait. -/
theorem advance_connect (h : engine.device.sockets.get? handle = some socket)
    (hcreated : socket.state = .created) :
    (connect profile handle remote).run.advance engine =
      ((openRequest profile handle socket remote).run.bind fun result =>
        (finishOpen handle result).run).advance (opening handle remote engine) := by
  -- a socket that was never opened takes the peer and then the request to open
  have hremote : (engine.device.sockets.setRemote handle remote).2 = .ok () := by
    rw [SocketTable.setRemote, SocketTable.change, h]
  have hevent : ((withRemote handle remote engine.device).socketEvent handle .openRequested).2 =
      .ok () := by
    rw [socketEvent_of_ok (get?_withRemote h) (Socket.next_openRequested hcreated)]
  have hopening : (Caller.device fun device => device.socketEvent handle .openRequested).run.advance
      { engine with device := withRemote handle remote engine.device } =
        (opening handle remote engine, .done (.ok ())) := advance_device hevent
  unfold connect
  rw [advance_bind_of_ok (advance_ask (SocketTable.info_of_get? h)),
    if_neg (not_not_intro hcreated), advance_bind_of_ok (advance_sockets hremote)]
  refine (advance_bind_of_ok hopening).trans ?_
  rw [run_attempt_bind]
  rfl

/-- After its command it does not wait either. -/
theorem advance_finishOpen (engine : Engine) (result : Except Error Unit) :
    (finishOpen handle result).run.advance engine =
      ({ engine with device := settleOpen handle engine.device result }, .done result) := by
  cases result with
  | ok value => rfl
  | error failure => rfl

/-- A connect of a socket that was never opened runs its command, and then settles. -/
theorem runs_connect_iff {between : Engine → Engine → Prop}
    (h : engine.device.sockets.get? handle = some socket) (hcreated : socket.state = .created) :
    Call.Runs between engine (connect profile handle remote).run later result ↔
      ∃ during, Call.Runs between (opening handle remote engine)
          (openRequest profile handle socket remote).run during result ∧
        later = { during with device := settleOpen handle during.device result } := by
  let settle (engine : Engine) (result : Except Error Unit) :=
    ({ engine with device := settleOpen handle engine.device result }, result)
  rw [Call.Runs.advance_iff (advance_connect h hcreated),
    Call.Runs.bind_iff settle advance_finishOpen]
  constructor
  · rintro ⟨during, result, hrequest, heq⟩
    cases heq
    exact ⟨during, hrequest, rfl⟩
  · rintro ⟨during, hrequest, rfl⟩
    exact ⟨during, result, hrequest, rfl⟩

/-! ## The whole of it -/

/-- What a connect has come to when it ends, for a socket that was never opened. -/
structure Connected (profile : Profile) (handle : SocketHandle) (remote : Endpoint)
    (socket : Socket) (engine later : Engine) (result : Except Error Unit) : Prop where
  /-- Once the open was requested, the command is sent, and its result is the result.  After it,
  only a failure changes something. -/
  requested : ∃ during,
    Call.Runs (Engine.Meanwhile profile handle) (opening handle remote engine)
        (openRequest profile handle socket remote).run during result ∧
      later = { during with device := settleOpen handle during.device result }
  /-- By then the peer is recorded and the socket is opening. -/
  begun : (opening handle remote engine).device.sockets.get? handle =
    some { socket with remote := some remote, state := .opening }
  /-- Since then the socket has followed reports. -/
  reported : Reported handle (opening handle remote engine).device later.device
  /-- The owner was told once at most that the open has settled.  If the connect failed, the open
  has settled, and an owner that wants to know was told so. -/
  settled : ∃ last log, later.device.sockets.get? handle = some last ∧
    last = { socket with remote := some remote, state := last.state } ∧
    later.device.told handle = engine.device.told handle ++ log ∧ settlements log ≤ 1 ∧
    ∀ failure, result = .error failure →
      last.state ≠ .opening ∧ (socket.listeners.opened = true → settlements log = 1)

theorem connected_of_runs (htable : AllReport profile.table)
    (h : engine.device.sockets.get? handle = some socket) (hcreated : socket.state = .created)
    (hrun : Call.Runs (Engine.Meanwhile profile handle) engine (connect profile handle remote).run
      later result) :
    Connected profile handle remote socket engine later result := by
  obtain ⟨during, hrequest, hsettle⟩ := (runs_connect_iff h hcreated).mp hrun
  have hguarded : (openRequest profile handle socket remote).Guarded (Reported handle) := by
    rw [openRequest_eq]
    exact Request.run_guarded .refl _ _ _ _
  have hduring : Reported handle (opening handle remote engine).device during.device :=
    hrequest.device .refl .trans
      (Engine.follows_meanwhile follows_reported (htable handle)) hguarded
  -- a failure adds one report of its own, so the whole connect is reports after the request
  have hreported : Reported handle (opening handle remote engine).device later.device := by
    rw [hsettle]
    cases result with
    | ok value => exact hduring
    | error failure => exact hduring.trans (.event during.device rfl)
  have hbegun : (opening handle remote engine).device.sockets.get? handle =
      some { socket with remote := some remote, state := .opening } := get?_opening h hcreated
  -- from here on, counting: what was owed when the open was requested is one at most, and what is
  -- left and what was told make it up
  obtain ⟨last, log, hlast, hkept, htold, hbalance⟩ := hreported.balances hbegun
  refine ⟨⟨during, hrequest, hsettle⟩, hbegun, hreported, last, log, hlast, hkept, ?_, ?_, ?_⟩
  · rw [htold, told_opening h hcreated]
  · have hone := Socket.unsettled_le_one { socket with remote := some remote, state := .opening }
    omega
  · rintro failure rfl
    have hstate : last.state ≠ .opening := by
      rw [hsettle] at hlast
      exact state_openFailed hlast
    refine ⟨hstate, fun hlistens => ?_⟩
    -- a listening owner was owed one notice, and a socket that is not opening owes none
    have howed : Socket.unsettled { socket with remote := some remote, state := .opening } = 1 :=
      if_pos ⟨rfl, hlistens⟩
    have hnone := Socket.unsettled_of_ne hstate
    omega

/-- A connect of a socket that is not in use, or that was opened before, is refused at once and
changes nothing.  Any other connect that fails, in whatever way and whatever happens meanwhile,
leaves the socket settled and its owner told once, and one that succeeds leaves the socket to the
reports of the modem.  It ends when its command ends, and it can end if it finds the lock free. -/
theorem connect_settles (htable : AllReport profile.table) (handle : SocketHandle)
    (remote : Endpoint) (engine : Engine) :
    (engine.device.sockets.get? handle = none →
      (connect profile handle remote).run.advance engine =
        (engine, .done (.error .invalidHandle))) ∧
    ∀ socket, engine.device.sockets.get? handle = some socket →
      (socket.state ≠ .created →
        (connect profile handle remote).run.advance engine =
          (engine, .done (.error .notAllowed))) ∧
      (socket.state = .created →
        (∀ later result, Call.Runs (Engine.Meanwhile profile handle) engine
            (connect profile handle remote).run later result →
              Connected profile handle remote socket engine later result) ∧
        (∀ during result, Call.Runs (Engine.Meanwhile profile handle) (opening handle remote engine)
            (openRequest profile handle socket remote).run during result →
          ∃ later, Call.Runs (Engine.Meanwhile profile handle) engine
            (connect profile handle remote).run later result) ∧
        (engine.locked = false → ∃ later result, Call.Runs (Engine.Meanwhile profile handle) engine
          (connect profile handle remote).run later result)) := by
  refine ⟨advance_connect_of_none, fun socket h => ⟨advance_connect_of_ne h, fun hcreated => ?_⟩⟩
  -- after its command a connect does not wait
  have hends : ∀ during result, Call.Runs (Engine.Meanwhile profile handle)
      (opening handle remote engine) (openRequest profile handle socket remote).run during result →
        ∃ later, Call.Runs (Engine.Meanwhile profile handle) engine
          (connect profile handle remote).run later result :=
    fun during result hrequest => ⟨_, (runs_connect_iff h hcreated).mpr ⟨during, hrequest, rfl⟩⟩
  refine ⟨fun later result => connected_of_runs htable h hcreated, hends, fun hfree => ?_⟩
  have hopening : (opening handle remote engine).locked = false := hfree
  obtain ⟨during, result, hrequest⟩ : ∃ during result,
      Call.Runs (Engine.Meanwhile profile handle) (opening handle remote engine)
        (openRequest profile handle socket remote).run during result := by
    rw [openRequest_eq]
    exact Job.exists_run (fun _ => .refl) hopening (.run _ _ .none fun _ => .ok ())
  obtain ⟨later, hrun⟩ := hends during result hrequest
  exact ⟨later, result, hrun⟩

/-- A socket that was never opened, on an open link, whose owner wants every notice. -/
def newSocket : Socket := { Socket.fresh 1 .inet .stream .tcp with listeners := .all }

def newEngine : Engine :=
  { Engine.initial {} with
    link := .opened
    device := { Device.initial {} with sockets := SocketTable.initial.put 0 newSocket } }

def newRemote : Endpoint := { address := .v4 10 0 0 1, port := 80 }

/-- The modem refuses the open, and never answers the command. -/
theorem connect_settles_refused :
    let profile : Profile := { config := {}, table := tokenTable }
    AllReport profile.table ∧ newEngine.device.sockets.get? 0 = some newSocket ∧
      ∃ later, Call.Runs (Engine.Meanwhile profile 0) newEngine (connect profile 0 newRemote).run
          later (.error .timeout) ∧
        ∃ last log, later.device.sockets.get? 0 = some last ∧ last.state ≠ .opening ∧
          later.device.told 0 = log ∧ settlements log = 1 := by
  intro profile
  have hsocket : newEngine.device.sockets.get? 0 = some newSocket := rfl
  have hcommand : openCommand 0 newSocket newRemote =
      "AT+QIOPEN=1,0,\"TCP\",\"10.0.0.1\",80,0,0".toList := rfl
  -- the refusal arrives while the command waits, which then runs out of time
  have hrequest : ∃ during, Call.Runs (Engine.Meanwhile profile 0) (opening 0 newRemote newEngine)
      (openRequest profile 0 newSocket newRemote).run during (.error .timeout) := by
    rw [openRequest_eq, hcommand]
    exact ⟨_, Request.runs_expired (fun _ => .refl) rfl rfl rfl rfl
      (.single (.received _ .empty (Text.toBytes "+QIOPEN: 0,566\r\n")))⟩
  obtain ⟨during, hduring⟩ := hrequest
  obtain ⟨-, hsettles⟩ := @connect_settles profile allReport 0 newRemote newEngine
  obtain ⟨hconnects, hends, -⟩ := (hsettles newSocket hsocket).2 rfl
  obtain ⟨later, hlater⟩ := hends during _ hduring
  obtain ⟨last, log, hlast, -, htold, -, hfailed⟩ := (hconnects later _ hlater).settled
  obtain ⟨hstate, hone⟩ := hfailed .timeout rfl
  exact ⟨allReport, hsocket, later, hlater, last, log, hlast, hstate, htold, hone rfl⟩

end Bg96

end ModemLink
