import ModemLink.Bg96.Commands
import ModemLink.Proofs.Engine.Course
import ModemLink.Proofs.Pdn.Reports

/-!
# What callers do after the link was lost

An `Errand` is a call that works on contexts or sockets, or any other call that is subdued: whatever
it does, it brings nothing to life on a device that is down.  This is so of most errands once they
have waited for the first time.  An activation and a query for the contexts are different: they
settle the device once their command has succeeded (`Errand.settle?`), and that may be after the link
was lost.

* `Errand.discipline`: what is known of the call of an errand between its turns (`Errand.Fits`), and
  that it keeps to the lock discipline.
* `Errand.subdued_settle` and `Errand.active_settle`: an errand that settles a device which is down
  brings a context to life if, and only if, the response makes it do so (`Errand.Revives`).
-/

namespace ModemLink

open Device (Subdued)

/-! ## What callers do -/

/-- A call of which only what it does matters, and not what it ends with. -/
def Caller.ignored {α : Type} (caller : Caller α) : Call Unit := caller.run.bind fun _ => .done ()

/-- The device after the contexts in a response were brought in line. -/
def Query.adoptResponse (response : Response) (device : Device) : Device :=
  match readContexts response with
  | .ok reports => { device with pdn := device.pdn.adopt reports }
  | .error _ => device

/-- What a caller does. -/
inductive Errand where
  | activate (id : Nat)
  | deactivate (id : Nat)
  /-- Ask which contexts are active. -/
  | contexts
  /-- Ask for the address of a context. -/
  | address (id : Nat)
  | connect (handle : SocketHandle) (remote : Endpoint)
  | closeSocket (handle : SocketHandle)
  /-- Any other call that takes the lock for its commands and is subdued. -/
  | other (call : Call Unit) (h : call.Guarded Subdued false false)

namespace Errand

variable {profile : Profile}

def program (profile : Profile) : Errand → Call Unit
  | activate id => (Bg96.activate profile id).ignored
  | deactivate id => (Bg96.deactivate profile id).ignored
  | contexts => (Query.contexts profile).ignored
  | address id => (Query.address profile id).ignored
  | connect handle remote => (Bg96.connect profile handle remote).ignored
  | closeSocket handle => (Bg96.closeSocket profile handle).ignored
  | other call _ => call

/-- What an errand makes of the device once its command has succeeded, if that is not subdued. -/
def settle? : Errand → Option (Response → Device → Device)
  | activate id => some fun _ device => (device.contextActivated id none).1
  | contexts => some Query.adoptResponse
  | _ => none

/-- The response makes an errand bring a context to life.  Of several reports about a context the last
one counts, since nobody else comes to see the device in between. -/
def Revives (response : Response) : Errand → Prop
  | activate id => Pdn.ValidId id
  | contexts => ∃ reports id, Query.readContexts response = .ok reports ∧
      Pdn.Table.lastReport reports id = some true
  | _ => False

/-- What is known of the call of an errand between its turns. -/
def Fits (errand : Errand) (call : Call Unit) : Prop :=
  match errand.settle? with
  | some settle => call.Course settle
  | none => call.Guarded Subdued false call.holdsLock

end Errand

namespace Caller

variable {α β : Type} {engine : Engine} {result : Except Error α}

/-! What operations come to. -/

theorem advance_device {f : Device → Device × Except Error α} (h : (f engine.device).2 = result) :
    (Caller.device f).run.advance engine =
      ({ engine with device := (f engine.device).1 }, .done result) := by
  rw [← h]
  rfl

theorem advance_report {f : Device → Device × Except TextError α} {value : α}
    (h : (f engine.device).2 = .ok value) :
    (Caller.report f).run.advance engine =
      ({ engine with device := (f engine.device).1 }, .done (.ok value)) :=
  advance_device (congrArg (Except.mapError Error.ofText) h)

theorem advance_pdn {f : Pdn.Table → Pdn.Table × Except Error α}
    (h : (f engine.device.pdn).2 = result) :
    (Caller.pdn f).run.advance engine =
      ({ engine with device := { engine.device with pdn := (f engine.device.pdn).1 } },
        .done result) := by
  rw [← h]
  rfl

theorem advance_sockets {f : SocketTable → SocketTable × Except Error α}
    (h : (f engine.device.sockets).2 = result) :
    (Caller.sockets f).run.advance engine =
      ({ engine with device := { engine.device with sockets := (f engine.device.sockets).1 } },
        .done result) := by
  rw [← h]
  rfl

/-! What operations do. -/

theorem Guarded.ignored {R : Device → Device → Prop} {caller : Caller α} (h : caller.Guarded R) :
    caller.ignored.Guarded R false false :=
  Call.Guarded.bind h fun _ => rfl

theorem guarded_pdn {f : Pdn.Table → Pdn.Table × Except Error α}
    (h : ∀ table : Pdn.Table, table.Idle → (f table).1.Idle) : (Caller.pdn f).Guarded Subdued :=
  guarded_device fun device => Device.subdued_pdn (h device.pdn)

theorem guarded_socketEvent (handle : SocketHandle) (event : SocketEvent)
    (h : event ≠ .openRequested) :
    (Caller.device fun device => device.socketEvent handle event).Guarded Subdued :=
  guarded_device fun device => Device.subdued_socketEvent device handle h

theorem Guarded.ite {R : Device → Device → Prop} {c : Prop} [Decidable c] {yes no : Caller α}
    (hyes : yes.Guarded R) (hno : no.Guarded R) : (if c then yes else no).Guarded R := by
  split
  · exact hyes
  · exact hno

theorem guarded_throw {R : Device → Device → Prop} (failure : Error) :
    (throw failure : Caller α).Guarded R := rfl

end Caller

open Caller

namespace Bg96

variable {profile : Profile}

theorem sendSlow_guarded {R : Device → Device → Prop} (hrefl : ∀ device, R device device)
    (command : Text) (timeout : Nat) : (sendSlow profile command timeout).Guarded R :=
  Request.run_guarded hrefl (plain command) timeout .none fun _ => .ok ()

/-- A change of a context is settled by the outcome of its command. -/
theorem changeContext_guarded {R : Device → Device → Prop} (hrefl : ∀ device, R device device)
    {id : Nat} {settle : Device → Device × Except TextError Unit}
    (hsettle : ∀ device, R device (settle device).1)
    (habort : ∀ device, R device { device with pdn := (device.pdn.abort id).1 })
    (command : Text) (timeout : Nat) :
    (changeContext profile command timeout id settle).Guarded R := by
  refine (sendSlow_guarded hrefl command timeout).attempt.bind fun result => ?_
  cases result with
  | ok value => exact guarded_device hsettle
  | error failure => exact Guarded.bind (guarded_device habort) fun _ => guarded_throw failure

theorem deactivate_guarded (id : Nat) : (deactivate profile id).Guarded Subdued := by
  refine (guarded_pdn fun table h => h.beginDeactivate id).bind fun _ => ?_
  exact changeContext_guarded .refl (fun device => Device.subdued_contextDeactivated device id)
    (fun device => Device.subdued_pdn fun h => h.abort id) _ _

/-- A close drives its socket by events and removes it, and does nothing else to the device. -/
theorem closeSocket_guarded {R : Device → Device → Prop} (hrefl : ∀ device, R device device)
    {handle : SocketHandle}
    (hdrive : ∀ device event, event ≠ .openRequested → R device (device.socketEvent handle event).1)
    (hremove : ∀ device : Device, R device { device with
      sockets := (device.sockets.remove handle).1 }) :
    (closeSocket profile handle).Guarded R := by
  -- from the last operation to the first, since each is followed by all that come after it
  have hfree (result : Except Error Unit) : (do
      Caller.sockets fun sockets => sockets.remove handle
      Caller.ofExcept result : Caller Unit).Guarded R :=
    Guarded.bind (guarded_device hremove) fun _ => guarded_ofExcept result
  have hfinish (result : Except Error Unit) : (do
      if (← ask fun device => device.sockets.state handle) = .closing then
        Caller.device fun device => device.socketEvent handle .closed
      Caller.sockets fun sockets => sockets.remove handle
      Caller.ofExcept result : Caller Unit).Guarded R :=
    (guarded_ask hrefl _).bind fun state =>
      .ite ((guarded_device fun device => hdrive device .closed nofun).bind fun _ => hfree result)
        (hfree result)
  have hcommand (state : SocketState) : (do
      let result ←
        if state ≠ .created then
          (sendSlow profile ("AT+QICLOSE=".toList ++ Text.ofNat handle) closeTimeout).attempt
        else
          pure (.ok ())
      if (← ask fun device => device.sockets.state handle) = .closing then
        Caller.device fun device => device.socketEvent handle .closed
      Caller.sockets fun sockets => sockets.remove handle
      Caller.ofExcept result : Caller Unit).Guarded R :=
    .ite ((sendSlow_guarded hrefl _ _).attempt.bind hfinish) (hfinish (.ok ()))
  exact (guarded_ask hrefl _).bind fun state =>
    .ite ((guarded_device fun device => hdrive device .closeRequested nofun).bind fun _ =>
        hcommand state)
      (hcommand state)

/-- What a connection request brings to life, it brings to life before it waits. -/
theorem connect_starts (handle : SocketHandle) (remote : Endpoint) :
    (connect profile handle remote).ignored.Starts
      fun call => call.Guarded Subdued false call.holdsLock := by
  have hdone : (Call.done ()).Starts fun call => call.Guarded Subdued false call.holdsLock :=
    Call.starts_of_ends Call.ends_done rfl
  unfold connect
  refine starts_ask (fun socket => ?_) fun _ => hdone
  by_cases hstate : socket.state ≠ .created
  · simp only [if_pos hstate]
    exact hdone
  · simp only [if_neg hstate]
    have hsend : ((plain (openCommand handle socket remote)).sendPlain profile).Guarded Subdued :=
      Request.run_guarded .refl _ profile.config.commandTimeout .none fun _ => .ok ()
    refine starts_device (fun _ => starts_device (fun _ => ?_) fun _ => hdone) fun _ => hdone
    -- from the command on, only the declaration that the open failed changes the device
    refine Call.Guarded.starts .refl .trans (Guarded.ignored ?_)
    refine hsend.attempt.bind fun result => ?_
    cases result with
    | ok value => exact rfl
    | error failure =>
        exact (guarded_socketEvent handle .openFailed nofun).attempt.bind fun _ =>
          guarded_throw failure

/-- An activation makes the context active only after the success of its command. -/
theorem activate_starts (id : Nat) :
    (activate profile id).ignored.Starts
      (Call.Course fun _ device => (device.contextActivated id none).1) := by
  refine starts_device (fun _ => ?_) fun _ => Call.starts_of_ends Call.ends_done .ended
  unfold changeContext
  rw [attempt_bind]
  refine Request.run_starts _ _ (fun response engine => rfl) fun failure => ?_
  exact ends_device (fun device => Device.subdued_pdn fun h => h.abort id)
    (fun _ => Call.ends_done) fun _ => Call.ends_done

end Bg96

namespace Query

theorem address_guarded (profile : Profile) (id : Nat) :
    (Query.address profile id).Guarded Subdued := by
  refine (guarded_ofExcept _).bind fun _ => ?_
  refine (Request.run_guarded .refl _ _ _ _).bind fun address => ?_
  cases address with
  | none => exact rfl
  | some address => exact (guarded_pdn fun table h => h.setAddress id address).bind fun _ => rfl

theorem advance_adoptContext (engine : Engine) {id : Nat} (active : Bool) (h : Pdn.ValidId id) :
    ∃ status, (adoptContext id active).run.advance engine =
      ({ engine with device :=
          { engine.device with pdn := engine.device.pdn.report (id, active) } },
        .done (.ok status)) ∧ status.shown = (id, active) := by
  obtain ⟨context, hcontext⟩ := engine.device.pdn.exists_get? h
  obtain ⟨later, hlater⟩ := (engine.device.pdn.report (id, active)).exists_get? h
  have hactivation := Pdn.Table.activation_report_self hlater
  -- the status that is asked for afterwards shows what was reported
  obtain ⟨status, hstatus, hshown⟩ : ∃ status,
      (engine.device.pdn.report (id, active)).status id = .ok status ∧
        status.shown = (id, active) := by
    refine ⟨_, by rw [Pdn.Table.status, Pdn.Table.ask, hlater], ?_⟩
    rw [Pdn.Status.shown, hactivation]
    cases active <;> rfl
  refine ⟨status, ?_, hshown⟩
  unfold adoptContext
  cases active with
  | true =>
      obtain ⟨changed, hset⟩ : ∃ changed, (engine.device.pdn.setActive id none).2 = .ok changed :=
        ⟨_, by rw [Pdn.Table.setActive, Pdn.Table.change, hcontext]⟩
      simp only [if_true]
      exact (advance_bind_of_ok (advance_pdn hset)).trans (advance_ask hstatus)
  | false =>
      obtain ⟨changed, hset⟩ : ∃ changed, (engine.device.pdn.setInactive id).2 = .ok changed :=
        ⟨_, by rw [Pdn.Table.setInactive, Pdn.Table.change, hcontext]⟩
      simp only [if_false, Bool.false_eq_true]
      exact (advance_bind_of_ok (advance_pdn hset)).trans (advance_ask hstatus)

/-- The reports are applied without a pause, and each status shows what its report says. -/
theorem advance_adoptContexts {reports : List (Nat × Bool)}
    (h : ∀ report ∈ reports, Pdn.ValidId report.1) (engine : Engine) :
    ∃ statuses, (adoptContexts reports).run.advance engine =
      ({ engine with device :=
          { engine.device with pdn := engine.device.pdn.adopt reports } }, .done (.ok statuses)) ∧
      statuses.map Pdn.Status.shown = reports := by
  induction reports generalizing engine with
  | nil => exact ⟨[], rfl, rfl⟩
  | cons report reports ih =>
      obtain ⟨id, active⟩ := report
      let next : Engine :=
        { engine with device := { engine.device with pdn := engine.device.pdn.report (id, active) } }
      have hvalid : ∀ report ∈ reports, Pdn.ValidId report.1 :=
        fun report hmem => h report (List.mem_cons_of_mem _ hmem)
      obtain ⟨status, hfirst, hshown⟩ := advance_adoptContext engine active (h _ List.mem_cons_self)
      obtain ⟨statuses, hrest, hlater⟩ := ih hvalid next
      refine ⟨status :: statuses, ?_, by rw [List.map_cons, hshown, hlater]⟩
      unfold adoptContexts
      rw [advance_bind_of_ok hfirst, advance_bind_of_ok hrest]
      rfl

theorem contexts_starts (profile : Profile) :
    (contexts profile).ignored.Starts (Call.Course adoptResponse) := by
  unfold Caller.ignored contexts Request.send
  show ((Call.bind _ (ExceptT.bindCont adoptContexts)).bind _).Starts _
  rw [Call.bind_assoc]
  refine Request.run_starts _ _ (fun response engine => ?_) fun failure => Call.ends_done
  unfold adoptResponse
  cases hreports : readContexts response with
  | error failure => rfl
  | ok reports =>
      -- reports that can be read are about contexts that exist, so adopting them does not fail
      obtain ⟨statuses, hadvance, -⟩ :=
        advance_adoptContexts (valid_of_readContexts hreports) engine
      show Call.advance engine ((adoptContexts reports).run.bind _) = _
      rw [Call.advance_bind, hadvance]
      rfl

end Query

namespace Errand

variable {errand : Errand} {settle : Response → Device → Device} {response : Response}
  {device : Device}

theorem program_starts (profile : Profile) (errand : Errand) :
    (errand.program profile).Starts errand.Fits := by
  have hguarded {call : Call Unit} (h : call.Guarded Subdued false false) :
      call.Starts fun later => later.Guarded Subdued false later.holdsLock :=
    h.starts .refl .trans
  cases errand with
  | activate id => exact Bg96.activate_starts id
  | deactivate id => exact hguarded (Bg96.deactivate_guarded id).ignored
  | contexts => exact Query.contexts_starts profile
  | address id => exact hguarded (Query.address_guarded profile id).ignored
  | connect handle remote => exact Bg96.connect_starts handle remote
  | closeSocket handle =>
      refine hguarded (Guarded.ignored (Bg96.closeSocket_guarded .refl ?_ ?_))
      · exact fun device _ hevent => Device.subdued_socketEvent device handle hevent
      · exact fun device => Device.subdued_sockets fun h => h.remove handle
  | other call h => exact hguarded h

theorem discipline (profile : Profile) : Station.Discipline (program profile) Fits where
  called := program_starts profile
  woken {errand} {call} {next} {engine} {start} {wake} hfits hheld hwoken := by
    unfold Fits at hfits ⊢
    split at hfits
    next settle hsettle =>
      have hstep := hfits.woken hwoken
      exact ⟨hstep.course, hstep.turned hheld⟩
    next hsettle => exact (hfits.woken .refl .trans hheld hwoken).2

theorem not_revives (h : errand.settle? = none) : ¬ errand.Revives response := by
  cases errand with
  | activate | contexts => cases h
  | deactivate | address | connect | closeSocket | other => exact id

/-- What an errand makes of the device is subdued unless the response says otherwise. -/
theorem subdued_settle (h : errand.settle? = some settle) (hrevives : ¬ errand.Revives response)
    (device : Device) : Subdued device (settle response device) := by
  cases errand with
  | activate id =>
      -- an activation that does not revive is one of a context that does not exist
      cases h
      show Subdued device (device.contextActivated id none).1
      rw [Device.contextActivated_of_not_valid device hrevives]
      exact .refl device
  | contexts =>
      cases h
      show Subdued device (Query.adoptResponse response device)
      unfold Query.adoptResponse
      cases hreports : Query.readContexts response with
      | error failure => exact .refl device
      | ok reports =>
          -- no context has an active report as its last one
          refine Device.subdued_pdn fun hidle => hidle.adopt fun id hlast => ?_
          exact hrevives ⟨reports, id, hreports, hlast⟩
  | deactivate | address | connect | closeSocket | other => cases h

theorem active_settle (h : errand.settle? = some settle) (hrevives : errand.Revives response)
    (hdown : device.Down) : ∃ id context,
      (settle response device).pdn.get? id = some context ∧ context.activation = .active := by
  cases errand with
  | activate id =>
      cases h
      exact ⟨id, Device.active_contextActivated device hrevives⟩
  | contexts =>
      cases h
      obtain ⟨reports, id, hreports, hlast⟩ := hrevives
      have hvalid : Pdn.ValidId id :=
        Query.valid_of_readContexts hreports (id, true) (Pdn.Table.mem_of_lastReport hlast)
      -- the last report about the context counts, and it says that the context is active
      obtain ⟨context, hcontext⟩ := (device.pdn.adopt reports).exists_get? hvalid
      refine ⟨id, context, ?_, ?_⟩
      · simp only [Query.adoptResponse, hreports]
        exact hcontext
      · rw [Pdn.Table.activation_adopt hdown.contexts hcontext, if_pos hlast]
  | deactivate | address | connect | closeSocket | other => cases h

end Errand

end ModemLink
