import ModemLink.Proofs.Engine.Errands
import ModemLink.Proofs.Pdn.Addresses
import ModemLink.Proofs.Urc.Effects

/-!
# Contexts in the course of time

The contexts of an engine are changed by the receive loop, which loses them, and by callers that
activate and deactivate them, list them, or ask for their addresses.  All of them keep the contexts
tidy but the last (`ContextCall.Does`): an address is recorded when the caller that asked for it goes
on, and by then its context may have come down.

`Station.forgetful_contexts` says that nothing is left of the addresses of a context as long as this
does not happen, and `Station.lateAddress_is_left` shows what is left when it does.
-/

namespace ModemLink

open Pdn (Context Table)

/-! ## What handlers do to the contexts -/

namespace Device

/-- A device whose contexts are tidy has tidy contexts afterwards. -/
def KeepsTidy (before after : Device) : Prop := before.pdn.Tidy → after.pdn.Tidy

theorem KeepsTidy.refl (device : Device) : KeepsTidy device device := id

theorem KeepsTidy.trans {first second third : Device} (h : KeepsTidy first second)
    (hnext : KeepsTidy second third) : KeepsTidy first third := fun htidy => hnext (h htidy)

theorem keepsTidy_of_eq {before after : Device} (h : after.pdn = before.pdn) :
    KeepsTidy before after := fun htidy => h ▸ htidy

/-- What is done to the contexts is an operation that comes in time. -/
theorem keepsTidy_of_perform {before after : Device} (operation : Pdn.Operation)
    (htimely : before.pdn.Timely operation) (h : after.pdn = before.pdn.perform operation) :
    KeepsTidy before after := fun htidy => h ▸ htidy.perform htimely

theorem keepsTidy_contextActivated (device : Device) (id : Nat) (address : Option Address) :
    KeepsTidy device (device.contextActivated id address).1 :=
  keepsTidy_of_perform (.setActive id address) trivial (pdn_contextActivated device id address)

theorem keepsTidy_contextDeactivated (device : Device) (id : Nat) :
    KeepsTidy device (device.contextDeactivated id).1 :=
  keepsTidy_of_perform (.setInactive id) trivial (pdn_contextDeactivated device id)

theorem pdn_socketEvent (device : Device) (handle : SocketHandle) (event : SocketEvent) :
    (device.socketEvent handle event).1.pdn = device.pdn := by
  rcases socketEvent_cases device handle event with ⟨failure, heq⟩ | ⟨_, _, _, hsocket, hnext⟩
  · rw [heq]
  · rw [socketEvent_of_ok hsocket hnext]

/-- But for the end of a context, handlers leave the contexts alone. -/
theorem permits_pdn : Permits fun before after => after.pdn = before.pdn := by
  have hallows : Allows fun before after => after.pdn = before.pdn :=
    { trans := fun h hnext => hnext.trans h
      registration := fun _ _ => rfl
      signal := fun _ _ => rfl
      notify := fun device notice _ => pdn_notify device notice }
  exact hallows.permits fun device handle event _ => pdn_socketEvent device handle event

theorem keepsTidy_lost (device : Device) : KeepsTidy device device.loseSockets.loseContexts := by
  refine keepsTidy_of_perform .deactivateAll trivial ?_
  rw [loseContexts_loseSockets]
  rfl

/-- All handlers of a table keep the contexts tidy. -/
def AllKeepTidy (table : TokenTable UrcHandler) : Prop :=
  ∀ entry ∈ table.urcs, ∀ handler, entry.handler = some handler →
    ∀ device payload, KeepsTidy device (handler device payload).1

theorem keepsTidy_dispatch {table : TokenTable UrcHandler} (h : AllKeepTidy table)
    (device : Device) (line : Text) : KeepsTidy device (device.dispatch table line) :=
  dispatch_does .trans (fun _ => keepsTidy_of_eq (pdn_notify _ _)) h device

end Device

/-- Handlers keep the contexts tidy. -/
theorem Bg96.allKeepTidy : Device.AllKeepTidy Bg96.tokenTable :=
  Bg96.allDo (Device.permits_pdn.mono Device.keepsTidy_of_eq) Device.keepsTidy_contextDeactivated

/-! ## The receive loop -/

namespace Engine

theorem tidy_receive {profile : Profile} {engine : Engine}
    (htable : Device.AllKeepTidy profile.table) (h : engine.device.pdn.Tidy)
    (buffer : ReadBuffer) (chunk : Bytes) :
    (engine.receive profile buffer chunk).1.device.pdn.Tidy :=
  device_receive .refl .trans (Device.keepsTidy_dispatch htable) engine buffer chunk h

end Engine

/-! ## Callers -/

/-- What a caller does that has to do with contexts. -/
inductive ContextCall where
  | activate (id : Nat)
  | deactivate (id : Nat)
  /-- Ask which contexts are active. -/
  | contexts
  /-- Ask for the address of a context. -/
  | address (id : Nat)
  /-- Any other call that takes the lock for its commands.  It leaves the contexts alone. -/
  | other (call : Call Unit)
      (h : call.Guarded (fun before after => after.pdn = before.pdn) false false)

namespace ContextCall

def program (profile : Profile) : ContextCall → Call Unit
  | activate id => (Bg96.activate profile id).ignored
  | deactivate id => (Bg96.deactivate profile id).ignored
  | contexts => (Query.contexts profile).ignored
  | address id => (Query.address profile id).ignored
  | other call _ => call

/-- What a caller may do to the device. -/
def Does : ContextCall → Device → Device → Prop
  | address id, before, after => Table.OnlyAddress id before.pdn after.pdn
  | other .., before, after => after.pdn = before.pdn
  | _, before, after => before.KeepsTidy after

theorem Does.refl (job : ContextCall) (device : Device) : job.Does device device := by
  cases job with
  | address id => exact Table.OnlyAddress.refl id device.pdn
  | other call h => rfl
  | activate | deactivate | contexts => exact Device.KeepsTidy.refl device

theorem Does.trans {job : ContextCall} {first second third : Device} (h : job.Does first second)
    (hnext : job.Does second third) : job.Does first third := by
  cases job with
  | address id => exact Table.OnlyAddress.trans h hnext
  | other call _ => exact Eq.trans hnext h
  | activate | deactivate | contexts => exact Device.KeepsTidy.trans h hnext

end ContextCall

open Caller Device

theorem Caller.guarded_perform {α : Type} {f : Table → Table × Except Error α}
    (operation : Pdn.Operation) (htimely : ∀ table : Table, table.Timely operation)
    (h : ∀ table, (f table).1 = table.perform operation) : (Caller.pdn f).Guarded KeepsTidy :=
  guarded_device fun device => keepsTidy_of_perform operation (htimely device.pdn) (h device.pdn)

namespace Bg96

variable {profile : Profile}

theorem changeContext_keepsTidy (id : Nat) {settle : Device → Device × Except TextError Unit}
    (h : ∀ device, KeepsTidy device (settle device).1) (command : Text) (timeout : Nat) :
    (changeContext profile command timeout id settle).Guarded KeepsTidy :=
  changeContext_guarded .refl h (fun _ => keepsTidy_of_perform (.abort id) trivial rfl)
    command timeout

theorem activate_keepsTidy (id : Nat) : (activate profile id).Guarded KeepsTidy :=
  (guarded_perform (.beginActivate id .ipv4) (fun _ => trivial) fun _ => rfl).bind fun _ =>
    changeContext_keepsTidy id (fun device => keepsTidy_contextActivated device id none) _ _

theorem deactivate_keepsTidy (id : Nat) : (deactivate profile id).Guarded KeepsTidy :=
  (guarded_perform (.beginDeactivate id) (fun _ => trivial) fun _ => rfl).bind fun _ =>
    changeContext_keepsTidy id (fun device => keepsTidy_contextDeactivated device id) _ _

end Bg96

namespace Query

theorem adoptContexts_keepsTidy (reports : List (Nat × Bool)) :
    (adoptContexts reports).Guarded KeepsTidy := by
  induction reports with
  | nil => exact rfl
  | cons report reports ih =>
      obtain ⟨id, active⟩ := report
      have hask : (Caller.ask fun device => device.pdn.status id).Guarded KeepsTidy :=
        guarded_ask .refl _
      -- each report sets one context, and asking for its status afterwards changes nothing
      have hadopt : (adoptContext id active).Guarded KeepsTidy := by
        cases active with
        | true =>
            exact (guarded_perform (.setActive id none) (fun _ => trivial) fun _ => rfl).bind
              fun _ => hask
        | false =>
            exact (guarded_perform (.setInactive id) (fun _ => trivial) fun _ => rfl).bind
              fun _ => hask
      exact hadopt.bind fun status => ih.bind fun statuses => rfl

theorem contexts_keepsTidy (profile : Profile) : (contexts profile).Guarded KeepsTidy :=
  (Request.run_guarded .refl _ _ _ _).bind adoptContexts_keepsTidy

/-- A query for an address does nothing to the contexts but record it. -/
theorem address_does (profile : Profile) (id : Nat) :
    (Query.address profile id).Guarded (ContextCall.Does (.address id)) := by
  refine (guarded_ofExcept _).bind fun _ => ?_
  refine (Request.run_guarded (ContextCall.Does.refl _) _ _ _ _).bind fun address => ?_
  cases address with
  | none => exact rfl
  | some address =>
      refine Guarded.bind (guarded_device fun device => ?_) fun _ => rfl
      exact Table.onlyAddress_setAddress device.pdn id address

end Query

namespace ContextCall

theorem program_guarded (profile : Profile) (job : ContextCall) :
    (job.program profile).Guarded job.Does false false := by
  cases job with
  | activate id => exact (Bg96.activate_keepsTidy id).ignored
  | deactivate id => exact (Bg96.deactivate_keepsTidy id).ignored
  | contexts => exact (Query.contexts_keepsTidy profile).ignored
  | address id => exact (Query.address_does profile id).ignored
  | other call h => exact h

/-- What is known of a call between its turns. -/
def Fits (job : ContextCall) (call : Call Unit) : Prop :=
  call.Guarded job.Does false call.holdsLock

theorem discipline (profile : Profile) : Station.Discipline (program profile) Fits :=
  Station.discipline_of_guarded Does.refl Does.trans (program_guarded profile)

end ContextCall

/-! ## The system -/

namespace Station

variable {profile : Profile} {station : Station ContextCall Unit} {event : Event ContextCall}

/-- The contexts as the engine knows them. -/
def pdn (station : Station ContextCall Unit) : Table := station.engine.device.pdn

/-- The context whose address the caller asks for that does something. -/
def asked? (station : Station ContextCall Unit) : Event ContextCall → Option Nat
  | .called _ (.address id) => some id
  | .woken caller _ =>
      match station.callers caller with
      | some (.address id, _) => some id
      | _ => none
  | _ => none

/-- The device that a call leaves behind that never waits. -/
def changed? : Event ContextCall → Option Device
  | .changed device _ => some device
  | _ => none

/-- An address that a caller has asked for is recorded while its context is up.  Calls that never wait
leave the contexts alone. -/
def Orderly (profile : Profile) (station : Station ContextCall Unit)
    (event : Event ContextCall) : Prop :=
  let later := station.play profile (ContextCall.program profile) event
  (∀ id ∈ station.asked? event, later.pdn.get? id ≠ station.pdn.get? id →
    ∀ context ∈ station.pdn.get? id, context.activation.isUp = true) ∧
  ∀ device ∈ changed? event, device.pdn = station.pdn

instance (profile : Profile) (station : Station ContextCall Unit) (event : Event ContextCall) :
    Decidable (station.Orderly profile event) := inferInstanceAs (Decidable (_ ∧ _))

/-- A caller does its turn. -/
theorem tidy_turn {caller : Nat} {job : ContextCall} {after : Engine × Call Unit}
    (h : station.pdn.Tidy) (hdoes : job.Does station.engine.device after.1.device)
    (htimely : ∀ id, job = .address id → after.1.device.pdn.get? id ≠ station.pdn.get? id →
      ∀ context ∈ station.pdn.get? id, context.activation.isUp = true) :
    (station.turn caller job after).pdn.Tidy := by
  cases job with
  -- only an address that is recorded has to come in time
  | address id => exact Table.OnlyAddress.tidy hdoes h (htimely id rfl)
  | other call _ => exact Device.keepsTidy_of_eq hdoes h
  | activate | deactivate | contexts => exact hdoes h

theorem tidy_called {caller : Nat} {job : ContextCall} (h : station.pdn.Tidy)
    (hfree : station.isFree caller = true)
    (horderly : station.Orderly profile (.called caller job)) :
    (station.play profile (ContextCall.program profile) (.called caller job)).pdn.Tidy := by
  have htimely := horderly.1
  have hdoes := ((ContextCall.program_guarded profile job).advance (ContextCall.Does.refl job)
    ContextCall.Does.trans station.engine nofun).1
  rw [play_called profile _ hfree] at htimely ⊢
  exact tidy_turn h hdoes fun id hjob => htimely id (hjob ▸ rfl)

theorem tidy_woken {caller : Nat} {wake : Call.Wake} {job : ContextCall} {call next : Call Unit}
    {start : Engine} (hkept : Kept ContextCall.Fits station) (h : station.pdn.Tidy)
    (hcall : station.callers caller = some (job, call))
    (hwoken : call.woken station.engine wake = some (start, next))
    (horderly : station.Orderly profile (.woken caller wake)) :
    (station.play profile (ContextCall.program profile) (.woken caller wake)).pdn.Tidy := by
  have htimely := horderly.1
  -- between its turns a call is known to do only what its kind may do
  have hdoes := ((hkept.fits caller job call hcall).woken (ContextCall.Does.refl job)
    ContextCall.Does.trans (hkept.owned.locked_of_callers hcall) hwoken).1
  rw [play_woken profile _ hcall hwoken] at htimely ⊢
  refine tidy_turn h hdoes fun id hjob => htimely id ?_
  rw [asked?, hcall, hjob]
  rfl

theorem tidy_play (htable : Device.AllKeepTidy profile.table)
    (hkept : Kept ContextCall.Fits station) (h : station.pdn.Tidy)
    (horderly : station.Orderly profile event) :
    (station.play profile (ContextCall.program profile) event).pdn.Tidy := by
  -- the receive loop, a lost link and the turns of callers reach the contexts; a call that never
  -- waits leaves them alone because the event is orderly
  cases event with
  | opening =>
      simp only [Station.play, Engine.beginOpening]
      split
      next engine hopening =>
        split at hopening <;> cases hopening
        exact h
      · exact h
  | refused => simp only [Station.play]; split <;> exact h
  | opened => simp only [Station.play]; split <;> exact h
  | ended => simp only [Station.play]; split <;> exact h
  | received chunk =>
      simp only [Station.play]
      split
      · exact Engine.tidy_receive htable h station.buffer chunk
      · exact h
  | lost cause =>
      simp only [Station.play]
      split
      · exact Device.keepsTidy_lost station.engine.device h
      · exact h
  | changed device shutdown => exact Device.keepsTidy_of_eq (horderly.2 device rfl) h
  | dropped caller => exact h
  | called caller job =>
      by_cases hfree : station.isFree caller = true
      · exact tidy_called h hfree horderly
      · rw [show station.play profile (ContextCall.program profile) (.called caller job) = station
          from if_neg hfree]
        exact h
  | woken caller wake =>
      cases hcall : station.callers caller with
      | none =>
          simp only [Station.play, hcall]
          exact h
      | some last =>
          obtain ⟨job, call⟩ := last
          cases hwoken : call.woken station.engine wake with
          | none =>
              simp only [Station.play, hcall, hwoken]
              exact h
          | some woken => exact tidy_woken hkept h hcall hwoken horderly

/-- Every event is orderly, one after the other. -/
def AllOrderly (profile : Profile) : Station ContextCall Unit → List (Event ContextCall) → Prop
  | _, [] => True
  | station, event :: events =>
      station.Orderly profile event ∧
        (station.play profile (ContextCall.program profile) event).AllOrderly profile events

instance decidableAllOrderly (profile : Profile) :
    (station : Station ContextCall Unit) → (events : List (Event ContextCall)) →
      Decidable (station.AllOrderly profile events)
  | _, [] => inferInstanceAs (Decidable True)
  | station, event :: events =>
      have := decidableAllOrderly profile
        (station.play profile (ContextCall.program profile) event) events
      inferInstanceAs (Decidable (_ ∧ _))

theorem tidy_plays (htable : Device.AllKeepTidy profile.table)
    (hkept : Kept ContextCall.Fits station) (h : station.pdn.Tidy)
    {events : List (Event ContextCall)} (horderly : station.AllOrderly profile events) :
    (station.plays profile (ContextCall.program profile) events).pdn.Tidy := by
  induction events generalizing station with
  | nil => exact h
  | cons event events ih =>
      exact ih (hkept.play (ContextCall.discipline profile) event)
        (tidy_play htable hkept h horderly.1) horderly.2

/-- Inactive contexts have no addresses, and contexts that come up without one have none, whatever is
done to the contexts, exactly as long as every address is recorded while its context is up.  So it is
while an engine works, whatever the modem sends and callers do, as long as every address that a caller
has asked for is recorded while its context is up. -/
theorem forgetful_contexts (operations : List Pdn.Operation) (config : Config)
    (listeners : Listeners) (events : List (Event ContextCall)) :
    let profile : Profile := { config := config, table := Bg96.tokenTable }
    ((∀ earlier more, earlier <+: operations →
      (∀ operation ∈ more, operation.records = false) →
        (Table.initial.performAll (earlier ++ more)).Forgetful) ↔
      Table.initial.AllTimely operations) ∧
    ((Station.initial listeners : Station ContextCall Unit).AllOrderly profile events →
      (Station.after profile (ContextCall.program profile) listeners events).pdn.Forgetful) := by
  intro profile
  refine ⟨Table.forgetful_iff Table.tidy_initial, fun horderly => ?_⟩
  have hkept : Kept ContextCall.Fits (Station.initial listeners) :=
    kept_initial ContextCall.Fits listeners
  exact (tidy_plays Bg96.allKeepTidy hkept Table.tidy_initial horderly).forgetful

/-- The context is activated, its address is asked for and recorded, and then the modem takes the
context down. -/
theorem forgetful_contexts_takenDown :
    let profile : Profile := { config := {}, table := Bg96.tokenTable }
    let events : List (Event ContextCall) :=
      [.opening, .opened, .called 0 (.activate 1), .woken 0 .ready, .woken 0 (.answered (.ok 11)),
        .received (Text.toBytes "\r\nOK\r\n"), .woken 0 .ready, .called 0 (.address 1),
        .woken 0 .ready, .woken 0 (.answered (.ok 13)),
        .received (Text.toBytes "\r\n+CGPADDR: 1,10.0.0.1\r\n\r\nOK\r\n"), .woken 0 .ready,
        .received (Text.toBytes "\r\n+QIURC: \"pdpdeact\",1\r\n")]
    let operations : List Pdn.Operation :=
      [.beginActivate 1 .ipv4, .setActive 1 none, .setAddress 1 (.v4 10 0 0 1), .setInactive 1]
    let later := Station.after profile (ContextCall.program profile) {} events
    later.pdn = Table.initial.performAll operations ∧ later.pdn.Forgetful ∧
      (Table.initial.performAll operations).Forgetful ∧
      ((Station.after profile (ContextCall.program profile) {} events.dropLast).pdn.get? 1).bind
        Context.address = some (.v4 10 0 0 1) := by
  intro profile events operations later
  -- the address is recorded while the context is up, both in the run and in the operations
  have horderly : (Station.initial {} : Station ContextCall Unit).AllOrderly profile events := by
    decide +kernel
  have htimely : Table.initial.AllTimely operations := by decide +kernel
  obtain ⟨hoperations, hevents⟩ := forgetful_contexts operations {} {} events
  have hforgetful : (Table.initial.performAll operations).Forgetful :=
    hoperations.mpr htimely operations [] (List.prefix_refl _) nofun
  exact ⟨by decide +kernel, hevents horderly, hforgetful, by decide +kernel⟩

/-- The modem answers with the address and takes the context down, before the caller goes on.  The
inactive context then has an address, and the next activation shows it. -/
theorem lateAddress_is_left :
    let profile : Profile := { config := {}, table := Bg96.tokenTable }
    let events : List (Event ContextCall) :=
      [.opening, .opened, .called 0 (.activate 1), .woken 0 .ready, .woken 0 (.answered (.ok 11)),
        .received (Text.toBytes "\r\nOK\r\n"), .woken 0 .ready, .called 0 (.address 1),
        .woken 0 .ready, .woken 0 (.answered (.ok 13)),
        .received (Text.toBytes ("\r\n+CGPADDR: 1,10.0.0.1\r\n\r\nOK\r\n".toList ++
          "\r\n+QIURC: \"pdpdeact\",1\r\n".toList)), .woken 0 .ready]
    let again : List (Event ContextCall) :=
      [.called 0 (.activate 1), .woken 0 .ready, .woken 0 (.answered (.ok 11)),
        .received (Text.toBytes "\r\nOK\r\n"), .woken 0 .ready]
    let later := Station.after profile (ContextCall.program profile) {} events
    later.pdn.get? 1 = some { Context.fresh with address := some (.v4 10 0 0 1) } ∧
      ¬ later.pdn.Forgetful ∧
      (later.plays profile (ContextCall.program profile) again).pdn.status 1 =
        .ok { id := 1, active := true, family := .ipv4, address := some (.v4 10 0 0 1) } := by
  intro profile events again later
  -- the caller goes on after the context went down, and records the address all the same
  have hleft : later.pdn.get? 1 =
      some { Context.fresh with address := some (.v4 10 0 0 1) } := by decide +kernel
  refine ⟨hleft, fun hforgetful => ?_, by decide +kernel⟩
  cases hforgetful.inactive 1 _ hleft rfl

end Station

end ModemLink
