import Mathlib.Logic.Relation
import ModemLink.Proofs.Engine.LinkLoss
import ModemLink.Proofs.Urc.Effects

/-!
# Sockets in the course of time

What becomes of a socket while the call that works on it waits, if no other call works on it.  The
receive loop drives it by events of its lifecycle, each of which may be refused, and its owner is
told by these events alone.  Everything else leaves it alone.

* `Device.Driven` allows any events, and `Device.Reported` those that no user causes.  Both are
  instances of `Device.Follows`, by which handlers and a lost link are gone through once.
* `Engine.Elapses` lists what may happen, and `Engine.follows_meanwhile` says that all of it
  together does to the socket what such a relation allows.
-/

namespace ModemLink

/-! ## What handlers do to a socket -/

/-- The notice is for the owner of a socket. -/
def Notice.isSocket : Notice → Bool
  | socket .. => true
  | _ => false

namespace Device

variable {device before middle after : Device} {handle : SocketHandle} {events : List SocketEvent}
  {R : Device → Device → Prop}

/-- A socket and the log of its owner from one moment to another, in which it was driven by events
and otherwise left alone. -/
inductive Driven (handle : SocketHandle) : Device → Device → Prop
  | event (device : Device) (event : SocketEvent) :
      Driven handle device (device.socketEvent handle event).1
  | aside {before after : Device}
      (hslot : after.sockets.get? handle = before.sockets.get? handle)
      (htold : after.told handle = before.told handle) : Driven handle before after
  | trans {first second third : Device} (h : Driven handle first second)
      (hnext : Driven handle second third) : Driven handle first third

theorem Driven.refl (device : Device) : Driven handle device device := .aside rfl rfl

/-! ### Following reports -/

/-- The socket and the log of its owner are as before. -/
structure SameSocket (handle : SocketHandle) (before after : Device) : Prop where
  slot : after.sockets.get? handle = before.sockets.get? handle
  told : after.told handle = before.told handle

/-- The device after a socket was driven by events, one after the other. -/
def socketEvents (device : Device) (handle : SocketHandle) (events : List SocketEvent) : Device :=
  events.foldl (fun device event => (device.socketEvent handle event).1) device

/-- An event does the same to a socket on both devices. -/
theorem SameSocket.socketEvent (h : SameSocket handle before after) (event : SocketEvent) :
    SameSocket handle (before.socketEvent handle event).1 (after.socketEvent handle event).1 := by
  rcases socketEvent_cases before handle event with
    ⟨failure, hrefused⟩ | ⟨socket, state, notice, hsocket, hnext⟩
  · rcases socketEvent_cases after handle event with
      ⟨cause, hsame⟩ | ⟨socket, state, notice, hsocket, hnext⟩
    · rw [hrefused, hsame]
      exact h
    · -- the sockets are equal, so an event that one device refuses is refused by the other
      rw [socketEvent_of_ok (h.slot ▸ hsocket) hnext] at hrefused
      cases congrArg Prod.snd hrefused
  · have hafter : after.sockets.get? handle = some socket := h.slot.trans hsocket
    refine ⟨?_, ?_⟩
    · rw [get?_socketEvent_of_ok hafter hnext, get?_socketEvent_of_ok hsocket hnext]
    · rw [told_socketEvent_of_ok hafter hnext, told_socketEvent_of_ok hsocket hnext, h.told]

theorem SameSocket.socketEvents (h : SameSocket handle before after)
    (events : List SocketEvent) :
    SameSocket handle (before.socketEvents handle events) (after.socketEvents handle events) := by
  induction events generalizing before after with
  | nil => exact h
  | cons event events ih => exact ih (h.socketEvent event)

/-- From one moment to another, the socket and the log of its owner have followed reports. -/
def Reported (handle : SocketHandle) (before after : Device) : Prop :=
  ∃ events, (∀ event ∈ events, event.isReport = true) ∧
    SameSocket handle (before.socketEvents handle events) after

theorem Reported.event (device : Device) {event : SocketEvent} (hreport : event.isReport = true) :
    Reported handle device (device.socketEvent handle event).1 :=
  ⟨[event], by simpa using hreport, rfl, rfl⟩

theorem Reported.aside (hslot : after.sockets.get? handle = before.sockets.get? handle)
    (htold : after.told handle = before.told handle) : Reported handle before after :=
  ⟨[], nofun, hslot, htold⟩

theorem Reported.refl (device : Device) : Reported handle device device := .aside rfl rfl

theorem Reported.trans (h : Reported handle before middle) (hnext : Reported handle middle after) :
    Reported handle before after := by
  obtain ⟨earlier, hearlier, hmiddle⟩ := h
  obtain ⟨later, hlater, hafter⟩ := hnext
  refine ⟨earlier ++ later, List.forall_mem_append.mpr ⟨hearlier, hlater⟩, ?_⟩
  have hagain := hmiddle.socketEvents later
  rw [Device.socketEvents, List.foldl_append]
  exact ⟨hafter.slot.trans hagain.slot, hafter.told.trans hagain.told⟩

/-! ### Handlers -/

/-- `R` allows to leave a socket alone, and to drive it by reports. -/
structure Follows (handle : SocketHandle) (R : Device → Device → Prop) : Prop where
  report : ∀ (device : Device) event, event.isReport = true →
    R device (device.socketEvent handle event).1
  aside : ∀ {before after : Device}, after.sockets.get? handle = before.sockets.get? handle →
    after.told handle = before.told handle → R before after
  trans : ∀ {first second third}, R first second → R second third → R first third

theorem follows_driven : Follows handle (Driven handle) where
  report device event _ := .event device event
  aside := .aside
  trans := .trans

theorem follows_reported : Follows handle (Reported handle) where
  report device _ := .event device
  aside := .aside
  trans := .trans

namespace Follows

variable (h : Follows handle R)
include h

theorem refl (device : Device) : R device device := h.aside rfl rfl

/-- A report about any socket. -/
theorem socketEvent (device : Device) (owner : SocketHandle) (event : SocketEvent)
    (hreport : event.isReport = true) : R device (device.socketEvent owner event).1 := by
  by_cases heq : handle = owner
  · subst heq
    exact h.report device event hreport
  · exact h.aside (get?_socketEvent_of_ne heq) (told_socketEvent_of_ne heq)

theorem notify {notice : Notice} (hnotice : notice.isSocket = false) (device : Device) :
    R device (device.notify notice) := by
  unfold Device.notify
  split
  · refine h.aside rfl ?_
    cases notice with
    | socket => cases hnotice
    | registration | context | signal | modem | line => simp [told]
  · exact h.refl device

theorem foldl {α : Type} {f : Device → α → Device} (hstep : ∀ device item, R device (f device item))
    (items : List α) (device : Device) : R device (items.foldl f device) := by
  induction items generalizing device with
  | nil => exact h.refl device
  | cons item items ih => exact h.trans (hstep device item) (ih (f device item))

theorem allows : Allows R where
  trans := h.trans
  registration _ _ := h.aside rfl rfl
  signal _ _ := h.aside rfl rfl
  notify device notice hgeneral := by
    refine h.notify ?_ device
    cases notice <;> first | rfl | cases hgeneral

theorem contextNotice (device : Device) (active : Bool) (id : Nat) :
    R device (device.contextNotice active id) := by
  unfold Device.contextNotice
  split
  · exact h.notify rfl device
  · exact h.refl device

theorem contextDeactivated (device : Device) (id : Nat) :
    R device (device.contextDeactivated id).1 := by
  -- neither the table of contexts nor its listener has to do with sockets
  have htable : R device { device with pdn := (device.pdn.setInactive id).1 } := h.aside rfl rfl
  unfold Device.contextDeactivated
  simp only
  split
  · exact htable
  · split
    · exact h.trans htable (h.contextNotice _ false id)
    · exact htable

/-- A lost link is reported to every socket. -/
theorem lost (device : Device) : R device device.loseSockets.loseContexts := by
  -- sockets first and contexts then; only the first has to do with the socket
  have hsockets : R device device.loseSockets :=
    h.foldl (fun device owner => h.socketEvent device owner .linkFailed rfl) _ device
  have hcontexts (device : Device) : R device device.loseContexts := by
    have htable : R device { device with pdn := device.pdn.deactivateAll.1 } := h.aside rfl rfl
    exact h.trans htable (h.foldl (fun device id => h.contextNotice device false id) _ _)
  exact h.trans hsockets (hcontexts device.loseSockets)

theorem dispatch {table : TokenTable UrcHandler} (htable : AllDo R table) (device : Device)
    (line : Text) : R device (device.dispatch table line) :=
  dispatch_does (R := R) h.trans (fun device => h.notify rfl device) htable device

theorem allDo : AllDo R Bg96.tokenTable :=
  Bg96.allDo (h.allows.permits h.socketEvent) h.contextDeactivated

end Follows

/-- All handlers of a table drive sockets by events or leave them alone. -/
def AllDrive (table : TokenTable UrcHandler) : Prop := ∀ handle, AllDo (Driven handle) table

/-- All handlers of a table drive sockets by reports or leave them alone. -/
def AllReport (table : TokenTable UrcHandler) : Prop := ∀ handle, AllDo (Reported handle) table

end Device

theorem Bg96.allDrive : Device.AllDrive Bg96.tokenTable := fun _ => Device.follows_driven.allDo

theorem Bg96.allReport : Device.AllReport Bg96.tokenTable := fun _ => Device.follows_reported.allDo

/-! ## While a call waits -/

namespace Engine

variable {profile : Profile} {handle : SocketHandle} {engine later : Engine}

/-- What may happen while a call waits, if no other call works on its socket. -/
inductive Elapses (profile : Profile) (handle : SocketHandle) : Engine → Engine → Prop
  /-- The receive loop handles a chunk, whatever its buffer holds. -/
  | received (engine : Engine) (buffer : ReadBuffer) (chunk : Bytes) :
      Elapses profile handle engine (engine.receive profile buffer chunk).1
  /-- The receive loop ends because the link failed. -/
  | lost (engine : Engine) (cause : LinkError) :
      Elapses profile handle engine (engine.loseLink cause).becomeClosed
  /-- Anything that leaves the socket alone and tells its owner nothing: the link is opened, or
  closed on request, and other callers do their turns. -/
  | aside {engine later : Engine}
      (hslot : later.device.sockets.get? handle = engine.device.sockets.get? handle)
      (htold : later.device.told handle = engine.device.told handle) :
      Elapses profile handle engine later

/-- Any number of things happen. -/
def Meanwhile (profile : Profile) (handle : SocketHandle) : Engine → Engine → Prop :=
  Relation.ReflTransGen (Elapses profile handle)

variable {R : Device → Device → Prop}

theorem Elapses.follows (hfollows : Device.Follows handle R) (htable : Device.AllDo R profile.table)
    (h : Elapses profile handle engine later) : R engine.device later.device := by
  cases h with
  | received buffer chunk =>
      have hdispatch := hfollows.dispatch htable
      exact device_receive hfollows.refl hfollows.trans hdispatch engine buffer chunk
  | lost cause =>
      simp only [loseLink, becomeClosed]
      exact hfollows.lost engine.device
  | aside hslot htold => exact hfollows.aside hslot htold

/-- All that happens does to the socket what is allowed, and nothing else. -/
theorem follows_meanwhile (hfollows : Device.Follows handle R)
    (htable : Device.AllDo R profile.table) (h : Meanwhile profile handle engine later) :
    R engine.device later.device := by
  unfold Meanwhile at h
  induction h with
  | refl => exact hfollows.refl engine.device
  | tail _ hstep ih => exact hfollows.trans ih (hstep.follows hfollows htable)

end Engine

end ModemLink
