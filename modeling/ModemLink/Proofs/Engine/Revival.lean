import ModemLink.Proofs.Engine.Errands

/-!
# Coming back to life after the link was lost

The receive loop only signals the outcome of a command.  What follows from it is done by the caller
when that goes on, and by then the link may be lost and everything brought down.

`Station.Dormant` is what holds from the loss of the link on while nobody begins anything new
(`Station.Dormant.play`), and `Station.lifeless_iff` says when nothing comes back to life: unless a
caller has still to take the success of a command that it acts on.
-/

namespace ModemLink

open Device (Subdued)

/-- The outcome that a caller has still to take makes its errand bring a context to life. -/
def Exchange.Revives (exchange : Exchange) (errand : Errand) : Prop :=
  exchange.outcome = some (.ok .success) ∧ errand.Revives exchange.response

namespace Station

/-- Nobody begins anything new: no receive loop opens the link, and no call is made. -/
def Event.Calm {ι : Type} : Event ι → Prop
  | .opening | .opened | .called .. | .changed .. => False
  | .refused | .received _ | .ended | .lost _ | .woken .. | .dropped _ => True

/-- A caller in the course of a command is about to bring a context to life. -/
def Reviving (station : Station Errand Unit) : Prop :=
  ∃ caller errand call, station.callers caller = some (errand, call) ∧ call.holdsLock = true ∧
    station.engine.exchange.Revives errand

variable {profile : Profile} {station : Station Errand Unit} {since : Device} {caller : Nat}
  {errand : Errand} {call : Call Unit}

/-- What holds from the loss of the link on. -/
structure Dormant (since : Device) (station : Station Errand Unit) : Prop where
  kept : Kept Errand.Fits station
  reading : station.reading = false
  down : station.engine.device.Down
  notices : station.engine.device.activations = since.activations
  spent : ¬ station.Reviving

namespace Dormant

/-- A caller does its turn. -/
theorem turn {after : Engine × Call Unit} (h : Dormant since station)
    (hcall : station.callers caller = some (errand, call))
    (hkept : Kept Errand.Fits (station.turn caller errand after))
    (hturned : Call.Turned station.engine call after)
    (hdevice : Subdued station.engine.device after.1.device)
    (hspent : after.2.holdsLock = true → ¬ after.1.exchange.Revives errand) :
    Dormant since (station.turn caller errand after) where
  kept := hkept
  reading := h.reading
  down := (hdevice h.down).1
  notices := (hdevice h.down).2.trans h.notices
  spent := by
    rintro ⟨other, task, rest, hother, hholds, hrevives⟩
    by_cases heq : other = caller
    · subst heq
      rw [callers_turn_self] at hother
      cases hother
      exact hspent hholds hrevives
    · -- while another caller has the lock, the exchange is its own
      rw [callers_turn_of_ne heq] at hother
      have howner : station.holds other = true := (holds_of_callers hother).trans hholds
      have hfree : call.holdsLock = false :=
        (holds_of_callers hcall).symm.trans (h.kept.owned.not_holds howner (Ne.symm heq))
      obtain ⟨-, -, hexchange⟩ := hturned.other hfree (h.kept.owned.locked howner)
      refine h.spent ⟨other, task, rest, hother, hholds, ?_⟩
      rw [← hexchange]
      exact hrevives

theorem woken (profile : Profile) (h : Dormant since station)
    (hcall : station.callers caller = some (errand, call)) {wake : Call.Wake} {start : Engine}
    {next : Call Unit} (hwoken : call.woken station.engine wake = some (start, next)) :
    Dormant since (station.turn caller errand (next.advance start)) := by
  have hheld : call.holdsLock = true → station.engine.locked = true :=
    h.kept.owned.locked_of_callers hcall
  have hkept := h.kept.woken (Errand.discipline profile) hcall hwoken
  have hspent : call.holdsLock = true → ¬ station.engine.exchange.Revives errand :=
    fun hcaller hrevives => h.spent ⟨caller, errand, call, hcall, hcaller, hrevives⟩
  have hfits := h.kept.fits caller errand call hcall
  unfold Errand.Fits at hfits
  split at hfits
  next settle hsettle =>
    -- in the course of a command a turn settles the device only with a success that is to be taken
    have hstep := hfits.woken hwoken
    refine h.turn hcall hkept (hstep.turned hheld) (hstep.subdued fun hcaller houtcome => ?_) ?_
    · exact Errand.subdued_settle hsettle (fun hrevives => hspent hcaller ⟨houtcome, hrevives⟩) _
    · intro hholds hrevives
      rcases hstep.exchange hholds with hnone | ⟨hcaller, hsame⟩
      · rw [Exchange.Revives, hnone] at hrevives
        cases hrevives.1
      · rw [hsame] at hrevives
        exact hspent hcaller hrevives
  next hsettle =>
    -- any other call keeps the device subdued in every turn
    obtain ⟨hdevice, -, hturned⟩ := hfits.woken .refl .trans hheld hwoken
    exact h.turn hcall hkept hturned hdevice fun _ hrevives =>
      Errand.not_revives hsettle hrevives.2

/-- A caller gives its call up, and the lock with it. -/
theorem drop (h : Dormant since station) (caller : Nat) : Dormant since (station.drop caller) where
  kept := h.kept.drop caller
  reading := h.reading
  down := h.down
  notices := h.notices
  spent := by
    rintro ⟨other, errand, call, hother, hholds, hrevives⟩
    by_cases heq : other = caller
    · subst heq
      simp [Station.drop] at hother
    · rw [callers_drop_of_ne heq] at hother
      exact h.spent ⟨other, errand, call, hother, hholds, hrevives⟩

/-- As long as nobody begins anything new, nothing comes to life. -/
theorem play (h : Dormant since station) {event : Event Errand} (hcalm : event.Calm) :
    Dormant since (station.play profile (Errand.program profile) event) := by
  have hclosed : ¬ station.reading = true := by rw [h.reading]; exact Bool.false_ne_true
  unfold Station.play
  -- the link is closed and nobody begins anything, so what is left are callers that go on
  cases event with
  | opening | opened | called | changed => exact hcalm.elim
  | refused =>
      simp only
      split
      · exact ⟨h.kept.congr rfl rfl, h.reading, h.down, h.notices, h.spent⟩
      · exact h
  | received chunk =>
      simp only [if_neg hclosed]
      exact h
  | ended =>
      simp only [if_neg fun hended : station.reading = true ∧ _ => hclosed hended.1]
      exact h
  | lost cause =>
      simp only [if_neg hclosed]
      exact h
  | woken caller wake =>
      simp only
      split
      · exact h
      next errand call hcall =>
        split
        · exact h
        next start next hwoken => exact h.woken profile hcall hwoken
  | dropped caller => exact h.drop caller

theorem plays (profile : Profile) (h : Dormant since station) {events : List (Event Errand)}
    (hcalm : ∀ event ∈ events, event.Calm) :
    Dormant since (station.plays profile (Errand.program profile) events) := by
  refine List.foldlRecOn (motive := Dormant since) events _ h ?_
  intro station h event hmem
  exact h.play (hcalm event hmem)

end Dormant

theorem play_lost (profile : Profile) (hreading : station.reading = true) (cause : LinkError) :
    station.play profile (Errand.program profile) (.lost cause) =
      station.finish (station.engine.loseLink cause) := by
  simp only [Station.play, hreading, if_true]

theorem device_finish (station : Station Errand Unit) (cause : LinkError) :
    (station.finish (station.engine.loseLink cause)).engine.device =
      station.engine.device.loseSockets.loseContexts := by
  simp only [finish, Engine.loseLink, Engine.becomeClosed]

theorem down_finish (station : Station Errand Unit) (cause : LinkError) :
    (station.finish (station.engine.loseLink cause)).engine.device.Down := by
  rw [device_finish]
  exact Device.down_lost station.engine.device

/-- The link is lost. -/
theorem dormant_finish (h : Kept Errand.Fits station) (cause : LinkError)
    (hspent : ¬ (station.finish (station.engine.loseLink cause)).Reviving) :
    Dormant station.engine.device (station.finish (station.engine.loseLink cause)) where
  kept := h.congr rfl rfl
  reading := rfl
  down := down_finish station cause
  notices := by
    rw [device_finish]
    exact Device.activations_lost station.engine.device
  spent := hspent

/-! ## Coming back to life -/

/-- The caller has to take the success of its command. -/
theorem revives_of_waiting (profile : Profile) {settle : Response → Device → Device}
    (hdown : station.engine.device.Down) (hcall : station.callers caller = some (errand, call))
    (hwaiting : call.Waiting settle) (hsettle : errand.settle? = some settle)
    (hrevives : station.engine.exchange.Revives errand) :
    ∃ id context, (station.play profile (Errand.program profile)
        (.woken caller .ready)).engine.device.pdn.get? id = some context ∧
      context.activation = .active := by
  obtain ⟨timeout, next, rfl, hsuccess, -⟩ := hwaiting
  have hturn : station.play profile (Errand.program profile) (.woken caller .ready) =
      station.turn caller errand ((next (some (.ok .success))).advance
        { station.engine with exchange := station.engine.exchange.takeOutcome }) := by
    refine play_woken profile _ hcall ?_
    rw [Call.woken, hrevives.1, Option.map_some]
  rw [hturn, hsuccess]
  exact Errand.active_settle hsettle hrevives.2 hdown

/-- The caller is in the course of a command, whose outcome is already there. -/
theorem revives_of_reviving (profile : Profile) (hkept : Kept Errand.Fits station)
    (hdown : station.engine.device.Down) (h : station.Reviving) :
    ∃ later : List (Event Errand), (∀ event ∈ later, event.Calm) ∧ ∃ id context,
      (station.plays profile (Errand.program profile) later).engine.device.pdn.get? id =
          some context ∧
        context.activation = .active := by
  obtain ⟨caller, errand, call, hcall, hholds, hrevives⟩ := h
  have hfits := hkept.fits caller errand call hcall
  unfold Errand.Fits at hfits
  split at hfits
  next settle hsettle =>
    rcases hfits.of_holdsLock hholds with hsending | hwaiting
    · -- the link accepts the command first, and then the caller sees the outcome
      obtain ⟨bytes, timeout, next, rfl, hwaiting, -⟩ := hsending
      have hturn : station.play profile (Errand.program profile)
          (.woken caller (.answered (.ok bytes.length))) =
            station.turn caller errand (station.engine, next (.ok bytes.length)) := by
        rw [play_woken profile _ hcall rfl, (hwaiting.advance station.engine).1]
      refine ⟨[.woken caller (.answered (.ok bytes.length)), .woken caller .ready], ?_, ?_⟩
      · simp [Event.Calm]
      · rw [Station.plays, List.foldl_cons, hturn]
        exact revives_of_waiting profile hdown (callers_turn_self ..) hwaiting hsettle hrevives
    · refine ⟨[.woken caller .ready], by simp [Event.Calm], ?_⟩
      exact revives_of_waiting profile hdown hcall hwaiting hsettle hrevives
  next hsettle => exact absurd hrevives.2 (Errand.not_revives hsettle)

/-- After the link was lost, and until somebody begins anything new, no context is or becomes active,
no socket opens or is connected, and nobody is told of an activation, whatever happens and however the
callers go on: unless one that is in the course of an activation, or of a query for the contexts, has
by then a success to take that it has not taken yet. -/
theorem lifeless_iff (profile : Profile) (listeners : Listeners) (earlier : List (Event Errand))
    (cause : LinkError)
    (hreading : (Station.after profile (Errand.program profile) listeners earlier).reading = true) :
    let before := Station.after profile (Errand.program profile) listeners earlier
    let lost := before.play profile (Errand.program profile) (.lost cause)
    (∀ later : List (Event Errand), (∀ event ∈ later, event.Calm) →
      Device.Lifeless before.engine.device
        (lost.plays profile (Errand.program profile) later).engine.device) ↔ ¬ lost.Reviving := by
  intro before lost
  have hkept : Kept Errand.Fits before :=
    kept_after (Errand.discipline profile) profile listeners earlier
  have hlost : lost = before.finish (before.engine.loseLink cause) :=
    play_lost profile hreading cause
  rw [hlost]
  constructor
  · -- the caller with the success goes on, and a context is active
    intro hlifeless hreviving
    have hlater : Kept Errand.Fits (before.finish (before.engine.loseLink cause)) :=
      hkept.congr rfl rfl
    have hdown := down_finish before cause
    obtain ⟨later, hcalm, id, context, hcontext, hactive⟩ :=
      revives_of_reviving profile hlater hdown hreviving
    exact (hlifeless later hcalm).contexts id context hcontext hactive
  · -- nobody has a success to take, and that stays so
    intro hspent later hcalm
    have hdormant := (dormant_finish hkept cause hspent).plays profile hcalm
    exact hdormant.down.lifeless hdormant.notices

/-- An activation whose command was sent, and for which no answer has come when the link is lost. -/
theorem lifeless_iff_unanswered :
    let profile : Profile := { config := {}, table := Bg96.tokenTable }
    let earlier : List (Event Errand) :=
      [.opening, .opened, .called 0 (.activate 1), .woken 0 .ready, .woken 0 (.answered (.ok 11))]
    let before := Station.after profile (Errand.program profile) {} earlier
    let lost := before.play profile (Errand.program profile) (.lost .failure)
    before.reading = true ∧ ∀ later : List (Event Errand), (∀ event ∈ later, event.Calm) →
      Device.Lifeless before.engine.device
        (lost.plays profile (Errand.program profile) later).engine.device := by
  intro profile earlier before lost
  have hreading : before.reading = true := by decide +kernel
  have houtcome : lost.engine.exchange.outcome ≠ some (.ok .success) := by decide +kernel
  refine ⟨hreading, (lifeless_iff profile {} earlier .failure hreading).mpr ?_⟩
  rintro ⟨caller, errand, call, -, -, hsuccess, -⟩
  exact houtcome hsuccess

/-- The modem confirms the activation, and then the link is lost, before the caller goes on. -/
theorem lateSuccess_revives :
    let profile : Profile := { config := {}, table := Bg96.tokenTable }
    let earlier : List (Event Errand) :=
      [.opening, .opened, .called 0 (.activate 1), .woken 0 .ready, .woken 0 (.answered (.ok 11)),
        .received (Text.toBytes "\r\nOK\r\n")]
    let before := Station.after profile (Errand.program profile) {} earlier
    let lost := before.play profile (Errand.program profile) (.lost .failure)
    let late := lost.plays profile (Errand.program profile) [.woken 0 .ready]
    before.reading = true ∧ lost.engine.device.pdn.activation 1 = .ok .inactive ∧
      late.engine.device.pdn.activation 1 = .ok .active ∧
      late.engine.device.notices = [.context false 1 .inactive, .context true 1 .active] ∧
      ¬ Device.Lifeless before.engine.device late.engine.device := by
  intro profile earlier before lost late
  have hactive : late.engine.device.pdn.activation 1 = .ok .active := by decide +kernel
  refine ⟨by decide +kernel, by decide +kernel, hactive, by decide +kernel, fun hlifeless => ?_⟩
  exact hlifeless.activation_ne 1 hactive

end Station

end ModemLink
