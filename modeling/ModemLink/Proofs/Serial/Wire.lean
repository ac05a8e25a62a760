import ModemLink.Proofs.Engine.Station
import ModemLink.Proofs.Serial.Parts
import ModemLink.Proofs.Serial.Sending

/-!
# What a request puts on the wire

A `Wire` is a station whose callers send over a serial port, with a record of what the port accepted
while each of them held the lock in the course of its last call.  The port may behave in any way: it
may accept less than it is offered, or nothing, fail, stall, or become another one at any time.

`Wire.record_wire`: what is recorded of a call is a prefix of what it was to write, namely nothing if
the call must not be sent, and everything once it has ended with a value.
-/

namespace ModemLink

namespace Sending

variable {ρ : Type} {profile : Profile}

/-- Every sending keeps to the lock discipline. -/
theorem program_guarded {R : Device → Device → Prop} (hrefl : ∀ device, R device device)
    (sending : Sending ρ) : (sending.program profile).Guarded R false false := by
  cases sending with
  | request job => exact Job.program_guarded hrefl job
  | socketData handle data result =>
      have hsend : (Bg96.sendData profile handle data).Guarded R := by
        unfold Bg96.sendData
        refine (Caller.guarded_ask hrefl _).bind fun socket => ?_
        refine (Caller.guarded_ofExcept _).bind fun _ => ?_
        by_cases hdata : data = []
        · simp only [hdata, if_true]
          exact rfl
        · simp only [hdata, if_false]
          exact Request.sendPayload_guarded hrefl _ _ _ _
      exact Call.Guarded.bind hsend fun sent => by cases sent <;> rfl

/-- What a port may have accepted of a sending: some of its first bytes, and nothing if it must not
be sent. -/
def MayHavePut (profile : Profile) (sending : Sending ρ) (bytes : Bytes) : Prop :=
  bytes <+: sending.wire profile ∧ (sending.Refused profile → bytes = [])

/-- What a port has accepted of a sending when the parts in `left` are still to be handed over. -/
def HasPut (profile : Profile) (sending : Sending ρ) (bytes : Bytes) :
    Option (List Bytes) → Prop
  | some rest => ¬ sending.Refused profile ∧ bytes ++ rest.flatten = sending.wire profile
  | none => sending.MayHavePut profile bytes

variable {sending : Sending ρ} {bytes : Bytes} {left : Option (List Bytes)}

theorem mayHavePut_nil (profile : Profile) (sending : Sending ρ) :
    sending.MayHavePut profile [] := ⟨List.nil_prefix, fun _ => rfl⟩

theorem HasPut.mayHavePut (h : sending.HasPut profile bytes left) :
    sending.MayHavePut profile bytes := by
  cases left with
  | none => exact h
  | some rest => exact ⟨⟨rest.flatten, h.2⟩, fun hrefused => absurd hrefused h.1⟩

/-- A port accepts the first bytes of the next part. -/
theorem HasPut.take {part : Bytes} {rest : List Bytes}
    (h : sending.HasPut profile bytes (some (part :: rest))) (count : Nat) :
    sending.HasPut profile (bytes ++ part.take count) none := by
  refine ⟨⟨part.drop count ++ rest.flatten, ?_⟩, fun hrefused => absurd hrefused h.1⟩
  calc bytes ++ part.take count ++ (part.drop count ++ rest.flatten)
      = bytes ++ (part.take count ++ part.drop count ++ rest.flatten) := by
        simp only [List.append_assoc]
    _ = sending.wire profile := by
        rw [List.take_append_drop, ← List.flatten_cons]
        exact h.2

/-- A port accepts the next part as a whole. -/
theorem HasPut.whole {part : Bytes} {rest : List Bytes}
    (h : sending.HasPut profile bytes (some (part :: rest))) :
    sending.HasPut profile (bytes ++ part) (some rest) := by
  refine ⟨h.1, ?_⟩
  rw [List.append_assoc, ← List.flatten_cons]
  exact h.2

end Sending

/-! ## The system -/

/-- A station whose callers send over a port. -/
structure Wire (ρ : Type) where
  station : Station (Sending ρ) (Except Error ρ)
  port : SerialPort
  /-- The last call of each caller, and what the port accepted while it held the lock. -/
  record : Nat → Option (Sending ρ × Bytes)

namespace Wire

/-- What can happen next. -/
inductive Event (ρ : Type) where
  | called (caller : Nat) (sending : Sending ρ)
  /-- The port does what a caller waits for. -/
  | sent (caller : Nat)
  /-- A caller gives its call up while the port has done some writes for it. -/
  | cutOff (caller : Nat) (writes : Nat)
  /-- Anything else that happens to the station. -/
  | other (event : Station.Event (Sending ρ))
  /-- The port will do something else, or does something else than send. -/
  | changed (port : SerialPort)

variable {ρ : Type} {profile : Profile} {wire : Wire ρ} {caller : Nat} {sending : Sending ρ}
  {bytes : Bytes}

def initial (listeners : Listeners) (port : SerialPort) : Wire ρ :=
  { station := .initial listeners, port := port, record := fun _ => none }

/-- Credit what a port has accepted meanwhile to the callers that hold the lock. -/
def credit (wire : Wire ρ) (port : SerialPort) : Nat → Option (Sending ρ × Bytes) := fun caller =>
  (wire.record caller).map fun (sending, bytes) =>
    (sending, if wire.station.holds caller then
        bytes ++ port.accepted.drop wire.port.accepted.length
      else bytes)

/-- Neither a call nor an answer of the link. -/
def isOther : Station.Event (Sending ρ) → Bool
  | .called _ _ | .woken _ (.answered _) => false
  | _ => true

def play (profile : Profile) (wire : Wire ρ) : Event ρ → Wire ρ
  | .called caller sending =>
      if wire.station.isFree caller then
        { wire with
          station := wire.station.play profile (Sending.program profile) (.called caller sending)
          record := Function.update wire.record caller (some (sending, [])) }
      else wire
  | .sent caller =>
      match wire.station.callers caller with
      | some (_, .transmit bytes timeout _) =>
          let (port, answer) := wire.port.send bytes timeout
          { station := wire.station.play profile (Sending.program profile)
              (.woken caller (.answered answer))
            port := port
            record := wire.credit port }
      | _ => wire
  | .cutOff caller writes =>
      match wire.station.callers caller with
      | some (_, .transmit bytes timeout _) =>
          let (port, _) := SerialPort.writeAll (wire.port.now + timeout) writes wire.port bytes 0
          { station := wire.station.drop caller, port := port, record := wire.credit port }
      | _ => wire
  | .other event =>
      if isOther event then
        { wire with station := wire.station.play profile (Sending.program profile) event }
      else wire
  | .changed port => { wire with port := { port with written := wire.port.written } }

/-- What a new wire becomes. -/
def after (profile : Profile) (listeners : Listeners) (port : SerialPort)
    (events : List (Event ρ)) : Wire ρ :=
  events.foldl (play profile) (initial listeners port)

/-! ## What is recorded -/

/-- Calls that keep to the lock discipline, whatever they do to the device. -/
def Keeps (_ : Sending ρ) (call : Call (Except Error ρ)) : Prop :=
  call.Guarded (fun _ _ => True) false call.holdsLock

theorem discipline (profile : Profile) :
    Station.Discipline (Sending.program profile) (Keeps (ρ := ρ)) :=
  Station.discipline_of_guarded (fun _ _ => trivial) (fun _ _ => trivial)
    (Sending.program_guarded fun _ => trivial)

/-- The record says of each call what may be, and of a call that goes on what the rest of it goes
with. -/
structure Kept (profile : Profile) (wire : Wire ρ) : Prop where
  station : Station.Kept Keeps wire.station
  record : ∀ caller sending bytes, wire.record caller = some (sending, bytes) →
    sending.MayHavePut profile bytes
  current : ∀ caller sending call, wire.station.callers caller = some (sending, call) →
    ∃ bytes left, wire.record caller = some (sending, bytes) ∧
      call.HandsOver (Caller.OnOk sending.Completes) left ∧ sending.HasPut profile bytes left

theorem kept_initial (profile : Profile) (listeners : Listeners) (port : SerialPort) :
    Kept profile (initial listeners port : Wire ρ) where
  station := Station.kept_initial Keeps listeners
  record := nofun
  current := nofun

/-- A call that the link does not answer hands over nothing before its next suspension. -/
theorem handsOver_woken {α : Type} {call next : Call α} {engine start : Engine}
    {wake : Call.Wake} {post : α → Option (List Bytes) → Prop} {left : Option (List Bytes)}
    (h : call.HandsOver post left) (hwoken : call.woken engine wake = some (start, next))
    (hwake : ∀ answer, wake ≠ .answered answer) : next.HandsOver post left := by
  cases Call.resumes_of_woken hwoken with
  | answered answer => exact absurd rfl (hwake answer)
  | decided houtcome => exact h (some _)
  | expired => exact h none
  | acquired | linked => exact h

theorem credit_of_not_holds {port : SerialPort} (h : wire.station.holds caller = false) :
    wire.credit port caller = wire.record caller := by
  simp only [credit, h, Bool.false_eq_true, if_false]
  cases wire.record caller <;> rfl

theorem credit_of_holds {port : SerialPort} {more : Bytes}
    (h : wire.station.holds caller = true) (hrecord : wire.record caller = some (sending, bytes))
    (haccepted : port.accepted = wire.port.accepted ++ more) :
    wire.credit port caller = some (sending, bytes ++ more) := by
  simp [credit, h, hrecord, haccepted]

/-- The port has nothing to do for a caller that hands over nothing. -/
theorem play_sent_of_not_transmits (h : ¬ ∃ sending part timeout next,
    wire.station.callers caller = some (sending, .transmit part timeout next)) :
    wire.play profile (.sent caller) = wire := by
  simp only [play]
  split
  next hcall => exact absurd ⟨_, _, _, _, hcall⟩ h
  · rfl

theorem play_cutOff_of_not_transmits {writes : Nat} (h : ¬ ∃ sending part timeout next,
    wire.station.callers caller = some (sending, .transmit part timeout next)) :
    wire.play profile (.cutOff caller writes) = wire := by
  simp only [play]
  split
  next hcall => exact absurd ⟨_, _, _, _, hcall⟩ h
  · rfl

namespace Kept

variable {later : Wire ρ}

/-- A caller does its turn, and the record says of the others what it said before. -/
theorem turn (h : Kept profile wire) {after : Engine × Call (Except Error ρ)}
    (hturn : later.station = wire.station.turn caller sending after)
    (hstation : Station.Kept Keeps later.station)
    (hothers : ∀ other, other ≠ caller → later.record other = wire.record other)
    (hself : ∃ bytes left, later.record caller = some (sending, bytes) ∧
      after.2.HandsOver (Caller.OnOk sending.Completes) left ∧
      sending.HasPut profile bytes left) : Kept profile later where
  station := hstation
  record other otherSending otherBytes hother := by
    by_cases heq : other = caller
    · subst heq
      obtain ⟨bytes, left, hrecord, -, hput⟩ := hself
      rw [hrecord] at hother
      cases hother
      exact hput.mayHavePut
    · rw [hothers other heq] at hother
      exact h.record other otherSending otherBytes hother
  current other otherSending otherCall hother := by
    rw [hturn] at hother
    by_cases heq : other = caller
    · subst heq
      rw [Station.callers_turn_self] at hother
      cases hother
      exact hself
    · rw [Station.callers_turn_of_ne heq] at hother
      rw [hothers other heq]
      exact h.current other otherSending otherCall hother

/-- A call is made. -/
theorem called (h : Kept profile wire) (hfree : wire.station.isFree caller = true) :
    Kept profile (wire.play profile (.called caller sending)) := by
  have hstation : Station.Kept Keeps
      (wire.station.play profile (Sending.program profile) (.called caller sending)) :=
    h.station.play (discipline profile) _
  have hturn : wire.station.play profile (Sending.program profile) (.called caller sending) =
      wire.station.turn caller sending
        ((sending.program profile).advance wire.station.engine) :=
    Station.play_called profile _ hfree sending
  simp only [play, hfree, if_true]
  refine h.turn hturn hstation (fun other hne => Function.update_of_ne hne ..) ?_
  -- a sending that must not be made goes with no parts, any other one with all of them
  by_cases hrefused : sending.Refused profile
  · exact ⟨[], none, Function.update_self ..,
      (sending.program_handsOver fun hnot => absurd hrefused hnot).advance _,
      Sending.mayHavePut_nil profile sending⟩
  · refine ⟨[], some (sending.parts profile), Function.update_self ..,
      (sending.program_handsOver fun _ => rfl).advance _, hrefused, ?_⟩
    rw [List.nil_append, Sending.flatten_parts]

/-- The port does what a caller waits for. -/
theorem sent (h : Kept profile wire) {part : Bytes} {timeout : Nat}
    {next : Except LinkError Nat → Call (Except Error ρ)}
    (hcall : wire.station.callers caller = some (sending, .transmit part timeout next)) :
    Kept profile (wire.play profile (.sent caller)) := by
  have hholds : wire.station.holds caller = true := Station.holds_of_callers hcall
  have haccepts := SerialPort.accepts_send wire.port part timeout
  simp only [play, hcall]
  generalize wire.port.send part timeout = result at haccepts
  obtain ⟨port, answer⟩ := result
  obtain ⟨count, hcount, haccepted, htotal⟩ := haccepts
  have hstation : Station.Kept Keeps
      (wire.station.play profile (Sending.program profile) (.woken caller (.answered answer))) :=
    h.station.play (discipline profile) _
  have hturn : wire.station.play profile (Sending.program profile)
      (.woken caller (.answered answer)) =
        wire.station.turn caller sending ((next answer).advance wire.station.engine) :=
    Station.play_woken profile _ hcall rfl
  -- nobody else is in the course of a command
  have hothers : ∀ other, other ≠ caller → wire.credit port other = wire.record other :=
    fun other hne => credit_of_not_holds (h.station.owned.not_holds hholds hne)
  obtain ⟨bytes, left, hrecord, ⟨rest, rfl, hwhole, hcut⟩, hput⟩ := h.current _ _ _ hcall
  refine h.turn hturn hstation hothers ?_
  -- the next part is accepted as a whole, or the call goes on without another one
  by_cases hanswer : answer = .ok part.length
  · subst hanswer
    obtain rfl : part.length = count := by
      rw [htotal part.length rfl, Nat.zero_add]
    rw [List.take_length] at haccepted
    exact ⟨_, _, credit_of_holds hholds hrecord haccepted, hwhole.advance _, hput.whole⟩
  · exact ⟨_, _, credit_of_holds hholds hrecord haccepted, (hcut answer hanswer).advance _,
      hput.take count⟩

/-- A caller is gone, and the record says of the others what it said before. -/
theorem drop (h : Kept profile wire) (hdrop : later.station = wire.station.drop caller)
    (hothers : ∀ other, other ≠ caller → later.record other = wire.record other)
    (hself : ∀ sending bytes, later.record caller = some (sending, bytes) →
      sending.MayHavePut profile bytes) : Kept profile later where
  station := hdrop ▸ h.station.drop caller
  record other sending bytes hother := by
    by_cases heq : other = caller
    · exact hself sending bytes (heq ▸ hother)
    · exact h.record other sending bytes (hothers other heq ▸ hother)
  current other sending call hother := by
    rw [hdrop] at hother
    by_cases heq : other = caller
    · subst heq
      simp [Station.drop] at hother
    · rw [Station.callers_drop_of_ne heq] at hother
      rw [hothers other heq]
      exact h.current other sending call hother

/-- A caller gives its call up in the middle of a part. -/
theorem cutOff (h : Kept profile wire) {part : Bytes} {timeout writes : Nat}
    {next : Except LinkError Nat → Call (Except Error ρ)}
    (hcall : wire.station.callers caller = some (sending, .transmit part timeout next)) :
    Kept profile (wire.play profile (.cutOff caller writes)) := by
  have hholds : wire.station.holds caller = true := Station.holds_of_callers hcall
  have haccepts := SerialPort.accepts_writeAll (wire.port.now + timeout) writes wire.port part 0
  simp only [play, hcall]
  generalize SerialPort.writeAll (wire.port.now + timeout) writes wire.port part 0 = result
    at haccepts
  obtain ⟨port, answer⟩ := result
  obtain ⟨count, hcount, haccepted, -⟩ := haccepts
  -- nobody else holds the lock, so nobody else is credited
  have hothers : ∀ other, other ≠ caller → wire.credit port other = wire.record other :=
    fun other hne => credit_of_not_holds (h.station.owned.not_holds hholds hne)
  refine h.drop rfl hothers fun sending more hrecord => ?_
  -- some first bytes of the part were accepted, and no more will be
  obtain ⟨bytes, left, hbefore, ⟨rest, rfl, -, -⟩, hput⟩ := h.current _ _ _ hcall
  have hafter := (credit_of_holds hholds hbefore haccepted).symm.trans hrecord
  cases hafter
  exact (hput.take count).mayHavePut

/-- Anything else that happens to the station. -/
theorem other (h : Kept profile wire) {event : Station.Event (Sending ρ)}
    (hother : isOther event = true) : Kept profile (wire.play profile (.other event)) := by
  have hstation : Station.Kept Keeps
      (wire.station.play profile (Sending.program profile) event) :=
    h.station.play (discipline profile) _
  have hmoves := Station.moves_play profile (Sending.program profile) wire.station event
  simp only [play, hother, if_true]
  generalize wire.station.play profile (Sending.program profile) event = later
    at hmoves hstation
  -- the port does nothing, so only the callers may have moved
  cases hmoves with
  | none hcallers hlocked =>
      refine ⟨hstation, h.record, fun caller sending call hcall => ?_⟩
      exact h.current caller sending call (hcallers ▸ hcall)
  | called job hfree => cases hother
  | woken hcall hwoken =>
      -- the caller was not woken by an answer of the link, so it had nothing on the port
      refine h.turn rfl hstation (fun _ _ => rfl) ?_
      obtain ⟨bytes, left, hrecord, hhands, hput⟩ := h.current _ _ _ hcall
      refine ⟨bytes, left, hrecord, (handsOver_woken hhands hwoken ?_).advance _, hput⟩
      rintro answer rfl
      cases hother
  | dropped caller =>
      exact h.drop rfl (fun _ _ => rfl) fun sending bytes hrecord => h.record _ _ _ hrecord

theorem play (h : Kept profile wire) (event : Event ρ) : Kept profile (wire.play profile event) := by
  cases event with
  | called caller sending =>
      by_cases hfree : wire.station.isFree caller = true
      · exact h.called hfree
      · simp only [Wire.play, hfree, if_false, Bool.false_eq_true]
        exact h
  | sent caller =>
      -- the port does something only for a caller that hands bytes over
      by_cases hcall : ∃ sending part timeout next,
          wire.station.callers caller = some (sending, .transmit part timeout next)
      · obtain ⟨sending, part, timeout, next, hcall⟩ := hcall
        exact h.sent hcall
      · rw [play_sent_of_not_transmits hcall]
        exact h
  | cutOff caller writes =>
      by_cases hcall : ∃ sending part timeout next,
          wire.station.callers caller = some (sending, .transmit part timeout next)
      · obtain ⟨sending, part, timeout, next, hcall⟩ := hcall
        exact h.cutOff hcall
      · rw [play_cutOff_of_not_transmits hcall]
        exact h
  | other event =>
      by_cases hother : isOther event = true
      · exact h.other hother
      · simp only [Wire.play, hother, if_false, Bool.false_eq_true]
        exact h
  -- the record is about what was accepted, and the port still has that
  | changed port => exact ⟨h.station, h.record, h.current⟩

end Kept

theorem kept_after (profile : Profile) (listeners : Listeners) (port : SerialPort)
    (events : List (Event ρ)) : Kept profile (after profile listeners port events) := by
  refine List.foldlRecOn (motive := Kept profile) events _ (kept_initial profile listeners port) ?_
  intro wire h event _
  exact h.play event

section

variable {engine : Engine} (h : engine.link ≠ .opened)

include h

theorem advance_sendPayload_of_not_open (request : Request) (payload : Payload)
    (prompt : Bytes → Option Nat) (successTokens : List Text) :
    (request.sendPayload profile payload prompt successTokens).run.advance engine =
      (engine, .done (.error .notOpen)) :=
  Caller.advance_bind_of_error (Caller.advance_checkOpen_of_ne h)

theorem advance_sendData_of_not_open (profile : Profile) (handle : SocketHandle) (data : Bytes) :
    ∃ failure, (Bg96.sendData profile handle data).run.advance engine =
      (engine, .done (.error failure)) := by
  have hask : (Caller.ask fun device => device.sockets.info handle).run.advance engine =
      (engine, .done (engine.device.sockets.info handle)) := by
    rw [Caller.run_ask]
    rfl
  unfold Bg96.sendData
  cases hinfo : engine.device.sockets.info handle with
  | error failure => exact ⟨failure, Caller.advance_bind_of_error (hinfo ▸ hask)⟩
  | ok socket =>
      rw [Caller.advance_bind_of_ok (hinfo ▸ hask)]
      cases hconnected : Bg96.checkConnected socket with
      | error failure => exact ⟨failure, Caller.advance_bind_of_error rfl⟩
      | ok _ =>
          rw [Caller.advance_bind_of_ok (Caller.advance_ofExcept engine _)]
          by_cases hdata : data = []
          · simp only [hdata, if_true]
            exact ⟨.badParameter, rfl⟩
          · simp only [hdata, if_false]
            exact ⟨.notOpen, advance_sendPayload_of_not_open h _ _ _ _⟩

/-- A call on a link that is not open ends at once. -/
theorem advance_of_not_open (profile : Profile) (sending : Sending ρ) : ∃ failure,
    (sending.program profile).advance engine = (engine, .done (.error failure)) ∧
      ∀ job, sending = .request job → failure = .notOpen := by
  cases sending with
  | request job =>
      refine ⟨.notOpen, ?_, fun _ _ => rfl⟩
      cases job with
      | run asked timeout hooks read =>
          exact Caller.advance_bind_of_error (Caller.advance_checkOpen_of_ne h)
      | sendPayload asked payload prompt successTokens result =>
          simp only [Sending.program, Job.program, ← bind_pure_comp]
          exact Caller.advance_bind_of_error (advance_sendPayload_of_not_open h _ _ _ _)
  | socketData handle data result =>
      obtain ⟨failure, hfailure⟩ := advance_sendData_of_not_open h profile handle data
      refine ⟨failure, ?_, nofun⟩
      simp only [Sending.program, ← bind_pure_comp]
      exact Caller.advance_bind_of_error hfailure

end

/-- While a call holds the lock, which it does alone, the port accepts of what the call is to write
some first bytes, none if it must not be sent, and all of them if it ends with a value.  A call on a
link that is not open ends at once. -/
theorem record_wire (profile : Profile) (listeners : Listeners) (port : SerialPort)
    (events : List (Event ρ)) (caller : Nat) :
    let wire := after profile listeners port events
    wire.station.Owned ∧
      (∀ sending bytes, wire.record caller = some (sending, bytes) →
        bytes <+: sending.wire profile ∧ (sending.Refused profile → bytes = [])) ∧
      (∀ sending value, wire.station.callers caller = some (sending, .done (.ok value)) →
        wire.record caller = some (sending, sending.wire profile) ∧ sending.Yields value) ∧
      ∀ sending, wire.station.isFree caller = true → wire.station.engine.link ≠ .opened →
        let later := wire.play profile (.called caller sending)
        later.port = wire.port ∧ later.record caller = some (sending, []) ∧
          ∃ failure, later.station.callers caller = some (sending, .done (.error failure)) ∧
            ∀ job, sending = .request job → failure = .notOpen := by
  intro wire
  have hkept : Kept profile wire := kept_after profile listeners port events
  refine ⟨hkept.station.owned, hkept.record caller, fun sending value hcall => ?_,
    fun sending hfree hlink => ?_⟩
  · -- a call that ended with a value has nothing left, so what it put is everything
    obtain ⟨bytes, left, hrecord, ⟨hyields, hleft⟩, hput⟩ := hkept.current caller sending _ hcall
    subst hleft
    rw [hrecord, ← hput.2, List.flatten_nil, List.append_nil]
    exact ⟨rfl, hyields⟩
  · obtain ⟨failure, hadvance, hnotOpen⟩ := advance_of_not_open hlink profile sending
    simp only [play, Station.play, hfree, if_true, hadvance]
    exact ⟨trivial, Function.update_self .., failure, Station.callers_turn_self .., hnotOpen⟩

/-- Where a call that ends with a value is recorded with all that it was to write, this is what was
accepted of a call that has ended so. -/
theorem accepted_of_value {value : ρ}
    (hwritten : ∀ sending value, wire.station.callers caller = some (sending, .done (.ok value)) →
      wire.record caller = some (sending, sending.wire profile) ∧ sending.Yields value)
    (hvalue : ((wire.station.callers caller).bind (·.2.value?)).bind (·.toOption) = some value) :
    (wire.record caller).map Prod.snd =
      (wire.station.callers caller).map (·.1.wire profile) := by
  obtain ⟨result, hresult, hok⟩ := Option.bind_eq_some_iff.mp hvalue
  obtain ⟨⟨sending, call⟩, hcall, hended⟩ := Option.bind_eq_some_iff.mp hresult
  have hdone : call = .done (.ok value) := by
    cases call with
    | done ended =>
        cases hended
        cases result with
        | error failure => cases hok
        | ok value =>
            cases hok
            rfl
    | _ => cases hended
  subst hdone
  rw [(hwritten sending value hcall).1, hcall]
  rfl

/-- A port that accepts one byte, then two, and is fit for anything afterwards. -/
def haltingPort : SerialPort :=
  { SerialPort.initial [] [{ accepts := some 1 }, { accepts := some 2 }] .succeeds with
    isOpen := true }

/-- Somebody sends data on a socket, and the modem prompts for them and confirms them. -/
def aDataSending : List (Event Nat) :=
  let socket : Socket := { Socket.fresh 1 .inet .stream .tcp with state := .connected }
  let device := Device.initial {}
  [.other .opening, .other .opened,
    .other (.changed { device with sockets := device.sockets.put 3 (some socket) } false),
    .changed haltingPort, .called 0 (.socketData 3 [104, 105] id),
    .other (.woken 0 .ready), .sent 0, .other (.received [62, 32]),
    .other (.woken 0 .ready), .sent 0, .other (.received (Text.toBytes "SEND OK" ++ [13, 10])),
    .other (.woken 0 .ready)]

theorem record_wire_aDataSending :
    let profile : Profile := { config := {}, table := Bg96.tokenTable }
    let wire := after profile {} haltingPort aDataSending
    ((wire.station.callers 0).bind (·.2.value?)).bind (·.toOption) = some 2 ∧
      (wire.record 0).map Prod.snd = some (Text.toBytes "AT+QISEND=3,2" ++ [13, 104, 105]) ∧
      wire.port.written.map List.length = [1, 2, 11, 2] ∧ wire.station.Owned := by
  obtain ⟨howned, -, hwritten, -⟩ :=
    record_wire { config := {}, table := Bg96.tokenTable } {} haltingPort aDataSending 0
  -- the call has ended with its value, so nothing else than what it was to write is recorded
  have haccepted := accepted_of_value hwritten (show _ = some 2 by decide +kernel)
  exact ⟨by decide +kernel, haccepted.trans (by decide +kernel), by decide +kernel, howned⟩

end Wire

end ModemLink
