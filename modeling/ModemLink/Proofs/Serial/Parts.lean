import ModemLink.Bg96.Commands
import ModemLink.Proofs.Engine.Discipline

/-!
# What a request hands over

A request hands its bytes to the link in parts: the command with its terminator, then the payload,
then the end of that.  It hands over a part only once the one before was accepted as a whole, and
ends with a value only once all of them were; and a request that cannot be sent hands over nothing.

`Call.HandsOver` says this of a call, and `Sending.program_handsOver` proves it for every request and
for the sending of data on a socket.
-/

namespace ModemLink

namespace Call

variable {α β : Type}

/-- A call hands over the parts in `left` one after the other, whatever the engine does meanwhile, and
ends as `post` says of its value and of what is left then.  After a part that was not accepted as a
whole it hands over nothing more (`none`). -/
def HandsOver (post : α → Option (List Bytes) → Prop) : Call α → Option (List Bytes) → Prop
  | done value, left => post value left
  | act _ next, left => ∀ engine, (next engine).HandsOver post left
  | acquire next, left => next.HandsOver post left
  | release next, left => next.HandsOver post left
  | transmit bytes _ next, left =>
      ∃ rest, left = some (bytes :: rest) ∧ (next (.ok bytes.length)).HandsOver post (some rest) ∧
        ∀ answer, answer ≠ .ok bytes.length → (next answer).HandsOver post none
  | awaitOutcome _ next, left => ∀ outcome, (next outcome).HandsOver post left
  | awaitLink _ next, left => next.HandsOver post left

variable {mid : α → Option (List Bytes) → Prop} {post : β → Option (List Bytes) → Prop}
  {left : Option (List Bytes)}

theorem HandsOver.bind {call : Call α} {f : α → Call β} (h : call.HandsOver mid left)
    (hnext : ∀ value later, mid value later → (f value).HandsOver post later) :
    (call.bind f).HandsOver post left := by
  induction call generalizing left with
  | done value => exact hnext value left h
  | act change next ih => exact fun engine => ih engine (h engine)
  | acquire next ih => exact ih h
  | release next ih => exact ih h
  | transmit bytes timeout next ih =>
      obtain ⟨rest, hleft, hwhole, hcut⟩ := h
      exact ⟨rest, hleft, ih _ hwhole, fun answer hanswer => ih answer (hcut answer hanswer)⟩
  | awaitOutcome timeout next ih => exact fun outcome => ih outcome (h outcome)
  | awaitLink condition next ih => exact ih h

theorem HandsOver.imp {call : Call α} {weaker : α → Option (List Bytes) → Prop}
    (h : call.HandsOver mid left) (himp : ∀ value later, mid value later → weaker value later) :
    call.HandsOver weaker left := by
  rw [← bind_done call]
  exact h.bind himp

/-- Up to its next suspension a call hands over nothing. -/
theorem HandsOver.advance {call : Call α} (h : call.HandsOver mid left) (engine : Engine) :
    (call.advance engine).2.HandsOver mid left := by
  induction call generalizing engine with
  | act change next ih => exact ih engine (h engine) (change engine)
  | release next ih => exact ih h _
  | _ => exact h

end Call

namespace Caller

variable {α β : Type}

/-- What holds of a value, if there is one. -/
def OnOk (post : α → Option (List Bytes) → Prop) :
    Except Error α → Option (List Bytes) → Prop
  | .ok value, left => post value left
  | .error _, _ => True

/-- The same of a call that may fail: with a value it ends as `post` says. -/
def HandsOver (post : α → Option (List Bytes) → Prop) (caller : Caller α)
    (left : Option (List Bytes)) : Prop :=
  caller.run.HandsOver (OnOk post) left

variable {mid : α → Option (List Bytes) → Prop} {post : β → Option (List Bytes) → Prop}
  {left : Option (List Bytes)}

theorem HandsOver.bind {caller : Caller α} {f : α → Caller β} (h : caller.HandsOver mid left)
    (hnext : ∀ value later, mid value later → (f value).HandsOver post later) :
    (caller >>= f).HandsOver post left := by
  refine Call.HandsOver.bind h fun result later hresult => ?_
  cases result with
  | ok value => exact hnext value later hresult
  | error failure => exact trivial

/-- A result that was computed. -/
theorem handsOver_ofExcept {result : Except Error α}
    (h : ∀ value, result = .ok value → mid value left) :
    (ofExcept result).HandsOver mid left := by
  cases result with
  | ok value => exact h value rfl
  | error failure => exact trivial

/-- What follows a check. -/
theorem handsOver_guard {result : Except Error α} {f : α → Caller β}
    (h : ∀ value, result = .ok value → (f value).HandsOver post left) :
    (ofExcept result >>= f).HandsOver post left := by
  cases result with
  | ok value => exact h value rfl
  | error failure => exact trivial

theorem handsOver_checkOpen (left : Option (List Bytes)) :
    checkOpen.HandsOver (fun _ later => later = left) left :=
  fun _ => handsOver_ofExcept fun _ _ => rfl

theorem handsOver_ask (f : Device → Except Error α) (left : Option (List Bytes)) :
    (ask f).HandsOver (fun _ later => later = left) left := by
  rw [HandsOver, run_ask]
  intro engine
  show OnOk _ (f engine.device) left
  cases f engine.device <;> first | exact rfl | exact trivial

theorem handsOver_exchange (change : Exchange → Exchange) (left : Option (List Bytes)) :
    (exchange change).HandsOver (fun _ later => later = left) left :=
  fun _ => rfl

theorem handsOver_locked {body : Caller α} (h : body.HandsOver mid left) :
    (locked body).HandsOver mid left := by
  show Call.HandsOver _ (body.run.bind fun result => .release (.done result)) left
  exact Call.HandsOver.bind h fun _ _ hresult => hresult

end Caller

/-! ## The parts of a request -/

namespace Request

variable {profile : Profile} {request : Request} {payload : Payload} {bytes : Bytes}
  {rest : List Bytes} {left : Option (List Bytes)}

/-- The whole of a part is accepted, or the request goes no further. -/
theorem handsOver_transmitAll (profile : Profile) (bytes : Bytes) (rest : List Bytes) :
    (transmitAll profile bytes).HandsOver (fun _ later => later = some rest)
      (some (bytes :: rest)) := by
  refine ⟨rest, rfl, ?_, fun answer hanswer => ?_⟩
  · simp only [if_true]
    exact rfl
  · cases answer with
    | error cause => exact trivial
    | ok sent =>
        have hshort : sent ≠ bytes.length := fun heq => hanswer (congrArg Except.ok heq)
        simp only [if_neg hshort]
        exact trivial

theorem handsOver_transmitPayload (profile : Profile) (payload : Payload) :
    (transmitPayload profile payload).HandsOver
      (fun sent later => sent = payload.data.length ∧ later = some [])
      (some (payload.data :: payload.ending.toList)) := by
  unfold transmitPayload
  cases payload.ending with
  | none =>
      refine (handsOver_transmitAll profile payload.data []).bind fun _ later hlater => ?_
      exact ⟨rfl, hlater⟩
  | some ending =>
      refine (handsOver_transmitAll profile payload.data [ending]).bind fun _ later hlater => ?_
      rw [hlater]
      refine (handsOver_transmitAll profile ending []).bind fun _ last hlast => ?_
      exact ⟨rfl, hlast⟩

/-- A command that is withdrawn has been handed over as far as it was. -/
theorem handsOver_withdrawOnFailure {α : Type} {body : Caller α}
    {post : α → Option (List Bytes) → Prop} (h : body.HandsOver post left) :
    (withdrawOnFailure body).HandsOver post left := by
  have hattempt : body.attempt.HandsOver (Caller.OnOk post) left :=
    Call.HandsOver.bind h fun _ _ hresult => hresult
  refine hattempt.bind fun result later hresult => ?_
  cases result with
  | ok value => exact hresult
  | error failure => exact fun _ => trivial

theorem handsOver_awaitStatus (timeout : Nat) (left : Option (List Bytes)) :
    (awaitStatus timeout).HandsOver (fun _ later => later = left) left := by
  intro outcome
  cases outcome with
  | none => exact fun _ => trivial
  | some outcome => cases outcome <;> first | exact rfl | exact trivial

theorem handsOver_exchange (timeout : Nat) (hooks : Hooks) (successTokens : List Text)
    (h : ∀ bytes, request.encode profile.config.terminator = .ok bytes →
      left = some (bytes :: rest)) :
    (exchange profile request timeout hooks successTokens).HandsOver
      (fun _ later => later = some rest) left := by
  unfold exchange
  refine Caller.handsOver_guard fun bytes hencode => ?_
  obtain rfl := h bytes hencode
  refine (Caller.handsOver_exchange _ _).bind fun _ later hlater => ?_
  rw [hlater]
  refine (handsOver_withdrawOnFailure (handsOver_transmitAll profile bytes rest)).bind
    fun _ last hlast => ?_
  rw [hlast]
  exact handsOver_awaitStatus timeout _

/-- A request that is sent hands over its command. -/
theorem handsOver_run {α : Type} {read : Response → Except Error α} (timeout : Nat) (hooks : Hooks)
    (h : request.check = .ok () → ∀ bytes, request.encode profile.config.terminator = .ok bytes →
      left = some [bytes]) :
    (request.run profile timeout hooks read).HandsOver (fun _ later => later = some []) left := by
  refine (Caller.handsOver_checkOpen left).bind fun _ _ hleft => ?_
  rw [hleft]
  refine Caller.handsOver_guard fun _ hcheck => Caller.handsOver_locked ?_
  refine (handsOver_exchange timeout hooks [] (h hcheck)).bind fun status later hlater => ?_
  rw [hlater]
  refine Caller.handsOver_guard fun _ _ engine => ?_
  exact Caller.handsOver_ofExcept fun _ _ => rfl

/-- A payload request that is sent hands over its command, the payload, and the end of that. -/
theorem handsOver_sendPayload (prompt : Bytes → Option Nat) (successTokens : List Text)
    (h : request.check = .ok () → profile.table.checkSuccesses promptTokens = .ok () →
      profile.table.checkSuccesses successTokens = .ok () → payload.check = .ok () →
      ∀ bytes, request.encode profile.config.terminator = .ok bytes →
        left = some (bytes :: payload.data :: payload.ending.toList)) :
    (request.sendPayload profile payload prompt successTokens).HandsOver
      (fun sent later => sent = payload.data.length ∧ later = some []) left := by
  refine (Caller.handsOver_checkOpen left).bind fun _ _ hleft => ?_
  rw [hleft]
  refine Caller.handsOver_guard fun _ hcheck => Caller.handsOver_guard fun _ hprompt =>
    Caller.handsOver_guard fun _ htokens => Caller.handsOver_guard fun _ hpayload => ?_
  -- from here on it is the caller's turn: the command, the payload, and the wait for the result
  refine Caller.handsOver_locked ?_
  refine (handsOver_exchange _ _ _ (h hcheck hprompt htokens hpayload)).bind
    fun status later hlater => ?_
  rw [hlater]
  refine Caller.handsOver_guard fun _ _ => ?_
  refine (Caller.handsOver_exchange _ _).bind fun _ later hlater => ?_
  rw [hlater]
  refine (handsOver_withdrawOnFailure (handsOver_transmitPayload profile payload)).bind
    fun sent last hlast => ?_
  -- nothing is left to hand over, and reading the result hands over nothing
  obtain ⟨rfl, rfl⟩ := hlast
  refine (handsOver_awaitStatus _ _).bind fun status last hlast => ?_
  rw [hlast]
  exact Caller.handsOver_guard fun _ _ => ⟨rfl, rfl⟩

end Request

/-! ## Sendings -/

/-- A request that cannot be sent: its command, its label, or the command with its terminator does
not fit. -/
def Request.Unsendable (profile : Profile) (request : Request) : Prop :=
  request.command = [] ∨ Limits.command < request.command.size ∨ request.kind = .noCommand ∨
    request.labelFits = false ∨
    Limits.commandWithTerminator < (request.command.toBytes ++ profile.config.terminator).length

/-- A text that must not count as success: it is empty, or cannot be told apart from an error. -/
def TokenTable.Unusable {Handler : Type} (table : TokenTable Handler) (token : Text) : Prop :=
  token = [] ∨ ∃ error ∈ table.errors, overlap token error = true

theorem Request.encode_eq_ok {request : Request} {terminator bytes : Bytes}
    (h : request.encode terminator = .ok bytes) :
    bytes = request.command.toBytes ++ terminator ∧
      (request.command.toBytes ++ terminator).length ≤ Limits.commandWithTerminator := by
  unfold encode at h
  simp only at h
  split at h
  next hlength =>
    cases h
    exact ⟨rfl, hlength⟩
  · cases h

theorem Request.not_unsendable {profile : Profile} {request : Request} {bytes : Bytes}
    (hcheck : request.check = .ok ())
    (hencode : request.encode profile.config.terminator = .ok bytes) :
    ¬ request.Unsendable profile := by
  obtain ⟨-, hlength⟩ := encode_eq_ok hencode
  unfold check at hcheck
  split at hcheck
  · cases hcheck
  next hcommand =>
    split at hcheck
    · cases hcheck
    next hkind =>
      split at hcheck
      next hlabel =>
        -- each way of being unsendable fails one of the checks
        rw [not_or] at hcommand
        rintro (hempty | hlong | hnone | hlabel' | htoo)
        · exact hcommand.1 hempty
        · exact hcommand.2 hlong
        · exact hkind hnone
        · rw [hlabel] at hlabel'
          cases hlabel'
        · omega
      · cases hcheck

theorem TokenTable.usable_of_checkSuccesses {Handler : Type} {table : TokenTable Handler}
    {successes : List Text} (h : table.checkSuccesses successes = .ok ()) {token : Text}
    (hmem : token ∈ successes) : ¬ table.Unusable token := by
  unfold checkSuccesses at h
  split at h
  next hall =>
    have htoken := List.all_eq_true.mp hall token hmem
    simp only [Bool.and_eq_true, decide_eq_true_eq, Bool.not_eq_true', List.any_eq_false] at htoken
    rintro (hempty | ⟨error, herror, hoverlap⟩)
    · exact htoken.1 hempty
    · exact htoken.2 error herror hoverlap
  · cases h

theorem Payload.of_check {payload : Payload} (h : payload.check = .ok ()) :
    payload.data ≠ [] ∧ payload.data.length ≤ Limits.sentPayload := by
  unfold check at h
  split at h
  · cases h
  next hpayload =>
    rw [not_or, Nat.not_lt] at hpayload
    exact hpayload

/-- What a caller wants to send. -/
inductive Sending (ρ : Type) where
  | request (job : Job ρ)
  | socketData (handle : SocketHandle) (data : Bytes) (result : Nat → ρ)

namespace Sending

variable {ρ : Type} {profile : Profile}

def program (profile : Profile) : Sending ρ → Call (Except Error ρ)
  | request job => job.program profile
  | socketData handle data result => (result <$> Bg96.sendData profile handle data).run

/-- The command that announces data of a socket. -/
def dataCommand (handle : SocketHandle) (data : Bytes) : Text :=
  "AT+QISEND=".toList ++
    Text.join "," [Text.ofNat handle, Text.ofNat (min data.length Limits.sentPayload)]

/-- The bytes of a command on the wire. -/
def commandBytes (profile : Profile) (command : Text) : Bytes :=
  command.toBytes ++ profile.config.terminator

/-- What is to be written in all. -/
def wire (profile : Profile) : Sending ρ → Bytes
  | .request (.run asked _ _ _) => commandBytes profile asked.command
  | .request (.sendPayload asked payload _ _ _) =>
      commandBytes profile asked.command ++ payload.data ++ payload.ending.getD []
  | .socketData handle data _ =>
      commandBytes profile (dataCommand handle data) ++ data.take Limits.sentPayload

/-- The same in the parts in which it is handed over. -/
def parts (profile : Profile) : Sending ρ → List Bytes
  | .request (.run asked _ _ _) => [commandBytes profile asked.command]
  | .request (.sendPayload asked payload _ _ _) =>
      commandBytes profile asked.command :: payload.data :: payload.ending.toList
  | .socketData handle data _ =>
      [commandBytes profile (dataCommand handle data), data.take Limits.sentPayload]

theorem flatten_parts (sending : Sending ρ) :
    (sending.parts profile).flatten = sending.wire profile := by
  cases sending with
  | request job =>
      cases job with
      | run asked timeout hooks read => simp [parts, wire]
      | sendPayload asked payload prompt successTokens result =>
          cases hending : payload.ending <;> simp [parts, wire, hending]
  | socketData handle data result => simp [parts, wire]

/-- What must not be sent. -/
def Refused (profile : Profile) : Sending ρ → Prop
  | .request (.run asked _ _ _) => asked.Unsendable profile
  | .request (.sendPayload asked payload _ successTokens _) =>
      asked.Unsendable profile ∨ payload.data = [] ∨
        Limits.sentPayload < payload.data.length ∨
        ∃ token ∈ Request.promptTokens ++ successTokens, profile.table.Unusable token
  | .socketData _ data _ => data = []

/-- The number of payload bytes is what a sending of payload ends with. -/
def Yields : Sending ρ → ρ → Prop
  | .request (.run _ _ _ _), _ => True
  | .request (.sendPayload _ payload _ _ result), value => value = result payload.data.length
  | .socketData _ data result, value => value = result (min data.length Limits.sentPayload)

/-- Everything was handed over, and the value is the right one. -/
def Completes (sending : Sending ρ) (value : ρ) (left : Option (List Bytes)) : Prop :=
  sending.Yields value ∧ left = some []

variable {left : Option (List Bytes)}

theorem run_handsOver {asked : Request} {timeout : Nat} {hooks : Hooks}
    {read : Response → Except Error ρ}
    (h : ¬ asked.Unsendable profile → left = some [commandBytes profile asked.command]) :
    (asked.run profile timeout hooks read).HandsOver (fun _ later => later = some []) left := by
  refine Request.handsOver_run timeout hooks fun hcheck bytes hencode => ?_
  rw [(Request.encode_eq_ok hencode).1]
  exact h (Request.not_unsendable hcheck hencode)

theorem sendPayload_handsOver {asked : Request} {payload : Payload} {prompt : Bytes → Option Nat}
    {successTokens : List Text} {result : Nat → ρ}
    (h : ¬ (Sending.request (.sendPayload asked payload prompt successTokens result)).Refused
        profile →
      left = some (commandBytes profile asked.command :: payload.data :: payload.ending.toList)) :
    (asked.sendPayload profile payload prompt successTokens).HandsOver
      (fun sent later => sent = payload.data.length ∧ later = some []) left := by
  refine Request.handsOver_sendPayload prompt successTokens
    fun hcheck hprompt htokens hpayload bytes hencode => ?_
  rw [(Request.encode_eq_ok hencode).1]
  -- all checks have passed, so none of the reasons to refuse the sending holds
  refine h ?_
  obtain ⟨hempty, hlong⟩ := Payload.of_check hpayload
  rintro (hunsendable | hnone | htoo | ⟨token, htoken, hunusable⟩)
  · exact Request.not_unsendable hcheck hencode hunsendable
  · exact hempty hnone
  · exact absurd hlong (Nat.not_le.mpr htoo)
  · rcases List.mem_append.mp htoken with hmem | hmem
    · exact TokenTable.usable_of_checkSuccesses hprompt hmem hunusable
    · exact TokenTable.usable_of_checkSuccesses htokens hmem hunusable

/-- The result of a call is put into another form. -/
theorem map_handsOver {caller : Caller Nat} {result : Nat → ρ} {sending : Sending ρ} {count : Nat}
    (h : caller.HandsOver (fun sent later => sent = count ∧ later = some []) left)
    (hyields : sending.Yields (result count)) :
    (result <$> caller).HandsOver sending.Completes left := by
  refine Call.HandsOver.bind h fun sent later hsent => ?_
  cases sent with
  | error failure => exact trivial
  | ok sent =>
      obtain ⟨rfl, rfl⟩ := hsent
      exact ⟨hyields, rfl⟩

/-- A payload without an end. -/
theorem plain_handsOver (command : Text) (payload : Payload) (prompt : Bytes → Option Nat)
    (hending : payload.ending = none)
    (h : left = some [commandBytes profile command, payload.data]) :
    ((Bg96.plain command).sendPayload profile payload prompt []).HandsOver
      (fun sent later => sent = payload.data.length ∧ later = some []) left := by
  refine Request.handsOver_sendPayload prompt [] fun _ _ _ _ bytes hencode => ?_
  rw [(Request.encode_eq_ok hencode).1, hending]
  exact h

theorem length_take_sentPayload (data : Bytes) :
    (data.take Limits.sentPayload).length = min data.length Limits.sentPayload := by
  rw [List.length_take, Nat.min_comm]

theorem sendData_handsOver (handle : SocketHandle) (data : Bytes)
    (h : data ≠ [] → left = some
      [commandBytes profile (dataCommand handle data), data.take Limits.sentPayload]) :
    (Bg96.sendData profile handle data).HandsOver
      (fun sent later => sent = (data.take Limits.sentPayload).length ∧ later = some []) left := by
  unfold Bg96.sendData
  refine (Caller.handsOver_ask _ left).bind fun socket later hlater => ?_
  rw [hlater]
  refine Caller.handsOver_guard fun _ _ => ?_
  by_cases hdata : data = []
  · simp only [hdata, if_true]
    exact trivial
  · simp only [hdata, if_false]
    refine plain_handsOver _ { data := data.take Limits.sentPayload } _ rfl ?_
    rw [h hdata]
    unfold dataCommand
    rw [← length_take_sentPayload]

/-- Every sending hands over its parts in their order, unless it is refused. -/
theorem program_handsOver (sending : Sending ρ)
    (h : ¬ sending.Refused profile → left = some (sending.parts profile)) :
    (sending.program profile).HandsOver (Caller.OnOk sending.Completes) left := by
  cases sending with
  | request job =>
      cases job with
      | run asked timeout hooks read =>
          refine Call.HandsOver.imp (run_handsOver h) fun result later hresult => ?_
          cases result with
          | ok value => exact ⟨trivial, hresult⟩
          | error failure => exact trivial
      | sendPayload asked payload prompt successTokens result =>
          exact map_handsOver (sendPayload_handsOver h) rfl
  | socketData handle data result =>
      refine map_handsOver (sendData_handsOver handle data h) ?_
      rw [Yields, length_take_sentPayload]

end Sending

end ModemLink
