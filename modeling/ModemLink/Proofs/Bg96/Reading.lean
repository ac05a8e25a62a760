import ModemLink.Bg96.Commands
import ModemLink.Proofs.Bg96.Announcement
import ModemLink.Proofs.Engine.Scene

/-!
# Reading the data of a socket

The modem answers a read with the header `+QIRD: <length>`, the data as it is, and `OK`.  Unsolicited
lines may stand before the header and between the data and `OK`.

* `receiveData_asks`: a read that can be sent is a request for such an answer.
* `delivers_lines`, `delivers_header`, `delivers_payload` and `delivers_ok`: what the receive loop
  does with each part of the answer, while the read is in flight.
* `answered`: what the engine is when all of it has been handled.

`receiveData_transparent` puts them together: whatever the data is and however the answer is cut, the
read ends with the data, and the data was handled as payload and as nothing else.
-/

namespace ModemLink.Bg96

open Framing

/-! ## The request -/

/-- The request that reads at most `capacity` bytes. -/
def readRequest (handle : SocketHandle) (capacity : Nat) : Request :=
  { command := "AT+QIRD=".toList
      ++ Text.join "," [Text.ofNat handle, Text.ofNat (min capacity Limits.receivedPayload)]
    kind := .manyLinesWithData
    label := some "+QIRD" }

theorem check_readRequest {handle : SocketHandle} (h : handle < Limits.sockets) (capacity : Nat) :
    (readRequest handle capacity).check = .ok () := by
  -- handles have two digits and lengths four, so the command is far below its limit
  have hhandle : (Text.ofNat handle).size ≤ 2 :=
    Text.size_ofNat_le (by decide) (Nat.lt_of_lt_of_le h (by decide))
  have hlength : (Text.ofNat (min capacity Limits.receivedPayload)).size ≤ 4 :=
    Text.size_ofNat_le (by decide) (Nat.lt_of_le_of_lt (Nat.min_le_right _ _) (by decide))
  have hsize : (readRequest handle capacity).command.size ≤ Limits.command := by
    calc (readRequest handle capacity).command.size
        = Text.size "AT+QIRD=".toList + ((Text.ofNat handle).size + Text.size ",".toList
            + (Text.ofNat (min capacity Limits.receivedPayload)).size) := by
          rw [← Text.size_append, ← Text.size_append, ← Text.size_append]
          rfl
      _ ≤ 8 + (2 + 1 + 4) := by
          exact Nat.add_le_add (Nat.le_refl 8)
            (Nat.add_le_add (Nat.add_le_add hhandle (Nat.le_refl 1)) hlength)
      _ ≤ Limits.command := by decide
  have hne : (readRequest handle capacity).command ≠ [] :=
    List.append_ne_nil_of_left_ne_nil (by decide) _
  have hkind : (readRequest handle capacity).kind ≠ .noCommand := nofun
  have hlabel : (readRequest handle capacity).labelFits = true := rfl
  unfold Request.check
  rw [if_neg (fun hbad => hbad.elim hne (Nat.not_lt.mpr hsize)), if_neg hkind, if_pos hlabel]

variable {config : Config} {handle : SocketHandle} {capacity : Nat} {bytes : Bytes}

/-- A read of a connected socket that can be sent is a request for data. -/
theorem receiveData_asks (profile : Profile) {engine : Engine} {socket : Socket}
    (hopen : engine.link = .opened) (hsocket : engine.device.sockets.info handle = .ok socket)
    (hconnected : socket.state = .connected) (hcapacity : 0 < capacity)
    (hencode : (readRequest handle capacity).encode profile.config.terminator = .ok bytes) :
    ∃ call, (receiveData profile handle capacity).run.advance engine = (engine, call) ∧
      call.Asks readCommand bytes fun response => .ok (response.data.take capacity) := by
  have hhandle : handle < Limits.sockets := by
    unfold SocketTable.info SocketTable.ask at hsocket
    split at hsocket
    · cases hsocket
    next found hget => exact SocketTable.lt_of_get? hget
  have hcheck : checkConnected socket = .ok () := by rw [checkConnected, hconnected]
  obtain ⟨call, hadvance, hasks⟩ : ∃ call, ((readRequest handle capacity).sendWithHeader profile
      payloadHeader fun response => .ok (response.data.take capacity)).run.advance engine =
        (engine, call) ∧ call.Asks readCommand bytes fun response =>
          .ok (response.data.take capacity) :=
    Request.run_asks hopen (check_readRequest hhandle capacity) hencode
  refine ⟨call, ?_, hasks⟩
  unfold receiveData
  rw [Caller.advance_bind_of_ok (Caller.advance_ask hsocket), hcheck,
    Caller.advance_bind_of_ok (Caller.advance_ofExcept engine _)]
  simp only [Nat.pos_iff_ne_zero.mp hcapacity, if_false]
  exact hadvance

/-! ## Lines beside the data -/

/-- Lines, each with its end. -/
def terminated (lines : List Text) : Bytes := lines.flatMap fun line => line.toBytes ++ crlf

/-- The frames of lines.  Blank lines are none. -/
def lineFrames (lines : List Text) : List Frame :=
  (lines.filter (· ≠ [])).map fun (line : Text) => .line line.toBytes

/-- What unsolicited lines do to a device. -/
def dispatchAll (device : Device) (lines : List Text) : Device :=
  (lines.filter (· ≠ [])).foldl (Device.dispatch tokenTable) device

/-- A line that may stand beside the data: blank, or unsolicited for a read.  It holds no line end. -/
def Beside (ending : LineEnding) (line : Text) : Prop :=
  line = [] ∨ LineRole.of tokenTable (some readCommand) line = .unsolicited ∧
    ∀ inner, EndsLine ending inner → ¬ inner <:+: line.toBytes

section

variable {ending : LineEnding} {line : Text}

theorem Beside.blank : Beside ending [] := .inl rfl

theorem Beside.of_unsolicited (hrole : LineRole.of tokenTable (some readCommand) line = .unsolicited)
    (h : line.toBytes.any ReadBuffer.isLineEnd = false) : Beside ending line := by
  by_cases hbytes : line.toBytes = []
  · refine .inr ⟨hrole, fun inner hend hinner => ?_⟩
    rw [hbytes, List.infix_nil] at hinner
    subst hinner
    cases hend
  · exact .inr ⟨hrole, (ProperLine.of_any hbytes h).inner⟩

/-- What a read takes for an unsolicited line is listed, or it is short and does not begin with the
label of a read. -/
theorem unsolicited_cases (h : LineRole.of tokenTable (some readCommand) line = .unsolicited) :
    tokenTable.isBareUrc line = true ∨ line.size ≤ Limits.line ∧ ¬ "+QIRD".toList <+: line := by
  unfold LineRole.of at h
  split at h
  next hbare => exact .inl hbare
  simp only at h
  split at h
  next hform =>
    right
    unfold Text.hasPrefixForm at hform
    rw [Bool.and_eq_true, decide_eq_true_eq] at hform
    refine ⟨hform.1.2, fun hlabel => ?_⟩
    have hbegins : line.beginsWith "+QIRD".toList = true := Text.beginsWith_iff.mpr hlabel
    have hbounded : Text.Bounded "+QIRD".toList := by decide
    have hlabels : readCommand.labels line = true := by
      simp only [InFlight.labels, readCommand, Text.startsWith, Text.guarded, if_pos hform.1,
        if_pos hbounded, hbegins]
    rw [if_pos ⟨nofun, hlabels⟩] at h
    cases h
  · -- a read takes every line without the form of a report as part of its answer
    have htakes : readCommand.kind ≠ .noCommand ∧
        (readCommand.label = none ∨ readCommand.kind.allowsUnlabelledLines = true) :=
      ⟨nofun, .inr rfl⟩
    rw [if_pos htakes] at h
    cases h

theorem bareUrc_cases (h : tokenTable.isBareUrc line = true) :
    line = "NORMAL POWER DOWN".toList ∨ line = "PSM POWER DOWN".toList ∨ line = "RDY".toList := by
  simpa [TokenTable.isBareUrc, tokenTable] using h

theorem size_of_unsolicited (h : LineRole.of tokenTable (some readCommand) line = .unsolicited) :
    line.size ≤ Limits.line := by
  rcases unsolicited_cases h with hbare | ⟨hsize, -⟩
  · rcases bareUrc_cases hbare with rfl | rfl | rfl <;> decide
  · exact hsize

theorem not_label_of_unsolicited
    (h : LineRole.of tokenTable (some readCommand) line = .unsolicited) :
    ¬ "+QIRD".toList <+: line := by
  rcases unsolicited_cases h with hbare | ⟨-, hlabel⟩
  · rcases bareUrc_cases hbare with rfl | rfl | rfl <;> decide
  · exact hlabel

/-- A line that does not begin with the label of a read is no header. -/
theorem payloadHeader_absent (h : ¬ "+QIRD".toList <+: line) :
    payloadHeader (line.toBytes ++ crlf) = .absent := by
  have hcr : (13 : UInt8) ∉ payloadMark := by decide
  have hmark : ¬ payloadMark <+: line.toBytes ++ crlf := by
    intro hmark
    rcases List.prefix_or_prefix_of_prefix hmark (List.prefix_append line.toBytes crlf)
      with hprefix | ⟨behind, hbehind⟩
    · have hline : "+QIRD: ".toList <+: line := Text.prefix_of_toBytes_prefix (by decide) hprefix
      exact h (List.IsPrefix.trans (by decide) hline)
    · -- what the mark goes on with would be the line end
      cases behind with
      | nil =>
          rw [List.append_nil] at hbehind
          have hline : "+QIRD: ".toList <+: line :=
            Text.prefix_of_toBytes_prefix (by decide) (hbehind ▸ List.prefix_refl _)
          exact h (List.IsPrefix.trans (by decide) hline)
      | cons first behind =>
          rw [← hbehind, List.prefix_append_right_inj] at hmark
          obtain ⟨rfl, -⟩ := List.cons_prefix_cons.mp hmark
          exact hcr (hbehind ▸ List.mem_append_right _ List.mem_cons_self)
  have hshort : ¬ line.toBytes ++ crlf <+: payloadMark := fun hshorter =>
    hcr (hshorter.subset (List.mem_append_right _ List.mem_cons_self))
  rw [payloadHeader_of_not_mark hmark, if_neg hshort]

end

/-! ## The answer, part by part -/

/-- The receive loop of an engine with the tokens of the BG96, which remembers the frames. -/
abbrev loop : Reader (Engine × List Frame) := (engineReader tokenTable).logged

/-- The engine waits for the answer to a read. -/
structure Reads (engine : Engine) : Prop where
  inFlight_eq : engine.exchange.inFlight = some readCommand
  outcome_eq : engine.exchange.outcome = none

section

variable {ending : LineEnding} {engine : Engine} {frames : List Frame} {rest : Bytes}
  {final : Engine × List Frame}

theorem Reads.hooks_eq (h : Reads engine) : engine.exchange.hooks = readHooks := by
  rw [Exchange.hooks, h.inFlight_eq]
  rfl

theorem Reads.settled (h : Reads engine) (frames : List Frame) :
    (loop.hooks (engine, frames)).Settled := by
  show engine.exchange.hooks.Settled
  rw [h.hooks_eq]
  exact readHooks_settled

theorem Reads.handle_unsolicited (h : Reads engine) (frames : List Frame) {line : Text}
    (hrole : LineRole.of tokenTable (some readCommand) line = .unsolicited) :
    loop.handle (engine, frames) (.line line.toBytes) none =
      ({ engine with device := engine.device.dispatch tokenTable line },
        frames ++ [.line line.toBytes]) := by
  have hapart : LineRole.of tokenTable engine.exchange.inFlight line ≠ .solicited := by
    rw [h.inFlight_eq, hrole]
    nofun
  exact Prod.ext ((engine.handleFrame_line_toBytes tokenTable line).trans
    (Engine.handleLine_of_ne_solicited hapart)) rfl

/-- Unsolicited lines and blank lines change the device only. -/
theorem delivers_lines {lines : List Text} (hlines : ∀ line ∈ lines, Beside ending line)
    (h : Reads engine)
    (next : Delivers ending loop Scene.Pending
      ({ engine with device := dispatchAll engine.device lines }, frames ++ lineFrames lines)
      ⟨rest, none⟩ final) :
    Delivers ending loop Scene.Pending (engine, frames) ⟨terminated lines ++ rest, none⟩ final := by
  -- line by line; each is passed as blank or dispatched, and the read stays in flight
  induction lines generalizing engine frames with
  | nil =>
      rw [lineFrames, List.filter_nil, List.map_nil, List.append_nil] at next
      exact next
  | cons line lines ih =>
      have hothers : ∀ other ∈ lines, Beside ending other :=
        fun other hother => hlines other (List.mem_cons_of_mem _ hother)
      have hsplit : terminated (line :: lines) ++ rest =
          line.toBytes ++ crlf ++ (terminated lines ++ rest) := by
        rw [terminated, List.flatMap_cons, List.append_assoc]
        rfl
      rw [hsplit]
      rcases hlines line List.mem_cons_self with rfl | ⟨hrole, hinner⟩
      · exact .blank (ih hothers h next)
      · have hne : line ≠ [] := by
          rintro rfl
          exact absurd hrole (by decide)
        have hbytes : line.toBytes ≠ [] := by
          intro hnil
          have hsize := Text.length_le_size line
          rw [← Text.length_toBytes, hnil] at hsize
          exact hne (List.eq_nil_of_length_eq_zero (Nat.le_zero.mp hsize))
        have habsent : (loop.hooks (engine, frames)).headerMatch (line.toBytes ++ crlf) =
            .absent := by
          show engine.exchange.hooks.headerMatch _ = _
          rw [h.hooks_eq]
          exact payloadHeader_absent (not_label_of_unsolicited hrole)
        have hshort : line.toBytes.length + 2 ≤ Limits.readBuffer := by
          have hsize := size_of_unsolicited hrole
          rw [Text.length_toBytes]
          exact Nat.le_trans (Nat.add_le_add_right hsize 2) (by decide)
        refine .line ⟨hbytes, hinner⟩ h.outcome_eq (h.settled frames) habsent hshort ?_
        rw [h.handle_unsolicited frames hrole]
        refine ih hothers ⟨h.inFlight_eq, h.outcome_eq⟩ ?_
        have hfilter : (line :: lines).filter (· ≠ []) = line :: lines.filter (· ≠ []) :=
          List.filter_cons_of_pos (by simpa using hne)
        rw [lineFrames, dispatchAll, hfilter] at next
        rw [List.append_assoc]
        exact next

/-- What the engine becomes when the header has arrived. -/
def announced (engine : Engine) (n : Nat) : Engine :=
  { engine with
    exchange := { engine.exchange with
      response := { engine.exchange.response with lines := [headerLine n] } } }

theorem size_headerLine {n : Nat} (h : n ≤ Limits.receivedPayload) : (headerLine n).size ≤ 11 := by
  have hdigits : (Text.ofNat n).size ≤ 4 :=
    Text.size_ofNat_le (by decide) (Nat.lt_of_le_of_lt h (by decide))
  unfold headerLine
  rw [Text.size_append]
  exact Nat.add_le_add (Nat.le_refl 7) hdigits

theorem role_headerLine {n : Nat} (h : n ≤ Limits.receivedPayload) :
    LineRole.of tokenTable (some readCommand) (headerLine n) = .solicited := by
  -- the header is not listed, has the form of a report and carries the label of the read
  have hbare : tokenTable.isBareUrc (headerLine n) = false := by
    refine Bool.eq_false_iff.mpr fun hbare => ?_
    rcases bareUrc_cases hbare with heq | heq | heq <;> cases heq
  have hbounded : (headerLine n).Bounded :=
    ⟨nofun, Nat.le_trans (size_headerLine h) (by decide)⟩
  have hform : (headerLine n).hasPrefixForm = true := by
    unfold Text.hasPrefixForm
    rw [decide_eq_true hbounded]
    rfl
  have hlabels : readCommand.labels (headerLine n) = true := by
    have hlabel : Text.Bounded "+QIRD".toList := by decide
    simp only [InFlight.labels, readCommand, Text.startsWith, Text.guarded, if_pos hbounded,
      if_pos hlabel]
    rfl
  unfold LineRole.of
  rw [hbare, if_neg Bool.false_ne_true]
  simp only [hform, hlabels, if_true, and_true]
  exact if_pos nofun

theorem matchesAny_eq_false {line : Text} {tokens : List Text}
    (h : ∀ token ∈ tokens, line.beginsWith token = false) :
    TokenTable.matchesAny line tokens = false := by
  have hany : (tokens.any fun key => key.Bounded && line.beginsWith key) = false := by
    rw [List.any_eq_false]
    intro token hmem
    rw [h token hmem, Bool.and_false]
    exact Bool.false_ne_true
  unfold TokenTable.matchesAny Text.startsWithAny Text.guarded
  rw [hany]
  -- the guard may refuse the line as well, and then nothing matches either
  split
  next hok =>
    split at hok <;> cases hok
    rfl
  · rfl

/-- A token that cannot be confused with the mark does not begin a header. -/
theorem beginsWith_headerLine {n : Nat} {token : Text}
    (h : TokenTable.overlap "+QIRD: ".toList token = false) :
    (headerLine n).beginsWith token = false := by
  refine Bool.eq_false_iff.mpr fun hbegins => ?_
  have hmark : "+QIRD: ".toList <+: headerLine n := List.prefix_append _ _
  rw [TokenTable.overlap, Bool.or_eq_false_iff] at h
  rcases List.prefix_or_prefix_of_prefix (Text.beginsWith_iff.mp hbegins) hmark with hp | hp
  · exact Bool.eq_false_iff.mp h.1 (Text.beginsWith_iff.mpr hp)
  · exact Bool.eq_false_iff.mp h.2 (Text.beginsWith_iff.mpr hp)

/-- The header is no final result code. -/
theorem matchesAny_headerLine {n : Nat} {tokens : List Text}
    (h : ∀ token ∈ tokens, TokenTable.overlap "+QIRD: ".toList token = false) :
    TokenTable.matchesAny (headerLine n) tokens = false :=
  matchesAny_eq_false fun token hmem => beginsWith_headerLine (h token hmem)

theorem feed_headerLine {n : Nat} (h : n ≤ Limits.receivedPayload) {response : Response}
    (hempty : response.lines = []) :
    response.feed tokenTable readCommand (headerLine n) =
      ({ response with lines := [headerLine n] }, none) := by
  -- no result code begins the header, so the line is kept as the first of the response
  have hsuccess : tokenTable.isSuccess readCommand.successTokens (headerLine n) = false := by
    have hsuccesses : TokenTable.matchesAny (headerLine n) tokenTable.successes = false :=
      matchesAny_headerLine (by decide)
    have hnone : TokenTable.matchesAny (headerLine n) [] = false := matchesAny_headerLine nofun
    unfold TokenTable.isSuccess
    rw [hsuccesses, Bool.or_false]
    exact Bool.or_eq_false_iff.mpr ⟨hnone, hnone⟩
  have herror : tokenTable.isError (headerLine n) = false := matchesAny_headerLine (by decide)
  have hroom : (headerLine n).size ≤ Limits.line ∧
      response.lines.length < Limits.responseLines := by
    rw [hempty]
    exact ⟨Nat.le_trans (size_headerLine h) (by decide), by decide⟩
  have hpush : response.pushLine? (headerLine n) =
      some { response with lines := [headerLine n] } := by
    unfold Response.pushLine?
    rw [if_pos hroom, hempty]
    rfl
  have hmany : ¬ (readCommand.kind.isSingleLine = true ∧ response.lines ≠ []) := nofun
  unfold Response.feed Response.feedIntermediate
  rw [hsuccess, if_neg Bool.false_ne_true, herror, if_neg Bool.false_ne_true, if_neg hmany, hpush]
  rfl

/-- The header is kept, and the read goes on. -/
theorem handleLine_headerLine {n : Nat} (h : n ≤ Limits.receivedPayload) (hreads : Reads engine)
    (hempty : engine.exchange.response.lines = []) :
    engine.handleLine tokenTable (headerLine n) = announced engine n := by
  have hfeed : engine.exchange.feed tokenTable readCommand (headerLine n) =
      { engine.exchange with
        response := { engine.exchange.response with lines := [headerLine n] } } := by
    unfold Exchange.feed
    rw [feed_headerLine h hempty]
  rw [Engine.handleLine_of_solicited hreads.inFlight_eq (role_headerLine h), hfeed]
  rfl

/-- The frames of a payload.  One without bytes is none. -/
def payloadFrames (payload : Bytes) : List Frame := if payload = [] then [] else [.payload payload]

/-- What the engine becomes when the payload has arrived. -/
def loaded (engine : Engine) (payload : Bytes) : Engine :=
  { engine with
    exchange := { engine.exchange with
      response := { engine.exchange.response with
        lines := [headerLine payload.length], data := payload } } }

theorem handle_payload {payload : Bytes} (hlength : payload.length ≤ Limits.receivedPayload)
    (hreads : Reads engine) (hempty : engine.exchange.response = .empty) :
    (announced engine payload.length).handleFrame tokenTable (.payload payload) =
      loaded engine payload := by
  have hroom : engine.exchange.response.data.length + payload.length ≤ Limits.receivedPayload := by
    rw [hempty]
    exact (Nat.zero_add _).symm ▸ hlength
  have hdata : engine.exchange.response.data ++ payload = payload := by
    rw [hempty]
    rfl
  unfold Engine.handleFrame Exchange.receivePayload
  simp only [announced, hreads.inFlight_eq, Response.pushData?]
  rw [if_pos hroom, hdata]
  simp only [loaded, hreads.inFlight_eq]

/-- The header announces what it says. -/
theorem delivers_header {n : Nat} (hlength : n ≤ Limits.receivedPayload) (hreads : Reads engine)
    (hempty : engine.exchange.response.lines = [])
    (next : Delivers ending loop Scene.Pending
      (announced engine n, frames ++ [.line (headerLine n).toBytes])
      ⟨rest, if n = 0 then none else some n⟩ final) :
    Delivers ending loop Scene.Pending (engine, frames)
      ⟨(headerLine n).toBytes ++ crlf ++ rest, none⟩ final := by
  have hne : (headerLine n).toBytes ≠ [] := by
    rw [toBytes_headerLine]
    exact List.append_ne_nil_of_left_ne_nil (by decide) _
  have hform : HeaderForm ((headerLine n).toBytes ++ crlf) (headerLine n).toBytes crlf [] :=
    ⟨(List.append_nil _).symm, .inr (.inr rfl), hne, fun _ => isLineEnd_of_mem_headerLine⟩
  have hproper : ProperLine ending (headerLine n).toBytes :=
    .of_any hne (List.any_eq_false.mpr fun byte hbyte =>
      Bool.eq_false_iff.mp (isLineEnd_of_mem_headerLine hbyte))
  -- the hook of the read finds the header as soon as its line end is there
  have hfound : (loop.hooks (engine, frames)).headerMatch ((headerLine n).toBytes ++ crlf) =
      .found ((headerLine n).toBytes.length + crlf.length) n := by
    show engine.exchange.hooks.headerMatch _ = _
    rw [hreads.hooks_eq, headerMatch_readHooks]
    exact payloadHeader_headerLine hlength
  have hshort : (headerLine n).toBytes.length + 2 ≤ Limits.readBuffer := by
    rw [Text.length_toBytes]
    exact Nat.le_trans (Nat.add_le_add_right (size_headerLine hlength) 2) (by decide)
  have hhandle : ∀ owed, loop.handle (engine, frames) (.line (headerLine n).toBytes) owed =
      (announced engine n, frames ++ [.line (headerLine n).toBytes]) := by
    intro owed
    exact Prod.ext ((engine.handleFrame_line_toBytes tokenTable _).trans
      (handleLine_headerLine hlength hreads hempty)) rfl
  refine .header hproper hreads.outcome_eq (hreads.settled frames) hform hfound hshort ?_
  rw [hhandle]
  exact next

/-- The payload that was announced is taken as it is. -/
theorem delivers_payload {payload : Bytes} (hlength : payload.length ≤ Limits.receivedPayload)
    (hreads : Reads engine) (hempty : engine.exchange.response = .empty)
    (next : Delivers ending loop Scene.Pending
      (loaded engine payload, frames ++ payloadFrames payload) ⟨rest, none⟩ final) :
    Delivers ending loop Scene.Pending (announced engine payload.length, frames)
      ⟨payload ++ rest, if payload.length = 0 then none else some payload.length⟩ final := by
  by_cases hpayload : payload = []
  · -- nothing is owed
    subst hpayload
    have hsame : loaded engine [] = announced engine 0 := by
      unfold loaded announced
      rw [hempty]
      rfl
    rw [hsame, payloadFrames, if_pos rfl, List.append_nil] at next
    exact next
  · -- the payload is owed, and is handed over in one frame
    have hpositive : payload.length ≠ 0 := fun hzero =>
      hpayload (List.eq_nil_of_length_eq_zero hzero)
    have hannounced : Reads (announced engine payload.length) :=
      ⟨hreads.inFlight_eq, hreads.outcome_eq⟩
    have hhandle : loop.handle (announced engine payload.length, frames) (.payload payload) none =
        (loaded engine payload, frames ++ [.payload payload]) :=
      Prod.ext (handle_payload hlength hreads hempty) rfl
    rw [payloadFrames, if_neg hpayload] at next
    rw [if_neg hpositive]
    refine .payload hannounced.outcome_eq (hannounced.settled _)
      (Nat.le_trans hlength (by decide)) ?_
    rw [hhandle]
    exact next

/-- What the engine becomes when the answer is complete. -/
def succeeded (engine : Engine) : Engine :=
  { engine with
    exchange :=
      { inFlight := none
        response := { engine.exchange.response with status := .success }
        outcome := some (.ok .success) } }

theorem handleLine_ok (hreads : Reads engine) :
    engine.handleLine tokenTable "OK".toList = succeeded engine := by
  have hrole : LineRole.of tokenTable (some readCommand) "OK".toList = .solicited := by decide
  have hsuccess : tokenTable.isSuccess readCommand.successTokens "OK".toList = true := by decide
  have hfeed : engine.exchange.response.feed tokenTable readCommand "OK".toList =
      engine.exchange.response.finish .success := by
    unfold Response.feed
    rw [hsuccess, if_pos rfl]
    rfl
  rw [Engine.handleLine_of_solicited hreads.inFlight_eq hrole, Exchange.feed, hfeed]
  simp only [Response.finish, Exchange.complete, hreads.inFlight_eq, Option.isSome_some, if_true]
  rfl

/-- The result code ends the answer. -/
theorem delivers_ok (hreads : Reads engine) :
    Delivers ending loop Scene.Pending (engine, frames) ⟨Text.toBytes "OK" ++ crlf ++ [], none⟩
      (succeeded engine, frames ++ [Frame.line (Text.toBytes "OK")]) := by
  have hproper : ProperLine ending (Text.toBytes "OK") := .of_any (by decide) (by decide)
  have habsent : (loop.hooks (engine, frames)).headerMatch (Text.toBytes "OK" ++ crlf) =
      .absent := by
    show engine.exchange.hooks.headerMatch _ = _
    rw [hreads.hooks_eq]
    exact payloadHeader_absent (by decide)
  have hhandle : loop.handle (engine, frames) (.line (Text.toBytes "OK")) none =
      (succeeded engine, frames ++ [Frame.line (Text.toBytes "OK")]) :=
    Prod.ext ((engine.handleFrame_line_toBytes tokenTable _).trans (handleLine_ok hreads)) rfl
  refine .line hproper hreads.outcome_eq (hreads.settled frames) habsent (by decide) ?_
  rw [hhandle]
  exact .ends (ReadBuffer.waiting_empty ending)

/-! ## The whole answer -/

/-- What the modem answers to a read, with other lines around. -/
def readAnswer (before : List Text) (payload : Bytes) (between : List Text) : Bytes :=
  terminated before ++ (headerLine payload.length).toBytes ++ crlf ++ payload
    ++ terminated between ++ Text.toBytes "OK" ++ crlf

/-- The frames of the answer. -/
def readFrames (before : List Text) (payload : Bytes) (between : List Text) : List Frame :=
  lineFrames before ++ Frame.line (headerLine payload.length).toBytes :: payloadFrames payload
    ++ lineFrames between ++ [Frame.line (Text.toBytes "OK")]

/-- The engine when the whole answer has arrived. -/
def answered (engine : Engine) (before : List Text) (payload : Bytes) (between : List Text) :
    Engine :=
  { engine with
    exchange :=
      { inFlight := none
        response :=
          { status := .success, lines := [headerLine payload.length], data := payload }
        outcome := some (.ok .success) }
    device := dispatchAll engine.device (before ++ between) }

theorem delivers_answer {before between : List Text} {payload : Bytes}
    (hbefore : ∀ line ∈ before, Beside ending line)
    (hbetween : ∀ line ∈ between, Beside ending line)
    (hlength : payload.length ≤ Limits.receivedPayload) (hreads : Reads engine)
    (hempty : engine.exchange.response = .empty) :
    Delivers ending loop Scene.Pending (engine, frames) ⟨readAnswer before payload between, none⟩
      (answered engine before payload between, frames ++ readFrames before payload between) := by
  have hbytes : readAnswer before payload between = terminated before ++
      ((headerLine payload.length).toBytes ++ crlf ++
        (payload ++ (terminated between ++ (Text.toBytes "OK" ++ crlf ++ [])))) := by
    simp only [readAnswer, List.append_assoc, List.append_nil]
  have hframes : frames ++ readFrames before payload between = frames ++ lineFrames before
      ++ [.line (headerLine payload.length).toBytes] ++ payloadFrames payload
      ++ lineFrames between ++ [.line (Text.toBytes "OK")] := by
    simp only [readFrames, List.append_assoc, List.cons_append, List.nil_append]
  have hdevice : dispatchAll engine.device (before ++ between) =
      dispatchAll (dispatchAll engine.device before) between := by
    unfold dispatchAll
    rw [List.filter_append, List.foldl_append]
  -- part by part, each from where the engine was left by the one before
  rw [hbytes, hframes, answered, hdevice]
  refine delivers_lines hbefore hreads ?_
  refine delivers_header hlength ⟨hreads.inFlight_eq, hreads.outcome_eq⟩
    (congrArg Response.lines hempty) ?_
  refine delivers_payload hlength ⟨hreads.inFlight_eq, hreads.outcome_eq⟩ hempty ?_
  refine delivers_lines hbetween ⟨hreads.inFlight_eq, hreads.outcome_eq⟩ ?_
  exact delivers_ok ⟨hreads.inFlight_eq, hreads.outcome_eq⟩

end

/-- A read of a connected socket, on an open link and into a buffer that is not empty, returns what
the modem sends, whatever the bytes are, as far as there is room for it.  The command is installed
while nothing waits in the read buffer; after that chunks arrive, the link accepts the command and
the caller gets its turns in any order, but no time runs out and the link stays up.

The payload is handled as payload, and only the lines around it as lines.  The device is what the
unsolicited lines make of it. -/
theorem receiveData_transparent {config : Config} {handle : SocketHandle} {capacity : Nat}
    {bytes : Bytes} {engine now : Engine} {socket : Socket} {before between : List Text}
    {payload : Bytes} {stimuli : List Stimulus} (hopen : engine.link = .opened)
    (hsocket : engine.device.sockets.info handle = .ok socket)
    (hconnected : socket.state = .connected) (hcapacity : 0 < capacity)
    (hencode : (readRequest handle capacity).encode config.terminator = .ok bytes)
    (hlocked : now.locked = false)
    (hbefore : ∀ line ∈ before, Beside config.lineEnding line)
    (hbetween : ∀ line ∈ between, Beside config.lineEnding line)
    (hlength : payload.length ≤ Limits.receivedPayload)
    (hsmooth : ∀ stimulus ∈ stimuli, stimulus.smooth = true)
    (hanswer : stimuli.flatMap Stimulus.chunk = readAnswer before payload between) :
    let profile : Profile := { config := config, table := tokenTable }
    let waiting := ((receiveData profile handle capacity).run.advance engine).2
    let scene : Scene (Except Error Bytes) :=
      { engine := now, buffer := .empty, call := waiting, handled := [] }
    let after := scene.plays profile (.resumed :: stimuli ++ [.accepted, .resumed])
    after.call = .done (.ok (payload.take capacity)) ∧
      (payload.take capacity).length = min payload.length capacity ∧
      after.handled = readFrames before payload between ∧
      after.engine.device = dispatchAll now.device (before ++ between) := by
  intro profile waiting scene after
  obtain ⟨call, hadvance, hasks⟩ : ∃ call,
      (receiveData profile handle capacity).run.advance engine = (engine, call) ∧
        call.Asks readCommand bytes fun response => .ok (response.data.take capacity) :=
    receiveData_asks profile hopen hsocket hconnected hcapacity hencode
  have hcall : scene.call.Asks readCommand bytes fun response =>
      .ok (response.data.take capacity) := by
    show waiting.Asks _ _ _
    unfold waiting
    rw [hadvance]
    exact hasks
  have hreads : Reads (Scene.started now readCommand) := ⟨rfl, rfl⟩
  -- it is enough to follow the answer as a whole: the cuts do not matter to `Delivers`
  let final := (answered (Scene.started now readCommand) before payload between,
    readFrames before payload between)
  have hfinal : final.1.exchange.outcome = some (.ok .success) := rfl
  have hdelivers : Delivers config.lineEnding loop Scene.Pending
      (Scene.started now readCommand, []) ⟨stimuli.flatMap Stimulus.chunk, none⟩ final := by
    rw [hanswer]
    exact delivers_answer hbefore hbetween hlength hreads rfl
  obtain ⟨hdone, hengine, hhandled⟩ := Scene.plays_of_delivers profile hcall hlocked rfl
    readHooks_settled hsmooth hdelivers hfinal
  refine ⟨hdone, ?_, hhandled, ?_⟩
  · rw [List.length_take, Nat.min_comm]
  · exact congrArg Engine.device hengine

/-- A device with a connected socket. -/
def connectedDevice : Device :=
  { Device.initial {} with
    sockets := SocketTable.initial.put 0
      (some { Socket.fresh 1 .inet .stream .tcp with state := .connected }) }

/-- An engine on an open link. -/
def connectedEngine : Engine :=
  { Engine.initial {} with link := .opened, device := connectedDevice }

/-- An answer whose data looks like a result code and an unsolicited line.  Most of it arrives before
the link has accepted the command.  The cuts are inside the header, the data and the last line end. -/
def codesInData : List Stimulus :=
  [.received (Text.toBytes "RDY\r\n\r\n+QIRD: 1"), .resumed, .received (Text.toBytes "0\r"),
    .received (Text.toBytes "\nOK\r\n+QI"), .accepted, .resumed,
    .received (Text.toBytes "URC\r\n\r\n+QIURC: \"recv\",0\r\n\r\nOK\r"), .resumed,
    .received (Text.toBytes "\n")]

theorem receiveData_codesInData :
    let waiting := ((receiveData { config := {}, table := tokenTable } 0 4).run.advance
      connectedEngine).2
    let scene : Scene (Except Error Bytes) :=
      { engine := connectedEngine, buffer := .empty, call := waiting, handled := [] }
    let after := scene.plays { config := {}, table := tokenTable }
      (.resumed :: codesInData ++ [.accepted, .resumed])
    after.call = .done (.ok (Text.toBytes "OK\r\n")) ∧
      after.handled = [.line (Text.toBytes "RDY"), .line (Text.toBytes "+QIRD: 10"),
        .payload (Text.toBytes "OK\r\n+QIURC"), .line (Text.toBytes "+QIURC: \"recv\",0"),
        .line (Text.toBytes "OK")] := by
  have hencode : (readRequest 0 4).encode [13] = .ok (Text.toBytes "AT+QIRD=0,4\r") := by
    decide +kernel
  have hsocket : connectedEngine.device.sockets.info 0 =
      .ok { Socket.fresh 1 .inet .stream .tcp with state := .connected } := rfl
  -- the lines around the data are unsolicited or blank, though the data looks like others
  have hrdy : Beside .anyOf "RDY".toList := .of_unsolicited (by decide) (by decide)
  have hrecv : Beside .anyOf "+QIURC: \"recv\",0".toList := .of_unsolicited (by decide) (by decide)
  have hbefore : ∀ line ∈ ["RDY".toList, []], Beside .anyOf line :=
    List.forall_mem_cons.mpr ⟨hrdy, List.forall_mem_singleton.mpr .blank⟩
  have hbetween : ∀ line ∈ [[], [], "+QIURC: \"recv\",0".toList, []], Beside .anyOf line :=
    List.forall_mem_cons.mpr ⟨.blank, List.forall_mem_cons.mpr ⟨.blank,
      List.forall_mem_cons.mpr ⟨hrecv, List.forall_mem_singleton.mpr .blank⟩⟩⟩
  have hanswer : codesInData.flatMap Stimulus.chunk = readAnswer ["RDY".toList, []]
      (Text.toBytes "OK\r\n+QIURC") [[], [], "+QIURC: \"recv\",0".toList, []] := by
    decide +kernel
  have hlength : (Text.toBytes "OK\r\n+QIURC").length ≤ Limits.receivedPayload := by decide
  have hsmooth : ∀ stimulus ∈ codesInData, stimulus.smooth = true := by decide
  have hread := @receiveData_transparent {} 0 4 (Text.toBytes "AT+QIRD=0,4\r") connectedEngine
    connectedEngine { Socket.fresh 1 .inet .stream .tcp with state := .connected }
    ["RDY".toList, []] [[], [], "+QIURC: \"recv\",0".toList, []] (Text.toBytes "OK\r\n+QIURC")
    codesInData rfl hsocket rfl (by decide) hencode rfl hbefore hbetween hlength hsmooth hanswer
  exact ⟨hread.1, hread.2.2.1⟩

end ModemLink.Bg96
