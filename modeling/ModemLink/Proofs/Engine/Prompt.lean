import ModemLink.Proofs.Engine.Outcome
import ModemLink.Proofs.Engine.Turns

/-!
# What lets a payload go out

A payload request hands its payload to the link after its command phase ended with success.  The
prompt ends it, for its token counts as success there, but so does every other success token.

* `Traffic.commandEnded_of_transmits`: whenever the payload is handed over, a line ended the command
  phase with success, and that was a prompt at the start of the buffer or a complete line.
* `Traffic.exists_transmits`: whatever line counts as success lets the payload go out.
* `Traffic.transmits_payload`: the two together, and a line that is no prompt needs none.
-/

namespace ModemLink

variable {ρ : Type} {profile : Profile}

/-! ## Lines at the start of the buffer -/

/-- How a line was cut off the buffer while the hooks look for a prompt only. -/
inductive ReadBuffer.CutsLine (ending : LineEnding) (hooks : Hooks) (buffer : ReadBuffer) :
    Bytes → Prop
  | prompt {length : Nat}
      (hprompt : hooks.promptLength (skipLineEnds ending buffer.bytes) = some length) :
      CutsLine ending hooks buffer ((skipLineEnds ending buffer.bytes).take length)
  | line {bytes rest : Bytes}
      (hprompt : hooks.promptLength (skipLineEnds ending buffer.bytes) = none)
      (hline : splitLine? ending (skipLineEnds ending buffer.bytes) = some (bytes, rest)) :
      CutsLine ending hooks buffer bytes

theorem ReadBuffer.cutsLine_of_next {capacity : Nat} {ending : LineEnding} {hooks : Hooks}
    {buffer rest : ReadBuffer} {bytes : Bytes} (hheader : hooks.header = none)
    (h : buffer.next capacity ending hooks = (some (.line bytes), rest)) :
    buffer.CutsLine ending hooks bytes := by
  unfold next at h
  split at h
  · split at h <;> cases h
  · split at h
    · cases h
    · unfold frame? at h
      split at h
      next length hprompt =>
        cases h
        exact .prompt hprompt
      next hprompt =>
        rw [Hooks.headerMatch, hheader] at h
        simp only at h
        split at h
        next line after hline =>
          cases h
          exact .line hprompt hline
        · cases h

namespace Entry

/-- Whether a prompt stood at the start of the buffer. -/
def showsPrompt (ending : LineEnding) (hooks : Hooks) : Entry → Bool
  | handled _ buffer _ _ =>
      (hooks.promptLength (ReadBuffer.skipLineEnds ending buffer.bytes)).isSome
  | _ => false

end Entry

/-- A line ended the command phase with success, and nothing was begun since. -/
inductive CommandEnded (profile : Profile) (job : Job ρ) (caller : Nat) : List Entry → Prop
  | intro {log earlier before after : List Entry} {buffer : ReadBuffer} {bytes : Bytes}
      (hbegan : Began log earlier
        (before ++ .handled (some (job.inFlight .command)) buffer (.line bytes)
          (some (.ok .success)) :: after) caller (job.inFlight .command))
      (hbefore : signals before = []) (hafter : ∀ later ∈ after, later.Quiet)
      (hcut : buffer.CutsLine profile.config.lineEnding (job.inFlight .command).hooks bytes)
      (hline : (Frame.line bytes).Succeeds profile.table (job.inFlight .command)) :
      CommandEnded profile job caller log

theorem Prompted.commandEnded {job : Job ρ} {caller : Nat} {log : List Entry}
    (hheader : (job.inFlight .command).hooks.header = none)
    (h : Prompted profile job caller log) : CommandEnded profile job caller log := by
  obtain ⟨earlier, between, response, hbegan, hended⟩ := h
  generalize houtcome : (Except.ok ResponseStatus.success : Outcome) = outcome at hended
  -- the command phase ended with an entry of the log, and the frame in it was cut off as a line
  cases hended with
  | intro hbefore hsignal hafter hsuccess =>
      obtain ⟨hentry, -⟩ := hsuccess houtcome.symm
      cases hentry with
      | intro hcut hframe =>
          cases hframe with
          | intro htext hrole hlast =>
              exact .intro hbegan hbefore hafter (ReadBuffer.cutsLine_of_next hheader hcut)
                (.intro htext hrole hlast)

section

variable {request : Request} {payload : Payload} {prompt : Bytes → Option Nat}
  {successTokens : List Text} {result : Nat → ρ} {bytes : Bytes}

/-- An engine right after its first command was begun. -/
def Engine.waiting (listeners : Listeners) (inFlight : InFlight) : Engine :=
  Engine.starting inFlight { Engine.initial listeners with link := .opened, locked := true }

/-- A line that counts as success ends a command with success, unless a label is missing. -/
theorem Engine.outcome_of_isSuccess {table : TokenTable UrcHandler} {engine : Engine}
    {inFlight : InFlight} {line : Text} (hflight : engine.exchange.inFlight = some inFlight)
    (hrole : LineRole.of table (some inFlight) line = .solicited)
    (hsuccess : table.isSuccess inFlight.successTokens line = true)
    (hkind : inFlight.kind.requiresLabel = false) :
    (engine.handleFrame table (.line line.toBytes)).exchange.outcome = some (.ok .success) := by
  have hcompletion : engine.exchange.response.completion inFlight = .success := by
    rw [Response.completion, hkind]
    rfl
  rw [handleFrame_line_toBytes, handleLine_of_solicited hflight hrole]
  simp only [Exchange.feed, Response.feed_of_isSuccess hsuccess, Response.finish, hcompletion,
    Exchange.complete, hflight]
  rfl

/-- The steps of a payload request that nothing goes wrong with, up to the payload. -/
theorem Job.sendPayload_steps (prompt : Bytes → Option Nat) (result : Nat → ρ)
    (hcheck : request.check = .ok ())
    (hprompt : profile.table.checkSuccesses Request.promptTokens = .ok ())
    (htokens : profile.table.checkSuccesses successTokens = .ok ())
    (hpayload : payload.check = .ok ())
    (hencode : request.encode profile.config.terminator = .ok bytes) :
    let job : Job ρ := .sendPayload request payload prompt successTokens result
    ∃ opened, job.program profile = .act id opened ∧ ∀ engine : Engine,
      ∃ locked, opened { engine with link := .opened } = .acquire locked ∧
        ∃ begun, locked = .act (Engine.starting (job.inFlight .command)) begun ∧ ∀ engine,
          ∃ sent, begun engine = .transmit bytes profile.config.sendTimeout sent ∧
            ∃ answered,
              sent (.ok bytes.length) = .awaitOutcome profile.config.commandTimeout answered ∧
              ∃ prompted,
                answered (some (.ok .success)) =
                  .act (Engine.starting (job.inFlight .payload)) prompted ∧
                ∀ engine, ∃ rest,
                  prompted engine = .transmit payload.data profile.config.sendTimeout rest := by
  intro job
  simp only [job, Job.program, Request.sendPayload, hcheck, hprompt, htokens, hpayload,
    Request.exchange, hencode]
  refine ⟨_, rfl, fun engine => ⟨_, rfl, _, rfl, fun engine => ⟨_, rfl, ?_⟩⟩⟩
  simp only [if_true]
  exact ⟨_, rfl, _, rfl, fun engine => ⟨_, rfl⟩⟩

end

/-- The bytes that arrive. -/
def Move.chunk : Move ρ → Bytes
  | .arrives chunk => chunk
  | _ => []

namespace Traffic

/-- A caller hands bytes to the link. -/
def Transmits (traffic : Traffic ρ) (caller : Nat) (job : Job ρ) (bytes : Bytes) : Prop :=
  ∃ timeout next, traffic.callers caller = some (job, .transmit bytes timeout next)

variable {caller : Nat} {rest : ReadBuffer}

/-! ## The two directions -/

variable {request : Request} {payload : Payload} {prompt : Bytes → Option Nat}
  {successTokens : List Text} {result : Nat → ρ} {bytes : Bytes}

/-- A payload is handed over only after the command phase ended with success. -/
theorem commandEnded_of_transmits {listeners : Listeners} {moves : List (Move ρ)}
    (h : ((Traffic.initial listeners).plays profile moves).Transmits caller
      (.sendPayload request payload prompt successTokens result) bytes) :
    let job : Job ρ := .sendPayload request payload prompt successTokens result
    let log := ((Traffic.initial listeners).plays profile moves).log
    (request.encode profile.config.terminator = .ok bytes ∧
        ∃ earlier between, Began log earlier between caller (job.inFlight .command)) ∨
      (bytes = payload.data ∨ payload.ending = some bytes) ∧
        ∃ earlier between, Began log earlier between caller (job.inFlight .payload) ∧
          CommandEnded profile job caller earlier := by
  intro job log
  obtain ⟨holder, hkept⟩ := kept_plays profile listeners moves
  obtain ⟨timeout, next, hcall⟩ := h
  obtain ⟨phase, hstage, hhands, -⟩ := hkept.follows caller job _ hcall
  obtain ⟨earlier, between, hbegan, hprompted, -⟩ := hkept.tells_of_stageOf hcall hstage
  -- the phase tells which of the two commands the bytes belong to
  cases phase with
  | command => exact .inl ⟨hhands, earlier, between, hbegan⟩
  | payload => exact .inr ⟨hhands, earlier, between, hbegan, (hprompted rfl).commandEnded rfl⟩

/-- A payload request that can be sent. -/
structure Accepted (profile : Profile) (request : Request) (payload : Payload)
    (successTokens : List Text) : Prop where
  checked : request.check = .ok ()
  encoded : ∃ bytes, request.encode profile.config.terminator = .ok bytes
  promptTokens : profile.table.checkSuccesses Request.promptTokens = .ok ()
  ownTokens : profile.table.checkSuccesses successTokens = .ok ()
  payload : payload.check = .ok ()

/-- The request comes to wait for the answer to its command. -/
theorem plays_command (h : Accepted profile request payload successTokens) (listeners : Listeners)
    (prompt : Bytes → Option Nat) (result : Nat → ρ) :
    let job : Job ρ := .sendPayload request payload prompt successTokens result
    ∃ (moves : List (Move ρ)) (answered : Option Outcome → Call (Except Error ρ))
      (prompted : Engine → Call (Except Error ρ)),
      moves.flatMap Move.chunk = [] ∧
        (Traffic.initial listeners).plays profile moves =
          (Traffic.initial listeners).reached 0 job
            (.awaitOutcome profile.config.commandTimeout answered)
            (.waiting listeners (job.inFlight .command))
            [.acted 0 id, .acted 0 (Engine.starting (job.inFlight .command))] ∧
        answered (some (.ok .success)) =
          .act (Engine.starting (job.inFlight .payload)) prompted ∧
        ∀ engine, ∃ last,
          prompted engine = .transmit payload.data profile.config.sendTimeout last := by
  intro job
  obtain ⟨bytes, hencode⟩ := h.encoded
  obtain ⟨opened, hprogram, hopened⟩ := Job.sendPayload_steps prompt result h.checked h.promptTokens
    h.ownTokens h.payload hencode
  obtain ⟨locked, hlocked, begun, rfl, hbegun⟩ := hopened (.initial listeners)
  obtain ⟨sent, hsent, answered, hanswered, prompted, hprompted, hpayload⟩ :=
    hbegun { Engine.initial listeners with link := .opened, locked := true }
  -- the link is opened aside, and from there the caller goes from one suspension to the next
  have hcalls : (Traffic.initial listeners).plays profile
      [.aside { Engine.initial listeners with link := .opened }, .calls 0 job] =
        (Traffic.initial listeners).reached 0 job (.act id opened)
          { Engine.initial listeners with link := .opened } [] := by
    rw [← hprogram]
    rfl
  refine ⟨[.aside { Engine.initial listeners with link := .opened }, .calls 0 job] ++
    [.goes 0, .goes 0, .goes 0, .answered 0 (.ok bytes.length)], answered, prompted, rfl, ?_,
    hprompted, hpayload⟩
  rw [plays_append, hcalls, plays_cons, play_act, id_eq, hlocked, plays_cons, play_acquire rfl,
    plays_cons, play_act, hsent, plays_cons, play_answered, hanswered, plays_nil]
  rfl

/-- Every line that counts as success lets the payload go out, unless a label is missing.  There is
a run in which nothing else arrives. -/
theorem exists_transmits (h : Accepted profile request payload successTokens)
    (hkind : request.kind.requiresLabel = false) (listeners : Listeners)
    (prompt : Bytes → Option Nat) (result : Nat → ρ) (output : Bytes) (line : Text) :
    let job : Job ρ := .sendPayload request payload prompt successTokens result
    let inFlight := job.inFlight .command
    ({ bytes := output, owed := none } : ReadBuffer).next Limits.readBuffer
        profile.config.lineEnding inFlight.hooks = (some (.line line.toBytes), rest) →
      LineRole.of profile.table (some inFlight) line = .solicited →
      profile.table.isSuccess inFlight.successTokens line = true →
      ∃ (moves : List (Move ρ)) (signal : Option Outcome),
        let traffic := (Traffic.initial listeners).plays profile moves
        moves.flatMap Move.chunk = output ∧ traffic.Transmits 0 job payload.data ∧
          traffic.log = [.acted 0 id, .acted 0 (Engine.starting inFlight),
            .handled (some inFlight) { bytes := output, owed := none } (.line line.toBytes) signal,
            .acted 0 (Engine.starting (job.inFlight .payload))] := by
  intro job inFlight hcut hrole hsuccess
  obtain ⟨moves, answered, prompted, hchunks, hplays, hprompted, hpayload⟩ :=
    plays_command h listeners prompt result
  let waiting := Engine.waiting listeners inFlight
  let ended := waiting.handleFrame profile.table (.line line.toBytes)
  -- the line ends the command phase, prompt or not
  have hended : ended.exchange.outcome = some (.ok .success) :=
    Engine.outcome_of_isSuccess rfl hrole hsuccess hkind
  obtain ⟨last, hlast⟩ := hpayload { ended with exchange := ended.exchange.takeOutcome }
  refine ⟨moves ++ ([.arrives output, .handles] ++ [.goes 0, .goes 0]),
    waiting.exchange.signalled ended.exchange, by simp [hchunks, Move.chunk], ?_⟩
  rw [plays_append, hplays, plays_append, plays_arrives rfl hcut, plays_cons,
    play_awaitOutcome hended, hprompted, plays_cons, play_act, hlast, plays_nil]
  exact ⟨⟨_, _, rfl⟩, rfl⟩

/-- When a payload goes out: in every run only after a line ended the command phase with success, be
it a prompt or not; and whatever line counts as success, there is a run in which it does so without
any prompt. -/
theorem transmits_payload (profile : Profile) (listeners : Listeners) (request : Request)
    (payload : Payload) (prompt : Bytes → Option Nat) (successTokens : List Text)
    (result : Nat → ρ) :
    let job : Job ρ := .sendPayload request payload prompt successTokens result
    let inFlight := job.inFlight .command
    (∀ (moves : List (Move ρ)) caller bytes,
      let traffic := (Traffic.initial listeners).plays profile moves
      traffic.Transmits caller job bytes →
        (request.encode profile.config.terminator = .ok bytes ∧
            ∃ earlier between, Began traffic.log earlier between caller inFlight) ∨
          (bytes = payload.data ∨ payload.ending = some bytes) ∧
            ∃ earlier between, Began traffic.log earlier between caller (job.inFlight .payload) ∧
              CommandEnded profile job caller earlier) ∧
    (Accepted profile request payload successTokens → request.kind.requiresLabel = false →
      ∀ output line rest,
        ({ bytes := output, owed := none } : ReadBuffer).next Limits.readBuffer
            profile.config.lineEnding inFlight.hooks = (some (.line line.toBytes), rest) →
          inFlight.hooks.promptLength (ReadBuffer.skipLineEnds profile.config.lineEnding output) =
            none →
          LineRole.of profile.table (some inFlight) line = .solicited →
          profile.table.isSuccess inFlight.successTokens line = true →
          ∃ moves : List (Move ρ),
            let traffic := (Traffic.initial listeners).plays profile moves
            moves.flatMap Move.chunk = output ∧ traffic.Transmits 0 job payload.data ∧
              traffic.log.any (Entry.showsPrompt profile.config.lineEnding inFlight.hooks) =
                false) := by
  intro job inFlight
  refine ⟨fun moves caller bytes => commandEnded_of_transmits, ?_⟩
  intro haccepted hkind output line rest hcut hnone hrole hsuccess
  obtain ⟨moves, signal, houtput, htransmits, hlog⟩ :=
    exists_transmits haccepted hkind listeners prompt result output line hcut hrole hsuccess
  refine ⟨moves, houtput, htransmits, ?_⟩
  -- only one frame is handled in that run, and no prompt stood at its start
  rw [hlog]
  simp [Entry.showsPrompt, hnone]

/-! ## A BG96 -/

/-- Five bytes for a socket. -/
def sendHello : Job Nat :=
  .sendPayload { command := "AT+QISEND=0,5", kind := .noResult }
    { data := Text.toBytes "hello" } Hooks.dataPrompt [] id

/-- The prompt lets them go out, and so does a line that is none. -/
theorem transmits_payload_hello :
    let profile : Profile := { config := {}, table := Bg96.tokenTable }
    (∃ moves : List (Move Nat),
      let traffic := (Traffic.initial {}).plays profile moves
      moves.flatMap Move.chunk = Text.toBytes "\r\n> " ∧
        traffic.Transmits 0 sendHello (Text.toBytes "hello") ∧
        ∃ earlier between, Began traffic.log earlier between 0 (sendHello.inFlight .payload) ∧
          CommandEnded profile sendHello 0 earlier) ∧
      ∃ moves : List (Move Nat),
        let traffic := (Traffic.initial {}).plays profile moves
        moves.flatMap Move.chunk = Text.toBytes "OK\r" ∧
          traffic.Transmits 0 sendHello (Text.toBytes "hello") ∧
          traffic.log.any
            (Entry.showsPrompt profile.config.lineEnding (sendHello.inFlight .command).hooks) =
              false := by
  intro profile
  have haccepted : Accepted profile { command := "AT+QISEND=0,5", kind := .noResult }
      { data := Text.toBytes "hello" } [] := ⟨rfl, ⟨_, rfl⟩, rfl, rfl, rfl⟩
  have hboth := transmits_payload profile {} { command := "AT+QISEND=0,5", kind := .noResult }
    { data := Text.toBytes "hello" } Hooks.dataPrompt [] (id : Nat → Nat)
  constructor
  · -- the prompt; what goes out is not the command, so the payload it is
    obtain ⟨moves, signal, houtput, htransmits, -⟩ := exists_transmits haccepted rfl {}
      Hooks.dataPrompt (id : Nat → Nat) (Text.toBytes "\r\n> ") "> " rfl rfl rfl
    refine ⟨moves, houtput, htransmits, ?_⟩
    rcases hboth.1 moves 0 _ htransmits with ⟨hencode, -⟩ | ⟨-, hended⟩
    · cases Except.ok.inj hencode
    · exact hended
  · -- a result code instead of the prompt
    exact hboth.2 haccepted rfl (Text.toBytes "OK\r") "OK" .empty rfl rfl rfl rfl

/-- A command that is given up, and its result code in the next command phase. -/
def lateOk : List (Move Nat) :=
  [.aside { Engine.initial {} with link := .opened },
    .calls 0 (.run { command := "AT", kind := .noResult } 5000 .none fun _ => .ok 0), .goes 0,
    .goes 0, .goes 0, .answered 0 (.ok 3), .expires 0, .goes 0, .goes 0, .calls 1 sendHello,
    .goes 1, .goes 1, .goes 1, .answered 1 (.ok 14), .arrives (Text.toBytes "\r\nOK\r\n"),
    .handles, .goes 1, .goes 1]

/-- The late result code lets the payload go out, and the modem has not prompted for it. -/
theorem lateOk_transmits :
    let profile : Profile := { config := {}, table := Bg96.tokenTable }
    let traffic := (Traffic.initial {}).plays profile lateOk
    profile.table.validate = .ok () ∧
      traffic.Transmits 1 sendHello (Text.toBytes "hello") ∧
      traffic.log.any
        (Entry.showsPrompt profile.config.lineEnding (sendHello.inFlight .command).hooks) =
          false := by
  refine ⟨rfl, ⟨_, _, rfl⟩, ?_⟩
  decide +kernel

end Traffic

end ModemLink
