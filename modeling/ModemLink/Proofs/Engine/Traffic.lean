import Mathlib.Logic.Function.Basic
import ModemLink.Proofs.Engine.Discipline
import ModemLink.Proofs.Engine.Handling
import ModemLink.Proofs.Response.Classification

/-!
# Requests beside each other

A `Traffic` is an engine with the buffer of its receive loop, any number of callers, and a log of
what happened to the exchange.  A `Move` is the smallest thing that can happen: a chunk arrives, the
receive loop handles one frame, a caller does one step, time runs out for one of them, and so on, in
any order, so every way to schedule them is a sequence of moves.

`Exchange.Handles` is what a frame does to the exchange while a command is in flight.
-/

namespace ModemLink

/-! ## What frames do to the exchange -/

namespace Exchange

/-- What is signalled when the exchange changes: the outcome of the command in flight, if that
ends. -/
def signalled (before after : Exchange) : Option Outcome :=
  if before.inFlight.isSome && after.inFlight.isNone then after.outcome else none

theorem signalled_self (exchange : Exchange) : exchange.signalled exchange = none := by
  unfold signalled
  cases exchange.inFlight <;> rfl

theorem signalled_of_idle {before after : Exchange} (h : before.inFlight = none) :
    before.signalled after = none := by
  simp [signalled, h]

theorem signalled_complete {exchange : Exchange} {inFlight : InFlight}
    (h : exchange.inFlight = some inFlight) (outcome : Outcome) :
    exchange.signalled (exchange.complete outcome) = some outcome := by
  simp [signalled, complete, h]

end Exchange

/-- The line of a frame, if it belongs to the answer and is no final result code. -/
def Frame.answer? (table : TokenTable UrcHandler) (inFlight : InFlight) : Frame → Option Text
  | .line bytes => (Text.ofBytes? bytes).filter fun line =>
      LineRole.of table (some inFlight) line = .solicited ∧
        ¬ Response.IsResultCode table inFlight line
  | .payload _ => none

def Frame.data : Frame → Bytes
  | .line _ => []
  | .payload data => data

/-- A frame ends a command with success: it is a line of the answer, and the result code or the
whole of it. -/
inductive Frame.Succeeds (table : TokenTable UrcHandler) (inFlight : InFlight) : Frame → Prop
  | intro {bytes : Bytes} {line : Text} (htext : Text.ofBytes? bytes = some line)
      (hrole : LineRole.of table (some inFlight) line = .solicited)
      (hlast : table.isSuccess inFlight.successTokens line = true ∨
        inFlight.kind.completesWithoutResultCode = true) : Succeeds table inFlight (.line bytes)

namespace Exchange

/-- What a frame does to a command in flight. -/
inductive Handles (table : TokenTable UrcHandler) (inFlight : InFlight) (frame : Frame)
    (response : Response) : Exchange → Prop
  /-- The response grows. -/
  | grows :
      Handles table inFlight frame response
        { inFlight := some inFlight
          response :=
            { response with
              lines := response.lines ++ (frame.answer? table inFlight).toList
              data := response.data ++ frame.data }
          outcome := none }
  | succeeds (hframe : frame.Succeeds table inFlight) :
      Handles table inFlight frame response
        { inFlight := none
          response :=
            { status := .success
              lines := response.lines ++ (frame.answer? table inFlight).toList
              data := response.data ++ frame.data }
          outcome := some (.ok .success) }
  | fails (last : Response) (outcome : Outcome) (hfailed : outcome ≠ .ok .success) :
      Handles table inFlight frame response
        { inFlight := none, response := last, outcome := some outcome }

end Exchange

namespace Engine

variable {table : TokenTable UrcHandler} {engine : Engine} {inFlight : InFlight}
  {response : Response}

/-- Without a command in flight no frame changes the exchange. -/
theorem exchange_handleFrame_of_idle (h : engine.exchange.inFlight = none)
    (table : TokenTable UrcHandler) (frame : Frame) :
    (engine.handleFrame table frame).exchange = engine.exchange := by
  cases frame with
  | payload data => simp only [handleFrame, Exchange.receivePayload, h]
  | line bytes =>
      simp only [handleFrame]
      split
      next line _ =>
        rw [handleLine_of_ne_solicited (h ▸ LineRole.of_none_ne_solicited table line)]
      · rfl

/-- Frames leave the lock to the callers. -/
theorem locked_handleFrame (table : TokenTable UrcHandler) (engine : Engine) (frame : Frame) :
    (engine.handleFrame table frame).locked = engine.locked := by
  cases frame with
  | payload data => rfl
  | line bytes =>
      simp only [handleFrame]
      split
      · unfold handleLine
        split <;> rfl
      · rfl

theorem handles_payload (table : TokenTable UrcHandler) (data : Bytes)
    (h : engine.exchange = { inFlight := some inFlight, response := response, outcome := none }) :
    Exchange.Handles table inFlight (.payload data) response
      (engine.handleFrame table (.payload data)).exchange := by
  simp only [handleFrame, Exchange.receivePayload, h, Response.pushData?]
  split
  next hpush =>
    split at hpush
    · cases hpush
      have hgrows : Exchange.Handles table inFlight (.payload data) response _ := .grows
      simpa [Frame.answer?, Frame.data] using hgrows
    · cases hpush
  · -- data beyond the limit ends the command with an error
    exact .fails response _ fun heq => by cases heq

/-- A command ends with a status. -/
theorem handles_finish {frame : Frame} (last : Response) {status : ResponseStatus}
    (hlast : status = .success → frame.Succeeds table inFlight ∧
      last.lines = response.lines ++ (frame.answer? table inFlight).toList ∧
      last.data = response.data ++ frame.data) :
    Exchange.Handles table inFlight frame response
      { inFlight := none, response := { last with status := status }
        outcome := some (.ok status) } := by
  by_cases hstatus : status = .success
  · subst hstatus
    obtain ⟨hframe, hlines, hdata⟩ := hlast rfl
    rw [hlines, hdata]
    exact .succeeds hframe
  · exact .fails _ _ fun heq => hstatus (Except.ok.inj heq)

/-- A line of the answer. -/
theorem handles_line {bytes : Bytes} {line : Text} (htext : Text.ofBytes? bytes = some line)
    (hrole : LineRole.of table (some inFlight) line = .solicited)
    (h : engine.exchange = { inFlight := some inFlight, response := response, outcome := none }) :
    Exchange.Handles table inFlight (.line bytes) response
      (engine.handleFrame table (.line bytes)).exchange := by
  have hanswer : (Frame.line bytes).answer? table inFlight =
      if Response.IsResultCode table inFlight line then none else some line := by
    simp [Frame.answer?, htext, Option.filter, hrole]
  simp only [handleFrame, htext]
  rw [handleLine_of_solicited (by rw [h]) hrole, h]
  simp only [Exchange.feed]
  have hfed := Response.fed_feed table inFlight response line
  generalize response.feed table inFlight line = fed at hfed
  -- the first two kinds of lines are result codes and not stored, the others are no result codes
  cases hfed with
  | success hcode =>
      refine handles_finish response fun _ => ⟨.intro htext hrole (.inl hcode), ?_, ?_⟩
      · rw [hanswer, if_pos (.inl hcode)]
        simp
      · simp [Frame.data]
  | modemError hcode => exact handles_finish response fun hstatus => by cases hstatus
  | refused hline hroom => exact handles_finish response fun hstatus => by cases hstatus
  | whole hline hroom hkind =>
      refine handles_finish { response with lines := response.lines ++ [line] }
        fun _ => ⟨.intro htext hrole (.inr hkind), ?_, ?_⟩
      · rw [hanswer, if_neg hline]
        rfl
      · simp [Frame.data]
  | stored hline hroom hkind =>
      have hgrows : Exchange.Handles table inFlight (.line bytes) response _ := .grows
      rw [hanswer, if_neg hline] at hgrows
      simpa [Frame.data] using hgrows

/-- What a frame does while a command is in flight. -/
theorem handles_handleFrame (table : TokenTable UrcHandler) (frame : Frame)
    (h : engine.exchange = { inFlight := some inFlight, response := response, outcome := none }) :
    Exchange.Handles table inFlight frame response (engine.handleFrame table frame).exchange := by
  -- bytes that are no text, and lines that are no part of the answer, leave the exchange alone
  have hunchanged : frame.answer? table inFlight = none → frame.data = [] →
      (engine.handleFrame table frame).exchange = engine.exchange →
      Exchange.Handles table inFlight frame response (engine.handleFrame table frame).exchange := by
    intro hanswer hdata hsame
    have hgrows : Exchange.Handles table inFlight frame response _ := .grows
    rw [hsame, h]
    simpa [hanswer, hdata] using hgrows
  cases frame with
  | payload data => exact handles_payload table data h
  | line bytes =>
      cases htext : Text.ofBytes? bytes with
      | none => exact hunchanged (by simp [Frame.answer?, htext]) rfl (by simp [handleFrame, htext])
      | some line =>
          by_cases hrole : LineRole.of table (some inFlight) line = .solicited
          · exact handles_line htext hrole h
          · refine hunchanged (by simp [Frame.answer?, htext, Option.filter, hrole]) rfl ?_
            simp only [handleFrame, htext]
            rw [handleLine_of_ne_solicited (by rw [h]; exact hrole)]

end Engine

/-! ## The log -/

/-- What happened to the exchange. -/
inductive Entry where
  /-- A caller changed the engine. -/
  | acted (caller : Nat) (change : Engine → Engine)
  /-- The receive loop handled the first frame of the buffer. -/
  | handled (inFlight : Option InFlight) (buffer : ReadBuffer) (frame : Frame)
      (signal : Option Outcome)
  /-- The receive loop ended. -/
  | ended (signal : Option Outcome)

namespace Entry

/-- A caller began a command. -/
def Begins (entry : Entry) : Prop :=
  ∃ caller inFlight, entry = acted caller (Engine.starting inFlight)

def signal? : Entry → Option Outcome
  | acted _ _ => none
  | handled _ _ _ signal => signal
  | ended signal => signal

/-- The line that was added to the answer of a command. -/
def answer? (table : TokenTable UrcHandler) : Entry → Option Text
  | handled (some inFlight) _ frame _ => frame.answer? table inFlight
  | _ => none

/-- The data that was added to the answer of a command. -/
def data : Entry → Bytes
  | handled (some _) _ frame _ => frame.data
  | _ => []

/-- Nothing that concerns a command in flight. -/
def Quiet : Entry → Prop
  | acted _ change => ∀ inFlight, change ≠ Engine.starting inFlight
  | handled inFlight _ _ signal => inFlight = none ∧ signal = none
  | ended signal => signal = none

end Entry

def signals (log : List Entry) : List Outcome := log.filterMap Entry.signal?

/-- The lines that answered a command, the final result code not counted. -/
def answers (table : TokenTable UrcHandler) (log : List Entry) : List Text :=
  log.filterMap (Entry.answer? table)

/-- The data that answered a command. -/
def answerData (log : List Entry) : Bytes := log.flatMap Entry.data

/-! ## The system -/

/-- An engine and its callers. -/
structure Traffic (ρ : Type) where
  engine : Engine
  /-- The read buffer of the receive loop. -/
  buffer : ReadBuffer
  /-- What each caller does, and what is left of that. -/
  callers : Nat → Option (Job ρ × Call (Except Error ρ))
  log : List Entry

/-- What can happen next. -/
inductive Move (ρ : Type) where
  | arrives (chunk : Bytes)
  /-- The receive loop handles the first frame of the buffer, if that is complete. -/
  | handles
  /-- The buffer is given up, because it is full or because a receive loop starts anew. -/
  | empties
  /-- The receive loop ends because somebody asked for it. -/
  | ends
  /-- The receive loop ends because the link failed. -/
  | loses (cause : LinkError)
  /-- Everything but the exchange and the lock becomes that of another engine. -/
  | aside (other : Engine)
  /-- A caller that has nothing to do starts a request. -/
  | calls (caller : Nat) (job : Job ρ)
  /-- A caller does its next step, if what it waits for is there. -/
  | goes (caller : Nat)
  /-- The link answers a caller. -/
  | answered (caller : Nat) (answer : Except LinkError Nat)
  /-- Time runs out for what a caller waits for. -/
  | expires (caller : Nat)

namespace Traffic

variable {ρ : Type}

def initial (listeners : Listeners) : Traffic ρ :=
  { engine := .initial listeners, buffer := .empty, callers := fun _ => none, log := [] }

/-- A caller goes on with a call. -/
def resume (traffic : Traffic ρ) (caller : Nat) (job : Job ρ) (call : Call (Except Error ρ)) :
    Traffic ρ :=
  { traffic with callers := Function.update traffic.callers caller (some (job, call)) }

theorem callers_resume_self (traffic : Traffic ρ) (caller : Nat) (job : Job ρ)
    (call : Call (Except Error ρ)) :
    (traffic.resume caller job call).callers caller = some (job, call) := Function.update_self ..

theorem callers_resume_of_ne {caller other : Nat} (h : other ≠ caller) (traffic : Traffic ρ)
    (job : Job ρ) (call : Call (Except Error ρ)) :
    (traffic.resume caller job call).callers other = traffic.callers other :=
  Function.update_of_ne h ..

/-- The receive loop changes the engine. -/
def record (traffic : Traffic ρ) (engine : Engine) (entry : Option Outcome → Entry) : Traffic ρ :=
  { traffic with
    engine := engine
    log := traffic.log ++ [entry (traffic.engine.exchange.signalled engine.exchange)] }

def handle (profile : Profile) (traffic : Traffic ρ) : Traffic ρ :=
  let exchange := traffic.engine.exchange
  match traffic.buffer.next Limits.readBuffer profile.config.lineEnding exchange.hooks with
  | (none, rest) => { traffic with buffer := rest }
  | (some frame, rest) =>
      { traffic.record (traffic.engine.handleFrame profile.table frame)
          (.handled exchange.inFlight traffic.buffer frame) with buffer := rest }

/-- The next step of a caller, if it need not wait. -/
def go (traffic : Traffic ρ) (caller : Nat) (job : Job ρ) : Call (Except Error ρ) → Traffic ρ
  | .act change next =>
      { traffic with
        engine := change traffic.engine
        log := traffic.log ++ [Entry.acted caller change] }.resume caller job
          (next traffic.engine)
  | .acquire next =>
      if traffic.engine.locked then traffic
      else { traffic with engine := { traffic.engine with locked := true } }.resume caller job next
  | .release next =>
      { traffic with engine := { traffic.engine with locked := false } }.resume caller job next
  | .awaitOutcome _ next =>
      match traffic.engine.exchange.outcome with
      | none => traffic
      | some outcome =>
          let exchange := traffic.engine.exchange.takeOutcome
          { traffic with engine := { traffic.engine with exchange := exchange } }.resume caller job
            (next (some outcome))
  | .awaitLink condition next =>
      if condition traffic.engine.link then traffic.resume caller job next else traffic
  | .transmit .. | .done _ => traffic

def play (profile : Profile) (traffic : Traffic ρ) : Move ρ → Traffic ρ
  | .arrives chunk => { traffic with buffer := traffic.buffer.append chunk }
  | .handles => traffic.handle profile
  | .empties => { traffic with buffer := .empty }
  | .ends => traffic.record traffic.engine.endInOrder .ended
  | .loses cause => traffic.record (traffic.engine.loseLink cause) .ended
  | .aside other =>
      { traffic with
        engine :=
          { other with exchange := traffic.engine.exchange, locked := traffic.engine.locked } }
  | .calls caller job =>
      match traffic.callers caller with
      | none | some (_, .done _) => traffic.resume caller job (job.program profile)
      | some _ => traffic
  | .goes caller =>
      match traffic.callers caller with
      | some (job, call) => traffic.go caller job call
      | none => traffic
  | .answered caller answer =>
      match traffic.callers caller with
      | some (job, .transmit _ _ next) => traffic.resume caller job (next answer)
      | _ => traffic
  | .expires caller =>
      match traffic.callers caller with
      | some (job, .transmit _ _ next) => traffic.resume caller job (next (.error .timeout))
      | some (job, .awaitOutcome _ next) => traffic.resume caller job (next none)
      | _ => traffic

def plays (profile : Profile) (traffic : Traffic ρ) (moves : List (Move ρ)) : Traffic ρ :=
  moves.foldl (fun traffic move => traffic.play profile move) traffic

@[simp] theorem plays_nil (profile : Profile) (traffic : Traffic ρ) :
    traffic.plays profile [] = traffic := rfl

@[simp] theorem plays_cons (profile : Profile) (traffic : Traffic ρ) (move : Move ρ)
    (moves : List (Move ρ)) :
    traffic.plays profile (move :: moves) = (traffic.play profile move).plays profile moves := rfl

theorem plays_append (profile : Profile) (traffic : Traffic ρ) (first second : List (Move ρ)) :
    traffic.plays profile (first ++ second) =
      (traffic.plays profile first).plays profile second := List.foldl_append

end Traffic

end ModemLink
