import ModemLink.Proofs.Engine.Handling
import ModemLink.Proofs.Engine.Stages
import ModemLink.Proofs.Framing.Delivery

/-!
# A request in a scene

A `Scene` is an engine, the read buffer of its receive loop, and one caller.  `Stimulus` lists what
may happen to it, in any order: chunks arrive, the link answers, the caller gets a turn, time runs
out, the link goes down.  A stimulus is *smooth* if it is none of the last two and no refusal of the
link.

A request that is answered by a stream that is known in advance (`Framing.Delivers`) passes through
the stages of `Progress`.  Smooth stimuli keep it there (`Progress.play`), however they cut the
stream and whenever the caller gets its turns; so once the stream has arrived the request ends as the
stream says (`plays_of_delivers`).
-/

namespace ModemLink

open Framing

variable {α β : Type}

/-- The frames that a chunk completes, in the order in which the receive loop handles them. -/
def Engine.completed (profile : Profile) (engine : Engine) (buffer : ReadBuffer) (chunk : Bytes) :
    List Frame :=
  ((engineReader profile.table).logged.read (bounded profile.config.lineEnding) (engine, [])
    (buffer.append chunk)).1.2

/-- What a chunk does to the engine is what the frames do that it completes, one after the other. -/
theorem Engine.receive_eq_foldl (profile : Profile) (engine : Engine) (buffer : ReadBuffer)
    (chunk : Bytes) :
    (engine.receive profile buffer chunk).1 =
      (engine.completed profile buffer chunk).foldl (Engine.handleFrame profile.table) engine := by
  let state := ((engineReader profile.table).logged.read (bounded profile.config.lineEnding)
    (engine, []) (buffer.append chunk)).1
  have hlog : state.1 = state.2.foldl (Engine.handleFrame profile.table) engine := by
    refine Reader.drain_induction (fun (state : Engine × List Frame) _ =>
      state.1 = state.2.foldl (Engine.handleFrame profile.table) engine) (fun h _ => h) ?_ _ rfl
    intro state buffer frame rest h _
    show state.1.handleFrame profile.table frame =
      (state.2 ++ [frame]).foldl (Engine.handleFrame profile.table) engine
    rw [List.foldl_append, ← h]
    rfl
  have hview := (engineReader profile.table).views_logged.drain_eq
    (bounded profile.config.lineEnding) ((buffer.append chunk).bytes.length + 1) (engine, [])
    (buffer.append chunk)
  unfold Engine.receive
  simp only [engine_drain_eq, hview]
  exact hlog

/-- What may happen. -/
inductive Stimulus where
  /-- The receive loop gets a chunk. -/
  | received (chunk : Bytes)
  /-- The link accepts all bytes that a caller hands to it. -/
  | accepted
  /-- The link gives another answer. -/
  | refused (answer : Except LinkError Nat)
  /-- The caller gets a turn.  It goes on if what it waits for is there. -/
  | resumed
  /-- Time runs out for what the caller waits for. -/
  | expired
  /-- The receive loop ends because somebody asked for it. -/
  | ended
  /-- The receive loop ends because the link failed. -/
  | lost (cause : LinkError)

namespace Stimulus

/-- No time runs out, and the link does its work. -/
def smooth : Stimulus → Bool
  | received _ | accepted | resumed => true
  | refused _ | expired | ended | lost _ => false

/-- The bytes that arrive. -/
def chunk : Stimulus → Bytes
  | received chunk => chunk
  | _ => []

end Stimulus

/-- An engine with the buffer of its receive loop, and a caller. -/
structure Scene (α : Type) where
  engine : Engine
  buffer : ReadBuffer
  call : Call α
  /-- The frames that the receive loop has handled, in order. -/
  handled : List Frame

namespace Scene

/-- Run the call until it waits or is done. -/
def advance (scene : Scene α) : Scene α :=
  let (engine, call) := scene.call.advance scene.engine
  { scene with engine := engine, call := call }

/-- Give the caller a turn. -/
def resume (scene : Scene α) : Scene α :=
  match scene.call with
  | .acquire next =>
      if scene.engine.locked then scene
      else { scene with engine := { scene.engine with locked := true }, call := next }.advance
  | .awaitOutcome _ next =>
      match scene.engine.exchange.outcome with
      | none => scene
      | some outcome =>
          let exchange := scene.engine.exchange.takeOutcome
          { scene with
            engine := { scene.engine with exchange := exchange }, call := next (some outcome) }.advance
  | .awaitLink condition next =>
      if condition scene.engine.link then { scene with call := next }.advance else scene
  | _ => scene

/-- What a stimulus does. -/
def play (profile : Profile) (scene : Scene α) : Stimulus → Scene α
  | .received chunk =>
      let (engine, buffer) := scene.engine.receive profile scene.buffer chunk
      { scene with
        engine := engine
        buffer := buffer
        handled := scene.handled ++ scene.engine.completed profile scene.buffer chunk }
  | .accepted =>
      match scene.call with
      | .transmit bytes _ next => { scene with call := next (.ok bytes.length) }.advance
      | _ => scene
  | .refused answer =>
      match scene.call with
      | .transmit _ _ next => { scene with call := next answer }.advance
      | _ => scene
  | .resumed => scene.resume
  | .expired =>
      match scene.call with
      | .transmit _ _ next => { scene with call := next (.error .timeout) }.advance
      | .awaitOutcome _ next => { scene with call := next none }.advance
      | _ => scene
  | .ended => { scene with engine := scene.engine.endInOrder }
  | .lost cause => { scene with engine := scene.engine.loseLink cause }

/-- What stimuli do one after the other. -/
def plays (profile : Profile) (scene : Scene α) (stimuli : List Stimulus) : Scene α :=
  stimuli.foldl (fun scene stimulus => scene.play profile stimulus) scene

theorem plays_append (profile : Profile) (scene : Scene α) (first second : List Stimulus) :
    scene.plays profile (first ++ second) = (scene.plays profile first).plays profile second :=
  List.foldl_append

/-! ## Chunks -/

/-- The outcome of the command in flight has not been signalled. -/
def Pending (state : Engine × List Frame) : Prop := state.1.exchange.outcome = none

/-- The rest of a known stream is yet to arrive.  `final` is what the engine and the frames will be
then. -/
structure Underway (profile : Profile) (scene : Scene α) (rest : Bytes)
    (final : Engine × List Frame) : Prop where
  waits : Waits profile.config.lineEnding (engineReader profile.table).logged
    (scene.engine, scene.handled) scene.buffer
  delivers : Delivers profile.config.lineEnding (engineReader profile.table).logged Pending
    (scene.engine, scene.handled) (scene.buffer.append rest) final

variable {profile : Profile} {scene : Scene α} {rest : Bytes} {final : Engine × List Frame}

/-- What the receive loop does with a chunk, and the frames that it handles, are what a reader does
that remembers the frames. -/
theorem play_received_of_read {chunk : Bytes} {next : Engine × List Frame} {buffer : ReadBuffer}
    (hread : (engineReader profile.table).logged.read (bounded profile.config.lineEnding)
      (scene.engine, scene.handled) (scene.buffer.append chunk) = (next, buffer))
    (hroom : buffer.bytes.length < Limits.readBuffer) :
    scene.play profile (.received chunk) =
      { engine := next.1, buffer := buffer, call := scene.call, handled := next.2 } := by
  -- the reader that remembers frames does to engine and buffer what the loop does
  have hreceive : scene.engine.receive profile scene.buffer chunk = (next.1, buffer) := by
    have hview := (engineReader profile.table).views_logged.drain_eq
      (bounded profile.config.lineEnding) ((scene.buffer.append chunk).bytes.length + 1)
      (scene.engine, scene.handled) (scene.buffer.append chunk)
    rw [Reader.read] at hread
    rw [hread] at hview
    unfold Engine.receive
    simp only [engine_drain_eq, hview, ReadBuffer.resetIfFull, if_neg (Nat.not_le.mpr hroom)]
  -- and what it remembers are the frames that the loop completes
  have hhandled : scene.handled ++ scene.engine.completed profile scene.buffer chunk = next.2 := by
    have hview := ((engineReader profile.table).views_logged_append scene.handled).drain_eq
      (bounded profile.config.lineEnding) ((scene.buffer.append chunk).bytes.length + 1)
      (scene.engine, []) (scene.buffer.append chunk)
    simp only [List.append_nil] at hview
    rw [Reader.read, hview] at hread
    exact congrArg (fun result => result.1.2) hread
  unfold play
  simp only [hreceive, hhandled]

theorem Underway.receive {chunk : Bytes} (h : scene.Underway profile (chunk ++ rest) final) :
    (scene.play profile (.received chunk)).Underway profile rest final ∧
      (scene.play profile (.received chunk)).call = scene.call := by
  have keeps := (engineReader_keepsSettled profile.table).logged
  -- what the buffer and the rest are to deliver does not depend on where the chunk ends
  have hdelivers : Delivers profile.config.lineEnding (engineReader profile.table).logged Pending
      (scene.engine, scene.handled) ((scene.buffer.append chunk).append rest) final := by
    rw [ReadBuffer.append_append]
    exact h.delivers
  have howed : (scene.buffer.append chunk).owed ≠ some 0 := h.waits.owed_ne
  obtain ⟨next, buffer, hread, hwaits, hrest⟩ := hdelivers.read keeps h.waits.settled howed
  rw [play_received_of_read hread hwaits.length_lt]
  exact ⟨⟨hwaits, hrest⟩, rfl⟩

/-- Once the outcome is signalled, nothing but empty lines is yet to arrive. -/
theorem Underway.final_of_outcome (h : scene.Underway profile rest final)
    (hpending : scene.engine.exchange.outcome ≠ none) :
    final = (scene.engine, scene.handled) ∧
      (scene.buffer.append rest).waiting profile.config.lineEnding = .empty :=
  h.delivers.final_of_not_active hpending

/-- Once everything has arrived, the outcome is what it will be. -/
theorem Underway.final_eq (h : scene.Underway profile [] final) :
    final = (scene.engine, scene.handled) := by
  have hdelivers := h.delivers
  rw [ReadBuffer.append_nil] at hdelivers
  exact h.waits.final_eq hdelivers

/-! ## Stages -/

/-- The engine after its caller has taken the lock and installed its command. -/
def started (engine : Engine) (inFlight : InFlight) : Engine :=
  { engine with locked := true, exchange := engine.exchange.start inFlight }

/-- The engine after its caller has taken the outcome and given the lock back. -/
def collected (engine : Engine) : Engine :=
  { engine with exchange := engine.exchange.takeOutcome, locked := false }

/-- How far a request has come whose answer is under way. -/
inductive Progress (profile : Profile) (bytes : Bytes) (result : Response → α)
    (final : Engine × List Frame) (scene : Scene α) (rest : Bytes) : Prop
  | sends (hcall : scene.call.Sends bytes result) (h : scene.Underway profile rest final)
  | awaits (hcall : scene.call.Awaits result) (h : scene.Underway profile rest final)
  | ends (hcall : scene.call = .done (result final.1.exchange.response))
      (h : scene.Underway profile rest (collected final.1, final.2))

variable {bytes : Bytes} {result : Response → α}

/-- A caller that takes the outcome changes nothing for what is yet to arrive. -/
theorem Underway.collect (h : scene.Underway profile rest final)
    (hpending : scene.engine.exchange.outcome ≠ none) {call : Call β} :
    ({ engine := collected scene.engine, buffer := scene.buffer, call := call
       handled := scene.handled } : Scene β).Underway profile rest (collected final.1, final.2) := by
  obtain ⟨hfinal, hempty⟩ := h.final_of_outcome hpending
  refine ⟨⟨h.waits.settled, h.waits.owed_ne, h.waits.cut_eq, h.waits.length_lt⟩, ?_⟩
  rw [hfinal]
  exact .ends hempty

theorem resume_of_sends (hcall : scene.call.Sends bytes result) : scene.resume = scene := by
  obtain ⟨timeout, next, hcall, -⟩ := hcall
  unfold resume
  rw [hcall]

theorem resume_of_done {value : α} (hcall : scene.call = .done value) : scene.resume = scene := by
  unfold resume
  rw [hcall]

/-- The caller takes the outcome and ends with what the response holds then. -/
theorem resume_of_awaits (hfinal : final.1.exchange.outcome = some (.ok .success))
    (hcall : scene.call.Awaits result) (h : scene.Underway profile rest final)
    (hpending : scene.engine.exchange.outcome ≠ none) :
    scene.resume.Underway profile rest (collected final.1, final.2) ∧
      scene.resume.call = .done (result final.1.exchange.response) := by
  obtain ⟨timeout, next, hnext, hlater⟩ := hcall
  obtain ⟨hstate, -⟩ := h.final_of_outcome hpending
  -- an outcome that is there is the final one, since nothing is to come that could change it
  have houtcome : scene.engine.exchange.outcome = some (.ok .success) := by
    rw [← hfinal, hstate]
  have hresume : scene.resume =
      { engine := collected scene.engine, buffer := scene.buffer
        call := .done (result final.1.exchange.response), handled := scene.handled } := by
    unfold Scene.resume advance
    rw [hnext, hstate]
    simp only [houtcome, hlater]
    rfl
  rw [hresume]
  exact ⟨h.collect hpending, rfl⟩

theorem Progress.resume (hfinal : final.1.exchange.outcome = some (.ok .success))
    (h : Progress profile bytes result final scene rest) :
    Progress profile bytes result final scene.resume rest := by
  cases h with
  | sends hcall h =>
      rw [resume_of_sends hcall]
      exact .sends hcall h
  | ends hcall h =>
      rw [resume_of_done hcall]
      exact .ends hcall h
  | awaits hcall h =>
      -- a turn before the outcome is signalled changes nothing
      by_cases hpending : scene.engine.exchange.outcome = none
      · obtain ⟨timeout, next, hnext, hlater⟩ := hcall
        have hresume : scene.resume = scene := by
          unfold Scene.resume
          rw [hnext]
          simp only [hpending]
        rw [hresume]
        exact .awaits ⟨timeout, next, hnext, hlater⟩ h
      · obtain ⟨hnext, hdone⟩ := resume_of_awaits hfinal hcall h hpending
        exact .ends hdone hnext

/-- The link accepts the command of a call that waits for that, and tells no other call. -/
theorem Progress.accept (h : Progress profile bytes result final scene rest) :
    Progress profile bytes result final (scene.play profile .accepted) rest ∧
      ¬ (scene.play profile .accepted).call.Sends bytes result := by
  cases h with
  | sends hcall h =>
      -- only a call that waits for the link takes notice
      obtain ⟨timeout, next, hnext, hlater⟩ := hcall
      obtain ⟨later, hadvance, hawaits⟩ := hlater scene.engine
      have hplay : scene.play profile .accepted = { scene with call := later } := by
        unfold play advance
        rw [hnext]
        simp only [hadvance]
      rw [hplay]
      exact ⟨.awaits hawaits ⟨h.waits, h.delivers⟩, hawaits.not_sends⟩
  | awaits hcall h =>
      have hplay : scene.play profile .accepted = scene := by
        obtain ⟨timeout, next, hnext, -⟩ := hcall
        unfold play
        simp only [hnext]
      rw [hplay]
      exact ⟨.awaits hcall h, hcall.not_sends⟩
  | ends hcall h =>
      have hplay : scene.play profile .accepted = scene := by
        unfold play
        simp only [hcall]
      rw [hplay]
      exact ⟨.ends hcall h, fun hsends => hsends.ne_done _ hcall⟩

theorem Progress.receive {chunk : Bytes}
    (h : Progress profile bytes result final scene (chunk ++ rest)) :
    Progress profile bytes result final (scene.play profile (.received chunk)) rest := by
  cases h with
  | sends hcall h =>
      obtain ⟨hnext, hsame⟩ := h.receive
      exact .sends (hsame ▸ hcall) hnext
  | awaits hcall h =>
      obtain ⟨hnext, hsame⟩ := h.receive
      exact .awaits (hsame ▸ hcall) hnext
  | ends hcall h =>
      obtain ⟨hnext, hsame⟩ := h.receive
      exact .ends (hsame.trans hcall) hnext

/-- Whatever happens smoothly, the request keeps making progress. -/
theorem Progress.play (hfinal : final.1.exchange.outcome = some (.ok .success))
    {stimulus : Stimulus} (hsmooth : stimulus.smooth = true)
    (h : Progress profile bytes result final scene (stimulus.chunk ++ rest)) :
    Progress profile bytes result final (scene.play profile stimulus) rest := by
  cases stimulus with
  | received chunk => exact h.receive
  | accepted => exact h.accept.1
  | resumed => exact h.resume hfinal
  | _ => cases hsmooth

theorem Progress.plays (hfinal : final.1.exchange.outcome = some (.ok .success))
    {stimuli : List Stimulus} (hsmooth : ∀ stimulus ∈ stimuli, stimulus.smooth = true)
    (h : Progress profile bytes result final scene (stimuli.flatMap Stimulus.chunk)) :
    Progress profile bytes result final (scene.plays profile stimuli) [] := by
  -- what is yet to arrive is what the stimuli that are left bring
  induction stimuli generalizing scene with
  | nil => exact h
  | cons stimulus stimuli ih =>
      rw [List.flatMap_cons] at h
      refine ih (fun later hlater => hsmooth later (List.mem_cons_of_mem _ hlater)) ?_
      exact h.play hfinal (hsmooth stimulus List.mem_cons_self)

/-- Once everything has arrived, a caller whose command was accepted needs one turn. -/
theorem Progress.resume_done (hfinal : final.1.exchange.outcome = some (.ok .success))
    (h : Progress profile bytes result final scene []) (hsent : ¬ scene.call.Sends bytes result) :
    scene.resume.call = .done (result final.1.exchange.response) := by
  cases h with
  | sends hcall h => exact absurd hcall hsent
  | ends hcall h =>
      rw [resume_of_done hcall]
      exact hcall
  | awaits hcall h =>
      -- everything has arrived, so the outcome that is to come is there
      have hpending : scene.engine.exchange.outcome ≠ none := by
        intro hnone
        rw [h.final_eq] at hfinal
        rw [hnone] at hfinal
        cases hfinal
      exact (resume_of_awaits hfinal hcall h hpending).2

/-- A request that has ended has left the engine to others. -/
theorem Progress.final_of_done (h : Progress profile bytes result final scene [])
    {value : α} (hdone : scene.call = .done value) :
    scene.engine = collected final.1 ∧ scene.handled = final.2 := by
  cases h with
  | sends hcall h => exact absurd hdone (hcall.ne_done value)
  | awaits hcall h => exact absurd hdone (hcall.ne_done value)
  | ends hcall h =>
      have heq := h.final_eq
      exact ⟨(congrArg Prod.fst heq).symm, (congrArg Prod.snd heq).symm⟩

/-- The lock is free, so the caller installs its command and hands it to the link. -/
theorem resume_of_asks {inFlight : InFlight} (hcall : scene.call.Asks inFlight bytes result)
    (hlocked : scene.engine.locked = false) :
    ∃ later, later.Sends bytes result ∧ scene.resume =
      { scene with engine := started scene.engine inFlight, call := later } := by
  obtain ⟨next, hnext, hlater⟩ := hcall
  obtain ⟨later, hadvance, hsends⟩ := hlater { scene.engine with locked := true }
  refine ⟨later, hsends, ?_⟩
  unfold resume advance
  rw [hnext]
  simp only [hlocked, hadvance]
  rfl

/-- A request whose answer is known ends with what the answer says, if no time runs out and the link
does its work: however the answer is cut, and whenever the link accepts the command and the caller
gets its turns. -/
theorem plays_of_delivers (profile : Profile) {inFlight : InFlight} {stimuli : List Stimulus}
    (hcall : scene.call.Asks inFlight bytes result) (hlocked : scene.engine.locked = false)
    (hbuffer : scene.buffer = .empty) (settled : inFlight.hooks.Settled)
    (hsmooth : ∀ stimulus ∈ stimuli, stimulus.smooth = true)
    (hdelivers : Delivers profile.config.lineEnding (engineReader profile.table).logged Pending
      (started scene.engine inFlight, scene.handled) ⟨stimuli.flatMap Stimulus.chunk, none⟩ final)
    (hfinal : final.1.exchange.outcome = some (.ok .success)) :
    let after := scene.plays profile (.resumed :: stimuli ++ [.accepted, .resumed])
    after.call = .done (result final.1.exchange.response) ∧
      after.engine = collected final.1 ∧ after.handled = final.2 := by
  intro after
  -- the first turn installs the command, and from there the answer is underway
  obtain ⟨later, hsends, hresume⟩ := resume_of_asks hcall hlocked
  have hwaits : Waits profile.config.lineEnding (engineReader profile.table).logged
      (started scene.engine inFlight, scene.handled) .empty :=
    ⟨settled, nofun, ReadBuffer.next_empty _ _ _, by decide⟩
  have hstart : Progress profile bytes result final scene.resume
      (stimuli.flatMap Stimulus.chunk) := by
    rw [hresume]
    refine .sends hsends ⟨?_, ?_⟩
    · rw [hbuffer]
      exact hwaits
    · rw [hbuffer]
      exact hdelivers
  -- everything has arrived, and at the latest now the link accepts the command
  have harrived := hstart.plays hfinal hsmooth
  obtain ⟨haccepted, hsent⟩ := harrived.accept
  have hafter : after = ((scene.resume.plays profile stimuli).play profile .accepted).resume :=
    plays_append profile scene.resume stimuli [.accepted, .resumed]
  have hdone := haccepted.resume_done hfinal hsent
  rw [hafter]
  exact ⟨hdone, (haccepted.resume hfinal).final_of_done hdone⟩

end Scene

end ModemLink
