import Mathlib.Tactic.ByContra
import ModemLink.Bg96.Tokens
import ModemLink.Proofs.Bg96.Header
import ModemLink.Proofs.Engine.Handling
import ModemLink.Proofs.Engine.History

/-!
# Whose payload it is

The header of a payload is framed while one command is in flight, and the payload itself is handed to
whatever command is in flight when its last byte arrives.  A `Tally` keeps a record beside the
engine: of each payload in the response, whether its header was framed while the command that has it
now was in flight.

* `Event.erase_tally`: the record does not change what happens.
* `data_tally`: the payloads of the record are the data of the response.
* `Clean.tally`: as long as no other command is installed, a response whose payloads are all its own
  keeps being so, if what is owed is its own too.

`pieces_ours_iff` states exactly when the response to a command holds no payload but its own, whatever
happens next: if nothing is owed when the command is installed, or more than a response can hold.
-/

namespace ModemLink

open Framing

namespace ReadBuffer

/-- Where nothing is owed, only a header leaves something owed. -/
theorem frame?_cases {capacity : Nat} {ending : LineEnding} {hooks : Hooks} {bytes : Bytes}
    {result : Option Frame} {rest : ReadBuffer}
    (h : frame? capacity ending hooks bytes = (result, rest)) :
    (result = none ∧ rest.owed = none) ∨
      ∃ line, result = some (.line line) ∧ (hooks.header = none → rest.owed = none) := by
  unfold frame? at h
  split at h
  · cases h
    exact .inr ⟨_, rfl, fun _ => rfl⟩
  · split at h
    next hmatch =>
      cases h
      refine .inr ⟨_, rfl, fun hheader => ?_⟩
      rw [Hooks.headerMatch, hheader] at hmatch
      cases hmatch
    · cases h
      exact .inl ⟨rfl, rfl⟩
    · cases h
      exact .inl ⟨rfl, rfl⟩
    · split at h
      · cases h
        exact .inr ⟨_, rfl, fun _ => rfl⟩
      · cases h
        refine .inl ⟨rfl, ?_⟩
        unfold resetIfFull
        split <;> rfl

/-- What is owed before and after a cut. -/
theorem next_cases {capacity : Nat} {ending : LineEnding} {hooks : Hooks} {buffer rest : ReadBuffer}
    {result : Option Frame} (h : buffer.next capacity ending hooks = (result, rest)) :
    (result = none ∧ (rest.owed = buffer.owed ∨ rest.owed = none)) ∨
      (∃ data, result = some (.payload data) ∧ buffer.owed = some data.length ∧
        rest.owed = none) ∨
      ∃ line, result = some (.line line) ∧ (hooks.header = none → rest.owed = none) := by
  unfold next at h
  -- with payload owed, a frame is payload or nothing; without, it is a line or nothing
  split at h
  next length howed =>
    split at h
    · cases h
      exact .inl ⟨rfl, .inl rfl⟩
    next hroom =>
      cases h
      have hlength : (buffer.bytes.take length).length = length := by
        rw [List.length_take]
        omega
      exact .inr (.inl ⟨_, rfl, by rw [howed, hlength], rfl⟩)
  next howed =>
    split at h
    · cases h
      exact .inl ⟨rfl, .inr rfl⟩
    · rcases frame?_cases h with ⟨hnone, hrest⟩ | hline
      · exact .inl ⟨hnone, .inr hrest⟩
      · exact .inr (.inr hline)

theorem owed_resetIfFull (capacity : Nat) (buffer : ReadBuffer) :
    (buffer.resetIfFull capacity).owed = buffer.owed ∨
      (buffer.resetIfFull capacity).owed = none := by
  unfold resetIfFull
  split
  · exact .inr rfl
  · exact .inl rfl

end ReadBuffer

namespace Exchange

/-- Whether payload is added to the response. -/
def takes (exchange : Exchange) (data : Bytes) : Bool :=
  exchange.inFlight.isSome && (exchange.response.pushData? data).isSome

theorem data_receivePayload (exchange : Exchange) (data : Bytes) :
    (exchange.receivePayload data).response.data =
      if exchange.takes data then exchange.response.data ++ data else exchange.response.data := by
  unfold receivePayload takes
  cases hflight : exchange.inFlight with
  | none => simp
  | some inFlight =>
      by_cases hroom : exchange.response.data.length + data.length ≤ Limits.receivedPayload
      · simp [Response.pushData?, hroom]
      · simp [Response.pushData?, hroom]

/-- A line never changes the payload of a response. -/
theorem data_feed (exchange : Exchange) (table : TokenTable UrcHandler) (inFlight : InFlight)
    (line : Text) : (exchange.feed table inFlight line).response.data = exchange.response.data := by
  have hpush : ∀ response, exchange.response.pushLine? line = some response →
      response.data = exchange.response.data := by
    intro response h
    unfold Response.pushLine? at h
    split at h
    · cases h
      rfl
    · cases h
  have hfeed : (exchange.response.feed table inFlight line).1.data = exchange.response.data := by
    unfold Response.feed Response.feedIntermediate
    split
    · rfl
    split
    · rfl
    split
    · rfl
    cases hline : exchange.response.pushLine? line with
    | none => rfl
    | some response =>
        simp only
        split
        · exact hpush response hline
        · exact hpush response hline
  unfold feed
  simp only
  split
  · exact hfeed
  · rw [response_complete]
    exact hfeed

end Exchange

namespace Engine

/-- A payload in a response, and whether its header was framed while the same command was in
flight. -/
structure Piece where
  data : Bytes
  ours : Bool
  deriving DecidableEq

/-- An engine, and a record of its payloads. -/
structure Tally where
  engine : Engine
  /-- Whether the payload that is owed was announced while the command in flight was in flight. -/
  ours : Bool
  /-- The payloads in the response, in order. -/
  pieces : List Piece

namespace Tally

/-- The record after a frame.  A line may have announced a payload, which then belongs to the command
in flight. -/
def handle (table : TokenTable UrcHandler) (tally : Tally) (frame : Frame) (owed : Option Nat) :
    Tally :=
  match frame with
  | .line _ =>
      { tally with
        engine := tally.engine.handleFrame table frame
        ours := owed.isSome && tally.engine.exchange.inFlight.isSome }
  | .payload data =>
      { tally with
        engine := tally.engine.handleFrame table frame
        pieces := if tally.engine.exchange.takes data then tally.pieces ++ [⟨data, tally.ours⟩]
          else tally.pieces }

/-- The receive loop that keeps the record. -/
def reader (table : TokenTable UrcHandler) : Reader Tally :=
  { hooks := fun tally => tally.engine.exchange.hooks
    handle := handle table }

theorem views_engineReader (table : TokenTable UrcHandler) :
    Reader.Views (reader table) (engineReader table) Tally.engine where
  hooks_eq _ := rfl
  handle_eq tally frame owed := by cases frame <;> rfl

/-- The receive loop handles one chunk. -/
def receive (profile : Profile) (tally : Tally) (buffer : ReadBuffer) (chunk : Bytes) :
    Tally × ReadBuffer :=
  let buffer := buffer.append chunk
  let (tally, buffer) := (reader profile.table).drain (bounded profile.config.lineEnding)
    (buffer.bytes.length + 1) tally buffer
  (tally, buffer.resetIfFull Limits.readBuffer)

/-- What every frame keeps holds after a chunk. -/
theorem receive_induction (Holds : Tally → ReadBuffer → Prop) {profile : Profile}
    (waits : ∀ {tally : Tally} {buffer rest : ReadBuffer}, Holds tally buffer →
      bounded profile.config.lineEnding tally.engine.exchange.hooks buffer = (none, rest) →
        Holds tally rest)
    (takes : ∀ {tally : Tally} {buffer rest : ReadBuffer} {frame : Frame}, Holds tally buffer →
      bounded profile.config.lineEnding tally.engine.exchange.hooks buffer = (some frame, rest) →
        Holds (tally.handle profile.table frame rest.owed) rest)
    (resets : ∀ {tally : Tally} {buffer : ReadBuffer}, Holds tally buffer →
      Holds tally (buffer.resetIfFull Limits.readBuffer))
    {tally : Tally} {buffer : ReadBuffer} {chunk : Bytes} (h : Holds tally (buffer.append chunk)) :
    Holds (tally.receive profile buffer chunk).1 (tally.receive profile buffer chunk).2 := by
  have hdrain : ∀ fuel (buffer : ReadBuffer), Holds tally buffer →
      Holds ((reader profile.table).drain (bounded profile.config.lineEnding) fuel tally buffer).1
        ((reader profile.table).drain (bounded profile.config.lineEnding) fuel tally buffer).2 :=
    fun fuel buffer h => Reader.drain_induction Holds waits takes fuel h
  exact resets (hdrain ((buffer.append chunk).bytes.length + 1) (buffer.append chunk) h)

/-- Forget the record, but not the buffer. -/
def erase (now : Tally × ReadBuffer) : Engine × ReadBuffer := (now.1.engine, now.2)

theorem erase_receive (profile : Profile) (tally : Tally) (buffer : ReadBuffer) (chunk : Bytes) :
    erase (tally.receive profile buffer chunk) = tally.engine.receive profile buffer chunk := by
  unfold receive Engine.receive
  simp only
  rw [engine_drain_eq, (views_engineReader profile.table).drain_eq]
  rfl

end Tally

namespace Event

/-- What an event does to an engine and its record.  A new command has no payload, and nothing that is
owed belongs to it. -/
def tally (profile : Profile) (event : Event) (now : Tally × ReadBuffer) : Tally × ReadBuffer :=
  match event with
  | received chunk => now.1.receive profile now.2 chunk
  | begun _ =>
      let (engine, buffer) := event.apply profile (Tally.erase now)
      ({ engine := engine, ours := false, pieces := [] }, buffer)
  | withdrawn =>
      let (engine, buffer) := event.apply profile (Tally.erase now)
      ({ now.1 with engine := engine, pieces := [] }, buffer)
  | _ =>
      let (engine, buffer) := event.apply profile (Tally.erase now)
      ({ now.1 with engine := engine }, buffer)

/-- The record changes nothing. -/
theorem erase_tally (profile : Profile) (event : Event) (now : Tally × ReadBuffer) :
    Tally.erase (event.tally profile now) = event.apply profile (Tally.erase now) := by
  cases event with
  | received chunk => exact Tally.erase_receive profile now.1 now.2 chunk
  | _ => rfl

end Event

/-- What a new engine and its record become. -/
def tallied (profile : Profile) (listeners : Listeners) (events : List Event) :
    Tally × ReadBuffer :=
  events.foldl (fun now event => event.tally profile now)
    ({ engine := initial listeners, ours := false, pieces := [] }, .empty)

theorem tallied_append (profile : Profile) (listeners : Listeners) (before later : List Event) :
    tallied profile listeners (before ++ later) =
      later.foldl (fun now event => event.tally profile now) (tallied profile listeners before) :=
  List.foldl_append

theorem erase_foldl (profile : Profile) (events : List Event) (now : Tally × ReadBuffer) :
    Tally.erase (events.foldl (fun now event => event.tally profile now) now) =
      events.foldl (fun now event => event.apply profile now) (Tally.erase now) := by
  induction events generalizing now with
  | nil => rfl
  | cons event events ih =>
      rw [List.foldl_cons, List.foldl_cons, ih, Event.erase_tally]

theorem erase_tallied (profile : Profile) (listeners : Listeners) (events : List Event) :
    Tally.erase (tallied profile listeners events) = after profile listeners events :=
  erase_foldl profile events _

/-! ## The payloads are the data -/

/-- The record shows the data of the response. -/
def Tally.Shows (tally : Tally) : Prop :=
  tally.engine.exchange.response.data = (tally.pieces.map Piece.data).flatten

theorem data_handleFrame_line (table : TokenTable UrcHandler) (engine : Engine) (bytes : Bytes) :
    (engine.handleFrame table (.line bytes)).exchange.response.data =
      engine.exchange.response.data := by
  unfold handleFrame
  simp only
  split
  next line _ =>
    rcases handleLine_cases table engine line with hrole | ⟨inFlight, hflight, hrole⟩
    · rw [handleLine_of_ne_solicited hrole]
    · rw [handleLine_of_solicited hflight hrole, Exchange.data_feed]
  · rfl

theorem Tally.Shows.handle {table : TokenTable UrcHandler} {tally : Tally} (h : tally.Shows)
    (frame : Frame) (owed : Option Nat) : (tally.handle table frame owed).Shows := by
  cases frame with
  | line bytes => exact (data_handleFrame_line table tally.engine bytes).trans h
  | payload data =>
      have hdata := Exchange.data_receivePayload tally.engine.exchange data
      unfold Tally.Shows at h ⊢
      simp only [Tally.handle, handleFrame]
      rw [hdata, h]
      cases tally.engine.exchange.takes data <;> simp

theorem Tally.Shows.receive {profile : Profile} {tally : Tally} (h : tally.Shows)
    (buffer : ReadBuffer) (chunk : Bytes) : (tally.receive profile buffer chunk).1.Shows :=
  Tally.receive_induction (fun tally _ => tally.Shows) (fun h _ => h) (fun h _ => h.handle _ _)
    (fun h => h) h

theorem data_tally (profile : Profile) (event : Event) {now : Tally × ReadBuffer}
    (h : now.1.Shows) : (event.tally profile now).1.Shows := by
  cases event with
  | received chunk => exact h.receive now.2 chunk
  | begun inFlight => rfl
  | withdrawn => rfl
  | ended => exact (congrArg Response.data (Exchange.response_complete _ _)).trans h
  | lost cause => exact (congrArg Response.data (Exchange.response_complete _ _)).trans h
  | _ => exact h

/-- The payloads of the record are the data of the response. -/
theorem shows_tallied (profile : Profile) (listeners : Listeners) (events : List Event) :
    (tallied profile listeners events).1.Shows := by
  refine List.foldlRecOn (motive := fun (now : Tally × ReadBuffer) => now.1.Shows) events _ rfl ?_
  intro now h event _
  exact data_tally profile event h

/-! ## Own payloads only -/

/-- Every payload of the response is its own, and so is what is owed, unless it is more than a
response can hold. -/
structure Clean (tally : Tally) (buffer : ReadBuffer) : Prop where
  pieces : ∀ piece ∈ tally.pieces, piece.ours = true
  owed : ∀ length, buffer.owed = some length →
    tally.ours = true ∨ Limits.receivedPayload < length

theorem Clean.of_owed {tally : Tally} {buffer rest : ReadBuffer} (h : Clean tally buffer)
    (howed : rest.owed = buffer.owed ∨ rest.owed = none) : Clean tally rest where
  pieces := h.pieces
  owed length hlength := by
    rcases howed with heq | hnone
    · exact h.owed length (heq ▸ hlength)
    · rw [hnone] at hlength
      cases hlength

theorem length_le_of_takes {exchange : Exchange} {data : Bytes} (h : exchange.takes data = true) :
    data.length ≤ Limits.receivedPayload := by
  unfold Exchange.takes Response.pushData? at h
  rw [Bool.and_eq_true] at h
  by_cases hroom : exchange.response.data.length + data.length ≤ Limits.receivedPayload
  · omega
  · rw [if_neg hroom] at h
    cases h.2

theorem Clean.takes {profile : Profile} {tally : Tally} {buffer rest : ReadBuffer} {frame : Frame}
    (h : Clean tally buffer)
    (hcut : bounded profile.config.lineEnding tally.engine.exchange.hooks buffer =
      (some frame, rest)) :
    Clean (tally.handle profile.table frame rest.owed) rest := by
  -- a payload is what was owed; a line may leave something owed, but only to the command in flight
  rcases ReadBuffer.next_cases hcut with
    ⟨hnone, -⟩ | ⟨data, heq, howed, hrest⟩ | ⟨line, heq, hheader⟩
  · cases hnone
  · cases heq
    refine ⟨?_, fun length hlength => ?_⟩
    · simp only [Tally.handle]
      split
      next htakes =>
        intro piece hpiece
        rcases List.mem_append.mp hpiece with hpiece | hpiece
        · exact h.pieces piece hpiece
        · rw [List.mem_singleton.mp hpiece]
          -- a foreign payload is longer than what the response can take
          refine (h.owed data.length howed).resolve_right fun hlong => ?_
          have hle := length_le_of_takes htakes
          omega
      · exact h.pieces
    · rw [hrest] at hlength
      cases hlength
  · cases heq
    refine ⟨h.pieces, fun length hlength => .inl ?_⟩
    have hflight : tally.engine.exchange.inFlight.isSome = true := by
      cases hflight : tally.engine.exchange.inFlight with
      | some inFlight => rfl
      | none =>
          -- without a command there is no hook that could find a header
          have hhooks : tally.engine.exchange.hooks = Hooks.none := by
            rw [Exchange.hooks, hflight]
          rw [hheader (by rw [hhooks]; rfl)] at hlength
          cases hlength
    simp [Tally.handle, hlength, hflight]

theorem Clean.receive {profile : Profile} {tally : Tally} {buffer : ReadBuffer}
    (h : Clean tally buffer) (chunk : Bytes) :
    Clean (tally.receive profile buffer chunk).1 (tally.receive profile buffer chunk).2 := by
  have happend : Clean tally (buffer.append chunk) := h.of_owed (.inl rfl)
  -- frames keep the record clean, and while the loop waits it may only forget what is owed
  refine Tally.receive_induction Clean ?_ (fun h hcut => h.takes hcut)
    (fun h => h.of_owed (ReadBuffer.owed_resetIfFull _ _)) happend
  intro tally buffer rest h hcut
  rcases ReadBuffer.next_cases hcut with ⟨-, howed⟩ | ⟨_, heq, -⟩ | ⟨_, heq, -⟩
  · exact h.of_owed howed
  · cases heq
  · cases heq

/-- No event but a new command makes a payload belong to another command. -/
theorem Clean.tally {profile : Profile} {now : Tally × ReadBuffer} (h : Clean now.1 now.2)
    {event : Event} (hevent : event.begins = false) :
    Clean (event.tally profile now).1 (event.tally profile now).2 := by
  cases event with
  | begun inFlight => cases hevent
  | received chunk => exact h.receive chunk
  | withdrawn => exact ⟨fun _ hpiece => (List.not_mem_nil hpiece).elim, h.owed⟩
  | opened => exact ⟨h.pieces, nofun⟩
  | _ => exact ⟨h.pieces, h.owed⟩

theorem Clean.foldl {profile : Profile} {now : Tally × ReadBuffer} (h : Clean now.1 now.2)
    {events : List Event} (hevents : ∀ event ∈ events, event.begins = false) :
    Clean (events.foldl (fun now event => event.tally profile now) now).1
      (events.foldl (fun now event => event.tally profile now) now).2 :=
  List.foldlRecOn (motive := fun (now : Tally × ReadBuffer) => Clean now.1 now.2) events _ h
    fun _ h event hmem => h.tally (hevents event hmem)

/-! ## Foreign payload -/

theorem mem_pieces_handle {tally : Tally} {piece : Piece} (h : piece ∈ tally.pieces)
    (table : TokenTable UrcHandler) (frame : Frame) (owed : Option Nat) :
    piece ∈ (tally.handle table frame owed).pieces := by
  cases frame with
  | line bytes => exact h
  | payload data =>
      simp only [Tally.handle]
      split
      · exact List.mem_append_left _ h
      · exact h

/-- A payload that is owed when a command is installed is added to the response to that command, once
enough bytes have arrived. -/
theorem mem_pieces_of_owed {profile : Profile} {tally : Tally} {buffer : ReadBuffer}
    {inFlight : InFlight} {length : Nat} {chunk : Bytes} (howed : buffer.owed = some length)
    (hroom : length ≤ Limits.receivedPayload)
    (hflight : tally.engine.exchange.inFlight = some inFlight)
    (hempty : tally.engine.exchange.response = .empty) (hchunk : length ≤ chunk.length) :
    ∃ data, ⟨data, tally.ours⟩ ∈ (tally.receive profile buffer chunk).1.pieces := by
  -- the buffer and the chunk hold all that is owed, so it is cut off first
  have hcut : bounded profile.config.lineEnding tally.engine.exchange.hooks (buffer.append chunk) =
      (some (.payload ((buffer.bytes ++ chunk).take length)),
        ⟨(buffer.bytes ++ chunk).drop length, none⟩) := by
    have hlong : ¬ (buffer.bytes ++ chunk).length < length := by
      rw [List.length_append]
      omega
    simp only [bounded, ReadBuffer.next, ReadBuffer.append, howed, if_neg hlong]
  -- a new command has room for it
  have htakes : tally.engine.exchange.takes ((buffer.bytes ++ chunk).take length) = true := by
    have hlength := List.length_take_le length (buffer.bytes ++ chunk)
    have hfits : ([] : Bytes).length + ((buffer.bytes ++ chunk).take length).length ≤
        Limits.receivedPayload := by
      rw [List.length_nil]
      omega
    rw [Exchange.takes, hflight, hempty, Response.pushData?, Response.empty, if_pos hfits]
    rfl
  refine ⟨(buffer.bytes ++ chunk).take length, ?_⟩
  -- the payload is the first frame, and what comes after it takes nothing back
  have hkeeps : ∀ fuel (next : Tally) (rest : ReadBuffer),
      ⟨(buffer.bytes ++ chunk).take length, tally.ours⟩ ∈ next.pieces →
        ⟨(buffer.bytes ++ chunk).take length, tally.ours⟩ ∈
          ((Tally.reader profile.table).drain (bounded profile.config.lineEnding) fuel next
            rest).1.pieces :=
    fun fuel next rest h => Reader.drain_induction
      (fun next _ => ⟨(buffer.bytes ++ chunk).take length, tally.ours⟩ ∈ Tally.pieces next)
      (fun h _ => h) (fun h _ => mem_pieces_handle h _ _ _) fuel h
  unfold Tally.receive Reader.drain
  simp only [Tally.reader, hcut] at hkeeps ⊢
  refine hkeeps _ _ _ ?_
  simp [Tally.handle, htakes]

/-- The response to a command holds no payload but its own, whatever happens before another command
is installed, if and only if nothing was owed when it was installed, or more than a response can
hold.  (The record follows the engine, and its payloads are the data of the response.) -/
theorem pieces_ours_iff (profile : Profile) (listeners : Listeners) (history : List Event)
    (inFlight : InFlight) :
    (∀ events, Tally.erase (tallied profile listeners events) = after profile listeners events ∧
      (after profile listeners events).1.exchange.response.data =
        ((tallied profile listeners events).1.pieces.map Piece.data).flatten) ∧
    ((∀ later, (∀ event ∈ later, event.begins = false) →
        ∀ piece ∈ (tallied profile listeners (history ++ .begun inFlight :: later)).1.pieces,
          piece.ours = true) ↔
      ∀ length, (after profile listeners history).2.owed = some length →
        Limits.receivedPayload < length) := by
  refine ⟨fun events => ?_, ?_⟩
  · have herase := erase_tallied profile listeners events
    refine ⟨herase, ?_⟩
    rw [← herase]
    exact shows_tallied profile listeners events
  rw [← erase_tallied]
  constructor
  · intro hours length howed
    by_contra hroom
    -- the bytes that are missing arrive, whatever they are
    have hbegin : ∀ event ∈ [Event.received (List.replicate length 0)], event.begins = false :=
      fun event hevent => List.mem_singleton.mp hevent ▸ rfl
    have hpieces := hours _ hbegin
    rw [tallied_append] at hpieces
    have hchunk : length ≤ (List.replicate length (0 : UInt8)).length := by
      rw [List.length_replicate]
    let now := (Event.begun inFlight).tally profile (tallied profile listeners history)
    have hflight : now.1.engine.exchange.inFlight = some inFlight := rfl
    have hempty : now.1.engine.exchange.response = .empty := rfl
    obtain ⟨data, hmem⟩ : ∃ data, ⟨data, now.1.ours⟩ ∈
        (now.1.receive profile now.2 (List.replicate length 0)).1.pieces :=
      mem_pieces_of_owed howed (Nat.not_lt.mp hroom) hflight hempty hchunk
    cases hpieces _ hmem
  · intro howed later hlater
    -- the record starts clean, and only a new command could spoil it
    rw [tallied_append, List.foldl_cons]
    have hclean : Clean ((Event.begun inFlight).tally profile
        (tallied profile listeners history)).1
        ((Event.begun inFlight).tally profile (tallied profile listeners history)).2 :=
      ⟨fun _ hpiece => (List.not_mem_nil hpiece).elim,
        fun length hlength => .inr (howed length hlength)⟩
    exact (hclean.foldl hlater).pieces

/-- A read of socket data that is given up after the header of four bytes, and the next command. -/
def abandonedRead : List Event :=
  [.opened, .begun Bg96.readCommand, .received (Text.toBytes "\r\n+QIRD: 4\r\n"), .withdrawn,
    .begun plainCommand, .received (Text.toBytes "abcd\r\n\r\nOK\r\n"), .collected]

/-- The payload of the read that was given up ends in the response to the next command, which is
successful. -/
theorem abandonedRead_crosses :
    (after { config := {}, table := Bg96.tokenTable } {} abandonedRead.dropLast).1.exchange.outcome =
        some (.ok .success) ∧
      (after { config := {}, table := Bg96.tokenTable } {} abandonedRead).1.exchange.response.data =
        Text.toBytes "abcd" ∧
      (tallied { config := {}, table := Bg96.tokenTable } {} abandonedRead).1.pieces =
        [⟨Text.toBytes "abcd", false⟩] := by
  refine ⟨?_, ?_, ?_⟩
  · decide +kernel
  · decide +kernel
  · rfl

end Engine

end ModemLink
