import Mathlib.Logic.Relation
import ModemLink.Bg96.Tokens
import ModemLink.Proofs.Bg96.Header
import ModemLink.Proofs.Engine.Handling
import ModemLink.Proofs.Engine.History

/-!
# The receive loop makes progress

The hooks of the loop may change from one frame to the next, since each frame may end the command in
flight.  All hooks of the library have what the loop needs (`Hooks.Library.found`): a header that is
found lies within the bytes that were received and announces what can be held.

* `Takes` says which places of the buffer are read for a frame, and `takes_of_next` that each frame
  comes off the buffer this way, with at least one byte.
* `Sound` is what every turn of the loop keeps (`Sound.turn`), and `Reachable.sound` that every
  history keeps it.
* `receive_safe` says for one chunk, from every state that a history leads to: each turn stays
  within the received bytes, the loop ends, and there is room for the next chunk.
-/

namespace ModemLink

/-- The hooks that the commands of the library have: a header of socket data or none, and the prompt
for payload or none. -/
structure Hooks.Library (hooks : Hooks) : Prop where
  header : hooks.header = Option.none ∨ hooks.header = some Bg96.payloadHeader
  prompt : hooks.prompt = Option.none ∨ hooks.prompt = some Hooks.dataPrompt

namespace Hooks

theorem Library.none : Hooks.none.Library := ⟨.inl rfl, .inl rfl⟩

/-- A header that is found lies within the bytes, and announces what can be held. -/
theorem Library.found {hooks : Hooks} (h : hooks.Library) {bytes : Bytes} {start length : Nat}
    (hfound : hooks.headerMatch bytes = .found start length) :
    0 < start ∧ start ≤ bytes.length ∧ length ≤ Limits.receivedPayload := by
  rcases h.header with hnone | hheader
  · rw [headerMatch, hnone] at hfound
    cases hfound
  · -- the only header of the library is the one of a read
    rw [headerMatch, hheader] at hfound
    obtain ⟨line, mark, rest, hform, rfl, -, hlength⟩ := Bg96.payloadHeader_found hfound
    have hpos := List.length_pos_iff.mpr hform.line_ne
    have hbytes := congrArg List.length hform.bytes_eq
    simp only [List.length_append] at hbytes
    exact ⟨by omega, by omega, hlength⟩

theorem promptLength_bounds {hooks : Hooks} {bytes : Bytes} {n : Nat}
    (h : hooks.promptLength bytes = some n) : 0 < n ∧ n ≤ bytes.length := by
  rw [promptLength, Option.filter_eq_some_iff] at h
  simpa using h.2

end Hooks

namespace ReadBuffer

variable {ending : LineEnding} {hooks : Hooks} {capacity : Nat}

/-! ## Places in the buffer -/

/-- How a frame comes off a buffer, with the places of the buffer that are read for it.  The empty
lines that are skipped first take `skipped` bytes. -/
inductive Takes (ending : LineEnding) (hooks : Hooks) : ReadBuffer → Frame → ReadBuffer → Prop
  | payload {bytes : Bytes} {length : Nat} (hpos : 0 < length) (hwithin : length ≤ bytes.length) :
      Takes ending hooks ⟨bytes, some length⟩ (.payload (bytes.take length))
        ⟨bytes.drop length, none⟩
  | prompt {bytes : Bytes} {skipped n : Nat}
      (hskip : skipLineEnds ending bytes = bytes.drop skipped)
      (hprompt : hooks.promptLength (bytes.drop skipped) = some n) (hpos : 0 < n)
      (hwithin : skipped + n ≤ bytes.length) :
      Takes ending hooks ⟨bytes, none⟩ (.line ((bytes.drop skipped).take n))
        ⟨bytes.drop (skipped + n), none⟩
  /-- The line has `size` of the bytes up to the payload, which begins at `start`. -/
  | header {bytes : Bytes} {skipped start size length : Nat}
      (hskip : skipLineEnds ending bytes = bytes.drop skipped)
      (hfound : hooks.headerMatch (bytes.drop skipped) = .found start length) (hpos : 0 < start)
      (hwithin : skipped + start ≤ bytes.length) (hsize : size ≤ start)
      (hlength : length ≤ Limits.receivedPayload) :
      Takes ending hooks ⟨bytes, none⟩ (.line ((bytes.drop skipped).take size))
        ⟨bytes.drop (skipped + start), if length = 0 then none else some length⟩
  /-- The line end has `mark` bytes. -/
  | line {bytes : Bytes} {skipped size mark : Nat}
      (hskip : skipLineEnds ending bytes = bytes.drop skipped) (hpos : 0 < mark)
      (hwithin : skipped + size + mark ≤ bytes.length) :
      Takes ending hooks ⟨bytes, none⟩ (.line ((bytes.drop skipped).take size))
        ⟨bytes.drop (skipped + size + mark), none⟩

/-- What is owed can be held, and is something. -/
def OwedFits (buffer : ReadBuffer) : Prop :=
  ∀ length, buffer.owed = some length → 0 < length ∧ length ≤ Limits.receivedPayload

theorem Takes.length_lt {buffer rest : ReadBuffer} {frame : Frame}
    (h : Takes ending hooks buffer frame rest) : rest.bytes.length < buffer.bytes.length := by
  cases h <;> simp only [List.length_drop] <;> omega

theorem Takes.owedFits {buffer rest : ReadBuffer} {frame : Frame}
    (h : Takes ending hooks buffer frame rest) : rest.OwedFits := by
  cases h with
  | @header bytes skipped start size length hskip hfound hpos hwithin hsize hlength =>
      intro owed howed
      simp only at howed
      split at howed
      · cases howed
      · cases howed
        exact ⟨by omega, hlength⟩
  | _ => nofun

/-! ## One cut -/

theorem exists_skipped (ending : LineEnding) (bytes : Bytes) :
    ∃ skipped, skipLineEnds ending bytes = bytes.drop skipped :=
  ⟨_, List.suffix_iff_eq_drop.mp (skipLineEnds_suffix ending bytes)⟩

/-- A line and its end are at the start of the bytes, and the end has a byte. -/
theorem splitLine?_places {bytes line rest : Bytes}
    (h : splitLine? ending bytes = some (line, rest)) :
    ∃ mark, mark ≠ [] ∧ bytes = line ++ mark ++ rest := by
  cases ending with
  | anyOf =>
      obtain ⟨byte, -, rfl⟩ := splitAny?_eq_some h
      exact ⟨[byte], List.cons_ne_nil _ _, by simp⟩
  | pair => exact ⟨[13, 10], List.cons_ne_nil _ _, splitPair?_eq_some h⟩

theorem trimLineEnd_prefix (header : Bytes) : trimLineEnd header <+: header := by
  rw [trimLineEnd, ← List.reverse_suffix, List.reverse_reverse]
  exact List.dropWhile_suffix _

theorem takes_of_frame? {bytes : Bytes} {skipped : Nat} {frame : Frame} {rest : ReadBuffer}
    (hooksLibrary : hooks.Library) (hskip : skipLineEnds ending bytes = bytes.drop skipped)
    (h : frame? capacity ending hooks (bytes.drop skipped) = (some frame, rest)) :
    Takes ending hooks ⟨bytes, none⟩ frame rest := by
  have hlength : (bytes.drop skipped).length = bytes.length - skipped := List.length_drop
  unfold frame? at h
  split at h
  next n hprompt =>
    cases h
    obtain ⟨hpos, hle⟩ := Hooks.promptLength_bounds hprompt
    rw [List.drop_drop]
    exact .prompt hskip hprompt hpos (by omega)
  · split at h
    next start length hfound =>
      cases h
      obtain ⟨hpos, hle, hannounced⟩ := hooksLibrary.found hfound
      -- the line is what is left of the header without its end
      have htrim := trimLineEnd_prefix ((bytes.drop skipped).take start)
      have hsize := htrim.length_le.trans (List.length_take_le start _)
      rw [List.prefix_iff_eq_take.mp htrim, List.take_take, Nat.min_eq_left hsize, List.drop_drop]
      exact .header hskip hfound hpos (by omega) hsize hannounced
    · cases h
    · cases h
    · -- neither prompt nor header: the bytes up to the first line end
      split at h
      next line tail hsplit =>
        cases h
        obtain ⟨mark, hmark, hbytes⟩ := splitLine?_places hsplit
        have hpos := List.length_pos_iff.mpr hmark
        have hsizes := congrArg List.length hbytes
        simp only [List.length_append] at hsizes
        have hline : line = (bytes.drop skipped).take line.length := by
          rw [hbytes, List.append_assoc, List.take_left]
        have htail : tail = bytes.drop (skipped + line.length + mark.length) := by
          rw [Nat.add_assoc, ← List.drop_drop, hbytes, ← List.length_append, List.drop_left]
        have htakes := @Takes.line ending hooks bytes skipped line.length mark.length hskip hpos
          (by omega)
        rwa [← hline, ← htail] at htakes
      · cases h

/-- Every frame comes off the buffer with at least one byte, and nothing beyond the bytes is read. -/
theorem takes_of_next {buffer rest : ReadBuffer} {frame : Frame} (hooksLibrary : hooks.Library)
    (howed : buffer.OwedFits) (h : buffer.next capacity ending hooks = (some frame, rest)) :
    Takes ending hooks buffer frame rest := by
  obtain ⟨bytes, owed⟩ := buffer
  cases owed with
  | some length =>
      simp only [next] at h
      split at h
      · cases h
      · cases h
        exact .payload (howed length rfl).1 (by omega)
  | none =>
      obtain ⟨skipped, hskip⟩ := exists_skipped ending bytes
      simp only [next] at h
      split at h
      · cases h
      · rw [hskip] at h
        exact takes_of_frame? hooksLibrary hskip h

/-- Waiting for more bytes leaves no more than there was. -/
theorem waits_of_next {buffer rest : ReadBuffer}
    (h : buffer.next capacity ending hooks = (none, rest)) :
    rest.bytes.length ≤ buffer.bytes.length ∧ (rest.owed = buffer.owed ∨ rest.owed = none) := by
  have hskip := (skipLineEnds_suffix ending buffer.bytes).length_le
  unfold next at h
  split at h
  · split at h
    · cases h
      exact ⟨Nat.le_refl _, .inl rfl⟩
    · cases h
  · split at h
    · cases h
      exact ⟨Nat.zero_le _, .inr rfl⟩
    · -- a header that has not arrived stays, one that cannot be held is dropped with all the rest
      unfold frame? at h
      split at h
      · cases h
      · split at h
        · cases h
        · cases h
          exact ⟨hskip, .inr rfl⟩
        · cases h
          exact ⟨Nat.zero_le _, .inr rfl⟩
        · split at h
          · cases h
          · cases h
            unfold resetIfFull
            split
            · exact ⟨Nat.zero_le _, .inr rfl⟩
            · exact ⟨hskip, .inr rfl⟩

theorem length_resetIfFull_lt (buffer : ReadBuffer) :
    (buffer.resetIfFull Limits.readBuffer).bytes.length < Limits.readBuffer := by
  unfold resetIfFull
  split
  · decide
  · omega

theorem OwedFits.of_owed {buffer rest : ReadBuffer} (h : buffer.OwedFits)
    (howed : rest.owed = buffer.owed ∨ rest.owed = none) : rest.OwedFits := by
  intro length hlength
  rcases howed with hsame | hnone
  · exact h length (hsame ▸ hlength)
  · rw [hnone] at hlength
    cases hlength

theorem OwedFits.resetIfFull {buffer : ReadBuffer} (h : buffer.OwedFits) :
    (buffer.resetIfFull capacity).OwedFits := by
  unfold ReadBuffer.resetIfFull
  split
  · nofun
  · exact h

end ReadBuffer

namespace Engine

open Framing

variable {profile : Profile} {listeners : Listeners}

/-! ## One turn of the loop -/

/-- One turn of the receive loop: a frame is taken and handled. -/
def Turn (profile : Profile) (now later : Engine × ReadBuffer) : Prop :=
  ∃ frame, now.2.next Limits.readBuffer profile.config.lineEnding now.1.exchange.hooks =
      (some frame, later.2) ∧ later.1 = now.1.handleFrame profile.table frame

/-- What holds of the engine and the buffer at every turn. -/
structure Sound (now : Engine × ReadBuffer) : Prop where
  hooks : now.1.exchange.hooks.Library
  owed : now.2.OwedFits
  size : now.2.bytes.length ≤ Limits.readBuffer

/-- The hooks change by falling away. -/
theorem library_handleFrame {engine : Engine} (h : engine.exchange.hooks.Library)
    (table : TokenTable UrcHandler) (frame : Frame) :
    (engine.handleFrame table frame).exchange.hooks.Library := by
  rcases engine.inFlight_handleFrame table frame with hnone | hsame
  · rw [Exchange.hooks, hnone]
    exact Hooks.Library.none
  · rwa [Exchange.hooks, hsame]

theorem Sound.takes {now : Engine × ReadBuffer} (h : Sound now) {frame : Frame}
    {rest : ReadBuffer}
    (hnext : now.2.next Limits.readBuffer profile.config.lineEnding now.1.exchange.hooks =
      (some frame, rest)) :
    ReadBuffer.Takes profile.config.lineEnding now.1.exchange.hooks now.2 frame rest :=
  ReadBuffer.takes_of_next h.hooks h.owed hnext

theorem Sound.turn {now later : Engine × ReadBuffer} (h : Sound now)
    (hturn : Turn profile now later) : Sound later := by
  obtain ⟨frame, hnext, hengine⟩ := hturn
  have htakes := h.takes hnext
  refine ⟨?_, htakes.owedFits, htakes.length_lt.le.trans h.size⟩
  rw [hengine]
  exact library_handleFrame h.hooks profile.table frame

theorem Sound.turns {now later : Engine × ReadBuffer} (h : Sound now)
    (hturns : Relation.ReflTransGen (Turn profile) now later) : Sound later := by
  induction hturns with
  | refl => exact h
  | tail _ hturn ih => exact ih.turn hturn

/-! ## The loop -/

/-- The loop ends: some turns lead to a buffer without a complete frame, and the fuel of the loop
lasts for all of them. -/
theorem exists_turns (profile : Profile) {engine : Engine} {buffer : ReadBuffer} {fuel : Nat}
    (h : Sound (engine, buffer)) (hfuel : buffer.bytes.length < fuel) :
    ∃ final last, Relation.ReflTransGen (Turn profile) (engine, buffer) (final, last) ∧
      last.next Limits.readBuffer profile.config.lineEnding final.exchange.hooks =
        (none, (drain profile fuel engine buffer).2) ∧
      (drain profile fuel engine buffer).1 = final := by
  induction fuel generalizing engine buffer with
  | zero => omega
  | succ fuel ih =>
      -- on the fuel; the loop either stops here or takes a turn
      cases hnext : buffer.next Limits.readBuffer profile.config.lineEnding
        engine.exchange.hooks with
      | mk result rest =>
          cases result with
          | none =>
              refine ⟨engine, buffer, .refl, ?_, ?_⟩
              · simp only [drain, hnext]
              · simp only [drain, hnext]
          | some frame =>
              have hturn : Turn profile (engine, buffer)
                  (engine.handleFrame profile.table frame, rest) := ⟨frame, hnext, rfl⟩
              -- the turn takes a byte, so the fuel stays ahead of the bytes that are left
              have hless : rest.bytes.length < buffer.bytes.length := (h.takes hnext).length_lt
              obtain ⟨final, last, hturns, hstop, hfinal⟩ := ih (h.turn hturn) (by omega)
              refine ⟨final, last, .head hturn hturns, ?_, ?_⟩
              · simpa only [drain, hnext] using hstop
              · simpa only [drain, hnext] using hfinal

/-- One chunk: the loop runs over what the buffer holds with the chunk, and empties it if it is still
full. -/
theorem exists_turns_receive (profile : Profile) {engine : Engine} {buffer : ReadBuffer}
    {chunk : Bytes} (h : Sound (engine, buffer.append chunk)) :
    ∃ final last rest,
      Relation.ReflTransGen (Turn profile) (engine, buffer.append chunk) (final, last) ∧
      last.next Limits.readBuffer profile.config.lineEnding final.exchange.hooks = (none, rest) ∧
      engine.receive profile buffer chunk = (final, rest.resetIfFull Limits.readBuffer) := by
  obtain ⟨final, last, hturns, hstop, hfinal⟩ := exists_turns profile h (Nat.lt_succ_self _)
  refine ⟨final, last, _, hturns, hstop, ?_⟩
  rw [← hfinal]
  rfl

theorem sound_append {engine : Engine} {buffer : ReadBuffer} {chunk : Bytes}
    (h : Sound (engine, buffer)) (hfits : buffer.bytes.length + chunk.length ≤ Limits.readBuffer) :
    Sound (engine, buffer.append chunk) :=
  ⟨h.hooks, h.owed, by simpa [ReadBuffer.append] using hfits⟩

theorem Sound.receive {engine : Engine} {buffer : ReadBuffer} {chunk : Bytes}
    (h : Sound (engine, buffer)) (profile : Profile)
    (hfits : buffer.bytes.length + chunk.length ≤ Limits.readBuffer) :
    Sound (engine.receive profile buffer chunk) ∧
      (engine.receive profile buffer chunk).2.bytes.length < Limits.readBuffer := by
  have happend := sound_append h hfits
  obtain ⟨final, last, rest, hturns, hstop, heq⟩ := exists_turns_receive profile happend
  -- every turn is sound, and emptying a full buffer leaves room
  have hlast := happend.turns hturns
  have hroom := ReadBuffer.length_resetIfFull_lt rest
  rw [heq]
  exact ⟨⟨hlast.hooks, (hlast.owed.of_owed (ReadBuffer.waits_of_next hstop).2).resetIfFull,
    hroom.le⟩, hroom⟩

/-! ## Histories -/

/-- Whether an event can happen: a chunk fits the room that is left, and a command has hooks of the
library. -/
def Event.Possible (buffer : ReadBuffer) : Event → Prop
  | .received chunk => buffer.bytes.length + chunk.length ≤ Limits.readBuffer
  | .begun inFlight => inFlight.hooks.Library
  | _ => True

/-- The states that a history leads to, with whatever bytes the modem sends. -/
inductive Reachable (profile : Profile) (listeners : Listeners) : Engine × ReadBuffer → Prop
  | start : Reachable profile listeners (initial listeners, .empty)
  | next {now : Engine × ReadBuffer} (h : Reachable profile listeners now) (event : Event)
      (hpossible : event.Possible now.2) : Reachable profile listeners (event.apply profile now)

theorem Sound.event {now : Engine × ReadBuffer} (h : Sound now)
    (hroom : now.2.bytes.length < Limits.readBuffer) {event : Event}
    (hpossible : event.Possible now.2) :
    Sound (event.apply profile now) ∧
      (event.apply profile now).2.bytes.length < Limits.readBuffer := by
  -- without a command in flight there are no hooks but the empty ones
  have hidle : ∀ exchange : Exchange, exchange.inFlight = none → exchange.hooks.Library :=
    fun exchange hnone => by
      rw [Exchange.hooks, hnone]
      exact Hooks.Library.none
  cases event with
  | opened => exact ⟨⟨h.hooks, h.owed.of_owed (.inr rfl), Nat.zero_le _⟩, Nat.zero_lt_of_lt hroom⟩
  | received chunk => exact h.receive profile hpossible
  | begun inFlight => exact ⟨⟨hpossible, h.owed, h.size⟩, hroom⟩
  | withdrawn => exact ⟨⟨hidle _ rfl, h.owed, h.size⟩, hroom⟩
  | ended => exact ⟨⟨hidle _ (Exchange.inFlight_complete _ _), h.owed, h.size⟩, hroom⟩
  | lost cause => exact ⟨⟨hidle _ (Exchange.inFlight_complete _ _), h.owed, h.size⟩, hroom⟩
  | collected => exact ⟨⟨h.hooks, h.owed, h.size⟩, hroom⟩
  | aside other => exact ⟨⟨h.hooks, h.owed, h.size⟩, hroom⟩

theorem Reachable.sound {now : Engine × ReadBuffer} (h : Reachable profile listeners now) :
    Sound now ∧ now.2.bytes.length < Limits.readBuffer := by
  induction h with
  | start => exact ⟨⟨Hooks.Library.none, nofun, Nat.zero_le _⟩, Nat.zero_lt_succ _⟩
  | next _ event hpossible ih => exact ih.1.event ih.2 hpossible

/-- From every state that a history leads to, there is room for a chunk.  For every chunk that fits
it, each turn of the loop takes at least one byte and reads nothing beyond the bytes that were
received, and what is owed can be held; the loop ends; and then there is room for the next chunk. -/
theorem receive_safe {engine : Engine} {buffer : ReadBuffer}
    (h : Reachable profile listeners (engine, buffer)) :
    buffer.bytes.length < Limits.readBuffer ∧
      ∀ chunk : Bytes, buffer.bytes.length + chunk.length ≤ Limits.readBuffer →
        (∀ now, Relation.ReflTransGen (Turn profile) (engine, buffer.append chunk) now →
          now.2.OwedFits ∧ ∀ frame rest,
            now.2.next Limits.readBuffer profile.config.lineEnding now.1.exchange.hooks =
                (some frame, rest) →
              ReadBuffer.Takes profile.config.lineEnding now.1.exchange.hooks now.2 frame rest ∧
                rest.bytes.length < now.2.bytes.length) ∧
        (∃ final last rest,
          Relation.ReflTransGen (Turn profile) (engine, buffer.append chunk) (final, last) ∧
          last.next Limits.readBuffer profile.config.lineEnding final.exchange.hooks =
            (none, rest) ∧
          engine.receive profile buffer chunk = (final, rest.resetIfFull Limits.readBuffer)) ∧
        (engine.receive profile buffer chunk).2.OwedFits ∧
        (engine.receive profile buffer chunk).2.bytes.length < Limits.readBuffer := by
  obtain ⟨hsound, hroom⟩ := h.sound
  refine ⟨hroom, fun chunk hfits => ?_⟩
  have happend := sound_append hsound hfits
  obtain ⟨hafter, hafterRoom⟩ := hsound.receive profile hfits
  refine ⟨fun now hturns => ?_, exists_turns_receive profile happend, hafter.owed, hafterRoom⟩
  have hnow := happend.turns hturns
  refine ⟨hnow.owed, fun frame rest hnext => ?_⟩
  have htakes := hnow.takes hnext
  exact ⟨htakes, htakes.length_lt⟩

/-- A read of socket data whose header has arrived, and after it the first byte of the payload. -/
def announcedRead : Engine × ReadBuffer :=
  after { config := {}, table := Bg96.tokenTable } {}
    [.opened, .begun Bg96.readCommand, .received (Text.toBytes "\r\n+QIRD: 4\r\na")]

/-- Four bytes are owed.  With the rest of the payload and a result code the loop runs to its end,
and the room of the buffer is not used up. -/
theorem receive_safe_announcedRead :
    announcedRead.2 = ⟨Text.toBytes "a", some 4⟩ ∧
      ∃ final last rest,
        Relation.ReflTransGen (Turn { config := {}, table := Bg96.tokenTable })
          (announcedRead.1, announcedRead.2.append (Text.toBytes "bcd\r\nOK\r\n")) (final, last) ∧
        last.next Limits.readBuffer .anyOf final.exchange.hooks = (none, rest) ∧
        announcedRead.1.receive { config := {}, table := Bg96.tokenTable } announcedRead.2
          (Text.toBytes "bcd\r\nOK\r\n") = (final, rest.resetIfFull Limits.readBuffer) := by
  have hbuffer : announcedRead.2 = ⟨Text.toBytes "a", some 4⟩ := by decide +kernel
  have hroom : (0 : Nat) + (Text.toBytes "\r\n+QIRD: 4\r\na").length ≤ Limits.readBuffer := by decide
  -- the history that leads to the state, with a chunk that fits
  have hreachable : Reachable { config := {}, table := Bg96.tokenTable } {} announcedRead :=
    .next (.next (.next .start .opened trivial) (.begun Bg96.readCommand) ⟨.inr rfl, .inl rfl⟩)
      (.received (Text.toBytes "\r\n+QIRD: 4\r\na")) hroom
  have hfits : announcedRead.2.bytes.length + (Text.toBytes "bcd\r\nOK\r\n").length ≤
      Limits.readBuffer := by
    rw [hbuffer]
    decide
  exact ⟨hbuffer, ((receive_safe hreachable).2 _ hfits).2.1⟩

end Engine

end ModemLink
