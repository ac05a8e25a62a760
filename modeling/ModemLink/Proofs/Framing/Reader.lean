import ModemLink.Engine.Receive

/-!
# Reading frame by frame

The receive loop takes one frame after the other off the read buffer, and what it does with a frame
may change the hooks that the next one is looked for with.  A `Reader` is what such a loop needs to
know: the hooks of its state, and how it handles a frame.  The receive loop of an engine is one
reader; a reader that only collects frames describes the framing by itself.

Two ways to cut a frame off are compared throughout: `bounded`, which empties a buffer that is full
and shows no line end, and `unbounded`, for which a buffer is never full.

* `Reader.drain` takes frames until none is complete, `Reader.feed` does so after every chunk.
* `Reader.Drains` says the same without fuel, and `Reader.drains_drain` that the fuel suffices.
* `Engine.drain_eq` identifies the loop of an engine.
-/

namespace ModemLink.Framing

variable {σ : Type}

/-- A way to cut the next frame off a buffer. -/
abbrev Cut := Hooks → ReadBuffer → Option Frame × ReadBuffer

/-- The cut of the receive loop. -/
def bounded (ending : LineEnding) : Cut := fun hooks buffer =>
  buffer.next Limits.readBuffer ending hooks

/-- The cut for which a buffer is never full. -/
def unbounded (ending : LineEnding) : Cut := fun hooks buffer =>
  buffer.next (buffer.bytes.length + 1) ending hooks

/-- What takes frames.  `handle` is told what the frame leaves owed, so that a reader can tell the
header of a payload from other lines. -/
structure Reader (σ : Type) where
  hooks : σ → Hooks
  handle : σ → Frame → Option Nat → σ

namespace Reader

/-- Take frames until none is complete. -/
def drain (cut : Cut) (reader : Reader σ) : (fuel : Nat) → σ → ReadBuffer → σ × ReadBuffer
  | 0, state, buffer => (state, buffer)
  | fuel + 1, state, buffer =>
      match cut (reader.hooks state) buffer with
      | (none, buffer) => (state, buffer)
      | (some frame, buffer) => drain cut reader fuel (reader.handle state frame buffer.owed) buffer

/-- Take all frames of a buffer.  Each takes at least one byte, so the fuel suffices. -/
def read (cut : Cut) (reader : Reader σ) (state : σ) (buffer : ReadBuffer) : σ × ReadBuffer :=
  reader.drain cut (buffer.bytes.length + 1) state buffer

/-- Receive chunks, and take all frames after each. -/
def feed (cut : Cut) (reader : Reader σ) : σ → ReadBuffer → List Bytes → σ × ReadBuffer
  | state, buffer, [] => (state, buffer)
  | state, buffer, chunk :: chunks =>
      let (state, buffer) := reader.read cut state (buffer.append chunk)
      feed cut reader state buffer chunks

/-- Taking frames from one state and buffer ends in another state and buffer. -/
inductive Drains (cut : Cut) (reader : Reader σ) : σ → ReadBuffer → σ → ReadBuffer → Prop
  | waits {state : σ} {buffer rest : ReadBuffer}
      (h : cut (reader.hooks state) buffer = (none, rest)) :
      Drains cut reader state buffer state rest
  | takes {state final : σ} {buffer rest last : ReadBuffer} {frame : Frame}
      (h : cut (reader.hooks state) buffer = (some frame, rest))
      (next : Drains cut reader (reader.handle state frame rest.owed) rest final last) :
      Drains cut reader state buffer final last

variable {cut : Cut} {reader : Reader σ}

/-- Only the next cut matters for what follows. -/
theorem drains_congr {state : σ} {first second : ReadBuffer}
    (h : cut (reader.hooks state) first = cut (reader.hooks state) second) {final : σ}
    {last : ReadBuffer} :
    Drains cut reader state first final last ↔ Drains cut reader state second final last := by
  constructor
  · intro hd
    cases hd with
    | waits hw => exact .waits (h ▸ hw)
    | takes ht next => exact .takes (h ▸ ht) next
  · intro hd
    cases hd with
    | waits hw => exact .waits (h.trans hw)
    | takes ht next => exact .takes (h.trans ht) next

theorem drains_takes_iff {state final : σ} {buffer rest last : ReadBuffer} {frame : Frame}
    (h : cut (reader.hooks state) buffer = (some frame, rest)) :
    Drains cut reader state buffer final last ↔
      Drains cut reader (reader.handle state frame rest.owed) rest final last := by
  constructor
  · intro hd
    cases hd with
    | waits hw => rw [h] at hw; cases hw
    | takes ht next =>
        rw [h] at ht
        cases ht
        exact next
  · exact .takes h

/-- Taking frames has one result. -/
theorem Drains.unique {state final final' : σ} {buffer last last' : ReadBuffer}
    (h : Drains cut reader state buffer final last)
    (h' : Drains cut reader state buffer final' last') : final' = final ∧ last' = last := by
  induction h with
  | waits hw =>
      -- a cut has one result, so both wait or both take the same frame
      cases h' with
      | waits hw' =>
          rw [hw] at hw'
          cases hw'
          exact ⟨rfl, rfl⟩
      | takes ht' _ => rw [hw] at ht'; cases ht'
  | takes ht _ ih => exact ih ((drains_takes_iff ht).mp h')

/-- A cut that takes at least one byte with each frame.  A payload of no bytes is never owed, and
the cut leaves it so. -/
def Progresses (cut : Cut) (hooks : Hooks) : Prop :=
  ∀ {buffer rest : ReadBuffer} {frame : Frame}, buffer.owed ≠ some 0 →
    cut hooks buffer = (some frame, rest) →
      rest.owed ≠ some 0 ∧ rest.bytes.length < buffer.bytes.length

/-- A property of states that the reader keeps and that makes every cut progress. -/
structure Steady (cut : Cut) (reader : Reader σ) (Holds : σ → Prop) : Prop where
  progresses : ∀ {state}, Holds state → Progresses cut (reader.hooks state)
  keeps : ∀ {state} (frame owed), Holds state → Holds (reader.handle state frame owed)

/-- Fuel beyond the number of bytes suffices. -/
theorem drains_drain {Holds : σ → Prop} (steady : Steady cut reader Holds) {fuel : Nat} {state : σ}
    {buffer : ReadBuffer} (hstate : Holds state) (howed : buffer.owed ≠ some 0)
    (hfuel : buffer.bytes.length < fuel) :
    Drains cut reader state buffer (reader.drain cut fuel state buffer).1
      (reader.drain cut fuel state buffer).2 := by
  -- each frame takes a byte, so the fuel stays ahead of the bytes that are left
  induction fuel generalizing state buffer with
  | zero => omega
  | succ fuel ih =>
      unfold drain
      split
      next rest hcut => exact .waits hcut
      next frame rest hcut =>
        have hless := steady.progresses hstate howed hcut
        exact .takes hcut (ih (steady.keeps frame rest.owed hstate) hless.1 (by omega))

theorem drains_read {Holds : σ → Prop} (steady : Steady cut reader Holds) {state : σ}
    {buffer : ReadBuffer} (hstate : Holds state) (howed : buffer.owed ≠ some 0) :
    Drains cut reader state buffer (reader.read cut state buffer).1
      (reader.read cut state buffer).2 :=
  drains_drain steady hstate howed (Nat.lt_succ_self _)

/-- Reading is what the relation says. -/
theorem read_eq_of_drains {Holds : σ → Prop} (steady : Steady cut reader Holds) {state final : σ}
    {buffer last : ReadBuffer} (hstate : Holds state) (howed : buffer.owed ≠ some 0)
    (h : Drains cut reader state buffer final last) :
    reader.read cut state buffer = (final, last) := by
  obtain ⟨hfinal, hlast⟩ := h.unique (drains_read steady hstate howed)
  rw [← hfinal, ← hlast]

/-- What every cut keeps holds in the end. -/
theorem drain_induction (Holds : σ → ReadBuffer → Prop)
    (waits : ∀ {state buffer rest}, Holds state buffer →
      cut (reader.hooks state) buffer = (none, rest) → Holds state rest)
    (takes : ∀ {state buffer frame rest}, Holds state buffer →
      cut (reader.hooks state) buffer = (some frame, rest) →
        Holds (reader.handle state frame rest.owed) rest)
    (fuel : Nat) {state : σ} {buffer : ReadBuffer} (h : Holds state buffer) :
    Holds (reader.drain cut fuel state buffer).1 (reader.drain cut fuel state buffer).2 := by
  induction fuel generalizing state buffer with
  | zero => exact h
  | succ fuel ih =>
      unfold drain
      split
      next hcut => exact waits h hcut
      next hcut => exact ih (takes h hcut)

/-- One reader sees what another one does, through a view of its states. -/
structure Views {τ : Type} (first : Reader σ) (second : Reader τ) (view : σ → τ) : Prop where
  hooks_eq : ∀ state, second.hooks (view state) = first.hooks state
  handle_eq : ∀ state frame owed,
    second.handle (view state) frame owed = view (first.handle state frame owed)

/-- A view is kept by taking frames. -/
theorem Views.drain_eq {τ : Type} {first : Reader σ} {second : Reader τ} {view : σ → τ}
    (views : Views first second view) (cut : Cut) (fuel : Nat) (state : σ) (buffer : ReadBuffer) :
    second.drain cut fuel (view state) buffer =
      (view (first.drain cut fuel state buffer).1, (first.drain cut fuel state buffer).2) := by
  induction fuel generalizing state buffer with
  | zero => rfl
  | succ fuel ih =>
      unfold drain
      rw [views.hooks_eq]
      split
      · rfl
      next frame rest _ =>
        rw [views.handle_eq]
        exact ih _ _

/-- The reader that also remembers the frames it took, in order. -/
def logged (reader : Reader σ) : Reader (σ × List Frame) :=
  { hooks := fun state => reader.hooks state.1
    handle := fun state frame owed => (reader.handle state.1 frame owed, state.2 ++ [frame]) }

/-- Remembering frames changes nothing. -/
theorem views_logged (reader : Reader σ) : Views reader.logged reader Prod.fst where
  hooks_eq _ := rfl
  handle_eq _ _ _ := rfl

/-- What was remembered before stays as it is. -/
theorem views_logged_append (reader : Reader σ) (earlier : List Frame) :
    Views reader.logged reader.logged fun state => (state.1, earlier ++ state.2) where
  hooks_eq _ := rfl
  handle_eq state frame _ :=
    Prod.ext rfl (List.append_assoc earlier state.2 [frame])

end Reader

/-- The receive loop of an engine. -/
def engineReader (table : TokenTable UrcHandler) : Reader Engine :=
  { hooks := fun engine => engine.exchange.hooks
    handle := fun engine frame _ => engine.handleFrame table frame }

/-- The receive loop of an engine takes frames like a reader. -/
theorem engine_drain_eq (profile : Profile) (fuel : Nat) (engine : Engine) (buffer : ReadBuffer) :
    Engine.drain profile fuel engine buffer =
      (engineReader profile.table).drain (bounded profile.config.lineEnding) fuel engine buffer := by
  induction fuel generalizing engine buffer with
  | zero => rfl
  | succ fuel ih =>
      unfold Engine.drain Reader.drain
      -- both loops make the same cut, and the reader ignores what the frame leaves owed
      cases hnext : buffer.next Limits.readBuffer profile.config.lineEnding engine.exchange.hooks with
      | mk result rest =>
          cases result with
          | none => simp only [bounded, engineReader, hnext]
          | some frame =>
              simp only [bounded, engineReader, hnext] at ih ⊢
              exact ih _ _

end ModemLink.Framing
