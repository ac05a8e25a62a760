import ModemLink.SerialPort

/-!
# Receiving neither loses nor reorders bytes

The turns of a reader make up a stream.  Each receiving takes the next bytes of it, as many as there
is room for, or none: what does not fit, and what is not there before the deadline, is left for the
receivings that follow, whatever else is done with the port in between.

* `Receives` is all that a single receiving can come to (`receives_receive`), and every other fact
  about one is read off from it.
* `received_append_ahead`: what was received and what is still ahead make up the stream.
* `receive_accounts` puts the whole history and the single receiving together.
-/

namespace ModemLink.SerialPort

/-- What the turns of a reader hand over in all. -/
def streamOf (turns : List ReadTurn) : Bytes := turns.flatMap fun turn => turn.data.getD []

/-- The part of the stream that the reader has not handed over yet. -/
def ahead (port : SerialPort) : Bytes := streamOf port.reader

/-- What a receiving hands over. -/
def handed : Except LinkError Bytes → Bytes
  | .ok bytes => bytes
  | .error _ => []

variable {port next : SerialPort} {capacity timeout : Nat} {result : Except LinkError Bytes}

/-! ## One receiving -/

/-- The reader begins with a turn that is ready by the deadline. -/
structure Ready (port : SerialPort) (timeout : Nat) (turn : ReadTurn) (later : List ReadTurn) :
    Prop where
  reader : port.reader = turn :: later
  inTime : turn.ready ≤ port.now + timeout

/-- What a receiving comes to: the port afterwards, and the result. -/
inductive Receives (port : SerialPort) (capacity timeout : Nat) :
    SerialPort → Except LinkError Bytes → Prop
  | closed (hclosed : port.isOpen = false) : Receives port capacity timeout port (.error .failure)
  | roomless (hopen : port.isOpen = true) (hroom : capacity = 0) :
      Receives port capacity timeout port (.error .noMemory)
  /-- The deadline passes before the reader is ready. -/
  | expired (hopen : port.isOpen = true) (hroom : 0 < capacity)
      (hlate : ∀ turn ∈ port.reader.head?, port.now + timeout < turn.ready) :
      Receives port capacity timeout (port.waitUntil (port.now + timeout)) (.error .timeout)
  | failed {turn : ReadTurn} {later : List ReadTurn} (hopen : port.isOpen = true)
      (hroom : 0 < capacity) (hready : port.Ready timeout turn later) (hdata : turn.data = none) :
      Receives port capacity timeout { port.waitUntil turn.ready with reader := later }
        (.error .driver)
  /-- The reader is ready, and has nothing. -/
  | nothing {turn : ReadTurn} {later : List ReadTurn} (hopen : port.isOpen = true)
      (hroom : 0 < capacity) (hready : port.Ready timeout turn later)
      (hdata : turn.data = some []) :
      Receives port capacity timeout { port.waitUntil turn.ready with reader := later }
        (.error .failure)
  | whole {turn : ReadTurn} {later : List ReadTurn} {data : Bytes} (hopen : port.isOpen = true)
      (hready : port.Ready timeout turn later) (hdata : turn.data = some data) (hsome : data ≠ [])
      (hfits : data.length ≤ capacity) :
      Receives port capacity timeout { port.waitUntil turn.ready with reader := later } (.ok data)
  /-- There is room for the first bytes only, and the others stay with the reader. -/
  | start {turn : ReadTurn} {later : List ReadTurn} {data : Bytes} (hopen : port.isOpen = true)
      (hroom : 0 < capacity) (hready : port.Ready timeout turn later)
      (hdata : turn.data = some data) (hlong : capacity < data.length) :
      Receives port capacity timeout
        { port.waitUntil turn.ready with
          reader := { turn with data := some (data.drop capacity) } :: later }
        (.ok (data.take capacity))

theorem receives_receive (port : SerialPort) (capacity timeout : Nat) :
    Receives port capacity timeout (port.receive capacity timeout).1
      (port.receive capacity timeout).2 := by
  unfold receive
  cases hopen : port.isOpen with
  | false => exact .closed hopen
  | true =>
      by_cases hcapacity : capacity = 0
      · simp only [hcapacity, Bool.not_true, Bool.false_eq_true, if_false, if_true]
        exact .roomless hopen rfl
      · have hroom : 0 < capacity := Nat.pos_of_ne_zero hcapacity
        simp only [hcapacity, Bool.not_true, Bool.false_eq_true, if_false]
        cases hreader : port.reader with
        | nil =>
            -- nothing will ever come, so the deadline passes
            refine .expired hopen hroom fun turn hturn => ?_
            rw [hreader] at hturn
            cases hturn
        | cons turn later =>
            by_cases htime : port.InTime (port.now + timeout) turn.ready
            · have hready : port.Ready timeout turn later :=
                ⟨hreader, by unfold InTime at htime; omega⟩
              simp only [if_pos htime]
              cases hdata : turn.data with
              | none => exact .failed hopen hroom hready hdata
              | some data =>
                  by_cases hempty : data = []
                  · subst hempty
                    simp only [List.drop_nil, if_true]
                    exact .nothing hopen hroom hready hdata
                  · -- everything fits, or the rest goes back to the reader
                    by_cases hfits : data.length ≤ capacity
                    · simp only [List.drop_eq_nil_of_le hfits, List.take_of_length_le hfits, hempty,
                        if_true, if_false]
                      exact .whole hopen hready hdata hempty hfits
                    · have hrest : data.drop capacity ≠ [] := by
                        rw [Ne, List.drop_eq_nil_iff]
                        exact hfits
                      simp only [hrest, hempty, if_false]
                      exact .start hopen hroom hready hdata (Nat.lt_of_not_le hfits)
            · have hlate : port.now + timeout < turn.ready := by
                unfold InTime at htime
                omega
              simp only [if_neg htime]
              refine .expired hopen hroom fun first hfirst => ?_
              rw [hreader] at hfirst
              cases hfirst
              exact hlate

namespace Receives

/-- No byte is lost, and none comes before its turn. -/
theorem handed_append_ahead (h : Receives port capacity timeout next result) :
    handed result ++ next.ahead = port.ahead := by
  cases h with
  | closed | roomless | expired => rfl
  | failed _ _ hready hdata | nothing _ _ hready hdata | whole _ hready hdata =>
      -- the turn is over, and what it had was handed over: nothing, or everything
      simp [ahead, streamOf, handed, hready.reader, hdata]
  | start _ _ hready hdata =>
      -- the turn stays with what did not fit
      simp only [ahead, streamOf, handed, hready.reader, hdata, List.flatMap_cons,
        Option.getD_some]
      rw [← List.append_assoc, List.take_append_drop]

theorem inTime (h : Receives port capacity timeout next result) :
    port.now ≤ next.now ∧ next.now ≤ port.now + timeout := by
  have hwait {time : Nat} (htime : time ≤ port.now + timeout) :
      port.now ≤ max port.now time ∧ max port.now time ≤ port.now + timeout := by
    omega
  cases h with
  | closed | roomless => exact ⟨Nat.le_refl _, Nat.le_add_right _ _⟩
  | expired => exact hwait (Nat.le_refl _)
  | failed _ _ hready | nothing _ _ hready | whole _ hready | start _ _ hready =>
      exact hwait hready.inTime

theorem filled {bytes : Bytes} (h : Receives port capacity timeout next (.ok bytes)) :
    bytes ≠ [] ∧ bytes.length ≤ capacity := by
  cases h with
  | whole _ _ _ hsome hfits => exact ⟨hsome, hfits⟩
  | start _ hroom _ _ hlong =>
      have hlength : (List.take capacity _).length = capacity :=
        List.length_take_of_le (Nat.le_of_lt hlong)
      refine ⟨fun hnil => ?_, Nat.le_of_eq hlength⟩
      rw [hnil] at hlength
      exact Nat.ne_of_lt hroom hlength

/-- Bytes that are ready in time are handed over, as far as there is room for them. -/
theorem delivers {turn : ReadTurn} {later : List ReadTurn} {data : Bytes}
    (h : Receives port capacity timeout next result) (hopen : port.isOpen = true)
    (hroom : 0 < capacity) (hready : port.Ready timeout turn later)
    (hdata : turn.data = some data) (hsome : data ≠ []) : result = .ok (data.take capacity) := by
  -- the turn of each case is the one at the head of the reader
  have hsame {first : ReadTurn} {others : List ReadTurn}
      (hfirst : port.Ready timeout first others) : first.data = some data := by
    obtain ⟨rfl, -⟩ := List.cons.inj (hfirst.reader.symm.trans hready.reader)
    exact hdata
  cases h with
  | closed hclosed => rw [hopen] at hclosed; cases hclosed
  | roomless _ hnone => omega
  | expired _ _ hlate =>
      have hturn := hlate turn (by rw [hready.reader]; rfl)
      have htime := hready.inTime
      omega
  | failed _ _ hfirst hnone => cases hnone.symm.trans (hsame hfirst)
  | nothing _ _ hfirst hempty =>
      exact absurd (Option.some.inj (hempty.symm.trans (hsame hfirst))).symm hsome
  | whole _ hfirst hwhole _ hfits =>
      obtain rfl := Option.some.inj (hwhole.symm.trans (hsame hfirst))
      rw [List.take_of_length_le hfits]
  | start _ _ hfirst hstart =>
      obtain rfl := Option.some.inj (hstart.symm.trans (hsame hfirst))
      rfl

theorem refused (h : Receives port capacity timeout next result)
    (hrefused : port.isOpen = false ∨ capacity = 0) :
    next = port ∧ ∃ cause, result = .error cause := by
  -- the other cases need an open port and room
  have hnever {P : Prop} (hopen : port.isOpen = true) (hroom : 0 < capacity) : P := by
    rcases hrefused with hclosed | hnone
    · rw [hopen] at hclosed
      cases hclosed
    · omega
  cases h with
  | closed | roomless => exact ⟨rfl, _, rfl⟩
  | expired hopen hroom | failed hopen hroom | nothing hopen hroom | start hopen hroom =>
      exact hnever hopen hroom
  | whole hopen _ _ hsome hfits =>
      exact hnever hopen (Nat.lt_of_lt_of_le (List.length_pos_iff.mpr hsome) hfits)

/-- Only a receiving that runs out of time says so, and then the reader is as before. -/
theorem expired_iff (h : Receives port capacity timeout next result)
    (hopen : port.isOpen = true) (hroom : 0 < capacity) :
    result = .error .timeout ↔ ∀ turn ∈ port.reader.head?, port.now + timeout < turn.ready := by
  have hnever {turn : ReadTurn} {later : List ReadTurn} (hready : port.Ready timeout turn later) :
      ¬ ∀ first ∈ port.reader.head?, port.now + timeout < first.ready := by
    intro hlate
    have hturn := hlate turn (by rw [hready.reader]; rfl)
    have htime := hready.inTime
    omega
  cases h with
  | closed hclosed => rw [hopen] at hclosed; cases hclosed
  | roomless _ hnone => omega
  | expired _ _ hlate => exact iff_of_true rfl hlate
  | failed _ _ hready | nothing _ _ hready | whole _ hready | start _ _ hready =>
      exact iff_of_false nofun (hnever hready)

theorem reader_of_timeout (h : Receives port capacity timeout next (.error .timeout)) :
    next.reader = port.reader ∧ next.now = port.now + timeout := by
  cases h with
  | expired => exact ⟨rfl, Nat.max_eq_right (Nat.le_add_right _ _)⟩

end Receives

/-! ## What a sending leaves alone -/

theorem reader_write (port : SerialPort) (deadline : Nat) (data : Bytes) :
    (port.write deadline data).1.reader = port.reader := by
  unfold write
  split
  · rfl
  · split
    · simp only
      split <;> rfl
    · rfl

theorem reader_writeAll (deadline fuel : Nat) (port : SerialPort) (data : Bytes) (sent : Nat) :
    (writeAll deadline fuel port data sent).1.reader = port.reader := by
  induction fuel generalizing port data sent with
  | zero => rfl
  | succ fuel ih =>
      have hwrite := reader_write port deadline data
      unfold writeAll
      split
      · rfl
      · generalize port.write deadline data = written at hwrite
        obtain ⟨next, ending⟩ := written
        split
        next heq => cases heq; exact hwrite
        next heq => cases heq; exact hwrite
        next heq => cases heq; exact hwrite
        next heq => cases heq; exact (ih _ _ _).trans hwrite

theorem reader_flushUntil (port : SerialPort) (deadline : Nat) :
    (port.flushUntil deadline).1.reader = port.reader := by
  unfold flushUntil
  split
  · rfl
  · split <;> rfl
  · rfl

theorem reader_send (port : SerialPort) (data : Bytes) (timeout : Nat) :
    (port.send data timeout).1.reader = port.reader := by
  have hwritten := reader_writeAll (port.now + timeout) data.length port data 0
  unfold send
  split
  · rfl
  · split
    · rfl
    · simp only
      generalize writeAll (port.now + timeout) data.length port data 0 = written at hwritten
      obtain ⟨next, answer⟩ := written
      match answer with
      | .error cause => exact hwritten
      | .ok 0 => exact hwritten
      | .ok (sent + 1) =>
          -- only here is there a flush after the writes
          have hflushed := reader_flushUntil next (port.now + timeout)
          simp only
          generalize next.flushUntil (port.now + timeout) = flushed at hflushed
          obtain ⟨last, ending⟩ := flushed
          cases ending <;> exact hflushed.trans hwritten

/-! ## One receiving after the other -/

/-- What is done with a port. -/
inductive PortUse where
  | openPort
  | closePort
  | send (data : Bytes) (timeout : Nat)
  | receive (capacity timeout : Nat)
  /-- Nothing, for some milliseconds. -/
  | rest (time : Nat)

namespace PortUse

/-- The port after a use of it. -/
def apply (port : SerialPort) : PortUse → SerialPort
  | openPort => port.openPort.1
  | closePort => port.closePort.1
  | send data timeout => (port.send data timeout).1
  | receive capacity timeout => (port.receive capacity timeout).1
  | rest time => port.waitUntil (port.now + time)

/-- What a use of a port receives. -/
def received (port : SerialPort) : PortUse → Bytes
  | receive capacity timeout => handed (port.receive capacity timeout).2
  | _ => []

theorem received_append_ahead (port : SerialPort) (use : PortUse) :
    use.received port ++ (use.apply port).ahead = port.ahead := by
  cases use with
  | openPort | closePort | rest => rfl
  | send data timeout => exact congrArg streamOf (reader_send port data timeout)
  | receive capacity timeout =>
      exact (receives_receive port capacity timeout).handed_append_ahead

end PortUse

/-- The port after some uses of it. -/
def after (port : SerialPort) (uses : List PortUse) : SerialPort := uses.foldl PortUse.apply port

/-- All that was received in the course of some uses. -/
def received : SerialPort → List PortUse → Bytes
  | _, [] => []
  | port, use :: uses => use.received port ++ received (use.apply port) uses

/-- What was received are the first bytes of the stream, and the others are still ahead. -/
theorem received_append_ahead (port : SerialPort) (uses : List PortUse) :
    received port uses ++ (port.after uses).ahead = port.ahead := by
  induction uses generalizing port with
  | nil => rfl
  | cons use uses ih =>
      calc received port (use :: uses) ++ (port.after (use :: uses)).ahead
          = use.received port ++ (received (use.apply port) uses ++
              ((use.apply port).after uses).ahead) := List.append_assoc _ _ _
        _ = use.received port ++ (use.apply port).ahead := by rw [ih]
        _ = port.ahead := use.received_append_ahead port

/-- What a receiving does to the stream, and when it ends. -/
structure Accounted (port : SerialPort) (capacity timeout : Nat) (next : SerialPort)
    (result : Except LinkError Bytes) : Prop where
  /-- It hands over the next bytes of the stream, or none. -/
  handed : handed result ++ next.ahead = port.ahead
  filled : ∀ bytes, result = .ok bytes → bytes ≠ [] ∧ bytes.length ≤ capacity
  delivers : port.isOpen = true → 0 < capacity → ∀ turn later data, port.Ready timeout turn later →
    turn.data = some data → data ≠ [] → result = .ok (data.take capacity)
  /-- A closed port and an empty buffer change nothing, not even the time. -/
  refused : port.isOpen = false ∨ capacity = 0 → next = port ∧ ∃ cause, result = .error cause
  /-- A receiving that runs out of time leaves the turn of the reader for the next one. -/
  expired : result = .error .timeout → next.reader = port.reader ∧ next.now = port.now + timeout
  /-- What is ready at the last moment still counts. -/
  expires : port.isOpen = true → 0 < capacity →
    (result = .error .timeout ↔ ∀ turn ∈ port.reader.head?, port.now + timeout < turn.ready)
  now_le : port.now ≤ next.now
  inTime : next.now ≤ port.now + timeout

theorem Receives.accounted (h : Receives port capacity timeout next result) :
    Accounted port capacity timeout next result where
  handed := h.handed_append_ahead
  filled := by
    rintro bytes rfl
    exact h.filled
  delivers hopen hroom _ _ _ := h.delivers hopen hroom
  refused := h.refused
  expired := by
    rintro rfl
    exact h.reader_of_timeout
  expires := h.expired_iff
  now_le := h.inTime.1
  inTime := h.inTime.2

/-- Whatever is done with a port, the bytes that are received make up the start of what its reader
hands over, and the rest of that is still ahead.  A receiving that is refused or runs out of time
takes nothing, and each ends by its deadline. -/
theorem receive_accounts (port : SerialPort) (uses : List PortUse) :
    received port uses ++ (port.after uses).ahead = port.ahead ∧
      ∀ earlier capacity timeout,
        Accounted (port.after earlier) capacity timeout
          ((port.after earlier).receive capacity timeout).1
          ((port.after earlier).receive capacity timeout).2 :=
  ⟨received_append_ahead port uses, fun earlier capacity timeout =>
    (receives_receive (port.after earlier) capacity timeout).accounted⟩

/-- Three bytes come in at the last moment, for two of which there is room. -/
example :
    let port := (initial [⟨5, some [65, 66, 67]⟩, ⟨9, some [68]⟩] [] .stalls).openPort.1
    received port [.receive 2 5, .receive 8 3, .rest 1, .receive 0 4, .receive 8 2] = [65, 66, 67] ∧
      (port.after [.receive 2 5, .receive 8 3, .rest 1, .receive 0 4, .receive 8 2]).now = 8 := by
  decide

end ModemLink.SerialPort
