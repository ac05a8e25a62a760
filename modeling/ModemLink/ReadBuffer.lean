import ModemLink.Config

/-!
# Framing the received bytes

The modem sends lines, and raw payloads that a header line announces.  `ReadBuffer.next` takes the
first complete frame off the buffer.  A payload that is still owed comes first; otherwise empty
lines are skipped, and then the hooks of the command in flight are asked before a line end is looked
for:

* a *prompt* is a line without an end, such as `> `;
* a *header* is a line after which a number of raw bytes follow, whatever they are.

A buffer that is full and shows no line end holds no line of the modem and is emptied.
-/

namespace ModemLink

/-- What a header detector finds at the start of the buffer. -/
inductive HeaderMatch where
  | absent
  /-- It may begin with a header that has not arrived completely. -/
  | incomplete
  /-- The header announces more than can be held. -/
  | tooLarge
  /-- A header of `start` bytes, its line end included, announces `length` bytes of payload. -/
  | found (start length : Nat)
  deriving DecidableEq, Repr

/-- How the command in flight changes the framing. -/
structure Hooks where
  /-- Recognises a header at the start of the buffer. -/
  header : Option (Bytes → HeaderMatch)
  /-- Recognises a prompt at the start of the buffer and returns its length. -/
  prompt : Option (Bytes → Option Nat)

namespace Hooks

/-- Lines only. -/
def none : Hooks := { header := Option.none, prompt := Option.none }

/-- The length of the prompt at the start of `bytes`.  A length that the bytes do not have is no
prompt. -/
def promptLength (hooks : Hooks) (bytes : Bytes) : Option Nat :=
  (hooks.prompt.bind fun detect => detect bytes).filter fun n => 0 < n && n ≤ bytes.length

/-- The header at the start of `bytes`. -/
def headerMatch (hooks : Hooks) (bytes : Bytes) : HeaderMatch :=
  match hooks.header with
  | Option.none => .absent
  | some detect => detect bytes

/-- The usual prompt for payload, `>`, with its space if that has arrived. -/
def dataPrompt : Bytes → Option Nat
  | 62 :: 32 :: _ => some 2
  | 62 :: _ => some 1
  | _ => Option.none

end Hooks

/-- A complete piece of the received stream. -/
inductive Frame where
  /-- A line without its end. -/
  | line (bytes : Bytes)
  /-- The payload that a header announced. -/
  | payload (bytes : Bytes)
  deriving DecidableEq, Repr

/-- The bytes that were received and not yet taken. -/
structure ReadBuffer where
  bytes : Bytes
  /-- The length of the payload that was announced last, until it is complete. -/
  owed : Option Nat
  deriving DecidableEq, Repr

namespace ReadBuffer

def empty : ReadBuffer := { bytes := [], owed := none }

/-! ## Line ends -/

/-- A byte that may end a line. -/
def isLineEnd (byte : UInt8) : Bool := byte = 13 || byte = 10 || byte = 0

/-- Without the pairs of CR and LF at the start. -/
def skipPairs : Bytes → Bytes
  | first :: second :: rest =>
      if first = 13 ∧ second = 10 then skipPairs rest else first :: second :: rest
  | bytes => bytes

/-- Without the empty lines at the start. -/
def skipLineEnds : LineEnding → Bytes → Bytes
  | .anyOf, bytes => bytes.dropWhile isLineEnd
  | .pair, bytes => skipPairs bytes

/-- Split at the first pair of CR and LF. -/
def splitPair? : Bytes → Option (Bytes × Bytes)
  | first :: second :: rest =>
      if first = 13 ∧ second = 10 then some ([], rest)
      else (splitPair? (second :: rest)).map fun (line, rest) => (first :: line, rest)
  | _ => none

/-- Split at the first byte that may end a line. -/
def splitAny? (bytes : Bytes) : Option (Bytes × Bytes) :=
  match bytes.dropWhile fun byte => !isLineEnd byte with
  | [] => none
  | _ :: rest => some (bytes.takeWhile fun byte => !isLineEnd byte, rest)

/-- The first line and what follows its end. -/
def splitLine? : LineEnding → Bytes → Option (Bytes × Bytes)
  | .anyOf, bytes => splitAny? bytes
  | .pair, bytes => splitPair? bytes

theorem skipPairs_suffix (bytes : Bytes) : skipPairs bytes <:+ bytes := by
  fun_induction skipPairs bytes with
  | case1 first second rest h ih =>
    exact ih.trans ((List.suffix_cons _ _).trans (List.suffix_cons _ _))
  | case2 => exact List.suffix_refl _
  | case3 => exact List.suffix_refl _

/-- Skipping empty lines drops bytes from the start and nothing else. -/
theorem skipLineEnds_suffix (ending : LineEnding) (bytes : Bytes) :
    skipLineEnds ending bytes <:+ bytes := by
  cases ending with
  | anyOf => exact List.dropWhile_suffix _
  | pair => exact skipPairs_suffix bytes

theorem splitPair?_eq_some {bytes line rest : Bytes} (h : splitPair? bytes = some (line, rest)) :
    bytes = line ++ [13, 10] ++ rest := by
  fun_induction splitPair? bytes generalizing line with
  | case1 first second tail hp => simp_all
  | case2 first second tail hp ih =>
    simp only [Option.map_eq_some_iff, Prod.mk.injEq, Prod.exists] at h
    obtain ⟨line, rest, h, rfl, rfl⟩ := h
    rw [ih h]
    rfl
  | case3 => simp at h

theorem splitAny?_eq_some {bytes line rest : Bytes} (h : splitAny? bytes = some (line, rest)) :
    ∃ byte, isLineEnd byte = true ∧ bytes = line ++ byte :: rest := by
  unfold splitAny? at h
  split at h
  · contradiction
  · next byte tail hd =>
    simp only [Option.some.injEq, Prod.mk.injEq] at h
    obtain ⟨rfl, rfl⟩ := h
    refine ⟨byte, ?_, ?_⟩
    · have := List.head?_dropWhile_not (fun byte => !isLineEnd byte) bytes
      rw [hd] at this
      simpa using this
    · rw [← hd, List.takeWhile_append_dropWhile]

/-- A line and what follows it are shorter than the bytes they came from, by the line end. -/
theorem length_splitLine? {ending : LineEnding} {bytes line rest : Bytes}
    (h : splitLine? ending bytes = some (line, rest)) :
    line.length + rest.length < bytes.length := by
  cases ending with
  | anyOf =>
    obtain ⟨byte, -, rfl⟩ := splitAny?_eq_some h
    simp
  | pair =>
    rw [splitPair?_eq_some h]
    simp only [List.length_append, List.length_cons, List.length_nil]
    omega

/-- A header without its line end. -/
def trimLineEnd (header : Bytes) : Bytes := (header.reverse.dropWhile isLineEnd).reverse

/-! ## Frames -/

def append (buffer : ReadBuffer) (chunk : Bytes) : ReadBuffer :=
  { buffer with bytes := buffer.bytes ++ chunk }

def resetIfFull (capacity : Nat) (buffer : ReadBuffer) : ReadBuffer :=
  if capacity ≤ buffer.bytes.length then empty else buffer

/-- The first frame of bytes that begin with neither a line end nor an owed payload. -/
def frame? (capacity : Nat) (ending : LineEnding) (hooks : Hooks) (bytes : Bytes) :
    Option Frame × ReadBuffer :=
  match hooks.promptLength bytes with
  | some n => (some (.line (bytes.take n)), { bytes := bytes.drop n, owed := none })
  | none =>
      match hooks.headerMatch bytes with
      | .found start length =>
          (some (.line (trimLineEnd (bytes.take start))),
            { bytes := bytes.drop start, owed := if length = 0 then none else some length })
      | .incomplete => (none, { bytes := bytes, owed := none })
      | .tooLarge => (none, empty)
      | .absent =>
          match splitLine? ending bytes with
          | some (line, rest) => (some (.line line), { bytes := rest, owed := none })
          | none => (none, resetIfFull capacity { bytes := bytes, owed := none })

/-- The first complete frame, and the buffer without it.  Without a frame the buffer waits for more
bytes. -/
def next (capacity : Nat) (ending : LineEnding) (hooks : Hooks) (buffer : ReadBuffer) :
    Option Frame × ReadBuffer :=
  match buffer.owed with
  | some length =>
      if buffer.bytes.length < length then (none, buffer)
      else
        (some (.payload (buffer.bytes.take length)),
          { bytes := buffer.bytes.drop length, owed := none })
  | none =>
      match skipLineEnds ending buffer.bytes with
      | [] => (none, empty)
      | bytes => frame? capacity ending hooks bytes

end ReadBuffer

end ModemLink
