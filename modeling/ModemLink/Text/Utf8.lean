import ModemLink.Config
import ModemLink.Text.Basic

/-!
# Text as bytes

The link carries UTF-8.  `Text.toBytes` writes it, `Text.ofBytes?` reads it and refuses everything
that is not well formed.
-/

namespace ModemLink.Text

/-- The UTF-8 form. -/
def toBytes (s : Text) : Bytes := s.flatMap String.utf8EncodeChar

/-- The text whose UTF-8 form `bytes` is, if it is one. -/
def ofBytes? (bytes : Bytes) : Option Text :=
  (ByteArray.mk bytes.toArray).utf8Decode?.map Array.toList

@[simp] theorem toBytes_nil : toBytes [] = [] := rfl

@[simp] theorem toBytes_cons (c : Char) (s : Text) :
    toBytes (c :: s) = String.utf8EncodeChar c ++ toBytes s := rfl

@[simp] theorem toBytes_append (s t : Text) : toBytes (s ++ t) = toBytes s ++ toBytes t :=
  List.flatMap_append

/-- The size of a text is the length of its UTF-8 form. -/
@[simp] theorem length_toBytes (s : Text) : s.toBytes.length = s.size := by
  induction s with
  | nil => rfl
  | cons c s ih => simp [ih]

/-- Only the empty text has no bytes. -/
theorem toBytes_eq_nil_iff {s : Text} : s.toBytes = [] ↔ s = [] := by
  constructor
  · intro h
    have hlength := length_le_size s
    rw [← length_toBytes, h] at hlength
    exact List.length_eq_zero_iff.mp (Nat.le_zero.mp hlength)
  · rintro rfl
    rfl

/-- Reading what was written gives the text back. -/
@[simp] theorem ofBytes?_toBytes (s : Text) : ofBytes? s.toBytes = some s := by
  have h : (ByteArray.mk s.toBytes.toArray) = s.utf8Encode := by
    show _ = (s.toBytes).toByteArray
    ext1
    simp
  unfold ofBytes?
  rw [h, List.utf8Decode?_utf8Encode]
  rfl

/-- A text is read from its UTF-8 form only. -/
theorem toBytes_of_ofBytes? {bytes : Bytes} {s : Text} (h : ofBytes? bytes = some s) :
    s.toBytes = bytes := by
  unfold ofBytes? at h
  rw [Option.map_eq_some_iff] at h
  obtain ⟨chars, hc, rfl⟩ := h
  have hs : (ByteArray.mk bytes.toArray).utf8Decode?.isSome = true := by simp [hc]
  have hencode := ByteArray.utf8Encode_get_utf8Decode? (h := hs)
  simp only [hc, Option.get_some] at hencode
  simpa [List.utf8Encode, toBytes] using congrArg (fun array => array.data.toList) hencode

end ModemLink.Text
