import ModemLink.Text.Utf8

/-!
# ASCII in UTF-8

A byte below 128 stands in the UTF-8 form of a text only for the character with that number
(`mem_toBytes_iff`).  So the bytes that end lines can be looked for in the text or in its bytes, and
a text begins with an ASCII text if its bytes do (`prefix_of_toBytes_prefix`).
-/

namespace ModemLink.Text

/-- The UTF-8 form of a character holds an ASCII byte only if the character is that byte. -/
theorem mem_utf8EncodeChar_iff {c : Char} {byte : UInt8} (hbyte : byte.toNat < 128) :
    byte ∈ String.utf8EncodeChar c ↔ c.toNat = byte.toNat := by
  have hlow : ∀ n, byte = UInt8.ofNat n ↔ byte.toNat = n % 256 := fun n => by
    rw [← UInt8.toNat_inj, UInt8.toNat_ofNat']
  have hval : c.val.toNat = c.toNat := rfl
  unfold String.utf8EncodeChar
  simp only [hval]
  -- by the length of the form: all bytes of a longer one have the highest bit set
  split
  · simp only [List.mem_singleton, hlow]
    omega
  · split
    · simp only [List.mem_cons, List.not_mem_nil, or_false, hlow]
      omega
    · split
      · simp only [List.mem_cons, List.not_mem_nil, or_false, hlow]
        omega
      · simp only [List.mem_cons, List.not_mem_nil, or_false, hlow]
        omega

/-- The UTF-8 form of a text holds an ASCII byte only where the text holds that character. -/
theorem mem_toBytes_iff {s : Text} {byte : UInt8} (hbyte : byte.toNat < 128) :
    byte ∈ s.toBytes ↔ ∃ c ∈ s, c.toNat = byte.toNat := by
  simp [toBytes, mem_utf8EncodeChar_iff hbyte]

/-- Whether a text consists of ASCII characters. -/
def isAscii (s : Text) : Bool := s.all fun c => c.toNat < 128

theorem utf8Size_of_lt {c : Char} (h : c.toNat < 128) : c.utf8Size = 1 := by
  rw [Char.utf8Size_eq_one_iff, UInt32.le_iff_toNat_le]
  exact Nat.le_of_lt_succ h

/-- An ASCII character is its own UTF-8 form. -/
theorem utf8EncodeChar_of_lt {c : Char} (h : c.toNat < 128) :
    ∃ byte : UInt8, byte.toNat = c.toNat ∧ String.utf8EncodeChar c = [byte] := by
  refine ⟨c.val.toUInt8, ?_, String.utf8EncodeChar_eq_singleton (utf8Size_of_lt h)⟩
  rw [UInt32.toNat_toUInt8]
  exact Nat.mod_eq_of_lt (Nat.lt_trans h (by decide))

/-- An ASCII text begins a text if its UTF-8 form begins the UTF-8 form of the text. -/
theorem prefix_of_toBytes_prefix {start s : Text} (hstart : start.isAscii = true)
    (h : start.toBytes <+: s.toBytes) : start <+: s := by
  induction start generalizing s with
  | nil => exact List.nil_prefix
  | cons c start ih =>
      rw [isAscii, List.all_cons, Bool.and_eq_true, decide_eq_true_eq] at hstart
      obtain ⟨hc, hothers⟩ := hstart
      obtain ⟨byte, hbyte, hencode⟩ := utf8EncodeChar_of_lt hc
      rw [toBytes_cons, hencode, List.singleton_append] at h
      cases s with
      | nil => exact absurd (List.prefix_nil.mp h) (List.cons_ne_nil _ _)
      | cons d s =>
          rw [toBytes_cons] at h
          obtain ⟨first, others, hd⟩ :=
            List.exists_cons_of_ne_nil (String.utf8EncodeChar_ne_nil (c := d))
          rw [hd, List.cons_append, List.cons_prefix_cons] at h
          obtain ⟨rfl, hrest⟩ := h
          -- the first byte tells that the characters are the same
          have hmem : byte ∈ String.utf8EncodeChar d := by
            rw [hd]
            exact List.mem_cons_self
          have hsame : d.toNat = byte.toNat := (mem_utf8EncodeChar_iff (by omega)).mp hmem
          obtain rfl : d = c := Char.toNat_inj.mp (hsame.trans hbyte)
          rw [hencode, List.cons.injEq] at hd
          obtain ⟨-, rfl⟩ := hd
          rw [List.cons_prefix_cons]
          exact ⟨rfl, ih hothers hrest⟩

end ModemLink.Text
