import Mathlib.Data.Char
import Mathlib.Data.List.Lex
import ModemLink.Text.Utf8

/-!
# UTF-8 keeps the order of texts

Texts are ordered by their characters, and their UTF-8 forms by their bytes.  Both orders are the same
(`toBytes_lt_toBytes_iff`), since the forms of two characters differ at a byte that tells which of
them comes first (`utf8EncodeChar_append_lt`).
-/

namespace ModemLink.Text

/-- No character has a number beyond the last one of Unicode. -/
theorem val_toNat_lt (c : Char) : c.val.toNat < 1114112 := by
  rcases c.valid with h | ⟨-, h⟩
  · exact Nat.lt_trans h (by decide)
  · exact h

/-- The form of the lesser character comes first, whatever follows the two. -/
theorem utf8EncodeChar_append_lt {c d : Char} (h : c < d) (s t : Bytes) :
    String.utf8EncodeChar c ++ s < String.utf8EncodeChar d ++ t := by
  have hlt : c.val.toNat < d.val.toNat := h
  have hmax := val_toNat_lt d
  have hbyte : ∀ m n : Nat, UInt8.ofNat m < UInt8.ofNat n ↔ m % 256 < n % 256 := fun m n => by
    rw [UInt8.lt_iff_toNat_lt, UInt8.toNat_ofNat', UInt8.toNat_ofNat']
  have hsame : ∀ m n : Nat, UInt8.ofNat m = UInt8.ofNat n ↔ m % 256 = n % 256 := fun m n => by
    rw [← UInt8.toNat_inj, UInt8.toNat_ofNat', UInt8.toNat_ofNat']
  unfold String.utf8EncodeChar
  generalize c.val.toNat = m at hlt ⊢
  generalize d.val.toNat = n at hlt hmax ⊢
  simp only
  -- forms of different lengths differ in the first byte, others in the first digit that differs
  split <;> (repeat' split)
  all_goals simp only [List.cons_append, List.nil_append, List.cons_lt_cons_iff, hbyte, hsame,
    show 262144 = 64 * 64 * 64 from rfl, show 4096 = 64 * 64 from rfl, ← Nat.div_div_eq_div_mul]
  all_goals omega

theorem toBytes_lt_toBytes {s t : Text} (h : s < t) : s.toBytes < t.toBytes := by
  induction s generalizing t with
  | nil =>
      cases t with
      | nil => exact absurd h (List.not_lt_nil _)
      | cons d t =>
          obtain ⟨first, rest, heq⟩ :=
            List.exists_cons_of_ne_nil (String.utf8EncodeChar_ne_nil (c := d))
          rw [toBytes_nil, toBytes_cons, heq]
          exact List.nil_lt_cons _ _
  | cons c s ih =>
      cases t with
      | nil => exact absurd h (List.not_lt_nil _)
      | cons d t =>
          rw [toBytes_cons, toBytes_cons]
          rcases List.cons_lt_cons_iff.mp h with hchar | ⟨rfl, hrest⟩
          · exact utf8EncodeChar_append_lt hchar _ _
          · exact List.append_left_lt (ih hrest)

/-- Texts are ordered as their UTF-8 forms are. -/
theorem toBytes_lt_toBytes_iff {s t : Text} : s.toBytes < t.toBytes ↔ s < t := by
  refine ⟨fun h => ?_, toBytes_lt_toBytes⟩
  rcases lt_trichotomy s t with hlt | rfl | hgt
  · exact hlt
  · exact absurd h (List.lt_irrefl _)
  · exact absurd (toBytes_lt_toBytes hgt) (List.lt_asymm h)

end ModemLink.Text
