import ModemLink.Proofs.Text.Ascii
import ModemLink.Proofs.Text.Digits

/-!
# Numbers that were written

`Text.ofNat` writes a number in decimal, and `Text.toSize?` reads it back (`toSize?_ofNat`).  The
digits hold no blank, no sign and nothing beyond ASCII, so nothing is trimmed on the way.
-/

namespace ModemLink.Text

theorem isDigit_of_mem_ofNat {n : Nat} {c : Char} (h : c ∈ ofNat n) : c.isDigit = true :=
  Nat.isDigit_of_mem_toDigits (by decide) (by decide) h

theorem ofNat_ne_nil (n : Nat) : ofNat n ≠ [] := Nat.toDigits_ne_nil

/-- The code points of the decimal digits. -/
theorem toNat_of_isDigit {c : Char} (h : c.isDigit = true) : 48 ≤ c.toNat ∧ c.toNat ≤ 57 := by
  simp only [Char.isDigit, Bool.and_eq_true, decide_eq_true_eq, ge_iff_le, UInt32.le_iff_toNat_le]
    at h
  exact h

theorem digitIn_of_isDigit {c : Char} (h : c.isDigit = true) :
    digitIn 10 c = some (c.toNat - 48) := by
  have hbounds := toNat_of_isDigit h
  have hdigit : '0' ≤ c ∧ c ≤ '9' := ⟨char_le_iff.mpr hbounds.1, char_le_iff.mpr hbounds.2⟩
  simp only [digitIn, digitValue, if_pos hdigit]
  refine Option.filter_eq_some_iff.mpr ⟨rfl, ?_⟩
  exact decide_eq_true (by omega)

theorem leadingDigits_of_forall_isDigit {s : Text} (h : ∀ c ∈ s, c.isDigit = true) :
    leadingDigits 10 s = s.map fun c => c.toNat - 48 := by
  induction s with
  | nil => rfl
  | cons c s ih =>
      rw [leadingDigits, digitIn_of_isDigit (h c List.mem_cons_self)]
      exact congrArg _ (ih fun c hc => h c (List.mem_cons_of_mem _ hc))

/-- The digits of a number stand for the number. -/
theorem ofDigits_leadingDigits_ofNat (n : Nat) : ofDigits 10 (leadingDigits 10 (ofNat n)) = n := by
  rw [leadingDigits_of_forall_isDigit fun _ => isDigit_of_mem_ofNat, ofDigits, List.foldl_map]
  calc (ofNat n).foldl (fun value c => value * 10 + (c.toNat - 48)) 0
      = Nat.ofDigitChars 10 (Nat.toDigits 10 n) 0 := by
        rw [Nat.ofDigitChars_eq_foldl]
        simp only [Nat.mul_comm 10]
        rfl
    _ = n := Nat.ofDigitChars_ten_toDigits

theorem ofNat_ne_plus (n : Nat) (rest : Text) : ofNat n ≠ '+' :: rest := by
  intro h
  have hplus : ('+' : Char).isDigit = true :=
    isDigit_of_mem_ofNat (h ▸ List.mem_cons_self)
  cases hplus

/-- A size that was written is read back. -/
theorem toSize?_ofNat {n : Nat} (h : n < UInt64.size) : (ofNat n).toSize? = some n := by
  have hall : (ofNat n).all Char.isDigit = true :=
    List.all_eq_true.mpr fun _ => isDigit_of_mem_ofNat
  unfold toSize?
  extract_lets digits value
  have hdigits : digits = ofNat n := by
    unfold digits
    split
    next heq => exact absurd heq (ofNat_ne_plus n _)
    · rfl
  have hvalue : value = n := by
    unfold value
    rw [hdigits, ofDigits_leadingDigits_ofNat]
  have hcond : digits ≠ [] ∧ digits.all Char.isDigit = true := by
    rw [hdigits]
    exact ⟨ofNat_ne_nil n, hall⟩
  rw [if_pos hcond, hvalue, if_pos h]

theorem isBlank_of_isDigit {c : Char} (h : c.isDigit = true) : isBlank c = false := by
  have hbounds := toNat_of_isDigit h
  unfold isBlank blankRanges
  simp only [List.any_cons, List.any_nil, Bool.or_false, Bool.or_eq_false_iff,
    Bool.and_eq_false_iff, decide_eq_false_iff_not]
  omega

/-- Digits are not trimmed. -/
theorem trim_ofNat (n : Nat) : (ofNat n).trim = ofNat n := by
  have hblank : ∀ c ∈ ofNat n, isBlank c = false :=
    fun c hc => isBlank_of_isDigit (isDigit_of_mem_ofNat hc)
  have hdrop : ∀ s : Text, (∀ c ∈ s, isBlank c = false) → s.dropWhile isBlank = s := by
    intro s hs
    cases s with
    | nil => rfl
    | cons c s => rw [List.dropWhile_cons_of_neg (by simp [hs c List.mem_cons_self])]
  rw [trim, dropStart, hdrop _ hblank, dropEnd,
    hdrop _ fun c hc => hblank c (List.mem_reverse.mp hc), List.reverse_reverse]

/-- The size of a number below a power of ten. -/
theorem size_ofNat_le {n digits : Nat} (hdigits : 0 < digits) (h : n < Nat.pow 10 digits) :
    (ofNat n).size ≤ digits := by
  have hsize : ∀ s : Text, (∀ c ∈ s, c.isDigit = true) → s.size = s.length := by
    intro s hs
    induction s with
    | nil => rfl
    | cons c s ih =>
        have hbounds := toNat_of_isDigit (hs c List.mem_cons_self)
        have hone : c.utf8Size = 1 := utf8Size_of_lt (by omega)
        rw [size_cons, hone, ih fun c hc => hs c (List.mem_cons_of_mem _ hc), List.length_cons,
          Nat.add_comm]
  rw [hsize _ fun _ => isDigit_of_mem_ofNat]
  exact (Nat.length_toDigits_le_iff (by decide) hdigits).mpr h

end ModemLink.Text
