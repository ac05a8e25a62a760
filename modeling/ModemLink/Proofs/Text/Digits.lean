import Mathlib.Data.List.Forall2
import Mathlib.Data.Nat.Digits.Defs
import ModemLink.Text.Integer

/-!
# Digits

A digit of a radix stands for its place among the numerals, in either case (`Text.StandsFor`), and
that is the value that `Text.digitIn` gives it (`digitIn_eq_some_iff`).  The digits that a reader
takes off a text are the longest run of such characters (`leadingDigits_append`, `exists_run`), and
the number that it makes of them is the one that positional notation gives (`ofDigits_eq`).
`Text.numeral` writes a number in any radix.
-/

namespace ModemLink.Text

variable {radix value : Nat} {c : Char}

/-! ## One digit -/

/-- The digits in the order of their values. -/
def numerals : Text := "0123456789abcdefghijklmnopqrstuvwxyz"

/-- Whether a character, in either case, is the digit for a value that the radix has. -/
def StandsFor (radix : Nat) (c : Char) (value : Nat) : Prop :=
  value < radix ∧ numerals[value]? = some c.toLower

theorem char_le_iff {c d : Char} : c ≤ d ↔ c.toNat ≤ d.toNat := by
  rw [Char.le_def, UInt32.le_iff_toNat_le]
  rfl

/-- Lower case is 32 places behind upper case. -/
theorem toNat_toLower (c : Char) :
    65 ≤ c.toNat ∧ c.toNat ≤ 90 ∧ c.toLower.toNat = c.toNat + 32 ∨
      ¬ (65 ≤ c.toNat ∧ c.toNat ≤ 90) ∧ c.toLower.toNat = c.toNat := by
  have hrange : c.val ≥ 'A'.val ∧ c.val ≤ 'Z'.val ↔ 65 ≤ c.toNat ∧ c.toNat ≤ 90 := by
    rw [ge_iff_le, UInt32.le_iff_toNat_le, UInt32.le_iff_toNat_le]
    rfl
  unfold Char.toLower
  by_cases hupper : c.val ≥ 'A'.val ∧ c.val ≤ 'Z'.val
  · obtain ⟨hlow, hhigh⟩ := hrange.mp hupper
    refine .inl ⟨hlow, hhigh, ?_⟩
    rw [dif_pos hupper]
    show (c.val + 32).toNat = c.val.toNat + 32
    have hsmall : c.val.toNat ≤ 90 := hhigh
    -- the number stays far below the limit of a word
    rw [UInt32.toNat_add]
    exact Nat.mod_eq_of_lt (by simp only [UInt32.reduceToNat]; omega)
  · rw [dif_neg hupper]
    exact .inr ⟨fun h => hupper (hrange.mpr h), rfl⟩

theorem numerals_eq_some_iff :
    numerals[value]? = some c ↔
      value < 10 ∧ c.toNat = 48 + value ∨ 10 ≤ value ∧ value < 36 ∧ c.toNat = 87 + value := by
  -- the 36 places by computation: the first ten are the digits, then come the letters
  have hplace : ∀ value < 36, numerals[value]?.map Char.toNat =
      some (if value < 10 then 48 + value else 87 + value) := by decide
  have hchar : numerals[value]? = some c ↔ numerals[value]?.map Char.toNat = some c.toNat := by
    rw [Option.map_eq_some_iff]
    constructor
    · intro h
      exact ⟨c, h, rfl⟩
    · rintro ⟨d, hd, hnat⟩
      rw [hd, Char.toNat_inj.mp hnat]
  rw [hchar]
  by_cases hvalue : value < 36
  · rw [hplace value hvalue, Option.some.injEq]
    split
    · omega
    · omega
  · have hnone : numerals[value]? = none := List.getElem?_eq_none (Nat.le_of_not_lt hvalue)
    rw [hnone]
    refine iff_of_false nofun ?_
    omega

theorem digitValue_eq_some_iff : digitValue c = some value ↔ numerals[value]? = some c.toLower := by
  have hlower := toNat_toLower c
  rw [numerals_eq_some_iff]
  simp only [digitValue, char_le_iff, Char.reduceToNat]
  split
  · rw [Option.some.injEq]
    omega
  · split
    · rw [Option.some.injEq]
      omega
    · split
      · rw [Option.some.injEq]
        omega
      · refine iff_of_false nofun ?_
        omega

/-- The value of a digit is its place among the numerals. -/
theorem digitIn_eq_some_iff : digitIn radix c = some value ↔ StandsFor radix c value := by
  rw [digitIn, Option.filter_eq_some_iff, digitValue_eq_some_iff, decide_eq_true_eq, and_comm]
  rfl

theorem digitIn_eq_none_iff : digitIn radix c = none ↔ ∀ value, ¬ StandsFor radix c value := by
  simp only [Option.eq_none_iff_forall_ne_some, ne_eq, digitIn_eq_some_iff]

/-- Digits are letters and decimal digits. -/
theorem StandsFor.toNat_ge (h : StandsFor radix c value) : 48 ≤ c.toNat := by
  have hplace := numerals_eq_some_iff.mp h.2
  have hlower := toNat_toLower c
  omega

/-! ## The longest run of digits -/

variable {s digits rest : Text} {values : List Nat}

/-- What stands before the end of the run is read. -/
theorem leadingDigits_append (hdigits : List.Forall₂ (StandsFor radix) digits values)
    (hend : ∀ c ∈ rest.head?, ∀ value, ¬ StandsFor radix c value) :
    leadingDigits radix (digits ++ rest) = values := by
  induction hdigits with
  | nil =>
      cases rest with
      | nil => rfl
      | cons c rest => rw [List.nil_append, leadingDigits, digitIn_eq_none_iff.mpr (hend c rfl)]
  | cons hdigit _ ih => rw [List.cons_append, leadingDigits, digitIn_eq_some_iff.mpr hdigit, ih]

/-- Every text begins with a run of digits, which may be empty. -/
theorem exists_run (radix : Nat) (s : Text) :
    ∃ digits rest, s = digits ++ rest ∧
      List.Forall₂ (StandsFor radix) digits (leadingDigits radix s) ∧
        ∀ c ∈ rest.head?, ∀ value, ¬ StandsFor radix c value := by
  induction s with
  | nil => exact ⟨[], [], rfl, .nil, nofun⟩
  | cons c s ih =>
      rw [leadingDigits]
      cases hdigit : digitIn radix c with
      | none =>
          refine ⟨[], c :: s, rfl, .nil, ?_⟩
          rintro _ ⟨⟩
          exact digitIn_eq_none_iff.mp hdigit
      | some value =>
          obtain ⟨digits, rest, rfl, hrun, hend⟩ := ih
          exact ⟨c :: digits, rest, rfl, .cons (digitIn_eq_some_iff.mp hdigit) hrun, hend⟩

/-! ## Positional notation -/

/-- The first digit is the most significant one. -/
theorem ofDigits_eq (radix : Nat) (values : List Nat) :
    ofDigits radix values = Nat.ofDigits radix values.reverse := by
  rw [Nat.ofDigits_eq_foldr, List.foldr_reverse, ofDigits]
  congr
  funext number digit
  simp only [Nat.cast_id]
  ring

/-- The values of the digits of a number, the most significant first.  Zero has one digit. -/
def digitsOf (radix n : Nat) : List Nat :=
  if n = 0 then [0] else (Nat.digits radix n).reverse

theorem ofDigits_digitsOf (radix n : Nat) : Nat.ofDigits radix (digitsOf radix n).reverse = n := by
  unfold digitsOf
  split
  next hzero => rw [hzero]; rfl
  · rw [List.reverse_reverse, Nat.ofDigits_digits]

theorem digitsOf_ne_nil (radix n : Nat) : digitsOf radix n ≠ [] := by
  unfold digitsOf
  split
  · exact List.cons_ne_nil _ _
  next hne => exact fun hnil => Nat.digits_ne_nil_iff_ne_zero.mpr hne (List.reverse_eq_nil_iff.mp hnil)

theorem lt_of_mem_digitsOf {n : Nat} (hradix : 2 ≤ radix) (h : value ∈ digitsOf radix n) :
    value < radix := by
  unfold digitsOf at h
  split at h
  · rw [List.mem_singleton.mp h]
    omega
  · exact Nat.digits_lt_base hradix (List.mem_reverse.mp h)

/-- The text of a number in a radix, in lower case. -/
def numeral (radix n : Nat) : Text := (digitsOf radix n).map fun value => numerals.getD value '0'

/-- Texts that differ from the numerals of some values in their cases only have these values. -/
theorem standsFor_of_numerals (hradix : radix ≤ 36) (hsmall : ∀ value ∈ values, value < radix)
    (h : digits.map Char.toLower = values.map fun value => numerals.getD value '0') :
    List.Forall₂ (StandsFor radix) digits values := by
  induction values generalizing digits with
  | nil =>
      rw [List.map_eq_nil_iff.mp h]
      exact .nil
  | cons value values ih =>
      obtain ⟨c, others, rfl, hc, hothers⟩ := List.map_eq_cons_iff.mp h
      have hvalue : value < radix := hsmall value List.mem_cons_self
      have hplace : value < numerals.length := Nat.lt_of_lt_of_le hvalue hradix
      refine .cons ⟨hvalue, ?_⟩ (ih (fun v hv => hsmall v (List.mem_cons_of_mem _ hv)) hothers)
      simp only [hc, List.getD_eq_getElem?_getD, List.getElem?_eq_getElem hplace, Option.getD_some]

end ModemLink.Text
