import Mathlib.Data.List.TakeWhile
import ModemLink.Proofs.Text.Digits

/-!
# Integers at the start of a text

`Text.LeadsWith` says how an integer stands at the start of a text: after blanks and at most one sign
there are digits, and whatever follows them is no digit.  `Text.toInt` finds it if it fits a word of
32 bits (`toInt_of_leadsWith`, `toInt_of_not_leadsWith`), so it reads back what was written in any
radix (`leadsWith_of_ofInt`).

`Text.toInt` computes with numbers of any size.  `Text.toInt32` computes in words, as a processor does:
each digit is multiplied and added in a word of 64 bits, where both are checked, and the result is
narrowed to 32 bits.  Numbers only grow with their digits, so a check fails only if the whole number
is too large (`foldlM_pushDigit?`), and both computations agree (`toInt_eq_toInt32`).
-/

namespace ModemLink.Text

variable {radix : Nat} {s : Text} {value : Int}

/-! ## The grammar -/

/-- At most one sign, and the factor that it means. -/
inductive Sign : Text → Int → Prop
  | absent : Sign [] 1
  | plus : Sign ['+'] 1
  | minus : Sign ['-'] (-1)

/-- A text begins with an integer: after blanks and at most one sign there is a run of digits that is
not empty and does not go on. -/
inductive LeadsWith (radix : Nat) : Text → Int → Prop
  | intro {blanks sign digits rest : Text} {factor : Int} {values : List Nat}
      (hblanks : ∀ c ∈ blanks, isAsciiBlank c = true) (hsign : Sign sign factor)
      (hdigits : List.Forall₂ (StandsFor radix) digits values) (hne : digits ≠ [])
      (hend : ∀ c ∈ rest.head?, ∀ value, ¬ StandsFor radix c value) :
      LeadsWith radix (blanks ++ sign ++ digits ++ rest)
        (factor * Nat.ofDigits radix values.reverse)

/-- The values of a signed word of 32 bits. -/
theorem contains_signed_32 {n : Int} :
    (IntRange.signed 32).Contains n ↔ -2147483648 ≤ n ∧ n ≤ 2147483647 := Iff.rfl

/-- The values of a signed word of 64 bits. -/
theorem contains_signed_64 {n : Int} :
    (IntRange.signed 64).Contains n ↔
      -9223372036854775808 ≤ n ∧ n ≤ 9223372036854775807 := Iff.rfl

/-! ## What is found -/

theorem toNat_le_of_isAsciiBlank {c : Char} (h : isAsciiBlank c = true) : c.toNat ≤ 32 := by
  simp only [isAsciiBlank, Bool.or_eq_true, decide_eq_true_eq] at h
  rcases h with (((rfl | rfl) | rfl) | rfl) | rfl <;> decide

/-- Blanks and a sign are taken off, because a digit is neither. -/
theorem takeSign_dropStart {blanks sign digits : Text} {factor : Int} {values : List Nat}
    (hblanks : ∀ c ∈ blanks, isAsciiBlank c = true) (hsign : Sign sign factor)
    (hdigits : List.Forall₂ (StandsFor radix) digits values) (hne : digits ≠ []) (rest : Text) :
    ∃ negative, takeSign (dropStart isAsciiBlank (blanks ++ sign ++ digits ++ rest)) =
        (negative, digits ++ rest) ∧ factor = if negative then -1 else 1 := by
  obtain ⟨c, others, rfl⟩ := List.exists_cons_of_ne_nil hne
  obtain ⟨first, values, hfirst, -, rfl⟩ := List.forall₂_cons_left_iff.mp hdigits
  have hdigit := hfirst.toNat_ge
  -- what begins with a digit or a sign is no blank, so the blanks end there
  have hkeep : ∀ (c : Char) (t : Text), 33 ≤ c.toNat →
      dropStart isAsciiBlank (blanks ++ c :: t) = c :: t := by
    intro c t hc
    have hblank : ¬ isAsciiBlank c = true := fun h => by
      have := toNat_le_of_isAsciiBlank h
      omega
    rw [dropStart, List.dropWhile_append_of_pos hblanks, List.dropWhile_cons_of_neg hblank]
  cases hsign with
  | absent =>
      refine ⟨false, ?_, rfl⟩
      rw [List.append_nil, List.append_assoc, List.cons_append, hkeep c _ (by omega)]
      unfold takeSign
      split
      · next heq =>
          cases heq
          exact absurd hdigit (by decide)
      · next heq =>
          cases heq
          exact absurd hdigit (by decide)
      · rfl
  | plus =>
      refine ⟨false, ?_, rfl⟩
      rw [List.append_assoc, List.append_assoc, List.singleton_append, hkeep '+' _ (by decide)]
      rfl
  | minus =>
      refine ⟨true, ?_, rfl⟩
      rw [List.append_assoc, List.append_assoc, List.singleton_append, hkeep '-' _ (by decide)]
      rfl

/-- The signed number of some digits. -/
def signedValue (radix : Nat) (negative : Bool) (digits : List Nat) : Int :=
  if negative then -(ofDigits radix digits : Int) else ofDigits radix digits

theorem signedValue_eq (radix : Nat) (negative : Bool) (digits : List Nat) :
    signedValue radix negative digits =
      (if negative then -1 else 1) * Nat.ofDigits radix digits.reverse := by
  rw [signedValue, ofDigits_eq]
  cases negative <;> simp

theorem toInt_of_digits {negative : Bool} {unsigned : Text} {digits : List Nat}
    (hradix : 2 ≤ radix ∧ radix ≤ 36)
    (hsplit : takeSign (s.dropStart isAsciiBlank) = (negative, unsigned))
    (hdigits : leadingDigits radix unsigned = digits) (hne : digits ≠ []) :
    s.toInt radix =
      if (IntRange.signed 32).Contains (signedValue radix negative digits) then
        .ok (signedValue radix negative digits)
      else .error .malformed := by
  rw [toInt, if_pos hradix, hsplit]
  -- `hne` rules out the case of no digits
  simp only [hdigits]
  rfl

/-- The integer that a text begins with is found, if it fits. -/
theorem toInt_of_leadsWith (hradix : 2 ≤ radix ∧ radix ≤ 36) (h : LeadsWith radix s value) :
    s.toInt radix =
      if (IntRange.signed 32).Contains value then .ok value else .error .malformed := by
  cases h with
  | @intro blanks sign digits rest factor values hblanks hsign hdigits hne hend =>
      obtain ⟨negative, hsplit, rfl⟩ :=
        takeSign_dropStart hblanks hsign hdigits hne rest
      have hvalues : values ≠ [] := by
        rintro rfl
        exact hne (List.forall₂_nil_right_iff.mp hdigits)
      rw [toInt_of_digits hradix hsplit (leadingDigits_append hdigits hend) hvalues,
        signedValue_eq]

/-- At most one sign is taken off, and nothing else. -/
theorem takeSign_cases (s : Text) :
    ∃ sign factor, Sign sign factor ∧ s = sign ++ (takeSign s).2 := by
  unfold takeSign
  split
  · exact ⟨_, _, .minus, rfl⟩
  · exact ⟨_, _, .plus, rfl⟩
  · exact ⟨_, _, .absent, rfl⟩

/-- Where digits are found, the text begins with an integer. -/
theorem exists_leadsWith (h : leadingDigits radix (takeSign (s.dropStart isAsciiBlank)).2 ≠ []) :
    ∃ value, LeadsWith radix s value := by
  obtain ⟨sign, factor, hsign, hunsigned⟩ := takeSign_cases (s.dropStart isAsciiBlank)
  obtain ⟨digits, rest, hrun, hdigits, hend⟩ :=
    exists_run radix (takeSign (s.dropStart isAsciiBlank)).2
  have hblanks : ∀ c ∈ s.takeWhile isAsciiBlank, isAsciiBlank c = true :=
    fun _ => List.mem_takeWhile_imp
  have hne : digits ≠ [] := by
    rintro rfl
    exact h (List.forall₂_nil_left_iff.mp hdigits)
  have hwhole : s.takeWhile isAsciiBlank ++ sign ++ digits ++ rest = s := by
    rw [List.append_assoc, List.append_assoc, ← hrun, ← hunsigned]
    exact List.takeWhile_append_dropWhile
  have hleads := LeadsWith.intro hblanks hsign hdigits hne hend
  rw [hwhole] at hleads
  exact ⟨_, hleads⟩

/-- A text that does not begin with an integer is malformed. -/
theorem toInt_of_not_leadsWith (hradix : 2 ≤ radix ∧ radix ≤ 36)
    (h : ∀ value, ¬ LeadsWith radix s value) : s.toInt radix = .error .malformed := by
  have hnone : leadingDigits radix (takeSign (s.dropStart isAsciiBlank)).2 = [] := by
    by_contra hsome
    obtain ⟨value, hvalue⟩ := exists_leadsWith hsome
    exact h value hvalue
  rw [toInt, if_pos hradix]
  simp only [hnone]

/-- The integer that is read is the one that the text begins with. -/
theorem toInt_eq_ok_iff (hradix : 2 ≤ radix ∧ radix ≤ 36) :
    s.toInt radix = .ok value ↔
      LeadsWith radix s value ∧ (IntRange.signed 32).Contains value := by
  constructor
  · intro h
    by_cases hleads : ∃ found, LeadsWith radix s found
    · obtain ⟨found, hfound⟩ := hleads
      rw [toInt_of_leadsWith hradix hfound] at h
      split at h
      next hrange =>
        cases h
        exact ⟨hfound, hrange⟩
      · cases h
    · rw [toInt_of_not_leadsWith hradix (not_exists.mp hleads)] at h
      cases h
  · rintro ⟨hleads, hrange⟩
    rw [toInt_of_leadsWith hradix hleads, if_pos hrange]

theorem toInt_cases (hradix : 2 ≤ radix ∧ radix ≤ 36) (s : Text) :
    (∃ value, s.toInt radix = .ok value) ∨ s.toInt radix = .error .malformed := by
  by_cases hleads : ∃ found, LeadsWith radix s found
  · obtain ⟨found, hfound⟩ := hleads
    rw [toInt_of_leadsWith hradix hfound]
    split
    · exact .inl ⟨found, rfl⟩
    · exact .inr rfl
  · exact .inr (toInt_of_not_leadsWith hradix (not_exists.mp hleads))

/-! ## Integers that were written -/

/-- The text of an integer in a radix, in lower case. -/
def ofInt (radix : Nat) (n : Int) : Text :=
  if n < 0 then '-' :: numeral radix n.natAbs else numeral radix n.natAbs

theorem eq_of_toLower_eq_minus {c : Char} (h : c.toLower = '-') : c = '-' := by
  have hlower := toNat_toLower c
  rw [h] at hlower
  have hminus : ('-' : Char).toNat = 45 := rfl
  refine Char.toNat_inj.mp ?_
  omega

/-- Written digits, in whatever cases, begin a text with their integer. -/
theorem leadsWith_of_numeral (hradix : 2 ≤ radix ∧ radix ≤ 36) {n : Nat} {sign digits rest : Text}
    {factor : Int} (hsign : Sign sign factor) (h : digits.map Char.toLower = numeral radix n)
    (hend : ∀ c ∈ rest.head?, ∀ value, ¬ StandsFor radix c value) :
    LeadsWith radix (sign ++ digits ++ rest) (factor * n) := by
  have hdigits : List.Forall₂ (StandsFor radix) digits (digitsOf radix n) :=
    standsFor_of_numerals hradix.2 (fun _ => lt_of_mem_digitsOf hradix.1) h
  have hne : digits ≠ [] := by
    rintro rfl
    exact digitsOf_ne_nil radix n (List.forall₂_nil_left_iff.mp hdigits)
  have hleads : LeadsWith radix ([] ++ sign ++ digits ++ rest) _ :=
    .intro nofun hsign hdigits hne hend
  rwa [ofDigits_digitsOf] at hleads

theorem leadsWith_of_ofInt (hradix : 2 ≤ radix ∧ radix ≤ 36) {n : Int} {t rest : Text}
    (h : t.map Char.toLower = ofInt radix n)
    (hend : ∀ c ∈ rest.head?, ∀ value, ¬ StandsFor radix c value) :
    LeadsWith radix (t ++ rest) n := by
  unfold ofInt at h
  by_cases hneg : n < 0
  · rw [if_pos hneg] at h
    obtain ⟨c, digits, rfl, hc, hdigits⟩ := List.map_eq_cons_iff.mp h
    obtain rfl := eq_of_toLower_eq_minus hc
    have hvalue : -1 * (n.natAbs : Int) = n := by omega
    have hleads := leadsWith_of_numeral hradix .minus hdigits hend
    rwa [hvalue] at hleads
  · rw [if_neg hneg] at h
    have hvalue : 1 * (n.natAbs : Int) = n := by omega
    have hleads := leadsWith_of_numeral hradix .absent h hend
    rwa [hvalue] at hleads

/-! ## Words -/

/-- A word of 64 bits, if it can hold a number. -/
def word? (n : Int) : Option Int64 :=
  if (IntRange.signed 64).Contains n then some (Int64.ofInt n) else none

/-- Append a digit to the number in a word.  The product and the sum are both checked. -/
def pushDigit? (radix : Nat) (word : Int64) (digit : Nat) : Option Int64 := do
  let shifted ← word? (word.toInt * radix)
  word? (shifted.toInt + digit)

/-- A word of 32 bits with the same value, if there is one. -/
def narrow? (word : Int64) : Option Int32 :=
  if -2147483648 ≤ word ∧ word ≤ 2147483647 then some word.toInt32 else none

/-- The number of some digits with a sign, in words. -/
def int32? (radix : Nat) (negative : Bool) (digits : List Nat) : Option Int32 := do
  let magnitude ← digits.foldlM (pushDigit? radix) 0
  narrow? (if negative then -magnitude else magnitude)

/-- The integer at the start of a text, in words. -/
def toInt32 (radix : Nat) (s : Text) : Except TextError Int32 :=
  if 2 ≤ radix ∧ radix ≤ 36 then
    let (negative, unsigned) := takeSign (s.dropStart isAsciiBlank)
    match leadingDigits radix unsigned with
    | [] => .error .malformed
    | digits =>
        match int32? radix negative digits with
        | some word => .ok word
        | none => .error .malformed
  else
    .error .badParameter

theorem toInt_of_word? {n : Int} {word : Int64} (h : word? n = some word) : word.toInt = n := by
  unfold word? at h
  split at h
  next hrange =>
    cases h
    obtain ⟨hlow, hhigh⟩ := contains_signed_64.mp hrange
    exact Int64.toInt_ofInt_of_le (by omega) (by omega)
  · cases h

theorem word?_eq_none_iff {n : Int} :
    word? n = none ↔ n < -9223372036854775808 ∨ 9223372036854775807 < n := by
  unfold word?
  split
  next hrange =>
    obtain ⟨hlow, hhigh⟩ := contains_signed_64.mp hrange
    exact iff_of_false nofun (by omega)
  next hrange =>
    rw [contains_signed_64] at hrange
    exact iff_of_true rfl (by omega)

/-- A number that is too large stays so when it grows. -/
theorem word?_eq_none_of_le {m n : Nat} (hle : m ≤ n) (h : word? m = none) : word? n = none := by
  rw [word?_eq_none_iff] at h ⊢
  omega

/-- Neither check fails early: the larger number is the one with the digit. -/
theorem word?_bind_pushDigit? (hradix : 1 ≤ radix) (m digit : Nat) :
    ((word? m).bind fun word => pushDigit? radix word digit) =
      word? ((m * radix + digit : Nat) : Int) := by
  have hshift : m ≤ m * radix := Nat.le_mul_of_pos_right m hradix
  have hpush : m * radix ≤ m * radix + digit := Nat.le_add_right _ _
  cases hword : word? m with
  | none => exact (word?_eq_none_of_le (hshift.trans hpush) hword).symm
  | some word =>
      have hproduct : word.toInt * radix = ((m * radix : Nat) : Int) := by
        rw [toInt_of_word? hword, Nat.cast_mul]
      show pushDigit? radix word digit = _
      rw [pushDigit?, hproduct]
      cases hshifted : word? ((m * radix : Nat) : Int) with
      | none => exact (word?_eq_none_of_le hpush hshifted).symm
      | some shifted =>
          show word? (shifted.toInt + digit) = _
          rw [toInt_of_word? hshifted, Nat.cast_add]

/-- The number of all digits is there if it fits, whatever zeros come first. -/
theorem foldlM_pushDigit? (hradix : 1 ≤ radix) (digits : List Nat) (m : Nat) :
    ((word? m).bind fun word => digits.foldlM (pushDigit? radix) word) =
      word? (digits.foldl (fun value digit => value * radix + digit) m : Nat) := by
  induction digits generalizing m with
  | nil => exact Option.bind_fun_some (word? m)
  | cons digit digits ih =>
      calc ((word? m).bind fun word => (digit :: digits).foldlM (pushDigit? radix) word)
          = ((word? m).bind fun word => pushDigit? radix word digit).bind
              fun word => digits.foldlM (pushDigit? radix) word :=
            (Option.bind_assoc _ _ _).symm
        _ = (word? ((m * radix + digit : Nat) : Int)).bind
              fun word => digits.foldlM (pushDigit? radix) word := by
            rw [word?_bind_pushDigit? hradix]
        _ = word? ((digit :: digits).foldl (fun value digit => value * radix + digit) m : Nat) :=
            ih (m * radix + digit)

theorem narrow?_eq {n : Int} {word : Int64} (h : word.toInt = n) :
    narrow? word =
      if (IntRange.signed 32).Contains n then some (Int32.ofInt n) else none := by
  have hrange : -2147483648 ≤ word ∧ word ≤ 2147483647 ↔ (IntRange.signed 32).Contains n := by
    rw [contains_signed_32, Int64.le_iff_toInt_le, Int64.le_iff_toInt_le, h]
    rfl
  unfold narrow?
  by_cases hcontains : (IntRange.signed 32).Contains n
  · rw [if_pos (hrange.mpr hcontains), if_pos hcontains, Option.some.injEq, ← Int32.toInt_inj,
      Int64.toInt_toInt32, h]
    exact (Int32.toInt_ofInt).symm
  · rw [if_neg fun h => hcontains (hrange.mp h), if_neg hcontains]

/-- The computation in words gives the number if it fits, and nothing if it does not. -/
theorem int32?_eq (hradix : 1 ≤ radix) (negative : Bool) (digits : List Nat) :
    int32? radix negative digits =
      if (IntRange.signed 32).Contains (signedValue radix negative digits) then
        some (Int32.ofInt (signedValue radix negative digits))
      else none := by
  have hfold : digits.foldlM (pushDigit? radix) 0 = word? (ofDigits radix digits : Int) :=
    foldlM_pushDigit? hradix digits 0
  rw [int32?, hfold]
  cases hword : word? (ofDigits radix digits : Int) with
  | none =>
      -- the digits overflow a word of 64 bits, so they do not fit one of 32 bits either
      have hlarge : ¬ (IntRange.signed 32).Contains (signedValue radix negative digits) := by
        rw [word?_eq_none_iff] at hword
        rw [contains_signed_32, signedValue]
        split
        · omega
        · omega
      exact (if_neg hlarge).symm
  | some magnitude =>
      refine narrow?_eq ?_
      have hvalue := toInt_of_word? hword
      have hhigh := Int64.toInt_lt magnitude
      cases negative
      · exact hvalue
      · -- a magnitude is not negative, so its negation is in range
        show (-magnitude).toInt = -(ofDigits radix digits : Int)
        rw [Int64.toInt_neg, hvalue]
        exact Int.bmod_eq_of_le (by omega) (by omega)

/-- The words hold what the numbers are, so nothing overflows on the way. -/
theorem toInt_eq_toInt32 (radix : Nat) (s : Text) :
    s.toInt radix = (s.toInt32 radix).map Int32.toInt := by
  unfold toInt32
  by_cases hradix : 2 ≤ radix ∧ radix ≤ 36
  · rcases hsplit : takeSign (s.dropStart isAsciiBlank) with ⟨negative, unsigned⟩
    rw [if_pos hradix]
    cases hdigits : leadingDigits radix unsigned with
    | nil =>
        rw [toInt, if_pos hradix]
        simp only [hsplit, hdigits]
        rfl
    | cons digit digits =>
        rw [toInt_of_digits hradix hsplit hdigits (List.cons_ne_nil _ _)]
        simp only [hdigits, int32?_eq (Nat.le_of_succ_le hradix.1)]
        split
        next hrange =>
          obtain ⟨hlow, hhigh⟩ := contains_signed_32.mp hrange
          have hvalue : (Int32.ofInt (signedValue radix negative (digit :: digits))).toInt =
              signedValue radix negative (digit :: digits) :=
            Int32.toInt_ofInt_of_le (by omega) (by omega)
          exact congrArg Except.ok hvalue.symm
        · rfl
  · rw [toInt, if_neg hradix, if_neg hradix]
    rfl

/-! ## Narrower ranges -/

theorem toIntIn_of_ok {range : IntRange} (h : s.toInt radix = .ok value) :
    s.toIntIn range radix = if range.Contains value then .ok value else .error .malformed := by
  rw [toIntIn, h]
  rfl

theorem toIntIn_of_error {range : IntRange} {failure : TextError}
    (h : s.toInt radix = .error failure) : s.toIntIn range radix = .error failure := by
  rw [toIntIn, h]
  rfl

theorem contains_unsigned {bits : Nat} :
    (IntRange.unsigned bits).Contains value ↔ 0 ≤ value ∧ value < 2 ^ bits := by
  show 0 ≤ value ∧ value ≤ (2 : Int) ^ bits - 1 ↔ _
  rw [Int.le_sub_one_iff]

/-- An unsigned word holds the numbers from zero on that have no more than its bits. -/
theorem toWord_eq_ok_iff {bits n : Nat} :
    s.toWord bits radix = .ok n ↔ s.toInt radix = .ok (n : Int) ∧ n < 2 ^ bits := by
  have hfits : ((n : Int) < 2 ^ bits) ↔ n < 2 ^ bits := by exact_mod_cast Iff.rfl
  unfold toWord
  cases hread : s.toInt radix with
  | error failure =>
      rw [toIntIn_of_error hread]
      exact iff_of_false nofun nofun
  | ok value =>
      rw [toIntIn_of_ok hread]
      -- a value in range is not negative, so nothing is lost by reading it as a natural number
      by_cases hrange : (IntRange.unsigned bits).Contains value
      · obtain ⟨hlow, hhigh⟩ := contains_unsigned.mp hrange
        rw [if_pos hrange, ← hfits]
        show Except.ok value.toNat = Except.ok n ↔ _
        rw [Except.ok.injEq, Except.ok.injEq]
        omega
      · rw [if_neg hrange]
        refine iff_of_false nofun ?_
        rintro ⟨heq, hlt⟩
        cases heq
        exact hrange (contains_unsigned.mpr ⟨Int.natCast_nonneg n, hfits.mpr hlt⟩)

/-- In a radix from 2 to 36, what is read is the integer that the text begins with, if it fits a word
of 32 bits, and any other text is malformed; so an integer that was written, in whatever cases, is
read back.  No other radix is accepted.  Computing in words gives the same.  A narrower range lets
its own values through, and refuses the others as malformed; so does an unsigned word. -/
theorem toInt_exact (radix : Nat) (s : Text) :
    (2 ≤ radix ∧ radix ≤ 36 →
      (∀ value, s.toInt radix = .ok value ↔
        LeadsWith radix s value ∧ -2147483648 ≤ value ∧ value ≤ 2147483647) ∧
      ((∃ value, s.toInt radix = .ok value) ∨ s.toInt radix = .error .malformed) ∧
      ∀ n : Int, -2147483648 ≤ n → n ≤ 2147483647 →
        ∀ t rest : Text, t.map Char.toLower = ofInt radix n →
          (∀ c ∈ rest.head?, ∀ value, ¬ StandsFor radix c value) →
            (t ++ rest).toInt radix = .ok n) ∧
    (¬ (2 ≤ radix ∧ radix ≤ 36) → s.toInt radix = .error .badParameter) ∧
    s.toInt radix = (s.toInt32 radix).map Int32.toInt ∧
    (∀ range : IntRange,
      (∀ value, s.toInt radix = .ok value →
        s.toIntIn range radix = if range.Contains value then .ok value else .error .malformed) ∧
      ∀ failure, s.toInt radix = .error failure → s.toIntIn range radix = .error failure) ∧
    ∀ bits n, s.toWord bits radix = .ok n ↔ s.toInt radix = .ok (n : Int) ∧ n < 2 ^ bits := by
  refine ⟨fun hradix => ⟨fun value => toInt_eq_ok_iff hradix, toInt_cases hradix s, ?_⟩,
    fun hradix => if_neg hradix, toInt_eq_toInt32 radix s,
    fun range => ⟨fun _ => toIntIn_of_ok, fun _ => toIntIn_of_error⟩, fun _ _ => toWord_eq_ok_iff⟩
  intro n hlow hhigh t rest htext hend
  exact (toInt_eq_ok_iff hradix).mpr ⟨leadsWith_of_ofInt hradix htext hend, hlow, hhigh⟩

/-- The least integer with the most letters, followed by a character that is a digit nowhere; and the
same text for a word of 8 bits, and in a radix that there is not. -/
theorem toInt_exact_least :
    let s : Text := "-ZiK0zké"
    s.toInt 36 = .ok (-2147483648) ∧ s.toIntIn (.unsigned 8) 36 = .error .malformed ∧
      s.toInt 37 = .error .badParameter := by
  intro s
  have hend : ∀ c ∈ List.head? ['é'], ∀ value, ¬ StandsFor 36 c value := by
    rintro _ ⟨⟩
    exact digitIn_eq_none_iff.mp (by decide)
  have hread : s.toInt 36 = .ok (-2147483648) :=
    ((toInt_exact 36 s).1 (by decide)).2.2 (-2147483648) (by decide) (by decide)
      "-ZiK0zk" ['é'] (by decide) hend
  exact ⟨hread, ((toInt_exact 36 s).2.2.2.1 (.unsigned 8)).1 _ hread,
    (toInt_exact 37 s).2.1 (by decide)⟩

end ModemLink.Text
