import ModemLink.Proofs.Text.Ascii
import ModemLink.Proofs.Text.Integers
import ModemLink.Text.Hex

/-!
# Hexadecimal digits as bytes, as a number and as an integer

Both readers of hexadecimal text work on its UTF-8 form, where a byte is a digit if it is the ASCII
form of one (`Hex.DigitFor`).  Every text begins with a run of digits, which may be empty, and after
it there is nothing or a byte that is no digit (`Hex.Run`).  `Hex.decode` writes the bytes that the
pairs of the run stand for (`Hex.bytesOf`) and stops at its end (`Run.decode_eq`), so it reads back
what `Hex.encode` writes, in whatever cases.  `Hex.toNat` gives the number of the run if the run is
the whole text (`Run.toNat_eq`).

A pair of digits is one digit of radix 256, so the bytes and the number agree (`foldl_bytesOf`).
`Hex.toNat` computes with numbers of any size.  `Hex.toUInt32` computes in a word, as a processor
does, with a shift that loses what leaves the word.  Eight digits fill the word and nothing is lost
(`foldlM_pushNibble`), so both computations agree (`toNat_eq_toUInt32`).
-/

namespace ModemLink.Hex

open ModemLink.Text (StandsFor numerals)

variable {s : Text} {byte high low : UInt8} {value value' : Nat} {values : List Nat}

/-! ## Digits in UTF-8 -/

/-- Whether a byte is the ASCII form of the digit for a value, in either case. -/
def DigitFor (byte : UInt8) (value : Nat) : Prop := StandsFor 16 (Char.ofUInt8 byte) value

theorem toNat_ofUInt8 (byte : UInt8) : (Char.ofUInt8 byte).toNat = byte.toNat :=
  UInt8.toNat_toUInt32 byte

/-- The digits stand in three blocks. -/
theorem digitFor_iff :
    DigitFor byte value ↔
      (48 ≤ byte.toNat ∧ byte.toNat ≤ 57 ∧ byte.toNat = 48 + value) ∨
      (97 ≤ byte.toNat ∧ byte.toNat ≤ 102 ∧ byte.toNat = 87 + value) ∨
      (65 ≤ byte.toNat ∧ byte.toNat ≤ 70 ∧ byte.toNat = 55 + value) := by
  have hlower := Text.toNat_toLower (Char.ofUInt8 byte)
  rw [toNat_ofUInt8] at hlower
  unfold DigitFor StandsFor
  rw [Text.numerals_eq_some_iff]
  omega

theorem DigitFor.lt (h : DigitFor byte value) : value < 16 := h.1

theorem DigitFor.toNat_ofNat (h : DigitFor byte value) : (UInt8.ofNat value).toNat = value := by
  rw [UInt8.toNat_ofNat']
  exact Nat.mod_eq_of_lt (Nat.lt_trans h.lt (by decide))

/-- A digit is read as its value. -/
theorem nibble_of_digitFor (h : DigitFor byte value) : nibble byte = .ok (UInt8.ofNat value) := by
  have hblock := digitFor_iff.mp h
  have hword : ∀ word : UInt8, word.toNat = value → word = UInt8.ofNat value := by
    rintro word rfl
    exact UInt8.ofNat_toNat.symm
  unfold nibble
  simp only [UInt8.le_iff_toNat_le, UInt8.reduceToNat]
  -- in each block the arithmetic neither borrows nor carries
  split
  · refine congrArg _ (hword _ ?_)
    simp only [UInt8.toNat_sub, UInt8.reduceToNat]
    omega
  · split
    · refine congrArg _ (hword _ ?_)
      simp only [UInt8.toNat_add, UInt8.toNat_sub, UInt8.reduceToNat]
      omega
    · rw [if_pos (by omega)]
      refine congrArg _ (hword _ ?_)
      simp only [UInt8.toNat_add, UInt8.toNat_sub, UInt8.reduceToNat]
      omega

/-- Every other byte is reported. -/
theorem nibble_of_not_digitFor (h : ∀ value, ¬ DigitFor byte value) :
    nibble byte = .error (.invalidDigit byte) := by
  have hdecimal : ¬ (48 ≤ byte.toNat ∧ byte.toNat ≤ 57) :=
    fun hblock => h (byte.toNat - 48) (digitFor_iff.mpr (by omega))
  have hlower : ¬ (97 ≤ byte.toNat ∧ byte.toNat ≤ 102) :=
    fun hblock => h (byte.toNat - 87) (digitFor_iff.mpr (by omega))
  have hupper : ¬ (65 ≤ byte.toNat ∧ byte.toNat ≤ 70) :=
    fun hblock => h (byte.toNat - 55) (digitFor_iff.mpr (by omega))
  unfold nibble
  simp only [UInt8.le_iff_toNat_le, UInt8.reduceToNat]
  rw [if_neg hdecimal, if_neg hlower, if_neg hupper]

/-- The digits of a text are single bytes. -/
theorem forall₂_toBytes (h : List.Forall₂ (StandsFor 16) s values) :
    List.Forall₂ DigitFor s.toBytes values := by
  induction h with
  | nil => exact .nil
  | @cons c value s values hdigit _ ih =>
      have hplace := Text.numerals_eq_some_iff.mp hdigit.2
      have hlower := Text.toNat_toLower c
      obtain ⟨byte, hbyte, hencode⟩ := Text.utf8EncodeChar_of_lt (c := c) (by omega)
      have hsame : Char.ofUInt8 byte = c := Char.toNat_inj.mp ((toNat_ofUInt8 byte).trans hbyte)
      rw [Text.toBytes_cons, hencode, List.singleton_append]
      refine .cons ?_ ih
      rw [DigitFor, hsame]
      exact hdigit

/-- A text that does not begin with a digit does not begin with the byte of one. -/
theorem not_digitFor_head_toBytes (h : ∀ c ∈ s.head?, ∀ value, ¬ StandsFor 16 c value) :
    ∀ byte ∈ s.toBytes.head?, ∀ value, ¬ DigitFor byte value := by
  intro byte hbyte value hdigit
  cases s with
  | nil => cases hbyte
  | cons c s =>
      have hascii : byte.toNat < 128 := by
        have hblock := digitFor_iff.mp hdigit
        omega
      -- the first byte of the text belongs to its first character
      have hmem : byte ∈ String.utf8EncodeChar c := by
        obtain ⟨first, others, hencode⟩ :=
          List.exists_cons_of_ne_nil (String.utf8EncodeChar_ne_nil (c := c))
        rw [Text.toBytes_cons, hencode, List.cons_append, List.head?_cons] at hbyte
        rw [hencode, Option.mem_some.mp hbyte]
        exact List.mem_cons_self
      have hnumber : c.toNat = byte.toNat := (Text.mem_utf8EncodeChar_iff hascii).mp hmem
      have hsame : Char.ofUInt8 byte = c :=
        Char.toNat_inj.mp ((toNat_ofUInt8 byte).trans hnumber.symm)
      exact h c rfl value (hsame ▸ hdigit)

/-! ## The run of digits at the start -/

/-- The UTF-8 form of a text begins with the digits for some values, and they do not go on. -/
structure Run (s : Text) (front tail : Bytes) (values : List Nat) : Prop where
  bytes : s.toBytes = front ++ tail
  digits : List.Forall₂ DigitFor front values
  ends : ∀ byte ∈ tail.head?, ∀ value, ¬ DigitFor byte value

theorem Run.of_digits (h : List.Forall₂ (StandsFor 16) s values) : Run s s.toBytes [] values :=
  ⟨(List.append_nil _).symm, forall₂_toBytes h, nofun⟩

/-- Every text has a run, and if nothing follows it the text consists of digits. -/
theorem exists_run (s : Text) :
    ∃ front tail values, Run s front tail values ∧
      (tail = [] → List.Forall₂ (StandsFor 16) s values) := by
  obtain ⟨digits, rest, hsplit, hdigits, hend⟩ := Text.exists_run 16 s
  have hbytes : s.toBytes = digits.toBytes ++ rest.toBytes := by
    rw [← Text.toBytes_append, ← hsplit]
  refine ⟨digits.toBytes, rest.toBytes, Text.leadingDigits 16 s,
    ⟨hbytes, forall₂_toBytes hdigits, not_digitFor_head_toBytes hend⟩, fun htail => ?_⟩
  rw [Text.toBytes_eq_nil_iff.mp htail, List.append_nil] at hsplit
  rwa [← hsplit] at hdigits

theorem Run.size_eq {front tail : Bytes} (h : Run s front tail values) :
    s.size = front.length + tail.length := by
  rw [← Text.length_toBytes, h.bytes, List.length_append]

/-! ## Pairs of digits -/

/-- Four bits are put behind a number. -/
theorem shiftLeft_or {m d : Nat} (h : d < 16) : m <<< 4 ||| d = m * 16 + d := by
  rw [← Nat.shiftLeft_add_eq_or_of_lt h, Nat.shiftLeft_eq]

theorem toNat_pair (hhigh : DigitFor high value) (hlow : DigitFor low value') :
    (UInt8.ofNat (value * 16 + value')).toNat = value * 16 + value' := by
  have hvalue := hhigh.lt
  have hvalue' := hlow.lt
  rw [UInt8.toNat_ofNat']
  exact Nat.mod_eq_of_lt (by omega)

/-- Two digits give the byte with their number. -/
theorem pair_of_digitFor (hhigh : DigitFor high value) (hlow : DigitFor low value') :
    pair high low = .ok (UInt8.ofNat (value * 16 + value')) := by
  have hvalue := hhigh.lt
  have hbyte : UInt8.ofNat value <<< 4 ||| UInt8.ofNat value' =
      UInt8.ofNat (value * 16 + value') := by
    rw [← UInt8.toNat_inj, toNat_pair hhigh hlow, UInt8.toNat_or, UInt8.toNat_shiftLeft,
      hhigh.toNat_ofNat, hlow.toNat_ofNat]
    simp only [UInt8.reduceToNat, Nat.reduceMod, Nat.reducePow]
    rw [Nat.mod_eq_of_lt (by omega), shiftLeft_or hlow.lt]
  rw [pair, nibble_of_digitFor hhigh, nibble_of_digitFor hlow, ← hbyte]
  rfl

/-- The bytes that pairs of digits stand for, the upper half first.  A last digit without a partner
is left out. -/
def bytesOf : List Nat → Bytes
  | [] | [_] => []
  | high :: low :: values => UInt8.ofNat (high * 16 + low) :: bytesOf values

theorem length_bytesOf (values : List Nat) : (bytesOf values).length = values.length / 2 := by
  fun_induction bytesOf values with
  | case1 => rfl
  | case2 => simp
  | case3 high low values ih =>
      simp only [List.length_cons, ih]
      omega

/-- The pairs of a run are written, and the byte after the run is reported. -/
theorem fill_append {front tail out : Bytes} (hfront : List.Forall₂ DigitFor front values)
    (hend : ∀ byte ∈ tail.head?, ∀ value, ¬ DigitFor byte value)
    (heven : (front.length + tail.length) % 2 = 0)
    (hfits : (front.length + tail.length) / 2 ≤ out.length) :
    fill (front ++ tail) out =
      (bytesOf values ++ out.drop (bytesOf values).length, tail.head?.map .invalidDigit) := by
  fun_induction bytesOf values generalizing front out with
  | case1 =>
      obtain rfl := List.forall₂_nil_right_iff.mp hfront
      match tail with
      | [] =>
          rw [List.append_nil, fill.eq_def]
          rfl
      | [_] => cases heven
      | bad :: low :: tail =>
          simp only [List.length_cons] at hfits
          obtain ⟨slot, out, rfl⟩ := List.exists_cons_of_length_pos (l := out) (by omega)
          rw [List.nil_append, fill, pair, nibble_of_not_digitFor (hend bad rfl)]
          rfl
  | case2 value =>
      -- the run ends within a pair, whose upper half alone writes nothing
      obtain ⟨high, rest, hhigh, hrest, rfl⟩ := List.forall₂_cons_right_iff.mp hfront
      obtain rfl := List.forall₂_nil_right_iff.mp hrest
      match tail with
      | [] => cases heven
      | bad :: tail =>
          simp only [List.length_cons] at hfits
          obtain ⟨slot, out, rfl⟩ := List.exists_cons_of_length_pos (l := out) (by omega)
          rw [List.singleton_append, fill, pair, nibble_of_digitFor hhigh,
            nibble_of_not_digitFor (hend bad rfl)]
          rfl
  | case3 value value' values ih =>
      obtain ⟨high, rest, hhigh, hrest, rfl⟩ := List.forall₂_cons_right_iff.mp hfront
      obtain ⟨low, front, hlow, hothers, rfl⟩ := List.forall₂_cons_right_iff.mp hrest
      simp only [List.length_cons] at heven hfits
      obtain ⟨slot, out, rfl⟩ := List.exists_cons_of_length_pos (l := out) (by omega)
      rw [List.length_cons] at hfits
      have hwritten : fill (front ++ tail) out =
          (bytesOf values ++ out.drop (bytesOf values).length, tail.head?.map .invalidDigit) :=
        ih hothers (by omega) (by omega)
      rw [List.cons_append, List.cons_append, fill, pair_of_digitFor hhigh hlow]
      simp only [hwritten]
      rfl

/-- Decoding goes on to the end of the text, or to the first byte that is no digit. -/
theorem Run.decode_eq {front tail out : Bytes} (h : Run s front tail values)
    (heven : s.size % 2 = 0) (hfits : s.size / 2 ≤ out.length) :
    decode s out = (bytesOf values ++ out.drop (bytesOf values).length,
      tail.head?.elim (.ok (s.size / 2)) fun bad => .error (.invalidDigit bad)) := by
  unfold decode
  simp only [Text.length_toBytes]
  rw [if_neg (by omega), if_neg (by omega), h.bytes]
  rw [h.size_eq] at heven hfits
  rw [fill_append h.digits h.ends heven hfits]
  cases tail.head? with
  | none => rfl
  | some bad => rfl

theorem decode_of_digits {out : Bytes} (h : List.Forall₂ (StandsFor 16) s values)
    (heven : s.size % 2 = 0) (hfits : s.size / 2 ≤ out.length) :
    decode s out = (bytesOf values ++ out.drop (bytesOf values).length,
      .ok (bytesOf values).length) := by
  have hrun := Run.of_digits h
  have hcount : (bytesOf values).length = s.size / 2 := by
    rw [length_bytesOf, ← hrun.digits.length_eq, Text.length_toBytes]
  rw [hrun.decode_eq heven hfits, hcount]
  rfl

/-! ## Bytes that were written -/

/-- Two lower case digits for each byte. -/
def encode (bytes : Bytes) : Text := bytes.flatMap HexError.byteText

/-- The values of these digits. -/
def halves (bytes : Bytes) : List Nat :=
  bytes.flatMap fun byte => [byte.toNat / 16, byte.toNat % 16]

theorem length_halves (bytes : Bytes) : (halves bytes).length = 2 * bytes.length := by
  simp [halves, List.length_flatMap, Nat.mul_comm]

theorem lt_of_mem_halves {bytes : Bytes} (h : value ∈ halves bytes) : value < 16 := by
  obtain ⟨byte, -, hvalue⟩ := List.mem_flatMap.mp h
  have hbyte := byte.toNat_lt
  simp only [List.mem_cons, List.not_mem_nil, or_false] at hvalue
  omega

theorem encode_eq (bytes : Bytes) :
    encode bytes = (halves bytes).map fun value => numerals.getD value '0' := by
  have hdigit : ∀ value < 16, Nat.digitChar value = numerals.getD value '0' := by decide
  rw [encode, halves, List.map_flatMap]
  refine List.flatMap_congr fun byte _ => ?_
  have hbyte := byte.toNat_lt
  rw [HexError.byteText, hdigit _ (by omega), hdigit _ (by omega)]
  rfl

theorem bytesOf_halves (bytes : Bytes) : bytesOf (halves bytes) = bytes := by
  induction bytes with
  | nil => rfl
  | cons byte bytes ih =>
      have hbyte : byte.toNat / 16 * 16 + byte.toNat % 16 = byte.toNat := by omega
      show UInt8.ofNat (byte.toNat / 16 * 16 + byte.toNat % 16) :: bytesOf (halves bytes) = _
      rw [hbyte, UInt8.ofNat_toNat, ih]

/-- What was written is read back, in whatever cases. -/
theorem decode_of_encode {bytes out : Bytes} (h : s.map Char.toLower = encode bytes)
    (hfits : bytes.length ≤ out.length) :
    decode s out = (bytes ++ out.drop bytes.length, .ok bytes.length) := by
  rw [encode_eq] at h
  have hdigits := Text.standsFor_of_numerals (by decide) (fun _ => lt_of_mem_halves) h
  have hsize : s.size = 2 * bytes.length := by
    rw [← Text.length_toBytes, (forall₂_toBytes hdigits).length_eq, length_halves]
  have hroom : s.size / 2 ≤ out.length := by omega
  have hread := decode_of_digits hdigits (by omega) hroom
  rwa [bytesOf_halves] at hread

/-! ## Numbers -/

theorem pushDigit_of_digitFor (h : DigitFor byte value) (n : Nat) :
    pushDigit n byte = .ok (n * 16 + value) := by
  rw [pushDigit, nibble_of_digitFor h]
  exact congrArg (fun digit => Except.ok (n * 16 + digit)) h.toNat_ofNat

/-- A run is pushed as one number, and the byte after the run is reported. -/
theorem foldlM_pushDigit {front tail : Bytes} (hfront : List.Forall₂ DigitFor front values)
    (hend : ∀ byte ∈ tail.head?, ∀ value, ¬ DigitFor byte value) (n : Nat) :
    (front ++ tail).foldlM pushDigit n =
      tail.head?.elim (.ok (values.foldl (fun value digit => value * 16 + digit) n))
        fun bad => .error (.invalidDigit bad) := by
  induction hfront generalizing n with
  | nil =>
      -- the run is over, and what follows it is an error
      cases tail with
      | nil => rfl
      | cons bad tail =>
          rw [List.nil_append, List.foldlM_cons, pushDigit, nibble_of_not_digitFor (hend bad rfl)]
          rfl
  | @cons byte value front values hdigit _ ih =>
      rw [List.cons_append, List.foldlM_cons, pushDigit_of_digitFor hdigit, List.foldl_cons, ← ih]
      rfl

/-- The number is that of the run, and there is none if something follows the run. -/
theorem Run.toNat_eq {front tail : Bytes} (h : Run s front tail values) :
    toNat s = if s = [] ∨ 8 < s.size then .error .noMemory
      else tail.head?.elim (.ok (Nat.ofDigits 16 values.reverse))
        fun bad => .error (.invalidDigit bad) := by
  unfold toNat
  simp only [Text.toBytes_eq_nil_iff, Text.length_toBytes]
  rw [h.bytes, foldlM_pushDigit h.digits h.ends, ← Text.ofDigits_eq]
  rfl

/-- One to eight digits have a number, the one of positional notation, and nothing else has one. -/
theorem toNat_eq_ok_iff {n : Nat} :
    toNat s = .ok n ↔ ∃ values, List.Forall₂ (StandsFor 16) s values ∧ s ≠ [] ∧ s.length ≤ 8 ∧
      n = Nat.ofDigits 16 values.reverse := by
  constructor
  · intro h
    obtain ⟨front, tail, values, hrun, hwhole⟩ := exists_run s
    rw [hrun.toNat_eq] at h
    split at h
    · cases h
    next hshort =>
      obtain ⟨hne, hsize⟩ := not_or.mp hshort
      cases tail with
      | nil =>
          cases h
          have hlength := (Text.length_le_size s).trans (Nat.not_lt.mp hsize)
          exact ⟨values, hwhole rfl, hne, hlength, rfl⟩
      | cons bad tail => cases h
  · rintro ⟨values, hdigits, hne, hshort, rfl⟩
    have hrun := Run.of_digits hdigits
    -- digits are ASCII, so the bytes are as many as the characters
    have hsize : s.size = s.length := by
      rw [hrun.size_eq, hrun.digits.length_eq, hdigits.length_eq]
      rfl
    rw [hrun.toNat_eq, if_neg (not_or.mpr ⟨hne, by omega⟩)]
    rfl

/-! ## Words -/

/-- Append one digit to the number in a word of 32 bits.  What leaves the word is lost. -/
def pushNibble (word : UInt32) (byte : UInt8) : Except HexError UInt32 := do
  let digit ← nibble byte
  return (word <<< 4) ||| digit.toUInt32

/-- The number that one to eight digits stand for, in a word of 32 bits. -/
def toUInt32 (s : Text) : Except HexError UInt32 :=
  let digits := s.toBytes
  if digits = [] ∨ 8 < digits.length then .error .noMemory
  else digits.foldlM pushNibble 0

/-- Nothing is lost from a word whose upper four bits are free. -/
theorem toNat_pushed {word : UInt32} {digit : UInt8} (hword : word.toNat < 2 ^ 28)
    (hdigit : digit.toNat < 16) :
    ((word <<< 4) ||| digit.toUInt32).toNat = word.toNat * 16 + digit.toNat := by
  rw [UInt32.toNat_or, UInt32.toNat_shiftLeft, UInt8.toNat_toUInt32]
  simp only [UInt32.reduceToNat, Nat.reduceMod]
  rw [Nat.mod_eq_of_lt (by omega), shiftLeft_or hdigit]

/-- A word has room for so many digits more. -/
def HasRoom (word : UInt32) (count : Nat) : Prop := (word.toNat + 1) * 16 ^ count ≤ 2 ^ 32

/-- One digit more takes the room of one digit. -/
theorem pushNibble_of_digitFor {word : UInt32} {count : Nat} (hdigit : DigitFor byte value)
    (hroom : HasRoom word (count + 1)) :
    ∃ next, pushNibble word byte = .ok next ∧ next.toNat = word.toNat * 16 + value ∧
      HasRoom next count := by
  have hvalue := hdigit.lt
  have hall : (word.toNat + 1) * 16 * 16 ^ count ≤ 2 ^ 32 := by
    rwa [HasRoom, Nat.pow_succ', ← Nat.mul_assoc] at hroom
  -- with room for one digit the upper four bits are free
  have hfree : word.toNat < 2 ^ 28 := by
    have hone : (word.toNat + 1) * 16 ≤ (word.toNat + 1) * 16 * 16 ^ count :=
      Nat.le_mul_of_pos_right _ (Nat.pow_pos (by decide))
    omega
  have hnext : ((word <<< 4) ||| (UInt8.ofNat value).toUInt32).toNat = word.toNat * 16 + value := by
    rw [toNat_pushed hfree (by rwa [hdigit.toNat_ofNat]), hdigit.toNat_ofNat]
  refine ⟨(word <<< 4) ||| (UInt8.ofNat value).toUInt32, ?_, hnext, ?_⟩
  · rw [pushNibble, nibble_of_digitFor hdigit]
    rfl
  · rw [HasRoom, hnext]
    exact (Nat.mul_le_mul_right _ (by omega)).trans hall

/-- As long as there is room for the digits that are left, the word holds the number. -/
theorem foldlM_pushNibble (digits : Bytes) (word : UInt32) (hroom : HasRoom word digits.length) :
    (digits.foldlM pushNibble word).map UInt32.toNat = digits.foldlM pushDigit word.toNat := by
  induction digits generalizing word with
  | nil => rfl
  | cons byte digits ih =>
      by_cases hdigit : ∃ value, DigitFor byte value
      · obtain ⟨value, hdigit⟩ := hdigit
        obtain ⟨next, hpush, hnext, hleft⟩ := pushNibble_of_digitFor hdigit hroom
        calc ((byte :: digits).foldlM pushNibble word).map UInt32.toNat
            = (digits.foldlM pushNibble next).map UInt32.toNat := by
              rw [List.foldlM_cons, hpush]
              rfl
          _ = digits.foldlM pushDigit (word.toNat * 16 + value) := by rw [ih next hleft, hnext]
          _ = (byte :: digits).foldlM pushDigit word.toNat := by
              rw [List.foldlM_cons, pushDigit_of_digitFor hdigit]
              rfl
      · -- both stop at this byte
        rw [List.foldlM_cons, List.foldlM_cons, pushNibble, pushDigit,
          nibble_of_not_digitFor (not_exists.mp hdigit)]
        rfl

/-- A word of 32 bits holds eight digits. -/
theorem toNat_eq_toUInt32 (s : Text) : toNat s = (toUInt32 s).map UInt32.toNat := by
  unfold toNat toUInt32
  simp only
  split
  · rfl
  next hbytes =>
    have hshort : s.toBytes.length ≤ 8 := Nat.not_lt.mp (not_or.mp hbytes).2
    have hroom : HasRoom 0 s.toBytes.length := by
      calc ((0 : UInt32).toNat + 1) * 16 ^ s.toBytes.length
          = 16 ^ s.toBytes.length := Nat.one_mul _
        _ ≤ 16 ^ 8 := Nat.pow_le_pow_right (by decide) hshort
        _ = 2 ^ 32 := by decide
    exact (foldlM_pushNibble s.toBytes 0 hroom).symm

/-! ## Agreement -/

/-- A byte adds as much as its two digits. -/
theorem foldl_bytesOf {front : Bytes} (hfront : List.Forall₂ DigitFor front values)
    (heven : front.length % 2 = 0) (n : Nat) :
    ((bytesOf values).map UInt8.toNat).foldl (fun value digit => value * 256 + digit) n =
      values.foldl (fun value digit => value * 16 + digit) n := by
  fun_induction bytesOf values generalizing front n with
  | case1 => rfl
  | case2 =>
      -- an odd number of digits does not occur
      rw [hfront.length_eq] at heven
      cases heven
  | case3 value value' values ih =>
      obtain ⟨high, rest, hhigh, hrest, rfl⟩ := List.forall₂_cons_right_iff.mp hfront
      obtain ⟨low, front, hlow, hothers, rfl⟩ := List.forall₂_cons_right_iff.mp hrest
      have hstep : n * 256 + (value * 16 + value') = (n * 16 + value) * 16 + value' := by omega
      simp only [List.length_cons] at heven
      rw [List.map_cons, List.foldl_cons, List.foldl_cons, List.foldl_cons,
        toNat_pair hhigh hlow, hstep, ih hothers (by omega)]

/-- The bytes of a number are written, the most significant first. -/
theorem decode_of_toNat {n : Nat} {out : Bytes} (h : toNat s = .ok n) (heven : s.size % 2 = 0)
    (hfits : s.size / 2 ≤ out.length) :
    ∃ bytes, decode s out = (bytes ++ out.drop bytes.length, .ok bytes.length) ∧
      n = Nat.ofDigits 256 (bytes.map UInt8.toNat).reverse := by
  obtain ⟨values, hdigits, -, -, rfl⟩ := toNat_eq_ok_iff.mp h
  refine ⟨bytesOf values, decode_of_digits hdigits heven hfits, ?_⟩
  rw [← Text.ofDigits_eq, ← Text.ofDigits_eq]
  rw [← Text.length_toBytes] at heven
  exact (foldl_bytesOf (forall₂_toBytes hdigits) heven 0).symm

/-- Digits alone are an integer without a sign. -/
theorem toInt_of_toNat {n : Nat} (h : toNat s = .ok n) :
    s.toInt 16 = if n < 2 ^ 31 then .ok (n : Int) else .error .malformed := by
  obtain ⟨values, hdigits, hne, -, rfl⟩ := toNat_eq_ok_iff.mp h
  have hleads : Text.LeadsWith 16 ([] ++ [] ++ s ++ []) _ :=
    .intro nofun .absent hdigits hne nofun
  rw [List.append_nil, List.nil_append, List.nil_append, one_mul] at hleads
  rw [Text.toInt_of_leadsWith (by decide) hleads]
  refine if_congr ?_ rfl rfl
  rw [Text.contains_signed_32]
  omega

/-- Bytes that were written, in whatever cases, are read back into the start of a buffer.  If a text
of the right size holds a byte that is no digit, the first such byte is reported, and the pairs
before it are written.  One to eight digits have a number, the one of positional notation, nothing
else has one, and computing in a word gives the same.  That number is the one of the decoded bytes,
the most significant first, and it is the integer that the text begins with, if that fits. -/
theorem readers_exact (s : Text) (out : Bytes) :
    (∀ bytes : Bytes, s.map Char.toLower = encode bytes → bytes.length ≤ out.length →
      decode s out = (bytes ++ out.drop bytes.length, .ok bytes.length)) ∧
    (s.size % 2 = 0 → s.size / 2 ≤ out.length →
      (∃ byte ∈ s.toBytes, ∀ value, ¬ DigitFor byte value) →
        ∃ front bad rest values, s.toBytes = front ++ bad :: rest ∧
          List.Forall₂ DigitFor front values ∧ (∀ value, ¬ DigitFor bad value) ∧
          decode s out = (bytesOf values ++ out.drop (bytesOf values).length,
            .error (.invalidDigit bad))) ∧
    (∀ n, toNat s = .ok n ↔
      ∃ values, List.Forall₂ (StandsFor 16) s values ∧ s ≠ [] ∧ s.length ≤ 8 ∧
        n = Nat.ofDigits 16 values.reverse) ∧
    toNat s = (toUInt32 s).map UInt32.toNat ∧
    ∀ n, toNat s = .ok n →
      (s.size % 2 = 0 → s.size / 2 ≤ out.length →
        ∃ bytes, decode s out = (bytes ++ out.drop bytes.length, .ok bytes.length) ∧
          n = Nat.ofDigits 256 (bytes.map UInt8.toNat).reverse) ∧
      s.toInt 16 = if n < 2 ^ 31 then .ok (n : Int) else .error .malformed := by
  refine ⟨fun bytes => decode_of_encode, ?_, fun n => toNat_eq_ok_iff, toNat_eq_toUInt32 s,
    fun n hread => ⟨decode_of_toNat hread, toInt_of_toNat hread⟩⟩
  rintro heven hfits ⟨byte, hmem, hbyte⟩
  obtain ⟨front, tail, values, hrun, -⟩ := exists_run s
  have hread := hrun.decode_eq heven hfits
  cases tail with
  | nil =>
      -- the bytes of a run are digits
      have hdigit : ∀ byte ∈ front, ∃ value, DigitFor byte value :=
        ((List.forall₂_and_left _ _).mp (hrun.digits.imp fun _ value h => ⟨⟨value, h⟩, h⟩)).1
      rw [hrun.bytes, List.append_nil] at hmem
      obtain ⟨value, hvalue⟩ := hdigit byte hmem
      exact absurd hvalue (hbyte value)
  | cons bad rest =>
      exact ⟨front, bad, rest, values, hrun.bytes, hrun.digits, hrun.ends bad rfl, hread⟩

/-- Eight digits in mixed cases, of which a signed word has no room for the number; and a text that
fails in the lower half of its second pair, at the first byte of a character beyond ASCII. -/
theorem readers_exact_fullWord :
    let s : Text := "fFfFFffe"
    let t : Text := "12aéF"
    decode s [1, 2, 3, 4, 5] = ([255, 255, 255, 254, 5], .ok 4) ∧
      toNat s = .ok 4294967294 ∧ s.toInt 16 = .error .malformed ∧
      (∃ bytes, decode s [1, 2, 3, 4, 5] =
          (bytes ++ List.drop bytes.length [1, 2, 3, 4, 5], .ok bytes.length) ∧
        4294967294 = Nat.ofDigits 256 (bytes.map UInt8.toNat).reverse) ∧
      decode t [7, 7, 7] = ([18, 7, 7], .error (.invalidDigit 195)) ∧
      ∃ front rest values, t.toBytes = front ++ 195 :: rest ∧
        List.Forall₂ DigitFor front values ∧
        [18, 7, 7] = bytesOf values ++ List.drop (bytesOf values).length [7, 7, 7] := by
  intro s t
  obtain ⟨hwritten, -, hnumber, -, hagree⟩ := readers_exact s [1, 2, 3, 4, 5]
  have hdigits : List.Forall₂ (StandsFor 16) s [15, 15, 15, 15, 15, 15, 15, 14] :=
    Text.standsFor_of_numerals (by decide) (by decide) (by decide)
  have hread : toNat s = .ok 4294967294 :=
    (hnumber _).mpr ⟨_, hdigits, by decide, by decide, by decide⟩
  obtain ⟨hbytes, hint⟩ := hagree _ hread
  have hbad : ∃ byte ∈ t.toBytes, ∀ value, ¬ DigitFor byte value := by
    refine ⟨195, by decide, fun value hdigit => ?_⟩
    have hblock := digitFor_iff.mp hdigit
    simp only [UInt8.reduceToNat] at hblock
    omega
  obtain ⟨front, bad, rest, values, hsplit, hfront, -, hstop⟩ :=
    (readers_exact t [7, 7, 7]).2.1 (by decide) (by decide) hbad
  have hfailure : decode t [7, 7, 7] = ([18, 7, 7], .error (.invalidDigit 195)) := by decide
  have hsame := hfailure.symm.trans hstop
  rw [Prod.mk.injEq, Except.error.injEq, HexError.invalidDigit.injEq] at hsame
  obtain ⟨hpairs, rfl⟩ := hsame
  exact ⟨hwritten [255, 255, 255, 254] (by decide) (by decide), hread, hint,
    hbytes (by decide) (by decide), hfailure, front, rest, values, hsplit, hfront, hpairs⟩

end ModemLink.Hex
