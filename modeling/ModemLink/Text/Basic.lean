import ModemLink.Error
import ModemLink.Limits
import ModemLink.Text.Blank

/-!
# Modem text

Text is a list of characters; sizes are counted in UTF-8 bytes (`Text.size`).  The helpers here
are used by every reader of responses and unsolicited lines.  All of them refuse empty text and
text of more than `Limits.line` bytes with `TextError.badParameter`; those that copy into a bounded
destination fail with `TextError.noMemory` when the result does not fit.
-/

namespace ModemLink

/-- Text received from or sent to the modem. -/
abbrev Text := List Char

instance : Coe String Text := ⟨String.toList⟩

namespace Text

/-- The number of bytes of the UTF-8 form. -/
def size : Text → Nat
  | [] => 0
  | c :: s => c.utf8Size + size s

@[simp] theorem size_nil : size [] = 0 := rfl

@[simp] theorem size_cons (c : Char) (s : Text) : size (c :: s) = c.utf8Size + size s := rfl

@[simp] theorem size_append (s t : Text) : size (s ++ t) = size s + size t := by
  induction s with
  | nil => simp
  | cons c s ih =>
    simp only [List.cons_append, size_cons, ih]
    omega

/-- A character takes at least one byte. -/
theorem length_le_size (s : Text) : s.length ≤ s.size := by
  induction s with
  | nil => simp
  | cons c s ih =>
    have := c.utf8Size_pos
    simp only [List.length_cons, size_cons]
    omega

/-- Text that the helpers accept: not empty, and no longer than a line. -/
def Bounded (s : Text) : Prop := s ≠ [] ∧ s.size ≤ Limits.line

instance (s : Text) : Decidable s.Bounded := inferInstanceAs (Decidable (_ ∧ _))

/-- Apply a helper to text that is neither empty nor too long. -/
def guarded {α : Type} (s : Text) (result : Except TextError α) : Except TextError α :=
  if s.Bounded then result else .error .badParameter

/-- A copy of `s` in a destination of `capacity` bytes. -/
def fitting (capacity : Nat) (s : Text) : Except TextError Text :=
  if s.size ≤ capacity then .ok s else .error .noMemory

/-- Parts with a separator between them. -/
def join (separator : Text) : List Text → Text
  | [] => []
  | [part] => part
  | part :: parts => part ++ separator ++ join separator parts

/-! ## Prefixes -/

/-- Whether `start` is how `s` begins. -/
def beginsWith (s start : Text) : Bool := start.isPrefixOf s

theorem beginsWith_iff {s start : Text} : s.beginsWith start = true ↔ start <+: s :=
  List.isPrefixOf_iff_prefix

/-- Whether `start`, itself acceptable text, is how `s` begins. -/
def startsWith (s start : Text) : Except TextError Bool :=
  s.guarded (start.guarded (.ok (s.beginsWith start)))

/-- A prefix begins with a plus sign or a letter. -/
def isPrefixHead (c : Char) : Bool := c = '+' || c.isAlpha

/-- A prefix goes on with letters, digits, plus signs and underscores. -/
def isPrefixTail (c : Char) : Bool := c = '+' || c = '_' || c.isAlphanum

/-- The text before the first colon. -/
def beforeColon (s : Text) : Text := s.takeWhile (· ≠ ':')

/-- The text from the first colon on; empty if there is none. -/
def fromColon (s : Text) : Text := s.dropWhile (· ≠ ':')

/-- Cutting at the first colon loses nothing. -/
theorem beforeColon_append_fromColon (s : Text) : s.beforeColon ++ s.fromColon = s :=
  List.takeWhile_append_dropWhile

/-- Whether `s` begins with a prefix such as `+CSQ:` or `QIURC:`. -/
def isPrefixed (s : Text) : Bool :=
  match s.fromColon, s.beforeColon with
  | _ :: _, head :: tail => isPrefixHead head && tail.all isPrefixTail
  | _, _ => false

/-- `isPrefixed` for acceptable text. -/
def hasPrefix (s : Text) : Except TextError Bool := s.guarded (.ok s.isPrefixed)

def afterColon (s : Text) : Except TextError Text :=
  s.guarded <| match s.fromColon with
    | _ :: rest => .ok rest
    | [] => .error .badParameter

/-- Whether `s` begins with one of `keys`.  A key that is not acceptable text never matches. -/
def startsWithAny (s : Text) (keys : List Text) : Except TextError Bool :=
  s.guarded (.ok (keys.any fun key => key.Bounded && s.beginsWith key))

/-! ## Blanks and quotes -/

/-- Without the characters at the start that satisfy `p`. -/
def dropStart (p : Char → Bool) (s : Text) : Text := s.dropWhile p

/-- Without the characters at the end that satisfy `p`. -/
def dropEnd (p : Char → Bool) (s : Text) : Text := (s.reverse.dropWhile p).reverse

/-- Without blanks at either end, in the sense of Unicode. -/
def trim (s : Text) : Text := (s.dropStart isBlank).dropEnd isBlank

def trimStart (s : Text) : Except TextError Text := s.guarded (.ok (s.dropStart isAsciiBlank))

def trimEnd (s : Text) : Except TextError Text := s.guarded (.ok (s.dropEnd isAsciiBlank))

/-- A copy without any ASCII blank. -/
def withoutBlanks (capacity : Nat) (s : Text) : Except TextError Text :=
  s.guarded (fitting capacity (s.filter fun c => !isAsciiBlank c))

/-- A copy without any double quote. -/
def withoutQuotes (capacity : Nat) (s : Text) : Except TextError Text :=
  s.guarded (fitting capacity (s.filter (· ≠ '"')))

def copy (capacity : Nat) (s : Text) : Except TextError Text :=
  s.guarded (fitting capacity s)

/-- A copy without double quotes and ASCII blanks. -/
def compact (s : Text) : Except TextError Text := do
  let unquoted ← s.withoutQuotes Limits.line
  unquoted.withoutBlanks Limits.line

/-- Without one double quote at the start. -/
def dropOpeningQuote : Text → Text
  | '"' :: rest => rest
  | s => s

/-- Without one double quote at the end. -/
def dropClosingQuote (s : Text) : Text := (dropOpeningQuote s.reverse).reverse

/-- Without the quotes around it.  Text of at most two bytes stays as it is, so that an empty
quoted string does not collapse. -/
def unquote (s : Text) : Except TextError Text :=
  s.guarded (.ok (if s.size ≤ 2 then s else s.dropOpeningQuote.dropClosingQuote))

/-- Whether `s` consists of decimal digits. -/
def isDecimal (s : Text) : Except TextError Bool := s.guarded (.ok (s.all Char.isDigit))

end Text

end ModemLink
