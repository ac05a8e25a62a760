/-!
# Radio access technologies

The technologies are numbered as in the 3GPP field `<AcT>`.
-/

namespace ModemLink

/-- The technology of the serving cell. -/
inductive Radio where
  | gsm
  | gsmCompact
  | wcdma
  | edge
  | hsdpa
  | hsupa
  | hsdpaHsupa
  | lte
  | catM1
  | nbIot
  | invalid
  deriving DecidableEq, Repr

namespace Radio

def ofNumber : Nat → Radio
  | 0 => gsm
  | 1 => gsmCompact
  | 2 => wcdma
  | 3 => edge
  | 4 => hsdpa
  | 5 => hsupa
  | 6 => hsdpaHsupa
  | 7 => lte
  | 8 => catM1
  | 9 => nbIot
  | _ => invalid

/-- The number of a technology; `invalid` has the largest number of a byte. -/
def number : Radio → Nat
  | gsm => 0
  | gsmCompact => 1
  | wcdma => 2
  | edge => 3
  | hsdpa => 4
  | hsupa => 5
  | hsdpaHsupa => 6
  | lte => 7
  | catM1 => 8
  | nbIot => 9
  | invalid => 255

@[simp] theorem ofNumber_number (radio : Radio) : ofNumber radio.number = radio := by
  cases radio <;> rfl

/-- Technologies of the second generation, whose strength is judged by the received power. -/
def isSecondGeneration : Radio → Bool
  | gsm | gsmCompact | edge => true
  | _ => false

/-- Technologies of the fourth generation, whose strength is judged by the reference signal. -/
def isFourthGeneration : Radio → Bool
  | lte | catM1 | nbIot => true
  | _ => false

end Radio

end ModemLink
