import ModemLink.Radio

/-!
# Signal quality

The command `+CSQ` and its unsolicited form report two raw numbers.  `Signal.ofCsq` converts them,
and `Signal.withBars` rates the strength for a technology.  What the modem did not report has the
value `Signal.absent`, or `Signal.noBars` for the rating.
-/

namespace ModemLink

/-- A reading of the signal. -/
structure Signal where
  /-- The strength as `+CSQ` reports it; 99 when not known. -/
  rawRssi : Nat
  /-- The error rate class as `+CSQ` reports it; 99 when not known. -/
  rawBer : Nat
  /-- Received signal strength in dBm. -/
  rssi : Int
  /-- Received power of the reference signal in dBm. -/
  rsrp : Int
  /-- Received quality of the reference signal in dB. -/
  rsrq : Int
  sinr : Int
  /-- Bit error rate in hundredths of a percent. -/
  ber : Int
  /-- From zero to five. -/
  bars : Nat
  deriving DecidableEq, Repr

namespace Signal

/-- The value of a quantity that was not reported. -/
def absent : Int := -32768

/-- The rating of a signal of unknown strength. -/
def noBars : Nat := 255

/-- The raw number for "not known or not detectable". -/
def unknownRaw : Nat := 99

def unknown : Signal :=
  { rawRssi := unknownRaw, rawBer := unknownRaw, rssi := absent, rsrp := absent, rsrq := absent
    sinr := absent, ber := absent, bars := noBars }

/-- The error rates of the classes that `+CSQ` reports, in hundredths of a percent. -/
def berClasses : List Int := [14, 28, 57, 113, 226, 453, 905, 1810]

/-- The reading that a pair of raw numbers stands for.  Numbers out of range count as not known. -/
def ofCsq (rssi ber : Nat) : Signal :=
  { unknown with
    rawRssi := rssi
    rawBer := ber
    rssi := if rssi ≤ 31 then -113 + 2 * (rssi : Int) else absent
    ber := berClasses.getD ber absent }

/-- Upper bounds of one to four bars, in dBm of received signal strength. -/
def secondGenerationBounds : List Int := [-104, -98, -89, -80]

/-- Upper bounds of one to four bars, in dBm of received reference power. -/
def fourthGenerationBounds : List Int := [-115, -105, -95, -85]

/-- The rating of a strength: one more than the number of bounds it exceeds. -/
def rating (bounds : List Int) (strength : Int) : Nat :=
  if strength = absent then noBars
  else (bounds.takeWhile (· < strength)).length + 1

/-- The rating of a signal under a technology. -/
def barsUnder (signal : Signal) (radio : Radio) : Nat :=
  if radio.isSecondGeneration then rating secondGenerationBounds signal.rssi
  else if radio.isFourthGeneration then rating fourthGenerationBounds signal.rsrp
  else noBars

def withBars (signal : Signal) (radio : Radio) : Signal :=
  { signal with bars := signal.barsUnder radio }

end Signal

end ModemLink
