/-
  KeyBundle.Calendar — moments as microseconds since 1970 in universal time, and the ways log
  lines write them. A clock keeps seconds as a binary number of 53 digits: moments more than 272
  years away from 1970 are known to a few microseconds only.
-/

import KeyBundle.Number.Binary

namespace KeyBundle

/-- Microseconds since the first moment of 1970, universal time. -/
structure Moment where
  micros : Int
  deriving DecidableEq

/-- The microseconds that a clock knows of `n`: those of the seconds in 53 binary digits. -/
def keptMicros (n : Nat) : Nat :=
  let scale := Nat.pow 2 (52 - Nat.log2 (n / 1000000))
  Number.roundHalfEven (Number.roundHalfEven (n * scale) 1000000 * 1000000) scale

/-- The moment that a clock shows so many microseconds after the start of 1970. -/
def Moment.shownAt (micros : Int) : Moment :=
  ⟨if micros < 0 then -keptMicros micros.natAbs else keptMicros micros.natAbs⟩

/-- A moment by date and time of day. -/
structure Civil where
  year : Int
  month : Nat
  day : Nat
  hour : Nat
  minute : Nat
  second : Nat
  micro : Nat

namespace Calendar

/-- The date a number of days after 1 January 1970, counted in eras of 400 years that start on
1 March. -/
def dateOf (days : Int) : Int × Nat × Nat :=
  let z := days + 719468
  let era := z.fdiv 146097
  let dayOfEra := (z - era * 146097).toNat
  let yearOfEra := (dayOfEra - dayOfEra / 1460 + dayOfEra / 36524 - dayOfEra / 146096) / 365
  let dayOfYear := dayOfEra - (365 * yearOfEra + yearOfEra / 4 - yearOfEra / 100)
  let shifted := (5 * dayOfYear + 2) / 153
  let day := dayOfYear - (153 * shifted + 2) / 5 + 1
  let month := if shifted < 10 then shifted + 3 else shifted - 9
  (yearOfEra + era * 400 + (if month ≤ 2 then 1 else 0), month, day)

/-- At least `width` digits, zeros in front. -/
def padded (width n : Nat) : String :=
  let digits := toString n
  String.ofList (List.replicate (width - digits.length) '0') ++ digits

end Calendar

def Moment.civil (m : Moment) : Civil :=
  let seconds := m.micros.fdiv 1000000
  let days := seconds.fdiv 86400
  let ofDay := (seconds - days * 86400).toNat
  let (year, month, day) := Calendar.dateOf days
  { year, month, day
    hour := ofDay / 3600
    minute := ofDay / 60 % 60
    second := ofDay % 60
    micro := (m.micros - seconds * 1000000).toNat }

namespace Civil

open Calendar

/-- Hours, minutes and seconds. -/
def timeText (c : Civil) : String :=
  padded 2 c.hour ++ ":" ++ padded 2 c.minute ++ ":" ++ padded 2 c.second

/-- Year, month and day; the year has no leading zeros. -/
def dateText (c : Civil) : String :=
  toString c.year ++ "-" ++ padded 2 c.month ++ "-" ++ padded 2 c.day

/-- The international form with its offset; the fraction is left out when it is zero. -/
def isoText (c : Civil) : String :=
  padded 4 c.year.toNat ++ "-" ++ padded 2 c.month ++ "-" ++ padded 2 c.day ++ "T" ++ c.timeText
    ++ (if c.micro == 0 then "" else "." ++ padded 6 c.micro) ++ "+00:00"

end Civil

end KeyBundle
