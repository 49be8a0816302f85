import FaultPages.Text.Basic

/-! # Timestamps — moments in UTC and their RFC 3339 text

    A moment is a count of seconds from the start of 1970 and nanoseconds
    within the second.  A leap second has nanoseconds from one thousand million
    on, and is written as second sixty. -/

namespace FaultPages

/-- A moment in UTC. -/
structure Timestamp where
  seconds : Int
  nanos : Nat
  deriving DecidableEq, Repr

namespace Timestamp

/-- A date of the Gregorian calendar. -/
structure Date where
  year : Int
  month : Nat
  day : Nat
  deriving DecidableEq, Repr

/-- The date that is `days` days after the first of January 1970.  Years are
    counted from March, so that the leap day is the last of its year, and in
    cycles of 400 years, which all have 146097 days. -/
def dateOf (days : Int) : Date :=
  let shifted := days + 719468
  let era := Int.fdiv shifted 146097
  let dayOfEra := (Int.fmod shifted 146097).toNat
  let yearOfEra := (dayOfEra - dayOfEra / 1460 + dayOfEra / 36524 - dayOfEra / 146096) / 365
  let dayOfYear := dayOfEra - (365 * yearOfEra + yearOfEra / 4 - yearOfEra / 100)
  let fromMarch := (5 * dayOfYear + 2) / 153
  let day := dayOfYear - (153 * fromMarch + 2) / 5 + 1
  let month := if fromMarch < 10 then fromMarch + 3 else fromMarch - 9
  let year := (yearOfEra : Int) + era * 400
  ⟨if month ≤ 2 then year + 1 else year, month, day⟩

/-- A year has at least four digits.  Outside 0 to 9999 its sign is always
    written. -/
def yearText (year : Int) : Text :=
  let digits := Text.decimalPadded 4 year.natAbs
  if year < 0 then '-' :: digits
  else if 9999 < year then '+' :: digits
  else digits

/-- The fraction of a second, in as many groups of three digits as it needs. -/
def fractionText (nanos : Nat) : Text :=
  if nanos = 0 then []
  else if nanos % 1000000 = 0 then '.' :: Text.decimalPadded 3 (nanos / 1000000)
  else if nanos % 1000 = 0 then '.' :: Text.decimalPadded 6 (nanos / 1000)
  else '.' :: Text.decimalPadded 9 nanos

/-- The RFC 3339 text of a moment. -/
def text (t : Timestamp) : Text :=
  let date := dateOf (Int.fdiv t.seconds 86400)
  let second := (Int.fmod t.seconds 86400).toNat
  let leap := t.nanos / 1000000000
  let two := Text.decimalPadded 2
  yearText date.year ++ '-' :: two date.month ++ '-' :: two date.day ++
    'T' :: two (second / 3600) ++ ':' :: two (second / 60 % 60) ++
    ':' :: two (second % 60 + leap) ++ fractionText (t.nanos % 1000000000) ++
    ['+', '0', '0', ':', '0', '0']

end Timestamp

end FaultPages
