/-!
# Instants

An instant is a whole number of nanoseconds before or after the beginning of 1970, within the years
from -9999 to 9999 of the Gregorian calendar.
-/

namespace InstanceIdentity

namespace Instant

/-- The beginning of the year -9999. -/
def first : Int := -377705116800000000000

/-- The last nanosecond of the year 9999. -/
def last : Int := 253402300799999999999

end Instant

/-- A point in time. -/
structure Instant where
  nanos : Int
  supported : Instant.first ≤ nanos ∧ nanos ≤ Instant.last
  deriving DecidableEq

namespace Instant

/-- The instant of a number of nanoseconds, if it is supported. -/
def ofNanos? (nanos : Int) : Option Instant :=
  if h : first ≤ nanos ∧ nanos ≤ last then some ⟨nanos, h⟩ else none

/-- The instant a number of seconds later, if it is supported. -/
def addSeconds? (t : Instant) (seconds : Int) : Option Instant :=
  ofNanos? (t.nanos + seconds * 1000000000)

/-- One instant lies before another. -/
def before (s t : Instant) : Bool := s.nanos < t.nanos

theorem ofNanos?_eq_some_iff {nanos : Int} {t : Instant} :
    ofNanos? nanos = some t ↔ t.nanos = nanos := by
  constructor
  · intro h
    rw [ofNanos?] at h
    split at h
    · cases h; rfl
    · cases h
  · rintro rfl
    rw [ofNanos?, dif_pos t.supported]

/-! ## Text -/

/-- A day of the Gregorian calendar. -/
structure Date where
  year : Int
  month : Nat
  day : Nat
  deriving DecidableEq, Repr

/-- The date a number of days after the first of January 1970.  Years are counted from March, in
cycles of four hundred, so that the day of a leap year comes last. -/
def Date.ofDays (days : Int) : Date :=
  let shifted := days + 719468
  let cycle := Int.fdiv shifted 146097
  let dayOfCycle := (Int.fmod shifted 146097).toNat
  let yearOfCycle := (dayOfCycle - dayOfCycle / 1460 + dayOfCycle / 36524 - dayOfCycle / 146096) / 365
  let dayOfYear := dayOfCycle - (365 * yearOfCycle + yearOfCycle / 4 - yearOfCycle / 100)
  let monthFromMarch := (5 * dayOfYear + 2) / 153
  let day := dayOfYear - (153 * monthFromMarch + 2) / 5 + 1
  let month := if monthFromMarch < 10 then monthFromMarch + 3 else monthFromMarch - 9
  { year := yearOfCycle + cycle * 400 + (if month ≤ 2 then 1 else 0), month, day }

/-- Digits with zeros in front up to a width. -/
def padded (width n : Nat) : String :=
  let digits := Nat.toDigits 10 n
  String.ofList (List.replicate (width - digits.length) '0' ++ digits)

/-- The digits of a fraction of a second, without zeros at the end but with at least one digit. -/
def fractionText (nanos : Nat) : String :=
  let digits := ((padded 9 nanos).toList.reverse.dropWhile (· = '0')).reverse
  if digits.isEmpty then "0" else String.ofList digits

/-- Date, time of day and offset, such as `2025-01-01 0:06:00.0 +00:00:00`. -/
def text (t : Instant) : String :=
  let seconds := Int.fdiv t.nanos 1000000000
  let fraction := (Int.fmod t.nanos 1000000000).toNat
  let date := Date.ofDays (Int.fdiv seconds 86400)
  let second := (Int.fmod seconds 86400).toNat
  (if date.year < 0 then "-" else "") ++ padded 4 date.year.natAbs ++ "-" ++ padded 2 date.month ++
    "-" ++ padded 2 date.day ++ " " ++ toString (second / 3600) ++ ":" ++
    padded 2 (second / 60 % 60) ++ ":" ++ padded 2 (second % 60) ++ "." ++ fractionText fraction ++
    " +00:00:00"

end Instant

end InstanceIdentity
