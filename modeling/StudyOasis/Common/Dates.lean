import Mathlib.Data.Int.Notation

/-!
# Dates

A time is a number of milliseconds since the epoch.  A calendar day (UTC) is its number of days
since the epoch, which stands for the part of the ISO text before the `T`.
-/

namespace StudyOasis

/-- The milliseconds of a day. -/
def msPerDay : ℤ := 1000 * 60 * 60 * 24

/-- The day of a time: what `toISOString().split('T')[0]` tells of it. -/
def dayOf (time : ℤ) : ℤ := time / msPerDay

/-- `new Date(day).getTime()` : the midnight a day starts with. -/
def midnight (day : ℤ) : ℤ := day * msPerDay

/-- A day of the calendar. -/
structure CivilDate where
  year : ℤ
  month : ℤ
  day : ℤ
  deriving DecidableEq, Repr

/-- The date of a day.  The years are counted from March, in eras of 400 years. -/
def civilDate (day : ℤ) : CivilDate :=
  let z := day + 719468
  let era := z / 146097
  let dayOfEra := z % 146097
  let yearOfEra := (dayOfEra - dayOfEra / 1460 + dayOfEra / 36524 - dayOfEra / 146096) / 365
  let dayOfYear := dayOfEra - (365 * yearOfEra + yearOfEra / 4 - yearOfEra / 100)
  let marchMonth := (5 * dayOfYear + 2) / 153
  let month := if marchMonth < 10 then marchMonth + 3 else marchMonth - 9
  { year := yearOfEra + era * 400 + if month ≤ 2 then 1 else 0
    month
    day := dayOfYear - (153 * marchMonth + 2) / 5 + 1 }

/-- The digits of a number, filled up with zeros. -/
def padZeros (width n : Nat) : String :=
  let digits := toString n
  String.ofList (List.replicate (width - digits.length) '0') ++ digits

/-- `toISOString()`. -/
def toISOString (time : ℤ) : String :=
  let date := civilDate (dayOf time)
  let ms := time % msPerDay
  let year :=
    if date.year < 0 then "-" ++ padZeros 6 date.year.natAbs
    else if 9999 < date.year then "+" ++ padZeros 6 date.year.toNat
    else padZeros 4 date.year.toNat
  year ++ "-" ++ padZeros 2 date.month.toNat ++ "-" ++ padZeros 2 date.day.toNat ++ "T" ++
    padZeros 2 (ms / 3600000).toNat ++ ":" ++ padZeros 2 (ms / 60000 % 60).toNat ++ ":" ++
    padZeros 2 (ms / 1000 % 60).toNat ++ "." ++ padZeros 3 (ms % 1000).toNat ++ "Z"

/-- The last millisecond of a leap day. -/
example : toISOString 951868799999 = "2000-02-29T23:59:59.999Z" := by decide +kernel

end StudyOasis
