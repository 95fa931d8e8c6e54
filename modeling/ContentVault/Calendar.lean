/-!
# Points in time

The vault's clock counts seconds from the start of 1970, with a fraction, in the
proleptic Gregorian calendar.

* a `Timestamp` lies between the years -9999 and 9999;
* only whole seconds are ever stored, rounded towards the past;
* a blob key carries the year and the month of a timestamp.
-/

namespace ContentVault

/-- The first second of the year -9999. -/
def earliestSecond : Int := -377705116800

/-- The last second of the year 9999. -/
def latestSecond : Int := 253402300799

/-- A point in time with a resolution of one nanosecond. -/
structure Timestamp where
  /-- Whole seconds since the start of 1970, rounded towards the past. -/
  seconds : Int
  /-- Nanoseconds since the last whole second. -/
  nanosecond : Nat
  seconds_inRange : earliestSecond ≤ seconds ∧ seconds ≤ latestSecond
  nanosecond_lt : nanosecond < 1000000000
  deriving DecidableEq

namespace Timestamp

/-- The timestamp of a whole second, if the calendar reaches it. -/
def ofSeconds? (seconds : Int) : Option Timestamp :=
  if inRange : earliestSecond ≤ seconds ∧ seconds ≤ latestSecond then
    some ⟨seconds, 0, inRange, by decide⟩
  else
    none

/-- The same timestamp without its fraction of a second. -/
def wholeSecond (timestamp : Timestamp) : Timestamp :=
  ⟨timestamp.seconds, 0, timestamp.seconds_inRange, by decide⟩

/-- The start of 1970. -/
def epoch : Timestamp :=
  ⟨0, 0, by decide, by decide⟩

instance : Inhabited Timestamp := ⟨epoch⟩

theorem ofSeconds?_seconds (timestamp : Timestamp) :
    ofSeconds? timestamp.seconds = some timestamp.wholeSecond := by
  simp [ofSeconds?, wholeSecond, timestamp.seconds_inRange]

end Timestamp

/-- A month of the calendar. -/
structure YearMonth where
  year : Int
  month : Nat
  deriving DecidableEq, Repr

/-- The calendar month of a day counted from the start of 1970.

Years are counted from March so that the leap day comes last; a cycle of four
hundred years has 146097 days. -/
def YearMonth.ofDay (day : Int) : YearMonth :=
  let shifted := day + 719468
  let cycle := shifted.fdiv 146097
  let dayOfCycle := shifted.fmod 146097
  let yearOfCycle :=
    (dayOfCycle - dayOfCycle / 1460 + dayOfCycle / 36524 - dayOfCycle / 146096) / 365
  let dayOfYear := dayOfCycle - (365 * yearOfCycle + yearOfCycle / 4 - yearOfCycle / 100)
  let marchMonth := (5 * dayOfYear + 2) / 153
  let month := if marchMonth < 10 then marchMonth + 3 else marchMonth - 9
  let year := yearOfCycle + cycle * 400
  { year := if month ≤ 2 then year + 1 else year
    month := month.toNat }

/-- The calendar month of a timestamp. -/
def Timestamp.yearMonth (timestamp : Timestamp) : YearMonth :=
  YearMonth.ofDay (timestamp.seconds.fdiv 86400)

/-- A number with leading zeros up to a width. -/
def paddedDigits (width value : Nat) : List Char :=
  let digits := Nat.toDigits 10 value
  List.replicate (width - digits.length) '0' ++ digits

/-- A year with at least four characters, a sign among them. -/
def yearText (year : Int) : List Char :=
  if year < 0 then '-' :: paddedDigits 3 year.natAbs else paddedDigits 4 year.natAbs

/-- The year and the month as one run of digits. -/
def YearMonth.text (yearMonth : YearMonth) : String :=
  String.ofList (yearText yearMonth.year ++ paddedDigits 2 yearMonth.month)

end ContentVault
