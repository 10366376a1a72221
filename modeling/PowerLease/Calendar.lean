/-!
# The calendar

From seconds since the start of 1970 to the Gregorian date and the time of day, in universal time,
and the two ways in which they are written: `2023-11-14T22:13:20Z` in notices, and
`Tue, 14 Nov 2023 22:13:20 +0000` in the header of a message. Both have four digits for the year, so
neither can write a time from the year 10000 on.

The date is found by counting from the first of March of the year 0: every four hundred years have
the same number of days, and with the leap day at the end of the year the months have fixed places.
-/

namespace PowerLease.Calendar

/-- A moment, to the second. -/
structure Moment where
  year : Nat
  month : Nat
  day : Nat
  hour : Nat
  minute : Nat
  second : Nat
  /-- Sunday is 0. -/
  weekday : Nat
deriving DecidableEq, Repr

/-- Days from the first of March of the year 0 to the start of 1970. -/
def daysBefore1970 : Nat := 719468

/-- Days of four hundred years. -/
def daysPerEra : Nat := 146097

/-- Which year of four hundred a day falls into; years begin in March. -/
def yearOfEra (day : Nat) : Nat := (day - day / 1460 + day / 36524 - day / 146096) / 365

/-- The date of a day, counted from the start of 1970: year, month and day of the month. -/
def date (day : Nat) : Nat × Nat × Nat :=
  let z := day + daysBefore1970
  let inEra := z % daysPerEra
  let y := yearOfEra inEra
  let inYear := inEra - (365 * y + y / 4 - y / 100)
  let march := (5 * inYear + 2) / 153
  let month := if march < 10 then march + 3 else march - 9
  let year := y + z / daysPerEra * 400
  (if month ≤ 2 then year + 1 else year, month, inYear - (153 * march + 2) / 5 + 1)

/-- The moment that many seconds after the start of 1970. -/
def moment (seconds : Nat) : Moment :=
  let day := seconds / 86400
  let inDay := seconds % 86400
  let (year, month, dayOfMonth) := date day
  { year, month, day := dayOfMonth, hour := inDay / 3600, minute := inDay % 3600 / 60,
    second := inDay % 60, weekday := (day + 4) % 7 }

/-- The first second of the year 10000. -/
def endOfTime : Nat := 253402300800

/-! ## Texts -/

/-- A number below 100 in two digits. -/
def twoDigits (n : Nat) : String := if n < 10 then s!"0{n}" else toString n

/-- A number below 10000 in four digits. -/
def fourDigits (n : Nat) : String := "".pushn '0' (4 - (toString n).length) ++ toString n

/-- The time of day. -/
def Moment.time (m : Moment) : String :=
  s!"{twoDigits m.hour}:{twoDigits m.minute}:{twoDigits m.second}"

/-- A time as notices show it: `2023-11-14T22:13:20Z`. Times before 1970 show as its start. -/
def timestamp? (seconds : Int) : Option String :=
  let n := seconds.toNat
  if n < endOfTime then
    let m := moment n
    some s!"{fourDigits m.year}-{twoDigits m.month}-{twoDigits m.day}T{m.time}Z"
  else none

/-- The names of the days, Sunday first. -/
def weekdays : List String := ["Sun", "Mon", "Tue", "Wed", "Thu", "Fri", "Sat"]

/-- The names of the months. -/
def months : List String :=
  ["Jan", "Feb", "Mar", "Apr", "May", "Jun", "Jul", "Aug", "Sep", "Oct", "Nov", "Dec"]

/-- A time as the header of a message shows it: `Tue, 14 Nov 2023 22:13:20 +0000`. There is none
for a time before 1970. -/
def messageDate? (seconds : Int) : Option String :=
  if seconds < 0 then none
  else if seconds.toNat < endOfTime then
    let m := moment seconds.toNat
    let weekday := weekdays.getD m.weekday ""
    let month := months.getD (m.month - 1) ""
    some s!"{weekday}, {twoDigits m.day} {month} {fourDigits m.year} {m.time} +0000"
  else none

end PowerLease.Calendar
