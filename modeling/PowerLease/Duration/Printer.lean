import PowerLease.Duration

/-!
# Writing durations

A duration is written by its parts, the longest unit first and parts of no length left out:
`2years 1month 3days 4h 5m 6s 7ms 8us 9ns`. Years, months and days have a plural, the shorter units
do not. No time at all is `0s`. Weeks are never written.
-/

namespace PowerLease.Duration

/-- A unit as it is written, with the letter of its plural. -/
structure Label where
  name : String
  plural : String
deriving DecidableEq, Repr

def Label.year : Label := ⟨"year", "s"⟩
def Label.month : Label := ⟨"month", "s"⟩
def Label.day : Label := ⟨"day", "s"⟩
def Label.hour : Label := ⟨"h", ""⟩
def Label.minute : Label := ⟨"m", ""⟩
def Label.second : Label := ⟨"s", ""⟩
def Label.milli : Label := ⟨"ms", ""⟩
def Label.micro : Label := ⟨"us", ""⟩
def Label.nano : Label := ⟨"ns", ""⟩

/-- A count of one unit. -/
structure Part where
  count : Nat
  label : Label
deriving DecidableEq, Repr

/-- The text of a part; more than one takes the plural. -/
def Part.render (p : Part) : String :=
  toString p.count ++ p.label.name ++ (if p.count > 1 then p.label.plural else "")

/-- The parts of a duration, the longest unit first. -/
def parts (d : Duration) : List Part :=
  let inYear := d.seconds % perYear
  let inMonth := inYear % perMonth
  let inDay := inMonth % perDay
  [⟨d.seconds / perYear, .year⟩, ⟨inYear / perMonth, .month⟩, ⟨inMonth / perDay, .day⟩,
    ⟨inDay / perHour, .hour⟩, ⟨inDay % perHour / perMinute, .minute⟩,
    ⟨inDay % perMinute, .second⟩, ⟨d.nanos / 1000000, .milli⟩, ⟨d.nanos / 1000 % 1000, .micro⟩,
    ⟨d.nanos % 1000, .nano⟩]

/-- The text of a duration. -/
def render (d : Duration) : String :=
  if d.isZero then "0s"
  else " ".intercalate ((d.parts.filter fun p => p.count != 0).map Part.render)

end PowerLease.Duration
