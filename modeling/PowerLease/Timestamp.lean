/-!
# Timestamps

Clock readings and expiries are whole seconds since the start of 1970, kept as signed numbers of 64
bits. The clock of the program never reads less than zero. Sums that have to be exact are refused
when they leave the range; the threshold of the warning stops at its end.
-/

namespace PowerLease.Timestamp

/-- The last timestamp. -/
def last : Int := 0x7FFFFFFFFFFFFFFF

/-- The first timestamp. -/
def first : Int := -0x8000000000000000

/-- What the program's clock reads: a time before 1970 reads as its start. -/
def ofClock (seconds : Int) : Int := max 0 seconds

/-- The sum, if it is a timestamp. -/
def add? (now : Int) (seconds : Nat) : Option Int :=
  if now + seconds ≤ last then some (now + seconds) else none

/-- The sum, or the end of the range that it leaves. -/
def addUpTo (now : Int) (seconds : Int) : Int := max first (min last (now + seconds))

end PowerLease.Timestamp
