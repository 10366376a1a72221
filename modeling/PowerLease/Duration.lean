/-!
# Durations

A duration is a count of whole seconds, as many as fit 64 bits, and of nanoseconds below one
second. Both bounds are part of the type. A month is a twelfth of a year of 365.25 days, rounded
to 2 630 016 seconds, which is a little more: twelve months are longer than a year.
-/

namespace PowerLease

/-- A span of time, to the nanosecond. -/
structure Duration where
  seconds : Nat
  nanos : Nat
  seconds_lt : seconds < 1 <<< 64 := by omega
  nanos_lt : nanos < 1000000000 := by omega
deriving DecidableEq

namespace Duration

/-- The longest count of seconds that a duration holds. -/
def maxSeconds : Nat := 1 <<< 64 - 1

/-- The duration of no length. -/
def zero : Duration := ⟨0, 0, by decide, by decide⟩

/-- A duration of whole seconds, at most `maxSeconds` of them. -/
def ofSeconds (n : Nat) : Duration :=
  ⟨min n maxSeconds, 0, by simp only [maxSeconds]; omega, by decide⟩

/-- Whether the duration has no length. -/
def isZero (d : Duration) : Bool := d.seconds == 0 && d.nanos == 0

theorem isZero_iff (d : Duration) : d.isZero = true ↔ d = zero := by
  rcases d with ⟨s, n, hs, hn⟩
  simp [isZero, zero]

/-- The length in nanoseconds. -/
def toNanos (d : Duration) : Nat := d.seconds * 1000000000 + d.nanos

/-- Two durations of one length are one duration. -/
theorem toNanos_injective {a b : Duration} (h : a.toNanos = b.toNanos) : a = b := by
  rcases a with ⟨s, n, hs, hn⟩
  rcases b with ⟨t, m, ht, hm⟩
  simp only [toNanos] at h
  simp only [mk.injEq]
  omega

theorem toNanos_pos_iff (d : Duration) : 0 < d.toNanos ↔ d ≠ zero := by
  rw [Nat.pos_iff_ne_zero]
  exact not_congr ⟨fun h => toNanos_injective h, fun h => h ▸ rfl⟩

/-! ## Lengths of the units, in seconds -/

def perMinute : Nat := 60
def perHour : Nat := 3600
def perDay : Nat := 86400
def perWeek : Nat := 604800
def perMonth : Nat := 2630016
def perYear : Nat := 31557600

end Duration
end PowerLease
