import PowerLease.Duration
import PowerLease.Halt
import PowerLease.Text.Blank

/-!
# Reading durations

A duration is written as terms `number[.digits] unit`, one after another in any order, with blanks
allowed between and inside them, also between the digits of a number: `1h 30m`, `1.5 h`, `1 0 s`.
The text `0` alone is no time at all.

The reader is a machine that takes one character at a time. Its `Phase` says which part of a term
it stands in, and its `State` holds the sum of the terms behind it, so reading is one fold over
the characters and needs no measure.

Numbers, and all products and sums of them, have to fit 64 bits. A fraction is a numerator over a
power of ten; the part of the unit that it stands for must come out whole, in nanoseconds for the
units up to the minute and in seconds from the hour on. The sum carries nanoseconds into seconds
only above one second; exactly one second of them is carried in the last step, which aborts where
the seconds are already at their limit.
-/

namespace PowerLease.Duration

/-! ## Units -/

/-- A unit of time. -/
inductive TimeUnit where
  | nanosecond | microsecond | millisecond | second | minute | hour | day | week | month | year
deriving DecidableEq, Repr

/-- The names under which a unit can be written. -/
def TimeUnit.names : TimeUnit → List String
  | .nanosecond => ["nanos", "nsec", "ns"]
  | .microsecond => ["usec", "us", "µs"]
  | .millisecond => ["millis", "msec", "ms"]
  | .second => ["seconds", "second", "secs", "sec", "s"]
  | .minute => ["minutes", "minute", "min", "mins", "m"]
  | .hour => ["hours", "hour", "hr", "hrs", "h"]
  | .day => ["days", "day", "d"]
  | .week => ["weeks", "week", "wk", "wks", "w"]
  | .month => ["months", "month", "M"]
  | .year => ["years", "year", "yr", "yrs", "y"]

/-- All units, the shortest first. -/
def TimeUnit.all : List TimeUnit :=
  [.nanosecond, .microsecond, .millisecond, .second, .minute, .hour, .day, .week, .month, .year]

/-- The unit of a name. Case matters. -/
def TimeUnit.named? (name : String) : Option TimeUnit :=
  TimeUnit.all.find? fun u => u.names.contains name

/-- Whether a character can stand in a unit's name. -/
def isUnitLetter (c : Char) : Bool :=
  ('a' ≤ c && c ≤ 'z') || ('A' ≤ c && c ≤ 'Z') || c == 'µ'

/-- An amount of time that is counted in one of the two parts of a duration. -/
inductive Grain where
  | seconds (n : Nat)
  | nanos (n : Nat)
deriving DecidableEq, Repr

/-- What one unit amounts to. -/
def TimeUnit.grain : TimeUnit → Grain
  | .nanosecond => .nanos 1
  | .microsecond => .nanos 1000
  | .millisecond => .nanos 1000000
  | .second => .seconds 1
  | .minute => .seconds perMinute
  | .hour => .seconds perHour
  | .day => .seconds perDay
  | .week => .seconds perWeek
  | .month => .seconds perMonth
  | .year => .seconds perYear

/-- What one unit amounts to when it is divided: seconds and minutes go down to nanoseconds, and a
nanosecond cannot be divided. -/
def TimeUnit.fine? : TimeUnit → Option Grain
  | .nanosecond => none
  | .second => some (.nanos 1000000000)
  | .minute => some (.nanos 60000000000)
  | u => some u.grain

/-! ## Faults -/

/-- Why a text is no duration. Places are counted in bytes of the text. -/
inductive Fault where
  /-- The text holds no term. -/
  | empty
  /-- A character that belongs to no term. -/
  | invalidCharacter (place : Nat)
  /-- A term has to begin with a digit. -/
  | numberExpected (place : Nat)
  /-- A unit's name that names nothing, or none at all, after a number. -/
  | unknownUnit (name : String) (number : Nat)
  /-- A number or a sum leaves 64 bits, or a fraction does not come out whole. -/
  | overflow
deriving DecidableEq, Repr

/-- The wording of a fault. -/
def Fault.message : Fault → String
  | .empty => "value was empty"
  | .invalidCharacter place => s!"invalid character at {place}"
  | .numberExpected place => s!"expected number at {place}"
  | .unknownUnit name number =>
    if name.isEmpty then
      s!"time unit needed, for example {number}sec or {number}ms"
    else
      s!"unknown time unit \"{name}\", supported units: ns, us/µs, ms, sec, min, hours, days, "
        ++ "weeks, months, years (and few variations)"
  | .overflow => "number is too large or cannot be represented without a lack of precision "
      ++ "(values below 1ns are not supported)"

/-- The number, if it fits 64 bits. -/
def fit (n : Nat) : Except (Halt Fault) Nat :=
  if n < 1 <<< 64 then .ok n else refuse .overflow

/-! ## Sums -/

/-- A duration of the given parts, where the nanoseconds may be up to four thousand million. Whole
seconds among them are carried; there is no duration if the carry does not fit. -/
def ofParts (seconds nanos : Nat) : Except (Halt Fault) Duration :=
  if h : seconds + nanos / 1000000000 < 1 <<< 64 then
    .ok ⟨seconds + nanos / 1000000000, nanos % 1000000000, h, Nat.mod_lt _ (by decide)⟩
  else
    abort

/-- Adds seconds and nanoseconds to a duration. -/
def add (sum : Duration) (seconds nanos : Nat) : Except (Halt Fault) Duration := do
  let nanos ← fit (sum.nanos + nanos)
  let (seconds, nanos) ←
    if 1000000000 < nanos then
      let seconds ← fit (seconds + nanos / 1000000000)
      pure (seconds, nanos % 1000000000)
    else
      pure (seconds, nanos)
  let seconds ← fit (sum.seconds + seconds)
  ofParts seconds nanos

/-- The digits behind the point: `numerator / denominator`, the denominator a power of ten. -/
structure Fraction where
  numerator : Nat
  denominator : Nat
deriving DecidableEq, Repr

/-- The fraction before any digit is read. -/
def Fraction.start : Fraction := ⟨0, 1⟩

/-- A fraction with one more digit. -/
def Fraction.push (f : Fraction) (digit : Nat) : Except (Halt Fault) Fraction := do
  let denominator ← fit (f.denominator * 10)
  let numerator ← fit (f.numerator * 10 + digit)
  pure ⟨numerator, denominator⟩

/-- Adds `n` times a grain. -/
def addWhole (sum : Duration) (n : Nat) : Grain → Except (Halt Fault) Duration
  | .seconds each => do add sum (← fit (n * each)) 0
  | .nanos each => do add sum 0 (← fit (n * each))

/-- The part of `each` that the fraction stands for, if it is whole. -/
def Fraction.of (f : Fraction) (each : Nat) : Except (Halt Fault) Nat := do
  let n ← fit (f.numerator * each)
  if n % f.denominator = 0 then pure (n / f.denominator) else refuse .overflow

/-- Adds the fraction of a grain. -/
def addFraction (sum : Duration) (f : Fraction) : Grain → Except (Halt Fault) Duration
  | .seconds each => do add sum (← f.of each) 0
  | .nanos each => do add sum 0 (← f.of each)

/-- Adds a term. -/
def addTerm (sum : Duration) (n : Nat) (fraction : Option Fraction) (name : String) :
    Except (Halt Fault) Duration :=
  match TimeUnit.named? name with
  | none => refuse (.unknownUnit name n)
  | some u => do
    let sum ← addWhole sum n u.grain
    match fraction with
    | none => pure sum
    | some f =>
      match u.fine? with
      | none => refuse .overflow
      | some grain => addFraction sum f grain

/-! ## The machine -/

/-- Where the reader stands. -/
inductive Phase where
  /-- Before a term, and whether one was read already. -/
  | gap (some : Bool)
  /-- In the whole part of a number. -/
  | whole (n : Nat)
  /-- Behind the point. `mark` is where the last part that was understood ends; directly behind the
  point it is the place of the point. -/
  | fraction (n : Nat) (f : Fraction) (mark : Nat)
  /-- In a unit's name, the letters in reverse. -/
  | unit (n : Nat) (f : Option Fraction) (letters : List Char)
deriving Repr

/-- What the reader knows after a part of the text. -/
structure State where
  /-- How many bytes are read. -/
  place : Nat
  sum : Duration
  phase : Phase

/-- The value of a decimal digit. -/
def digit? (c : Char) : Option Nat :=
  if '0' ≤ c && c ≤ '9' then some (c.toNat - '0'.toNat) else none

/-- Takes one character. -/
def State.step (st : State) (c : Char) : Except (Halt Fault) State := do
  let next := st.place + c.utf8Size
  match st.phase with
  | .gap _ =>
    match digit? c with
    | some d => pure { st with place := next, phase := .whole d }
    | none =>
      if Text.isBlank c then pure { st with place := next }
      else refuse (.numberExpected st.place)
  | .whole n =>
    match digit? c with
    | some d => pure { st with place := next, phase := .whole (← fit (n * 10 + d)) }
    | none =>
      if Text.isBlank c then pure { st with place := next }
      else if isUnitLetter c then pure { st with place := next, phase := .unit n none [c] }
      else if c = '.' then
        pure { st with place := next, phase := .fraction n .start st.place }
      else refuse (.invalidCharacter st.place)
  | .fraction n f mark =>
    match digit? c with
    | some d => pure { st with place := next, phase := .fraction n (← f.push d) next }
    | none =>
      if Text.isBlank c then pure { st with place := next, phase := .fraction n f next }
      else if isUnitLetter c && f.denominator != 1 then
        pure { st with place := next, phase := .unit n (some f) [c] }
      else refuse (.invalidCharacter mark)
  | .unit n f letters =>
    match digit? c with
    | some d =>
      let sum ← addTerm st.sum n f (String.ofList letters.reverse)
      pure { place := next, sum, phase := .whole d }
    | none =>
      if isUnitLetter c then
        pure { st with place := next, phase := .unit n f (c :: letters) }
      else if Text.isBlank c then
        let sum ← addTerm st.sum n f (String.ofList letters.reverse)
        pure { place := next, sum, phase := .gap true }
      else refuse (.invalidCharacter st.place)

/-- The duration, when the text is over. -/
def State.finish (st : State) : Except (Halt Fault) Duration :=
  match st.phase with
  | .gap false => refuse .empty
  | .gap true => pure st.sum
  | .whole n => addTerm st.sum n none ""
  | .fraction n f mark =>
    if f.denominator = 1 then refuse (.invalidCharacter mark) else addTerm st.sum n (some f) ""
  | .unit n f letters => addTerm st.sum n f (String.ofList letters.reverse)

/-- Before the first character. -/
def State.start : State := ⟨0, zero, .gap false⟩

/-- Reads a duration. -/
def read (text : String) : Except (Halt Fault) Duration :=
  if text = "0" then pure zero
  else do (← text.toList.foldlM State.step State.start).finish

/-! ## Durations that have to have a length -/

/-- Why a text is not accepted where a length is needed. -/
inductive Reason where
  | empty
  | unreadable (fault : Fault)
  | zero
deriving DecidableEq, Repr

/-- The wording of a reason. -/
def Reason.message : Reason → String
  | .empty => "duration is empty"
  | .unreadable fault => fault.message
  | .zero => "duration must be greater than zero"

/-- A text that was not accepted, and why. -/
structure Refusal where
  input : String
  reason : Reason
deriving DecidableEq, Repr

/-- The wording of a refusal. -/
def Refusal.message (r : Refusal) : String :=
  s!"Invalid duration '{r.input}': {r.reason.message}"

/-- Reads a duration of some length. Blanks around it are passed over. -/
def readPositive (text : String) : Except (Halt Refusal) Duration :=
  let trimmed := Text.trim text
  if trimmed.isEmpty then refuse ⟨text, .empty⟩
  else
    match read trimmed with
    | .error halt => .error (halt.map fun fault => ⟨text, .unreadable fault⟩)
    | .ok d => if d.isZero then refuse ⟨text, .zero⟩ else .ok d

/-- An accepted duration has a length. -/
theorem isZero_of_readPositive {text : String} {d : Duration} (h : readPositive text = .ok d) :
    d.isZero = false := by
  simp only [readPositive] at h
  split at h
  · simp [refuse] at h
  · split at h
    · simp at h
    · split at h
      · simp [refuse] at h
      · next hz => cases h; simpa using hz

end PowerLease.Duration
