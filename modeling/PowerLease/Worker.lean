/-!
# The loop of a worker

A worker runs its task over and over, one period after the other, until it is told to stop. Runs do
not overlap. A run that lasts too long delays those behind it: a run that starts late by more than
some slack moves all later ones, so that delays are never made up for by runs in quick succession.

A worker looks whether to stop only between two runs. It stops too when nobody is left who could tell
it to. If a run is overdue by then, a loop that waits for whichever of the two comes first may as well
take that run first. Here it does not, and stops at once.

Time is counted in whole milliseconds. What a worker does of its own accord, it does in steps: a run
that is due starts, or a run is over. Each step is at a definite time, and there are only so many of
them up to any time, because each run puts off the next one by a period at least.
-/

namespace PowerLease

/-- How often a worker runs. -/
structure Schedule where
  /-- In whole milliseconds. A period with a part of one is rounded up (`Scheduler.milliseconds`), which
  makes each wait between two runs longer by less than a millisecond. -/
  period : Nat
  /-- Whether the first run is at once. It waits for a period otherwise. -/
  immediate : Bool
  /-- How long the runs last, in their order. Runs beyond these take no time. -/
  takes : List Nat
  period_pos : 0 < period

/-- The schedule of a period. There is none without a length. -/
def Schedule.ofPeriod? (period : Nat) (immediate : Bool) (takes : List Nat) : Option Schedule :=
  if h : 0 < period then some ⟨period, immediate, takes, h⟩ else none

namespace Worker

/-- Where in its loop a worker is. -/
inductive Phase where
  /-- It has not had its first turn. -/
  | fresh
  /-- It waits for the next run. -/
  | waiting (due : Nat)
  /-- It runs, and knows when the next run is due. -/
  | busy (ends due : Nat)
  | stopped
deriving DecidableEq, Repr

end Worker

/-- A worker. -/
structure Worker where
  phase : Worker.Phase := .fresh
  /-- Whether it is told to stop. -/
  told : Bool := false
  /-- Whether nobody is left who could tell it. -/
  alone : Bool := false
  /-- When its runs started, the last one in front. -/
  starts : List Nat := []
  /-- How many of its runs are over. -/
  finished : Nat := 0
deriving DecidableEq, Repr

namespace Worker

/-! ## Steps -/

/-- How late a run may start without moving those behind it, in milliseconds. -/
def slack : Nat := 5

/-- When the next run is due, if one that was due starts now. -/
def nextDue (s : Schedule) (due now : Nat) : Nat :=
  if due + slack < now then now + s.period else due + s.period

/-- Starts a run that is due. -/
def start (s : Schedule) (due now : Nat) (w : Worker) : Worker :=
  { w with
    phase := .busy (now + s.takes.getD w.starts.length 0) (nextDue s due now)
    starts := now :: w.starts }

/-- What a worker does between two runs: it stops, or starts the next run, or waits for it. Where nobody
is left who could tell it to stop, it leaves out a run that is due. -/
def look (s : Schedule) (due now : Nat) (w : Worker) : Worker :=
  if w.told || w.alone then { w with phase := .stopped }
  else if due ≤ now then w.start s due now
  else { w with phase := .waiting due }

/-- The next step of a worker's own accord, unless it is later than a time. -/
def step? (s : Schedule) (limit : Nat) (w : Worker) : Option Worker :=
  match w.phase with
  | .waiting due => if due ≤ limit then some (w.start s due due) else none
  | .busy ends due =>
    if ends ≤ limit then some ({ w with finished := w.finished + 1 }.look s due ends) else none
  | .fresh | .stopped => none

/-- A bound for the number of steps up to a time. -/
def rank (limit : Nat) (w : Worker) : Nat :=
  match w.phase with
  | .waiting due => 2 * (limit + 1 - due)
  | .busy _ due => 2 * (limit + 1 - due) + 1
  | .fresh | .stopped => 0

theorem lt_nextDue (s : Schedule) {due now : Nat} (h : due ≤ now) : due < nextDue s due now := by
  have := s.period_pos
  unfold nextDue
  split <;> omega

theorem rank_start_lt (s : Schedule) {due now limit : Nat} (w : Worker) (h : due ≤ now)
    (hl : now ≤ limit) : rank limit (w.start s due now) < 2 * (limit + 1 - due) := by
  have := lt_nextDue s h
  simp only [rank, start]
  omega

theorem rank_lt_of_step? {s : Schedule} {limit : Nat} {w v : Worker}
    (h : w.step? s limit = some v) : rank limit v < rank limit w := by
  unfold step? at h
  split at h
  · rename_i due hp
    split at h
    · cases h
      have := rank_start_lt s w (Nat.le_refl due) ‹due ≤ limit›
      simp only [rank, hp] at this ⊢
      exact this
    · cases h
  · rename_i ends due hp
    split at h
    · cases h
      unfold look
      split
      · simp [rank, hp]
      · split
        · have := rank_start_lt s { w with finished := w.finished + 1 } ‹due ≤ ends› ‹ends ≤ limit›
          simp only [rank, hp] at this ⊢
          omega
        · simp [rank, hp]
    · cases h
  · cases h
  · cases h

/-- Lets a worker do what it does of its own accord up to a time. -/
def runUntil (s : Schedule) (limit : Nat) (w : Worker) : Worker :=
  match _taken : w.step? s limit with
  | some v => runUntil s limit v
  | none => w
termination_by rank limit w
decreasing_by exact rank_lt_of_step? _taken

/-! ## Turns -/

/-- Gives a worker its turn, which matters to one that has had none and to one that waits. -/
def turn (s : Schedule) (now : Nat) (w : Worker) : Worker :=
  match w.phase with
  | .fresh => w.look s (if s.immediate then now else now + s.period) now
  | .waiting due => w.look s due now
  | .busy _ _ | .stopped => w

/-- Gives a worker its turn, and lets it go on for as long as that takes no time. -/
def wake (s : Schedule) (now : Nat) (w : Worker) : Worker := (w.turn s now).runUntil s now

/-- What happens to a worker from outside. -/
inductive Event where
  /-- Time passes. -/
  | sleep (length : Nat)
  /-- It is told to stop, or told to go on. -/
  | signal (stop : Bool)
  /-- Nobody is left who could tell it. -/
  | release
deriving DecidableEq, Repr

/-- A worker, and what time it is. -/
structure Timed where
  now : Nat := 0
  worker : Worker
deriving DecidableEq, Repr

/-- A worker after an event. -/
def Timed.after (s : Schedule) (t : Timed) : Event → Timed
  | .sleep length =>
    { now := t.now + length, worker := (t.worker.turn s t.now).runUntil s (t.now + length) }
  | .signal stop =>
    let told := if t.worker.alone then t.worker else { t.worker with told := stop }
    { t with worker := told.wake s t.now }
  | .release => { t with worker := { t.worker with alone := true }.wake s t.now }

/-- A worker when it has stopped, which it is told to do now. -/
def Timed.conclude (s : Schedule) (t : Timed) : Worker :=
  let w := (t.after s (.signal true)).worker
  match w.phase with
  | .busy ends _ => w.runUntil s ends
  | _ => w

/-- The starts of a worker's runs up to a time, if nobody tells it to stop and its runs take no
time. -/
def startsUntil (s : Schedule) (limit : Nat) : List Nat :=
  (Timed.after { s with takes := [] } { worker := {} } (.sleep limit)).worker.starts.reverse

/-! ## Trials -/

/-- What is seen of a worker. -/
structure Glimpse where
  started : Nat
  finished : Nat
  stopped : Bool
deriving DecidableEq, Repr

/-- What is seen of a worker now. -/
def glimpse (w : Worker) : Glimpse :=
  ⟨w.starts.length, w.finished, w.phase == .stopped⟩

/-- What is seen of a worker that aborted at its first turn. -/
def Glimpse.aborted : Glimpse := ⟨0, 0, true⟩

/-- What is seen of a worker from its first turn to its end. -/
structure Trial where
  /-- After each event. -/
  glimpses : List Glimpse
  /-- Whether it aborted. -/
  aborted : Bool
  /-- When its runs started. -/
  starts : List Nat
  /-- How many of its runs were over. -/
  finished : Nat
deriving DecidableEq, Repr

/-- A worker before some events, and after each of them. -/
def trace (s : Schedule) (t : Timed) : List Event → List Timed
  | [] => [t]
  | e :: rest => t :: trace s (t.after s e) rest

/-- Tries a worker out. Without a schedule it aborts at its first turn. -/
def trial (schedule : Option Schedule) (told : Bool) (events : List Event) : Trial :=
  match schedule with
  | none =>
    { glimpses := events.map fun _ => .aborted, aborted := true, starts := [], finished := 0 }
  | some s =>
    let start : Timed := { worker := { told } }
    let last := events.foldl (Timed.after s) start
    let w := last.conclude s
    { glimpses := (trace s start events).tail.map fun t => t.worker.glimpse
      aborted := false, starts := w.starts.reverse, finished := w.finished }

end Worker
end PowerLease
