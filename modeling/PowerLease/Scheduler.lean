import PowerLease.Settings
import PowerLease.Task
import PowerLease.Worker

/-!
# The scheduler

Each task has a worker of its own. The one that takes over reports has its own period, and the other
three share one, so that they become due together. Then they share the store by turns: each of them
asks for it, and gets it once before any of them gets it again.

So when the three are due, all their reading is done before their writing but for one thing: what the
sessions' worker writes first comes before the notices are read that are to be delivered. Notices that
it writes later wait for the next round.

This is the order that one connection to the store gives, for which the workers wait in a line. With
more connections they may mix in other ways; this one is always among them (`Scheduler.exists_course`).

The wall clock stands still while the workers are watched here.
-/

namespace PowerLease

/-- How often the workers run, in milliseconds. -/
structure Timetable where
  /-- Between two reports of the provider. -/
  scrapePeriod : Nat
  /-- Between two turns of each of the other workers. -/
  innerPeriod : Nat
  /-- Whether the first report is asked for at once. -/
  scrapeOnStart : Bool
deriving DecidableEq, Repr

namespace Scheduler

/-- A duration in milliseconds, which schedules are counted in. A part of a millisecond counts as a whole
one, so only a duration without a length has none. -/
def milliseconds (d : Duration) : Nat := d.seconds * 1000 + (d.nanos + 999999) / 1000000

/-- The timetable of some settings. -/
def timetable (s : WorkerSettings) : Timetable :=
  { scrapePeriod := milliseconds s.scrapeInterval, innerPeriod := milliseconds s.internalClock
    scrapeOnStart := s.scrapeOnStart }

/-- Who has a turn. -/
inductive Turn where
  /-- The worker that takes over reports. -/
  | outer
  /-- The other three. -/
  | inner
deriving DecidableEq, Repr

/-- The starts of a worker's runs up to a time. A worker without period aborts, which the others do
not mind. -/
def starts (period : Nat) (immediate : Bool) (limit : Nat) : List Nat :=
  match Schedule.ofPeriod? period immediate [] with
  | some s => Worker.startsUntil s limit
  | none => []

/-- All turns up to a time, with their times. Reports are taken over before anything else is done at
that time. -/
def turns (t : Timetable) (limit : Nat) : List (Nat × Turn) :=
  let outer := (starts t.scrapePeriod t.scrapeOnStart limit).map fun time => (time, Turn.outer)
  let inner := (starts t.innerPeriod false limit).map fun time => (time, Turn.inner)
  List.merge outer inner fun a b => a.1 ≤ b.1

variable {σ ν : Type}

/-- What the sessions' and the notices' worker do to a catalog when they are due together and share one
connection to it. The round purges and the tick reads, then the tick makes its first write, and then the
queue is read. What was read is delivered behind the rest of the tick, which does not touch it. -/
def sessionsAndNotices (registry : Registry ν) (window : Duration) (clock : Int) (c : Catalog)
    (network : ν) : ν × Store :=
  let now := Timestamp.ofClock clock
  let writes := Lifecycle.firstWrites window now c.activeSessions
  let step := Lifecycle.FirstWrite.run now
  let begun := (writes.take 1).foldl step { catalog := c.purge.2 }
  let ticked := Lifecycle.laterStages now ((writes.drop 1).foldl step begun)
  (Dispatch.deliverAll registry clock begun.catalog.pending {} network (.opened ticked.catalog)).2

/-- The turn of the three workers that are due together. -/
def innerTurn [Provider σ] (registry : Registry ν) (window : Duration) (clock : Int)
    (i : Installation σ ν) : Installation σ ν :=
  let managed := i.manage.2
  match managed.store with
  | .closed => managed
  | .opened c =>
    let (network, store) := sessionsAndNotices registry window clock c managed.network
    { managed with network, store }

/-- A turn. -/
def Turn.run [Provider σ] (registry : Registry ν) (window : Duration) (clock : Int)
    (turn : Turn) (i : Installation σ ν) : Installation σ ν :=
  match turn with
  | outer => Task.run registry window clock .scrape i
  | inner => innerTurn registry window clock i

/-- Lets the workers run for some time. -/
def run [Provider σ] (t : Timetable) (registry : Registry ν) (window : Duration) (clock : Int)
    (limit : Nat) (i : Installation σ ν) : Installation σ ν :=
  (turns t limit).foldl (fun i turn => turn.2.run registry window clock i) i

end Scheduler
end PowerLease
