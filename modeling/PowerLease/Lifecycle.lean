import PowerLease.Calendar
import PowerLease.Catalog.Handshake
import PowerLease.Catalog.Lease
import PowerLease.Duration
import PowerLease.Timestamp

/-!
# The lifecycle of sessions

One tick walks through five stages, always in this order: it ends the sessions whose time is over,
warns of those whose time is nearly over, announces starts and ends, cleans up after ended sessions
whose servers are all off, and tells the holders of sessions whose servers are all on.

Each stage reads its list of sessions once, the first two share theirs, and writes one session after
another. Every write is a transaction of its own (`Catalog.Handshake`), so what lies between reading
and writing can be stated and changed.

A notice that names an expiry from the year 10000 on cannot be written. The tick aborts there: what
it wrote before stays, nothing after it is done, and there is no report.
-/

namespace PowerLease.Lifecycle

/-- How many transitions a tick made. -/
structure Report where
  expired : Nat := 0
  warned : Nat := 0
  announced : Nat := 0
  offTold : Nat := 0
  cleaned : Nat := 0
  ready : Nat := 0
deriving DecidableEq, Repr

/-- Whether a tick made no transition. -/
def Report.isEmpty (r : Report) : Bool := r == {}

/-! ## Texts of the notices -/

/-- The warning that a session expires. -/
def warning? (s : Session) : Option NoticeText :=
  (Calendar.timestamp? s.expiry).map fun time =>
    { title := s!"Server group {s.group} expiring soon"
      message := s!"Session for server group {s.group} expires at {time}" }

/-- The announcement that a session has started or ended. -/
def announcement? (s : Session) : Option NoticeText :=
  if s.ended then
    some
      { title := s!"Server group {s.group} session ended"
        message := s!"Session for server group {s.group} has ended; servers are shutting down" }
  else
    (Calendar.timestamp? s.expiry).map fun time =>
      { title := s!"Server group {s.group} session started"
        message := s!"Session for server group {s.group} has started and expires at {time}" }

/-- The notice that all servers of a group are off. -/
def offNotice (s : Session) : NoticeText :=
  { title := s!"Server group {s.group} offline"
    message := s!"All servers in server group {s.group} are now off" }

/-- The notice that all servers of a group are on. -/
def readyNotice (s : Session) : NoticeText :=
  { title := s!"Server group {s.group} online"
    message := s!"Servers are online and ready for use: Server Group: {s.group}" }

/-! ## Progress of a tick -/

/-- What a tick has done so far. -/
structure Progress where
  catalog : Catalog
  report : Report := {}
  /-- Whether it has aborted. -/
  aborted : Bool := false
deriving DecidableEq, Repr

/-- Makes one write, and counts it if its guard let it happen. An aborted tick writes nothing. -/
def Progress.write (p : Progress) (transaction : Catalog → Bool × Catalog)
    (count : Report → Report) : Progress :=
  if p.aborted then p
  else
    let (done, after) := transaction p.catalog
    { p with catalog := after, report := if done then count p.report else p.report }

/-- Makes a write whose notice may be impossible to word, which aborts. -/
def Progress.writeNotice (p : Progress) (text : Option NoticeText)
    (transaction : NoticeText → Catalog → Bool × Catalog) (count : Report → Report) : Progress :=
  match text with
  | some text => p.write (transaction text) count
  | none => { p with aborted := true }

/-! ## Writes -/

/-- Ends a session that was read as expired. It is found again by its group. -/
def expire (now : Int) (p : Progress) (s : Session) : Progress :=
  p.write (Catalog.endSession s.group now) fun r => { r with expired := r.expired + 1 }

/-- Warns of the expiry that was read. -/
def warn (now : Int) (p : Progress) (s : Session) : Progress :=
  p.writeNotice (warning? s) (fun text => Catalog.markWarned s text now)
    fun r => { r with warned := r.warned + 1 }

/-- Announces a session. -/
def announce (now : Int) (p : Progress) (s : Session) : Progress :=
  p.writeNotice (announcement? s) (fun text => Catalog.markAnnounced s text now)
    fun r => { r with announced := r.announced + 1 }

/-- Tells that the servers are off, unless the session as it was read had been told, and deletes the
session. -/
def clean (now : Int) (p : Progress) (s : Session) : Progress :=
  let told :=
    if s.offTold then p
    else p.write (Catalog.markOff s (offNotice s) now) fun r => { r with offTold := r.offTold + 1 }
  told.write (Catalog.finalize s) fun r => { r with cleaned := r.cleaned + 1 }

/-- Tells that the servers are on. -/
def tellReady (now : Int) (p : Progress) (s : Session) : Progress :=
  p.write (Catalog.markReady s (readyNotice s) now) fun r => { r with ready := r.ready + 1 }

/-! ## Stages -/

/-- The window of a warning as a stretch of timestamps. -/
def windowLength (window : Duration) : Int := min (window.seconds : Int) Timestamp.last

/-- Below this expiry a session is warned. -/
def threshold (window : Duration) (now : Int) : Int :=
  Timestamp.addUpTo now (windowLength window)

/-- Whether the time of a session is over. -/
def isExpired (now : Int) (s : Session) : Bool := s.expiry < now

/-- Whether the time of a session is nearly over, and it was not warned. -/
def isAging (window : Duration) (now : Int) (s : Session) : Bool :=
  !isExpired now s && s.expiry < threshold window now && !s.warned

/-- A write of the first two stages. -/
inductive FirstWrite where
  | expire (s : Session)
  | warn (s : Session)
deriving DecidableEq, Repr

/-- What the first two stages decide to write on the sessions they read. -/
def firstWrites (window : Duration) (now : Int) (active : List Session) : List FirstWrite :=
  (active.filter (isExpired now)).map .expire ++ (active.filter (isAging window now)).map .warn

/-- Makes one of these writes. -/
def FirstWrite.run (now : Int) (p : Progress) : FirstWrite → Progress
  | expire s => Lifecycle.expire now p s
  | warn s => Lifecycle.warn now p s

/-- Ends and warns. -/
def expireAndWarn (window : Duration) (now : Int) (p : Progress) : Progress :=
  (firstWrites window now p.catalog.activeSessions).foldl (FirstWrite.run now) p

/-- Announces. -/
def announceAll (now : Int) (p : Progress) : Progress :=
  p.catalog.sessionsToAnnounce.foldl (announce now) p

/-- Cleans up. -/
def cleanAll (now : Int) (p : Progress) : Progress :=
  p.catalog.sessionsToClean.foldl (clean now) p

/-- Tells of servers that are on. -/
def tellAllReady (now : Int) (p : Progress) : Progress :=
  p.catalog.sessionsReady.foldl (tellReady now) p

/-- The stages behind the first two. -/
def laterStages (now : Int) (p : Progress) : Progress :=
  tellAllReady now (cleanAll now (announceAll now p))

/-- One tick at a reading of the clock. -/
def tick (window : Duration) (now : Int) (c : Catalog) : Progress :=
  laterStages now (expireAndWarn window now { catalog := c })

/-- The report of a tick, if it came to its end. -/
def Progress.result (p : Progress) : Option Report := if p.aborted then none else some p.report

end PowerLease.Lifecycle
