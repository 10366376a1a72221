import PowerLease.Catalog.Queue

/-!
# The handshake between a session and the lifecycle

The lifecycle reads sessions, decides what each of them needs, and then writes. Between reading and
writing others may have written too, so each write is guarded: it looks the session up again by its
id, tests the flags that make the write right, and only then raises its flag and queues its notice,
both in one transaction. A write whose guard fails changes nothing and answers `false`.

What is queued was decided on the session as it was read; only the guard looks at the session as it
is.
-/

namespace PowerLease

/-- The text of a notice. -/
structure NoticeText where
  title : String
  message : String
deriving DecidableEq, Repr

namespace Catalog

/-! ## What the lifecycle reads -/

/-- Whether one session expires before another, or is older and expires with it. -/
def expiresBefore (a b : Session) : Bool :=
  a.expiry < b.expiry || (a.expiry == b.expiry && a.id ≤ b.id)

/-- The sessions that are not ended, the one that expires first in front. -/
def activeSessions (c : Catalog) : List Session :=
  (c.sessions.filter fun s => !s.ended).mergeSort expiresBefore

/-- The sessions whose start or end is still to be announced. -/
def sessionsToAnnounce (c : Catalog) : List Session := c.sessions.filter fun s => s.unannounced

/-- Whether a server keeps its group from being all on, or all off: it is seen in another state, or
wanted in another. A server of which nothing is wanted is judged by what is seen alone. -/
def holdsBack (t : Target) (s : Server) : Bool :=
  s.state != t.state || s.target.any fun wanted => wanted != t

/-- Whether all servers of a group are settled at a target. A group without servers is. -/
def isSettled (c : Catalog) (group : String) (t : Target) : Bool :=
  (c.serversOf group).all fun s => !holdsBack t s

/-- The ended and announced sessions whose servers are all off. -/
def sessionsToClean (c : Catalog) : List Session :=
  c.sessions.filter fun s => s.ended && !s.unannounced && c.isSettled s.group .off

/-- The live sessions whose servers are all on and whose holder was not told yet. A group without
servers has nothing to be told about. -/
def sessionsReady (c : Catalog) : List Session :=
  c.sessions.filter fun s =>
    !s.ended && !s.readyTold && c.hasGroup s.group && c.isSettled s.group .on

/-! ## What the lifecycle writes -/

/-- Raises a flag of the session of an id, if the guard lets it, and queues a notice for the user of
the session as it was read. -/
def raise (guard : Session → Bool) (flag : Session → Session) (read : Session) (text : NoticeText)
    (now : Int) (c : Catalog) : Bool × Catalog :=
  let hit := fun s : Session => s.id == read.id && guard s
  if c.sessions.any hit then
    (true, ((c.updateSessions hit flag).enqueue read.user text.title text.message now).2)
  else (false, c)

/-- Warns of the expiry, once, as long as the session lives. -/
def markWarned : Session → NoticeText → Int → Catalog → Bool × Catalog :=
  raise (fun s => !s.warned && !s.ended) fun s => { s with warned := true }

/-- Announces the start or the end. -/
def markAnnounced : Session → NoticeText → Int → Catalog → Bool × Catalog :=
  raise (fun s => s.unannounced) fun s => { s with unannounced := false }

/-- Tells that the servers are off, once, when the session is ended. -/
def markOff : Session → NoticeText → Int → Catalog → Bool × Catalog :=
  raise (fun s => s.ended && !s.offTold) fun s => { s with offTold := true }

/-- Tells that the servers are on, once, as long as the session lives. -/
def markReady : Session → NoticeText → Int → Catalog → Bool × Catalog :=
  raise (fun s => !s.ended && !s.readyTold) fun s => { s with readyTold := true }

/-- Deletes an ended session whose holder was told that the servers are off. Nothing is wanted of
its servers any more. -/
def finalize (read : Session) (c : Catalog) : Bool × Catalog :=
  let hit := fun s : Session => s.id == read.id && s.ended && s.offTold
  if c.sessions.any hit then
    (true,
     { c with sessions := c.sessions.filter fun s => !hit s }.updateGroup read.group
       fun s => { s with target := none })
  else (false, c)

end Catalog
end PowerLease
