import PowerLease.Catalog.Basic

/-!
# Opening, extending and ending leases

A group has at most one session at any time, live or ended, and no two live sessions share a token.
Opening a lease wants the group's servers on; ending it takes the token away, wants the servers off
and leaves the session to the lifecycle, which deletes it when they are.
-/

namespace PowerLease

/-- What a lease is opened with. -/
structure LeaseRequest where
  /-- The digest of the token that the holder is given. -/
  token : String
  user : String
  email : String
  group : String
  expiry : Int
deriving DecidableEq, Repr

/-- A session as it is opened: live, and to be announced. -/
def LeaseRequest.session (r : LeaseRequest) (id : Nat) : Session :=
  { id, token := some r.token, user := r.user, email := r.email, group := r.group,
    expiry := r.expiry, ended := false, unannounced := true, warned := false,
    readyTold := false, offTold := false }

/-- A session as it is ended: without token, and to be announced once more. -/
def Session.end (s : Session) : Session :=
  { s with token := none, unannounced := true, ended := true }

/-- A server that a lease wants on. -/
def Server.wantOn (email : String) (now : Int) (s : Server) : Server :=
  { s with target := some .on, lastUser := some email, lastOnAt := some now }

/-- A server that the end of a lease wants off. -/
def Server.wantOff (now : Int) (s : Server) : Server :=
  { s with target := some .off, lastOffAt := some now }

namespace Catalog

/-- Whether a session can be added: its group has none, and its token is not in use. -/
def admits (c : Catalog) (r : LeaseRequest) : Bool :=
  !c.sessions.any fun s => s.group == r.group || s.token == some r.token

/-- Opens a lease. A group without servers cannot be leased, nor one that has a session. -/
def openSession (r : LeaseRequest) (now : Int) (c : Catalog) : Except StoreFault Session × Catalog :=
  if !c.hasGroup r.group then (.error (.notFound s!"Server group {r.group}"), c)
  else if !c.admits r then (.error .conflict, c)
  else
    let wanted := c.updateGroup r.group (Server.wantOn r.email now)
    let session := r.session (c.lastSession + 1)
    (.ok session,
     { wanted with sessions := wanted.sessions ++ [session], lastSession := c.lastSession + 1 })

/-- Whether a session holds a token. -/
def holds (token : String) (s : Session) : Bool := s.token == some token

/-- Moves the expiry of the session that holds a token, and lets it be warned again. A session
whose expiry is not in the future is not found. -/
def extendSession (token : String) (expiry now : Int) (c : Catalog) :
    Except StoreFault Session × Catalog :=
  let hit := fun s : Session => holds token s && decide (now < s.expiry)
  match c.sessions.find? hit with
  | none => (.error (.notFound "Session"), c)
  | some s =>
    let moved := fun s : Session => { s with expiry, warned := false }
    (.ok (moved s), c.updateSessions hit moved)

/-- Ends the live session of a group, and says whether there was one. -/
def endSession (group : String) (now : Int) (c : Catalog) : Bool × Catalog :=
  let hit := fun s : Session => s.group == group && !s.ended
  if c.sessions.any hit then
    (true, (c.updateSessions hit Session.end).updateGroup group (Server.wantOff now))
  else (false, c)

/-- Ends the live session that holds a token, and gives its group. -/
def endByToken (token : String) (now : Int) (c : Catalog) : Except StoreFault String × Catalog :=
  let hit := fun s : Session => holds token s && !s.ended
  match c.sessions.find? hit with
  | none => (.error (.notFound "Session"), c)
  | some s =>
    (.ok s.group, (c.updateSessions hit Session.end).updateGroup s.group (Server.wantOff now))

end Catalog
end PowerLease
