import PowerLease.Catalog.Basic

/-!
# Taking over what a provider reports

A provider reports all its instances at once. Taking the report over is one transaction in three
passes: each instance is written, in the order of the report; servers that the report does not name
are deleted; and servers without a target take the one that the session of their group implies.

A server keeps what the catalog alone knows about it, also when it moves to another group; only its
target is dropped by a move, so that the last pass gives it the target of its new group.
-/

namespace PowerLease

/-- What a provider reports of an instance. -/
structure Instance where
  id : String
  name : String
  group : String
  state : PowerState
deriving DecidableEq, Repr

/-- What a report changed. -/
structure SyncReport where
  /-- How many times a server was written. -/
  changed : Nat
  /-- How many servers were deleted. -/
  removed : Nat
deriving DecidableEq, Repr

/-- Whether nothing was changed. -/
def SyncReport.isNoop (r : SyncReport) : Bool := r.changed == 0 && r.removed == 0

/-- A server that is seen for the first time. -/
def Instance.newServer (i : Instance) (now : Int) : Server :=
  { id := i.id, name := i.name, group := i.group, state := i.state, target := none,
    addedAt := now, lastOnAt := none, lastOffAt := none, lastUser := none }

/-- Whether a server is already what the report says. -/
def Server.matches (s : Server) (i : Instance) : Bool :=
  s.name == i.name && s.group == i.group && s.state == i.state

/-- A server as the report says it is. A move to another group drops the target. -/
def Server.refresh (s : Server) (i : Instance) : Server :=
  { s with
    name := i.name, group := i.group, state := i.state,
    target := if s.group = i.group then s.target else none }

/-- What the session of a group wants of its servers. -/
def Session.target (s : Session) : Target := if s.ended then .off else .on

namespace Catalog

/-- Writes one instance into a list of servers, and counts the write if there was one. -/
def writeInstance (i : Instance) (now : Int) : List Server → List Server × Nat
  | [] => ([i.newServer now], 1)
  | s :: rest =>
    if s.id = i.id then
      if s.matches i then (s :: rest, 0) else (s.refresh i :: rest, 1)
    else
      let written := writeInstance i now rest
      (s :: written.1, written.2)

/-- Writes all instances, one after another. -/
def writeInstances (now : Int) : List Instance → List Server → List Server × Nat
  | [], servers => (servers, 0)
  | i :: rest, servers =>
    let first := writeInstance i now servers
    let others := writeInstances now rest first.1
    (others.1, first.2 + others.2)

/-- Whether the report names a server. -/
def named (report : List Instance) (s : Server) : Bool := report.any fun i => i.id == s.id

/-- Whether a server has no target although its group has a session. -/
def isOrphan (c : Catalog) (s : Server) : Bool := s.target.isNone && (c.sessionOf s.group).isSome

/-- A server with the target that the session of its group implies, if it has none of its own. -/
def adopt (c : Catalog) (s : Server) : Server :=
  if s.target.isNone then { s with target := (c.sessionOf s.group).map Session.target } else s

/-- Takes over a report. -/
def sync (report : List Instance) (now : Int) (c : Catalog) : SyncReport × Catalog :=
  let written := writeInstances now report c.servers
  let kept := written.1.filter (named report)
  ({ changed := written.2 + kept.countP c.isOrphan,
     removed := (written.1.filter fun s => !named report s).length },
   { c with servers := kept.map c.adopt })

end Catalog
end PowerLease
