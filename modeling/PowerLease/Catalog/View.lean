import PowerLease.Catalog.Basic

/-!
# Views of a catalog

The orders in which servers and sessions are listed, the servers that a provider has to act on, and
the summary of each group. Text is ordered by its characters, which is the order of their bytes;
where the listed order leaves a tie, the id decides, and in a summary the state and the target.
-/

namespace PowerLease

/-- A server as a summary shows it. -/
structure ServerSummary where
  name : String
  state : PowerState
  target : Option Target
deriving DecidableEq, Repr

/-- The servers of a group, and who holds it until when. -/
structure GroupSummary where
  group : String
  servers : List ServerSummary
  user : Option String
  expiry : Option Int
deriving DecidableEq, Repr

/-- What a summary shows of a server. -/
def Server.summary (v : Server) : ServerSummary := { name := v.name, state := v.state, target := v.target }

namespace GroupSummary

/-- The summary of a group of which nothing is known yet. -/
def empty (group : String) : GroupSummary := { group, servers := [], user := none, expiry := none }

/-- Adds a server behind the others. -/
def addServer (v : Server) (g : GroupSummary) : GroupSummary :=
  { g with servers := g.servers ++ [v.summary] }

/-- Adds who holds the group, and until when. -/
def addLease (s : Session) (g : GroupSummary) : GroupSummary :=
  { g with user := some s.email, expiry := some s.expiry }

end GroupSummary

namespace Catalog

/-- Compares by one text and, where that is the same, by the rest. -/
def textThen (a b : String) (rest : Bool) : Bool := a < b || (a == b && rest)

/-- Puts a text into a list in order, once. -/
def insertText (t : String) : List String → List String
  | [] => [t]
  | u :: rest => if t < u then t :: u :: rest else if t = u then u :: rest else u :: insertText t rest

/-- The order of servers: by group, then by name, then by id. -/
def serverBefore (a b : Server) : Bool :=
  textThen a.group b.group (textThen a.name b.name (a.id ≤ b.id))

/-- All servers in order. -/
def listServers (c : Catalog) : List Server := c.servers.mergeSort serverBefore

/-- The servers of a group in order. -/
def listGroup (c : Catalog) (group : String) : List Server :=
  (c.serversOf group).mergeSort serverBefore

/-- The ids of the servers that are seen in a state and wanted in another. -/
def idsPending (c : Catalog) (state : PowerState) (target : Target) : List String :=
  ((c.servers.filter fun s => s.state == state && s.target == some target).map Server.id).mergeSort
    fun a b => a ≤ b

/-- All sessions by group. -/
def listSessions (c : Catalog) : List Session := c.sessions.mergeSort fun a b => a.group ≤ b.group

/-- All settings by user. -/
def listSettings (c : Catalog) : List Setting := c.settings.mergeSort fun a b => a.user ≤ b.user

/-- The server of an id. -/
def getServer (c : Catalog) (id : String) : Except StoreFault Server :=
  match c.server? id with
  | some s => .ok s
  | none => .error (.notFound s!"Server {id}")

/-! ## Summaries -/

/-- The name of a target, empty where nothing is wanted. -/
def targetName (t : Option Target) : String := (t.map fun t => t.state.name).getD ""

/-- The order of servers in a summary. -/
def summaryBefore (a b : ServerSummary) : Bool :=
  textThen a.name b.name
    (textThen a.state.name b.state.name (targetName a.target ≤ targetName b.target))

/-- The servers in the order in which they are summed up: by group, and as in a summary. -/
def summaryRows (c : Catalog) : List Server :=
  c.servers.mergeSort fun a b => textThen a.group b.group (summaryBefore a.summary b.summary)

/-- The sessions that are summed up. -/
def liveSessions (c : Catalog) : List Session := c.sessions.filter fun s => !s.ended

/-- Changes the summary of a group among summaries that stand in the order of their groups. If the group
has none yet, it is given an empty one. -/
def amend (group : String) (f : GroupSummary → GroupSummary) : List GroupSummary → List GroupSummary
  | [] => [f (.empty group)]
  | g :: rest =>
    if group < g.group then f (.empty group) :: g :: rest
    else if group = g.group then f g :: rest
    else g :: amend group f rest

/-- The summaries of all groups that have a server or a live session. Servers come first, and then the
sessions. -/
def summaries (c : Catalog) : List GroupSummary :=
  let withServers := c.summaryRows.foldl (fun gs v => amend v.group (·.addServer v) gs) []
  c.liveSessions.foldl (fun gs s => amend s.group (·.addLease s) gs) withServers

end Catalog
end PowerLease
