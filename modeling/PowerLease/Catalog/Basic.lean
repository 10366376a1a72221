import PowerLease.Power

/-!
# The catalog

Everything the program remembers: the servers as they were last seen, the leases on their groups,
the notices that wait for delivery, and the channel over which each user wants to be told.

A catalog is a plain value. Each transaction is a function that returns its outcome and the catalog
after it, so "a refused transaction changes nothing" is a law about pairs and not a convention.

Times are whole seconds since the start of 1970; they may lie before it.
-/

namespace PowerLease

/-- A server, one for each instance that the provider reported last. -/
structure Server where
  /-- The provider's name for the instance. No two servers share one. -/
  id : String
  name : String
  /-- The group that is leased as one. -/
  group : String
  state : PowerState
  /-- What the lease on the group wants; nothing, if there is none. -/
  target : Option Target
  /-- When the server was first seen. -/
  addedAt : Int
  /-- When a lease last wanted it on. -/
  lastOnAt : Option Int
  /-- When the end of a lease last wanted it off. -/
  lastOffAt : Option Int
  /-- The address of the user who last leased it. -/
  lastUser : Option String
deriving DecidableEq, Repr

/-- A lease on a group. It lives until it is *ended*; after that it waits for its servers to be off
and is deleted. -/
structure Session where
  id : Nat
  /-- The digest of the token that the holder was given; nothing once the session is ended. -/
  token : Option String
  user : String
  email : String
  group : String
  expiry : Int
  ended : Bool
  /-- Its start, or its end, is still to be announced. -/
  unannounced : Bool
  /-- The holder was warned of the expiry. -/
  warned : Bool
  /-- The holder was told that the servers are on. -/
  readyTold : Bool
  /-- The holder was told that the servers are off. -/
  offTold : Bool
deriving DecidableEq, Repr

/-- A notice that waits for delivery. -/
structure Notice where
  id : Nat
  user : String
  title : String
  message : String
  addedAt : Int
deriving DecidableEq, Repr

/-- The channel over which a user wants to be told. -/
structure Setting where
  user : String
  /-- The type of the channel. -/
  channel : String
  /-- What the channel needs to know, in a form of its own. -/
  config : String
deriving DecidableEq, Repr

/-- Everything that is remembered. -/
structure Catalog where
  servers : List Server
  /-- In the order in which they were opened, which is the order of their ids. -/
  sessions : List Session
  /-- In the order in which they were queued, which is the order of their ids. -/
  queue : List Notice
  settings : List Setting
  /-- The last id that a session was given. Ids are never given again. -/
  lastSession : Nat
  /-- The last id that a notice was given. Ids are never given again. -/
  lastNotice : Nat
deriving DecidableEq, Repr

/-- The catalog that remembers nothing. -/
def Catalog.empty : Catalog := ⟨[], [], [], [], 0, 0⟩

/-! ## Why a catalog does not answer -/

/-- Why the store of the catalog does not do what it is asked for. -/
inductive StoreFault where
  /-- There is no such thing. -/
  | notFound (what : String)
  /-- A row with one of the same keys is there already. -/
  | conflict
  /-- The store cannot be asked, or refuses the value. -/
  | query
  /-- The place for the file cannot be made. -/
  | io
  /-- The file is no store that can be opened. -/
  | connection
  /-- The tables cannot be set up. -/
  | migration
deriving DecidableEq, Repr

/-- The wording for a thing that is not there. -/
def StoreFault.notFoundMessage (what : String) : String := s!"Not found: {what}"

namespace Catalog

/-! ## Rows of one group -/

/-- The servers of a group. -/
def serversOf (c : Catalog) (group : String) : List Server :=
  c.servers.filter fun s => s.group == group

/-- Whether a group has a server. -/
def hasGroup (c : Catalog) (group : String) : Bool := c.servers.any fun s => s.group == group

/-- The session of a group, live or ended. -/
def sessionOf (c : Catalog) (group : String) : Option Session :=
  c.sessions.find? fun s => s.group == group

/-- The server of an id. -/
def server? (c : Catalog) (id : String) : Option Server := c.servers.find? fun s => s.id == id

/-- The setting of a user. -/
def settingOf (c : Catalog) (user : String) : Option Setting :=
  c.settings.find? fun s => s.user == user

/-- Changes the servers of a group. -/
def updateGroup (c : Catalog) (group : String) (f : Server → Server) : Catalog :=
  { c with servers := c.servers.map fun s => if s.group == group then f s else s }

/-- Changes the sessions that a test picks. -/
def updateSessions (c : Catalog) (pick : Session → Bool) (f : Session → Session) : Catalog :=
  { c with sessions := c.sessions.map fun s => if pick s then f s else s }

end Catalog
end PowerLease
