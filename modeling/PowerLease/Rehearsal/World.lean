import PowerLease.Leasing
import PowerLease.Rehearsal.Cloud
import PowerLease.Rehearsal.Recorder
import PowerLease.Scheduler

/-!
# The world of a rehearsal

A whole program with a clock that moves only when it is told to, a cloud that can be changed from
outside, and recording channels. Everything that users and workers do can be done to it step by step,
and so can the single transactions of which that is made.

Users are known by labels. A label stands for the token that was handed out under it last, and a
session can be kept under a label as it was when it was read.
-/

namespace PowerLease.Rehearsal

/-- A token that was handed out. -/
structure Ticket where
  label : String
  token : String
  /-- The digest under which the token is stored. -/
  digest : String
deriving DecidableEq, Repr

/-- A whole program, and what is known of it from outside. -/
structure World where
  clock : Int
  /-- How long before its expiry a session is warned. -/
  window : Duration
  site : Installation Cloud Recorder
  /-- The tokens that were handed out, the last one in front. -/
  tickets : List Ticket := []
  /-- The sessions that were kept, the last one in front. -/
  held : List (String × Session) := []
  /-- Whether the catalog is kept in a file. -/
  hasFile : Bool := false
  /-- What the file of a closed store holds. -/
  file : Option Catalog := none

namespace World

/-- A world at the beginning. -/
def begin (clock : Int) (window : Duration) (cloud : Cloud) (hasFile : Bool) : World :=
  { clock, window, hasFile, site := { cloud, store := .opened .empty, network := {} } }

/-- What the program's clock reads. -/
def now (w : World) : Int := Timestamp.ofClock w.clock

/-! ## The store -/

/-- The store of the world. -/
def store (w : World) : Store := w.site.store

/-- The world with another store. -/
def withStore (store : Store) (w : World) : World := { w with site := { w.site with store } }

/-- Asks the catalog. -/
def ask {α : Type} (f : Catalog → α) (w : World) : Except StoreFault α := w.store.ask f

/-- Runs a transaction. -/
def transact {α : Type} (f : Catalog → α × Catalog) (w : World) : Except StoreFault α × World :=
  let (result, store) := w.store.run f
  (result, w.withStore store)

/-- Runs a transaction that may refuse. -/
def attempt {α : Type} (f : Catalog → Except StoreFault α × Catalog) (w : World) :
    Except StoreFault α × World :=
  let (result, store) := w.store.attempt f
  (result, w.withStore store)

/-- Queues a notice in a transaction that is given up. Nothing is left of it, not even its id. -/
def giveUpNotice (user title message : String) (now : Int) (w : World) : Except StoreFault Nat :=
  w.ask fun c => (c.enqueue user title message now).1

/-- Closes the store. -/
def close (w : World) : World :=
  { w.withStore .closed with file := if w.hasFile then w.store.catalog? else none }

/-- Opens a store that was closed again, if its catalog is kept in a file. -/
def reopen (w : World) : World :=
  match w.store, w.file with
  | .closed, some c => w.withStore ((Store.openAt (.kept c)).toOption.getD .closed)
  | _, _ => w

/-- Adds a server as it is, from the names of its state and its target. Both have to be names of what
they stand for, and the id must be new. -/
def insertServer (id name group state : String) (target : Option String) (now : Int) (w : World) :
    Except StoreFault Unit × World :=
  let known : List (Option String × Option Target) :=
    [(none, none), (some "on", some .on), (some "off", some .off)]
  match PowerState.named? state, known.find? fun t => t.1 == target with
  | some state, some (_, target) =>
    w.attempt fun c =>
      if (c.server? id).isSome then (.error .conflict, c)
      else
        let server : Server :=
          { id, name, group, state, target, addedAt := now, lastOnAt := none, lastOffAt := none,
            lastUser := none }
        (.ok (), { c with servers := c.servers ++ [server] })
  | _, _ => (.error .query, w)

/-- The ids of the servers that are seen in a state and wanted in another. Nobody wants a server on
its way. -/
def idsPending (state wanted : PowerState) (w : World) : Except StoreFault (List String) :=
  w.ask fun c =>
    match [Target.on, Target.off].find? fun t => t.state == wanted with
    | some target => c.idsPending state target
    | none => []

/-! ## Users -/

/-- The token that a label stands for; what is no label is a token. -/
def tokenOf (label : String) (w : World) : String :=
  ((w.tickets.find? fun t => t.label == label).map Ticket.token).getD label

/-- The label under which the token of a digest was handed out. -/
def labelOf (digest : String) (w : World) : Option String :=
  (w.tickets.find? fun t => t.digest == digest).map Ticket.label

/-- A token that was not handed out yet. -/
def freshToken (w : World) : String := s!"rehearsal token {w.tickets.length + 1}"

/-- Leases a group, and hands the token out under a label. -/
def lease (user email group duration label : String) (w : World) :
    Except (Halt LeaseFault) Grant × World :=
  let token := w.freshToken
  let (result, store) := Leasing.lease user email group duration token w.now w.store
  let w := w.withStore store
  match result with
  | .ok grant =>
    let ticket : Ticket := { label, token, digest := Leasing.tokenDigest token }
    (.ok grant, { w with tickets := ticket :: w.tickets })
  | .error halt => (.error halt, w)

/-- Leases a group a number of times. -/
def race (user email group duration label : String) :
    Nat → World → List (Except (Halt LeaseFault) Grant) × World
  | 0, w => ([], w)
  | n + 1, w =>
    let (first, w) := w.lease user email group duration label
    let (others, w) := race user email group duration label n w
    (first :: others, w)

/-- Gives the holder of a label more time. -/
def extend (label duration : String) (w : World) : Except (Halt LeaseFault) Grant × World :=
  let (result, store) := Leasing.extend (w.tokenOf label) duration w.now w.store
  (result, w.withStore store)

/-- Gives back what the holder of a label has. -/
def giveBack (label : String) (w : World) : Except (Halt LeaseFault) String × World :=
  let (result, store) := Leasing.giveBack (w.tokenOf label) w.now w.store
  (result, w.withStore store)

/-- Chooses a channel for a user. -/
def choose (choice : Setting) (w : World) : Except (Halt ChannelFault) Unit × World :=
  let (result, store) := Recorder.registry.choose choice w.store
  (result, w.withStore store)

/-! ## Sessions that are kept -/

/-- Keeps the session of a group as it is now. -/
def hold (label group : String) (w : World) : Except StoreFault (Option Session) × World :=
  match w.ask fun c => c.sessionOf group with
  | .ok (some s) => (.ok (some s), { w with held := (label, s) :: w.held })
  | other => (other, w)

/-- Which session is meant. -/
inductive Aim where
  /-- The one that was kept under a label. -/
  | held (label : String)
  /-- The one that a group has now. -/
  | group (name : String)
deriving DecidableEq, Repr

/-- The session that is meant. -/
def aimedAt (w : World) : Aim → Except StoreFault (Option Session)
  | .held label => .ok ((w.held.find? fun h => h.1 == label).map Prod.snd)
  | .group name => w.ask fun c => c.sessionOf name

/-- A write of the lifecycle. -/
inductive Mark where
  | warned
  | announced
  | off
  | ready
  | finalized
deriving DecidableEq, Repr

/-- Makes a write. -/
def Mark.run (m : Mark) (read : Session) (text : NoticeText) (now : Int) :
    Catalog → Bool × Catalog :=
  match m with
  | warned => Catalog.markWarned read text now
  | announced => Catalog.markAnnounced read text now
  | off => Catalog.markOff read text now
  | ready => Catalog.markReady read text now
  | finalized => Catalog.finalize read

/-- Makes a write for the session that is meant, if there is one. -/
def mark (m : Mark) (aim : Aim) (text : NoticeText) (now : Int) (w : World) :
    Except StoreFault (Option Bool) × World :=
  match w.aimedAt aim with
  | .error fault => (.error fault, w)
  | .ok none => (.ok none, w)
  | .ok (some s) =>
    let (result, w) := w.transact (m.run s text now)
    (result.map some, w)

/-! ## Workers -/

/-- The world with the installation that something made of it. -/
def onSite {α : Type} (f : Installation Cloud Recorder → α × Installation Cloud Recorder)
    (w : World) : α × World :=
  let (a, site) := f w.site
  (a, { w with site })

/-- Does something to the cloud. -/
def onCloud {α : Type} (f : Cloud → α × Cloud) (w : World) : α × World :=
  w.onSite fun i =>
    let (a, cloud) := f i.cloud
    (a, { i with cloud })

/-- Does something to the recorder. -/
def onRecorder {α : Type} (f : Recorder → α × Recorder) (w : World) : α × World :=
  w.onSite fun i =>
    let (a, network) := f i.network
    (a, { i with network })

/-- Takes over what the provider reports. -/
def scrape (w : World) : Except ReconcileFault SyncReport × World := w.onSite (·.scrape w.now)

/-- Tells the provider what is wanted. -/
def manage (w : World) : Except ReconcileFault ManageReport × World := w.onSite (·.manage)

/-- Moves sessions along. -/
def tick (now : Int) (w : World) : Option Lifecycle.Report × World :=
  w.onSite (·.tick w.window now)

/-- Delivers notices. -/
def dispatch (w : World) : Except (Halt ChannelFault) DispatchReport × World :=
  w.onSite (·.dispatch Recorder.registry w.clock)

/-- One turn of a task. -/
def runTask (task : Task) (w : World) : World :=
  { w with site := task.run Recorder.registry w.window w.clock w.site }

/-- Lets the workers run for some time. What they called and delivered is forgotten. -/
def runScheduler (t : Timetable) (limit : Nat) (w : World) : World :=
  let ran := { w with site := Scheduler.run t Recorder.registry w.window w.clock limit w.site }
  ((ran.onCloud Cloud.takeCalls).2.onRecorder Recorder.takeAttempts).2

end World
end PowerLease.Rehearsal
