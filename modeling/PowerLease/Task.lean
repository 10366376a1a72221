import PowerLease.Lifecycle
import PowerLease.Notify.Dispatch
import PowerLease.Reconciler

/-!
# Tasks

The four tasks that workers run, each of them over and over: to take over what the provider reports,
to tell the provider what is wanted, to move sessions along, and to deliver notices. They share
nothing but the installation they work on: a cloud, a store and a network.

A task keeps its faults to itself; its next turn may fare better.
-/

namespace PowerLease

/-- What the workers work on. -/
structure Installation (σ ν : Type) where
  cloud : σ
  store : Store
  network : ν

/-- A task of a worker. -/
inductive Task where
  | scrape
  | manage
  | session
  | notify
deriving DecidableEq, Repr

/-- The name of a task. -/
def Task.name : Task → String
  | scrape => "scrape"
  | manage => "manage"
  | session => "session"
  | notify => "notify"

/-- All tasks, in the order in which their workers begin. -/
def Task.all : List Task := [.scrape, .manage, .session, .notify]

/-- The task of a name. -/
def Task.named? (s : String) : Option Task := all.find? fun t => t.name == s

namespace Installation

variable {σ ν : Type}

/-- Takes over what the provider reports. -/
def scrape [Provider σ] (now : Int) (i : Installation σ ν) :
    Except ReconcileFault SyncReport × Installation σ ν :=
  let (result, cloud, store) := Reconciler.scrape now i.cloud i.store
  (result, { i with cloud, store })

/-- Tells the provider what is wanted. -/
def manage [Provider σ] (i : Installation σ ν) :
    Except ReconcileFault ManageReport × Installation σ ν :=
  let (result, cloud) := Reconciler.manage i.cloud i.store
  (result, { i with cloud })

/-- Moves sessions along. There is no report if that aborts; in a closed store nothing is done. -/
def tick (window : Duration) (now : Int) (i : Installation σ ν) :
    Option Lifecycle.Report × Installation σ ν :=
  match i.store with
  | .closed => (some {}, i)
  | .opened c =>
    let p := Lifecycle.tick window now c
    (p.result, { i with store := .opened p.catalog })

/-- Delivers notices. -/
def dispatch (registry : Registry ν) (clock : Int) (i : Installation σ ν) :
    Except (Halt ChannelFault) DispatchReport × Installation σ ν :=
  let (result, network, store) := Dispatch.run registry clock i.network i.store
  (result, { i with network, store })

end Installation

/-- One turn of a task, at a time of the clock. -/
def Task.run {σ ν : Type} [Provider σ] (registry : Registry ν) (window : Duration) (clock : Int)
    (task : Task) (i : Installation σ ν) : Installation σ ν :=
  let now := Timestamp.ofClock clock
  match task with
  | .scrape => (i.scrape now).2
  | .manage => i.manage.2
  | .session => (i.tick window now).2
  | .notify => (i.dispatch registry clock).2

end PowerLease
