import PowerLease.Catalog.Basic

/-!
# Notices and channels

Notices wait in a queue until they are delivered. Who has said over which channel to be told, gets
them in the order in which they came; notices for anybody else are purged.
-/

namespace PowerLease

/-- A notice together with the channel of its recipient. -/
structure PendingNotice where
  notice : Notice
  channel : String
  config : String
deriving DecidableEq, Repr

namespace Catalog

/-! ## The queue -/

/-- Queues a notice. -/
def enqueue (user title message : String) (now : Int) (c : Catalog) : Nat × Catalog :=
  let id := c.lastNotice + 1
  (id, { c with queue := c.queue ++ [⟨id, user, title, message, now⟩], lastNotice := id })

/-- Whether one notice comes before another: the older one first, of two as old the one that was
queued first. -/
def Notice.before (a b : Notice) : Bool :=
  a.addedAt < b.addedAt || (a.addedAt == b.addedAt && a.id ≤ b.id)

/-- The queue in the order of delivery. -/
def queued (c : Catalog) : List Notice := c.queue.mergeSort Notice.before

/-- The queue in the order of delivery, with channels. Notices whose recipient has no channel are
left out. -/
def pending (c : Catalog) : List PendingNotice :=
  c.queued.filterMap fun n => (c.settingOf n.user).map fun s => ⟨n, s.channel, s.config⟩

/-- Deletes the notices whose recipient has no channel, and counts them. -/
def purge (c : Catalog) : Nat × Catalog :=
  let orphaned := fun n : Notice => (c.settingOf n.user).isNone
  (c.queue.countP orphaned, { c with queue := c.queue.filter fun n => !orphaned n })

/-- Deletes a notice, and says whether it was there. -/
def deleteNotice (id : Nat) (c : Catalog) : Bool × Catalog :=
  (c.queue.any fun n => n.id == id, { c with queue := c.queue.filter fun n => n.id != id })

/-! ## Channels -/

/-- Puts a setting in the place of the one that its user has, or behind all others. -/
def putSetting (new : Setting) : List Setting → List Setting
  | [] => [new]
  | s :: rest => if s.user = new.user then new :: rest else s :: putSetting new rest

/-- Sets the channel of a user. -/
def setSetting (new : Setting) (c : Catalog) : Catalog :=
  { c with settings := putSetting new c.settings }

/-- Deletes the channel of a user, and says whether there was one. -/
def deleteSetting (user : String) (c : Catalog) : Bool × Catalog :=
  (c.settings.any fun s => s.user == user,
   { c with settings := c.settings.filter fun s => s.user != user })

end Catalog
end PowerLease
