import PowerLease.Notify.Registry

/-!
# Delivering the queue

One round first deletes the notices of users without a channel, then reads what is left once, and
delivers one notice after another. A notice is deleted when it is delivered, and also when its
recipient chose a type that no channel has. One that could not be delivered stays, for the next
round; nothing counts how often it was tried.
-/

namespace PowerLease

/-- What a round did. -/
structure DispatchReport where
  /-- Delivered and deleted. -/
  sent : Nat := 0
  /-- Not delivered, and left in the queue. -/
  failed : Nat := 0
  /-- Deleted because no channel has the recipient's type. -/
  dropped : Nat := 0
  /-- Deleted because the recipient has no channel. -/
  orphaned : Nat := 0
deriving DecidableEq, Repr

namespace Dispatch

variable {ν : Type}

/-- The delivery of a notice at a time. -/
def delivery (now : Int) (p : PendingNotice) : Delivery :=
  { title := p.notice.title, message := p.notice.message, config := p.config, now }

/-- The outcome of a round, and what is after it. -/
abbrev Outcome (ν : Type) := Except (Halt ChannelFault) DispatchReport × ν × Store

/-- Deletes a notice, and goes on with the round. -/
def deleteThen (id : Nat) (store : Store) (network : ν) (next : Store → Outcome ν) : Outcome ν :=
  match store.run (Catalog.deleteNotice id) with
  | (.error fault, store) => (refuse (.store fault), network, store)
  | (.ok _, store) => next store

/-- Delivers notices that were read, and counts on. -/
def deliverAll (registry : Registry ν) (now : Int) :
    List PendingNotice → DispatchReport → ν → Store → Outcome ν
  | [], report, network, store => (.ok report, network, store)
  | p :: rest, report, network, store =>
    match registry.find? p.channel with
    | none =>
      deleteThen p.notice.id store network
        (deliverAll registry now rest { report with dropped := report.dropped + 1 } network)
    | some channel =>
      match channel.send (delivery now p) network with
      | (.ok (), network) =>
        deleteThen p.notice.id store network
          (deliverAll registry now rest { report with sent := report.sent + 1 } network)
      | (.error (.refused _), network) =>
        deliverAll registry now rest { report with failed := report.failed + 1 } network store
      | (.error .aborted, network) => (abort, network, store)

/-- Reads the queue, and delivers it. `orphaned` notices were deleted before. -/
def deliverQueue (registry : Registry ν) (now : Int) (orphaned : Nat) (network : ν)
    (store : Store) : Outcome ν :=
  match store.ask Catalog.pending with
  | .error fault => (refuse (.store fault), network, store)
  | .ok pending => deliverAll registry now pending { orphaned } network store

/-- One round. -/
def run (registry : Registry ν) (now : Int) (network : ν) (store : Store) : Outcome ν :=
  match store.run Catalog.purge with
  | (.error fault, store) => (refuse (.store fault), network, store)
  | (.ok orphaned, store) => deliverQueue registry now orphaned network store

end Dispatch
end PowerLease
