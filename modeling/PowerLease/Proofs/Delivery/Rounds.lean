import PowerLease.Notify.Dispatch
import PowerLease.Proofs.Catalog.History

/-!
# Rounds of delivery among other transactions

A round of delivery is not one transaction but many: it purges, reads the queue, and deletes the notices
that it read one by one. Between any two of these steps others may queue notices, or set and delete
channels, and the world may change so that a channel works or does not. `Step` has the steps of one
dispatcher and of others, and `Delivering` the runs of them from the empty catalog.

A run has a log of all that was done, each with the catalog that it met. What a log tells is read off it
with `collect`, for all rounds or for the last one (`Log.round`).

A round that nobody disturbs is `Dispatch.run`. What its deletions keep, it keeps (`run_induct`); that
it takes just these steps is said with one network for all its deliveries (`Round`).
-/

namespace PowerLease

/-- Whether a transaction deletes notices. None does but those of a round. -/
def Transaction.deletesNotices : Transaction → Bool
  | purge | deleteNotice _ => true
  | _ => false

namespace Dispatch

variable {ν : Type}

/-! ## What the deletions of a round keep, the round keeps -/

section

variable {P : Catalog → Prop} {c : Catalog}

theorem deliverAll_induct (hdelete : ∀ d id, P d → P (d.deleteNotice id).2) (h : P c)
    (registry : Registry ν) (now : Int) (pending : List PendingNotice) (report : DispatchReport)
    (network : ν) :
    ∃ c', (deliverAll registry now pending report network (.opened c)).2.2 = .opened c' ∧ P c' := by
  induction pending generalizing c report network with
  | nil => exact ⟨c, rfl, h⟩
  | cons p rest ih =>
    have hdeleted := hdelete c p.notice.id h
    unfold deliverAll
    split
    · exact ih hdeleted _ network
    · split
      next network' _ => exact ih hdeleted _ network'
      next network' _ => exact ih h _ network'
      next => exact ⟨c, rfl, h⟩

theorem run_induct (hpurge : ∀ d, P d → P d.purge.2)
    (hdelete : ∀ d id, P d → P (d.deleteNotice id).2) (h : P c) (registry : Registry ν) (now : Int)
    (network : ν) : ∃ c', (run registry now network (.opened c)).2.2 = .opened c' ∧ P c' :=
  deliverAll_induct hdelete (hpurge c h) registry now _ _ network

end

/-! ## Steps -/

/-- Where a dispatcher stands. -/
inductive Stage where
  /-- Between two rounds. -/
  | between
  /-- It has purged, and is to read the queue. -/
  | purged (orphaned : Nat)
  /-- It has a rest of what it read to deliver. -/
  | delivering (rest : List PendingNotice) (report : DispatchReport)
  /-- It has delivered a notice, and is to delete it. -/
  | delivered (p : PendingNotice) (rest : List PendingNotice) (report : DispatchReport)

/-- What was done in a step. -/
inductive Deed where
  /-- By others. -/
  | other (t : Transaction)
  | purged
  | read
  | dropped (p : PendingNotice)
  | sent (p : PendingNotice)
  | failed (p : PendingNotice)
  | aborted (p : PendingNotice)
  | deleted (p : PendingNotice)
  | finished (report : DispatchReport)

/-- A step that meets a catalog at a stage, with what is after it. A delivery meets the world in any
state and at any time of the clock, so that any of them may succeed or fail. -/
inductive Step (registry : Registry ν) (c : Catalog) : Stage → Deed → Catalog → Stage → Prop
  | other {stage : Stage} (t : Transaction) (ht : t.deletesNotices = false) :
    Step registry c stage (.other t) (t.run c) stage
  | purge : Step registry c .between .purged c.purge.2 (.purged c.purge.1)
  | read {orphaned : Nat} :
    Step registry c (.purged orphaned) .read c (.delivering c.pending { orphaned })
  | drop {p : PendingNotice} {rest : List PendingNotice} {report : DispatchReport}
    (hnone : registry.find? p.channel = none) :
    Step registry c (.delivering (p :: rest) report) (.dropped p) (c.deleteNotice p.notice.id).2
      (.delivering rest { report with dropped := report.dropped + 1 })
  | send {p : PendingNotice} {rest : List PendingNotice} {report : DispatchReport}
    {channel : Channel ν} {network' : ν} (now : Int) (network : ν)
    (hfind : registry.find? p.channel = some channel)
    (hsend : channel.send (delivery now p) network = (.ok (), network')) :
    Step registry c (.delivering (p :: rest) report) (.sent p) c (.delivered p rest report)
  | delete {p : PendingNotice} {rest : List PendingNotice} {report : DispatchReport} :
    Step registry c (.delivered p rest report) (.deleted p) (c.deleteNotice p.notice.id).2
      (.delivering rest { report with sent := report.sent + 1 })
  | fail {p : PendingNotice} {rest : List PendingNotice} {report : DispatchReport}
    {channel : Channel ν} {network' : ν} {fault : ChannelFault} (now : Int) (network : ν)
    (hfind : registry.find? p.channel = some channel)
    (hsend : channel.send (delivery now p) network = (.error (.refused fault), network')) :
    Step registry c (.delivering (p :: rest) report) (.failed p) c
      (.delivering rest { report with failed := report.failed + 1 })
  | abort {p : PendingNotice} {rest : List PendingNotice} {report : DispatchReport}
    {channel : Channel ν} {network' : ν} (now : Int) (network : ν)
    (hfind : registry.find? p.channel = some channel)
    (hsend : channel.send (delivery now p) network = (.error .aborted, network')) :
    Step registry c (.delivering (p :: rest) report) (.aborted p) c .between
  | finish {report : DispatchReport} :
    Step registry c (.delivering [] report) (.finished report) c .between

/-- Something that was done, and the catalog that it met. -/
structure Moment where
  met : Catalog
  did : Deed

/-- What was done, the last in front. -/
abbrev Log := List Moment

/-- The runs of a dispatcher among others, with the catalogs and stages that they lead to. -/
inductive Delivering (registry : Registry ν) : Log → Catalog → Stage → Prop
  | start : Delivering registry [] .empty .between
  | next {log : Log} {c c' : Catalog} {stage stage' : Stage} {did : Deed}
    (h : Delivering registry log c stage) (hstep : Step registry c stage did c' stage') :
    Delivering registry (⟨c, did⟩ :: log) c' stage'

/-! ## What a log tells -/

namespace Moment

/-- The transactions of others. -/
def others (m : Moment) : List Transaction :=
  match m.did with
  | .other t => [t]
  | _ => []

/-- The notices that others queued. -/
def queued (m : Moment) : List Notice :=
  match m.did with
  | .other t => (t.run m.met).queue.drop m.met.queue.length
  | _ => []

/-- The notices that were purged. -/
def purged (m : Moment) : List Notice :=
  match m.did with
  | .purged => m.met.queue.filter fun n => (m.met.settingOf n.user).isNone
  | _ => []

/-- The notices that were read. -/
def read (m : Moment) : List PendingNotice :=
  match m.did with
  | .read => m.met.pending
  | _ => []

/-- The notices that were deleted because no channel has the type of their recipient. -/
def dropped (m : Moment) : List PendingNotice :=
  match m.did with
  | .dropped p => [p]
  | _ => []

/-- The notices that were delivered. -/
def sent (m : Moment) : List PendingNotice :=
  match m.did with
  | .sent p => [p]
  | _ => []

/-- The notices that were deleted after they had been delivered. -/
def deleted (m : Moment) : List PendingNotice :=
  match m.did with
  | .deleted p => [p]
  | _ => []

/-- The notices that a channel did not deliver. -/
def failed (m : Moment) : List PendingNotice :=
  match m.did with
  | .failed p => [p]
  | _ => []

/-- The notices that a channel was given, whatever came of it. -/
def attempted (m : Moment) : List PendingNotice :=
  match m.did with
  | .sent p | .failed p | .aborted p => [p]
  | _ => []

/-- The notices that were given to a channel, or dropped. -/
def handled (m : Moment) : List PendingNotice :=
  match m.did with
  | .sent p | .failed p | .aborted p | .dropped p => [p]
  | _ => []

end Moment

namespace Log

/-- What each moment of a log tells, in the order of the moments. -/
def collect {α : Type} (f : Moment → List α) (log : Log) : List α := log.reverse.flatMap f

theorem collect_cons {α : Type} (f : Moment → List α) (m : Moment) (log : Log) :
    collect f (m :: log) = collect f log ++ f m := by
  rw [collect, List.reverse_cons, List.flatMap_append, List.flatMap_singleton]
  rfl

theorem mem_collect {α : Type} {f : Moment → List α} {log : Log} {a : α} :
    a ∈ collect f log ↔ ∃ m ∈ log, a ∈ f m := by
  simp only [collect, List.mem_flatMap, List.mem_reverse]

/-- The last round that was begun, from its purge on. -/
def round : Log → Log
  | [] => []
  | m :: before =>
    match m.did with
    | .purged => [m]
    | _ => m :: round before

theorem round_subset (log : Log) : round log ⊆ log := by
  induction log with
  | nil => exact List.Subset.refl _
  | cons m before ih =>
    have hkept : m :: round before ⊆ m :: before := List.cons_subset_cons m ih
    unfold round
    split
    · exact List.cons_subset_cons m (List.nil_subset _)
    · exact hkept

/-- The notices that the last round has read. -/
def snapshot (log : Log) : List PendingNotice := log.round.collect Moment.read

/-- The notices that the last round has given to a channel. -/
def attempts (log : Log) : List PendingNotice := log.round.collect Moment.attempted

/-- How often each thing happened in the last round that a report counts. -/
def counts (log : Log) : DispatchReport where
  sent := (log.round.collect Moment.sent).length
  failed := (log.round.collect Moment.failed).length
  dropped := (log.round.collect Moment.dropped).length
  orphaned := (log.round.collect Moment.purged).length

end Log

/-! ## Runs -/

namespace Delivering

variable {registry : Registry ν} {log since : Log} {c c' : Catalog} {stage : Stage} {m : Moment}

theorem of_cons (h : Delivering registry (m :: log) c' stage) :
    ∃ before, Delivering registry log m.met before ∧ Step registry m.met before m.did c' stage := by
  cases h with
  | next h hstep => exact ⟨_, h, hstep⟩

/-- What was done up to some moment is a run. -/
theorem of_append (h : Delivering registry (since ++ log) c stage) :
    ∃ c' stage', Delivering registry log c' stage' := by
  induction since generalizing c stage with
  | nil => exact ⟨c, stage, h⟩
  | cons m rest ih =>
    obtain ⟨_, hrest, -⟩ := h.of_cons
    exact ih hrest

/-- The step of a moment in a log, with the run up to it. -/
theorem exists_step (h : Delivering registry (since ++ m :: log) c stage) :
    ∃ before c' after, Delivering registry log m.met before ∧
      Step registry m.met before m.did c' after := by
  obtain ⟨c', after, h⟩ := h.of_append
  obtain ⟨before, hbefore, hstep⟩ := h.of_cons
  exact ⟨before, c', after, hbefore, hstep⟩

/-- What holds of every step holds of every moment. -/
theorem forall_mem {P : Moment → Prop}
    (hstep : ∀ met before did after c', Step registry met before did c' after → P ⟨met, did⟩)
    (h : Delivering registry log c stage) : ∀ m ∈ log, P m := by
  intro m hm
  obtain ⟨since, before, rfl⟩ := List.append_of_mem hm
  obtain ⟨stage, c', after, -, hdone⟩ := h.exists_step
  exact hstep _ _ _ _ _ hdone

end Delivering
end Dispatch
end PowerLease
