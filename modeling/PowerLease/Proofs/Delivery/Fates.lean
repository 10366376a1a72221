import PowerLease.Proofs.Delivery.Ledger

/-!
# Nothing is lost and nothing is told twice

At every moment, each notice that was ever queued is in one place: in the queue, purged, dropped, sent,
or sent and about to be deleted. No notice is sent twice. A round gives every notice that it has read to
the channel of its recipient, if there is one, in the order of delivery and whatever became of those
before it; and its report counts what it did (`notices_accounted_for`).

The places are read off the ledger. For the rounds, the log of the last one is compared with where the
dispatcher stands (`Stage.Accounts`).
-/

namespace PowerLease

/-- Whether there is a channel of the type that a recipient has chosen. -/
def Registry.serves {ν : Type} (r : Registry ν) (p : PendingNotice) : Bool :=
  (r.find? p.channel).isSome

namespace Dispatch

variable {ν : Type} {registry : Registry ν} {log : Log} {c c' : Catalog}
  {stage stage' : Stage} {did : Deed} {m : Moment} {n : Notice} {p : PendingNotice}

/-! ## Rounds -/

namespace Log

/-- The notices that the last round has given to a channel, or dropped. -/
def handled (log : Log) : List PendingNotice := log.round.collect Moment.handled

theorem round_of_purged (h : m.did = .purged) : round (m :: log) = [m] := by
  rw [round, h]

section

/-! All but a purge goes on with the round. -/

variable (h : m.did ≠ .purged)
include h

theorem round_cons : round (m :: log) = m :: round log := by
  rw [round]
  split
  next hpurged => exact absurd hpurged h
  next => rfl

theorem handled_cons : handled (m :: log) = log.handled ++ m.handled := by
  rw [handled, round_cons h, collect_cons]
  rfl

theorem snapshot_cons : snapshot (m :: log) = log.snapshot ++ m.read := by
  rw [snapshot, round_cons h, collect_cons]
  rfl

theorem counts_cons : counts (m :: log) =
    { sent := log.counts.sent + m.sent.length
      failed := log.counts.failed + m.failed.length
      dropped := log.counts.dropped + m.dropped.length
      orphaned := log.counts.orphaned + m.purged.length } := by
  simp only [counts, round_cons h, collect_cons, List.length_append]

end

end Log

/-- Where the last round stands according to its log: how far it is with what it has read, and what it
has counted. -/
def Stage.Accounts (log : Log) : Stage → Prop
  | between => log.handled <+: log.snapshot
  | purged orphaned => log.counts = { orphaned } ∧ log.handled = [] ∧ log.snapshot = []
  | delivering rest report => log.counts = report ∧ log.handled ++ rest = log.snapshot
  | delivered _ rest report =>
    log.counts = { report with sent := report.sent + 1 } ∧ log.handled ++ rest = log.snapshot

/-- A moment in which nothing is read, handled or counted. -/
theorem Stage.Accounts.idle (h : stage.Accounts log) (hdid : m.did ≠ .purged)
    (hread : m.read = []) (hhandled : m.handled = [])
    (hcounted : m.sent = [] ∧ m.failed = [] ∧ m.dropped = [] ∧ m.purged = []) :
    stage.Accounts (m :: log) := by
  have hcounts : Log.counts (m :: log) = log.counts := by
    obtain ⟨h1, h2, h3, h4⟩ := hcounted
    rw [Log.counts_cons hdid, h1, h2, h3, h4]
    rfl
  cases stage <;>
    simpa only [Stage.Accounts, Log.handled_cons hdid, Log.snapshot_cons hdid, hread, hhandled,
      List.append_nil, hcounts] using h

/-- A moment in which the first notice of the rest is handled. -/
theorem Log.handled_append_rest {rest : List PendingNotice}
    (h : log.handled ++ p :: rest = log.snapshot) (hdid : m.did ≠ .purged) (hread : m.read = [])
    (hhandled : m.handled = [p]) : handled (m :: log) ++ rest = snapshot (m :: log) := by
  rw [handled_cons hdid, snapshot_cons hdid, hhandled, hread, ← h, List.append_assoc,
    List.append_nil]
  rfl

/-- A moment that reads and handles nothing, and after which the round has counted something more. -/
theorem Log.handled_append_idle {rest : List PendingNotice}
    (h : log.handled ++ rest = log.snapshot) (hdid : m.did ≠ .purged) (hread : m.read = [])
    (hhandled : m.handled = []) : handled (m :: log) ++ rest = snapshot (m :: log) := by
  rw [handled_cons hdid, snapshot_cons hdid, hhandled, hread, List.append_nil, List.append_nil, h]

theorem Stage.Accounts.step (h : stage.Accounts log) (hstep : Step registry c stage did c' stage') :
    stage'.Accounts (⟨c, did⟩ :: log) := by
  cases hstep with
  | other t ht => exact h.idle (by simp) rfl rfl ⟨rfl, rfl, rfl, rfl⟩
  | purge =>
    have hround : Log.round (⟨c, .purged⟩ :: log) = [⟨c, .purged⟩] := Log.round_of_purged rfl
    refine ⟨?_, ?_, ?_⟩
    · simp [Log.counts, hround, Log.collect, Moment.sent, Moment.failed, Moment.dropped,
        Moment.purged, Catalog.purge, List.countP_eq_length_filter]
    · rw [Log.handled, hround]
      rfl
    · rw [Log.snapshot, hround]
      rfl
  | read =>
    obtain ⟨hcounts, hhandled, hsnapshot⟩ := h
    have hdid : (⟨c, .read⟩ : Moment).did ≠ .purged := by simp
    refine ⟨?_, ?_⟩
    · rw [Log.counts_cons hdid, hcounts]
      rfl
    · rw [Log.handled_cons hdid, Log.snapshot_cons hdid, hhandled, hsnapshot]
      rfl
  | @drop p rest report hnone =>
    obtain ⟨hcounts, hrest⟩ := h
    have hdid : (⟨c, .dropped p⟩ : Moment).did ≠ .purged := by simp
    refine ⟨?_, Log.handled_append_rest hrest hdid rfl rfl⟩
    rw [Log.counts_cons hdid, hcounts]
    rfl
  | @send p rest report =>
    obtain ⟨hcounts, hrest⟩ := h
    have hdid : (⟨c, .sent p⟩ : Moment).did ≠ .purged := by simp
    refine ⟨?_, Log.handled_append_rest hrest hdid rfl rfl⟩
    rw [Log.counts_cons hdid, hcounts]
    rfl
  | @delete p rest report =>
    obtain ⟨hcounts, hrest⟩ := h
    have hdid : (⟨c, .deleted p⟩ : Moment).did ≠ .purged := by simp
    refine ⟨?_, Log.handled_append_idle hrest hdid rfl rfl⟩
    rw [Log.counts_cons hdid, hcounts]
    rfl
  | @fail p rest report =>
    obtain ⟨hcounts, hrest⟩ := h
    have hdid : (⟨c, .failed p⟩ : Moment).did ≠ .purged := by simp
    refine ⟨?_, Log.handled_append_rest hrest hdid rfl rfl⟩
    rw [Log.counts_cons hdid, hcounts]
    rfl
  | @abort p rest =>
    have hdid : (⟨c, .aborted p⟩ : Moment).did ≠ .purged := by simp
    exact ⟨rest, Log.handled_append_rest h.2 hdid rfl rfl⟩
  | @finish report =>
    have hdid : (⟨c, .finished report⟩ : Moment).did ≠ .purged := by simp
    exact ⟨[], Log.handled_append_idle h.2 hdid rfl rfl⟩

theorem Delivering.accounts (h : Delivering registry log c stage) : stage.Accounts log := by
  induction h with
  | start => exact List.prefix_refl _
  | next _ hstep ih => exact ih.step hstep

/-- At no stage a round is beyond what it has read. -/
theorem Stage.Accounts.handled_prefix (h : stage.Accounts log) : log.handled <+: log.snapshot := by
  cases stage with
  | between => exact h
  | purged _ =>
    obtain ⟨-, hhandled, -⟩ := h
    rw [hhandled]
    exact List.nil_prefix
  | delivering rest _ | delivered _ rest _ => exact ⟨rest, h.2⟩

/-! ## What is given to channels -/

namespace Delivering

/-- Of what a round handles, it gives to a channel what there is a channel for. -/
theorem attempts_eq (h : Delivering registry log c stage) :
    log.attempts = log.handled.filter registry.serves := by
  have hmoment : ∀ m ∈ log, m.attempted = m.handled.filter registry.serves := by
    refine h.forall_mem fun met before did after c' hstep => ?_
    cases hstep with
    | drop hnone => simp [Moment.attempted, Moment.handled, Registry.serves, hnone]
    | send _ _ hfind | fail _ _ hfind | abort _ _ hfind =>
      simp [Moment.attempted, Moment.handled, Registry.serves, hfind]
    | other | purge | read | delete | finish => rfl
  have hround : ∀ m ∈ log.round.reverse, m.attempted = m.handled.filter registry.serves :=
    fun m hm => hmoment m (log.round_subset (List.mem_reverse.mp hm))
  rw [Log.attempts, Log.handled, Log.collect, Log.collect, List.filter_flatMap]
  exact List.flatMap_congr hround

/-- A round reads in the order of delivery. -/
theorem pairwise_snapshot (h : Delivering registry log c stage) :
    log.snapshot.Pairwise fun p q => p.notice.Precedes q.notice := by
  induction h with
  | start => exact .nil
  | @next log c _ _ _ did h hstep ih =>
    cases hstep with
    | purge =>
      rw [Log.snapshot, Log.round_of_purged rfl]
      exact .nil
    | read =>
      -- a round reads once only
      obtain ⟨-, -, hnone⟩ := h.accounts
      have hdid : (⟨c, .read⟩ : Moment).did ≠ .purged := by simp
      rw [Log.snapshot_cons hdid, hnone]
      exact Catalog.pairwise_pending h.ledger.balanced.nodup_queue
    | other | drop | send | delete | fail | abort | finish =>
      simpa [Log.snapshot_cons, Moment.read] using ih

end Delivering

/-! ## Places -/

/-- The notices that were ever sent. -/
def Log.sent (log : Log) : List Notice := (log.collect Moment.sent).map PendingNotice.notice

/-- Where a notice can be that was queued. -/
inductive Place where
  | queued
  /-- It was purged, when its user had no channel. -/
  | purged
  /-- It was dropped by a round in whose reading its user had a type that no channel has. -/
  | dropped
  | sent
  /-- It was sent, and the dispatcher is about to delete it. -/
  | leaving

/-- That a notice is in a place. -/
def IsAt (registry : Registry ν) (log : Log) (c : Catalog) (stage : Stage) (n : Notice) :
    Place → Prop
  | .queued => n ∈ c.queue ∧ n ∉ log.sent
  | .purged => ∃ m ∈ log, m.did = .purged ∧ n ∈ m.met.queue ∧ m.met.settingOf n.user = none
  | .dropped => ∃ (since before : Log) (met : Catalog) (p : PendingNotice),
      log = since ++ ⟨met, .dropped p⟩ :: before ∧ p.notice = n ∧
        p ∈ before.snapshot ∧ registry.find? p.channel = none
  | .sent => n ∈ log.sent ∧ n ∉ c.queue
  | .leaving => n ∈ log.sent ∧ n ∈ c.queue ∧
      ∃ p rest report, stage = .delivered p rest report ∧ p.notice = n

namespace Delivering

/-- The queue and the lists of deleted notices have nothing in common. -/
theorem nodup_lists (h : Delivering registry log c stage) : (c.queue ++ log.gone).Nodup :=
  h.ledger.balanced.nodup.of_map

theorem mem_sent_iff (h : Delivering registry log c stage) : n ∈ log.sent ↔
    n ∈ (log.collect Moment.deleted).map PendingNotice.notice ∨
      n ∈ stage.leaving.map PendingNotice.notice := by
  rw [Log.sent, h.ledger.sent_eq, List.map_append, List.mem_append]

/-- What is about to be deleted is in the queue. -/
theorem mem_queue_of_leaving (h : Delivering registry log c stage)
    (hn : n ∈ stage.leaving.map PendingNotice.notice) : n ∈ c.queue := by
  obtain ⟨p, hp, rfl⟩ := List.mem_map.mp hn
  refine h.ledger.inHand.mem_queue p ?_
  cases stage with
  | delivered q rest _ =>
    rw [List.mem_singleton.mp hp]
    exact List.mem_cons_self
  | between | purged | delivering => exact absurd hp List.not_mem_nil

/-! What it is for a notice to be in a place, in terms of the ledger. -/

theorem isAt_queued_iff :
    IsAt registry log c stage n .queued ↔ n ∈ c.queue ∧ n ∉ log.sent :=
  Iff.rfl

theorem isAt_purged_iff :
    IsAt registry log c stage n .purged ↔ n ∈ log.collect Moment.purged := by
  rw [Log.mem_collect]
  refine exists_congr fun m => and_congr_right fun _ => ?_
  obtain ⟨met, did⟩ := m
  cases did <;> simp [Moment.purged]

theorem isAt_dropped_iff (h : Delivering registry log c stage) :
    IsAt registry log c stage n .dropped ↔
      n ∈ (log.collect Moment.dropped).map PendingNotice.notice := by
  constructor
  · rintro ⟨since, before, met, p, rfl, rfl, -, -⟩
    refine List.mem_map_of_mem (Log.mem_collect.mpr ⟨⟨met, .dropped p⟩, by simp, ?_⟩)
    exact List.mem_singleton_self p
  · intro hn
    obtain ⟨p, hp, rfl⟩ := List.mem_map.mp hn
    obtain ⟨⟨met, did⟩, hm, hp⟩ := Log.mem_collect.mp hp
    cases did with
    | dropped q =>
      rw [List.mem_singleton.mp hp]
      obtain ⟨since, before, rfl⟩ := List.append_of_mem hm
      obtain ⟨_, _, _, hbefore, hstep⟩ := h.exists_step
      -- what was dropped was the first of what was left to deliver
      cases hstep with
      | drop hnone =>
        refine ⟨since, before, met, q, rfl, rfl, ?_, hnone⟩
        rw [← hbefore.accounts.2]
        exact List.mem_append_right _ List.mem_cons_self
    | _ => exact absurd hp List.not_mem_nil

theorem isAt_sent_iff (h : Delivering registry log c stage) :
    IsAt registry log c stage n .sent ↔
      n ∈ (log.collect Moment.deleted).map PendingNotice.notice := by
  have hdisjoint := (List.nodup_append.mp h.nodup_lists).2.2
  constructor
  · rintro ⟨hsent, hgone⟩
    exact (h.mem_sent_iff.mp hsent).resolve_right fun hn => hgone (h.mem_queue_of_leaving hn)
  · intro hn
    refine ⟨h.mem_sent_iff.mpr (Or.inl hn), fun hqueue => ?_⟩
    exact hdisjoint n hqueue n (List.mem_append_right _ (List.mem_append_right _ hn)) rfl

theorem isAt_leaving_iff (h : Delivering registry log c stage) :
    IsAt registry log c stage n .leaving ↔ n ∈ c.queue ∧ n ∈ log.sent := by
  constructor
  · exact fun ⟨hsent, hqueue, _⟩ => ⟨hqueue, hsent⟩
  · rintro ⟨hqueue, hsent⟩
    refine ⟨hsent, hqueue, ?_⟩
    rcases h.mem_sent_iff.mp hsent with hn | hn
    · exact absurd hqueue (h.isAt_sent_iff.mpr hn).2
    · obtain ⟨p, hp, rfl⟩ := List.mem_map.mp hn
      cases stage with
      | delivered q rest report => exact ⟨q, rest, report, rfl, by rw [List.mem_singleton.mp hp]⟩
      | between | purged | delivering => exact absurd hp List.not_mem_nil

/-- Nothing is in two places: what is in the queue was not deleted, and nothing was deleted twice. -/
theorem place_unique (h : Delivering registry log c stage) {x y : Place}
    (hx : IsAt registry log c stage n x) (hy : IsAt registry log c stage n y) : x = y := by
  have hqueue : n ∈ c.queue → n ∉ log.gone := h.ledger.balanced.notMem_gone
  have hgone := (List.nodup_append.mp h.nodup_lists).2.1
  rw [Log.gone, List.nodup_append] at hgone
  obtain ⟨-, hkept, hpurged⟩ := hgone
  have hpurged' : n ∈ log.collect Moment.purged → _ := fun hn hn' => hpurged n hn n hn' rfl
  have hdropped : n ∈ (log.collect Moment.dropped).map PendingNotice.notice →
      n ∉ (log.collect Moment.deleted).map PendingNotice.notice :=
    fun hn hn' => (List.nodup_append.mp hkept).2.2 n hn n hn' rfl
  simp only [Log.gone, List.mem_append, not_or] at hqueue hpurged'
  cases x <;> cases y <;>
    simp only [isAt_queued_iff, isAt_purged_iff, h.isAt_dropped_iff, h.isAt_sent_iff,
      h.isAt_leaving_iff] at hx hy <;> first | rfl | grind

/-- Each notice that was queued is in a place. -/
theorem exists_place (h : Delivering registry log c stage) (hn : n ∈ log.queued) :
    ∃ place, IsAt registry log c stage n place := by
  rcases h.ledger.balanced.mem_queued_iff.mp hn with hqueue | hgone
  · by_cases hsent : n ∈ log.sent
    · exact ⟨.leaving, h.isAt_leaving_iff.mpr ⟨hqueue, hsent⟩⟩
    · exact ⟨.queued, hqueue, hsent⟩
  · rw [Log.gone, List.mem_append, List.mem_append] at hgone
    rcases hgone with hpurged | hdropped | hdeleted
    · exact ⟨.purged, isAt_purged_iff.mpr hpurged⟩
    · exact ⟨.dropped, h.isAt_dropped_iff.mpr hdropped⟩
    · exact ⟨.sent, h.isAt_sent_iff.mpr hdeleted⟩

end Delivering

/-- Whether a notice is in the queue, or was in it at any moment. -/
def EverQueued (log : Log) (c : Catalog) (n : Notice) : Prop :=
  n ∈ c.queue ∨ ∃ m ∈ log, n ∈ m.met.queue

/-- What holds at a moment of the notices, and of the rounds so far. -/
structure Accounted (registry : Registry ν) (log : Log) (c : Catalog) (stage : Stage) : Prop where
  /-- Every notice is in exactly one place. -/
  place : ∀ n, EverQueued log c n → ∃! place, IsAt registry log c stage n place
  /-- An id stands for one notice, which is never changed. -/
  eq_of_id : ∀ n k, EverQueued log c n → EverQueued log c k → n.id = k.id → n = k
  /-- No notice is sent twice. -/
  sent_once : (log.sent.map Notice.id).Nodup
  /-- Every round gives what it has read to the channels that there are, each notice once, one after the
  other in the order of delivery. -/
  in_order : ∀ since before : Log, log = since ++ before →
    before.attempts <+: before.snapshot.filter registry.serves ∧
      before.snapshot.Pairwise fun p q => p.notice.Precedes q.notice
  /-- A round that finishes leaves nothing out, and reports what it did. -/
  reported : ∀ (since before : Log) (met : Catalog) (report : DispatchReport),
    log = since ++ ⟨met, .finished report⟩ :: before →
    before.attempts = before.snapshot.filter registry.serves ∧ report = before.counts

namespace Delivering

/-- What was sent was deleted, or is about to be: neither happens twice, and not both. -/
theorem nodup_sent (h : Delivering registry log c stage) : (log.sent.map Notice.id).Nodup := by
  have hids := h.ledger.balanced.nodup
  rw [List.map_append, List.nodup_append] at hids
  obtain ⟨-, hgone, hdisjoint⟩ := hids
  have hdeleted : ((log.collect Moment.deleted).map PendingNotice.notice).Sublist log.gone :=
    (List.sublist_append_right _ _).trans (List.sublist_append_right _ _)
  rw [Log.sent, h.ledger.sent_eq, List.map_append, List.map_append, List.nodup_append]
  refine ⟨hgone.sublist (hdeleted.map _), ?_, ?_⟩
  · cases stage <;> simp [Stage.leaving]
  · intro id hid id' hid'
    obtain ⟨n, hn, rfl⟩ := List.mem_map.mp hid
    obtain ⟨k, hk, rfl⟩ := List.mem_map.mp hid'
    have hqueue := List.mem_map_of_mem (f := Notice.id) (h.mem_queue_of_leaving hk)
    exact (hdisjoint _ hqueue _ (List.mem_map_of_mem (hdeleted.subset hn))).symm

/-- A round that finishes has handled all that it has read, and reports what it has counted. -/
theorem finished_round {met : Catalog} {report : DispatchReport}
    (h : Delivering registry (⟨met, .finished report⟩ :: log) c stage) :
    log.attempts = log.snapshot.filter registry.serves ∧ report = log.counts := by
  obtain ⟨before, hbefore, hstep⟩ := h.of_cons
  cases hstep with
  | finish =>
    obtain ⟨hcounts, hall⟩ := hbefore.accounts
    rw [List.append_nil] at hall
    exact ⟨by rw [hbefore.attempts_eq, hall], hcounts.symm⟩

end Delivering

/-- **Nothing is lost, and nothing is told twice.** In every run of a dispatcher among others, whatever
becomes of its deliveries. -/
theorem notices_accounted_for (h : Delivering registry log c stage) :
    Accounted registry log c stage where
  place n hn := by
    obtain ⟨place, hplace⟩ := h.exists_place (h.mem_queued hn)
    exact ⟨place, hplace, fun _ hother => h.place_unique hother hplace⟩
  eq_of_id n k hn hk hid := h.ledger.balanced.eq_of_id (h.mem_queued hn) (h.mem_queued hk) hid
  sent_once := h.nodup_sent
  in_order since before hlog := by
    obtain ⟨_, _, hbefore⟩ := (hlog ▸ h).of_append
    refine ⟨?_, hbefore.pairwise_snapshot⟩
    rw [hbefore.attempts_eq]
    exact hbefore.accounts.handled_prefix.filter _
  reported since before met report hlog := by
    obtain ⟨_, _, hbefore⟩ := (hlog ▸ h).of_append
    exact hbefore.finished_round

/-- A registry with one channel, which works as long as the network is up. -/
def switched : Registry Bool :=
  ⟨[⟨"mail", "Mail", fun _ => .ok (), fun _ up => (if up then .ok () else refuse .request, up)⟩]⟩

/-- A queue for three users: one with this channel, one with a type that no channel has, and one with no
channel at all. -/
def mixedQueue : Catalog :=
  (Transaction.enqueue "u1" "d" "" 20).run <|
    (Transaction.enqueue "u3" "c" "" 10).run <|
    (Transaction.enqueue "u2" "b" "" 10).run <|
    (Transaction.enqueue "u1" "a" "" 10).run <|
    (Transaction.setSetting ⟨"u2", "pager", ""⟩).run <|
    (Transaction.setSetting ⟨"u1", "mail", ""⟩).run .empty

/-- A round on this queue, in which the network goes down and a notice is queued before the one that was
sent is deleted. -/
theorem notices_accounted_for_mixedQueue :
    ∃ log c, Accounted switched log c .between ∧ Log.counts log = ⟨1, 1, 1, 1⟩ ∧
      c.queue.map Notice.title = ["d", "e"] := by
  have hqueue : ∃ log, Delivering switched log mixedQueue .between :=
    ⟨_, .next (.next (.next (.next (.next (.next .start (.other _ rfl)) (.other _ rfl)) (.other _ rfl))
      (.other _ rfl)) (.other _ rfl)) (.other _ rfl)⟩
  obtain ⟨log, hqueue⟩ := hqueue
  have hread : mixedQueue.purge.2.pending = [⟨⟨1, "u1", "a", "", 10⟩, "mail", ""⟩,
      ⟨⟨2, "u2", "b", "", 10⟩, "pager", ""⟩, ⟨⟨4, "u1", "d", "", 20⟩, "mail", ""⟩] := by
    rw [Catalog.pending, Catalog.queued, List.mergeSort_of_pairwise (by decide)]
    rfl
  have hbegun : Delivering switched _ _ (.delivering mixedQueue.purge.2.pending { orphaned := 1 }) :=
    .next (.next hqueue .purge) .read
  rw [hread] at hbegun
  have hsent := Delivering.next hbegun (.send 30 true rfl rfl)
  have hdeleted := Delivering.next (Delivering.next hsent
    (.other (.enqueue "u1" "e" "" 30) rfl)) .delete
  have hround := Delivering.next (Delivering.next (Delivering.next hdeleted (.drop rfl))
    (.fail 30 false rfl rfl)) .finish
  exact ⟨_, _, notices_accounted_for hround, rfl, rfl⟩

end Dispatch
end PowerLease
