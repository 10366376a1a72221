import Mathlib.Data.List.Perm.Basic
import Mathlib.Data.List.Nodup
import PowerLease.Proofs.Delivery.Rounds

/-!
# What becomes of notices

The books of the queue balance: what is in it together with all that was purged, dropped, or deleted
after delivery is what was ever queued, notice for notice (`Balanced`). Ids are never given again, so
nothing stands in the books twice. What a round has in hand is still in the queue (`InHand`), and what
was delivered was deleted, but for the one notice that the dispatcher is about to delete. All this holds
at every moment of every run (`Delivering.ledger`).
-/

namespace PowerLease

/-! ## The queue -/

/-- The order of delivery: the older notice first, of two as old the one that was queued first. -/
def Notice.Precedes (n m : Notice) : Prop :=
  n.addedAt < m.addedAt ∨ n.addedAt = m.addedAt ∧ n.id < m.id

namespace Catalog

variable {c : Catalog} {n : Notice} {p : PendingNotice}

/-- The queue is left alone, or one notice with the next id is added to it. -/
def Grows (c c' : Catalog) : Prop :=
  c.SameQueue c' ∨
    ∃ n : Notice, c'.queue = c.queue ++ [n] ∧ n.id = c.lastNotice + 1 ∧
      c'.lastNotice = c.lastNotice + 1

theorem grows_raise (guard : Session → Bool) (flag : Session → Session) (read : Session)
    (text : NoticeText) (now : Int) : Grows c (raise guard flag read text now c).2 :=
  raise_induct (P := Grows c) (Or.inl ⟨rfl, rfl⟩) (Or.inr ⟨_, rfl, rfl, rfl⟩)

theorem grows_run {t : Transaction} (ht : t.deletesNotices = false) : Grows c (t.run c) := by
  have hsame : Grows c c := Or.inl ⟨rfl, rfl⟩
  cases t with
  | markWarned | markAnnounced | markOff | markReady => exact grows_raise ..
  | enqueue => exact Or.inr ⟨_, rfl, rfl, rfl⟩
  | openSession => exact openSession_induct (P := Grows c) hsame fun _ => Or.inl ⟨rfl, rfl⟩
  | extendSession => exact extendSession_induct (P := Grows c) hsame (Or.inl ⟨rfl, rfl⟩)
  | endSession => exact endSession_induct (P := Grows c) hsame fun _ _ _ _ => Or.inl ⟨rfl, rfl⟩
  | endByToken => exact endByToken_induct (P := Grows c) hsame fun _ _ _ _ => Or.inl ⟨rfl, rfl⟩
  | finalize => exact finalize_induct (P := Grows c) hsame fun _ _ _ _ _ => Or.inl ⟨rfl, rfl⟩
  | sync | setSetting | deleteSetting => exact Or.inl ⟨rfl, rfl⟩
  | purge | deleteNotice => exact absurd ht.symm Bool.false_ne_true

/-- Deleting a notice by its id takes out this notice, and no other. -/
theorem perm_deleteNotice (hids : (c.queue.map Notice.id).Nodup) (hn : n ∈ c.queue) :
    c.queue.Perm (n :: (c.deleteNotice n.id).2.queue) := by
  have hsame : ∀ m ∈ c.queue, (m.id == n.id) = (m == n) := by
    intro m hm
    rw [Bool.eq_iff_iff, beq_iff_eq, beq_iff_eq]
    exact ⟨fun hid => List.inj_on_of_nodup_map hids hm hn hid, fun he => he ▸ rfl⟩
  have hone : c.queue.filter (fun m => m.id == n.id) = [n] := by
    rw [List.filter_congr hsame, List.filter_beq, List.count_eq_one_of_mem hids.of_map hn]
    rfl
  have hparts := List.filter_append_perm (fun m : Notice => m.id == n.id) c.queue
  rw [hone] at hparts
  exact hparts.symm

/-- Purging takes out the notices of users without a channel. -/
theorem perm_purge (c : Catalog) :
    c.queue.Perm (c.queue.filter (fun n => (c.settingOf n.user).isNone) ++ c.purge.2.queue) :=
  (List.filter_append_perm (fun n : Notice => (c.settingOf n.user).isNone) c.queue).symm

/-! ## What is read of it -/

theorem mem_pending : p ∈ c.pending ↔ p.notice ∈ c.queue ∧
    ∃ s, c.settingOf p.notice.user = some s ∧ s.channel = p.channel ∧ s.config = p.config := by
  simp only [pending, queued, List.mem_filterMap, List.mem_mergeSort, Option.map_eq_some_iff]
  constructor
  · rintro ⟨n, hn, s, hs, rfl⟩
    exact ⟨hn, s, hs, rfl, rfl⟩
  · rintro ⟨hn, s, hs, hchannel, hconfig⟩
    exact ⟨p.notice, hn, s, hs, by rw [hchannel, hconfig]⟩

theorem map_notice_pending (c : Catalog) : c.pending.map PendingNotice.notice =
    c.queued.filter fun n => (c.settingOf n.user).isSome := by
  rw [pending, List.map_filterMap, ← List.filterMap_eq_filter]
  refine List.filterMap_congr fun n _ => ?_
  cases hsetting : c.settingOf n.user <;> simp [Option.guard, hsetting]

theorem nodup_pending (hids : (c.queue.map Notice.id).Nodup) :
    (c.pending.map fun p => p.notice.id).Nodup := by
  have hqueued : (c.queued.map Notice.id).Nodup :=
    ((List.mergeSort_perm c.queue Notice.before).map Notice.id).nodup_iff.mpr hids
  have hread : c.pending.map (fun p => p.notice.id) =
      (c.queued.filter fun n => (c.settingOf n.user).isSome).map Notice.id := by
    rw [← map_notice_pending, List.map_map]
    rfl
  rw [hread]
  exact hqueued.sublist (List.filter_sublist.map _)

theorem Notice.before_iff {n m : Notice} : Notice.before n m = true ↔
    n.addedAt < m.addedAt ∨ n.addedAt = m.addedAt ∧ n.id ≤ m.id := by
  simp [Notice.before]

/-- What is read is in the order of delivery. -/
theorem pairwise_pending (hids : (c.queue.map Notice.id).Nodup) :
    c.pending.Pairwise fun p q => p.notice.Precedes q.notice := by
  have hsorted : c.queued.Pairwise fun n m => Notice.before n m = true := by
    refine List.pairwise_mergeSort (fun a b d => ?_) (fun a b => ?_) _
    · simp only [Notice.before_iff]
      omega
    · rw [Bool.or_eq_true, Notice.before_iff, Notice.before_iff]
      omega
  have hread : (c.pending.map PendingNotice.notice).Pairwise fun n m => Notice.before n m = true := by
    rw [map_notice_pending]
    exact hsorted.filter _
  have hdistinct : c.pending.Pairwise fun p q => p.notice.id ≠ q.notice.id :=
    List.pairwise_map.mp (nodup_pending hids)
  refine ((List.pairwise_map.mp hread).and hdistinct).imp ?_
  rintro p q ⟨hbefore, hne⟩
  rw [Notice.before_iff] at hbefore
  unfold Notice.Precedes
  omega

end Catalog

namespace Dispatch

variable {ν : Type} {registry : Registry ν} {log : Log} {c c' : Catalog} {stage stage' : Stage}
  {did : Deed} {m : Moment} {n k : Notice} {p : PendingNotice}

/-! ## The books -/

namespace Log

/-- All notices that were ever queued. -/
def queued (log : Log) : List Notice := log.collect Moment.queued

/-- All notices that were deleted, for whatever reason. -/
def gone (log : Log) : List Notice :=
  log.collect Moment.purged ++
    ((log.collect Moment.dropped).map PendingNotice.notice ++
      (log.collect Moment.deleted).map PendingNotice.notice)

/-- What a moment adds to the deleted notices. -/
theorem gone_cons_perm (m : Moment) (log : Log) :
    (gone (m :: log)).Perm (m.purged ++ ((m.dropped ++ m.deleted).map PendingNotice.notice ++ gone log)) := by
  rw [List.perm_iff_count]
  intro n
  simp only [gone, collect_cons, List.map_append, List.count_append]
  omega

end Log

/-- Every notice that was ever queued is in the queue or deleted, and none of them twice. -/
structure Balanced (log : Log) (c : Catalog) : Prop where
  perm : (c.queue ++ log.gone).Perm log.queued
  ids : (log.queued.map Notice.id).Pairwise (· < ·)
  ids_le : ∀ n ∈ log.queued, n.id ≤ c.lastNotice

namespace Balanced

theorem start : Balanced [] .empty :=
  ⟨.refl _, .nil, fun _ hn => absurd hn List.not_mem_nil⟩

theorem nodup (h : Balanced log c) : ((c.queue ++ log.gone).map Notice.id).Nodup :=
  (h.perm.map Notice.id).nodup_iff.mpr (h.ids.imp Nat.ne_of_lt)

theorem nodup_queue (h : Balanced log c) : (c.queue.map Notice.id).Nodup :=
  h.nodup.sublist ((List.sublist_append_left _ _).map _)

theorem mem_queued_iff (h : Balanced log c) : n ∈ log.queued ↔ n ∈ c.queue ∨ n ∈ log.gone := by
  rw [← h.perm.mem_iff, List.mem_append]

/-- What was deleted is not in the queue. -/
theorem notMem_gone (h : Balanced log c) (hn : n ∈ c.queue) : n ∉ log.gone := by
  intro hgone
  exact (List.nodup_append.mp h.nodup.of_map).2.2 n hn n hgone rfl

theorem eq_of_id (h : Balanced log c) (hn : n ∈ log.queued) (hk : k ∈ log.queued)
    (hid : n.id = k.id) : n = k :=
  List.inj_on_of_nodup_map (h.ids.imp Nat.ne_of_lt) hn hk hid

/-- A moment that takes some notices out of the queue, and queues none. -/
theorem take (h : Balanced log c) (hnone : m.queued = []) (hlast : c'.lastNotice = c.lastNotice)
    (htaken : c.queue.Perm (m.purged ++ (m.dropped ++ m.deleted).map PendingNotice.notice ++ c'.queue)) :
    Balanced (m :: log) c' := by
  have hqueued : Log.queued (m :: log) = log.queued := by
    rw [Log.queued, Log.collect_cons, hnone, List.append_nil]
    rfl
  refine ⟨?_, hqueued ▸ h.ids, fun n hn => hlast ▸ h.ids_le n (hqueued ▸ hn)⟩
  have hgone := Log.gone_cons_perm m log
  have hperm := h.perm
  rw [hqueued]
  rw [List.perm_iff_count] at hgone hperm htaken ⊢
  intro n
  have h1 := hgone n
  have h2 := hperm n
  have h3 := htaken n
  simp only [List.count_append] at h1 h2 h3 ⊢
  omega

/-- A moment of others, which may queue a notice. -/
theorem grow {t : Transaction} (h : Balanced log c) (ht : t.deletesNotices = false) :
    Balanced (⟨c, .other t⟩ :: log) (t.run c) := by
  have hnew : Moment.queued ⟨c, .other t⟩ = (t.run c).queue.drop c.queue.length := rfl
  rcases Catalog.grows_run (c := c) ht with ⟨hqueue, hlast⟩ | ⟨n, hqueue, hid, hlast⟩
  · refine h.take ?_ hlast (.of_eq hqueue.symm)
    rw [hnew, hqueue, List.drop_length]
  · have hqueued : Log.queued (⟨c, .other t⟩ :: log) = log.queued ++ [n] := by
      rw [Log.queued, Log.collect_cons, hnew, hqueue, List.drop_left]
      rfl
    have hgone : Log.gone (⟨c, .other t⟩ :: log) = log.gone := by
      simp only [Log.gone, Log.collect_cons, Moment.purged, Moment.dropped, Moment.deleted,
        List.append_nil]
    refine ⟨?_, ?_, ?_⟩
    · rw [hqueued, hgone, hqueue, List.append_assoc]
      refine (List.perm_append_comm.append_left c.queue).trans ?_
      rw [← List.append_assoc]
      exact h.perm.append_right [n]
    · rw [hqueued, List.map_append, List.pairwise_append]
      refine ⟨h.ids, List.pairwise_singleton _ _, fun a ha b hb => ?_⟩
      obtain ⟨k, hk, rfl⟩ := List.mem_map.mp ha
      rw [List.map_singleton, List.mem_singleton] at hb
      have := h.ids_le k hk
      omega
    · intro k hk
      rw [hqueued, List.mem_append, List.mem_singleton] at hk
      rw [hlast]
      rcases hk with hk | rfl
      · exact Nat.le_succ_of_le (h.ids_le k hk)
      · exact Nat.le_of_eq hid

end Balanced

/-! ## What a dispatcher has in hand -/

namespace Stage

/-- The notices that a round was to deliver when it read them, and that it has not deleted. -/
def inHand : Stage → List PendingNotice
  | delivering rest _ => rest
  | delivered p rest _ => p :: rest
  | between | purged _ => []

/-- The notice that is delivered, and about to be deleted. -/
def leaving : Stage → List PendingNotice
  | delivered p _ _ => [p]
  | between | purged _ | delivering _ _ => []

end Stage

/-- What a round has in hand is in the queue, and nothing of it twice. -/
structure InHand (c : Catalog) (stage : Stage) : Prop where
  mem_queue : ∀ p ∈ stage.inHand, p.notice ∈ c.queue
  nodup : (stage.inHand.map fun p => p.notice.id).Nodup

namespace InHand

/-- A stage with nothing in hand. -/
theorem of_nil (h : stage.inHand = []) : InHand c stage := by
  constructor
  · rw [h]
    exact fun _ hp => absurd hp List.not_mem_nil
  · rw [h]
    exact .nil

/-- With no more in hand, and with as much in the queue. -/
theorem mono (h : InHand c stage) (hless : stage'.inHand.Sublist stage.inHand)
    (hmore : c.queue ⊆ c'.queue) : InHand c' stage' :=
  ⟨fun p hp => hmore (h.mem_queue p (hless.subset hp)), h.nodup.sublist (hless.map _)⟩

/-- The first notice in hand is deleted. -/
theorem delete {rest : List PendingNotice} (h : InHand c stage) (hstage : stage.inHand = p :: rest)
    (hstage' : stage'.inHand = rest) : InHand (c.deleteNotice p.notice.id).2 stage' := by
  obtain ⟨hmem, hnodup⟩ := h
  rw [hstage] at hmem hnodup
  rw [List.map_cons, List.nodup_cons] at hnodup
  refine ⟨fun q hq => ?_, hstage' ▸ hnodup.2⟩
  rw [hstage'] at hq
  refine List.mem_filter.mpr ⟨hmem q (List.mem_cons_of_mem p hq), ?_⟩
  rw [bne_iff_ne]
  intro hid
  exact hnodup.1 (List.mem_map.mpr ⟨q, hq, hid⟩)

end InHand

/-! ## The ledger of a run -/

/-- The books of a run, the notices in hand, and the deliveries. -/
structure Ledger (log : Log) (c : Catalog) (stage : Stage) : Prop where
  balanced : Balanced log c
  inHand : InHand c stage
  sent_eq : log.collect Moment.sent = log.collect Moment.deleted ++ stage.leaving

namespace Ledger

theorem balanced_step (h : Ledger log c stage) (hstep : Step registry c stage did c' stage') :
    Balanced (⟨c, did⟩ :: log) c' := by
  cases hstep with
  | other t ht => exact h.balanced.grow ht
  | purge =>
    refine h.balanced.take rfl rfl ?_
    simpa only [Moment.purged, Moment.dropped, Moment.deleted, List.append_nil, List.map_nil]
      using c.perm_purge
  | drop hnone | delete =>
    refine h.balanced.take rfl rfl ?_
    exact Catalog.perm_deleteNotice h.balanced.nodup_queue (h.inHand.mem_queue _ List.mem_cons_self)
  | read | send | fail | abort | finish => exact h.balanced.take rfl rfl (.refl _)

theorem inHand_step (h : Ledger log c stage) (hstep : Step registry c stage did c' stage') :
    InHand c' stage' := by
  cases hstep with
  | other t ht =>
    refine h.inHand.mono (.refl _) ?_
    rcases Catalog.grows_run (c := c) ht with ⟨hqueue, -⟩ | ⟨n, hqueue, -⟩
    · rw [hqueue]
      exact List.Subset.refl _
    · rw [hqueue]
      exact List.subset_append_left _ _
  | read =>
    exact ⟨fun p hp => (Catalog.mem_pending.mp hp).1, Catalog.nodup_pending h.balanced.nodup_queue⟩
  | drop hnone | delete => exact h.inHand.delete rfl rfl
  | send => exact h.inHand.mono (.refl _) (List.Subset.refl _)
  | fail => exact h.inHand.mono (List.sublist_cons_self _ _) (List.Subset.refl _)
  | purge | abort | finish => exact .of_nil rfl

theorem sent_step (h : Ledger log c stage) (hstep : Step registry c stage did c' stage') :
    Log.collect Moment.sent (⟨c, did⟩ :: log) =
      Log.collect Moment.deleted (⟨c, did⟩ :: log) ++ stage'.leaving := by
  have hbefore := h.sent_eq
  rw [Log.collect_cons, Log.collect_cons, hbefore]
  cases hstep <;> simp [Moment.sent, Moment.deleted, Stage.leaving]

end Ledger

/-- The ledger is kept in every run. -/
theorem Delivering.ledger (h : Delivering registry log c stage) : Ledger log c stage := by
  induction h with
  | start => exact ⟨.start, .of_nil rfl, rfl⟩
  | next _ hstep ih => exact ⟨ih.balanced_step hstep, ih.inHand_step hstep, ih.sent_step hstep⟩

/-- All that was ever in the queue was queued by others. -/
theorem Delivering.mem_queued (h : Delivering registry log c stage)
    (hn : n ∈ c.queue ∨ ∃ m ∈ log, n ∈ m.met.queue) : n ∈ log.queued := by
  rcases hn with hn | ⟨m, hm, hn⟩
  · exact h.ledger.balanced.mem_queued_iff.mpr (Or.inl hn)
  · obtain ⟨since, before, rfl⟩ := List.append_of_mem hm
    obtain ⟨_, _, _, hbefore, -⟩ := h.exists_step
    have hqueued := hbefore.ledger.balanced.mem_queued_iff.mpr (Or.inl hn)
    obtain ⟨m', hm', hn'⟩ := Log.mem_collect.mp hqueued
    exact Log.mem_collect.mpr ⟨m', by simp [hm'], hn'⟩

end Dispatch
end PowerLease
