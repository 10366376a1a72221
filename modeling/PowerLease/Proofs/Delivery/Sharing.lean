import PowerLease.Proofs.Delivery.Course
import PowerLease.Proofs.Interleaving.Ticks
import PowerLease.Proofs.Lifecycle.Transactions
import PowerLease.Scheduler

/-!
# A tick and a round that share a connection

The order in which the scheduler lets the sessions' and the notices' worker write is one of those that
the theories of ticks and of rounds allow. It is the course of a round among other transactions, and an
interleaving of a tick: the transactions of others are those that lead from the purged catalog to the one
that a tick leaves of it, each decided on what the tick has read (`Scheduler.exists_course`).

`Shares` is what holds while the tick is under way. The round stands still then, but for its reading of
the queue, which changes no catalog.
-/

namespace PowerLease

theorem Lifecycle.Decides.deletesNotices {p : Catalog} {t : Transaction}
    (h : Lifecycle.Decides p t) : t.deletesNotices = false := by
  cases h <;> rfl

namespace Dispatch

variable {ν : Type} {registry : Registry ν} {now clock : Int} {network reached reached' : ν}
  {c d d' p : Catalog} {log own before since : Log} {journal : Journal} {did : Deed}
  {stage stage' : Stage} {t : Transaction} {q : Lifecycle.Progress}

/-! ## The transactions of a log -/

/-- The transaction of a moment, if there was one. -/
def Moment.entry? (m : Moment) : Option Entry :=
  match m.did with
  | .other t => some ⟨m.met, t⟩
  | .purged => some ⟨m.met, .purge⟩
  | .dropped p | .deleted p => some ⟨m.met, .deleteNotice p.notice.id⟩
  | .read | .sent _ | .failed _ | .aborted _ | .finished _ => none

/-- The transactions of a log, those of the dispatcher and those of others. -/
def Log.entries (log : Log) : Journal := log.filterMap Moment.entry?

theorem Log.entries_append (log before : Log) :
    entries (log ++ before) = log.entries ++ before.entries :=
  List.filterMap_append

/-- A dispatcher's own step goes on with an interleaving. -/
theorem Step.interleaving (hstep : Step registry d stage did d' stage')
    (hown : Moment.others ⟨d, did⟩ = []) (h : Interleaving (log.entries ++ journal) d) :
    Interleaving (Log.entries (⟨d, did⟩ :: log) ++ journal) d' := by
  cases hstep with
  | other => exact absurd hown (List.cons_ne_nil _ _)
  | purge => exact .others .purge h rfl
  | @drop p | @delete p => exact .others (.deleteNotice p.notice.id) h rfl
  | read | send | fail | abort | finish => exact h

/-! ## Courses -/

namespace Round

theorem of_cons {m : Moment} (h : Round registry now c network (m :: log) d stage reached)
    (hlog : log ≠ []) : ∃ stage' reached', Round registry now c network log m.met stage' reached' ∧
      Step registry m.met stage' m.did d stage := by
  cases h with
  | begin => exact absurd rfl hlog
  | next h _ hstep _ => exact ⟨_, _, h, hstep⟩

theorem ne_nil (h : Round registry now c network log d stage reached) : log ≠ [] := by
  cases h <;> exact List.cons_ne_nil _ _

/-- A log leads to one catalog only. -/
theorem unique (h : Round registry now c network log d stage reached)
    (h' : Round registry now c network log d' stage' reached') : d = d' := by
  cases h with
  | begin =>
    cases h' with
    | begin => rfl
    | next h' _ _ _ => exact absurd rfl h'.ne_nil
  | next h _ hstep _ =>
    obtain ⟨_, _, -, hstep'⟩ := h'.of_cons h.ne_nil
    cases hstep <;> cases hstep' <;> rfl

/-- What the dispatcher does of its own accord goes on with an interleaving. -/
theorem interleaving (h : Round registry now c network log d stage reached)
    (hlog : Interleaving (log.entries ++ journal) d) (hown : own.collect Moment.others = [])
    (hround : Round registry now c network (own ++ log) d' stage' reached') :
    Interleaving (Log.entries (own ++ log) ++ journal) d' := by
  induction own generalizing d' stage' reached' with
  | nil => exact h.unique hround ▸ hlog
  | cons m rest ih =>
    rw [Log.collect_cons, List.append_eq_nil_iff] at hown
    obtain ⟨_, _, hrest, hstep⟩ := hround.of_cons (List.append_ne_nil_of_right_ne_nil _ h.ne_nil)
    exact hstep.interleaving hown.2 (ih hown.1 hrest)

end Round

/-! ## A tick beside a round -/

/-- A round is under way, and so is a tick: what others have done in its course is what has become of
the purged catalog, and all of it is an interleaving. -/
structure Shares (registry : Registry ν) (clock : Int) (journal : Journal) (c : Catalog) (network : ν)
    (log : Log) (d : Catalog) (stage : Stage) : Prop where
  isOpen : stage ≠ .between
  round : Round registry clock c network log d stage network
  interleaving : Interleaving (log.entries ++ journal) d
  others : Transaction.runAll (log.collect Moment.others) c.purge.2 = d

namespace Shares

theorem begin (h : Interleaving journal c) (registry : Registry ν) (clock : Int) (network : ν) :
    Shares registry clock journal c network [⟨c, .purged⟩] c.purge.2 (.purged c.purge.1) :=
  ⟨nofun, .begin, .others .purge h rfl, rfl⟩

theorem read {orphaned : Nat}
    (h : Shares registry clock journal c network log d (.purged orphaned)) :
    Shares registry clock journal c network (⟨d, .read⟩ :: log) d
      (.delivering d.pending { orphaned }) where
  isOpen := nofun
  round := .next h.round nofun .read rfl
  interleaving := h.interleaving
  others := by
    have hnone : Moment.others ⟨d, .read⟩ = [] := rfl
    rw [Log.collect_cons, hnone, List.append_nil, h.others]

/-- What was decided on a reading may be written as long as the round is under way. -/
theorem decided (hp : Shares registry clock journal c network before p stage)
    (ht : Lifecycle.Decides p t)
    (h : ∃ since, Shares registry clock journal c network (since ++ before) d stage') :
    ∃ since, Shares registry clock journal c network (since ++ before) (t.run d) stage' := by
  obtain ⟨since, h⟩ := h
  have hreached := h.interleaving
  rw [Log.entries_append, List.append_assoc] at hreached
  have hread : p ∈ d :: (Log.entries (since ++ before) ++ journal).map Entry.met := by
    rw [Log.entries_append, List.append_assoc]
    exact hp.interleaving.mem_of_since hreached
  exact ⟨⟨d, .other t⟩ :: since,
    { isOpen := h.isOpen
      round := .next h.round h.isOpen (.other t ht.deletesNotices) rfl
      interleaving := .lifecycle t h.interleaving hread ht
      others := by
        rw [List.cons_append, Log.collect_cons, Transaction.runAll_append, h.others]
        rfl }⟩

/-- A part of the first writes, which were decided on an earlier reading. -/
theorem firstWrites (hp : Shares registry clock journal c network before p stage)
    (window : Duration) (now : Int) {writes : List Lifecycle.FirstWrite}
    (hwrites : writes ⊆ Lifecycle.firstWrites window now p.activeSessions)
    (h : ∃ since, Shares registry clock journal c network (since ++ before) q.catalog stage') :
    ∃ since, Shares registry clock journal c network (since ++ before)
      (writes.foldl (Lifecycle.FirstWrite.run now) q).catalog stage' :=
  Lifecycle.firstWrites_decided
    (P := fun d => ∃ since, Shares registry clock journal c network (since ++ before) d stage')
    hwrites h fun _ _ ht => hp.decided ht

/-- A stage of the tick, while the round stands still. -/
theorem advance {f : Lifecycle.Progress → Lifecycle.Progress} (hstage : Lifecycle.IsDecided f)
    (h : Shares registry clock journal c network log q.catalog stage) :
    ∃ log, Shares registry clock journal c network log (f q).catalog stage := by
  obtain ⟨since, hsince⟩ :=
    hstage (fun d => ∃ since, Shares registry clock journal c network (since ++ log) d stage) q
      ⟨[], h⟩ fun _ _ ht => h.decided ht
  exact ⟨since ++ log, hsince⟩

/-- The rest of a tick. -/
theorem laterStages (h : Shares registry clock journal c network log q.catalog stage) (now : Int) :
    ∃ log, Shares registry clock journal c network log (Lifecycle.laterStages now q).catalog stage := by
  obtain ⟨_, hannounced⟩ := h.advance (Lifecycle.isDecided_announceAll now)
  obtain ⟨_, hcleaned⟩ := hannounced.advance (Lifecycle.isDecided_cleanAll now)
  obtain ⟨log, hready⟩ := hcleaned.advance (Lifecycle.isDecided_tellAllReady now)
  exact ⟨log, hready⟩

end Shares

/-! ## The scheduler's order -/

/-- What a round has counted before does nothing to what it leaves. -/
theorem deliverAll_snd (registry : Registry ν) (now : Int) (pending : List PendingNotice)
    (report report' : DispatchReport) (network : ν) (store : Store) :
    (deliverAll registry now pending report network store).2 =
      (deliverAll registry now pending report' network store).2 := by
  induction pending generalizing report report' network store with
  | nil => rfl
  | cons p rest ih =>
    unfold deliverAll deleteThen
    split
    · split
      · rfl
      · exact ih ..
    · split
      · split
        · rfl
        · exact ih ..
      · exact ih ..
      · rfl

end Dispatch

/-- The first writes of a tick may be cut in two anywhere. -/
theorem Lifecycle.tick_eq_take_drop (window : Duration) (now : Int) (c : Catalog) (n : Nat) :
    tick window now c =
      laterStages now (((firstWrites window now c.activeSessions).drop n).foldl (FirstWrite.run now)
        (((firstWrites window now c.activeSessions).take n).foldl (FirstWrite.run now)
          { catalog := c })) := by
  rw [← List.foldl_append, List.take_append_drop]
  rfl

/-- **The scheduler's order of a tick and a round is the course of a round that the tick's transactions
come between, and an interleaving.** -/
theorem Scheduler.exists_course {ν : Type} {journal : Journal} {c : Catalog}
    (h : Interleaving journal c) (registry : Registry ν) (window : Duration) (clock : Int)
    (network : ν) :
    ∃ log network' c', sessionsAndNotices registry window clock c network = (network', .opened c') ∧
      Dispatch.Round registry clock c network log c' .between network' ∧
        Interleaving (log.entries ++ journal) c' ∧
          Transaction.runAll (log.collect Dispatch.Moment.others) c.purge.2 =
            (Lifecycle.tick window (Timestamp.ofClock clock) c.purge.2).catalog := by
  have hbegin := Dispatch.Shares.begin h registry clock network
  -- all first writes are decided on the purged catalog, and the queue is read behind the first of them
  obtain ⟨first, hfirst⟩ :=
    hbegin.firstWrites window (Timestamp.ofClock clock) (List.take_subset 1 _)
      (q := { catalog := c.purge.2 }) ⟨[], hbegin⟩
  obtain ⟨_, hlater⟩ :=
    hbegin.firstWrites window (Timestamp.ofClock clock) (List.drop_subset 1 _)
      ⟨_ :: first, hfirst.read⟩
  obtain ⟨log, hticked⟩ := hlater.laterStages (Timestamp.ofClock clock)
  rw [← Lifecycle.tick_eq_take_drop] at hticked
  -- from here on the dispatcher is by itself
  obtain ⟨own, c', hstore, hround, hothers, -⟩ := hticked.round.completes hticked.isOpen
  have hinterleaving := hticked.round.interleaving hticked.interleaving hothers hround
  refine ⟨own ++ log, _, c', ?_, hround, hinterleaving, ?_⟩
  · rw [← hstore, Lifecycle.tick_eq_take_drop _ _ _ 1]
    exact Dispatch.deliverAll_snd registry clock _ {} _ network _
  · rw [Dispatch.Log.collect_append, hothers, List.append_nil, hticked.others]

end PowerLease
