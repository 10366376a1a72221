import PowerLease.Proofs.Interleaving.Undisturbed

/-!
# All that is ever queued

In an undisturbed run nothing is queued but what the lifecycle tells the holders of sessions, each notice
on a session (`Interleaving.exists_of_mem_queue`) and about one topic, which its title tells
(`Interleaving.addressed`, `Topic.title_inj`). So the notices of a session are its topics, and what
is known of the order and the number of topics (`Interleaving.informs`) is known of the queue.

The main statement, `notified_of_undisturbed`, says of each session that was ever opened what was queued
for its holder, from its opening to its deletion.
-/

namespace PowerLease

variable {readings : List Catalog} {journal before since : Journal} {e : Entry} {p c c' m : Catalog}
  {t : Transaction} {s r : Session} {id : Nat}

/-! ## Sessions that were opened -/

/-- A session was opened. -/
def Journal.Opened (journal : Journal) (s : Session) : Prop :=
  ∃ e ∈ journal, s ∈ e.did.opens e.met

instance : Decidable (journal.Opened s) :=
  inferInstanceAs (Decidable (∃ e ∈ journal, s ∈ e.did.opens e.met))

theorem Journal.opened_cons :
    Journal.Opened (e :: journal) s ↔ s ∈ e.did.opens e.met ∨ journal.Opened s :=
  List.exists_mem_cons_iff ..

namespace Interleaving

theorem pos_and_le_of_opened (h : Interleaving journal c) (hs : journal.Opened s) :
    0 < s.id ∧ s.id ≤ c.lastSession := by
  obtain ⟨e, he, hopens⟩ := hs
  obtain ⟨since, before, rfl, -, hled⟩ := h.exists_before he
  have hmem : s ∈ (e.did.run e.met).sessions := Transaction.mem_sessions_run.mpr (Or.inr hopens)
  have hle : s.id ≤ c.lastSession :=
    Nat.le_trans (hled.consistent.sessionIds_le s hmem) (hled.follows h).lastSession_le
  obtain ⟨request, now, -, rfl⟩ := Transaction.eq_of_mem_opens hopens
  exact ⟨Nat.succ_pos _, hle⟩

/-- All rows with the id of a session that was opened are of its lease. -/
theorem sameLease_of_opened (h : Interleaving journal c) (hs : journal.Opened s)
    (hp : p ∈ c :: journal.map Entry.met) (hr : r ∈ p.sessions) (hid : r.id = s.id) :
    s.SameLease r := by
  induction journal generalizing c p r with
  | nil => exact absurd hs (by simp [Journal.Opened])
  | cons e rest ih =>
    obtain ⟨d, t⟩ := e
    obtain ⟨hrest, rfl⟩ := h.of_cons
    rcases Journal.opened_cons.mp hs with hopens | hs
    · rcases List.mem_cons.mp hp with rfl | hp
      · have hmem := Transaction.mem_sessions_run.mpr (Or.inr hopens)
        rw [h.consistent.session_eq_of_id hr hmem hid]
        exact .refl s
      · -- the id was not given yet
        obtain ⟨request, now, -, rfl⟩ := Transaction.eq_of_mem_opens hopens
        obtain ⟨hconsistent, hfollows⟩ := hrest.history.consistent_and_follows p hp
        have hlt : p.lastSession < d.lastSession + 1 := Nat.lt_succ_of_le hfollows.lastSession_le
        exact absurd hid (hconsistent.id_ne_of_lt hlt r hr)
    · rcases List.mem_cons.mp hp with rfl | hp
      · rcases Transaction.mem_sessions_run.mp hr with ⟨x, hx, hstep⟩ | hopened
        · have hsame := (Transaction.makes_of_onSession hstep).sameLease
          exact (ih hrest hs List.mem_cons_self hx (hsame.id.trans hid)).trans hsame
        · obtain ⟨request, now, -, rfl⟩ := Transaction.eq_of_mem_opens hopened
          have hle := (hrest.pos_and_le_of_opened hs).2
          rw [← hid] at hle
          exact absurd hle (Nat.not_succ_le_self _)
      · exact ih hrest hs hp hr hid

/-- Each session that is there was opened. -/
theorem exists_opened (h : Interleaving journal c) (hr : r ∈ c.sessions) :
    ∃ s, journal.Opened s ∧ s.id = r.id := by
  induction journal generalizing c r with
  | nil =>
    rw [h.unique .start] at hr
    exact absurd hr List.not_mem_nil
  | cons e rest ih =>
    obtain ⟨d, t⟩ := e
    obtain ⟨hrest, rfl⟩ := h.of_cons
    rcases Transaction.mem_sessions_run.mp hr with ⟨x, hx, hstep⟩ | hopened
    · obtain ⟨s, hs, hid⟩ := ih hrest hx
      exact ⟨s, Journal.opened_cons.mpr (Or.inr hs),
        hid.trans (Transaction.makes_of_onSession hstep).sameLease.id⟩
    · exact ⟨r, Journal.opened_cons.mpr (Or.inl hopened), rfl⟩

end Interleaving

/-! ## What a transaction adds to the queue -/

/-- A transaction adds nothing to the queue, or one notice on a session that it acts on. -/
inductive Transaction.Queues (c : Catalog) (t : Transaction) : Prop
  | nothing (hsame : c.SameQueue (t.run c)) (htopic : t.subject c = none ∨ t.topic? = none)
  | notice {read : Session} {n : Notice} {x : Topic} (hqueue : (t.run c).queue = c.queue ++ [n])
    (hlast : (t.run c).lastNotice = c.lastNotice + 1) (hid : n.id = c.lastNotice + 1)
    (hsubject : t.subject c = some read) (htopic : t.topic? = some x) (huser : n.user = read.user)
    (htitle : n.title = x.title read.group) (hread : ∃ s ∈ c.sessions, read.SameLease s)

namespace Transaction.Queues

theorem of_isCall (ht : t.isCall = true) (c : Catalog) : t.Queues c := by
  have hsame : c.SameQueue c := ⟨rfl, rfl⟩
  cases t with
  | openSession =>
    exact .nothing (Catalog.openSession_induct (P := c.SameQueue) hsame fun _ => hsame) (Or.inr rfl)
  | extendSession =>
    exact .nothing (Catalog.extendSession_induct (P := c.SameQueue) hsame hsame) (Or.inr rfl)
  | endByToken =>
    exact .nothing (Catalog.endByToken_induct (P := c.SameQueue) hsame fun _ _ _ _ => hsame)
      (Or.inr rfl)
  | sync | setSetting | deleteSetting => exact .nothing hsame (Or.inr rfl)
  | _ => exact absurd ht Bool.false_ne_true

/-- A write that raises a flag queues one notice, or is refused. -/
theorem of_raise (guard : Session → Bool) (flag : Session → Session) {read : Session}
    {text : NoticeText} {now : Int} {x : Topic}
    (hrun : t.run c = (Catalog.raise guard flag read text now c).2)
    (hsubject : t.subject c =
      if (Catalog.raise guard flag read text now c).1 then some read else none)
    (htopic : t.topic? = some x) (htitle : text.title = x.title read.group)
    (hread : ∀ s ∈ c.sessions, s.id = read.id → read.SameLease s) : t.Queues c := by
  rcases c.raise_cases guard flag read text now with ⟨-, he⟩ | ⟨s, hs, hid, -, he⟩
  · rw [he] at hrun hsubject
    exact .nothing ⟨congrArg Catalog.queue hrun, congrArg Catalog.lastNotice hrun⟩
      (Or.inl hsubject)
  · rw [he] at hrun hsubject
    exact .notice (congrArg Catalog.queue hrun) (congrArg Catalog.lastNotice hrun) rfl hsubject
      htopic rfl htitle ⟨s, hs, hread s hs hid⟩

theorem of_decides (h : Lifecycle.Decides p t)
    (hread : ∀ r ∈ p.sessions, ∀ s ∈ c.sessions, s.id = r.id → r.SameLease s) : t.Queues c := by
  have hsame : c.SameQueue c := ⟨rfl, rfl⟩
  cases h with
  | expire =>
    exact .nothing (Catalog.endSession_induct (P := c.SameQueue) hsame fun _ _ _ _ => hsame)
      (Or.inr rfl)
  | warn hs haging htext =>
    obtain ⟨time, -, rfl⟩ := Option.map_eq_some_iff.mp htext
    exact of_raise (fun s => !s.warned && !s.ended) Session.warn rfl rfl rfl rfl
      (hread _ (Lifecycle.mem_activeSessions.mp hs).1)
  | @announce r _ text hs htext =>
    refine of_raise (fun s => s.unannounced) Session.announce rfl rfl rfl ?_
      (hread _ (List.mem_of_mem_filter hs))
    unfold Lifecycle.announcement? at htext
    split at htext
    next hended =>
      rw [← Option.some.inj htext, if_pos hended]
      rfl
    next hlive =>
      obtain ⟨time, -, rfl⟩ := Option.map_eq_some_iff.mp htext
      rw [if_neg hlive]
      rfl
  | tellOff hs =>
    exact of_raise (fun s => s.ended && !s.offTold) Session.tellOff rfl rfl rfl rfl
      (hread _ (List.mem_of_mem_filter hs))
  | delete =>
    exact .nothing (Catalog.finalize_induct (P := c.SameQueue) hsame fun _ _ _ _ _ => hsame)
      (Or.inr rfl)
  | tellReady hs =>
    exact of_raise (fun s => !s.ended && !s.readyTold) Session.tellReady rfl rfl rfl rfl
      (hread _ (List.mem_of_mem_filter hs))

end Transaction.Queues

namespace Undisturbed

/-- In an undisturbed run, others do not touch the queue. -/
theorem isCall_of_byOthers (h : Undisturbed readings journal c) (he : e ∈ journal)
    (hothers : e.did.byOthers = true) : e.did.isCall = true := by
  induction h with
  | start => exact absurd he List.not_mem_nil
  | call t h ht ih =>
    rcases List.mem_cons.mp he with rfl | he
    · exact ht
    · exact ih he
  | tick window now h hdone ih =>
    rcases List.mem_append.mp he with he | he
    · obtain ⟨p, hdecides⟩ := Lifecycle.exists_decides (Journal.did_mem_of_record he)
      rw [hdecides.byOthers_eq_false] at hothers
      exact absurd hothers Bool.false_ne_true
    · exact ih he

/-- This is all that any transaction adds to the queue. -/
theorem queues (h : Undisturbed readings journal c) (he : e ∈ journal) : e.did.Queues e.met := by
  cases hothers : e.did.byOthers with
  | true => exact .of_isCall (h.isCall_of_byOthers he hothers) e.met
  | false =>
    obtain ⟨-, before, -, hmet, hled⟩ := h.interleaving.exists_before he
    obtain ⟨since, before, p, rfl, hp, hdecides⟩ := hled.exists_reading hothers
    exact .of_decides hdecides fun r hr s hs hid => (hp.session_since hr hmet hs hid).sameLease

end Undisturbed

/-! ## Notices of a session -/

/-- The notices that an entry has queued. -/
def Entry.queued (e : Entry) : List Notice := (e.did.run e.met).queue.drop e.met.queue.length

/-- The notices that an entry has queued on the session of an id. -/
def Entry.noticesOf (id : Nat) (e : Entry) : List Notice :=
  if (e.did.subject e.met).any fun s => s.id == id then e.queued else []

/-- The notices that were queued on the session of an id, the first of them in front. -/
def Journal.noticesOf (journal : Journal) (id : Nat) : List Notice :=
  journal.reverse.flatMap (Entry.noticesOf id)

theorem Journal.noticesOf_cons :
    Journal.noticesOf (e :: journal) id = journal.noticesOf id ++ e.noticesOf id := by
  rw [noticesOf, List.reverse_cons, List.flatMap_append, List.flatMap_singleton]
  rfl

namespace Transaction.Queues

theorem queue_eq (h : e.did.Queues e.met) :
    (e.did.run e.met).queue = e.met.queue ++ e.queued := by
  cases h with
  | nothing hsame => rw [Entry.queued, hsame.1, List.drop_length, List.append_nil]
  | notice hqueue => rw [Entry.queued, hqueue, List.drop_left]

/-- A notice on a session is for its user, and says in its title which topic it is about. -/
theorem addressed (h : e.did.Queues e.met)
    (hrow : ∀ r ∈ e.met.sessions, r.id = s.id → s.SameLease r) :
    ((e.noticesOf s.id).map fun n => (n.user, n.title)) =
      (e.topic? s.id).toList.map fun x => (s.user, x.title s.group) := by
  rw [Entry.noticesOf, Entry.topic?]
  split
  next hsubject =>
    obtain ⟨x, hx, hid⟩ := Option.any_eq_true _ _ |>.mp hsubject
    cases h with
    | nothing hsame htopic =>
      rcases htopic with hnone | hnone
      · rw [hnone] at hx
        cases hx
      · rw [Entry.queued, hsame.1, List.drop_length, hnone]
        rfl
    | @notice read n x hqueue _ _ hread htopic huser htitle hsame =>
      obtain rfl := Option.some.inj (hread.symm.trans hx)
      obtain ⟨r, hr, hsame⟩ := hsame
      have hlease := hrow r hr (hsame.id.symm.trans (beq_iff_eq.mp hid))
      rw [Entry.queued, hqueue, List.drop_left, htopic, List.map_singleton, huser, htitle,
        hsame.user, hsame.group, hlease.user, hlease.group]
      rfl
  next => rfl

end Transaction.Queues

namespace Interleaving

/-- The queue has all notices that were ever queued, in the order of their ids. -/
theorem queue_eq (h : Interleaving journal c) (hqueues : ∀ e ∈ journal, e.did.Queues e.met) :
    c.queue = journal.reverse.flatMap Entry.queued ∧
      c.queue.map Notice.id = List.range' 1 c.lastNotice := by
  induction journal generalizing c with
  | nil =>
    rw [h.unique .start]
    exact ⟨rfl, rfl⟩
  | cons e rest ih =>
    obtain ⟨hrest, rfl⟩ := h.of_cons
    obtain ⟨hqueue, hqueuesRest⟩ := List.forall_mem_cons.mp hqueues
    obtain ⟨hall, hids⟩ := ih hrest hqueuesRest
    constructor
    · rw [hqueue.queue_eq, hall, List.reverse_cons, List.flatMap_append, List.flatMap_singleton]
    · cases hqueue with
      | nothing hsame => rw [hsame.1, hsame.2, hids]
      | notice hqueue hlast hid =>
        rw [hqueue, hlast, List.map_append, hids, List.map_singleton, hid, List.range'_concat,
          Nat.one_mul, Nat.add_comm 1]

/-- The notices on a session that was opened are for its user, and about its topics. -/
theorem addressed (h : Interleaving journal c) (hqueues : ∀ e ∈ journal, e.did.Queues e.met)
    (hrow : ∀ p ∈ c :: journal.map Entry.met, ∀ r ∈ p.sessions, r.id = s.id → s.SameLease r) :
    ((journal.noticesOf s.id).map fun n => (n.user, n.title)) =
      (journal.topics s.id).map fun x => (s.user, x.title s.group) := by
  induction journal generalizing c with
  | nil => rfl
  | cons e rest ih =>
    obtain ⟨hqueue, hqueuesRest⟩ := List.forall_mem_cons.mp hqueues
    have hrowRest : ∀ p ∈ e.met :: rest.map Entry.met, ∀ r ∈ p.sessions, r.id = s.id →
        s.SameLease r := fun p hp => hrow p (List.mem_cons_of_mem c hp)
    rw [Journal.noticesOf_cons, Journal.topics_cons, List.map_append, List.map_append,
      ih h.of_cons.1 hqueuesRest hrowRest,
      hqueue.addressed (hrowRest e.met List.mem_cons_self)]

/-- Each notice is on a session that was opened. -/
theorem exists_of_mem_queue (h : Interleaving journal c)
    (hqueues : ∀ e ∈ journal, e.did.Queues e.met) {n : Notice} (hn : n ∈ c.queue) :
    ∃ s, journal.Opened s ∧ n ∈ journal.noticesOf s.id := by
  induction journal generalizing c with
  | nil =>
    rw [h.unique .start] at hn
    exact absurd hn List.not_mem_nil
  | cons e rest ih =>
    obtain ⟨hrest, rfl⟩ := h.of_cons
    obtain ⟨hqueue, hqueuesRest⟩ := List.forall_mem_cons.mp hqueues
    rw [hqueue.queue_eq, List.mem_append] at hn
    rcases hn with hn | hn
    · obtain ⟨s, hs, hns⟩ := ih hrest hqueuesRest hn
      refine ⟨s, Journal.opened_cons.mpr (Or.inr hs), ?_⟩
      rw [Journal.noticesOf_cons]
      exact List.mem_append_left _ hns
    · cases hqueue with
      | nothing hsame =>
        rw [Entry.queued, hsame.1, List.drop_length] at hn
        exact absurd hn List.not_mem_nil
      | notice _ _ _ hsubject _ _ _ hread =>
        obtain ⟨r, hr, hsame⟩ := hread
        obtain ⟨s, hs, hid⟩ := hrest.exists_opened hr
        refine ⟨s, Journal.opened_cons.mpr (Or.inr hs), ?_⟩
        rw [Journal.noticesOf_cons, Entry.noticesOf, if_pos]
        · exact List.mem_append_right _ hn
        · rw [hsubject, Option.any_some, beq_iff_eq, hsame.id, hid]

end Interleaving

/-! ## What is told of a session, and when -/

/-- The session of an id is live. -/
def Catalog.Lives (c : Catalog) (id : Nat) : Prop := ∃ s ∈ c.sessions, s.id = id ∧ s.ended = false

/-- The session of an id was opened, and is not live any more. -/
def Catalog.IsOver (c : Catalog) (id : Nat) : Prop := id ≤ c.lastSession ∧ ¬c.Lives id

/-- Something is once if a condition holds, and else never. -/
def OnceIff (count : Nat) (condition : Prop) : Prop :=
  (condition → count = 1) ∧ (¬condition → count = 0)

theorem Topic.InOrder.onceIff {topics : List Topic} {x : Topic} {condition : Prop}
    (h : Topic.InOrder topics) (hx : x ≠ .expiring) (hiff : x ∈ topics ↔ condition) :
    OnceIff (topics.count x) condition := by
  rw [OnceIff, ← hiff, h.count_eq_ite hx]
  exact ⟨fun hmem => if_pos hmem, fun hnot => if_neg hnot⟩

namespace Undisturbed

theorem informs (h : Undisturbed readings journal c) : journal.Informs c :=
  h.interleaving.informs h.prompt

/-- What was read by an announcing stage was told when the stage came to its end. -/
theorem exists_informs (h : Undisturbed readings journal c) (hm : m ∈ readings) :
    m.Consistent ∧ ∃ (before : Journal) (p : Catalog), before.Informs p ∧
      p.sessions = m.sessions.map Session.announce ∧ p.lastSession = m.lastSession ∧
      ∀ id, before.topics id ⊆ journal.topics id := by
  obtain ⟨hconsistent, since, before, p, rfl, hp, hsessions, hlast⟩ := h.exists_announced hm
  refine ⟨hconsistent, before, p, ?_, hsessions, hlast, fun id => ?_⟩
  · exact hp.informs fun e he => h.prompt e (List.mem_append_right since he)
  · rw [Journal.topics_append]
    exact List.subset_append_left _ _

/-- The start of a session is told exactly if an announcing stage has read it while it was live. -/
theorem started_mem_iff (h : Undisturbed readings journal c) (id : Nat) :
    .started ∈ journal.topics id ↔ ∃ m ∈ readings, m.Lives id := by
  constructor
  · intro hmem
    obtain ⟨e, he, htopic⟩ := Journal.mem_topics.mp hmem
    obtain ⟨read, text, now, hdid, hid, htold⟩ := Entry.exists_of_announced htopic (Or.inl rfl)
    obtain ⟨m, hm, hread⟩ := h.exists_reading he hdid
    refine ⟨m, hm, read, hread, hid, eq_false_of_ne_true fun hended => ?_⟩
    rw [if_pos hended] at htold
    exact nomatch htold
  · rintro ⟨m, hm, r, hr, rfl, hlive⟩
    obtain ⟨-, before, p, hinforms, hsessions, -, hsubset⟩ := h.exists_informs hm
    have hrow : r.announce ∈ p.sessions := hsessions ▸ List.mem_map_of_mem hr
    exact hsubset r.id (((hinforms.rows _ hrow).started hlive).mpr rfl)

/-- The end of a session is told exactly if an announcing stage has read a catalog in which it was over. -/
theorem ended_mem_iff (h : Undisturbed readings journal c) (hpos : 0 < id) :
    .ended ∈ journal.topics id ↔ ∃ m ∈ readings, m.IsOver id := by
  constructor
  · intro hmem
    obtain ⟨e, he, htopic⟩ := Journal.mem_topics.mp hmem
    obtain ⟨read, text, now, hdid, rfl, htold⟩ := Entry.exists_of_announced htopic (Or.inr rfl)
    obtain ⟨m, hm, hread⟩ := h.exists_reading he hdid
    have hconsistent := (h.exists_informs hm).1
    refine ⟨m, hm, hconsistent.sessionIds_le read hread, ?_⟩
    rintro ⟨r, hr, hid, hlive⟩
    rw [← hconsistent.session_eq_of_id hr hread hid, hlive, if_neg Bool.false_ne_true] at htold
    exact nomatch htold
  · rintro ⟨m, hm, hle, hnot⟩
    obtain ⟨-, before, p, hinforms, hsessions, hlast, hsubset⟩ := h.exists_informs hm
    refine hsubset id ?_
    by_cases hrow : ∃ r ∈ m.sessions, r.id = id
    · obtain ⟨r, hr, rfl⟩ := hrow
      have hended : r.ended = true := by
        cases hr' : r.ended with
        | true => rfl
        | false => exact absurd ⟨r, hr, rfl, hr'⟩ hnot
      have hrow : r.announce ∈ p.sessions := hsessions ▸ List.mem_map_of_mem hr
      exact (hinforms.rows _ hrow).ended.mpr ⟨hended, rfl⟩
    · -- it was deleted before, and told that it has ended before that
      refine (hinforms.deleted id hpos (hlast ▸ hle) fun s hs hid => hrow ?_).2.1
      rw [hsessions] at hs
      obtain ⟨r, hr, rfl⟩ := List.mem_map.mp hs
      exact ⟨r, hr, hid⟩

end Undisturbed

/-- What the holder of a session was told in an undisturbed run, from its opening to its deletion. -/
structure Session.Notified (readings : List Catalog) (journal : Journal) (c : Catalog)
    (s : Session) : Prop where
  /-- All notices on the session are for its user, and each is about one topic. -/
  addressed : ((journal.noticesOf s.id).map fun n => (n.user, n.title)) =
    (journal.topics s.id).map fun x => (s.user, x.title s.group)
  /-- The start is told once, if an announcing stage has found the session live. -/
  started : OnceIff ((journal.topics s.id).count .started) (∃ m ∈ readings, m.Lives s.id)
  online_le : (journal.topics s.id).count .online ≤ 1
  online_after : ∀ told later, journal.topics s.id = told ++ .online :: later → .started ∈ told
  expiring_le : (journal.topics s.id).count .expiring ≤ 1 + journal.times .extended s.id
  /-- The end is told once, if an announcing stage has run when the session was over. -/
  ended : OnceIff ((journal.topics s.id).count .ended) (∃ m ∈ readings, m.IsOver s.id)
  ended_last : ∀ told later, journal.topics s.id = told ++ .ended :: later → ∀ x ∈ later, x = .offline
  /-- That the servers are off is told once, if the session was deleted. -/
  offline : OnceIff ((journal.topics s.id).count .offline) (∀ r ∈ c.sessions, r.id ≠ s.id)
  offline_last : ∀ told later, journal.topics s.id = told ++ .offline :: later →
    .ended ∈ told ∧ later = []
  deleted : (∀ r ∈ c.sessions, r.id ≠ s.id) →
    .ended ∈ journal.topics s.id ∧ .offline ∈ journal.topics s.id

/-- **The notices of a whole run.** Where each request, each report and each tick comes to its end before
the next one begins, the queue has what was told to the holders of sessions and nothing else, in the order
in which it was told; and of each session that was ever opened, its holder was told in order. -/
theorem notified_of_undisturbed (h : Undisturbed readings journal c) :
    (c.queue = journal.reverse.flatMap Entry.queued ∧
      (c.queue.map Notice.id).Pairwise (· < ·) ∧
      ∀ n ∈ c.queue, ∃ s, journal.Opened s ∧ n ∈ journal.noticesOf s.id) ∧
    ∀ s, journal.Opened s → s.Notified readings journal c := by
  have hqueues : ∀ e ∈ journal, e.did.Queues e.met := fun e he => h.queues he
  obtain ⟨hqueue, hids⟩ := h.interleaving.queue_eq hqueues
  refine ⟨⟨hqueue, ?_, fun n => h.interleaving.exists_of_mem_queue hqueues⟩, fun s hs => ?_⟩
  · rw [hids]
    exact List.pairwise_lt_range'
  · obtain ⟨hpos, hle⟩ := h.interleaving.pos_and_le_of_opened hs
    have hdeleted := h.informs.deleted s.id hpos hle
    have hinOrder : Topic.InOrder (journal.topics s.id) := by
      by_cases hrow : ∃ r ∈ c.sessions, r.id = s.id
      · obtain ⟨r, hr, hid⟩ := hrow
        exact hid ▸ (h.informs.rows r hr).inOrder
      · exact (hdeleted fun r hr hid => hrow ⟨r, hr, hid⟩).1
    have hoffline : .offline ∈ journal.topics s.id ↔ ∀ r ∈ c.sessions, r.id ≠ s.id := by
      refine ⟨fun hmem r hr hid => ?_, fun hgone => (hdeleted hgone).2.2⟩
      have htold := (h.informs.rows r hr).offline.mp (hid ▸ hmem)
      exact Bool.false_ne_true ((h.offTold_eq_false r hr).symm.trans htold)
    exact {
      addressed := h.interleaving.addressed hqueues fun p hp r hr =>
        h.interleaving.sameLease_of_opened hs hp hr
      started := hinOrder.onceIff nofun (h.started_mem_iff s.id)
      online_le := hinOrder.count_le_one nofun
      online_after := fun told later he => (hinOrder told _ later he).2.2
      expiring_le := by
        rw [Journal.count_expiring]
        exact h.interleaving.pays.all .warned s.id
      ended := hinOrder.onceIff nofun (h.ended_mem_iff hpos)
      ended_last := fun told later he => hinOrder.eq_offline_of_ended he
      offline := hinOrder.onceIff nofun hoffline
      offline_last := fun told later he =>
        ⟨(hinOrder told _ later he).2, hinOrder.eq_nil_of_offline he⟩
      deleted := fun hgone => (hdeleted hgone).2 }

/-- A lease from its opening to its deletion, with a tick after each report: the holder is told that it has
started, that its servers are on, that it expires soon, that it has ended, and that its servers are off. -/
theorem notified_of_undisturbed_wholeLease :
    ∃ readings journal c, Undisturbed readings journal c ∧
      journal.topics 1 = [.started, .online, .expiring, .ended, .offline] ∧
      leasedSession.Notified readings journal c := by
  have hleased := (Undisturbed.start.call (.sync [⟨"i-1", "web", "QA", .off⟩] 0) rfl).call
    (.openSession ⟨"digest", "u1", "u1@example.com", "QA", 3600⟩ 0) rfl
  have hstarted := hleased.tick (.ofSeconds 900) 10 (by decide +kernel)
  have honline := (hstarted.call (.sync [⟨"i-1", "web", "QA", .on⟩] 20) rfl).tick
    (.ofSeconds 900) 30 (by decide +kernel)
  have hwarned := honline.tick (.ofSeconds 900) 3000 (by decide +kernel)
  have hended := hwarned.tick (.ofSeconds 900) 4000 (by decide +kernel)
  have hdeleted := (hended.call (.sync [⟨"i-1", "web", "QA", .off⟩] 5000) rfl).tick
    (.ofSeconds 900) 5010 (by decide +kernel)
  exact ⟨_, _, _, hdeleted, by decide +kernel,
    (notified_of_undisturbed hdeleted).2 leasedSession (by decide +kernel)⟩

end PowerLease
