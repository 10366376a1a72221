import PowerLease.Proofs.Interleaving.Announcement

/-!
# What is done to a session, and how often

Each write of the lifecycle tests a flag and takes it away in the same transaction, so it can succeed only
as often as the flag is given. A session is born with each flag once. Its end gives it another
announcement, and an extension another warning.

This is bookkeeping: an act has a *credit* with a session that is there, and a *budget* over the whole
journal. What was done and the credit that is left never exceed the budget (`Journal.Pays`). It does not
matter how many ticks are under way, nor how old the readings are that their writes were decided on.
-/

namespace PowerLease

/-- What can be done to a session. -/
inductive Act where
  | opened
  | extended
  | ended
  | warned
  | announced
  | toldOff
  | toldReady
  | deleted
deriving DecidableEq, Repr

namespace Transaction

/-- What a transaction is meant to do to a session. -/
def act : Transaction → Option Act
  | openSession .. => some .opened
  | extendSession .. => some .extended
  | endSession .. | endByToken .. => some .ended
  | markWarned .. => some .warned
  | markAnnounced .. => some .announced
  | markOff .. => some .toldOff
  | markReady .. => some .toldReady
  | finalize _ => some .deleted
  | sync .. | enqueue .. | purge | deleteNotice _ | setSetting _ | deleteSetting _ => none

/-- The session that a transaction answers to have acted on; nothing, if it is refused. The writes of the
lifecycle know it as it was read. -/
def subject (c : Catalog) : Transaction → Option Session
  | openSession request now => (c.openSession request now).1.toOption
  | extendSession token expiry now => (c.extendSession token expiry now).1.toOption
  | endSession group now => if (c.endSession group now).1 then c.sessionOf group else none
  | endByToken token now => (c.endByToken token now).1.toOption.bind c.sessionOf
  | markWarned read text now => if (c.markWarned read text now).1 then some read else none
  | markAnnounced read text now => if (c.markAnnounced read text now).1 then some read else none
  | markOff read text now => if (c.markOff read text now).1 then some read else none
  | markReady read text now => if (c.markReady read text now).1 then some read else none
  | finalize read => if (c.finalize read).1 then some read else none
  | sync .. | enqueue .. | purge | deleteNotice _ | setSetting _ | deleteSetting _ => none

end Transaction

/-- Whether an entry has done something to the session of an id. -/
def Entry.acts (a : Act) (id : Nat) (e : Entry) : Bool :=
  e.did.act == some a && (e.did.subject e.met).any fun s => s.id == id

/-- How often something was done to the session of an id. -/
def Journal.times (journal : Journal) (a : Act) (id : Nat) : Nat :=
  journal.countP (Entry.acts a id)

variable {journal : Journal} {c : Catalog} {s s' : Session} {t : Transaction} {a : Act} {id : Nat}

theorem Journal.times_cons {e : Entry} :
    times (e :: journal) a id = journal.times a id + if e.acts a id then 1 else 0 :=
  List.countP_cons

/-! ## Who is acted on -/

namespace Transaction

theorem not_exists_subject (h : t.subject c = none) :
    ¬∃ r, t.subject c = some r ∧ r.id = s.id := by
  rw [h]
  exact fun ⟨_, hr, _⟩ => nomatch hr

/-- Of the sessions that are there, a transaction acts on one. -/
theorem exists_subject_iff (hc : c.Consistent) (hs : s ∈ c.sessions) {x r : Session}
    (hx : x ∈ c.sessions) (h : t.subject c = some r) (hid : r.id = x.id) :
    (∃ r, t.subject c = some r ∧ r.id = s.id) ↔ s = x := by
  constructor
  · rintro ⟨r', hr', hid'⟩
    obtain rfl := Option.some.inj (hr'.symm.trans h)
    exact hc.session_eq_of_id hs hx (hid'.symm.trans hid)
  · rintro rfl
    exact ⟨r, h, hid⟩

/-- A session that is opened is given the next id, and with it the last one. -/
theorem ids_of_subject_openSession {request : LeaseRequest} {now : Int} {r : Session}
    (h : (openSession request now).subject c = some r) : r.id = c.lastSession + 1 ∧
      ((openSession request now).run c).lastSession = r.id := by
  rw [subject] at h
  rcases c.openSession_cases request now with ⟨-, hrun⟩ | ⟨-, -, hrun⟩ | ⟨-, -, hrun⟩
  · rw [hrun] at h
    exact nomatch h
  · rw [hrun] at h
    exact nomatch h
  · rw [hrun] at h
    obtain rfl := Option.some.inj h
    exact ⟨rfl, by rw [run, hrun]; rfl⟩

theorem subject_raise_iff (guard : Session → Bool) (flag : Session → Session) {read : Session}
    {text : NoticeText} {now : Int} (hc : c.Consistent) (hs : s ∈ c.sessions)
    (h : t.subject c = if (Catalog.raise guard flag read text now c).1 then some read else none) :
    (∃ r, t.subject c = some r ∧ r.id = s.id) ↔ (s.id == read.id && guard s) = true := by
  rw [Bool.and_eq_true, beq_iff_eq]
  rcases c.raise_cases guard flag read text now with ⟨hmiss, hrun⟩ | ⟨x, hx, hid, hguard, hrun⟩
  · rw [hrun] at h
    refine iff_of_false (not_exists_subject h) fun hhit => ?_
    exact Bool.false_ne_true ((hmiss s hs hhit.1).symm.trans hhit.2)
  · rw [hrun] at h
    rw [exists_subject_iff hc hs hx h hid.symm]
    constructor
    · rintro rfl
      exact ⟨hid, hguard⟩
    · exact fun hhit => hc.session_eq_of_id hs hx (hhit.1.trans hid.symm)

/-- A transaction acts on the session that it hits. -/
theorem subject_iff (hc : c.Consistent) (hs : s ∈ c.sessions) (t : Transaction) :
    (∃ r, t.subject c = some r ∧ r.id = s.id) ↔ t.hits s = true := by
  cases t with
  | openSession request now =>
    refine iff_of_false ?_ Bool.false_ne_true
    rintro ⟨r, hr, hid⟩
    -- the new session has an id that no other has
    have hnew : r.id = c.lastSession + 1 := (ids_of_subject_openSession hr).1
    exact hc.id_ne_of_lt (Nat.lt_succ_self _) s hs (hid.symm.trans hnew)
  | extendSession token expiry now =>
    simp only [hits, Catalog.holds, Bool.and_eq_true, beq_iff_eq, decide_eq_true_eq]
    rcases c.extendSession_cases token expiry now with ⟨hmiss, hrun⟩ | ⟨x, hx, htoken, hnow, hrun⟩
    · refine iff_of_false (not_exists_subject (by rw [subject, hrun]; rfl)) fun h => ?_
      exact absurd (hmiss s hs h.1) (Int.not_le.mpr h.2)
    · have hsubject : (extendSession token expiry now).subject c = some (x.extend expiry) := by
        rw [subject, hrun]
        rfl
      rw [exists_subject_iff hc hs hx hsubject rfl]
      constructor
      · rintro rfl
        exact ⟨htoken, hnow⟩
      · exact fun h => hc.session_eq_of_token hs hx h.1 htoken
  | endSession group now =>
    simp only [hits, Bool.and_eq_true, beq_iff_eq, Bool.not_eq_true']
    rcases c.endSession_cases group now with ⟨hmiss, hrun⟩ | ⟨x, hx, rfl, hlive, hrun⟩
    · refine iff_of_false (not_exists_subject (by rw [subject, hrun]; rfl)) fun h => ?_
      exact Bool.false_ne_true (h.2.symm.trans (hmiss s hs h.1))
    · have hsubject : (endSession x.group now).subject c = some x := by
        rw [subject, hrun, if_pos rfl, hc.sessionOf_group hx]
      rw [exists_subject_iff hc hs hx hsubject rfl]
      constructor
      · rintro rfl
        exact ⟨rfl, hlive⟩
      · exact fun h => hc.session_eq_of_group hs hx h.1
  | endByToken token now =>
    simp only [hits, Catalog.holds, Bool.and_eq_true, beq_iff_eq, Bool.not_eq_true']
    rcases c.endByToken_cases token now with ⟨hmiss, hrun⟩ | ⟨x, hx, htoken, hlive, hrun⟩
    · refine iff_of_false (not_exists_subject (by rw [subject, hrun]; rfl)) fun h => ?_
      exact Bool.false_ne_true (h.2.symm.trans (hmiss s hs h.1))
    · have hsubject : (endByToken token now).subject c = some x := by
        rw [subject, hrun]
        exact hc.sessionOf_group hx
      rw [exists_subject_iff hc hs hx hsubject rfl]
      constructor
      · rintro rfl
        exact ⟨htoken, hlive⟩
      · exact fun h => hc.session_eq_of_token hs hx h.1 htoken
  | markWarned => exact subject_raise_iff (fun s => !s.warned && !s.ended) Session.warn hc hs rfl
  | markAnnounced => exact subject_raise_iff (fun s => s.unannounced) Session.announce hc hs rfl
  | markOff => exact subject_raise_iff (fun s => s.ended && !s.offTold) Session.tellOff hc hs rfl
  | markReady =>
    exact subject_raise_iff (fun s => !s.ended && !s.readyTold) Session.tellReady hc hs rfl
  | finalize read =>
    simp only [hits, Bool.and_eq_true, beq_iff_eq, and_assoc]
    rcases c.finalize_cases read with ⟨hmiss, hrun⟩ | ⟨x, hx, hid, hended, htold, hrun⟩
    · refine iff_of_false (not_exists_subject (by rw [subject, hrun]; rfl)) fun h => ?_
      exact Bool.false_ne_true ((hmiss s hs h.1 h.2.1).symm.trans h.2.2)
    · have hsubject : (finalize read).subject c = some read := by
        rw [subject, hrun]
        rfl
      rw [exists_subject_iff hc hs hx hsubject hid.symm]
      constructor
      · rintro rfl
        exact ⟨hid, hended, htold⟩
      · exact fun h => hc.session_eq_of_id hs hx (h.1.trans hid.symm)
  | sync | enqueue | purge | deleteNotice | setSetting | deleteSetting =>
    exact iff_of_false (not_exists_subject rfl) Bool.false_ne_true

/-- A transaction acts on a session that is there, or opens one. -/
theorem exists_of_subject {r : Session} (h : t.subject c = some r) :
    (∃ s ∈ c.sessions, s.id = r.id) ∨
      t.act = some .opened ∧ r.id = c.lastSession + 1 ∧ (t.run c).lastSession = r.id := by
  cases t with
  | openSession request now => exact Or.inr ⟨rfl, ids_of_subject_openSession h⟩
  | extendSession token expiry now =>
    rcases c.extendSession_cases token expiry now with ⟨-, hrun⟩ | ⟨x, hx, -, -, hrun⟩
    · rw [subject, hrun] at h
      exact nomatch h
    · rw [subject, hrun] at h
      obtain rfl := Option.some.inj h
      exact Or.inl ⟨x, hx, rfl⟩
  | endSession group now =>
    rw [subject] at h
    split at h
    next => exact Or.inl ⟨r, (Catalog.sessionOf_eq_some h).1, rfl⟩
    next => exact nomatch h
  | endByToken token now =>
    obtain ⟨group, -, hr⟩ := Option.bind_eq_some_iff.mp h
    exact Or.inl ⟨r, (Catalog.sessionOf_eq_some hr).1, rfl⟩
  | markWarned | markAnnounced | markOff | markReady =>
    rw [subject] at h
    split at h
    next hdone =>
      obtain rfl := Option.some.inj h
      obtain ⟨s, hs, hid, -⟩ := Catalog.raise_eq_true_iff.mp hdone
      exact Or.inl ⟨s, hs, hid⟩
    next => exact nomatch h
  | finalize read =>
    rw [subject] at h
    split at h
    next hdone =>
      obtain rfl := Option.some.inj h
      exact Or.inl (Catalog.exists_of_finalize hdone)
    next => exact nomatch h
  | sync | enqueue | purge | deleteNotice | setSetting | deleteSetting => exact nomatch h

end Transaction

namespace Entry

theorem acts_eq (hc : c.Consistent) (hs : s ∈ c.sessions) :
    Entry.acts a s.id ⟨c, t⟩ = (t.act == some a && t.hits s) := by
  rw [acts, Bool.eq_iff_iff, Bool.and_eq_true, Bool.and_eq_true, ← t.subject_iff hc hs]
  simp only [Option.any_eq_true, beq_iff_eq]

theorem acts_of_missed (hc : c.Consistent) (hs : s ∈ c.sessions) (hmiss : t.hits s = false) :
    Entry.acts a s.id ⟨c, t⟩ = false := by
  rw [acts_eq hc hs, hmiss, Bool.and_false]

theorem acts_of_hits {b : Act} (hc : c.Consistent) (hs : s ∈ c.sessions) (hhit : t.hits s = true)
    (hact : t.act = some b) : Entry.acts a s.id ⟨c, t⟩ = decide (b = a) := by
  rw [acts_eq hc hs, hhit, hact, Bool.and_true, Bool.eq_iff_iff, beq_iff_eq, decide_eq_true_iff,
    Option.some_inj]

/-- What is not done to a session that is there, is done to the one that is opened. -/
theorem acts_of_gone (hgone : ∀ s ∈ c.sessions, s.id ≠ id)
    (h : Entry.acts a id ⟨c, t⟩ = true) :
    a = .opened ∧ id = c.lastSession + 1 ∧ (t.run c).lastSession = id := by
  simp only [acts, Bool.and_eq_true, beq_iff_eq, Option.any_eq_true] at h
  obtain ⟨hact, r, hr, rfl⟩ := h
  rcases Transaction.exists_of_subject hr with ⟨s, hs, hid⟩ | ⟨hopened, hid, hlast⟩
  · exact absurd hid (hgone s hs)
  · exact ⟨Option.some.inj (hact.symm.trans hopened), hid, hlast⟩

end Entry

/-! ## Credits and budgets -/

/-- How often something can still be done to a session, if nothing is done that gives it more credit. -/
def Act.credit (s : Session) : Act → Nat
  | opened | extended => 0
  | ended => (!s.ended).toNat
  | warned => (!s.warned).toNat
  | announced => s.unannounced.toNat
  | toldOff => (!s.offTold).toNat
  | toldReady => (!s.readyTold).toNat
  | deleted => 1

/-- How often something can have been done to the session of an id. A session can be extended at will. -/
def Act.budget (journal : Journal) (id : Nat) : Act → Nat
  | opened | ended | toldOff | toldReady | deleted => 1
  | extended => journal.times .extended id
  | warned => 1 + journal.times .extended id
  | announced => 1 + journal.times .ended id

/-- What an act adds to the budget of another. -/
def Act.gain : Act → Act → Nat
  | extended, extended | extended, warned | ended, announced => 1
  | _, _ => 0

/-- What was done to the sessions is paid for. -/
structure Journal.Pays (journal : Journal) (c : Catalog) : Prop where
  rows : ∀ s ∈ c.sessions, ∀ a, journal.times a s.id + a.credit s ≤ a.budget journal s.id
  all : ∀ a id, journal.times a id ≤ a.budget journal id
  unused : ∀ a id, c.lastSession < id → journal.times a id = 0

namespace Transaction

theorem exists_act_of_hits (hhit : t.hits s = true) : ∃ a, t.act = some a := by
  cases t with
  | sync | enqueue | purge | deleteNotice | setSetting | deleteSetting =>
    exact absurd hhit Bool.false_ne_true
  | _ => exact ⟨_, rfl⟩

/-- An act takes its own credit. The end of a session gives another announcement, and its extension
another warning. -/
theorem credit_change {b : Act} (hhit : t.hits s = true) (h : t.change s = some s')
    (hact : t.act = some b) (a : Act) :
    a.credit s' + (if b = a then 1 else 0) ≤ a.credit s + b.gain a := by
  cases t with
  | extendSession =>
    obtain rfl := Option.some.inj h
    obtain rfl := Option.some.inj hact
    cases a <;> simp [Act.credit, Act.gain, Session.extend]
  | endSession | endByToken =>
    obtain rfl := Option.some.inj h
    obtain rfl := Option.some.inj hact
    have hlive : s.ended = false := by simp_all [hits]
    cases a <;> simp [Act.credit, Act.gain, Session.end, hlive]
  | markWarned =>
    obtain rfl := Option.some.inj h
    obtain rfl := Option.some.inj hact
    have hwarned : s.warned = false := by simp_all [hits]
    cases a <;> simp [Act.credit, Act.gain, Session.warn, hwarned]
  | markAnnounced =>
    obtain rfl := Option.some.inj h
    obtain rfl := Option.some.inj hact
    have hdue : s.unannounced = true := by simp_all [hits]
    cases a <;> simp [Act.credit, Act.gain, Session.announce, hdue]
  | markOff =>
    obtain rfl := Option.some.inj h
    obtain rfl := Option.some.inj hact
    have hnot : s.offTold = false := by simp_all [hits]
    cases a <;> simp [Act.credit, Act.gain, Session.tellOff, hnot]
  | markReady =>
    obtain rfl := Option.some.inj h
    obtain rfl := Option.some.inj hact
    have hnot : s.readyTold = false := by simp_all [hits]
    cases a <;> simp [Act.credit, Act.gain, Session.tellReady, hnot]
  | finalize => cases h
  | sync | openSession | enqueue | purge | deleteNotice | setSetting | deleteSetting =>
    exact absurd hhit Bool.false_ne_true

end Transaction

theorem Act.budget_le_cons (e : Entry) :
    a.budget journal id ≤ a.budget (e :: journal) id := by
  cases a <;> simp only [budget, Journal.times_cons] <;> omega

namespace Journal

/-- An act that was done adds to the budgets what it gains for them. -/
theorem budget_cons_of_hits {b : Act} (hc : c.Consistent) (hs : s ∈ c.sessions)
    (hhit : t.hits s = true) (hact : t.act = some b) (a : Act) :
    a.budget (⟨c, t⟩ :: journal) s.id = a.budget journal s.id + b.gain a := by
  have hacts : ∀ a, Entry.acts a s.id ⟨c, t⟩ = decide (b = a) := fun a =>
    Entry.acts_of_hits hc hs hhit hact
  cases a <;> cases b <;> simp [Act.budget, Act.gain, times_cons, hacts] <;> omega

/-- What a transaction does to a session that stays is paid for. -/
theorem pays_of_change (hc : c.Consistent) (hs : s ∈ c.sessions) (hhit : t.hits s = true)
    (h : t.change s = some s')
    (hpays : ∀ a, journal.times a s.id + a.credit s ≤ a.budget journal s.id) (a : Act) :
    times (⟨c, t⟩ :: journal) a s.id + a.credit s' ≤ a.budget (⟨c, t⟩ :: journal) s.id := by
  obtain ⟨b, hact⟩ := Transaction.exists_act_of_hits hhit
  have hcredit := Transaction.credit_change hhit h hact a
  have hbefore := hpays a
  rw [times_cons, Entry.acts_of_hits hc hs hhit hact, budget_cons_of_hits hc hs hhit hact]
  simp only [decide_eq_true_eq]
  omega

theorem pays_of_missed (hc : c.Consistent) (hs : s ∈ c.sessions) (hmiss : t.hits s = false)
    (hpays : ∀ a, journal.times a s.id + a.credit s ≤ a.budget journal s.id) (a : Act) :
    times (⟨c, t⟩ :: journal) a s.id + a.credit s ≤ a.budget (⟨c, t⟩ :: journal) s.id := by
  rw [times_cons, Entry.acts_of_missed hc hs hmiss]
  exact Nat.le_trans (hpays a) (Act.budget_le_cons _)

end Journal

theorem Act.credit_le_one (s : Session) (a : Act) : a.credit s ≤ 1 := by
  cases a <;> simp only [credit, Bool.toNat_le] <;> omega

/-- Every budget but that of extensions, for which there is no credit, has room for one. -/
theorem Act.credit_le_budget (journal : Journal) (s : Session) (a : Act) :
    a.credit s ≤ a.budget journal id := by
  have hle := a.credit_le_one s
  cases a <;> simp only [budget, credit] at hle ⊢ <;> omega

namespace Journal.Pays

/-- A session that is opened has all its credit, for nothing was done to it yet. -/
theorem opened (h : journal.Pays c) (hc : c.Consistent) {request : LeaseRequest} {now : Int}
    (a : Act) :
    times (⟨c, .openSession request now⟩ :: journal) a (c.lastSession + 1) +
      a.credit (request.session (c.lastSession + 1)) ≤
      a.budget (⟨c, .openSession request now⟩ :: journal) (c.lastSession + 1) := by
  have hnever := h.unused a (c.lastSession + 1) (Nat.lt_succ_self _)
  have hgone := hc.id_ne_of_lt (Nat.lt_succ_self c.lastSession)
  rw [times_cons, hnever, Nat.zero_add]
  split
  next hacts =>
    obtain ⟨rfl, -, -⟩ := Entry.acts_of_gone hgone hacts
    exact Nat.le_refl 1
  next =>
    rw [Nat.zero_add]
    exact Act.credit_le_budget _ _ a

theorem rows_run (h : journal.Pays c) (hc : c.Consistent) :
    ∀ s' ∈ (t.run c).sessions, ∀ a, times (⟨c, t⟩ :: journal) a s'.id + a.credit s' ≤
      a.budget (⟨c, t⟩ :: journal) s'.id := by
  intro s' hs' a
  rcases Transaction.mem_sessions_run.mp hs' with ⟨s, hs, hstep⟩ | hopened
  · have hid : s'.id = s.id := (Transaction.makes_of_onSession hstep).sameLease.id.symm
    rw [hid]
    unfold Transaction.onSession at hstep
    split at hstep
    next hhit => exact pays_of_change hc hs hhit hstep (h.rows s hs) a
    next hmiss =>
      obtain rfl := Option.some.inj hstep
      exact pays_of_missed hc hs (Bool.not_eq_true _ ▸ hmiss) (h.rows s hs) a
  · obtain ⟨request, now, rfl, rfl⟩ := Transaction.eq_of_mem_opens hopened
    exact h.opened hc a

theorem all_run (h : journal.Pays c) (hc : c.Consistent) (a : Act) (id : Nat) :
    times (⟨c, t⟩ :: journal) a id ≤ a.budget (⟨c, t⟩ :: journal) id := by
  by_cases hrow : ∃ s ∈ c.sessions, s.id = id
  · obtain ⟨s, hs, rfl⟩ := hrow
    cases hhit : t.hits s with
    | false => exact Nat.le_of_add_right_le (pays_of_missed hc hs hhit (h.rows s hs) a)
    | true =>
      cases hchange : t.change s with
      | some s' => exact Nat.le_of_add_right_le (pays_of_change hc hs hhit hchange (h.rows s hs) a)
      | none =>
        -- the one deletion of a session is paid from its last credit
        obtain ⟨read, rfl⟩ : ∃ read, t = .finalize read := by
          cases t with
          | finalize read => exact ⟨read, rfl⟩
          | _ => exact nomatch hchange
        have hpaid := h.rows s hs a
        have hle : a.budget journal s.id ≤ a.budget (⟨c, .finalize read⟩ :: journal) s.id :=
          Act.budget_le_cons _
        rw [times_cons, Entry.acts_of_hits hc hs hhit rfl]
        by_cases ha : Act.deleted = a
        · subst ha
          rw [decide_eq_true rfl, if_pos rfl]
          exact Nat.le_trans hpaid hle
        · rw [decide_eq_false ha, if_neg Bool.false_ne_true]
          omega
  · have hgone : ∀ s ∈ c.sessions, s.id ≠ id := fun s hs hid => hrow ⟨s, hs, hid⟩
    rw [times_cons]
    split
    next hacts =>
      obtain ⟨rfl, rfl, -⟩ := Entry.acts_of_gone hgone hacts
      rw [h.unused _ _ (Nat.lt_succ_self _)]
      exact Nat.le_refl 1
    next => exact Nat.le_trans (h.all a id) (Act.budget_le_cons _)

theorem unused_run (h : journal.Pays c) (hc : c.Consistent) (a : Act) (id : Nat)
    (hid : (t.run c).lastSession < id) : times (⟨c, t⟩ :: journal) a id = 0 := by
  have hlt : c.lastSession < id :=
    Nat.lt_of_le_of_lt (Catalog.follows_run c t).lastSession_le hid
  have hgone := hc.id_ne_of_lt hlt
  rw [times_cons, h.unused a id hlt, Nat.zero_add]
  refine if_neg fun hacts => ?_
  obtain ⟨-, -, hlast⟩ := Entry.acts_of_gone hgone hacts
  exact absurd hid (Nat.not_lt.mpr (Nat.le_of_eq hlast.symm))

end Journal.Pays

/-- **At any time, what was done to the sessions is paid for.** -/
theorem Interleaving.pays (h : Interleaving journal c) : journal.Pays c := by
  induction journal generalizing c with
  | nil =>
    rw [h.unique .start]
    exact ⟨fun s hs => absurd hs List.not_mem_nil, fun _ _ => Nat.zero_le _, fun _ _ _ => rfl⟩
  | cons e rest ih =>
    obtain ⟨c, t⟩ := e
    obtain ⟨hrest, rfl⟩ := h.of_cons
    have hpays := ih hrest
    exact ⟨hpays.rows_run hrest.consistent, hpays.all_run hrest.consistent,
      hpays.unused_run hrest.consistent⟩

/-! ## Writes on a session that was read -/

namespace Transaction

/-- The session that a write of the lifecycle looks up by its id, as it was read. The end of an expired
session is not among them: it is looked up by its group. -/
def reading : Transaction → Option Session
  | markWarned read .. | markAnnounced read .. | markOff read .. | markReady read ..
  | finalize read => some read
  | sync .. | openSession .. | extendSession .. | endSession .. | endByToken .. | enqueue .. | purge
  | deleteNotice _ | setSetting _ | deleteSetting _ => none

variable {read : Session}

theorem answer_raise (guard : Session → Bool) (flag : Session → Session) {text : NoticeText}
    {now : Int} (hact : t.act = some a) (ha : a ≠ .deleted)
    (h : t.subject c = if (Catalog.raise guard flag read text now c).1 then some read else none)
    (hrun : t.run c = (Catalog.raise guard flag read text now c).2) :
    (t.subject c = some read ∧ ∃ notices : List Notice,
      (t.run c).queue = c.queue ++ notices ∧ (∀ n ∈ notices, n.user = read.user) ∧
      notices.length = if t.act = some .deleted then 0 else 1) ∨
    t.subject c = none ∧ t.run c = c := by
  rcases c.raise_cases guard flag read text now with ⟨-, he⟩ | ⟨_, -, -, -, he⟩
  · rw [he] at h hrun
    exact Or.inr ⟨h, hrun⟩
  · rw [he] at h hrun
    refine Or.inl ⟨h, [⟨c.lastNotice + 1, read.user, text.title, text.message, now⟩], ?_, ?_, ?_⟩
    · rw [hrun]
      rfl
    · exact List.forall_mem_singleton.mpr rfl
    · rw [hact, if_neg fun he => ha (Option.some.inj he)]
      rfl

/-- A write of the lifecycle acts on the session that was read and queues one notice for its user, or
none if it deletes the session. If it is refused, nothing is changed. -/
theorem answer_of_reading (h : t.reading = some read) :
    (t.subject c = some read ∧ ∃ notices : List Notice,
      (t.run c).queue = c.queue ++ notices ∧ (∀ n ∈ notices, n.user = read.user) ∧
      notices.length = if t.act = some .deleted then 0 else 1) ∨
    t.subject c = none ∧ t.run c = c := by
  cases t with
  | markWarned =>
    obtain rfl := Option.some.inj h
    exact answer_raise (fun s => !s.warned && !s.ended) Session.warn rfl (by decide) rfl rfl
  | markAnnounced =>
    obtain rfl := Option.some.inj h
    exact answer_raise (fun s => s.unannounced) Session.announce rfl (by decide) rfl rfl
  | markOff =>
    obtain rfl := Option.some.inj h
    exact answer_raise (fun s => s.ended && !s.offTold) Session.tellOff rfl (by decide) rfl rfl
  | markReady =>
    obtain rfl := Option.some.inj h
    exact answer_raise (fun s => !s.ended && !s.readyTold) Session.tellReady rfl (by decide) rfl rfl
  | finalize r =>
    obtain rfl := Option.some.inj h
    rw [subject, run]
    rcases c.finalize_cases r with ⟨-, hrun⟩ | ⟨_, -, -, -, -, hrun⟩
    · rw [hrun]
      exact Or.inr ⟨rfl, rfl⟩
    · rw [hrun]
      exact Or.inl ⟨rfl, [], (List.append_nil _).symm, fun _ hn => absurd hn List.not_mem_nil, rfl⟩
  | sync | openSession | extendSession | endSession | endByToken | enqueue | purge | deleteNotice
  | setSetting | deleteSetting => cases h

theorem exists_of_reading (h : t.reading = some read) (hsubject : t.subject c = some read) :
    ∃ s ∈ c.sessions, s.id = read.id := by
  rcases exists_of_subject hsubject with hrow | ⟨hopened, -⟩
  · exact hrow
  · cases t with
    | openSession => exact nomatch h
    | _ => exact nomatch hopened

end Transaction

theorem Lifecycle.Decides.mem_of_reading {p : Catalog} {read : Session} (h : Decides p t)
    (hread : t.reading = some read) : read ∈ p.sessions := by
  cases h with
  | expire => exact nomatch hread
  | warn hs =>
    obtain rfl := Option.some.inj hread
    exact (List.mem_filter.mp ((List.mergeSort_perm _ _).mem_iff.mp hs)).1
  | announce hs | tellOff hs | delete hs | tellReady hs =>
    obtain rfl := Option.some.inj hread
    exact List.mem_of_mem_filter hs

/-- Where the group of a session that was read has another session by now, the write is refused. -/
theorem Interleaving.subject_eq_none {p : Catalog} {read : Session}
    (h : Interleaving (⟨c, t⟩ :: journal) p) (hread : t.reading = some read) (hs : s ∈ c.sessions)
    (hgroup : s.group = read.group) (hid : s.id ≠ read.id) : t.subject c = none := by
  obtain ⟨hc, -⟩ := h.of_cons
  have hlifecycle : t.byOthers = false := by
    cases t with
    | markWarned | markAnnounced | markOff | markReady | finalize | endSession => rfl
    | _ => exact nomatch hread
  obtain ⟨since, before, q, rfl, hq, hdecides⟩ := h.exists_reading hlifecycle
  rcases Transaction.answer_of_reading (c := c) hread with ⟨hsubject, -⟩ | ⟨hnone, -⟩
  · -- the session that was read would still be there, and be the one of its group
    obtain ⟨x, hx, hxid⟩ := Transaction.exists_of_reading hread hsubject
    have hsince := hq.session_since (hdecides.mem_of_reading hread) hc hx hxid
    have hxs := hc.consistent.session_eq_of_group hs hx (hgroup.trans hsince.sameLease.group)
    exact absurd (hxs ▸ hxid) hid
  · exact hnone

/-- **However ticks overlap, nobody is told anything twice.** Of each session, that its servers are on or
off is told once, its start and its end are announced once each, and a warning is given once and once more
for each extension; it is deleted once. Each write that succeeds queues one notice, the deletion none;
each write that is refused changes nothing. So does each write on a session whose group has another session
by then. -/
theorem told_once (h : Interleaving journal c) :
    (∀ id, journal.times .toldReady id ≤ 1 ∧ journal.times .toldOff id ≤ 1 ∧
      journal.times .announced id ≤ 1 + journal.times .ended id ∧ journal.times .ended id ≤ 1 ∧
      journal.times .warned id ≤ 1 + journal.times .extended id ∧
      journal.times .deleted id ≤ 1) ∧
    ∀ e ∈ journal, ∀ read, e.did.reading = some read →
      ((e.did.subject e.met = some read ∧ ∃ notices : List Notice,
          (e.did.run e.met).queue = e.met.queue ++ notices ∧ (∀ n ∈ notices, n.user = read.user) ∧
          notices.length = if e.did.act = some .deleted then 0 else 1) ∨
        e.did.subject e.met = none ∧ e.did.run e.met = e.met) ∧
      ∀ s ∈ e.met.sessions, s.group = read.group → s.id ≠ read.id →
        e.did.subject e.met = none ∧ e.did.run e.met = e.met := by
  have hall := h.pays.all
  refine ⟨fun id => ⟨hall .toldReady id, hall .toldOff id, hall .announced id, hall .ended id,
    hall .warned id, hall .deleted id⟩, fun e he read hread => ?_⟩
  have hanswer := Transaction.answer_of_reading (c := e.met) hread
  refine ⟨hanswer, fun s hs hgroup hid => ?_⟩
  obtain ⟨-, before, -, -, hled⟩ := h.exists_before he
  have hnone := hled.subject_eq_none hread hs hgroup hid
  rcases hanswer with ⟨hsome, -⟩ | hrefused
  · rw [hnone] at hsome
    exact nomatch hsome
  · exact hrefused

/-- Two ticks have read a lease as one to be announced, and both have written. -/
def announcedTwice : Journal :=
  let first := (Transaction.sync [⟨"i-1", "web", "QA", .off⟩] 0).run .empty
  [⟨(Transaction.markAnnounced leasedSession startNotice 10).run leased,
      .markAnnounced leasedSession startNotice 20⟩,
    ⟨leased, .markAnnounced leasedSession startNotice 10⟩,
    ⟨first, .openSession ⟨"digest", "u1", "u1@example.com", "QA", 3600⟩ 0⟩,
    ⟨.empty, .sync [⟨"i-1", "web", "QA", .off⟩] 0⟩]

/-- The second of them is refused, and the lease is announced once. -/
theorem told_once_announcedTwice :
    announcedTwice.times .announced 1 ≤ 1 + announcedTwice.times .ended 1 ∧
      announcedTwice.times .announced 1 = 1 ∧ announcedTwice.times .ended 1 = 0 := by
  have hleased : Interleaving _ leased := .others _ (.others _ .start rfl) rfl
  have hdecides : Lifecycle.Decides leased (.markAnnounced leasedSession startNotice 10) :=
    .announce (by decide) (by decide)
  have hfirst := hleased.lifecycle _ List.mem_cons_self hdecides
  have hsecond := hfirst.lifecycle (.markAnnounced leasedSession startNotice 20)
    (List.mem_cons_of_mem _ List.mem_cons_self) (.announce (by decide) (by decide))
  have honce : announcedTwice.times .announced 1 ≤ 1 + announcedTwice.times .ended 1 :=
    ((told_once hsecond).1 1).2.2.1
  exact ⟨honce, by decide, by decide⟩

end PowerLease
