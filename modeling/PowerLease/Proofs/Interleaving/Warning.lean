import PowerLease.Proofs.Interleaving.Journal
import PowerLease.Proofs.Lifecycle.Outcome

/-!
# Warning after an earlier reading

A tick reads which sessions are about to expire, and warns their holders afterwards, once each. The write
tests that the holder was not warned yet. An extension takes the warning back, so that the holder is
warned again when the new expiry is near. Hence a session that is extended between reading and writing
passes the test: its holder is warned of the old expiry, and not of the new one any more.

`warned_of_expiry_iff` says when this happens. A live session that counts as warned was last warned while
it had the expiry that it has, and of that expiry exactly if no other one was granted between the reading
and the warning (`Journal.LastWarned`).
-/

namespace PowerLease

/-! ## Warnings -/

/-- A warning that a holder was given. -/
structure Warning where
  /-- The expiry that the session had. -/
  held : Int
  /-- The expiry that the holder was warned of. -/
  named : Int
deriving DecidableEq, Repr

/-- The warning that an entry gives the holder of a session, if it gives one. -/
def Entry.warning (id : Nat) (e : Entry) : Option Warning :=
  match e.did with
  | .markWarned read _ _ =>
    if read.id = id then
      (e.met.sessions.find? e.did.hits).map fun s => { held := s.expiry, named := read.expiry }
    else none
  | _ => none

/-- The last warning of a session. -/
def Journal.lastWarning (journal : Journal) (id : Nat) : Option Warning :=
  journal.findSome? (Entry.warning id)

variable {journal before since : Journal} {p c : Catalog} {r s s' : Session} {t : Transaction}
  {text : NoticeText} {window : Duration} {now : Int}

theorem Journal.lastWarning_cons {e : Entry} {id : Nat} :
    lastWarning (e :: journal) id = (e.warning id).or (journal.lastWarning id) :=
  findSome?_cons_eq_or ..

theorem Entry.warning_of_hits (hc : c.Consistent) (hs : s ∈ c.sessions)
    (hhits : (Transaction.markWarned r text now).hits s = true) :
    Entry.warning s.id ⟨c, .markWarned r text now⟩ = some ⟨s.expiry, r.expiry⟩ := by
  have hid : ∀ x, (Transaction.markWarned r text now).hits x = true → x.id = r.id := by
    intro x hx
    exact beq_iff_eq.mp (Bool.and_eq_true_iff.mp hx).1
  have hfind : c.sessions.find? (Transaction.markWarned r text now).hits = some s := by
    cases hf : c.sessions.find? (Transaction.markWarned r text now).hits with
    | none => exact absurd hhits (List.find?_eq_none.mp hf s hs)
    | some x =>
      have hx := hid x (List.find?_some hf)
      rw [hc.session_eq_of_id (List.mem_of_find?_eq_some hf) hs (hx.trans (hid s hhits).symm)]
  simp only [Entry.warning, if_pos (hid s hhits).symm, hfind, Option.map_some]

theorem Entry.warning_of_missed (hc : c.Consistent) (hs : s ∈ c.sessions)
    (hmissed : t.hits s = false) : Entry.warning s.id ⟨c, t⟩ = none := by
  cases t with
  | markWarned read text now =>
    simp only [Entry.warning]
    split
    next hid =>
      rw [Option.map_eq_none_iff, List.find?_eq_none]
      intro x hx hhits
      have hxid : x.id = read.id := beq_iff_eq.mp (Bool.and_eq_true_iff.mp hhits).1
      rw [hc.session_eq_of_id hx hs (hxid.trans hid), hmissed] at hhits
      exact Bool.false_ne_true hhits
    next => rfl
  | _ => rfl

/-- A session that counts as warned, and its last warning. The session had the expiry that it has. It was
read before with the expiry that the warning names, and this is the same one exactly if no other was
granted in between. -/
def Journal.LastWarned (journal : Journal) (s : Session) : Prop :=
  ∃ r between earlier q d text now, Interleaving earlier q ∧ r ∈ q.activeSessions ∧
    ⟨d, .markWarned r text now⟩ :: (between ++ earlier) <:+ journal ∧
    journal.lastWarning s.id = some ⟨s.expiry, r.expiry⟩ ∧
    (s.expiry = r.expiry ↔
      ∀ expiry, Journal.lastGrant between r.token = some expiry → expiry = r.expiry)

theorem Journal.LastWarned.cons {e : Entry} (h : journal.LastWarned s)
    (hnone : e.warning s.id = none) : LastWarned (e :: journal) s := by
  obtain ⟨r, between, earlier, q, d, text, now, hq, hr, hsuffix, hlast, hiff⟩ := h
  refine ⟨r, between, earlier, q, d, text, now, hq, hr, hsuffix.trans (List.suffix_cons e _), ?_,
    hiff⟩
  rwa [lastWarning_cons, hnone, Option.none_or]

namespace Interleaving

/-- A live session has the expiry that was read, unless another one was granted since. -/
theorem expiry_eq_iff (hp : Interleaving before p) (hs : s ∈ p.sessions)
    (hc : Interleaving (since ++ before) c) (hs' : s' ∈ c.sessions) (hid : s'.id = s.id)
    (hlive : s'.ended = false) :
    s'.expiry = s.expiry ↔
      ∀ expiry, since.lastGrant s.token = some expiry → expiry = s.expiry := by
  rw [(hp.session_since hs hc hs' hid).expiry hlive]
  cases since.lastGrant s.token <;> simp

/-- A warning leaves its session warned last by it. -/
theorem lastWarned_of_markWarned (h : Interleaving (⟨c, .markWarned r text now⟩ :: journal) p)
    (hs : s ∈ c.sessions) (hid : s.id = r.id) (hwarned : s.warned = false)
    (hlive : s.ended = false) :
    Journal.LastWarned (⟨c, .markWarned r text now⟩ :: journal) s.warn := by
  obtain ⟨hc, -⟩ := h.of_cons
  have hhits : (Transaction.markWarned r text now).hits s = true := by
    simp [Transaction.hits, hid, hwarned, hlive]
  have hgiven := Entry.warning_of_hits hc.consistent hs hhits
  obtain ⟨between, earlier, q, rfl, hq, hdecides⟩ := h.exists_reading rfl
  cases hdecides with
  | warn hr =>
    have hnamed := hq.expiry_eq_iff (Lifecycle.mem_activeSessions.mp hr).1 hc hs hid hlive
    refine ⟨r, between, earlier, q, c, text, now, hq, hr, List.suffix_rfl, ?_, hnamed⟩
    rw [Journal.lastWarning_cons]
    exact congrArg (Option.or · _) hgiven

/-- **At any time, the last warning of a live session that counts as warned is known.** -/
theorem lastWarned (h : Interleaving journal c) :
    ∀ s ∈ c.sessions, s.ended = false → s.warned = true → journal.LastWarned s := by
  induction journal generalizing c with
  | nil =>
    rw [h.unique .start]
    exact fun s hs => absurd hs List.not_mem_nil
  | cons e rest ih =>
    obtain ⟨d, t⟩ := e
    obtain ⟨hrest, rfl⟩ := h.of_cons
    intro s' hs' hlive hwarned
    rcases Transaction.mem_sessions_run.mp hs' with ⟨s, hs, hstep⟩ | hopened
    · cases Transaction.makes_of_onSession hstep with
      | warned hid hnot hfirst => exact h.lastWarned_of_markWarned hs hid hnot hfirst
      | same hmissed =>
        exact (ih hrest _ hs hlive hwarned).cons
          (Entry.warning_of_missed hrest.consistent hs hmissed)
      | extended => exact absurd hwarned Bool.false_ne_true
      | ended => exact absurd hlive.symm Bool.false_ne_true
      | announced | toldOff | toldReady => exact (ih hrest s hs hlive hwarned).cons rfl
    · obtain ⟨request, now, -, rfl⟩ := Transaction.eq_of_mem_opens hopened
      exact absurd hwarned Bool.false_ne_true

/-- A warning that only others came before is given, unless the session was ended. -/
theorem markWarned_iff (hp : Interleaving before p) (hs : s ∈ p.activeSessions)
    (hwarned : s.warned = false) (hc : Interleaving (since ++ before) c)
    (hothers : ∀ e ∈ since, e.did.byOthers = true) (text : NoticeText) (now : Int) :
    (c.markWarned s text now).1 = true ↔ ¬∃ e ∈ since, e.did.ends s = true := by
  obtain ⟨hmem, hlive⟩ := Lifecycle.mem_activeSessions.mp hs
  obtain ⟨s', hs', huntold⟩ := hp.exists_untold hmem hc hothers
  have hended := (hp.session_since hmem hc hs' huntold.id).ended_iff hlive
  rw [← hended, Bool.not_eq_true]
  refine Catalog.raise_eq_true_iff.trans ⟨?_, fun hlive' => ?_⟩
  · rintro ⟨r, hr, hid, hguard⟩
    rw [← hc.consistent.session_eq_of_id hr hs' (hid.trans huntold.id.symm)]
    simp only [Bool.and_eq_true, Bool.not_eq_true'] at hguard
    exact hguard.2
  · refine ⟨s', hs', huntold.id, ?_⟩
    simp [huntold.warned hwarned, hlive']

/-- A live session is still about to expire as it was read, unless another expiry was granted since. -/
theorem aging_iff (hp : Interleaving before p) (hs : s ∈ p.sessions)
    (haging : Lifecycle.isAging window now s = true) (hc : Interleaving (since ++ before) c)
    (hs' : s' ∈ c.sessions) (hid : s'.id = s.id) (hlive : s'.ended = false) :
    (s'.expiry < Lifecycle.threshold window now ∧ s'.expiry = s.expiry) ↔
      ∀ expiry, since.lastGrant s.token = some expiry → expiry = s.expiry := by
  rw [← hp.expiry_eq_iff hs hc hs' hid hlive, and_iff_right_iff_imp]
  intro he
  rw [he]
  exact (Lifecycle.isAging_iff.mp haging).2.1

end Interleaving

/-- **A holder is warned of an expiry that is not the current one exactly if another one was granted after
the session was read.** The same is known of the last warning of each live session that counts as
warned. -/
theorem warned_of_expiry_iff (hp : Interleaving before p) (hc : Interleaving (since ++ before) c) :
    (∀ s ∈ p.activeSessions, Lifecycle.isAging window now s = true →
      ∀ text, Lifecycle.warning? s = some text →
      ((∀ e ∈ since, e.did.byOthers = true) →
        ((c.markWarned s text now).1 = true ↔ ¬∃ e ∈ since, e.did.ends s = true)) ∧
      ((c.markWarned s text now).1 = true →
        (c.markWarned s text now).2.queue =
          c.queue ++ [⟨c.lastNotice + 1, s.user, text.title, text.message, now⟩] ∧
        ∃ s' ∈ c.sessions, s'.id = s.id ∧
          Entry.warning s.id ⟨c, .markWarned s text now⟩ = some ⟨s'.expiry, s.expiry⟩ ∧
          ((s'.expiry < Lifecycle.threshold window now ∧ s'.expiry = s.expiry) ↔
            ∀ expiry, since.lastGrant s.token = some expiry → expiry = s.expiry))) ∧
    ∀ s ∈ c.sessions, s.ended = false → s.warned = true →
      Journal.LastWarned (since ++ before) s := by
  refine ⟨fun s hs haging text _ => ⟨fun hothers => ?_, fun hdone => ⟨?_, ?_⟩⟩, hc.lastWarned⟩
  · exact hp.markWarned_iff hs (Lifecycle.isAging_iff.mp haging).2.2 hc hothers text now
  · exact Catalog.queue_raise hdone
  · obtain ⟨s', hs', hid, hguard⟩ := Catalog.raise_eq_true_iff.mp hdone
    have hhits : (Transaction.markWarned s text now).hits s' = true :=
      Bool.and_eq_true_iff.mpr ⟨beq_iff_eq.mpr hid, hguard⟩
    have hgiven := Entry.warning_of_hits hc.consistent hs' hhits
    rw [hid] at hgiven
    simp only [Bool.and_eq_true, Bool.not_eq_true'] at hguard
    have hmem := (Lifecycle.mem_activeSessions.mp hs).1
    exact ⟨s', hs', hid, hgiven, hp.aging_iff hmem haging hc hs' hid hguard.2⟩

/-- The lease, read as about to expire. -/
theorem leasedSession_aging : leasedSession ∈ leased.activeSessions ∧
    Lifecycle.isAging (.ofSeconds 600) 3100 leasedSession = true :=
  ⟨Lifecycle.mem_activeSessions.mpr ⟨by decide, rfl⟩, by decide⟩

/-- The warning of the holder of this lease. -/
def agingNotice : NoticeText :=
  ⟨"Server group QA expiring soon", "Session for server group QA expires at 1970-01-01T01:00:00Z"⟩

/-- Extended to what it was, the lease is still about to expire. -/
theorem warned_of_expiry_iff_sameExpiry :
    (((Transaction.extendSession "digest" 3600 3050).run leased).markWarned leasedSession
      agingNotice 3100).1 = true ∧
    ∃ s' ∈ ((Transaction.extendSession "digest" 3600 3050).run leased).sessions,
      s'.id = 1 ∧ s'.expiry < Lifecycle.threshold (.ofSeconds 600) 3100 ∧ s'.expiry = 3600 := by
  obtain ⟨before, hp⟩ := interleaving_leased
  have hc : Interleaving ([⟨leased, .extendSession "digest" 3600 3050⟩] ++ before)
      ((Transaction.extendSession "digest" 3600 3050).run leased) := .others _ hp rfl
  obtain ⟨hs, haging⟩ := leasedSession_aging
  obtain ⟨hdue, hright⟩ :=
    (warned_of_expiry_iff hp hc).1 leasedSession hs haging agingNotice (by decide)
  have hdone := (hdue (List.forall_mem_singleton.mpr rfl)).mpr (by simp [Transaction.ends])
  obtain ⟨-, s', hs', hid, -, hiff⟩ := hright hdone
  refine ⟨hdone, s', hs', hid, hiff.mpr fun expiry hgrant => ?_⟩
  have hlast : Journal.lastGrant [⟨leased, .extendSession "digest" 3600 3050⟩]
      leasedSession.token = some 3600 := by decide
  exact (Option.some.inj (hlast.symm.trans hgrant)).symm

/-- Extended by far, the lease counts as warned, and its holder was told the old expiry. -/
theorem not_warned_of_expiry :
    (¬∀ (before since : Journal) (p c : Catalog) (s : Session) (text : NoticeText)
      (window : Duration) (now : Int), Interleaving before p → s ∈ p.activeSessions →
      Lifecycle.isAging window now s = true → Lifecycle.warning? s = some text →
      Interleaving (since ++ before) c → (∀ e ∈ since, e.did.byOthers = true) →
      (c.markWarned s text now).1 = true → ∀ s' ∈ c.sessions, s'.id = s.id →
        s'.expiry < Lifecycle.threshold window now ∧ s'.expiry = s.expiry) ∧
    ¬∀ (journal : Journal) (c : Catalog), Interleaving journal c → ∀ s ∈ c.sessions,
      s.ended = false → s.warned = true →
        ∃ w, journal.lastWarning s.id = some w ∧ w.named = s.expiry := by
  obtain ⟨before, hp⟩ := interleaving_leased
  obtain ⟨hs, haging⟩ := leasedSession_aging
  have hc : Interleaving ([⟨leased, .extendSession "digest" 90000 3050⟩] ++ before)
      ((Transaction.extendSession "digest" 90000 3050).run leased) := .others _ hp rfl
  constructor
  · intro h
    have hexpiry := h before _ leased _ leasedSession agingNotice _ 3100 hp hs haging (by decide) hc
      (List.forall_mem_singleton.mpr rfl) (by decide) (leasedSession.extend 90000) (by decide) rfl
    exact absurd hexpiry.2 (by decide)
  · intro h
    have hc' := hc.lifecycle (.markWarned leasedSession agingNotice 3100)
      (List.mem_cons_of_mem _ List.mem_cons_self) (.warn hs haging (by decide))
    obtain ⟨w, hlast, hnamed⟩ := h _ _ hc' (leasedSession.extend 90000).warn (by decide) rfl rfl
    have hgiven : Entry.warning (leasedSession.extend 90000).warn.id
        ⟨(Transaction.extendSession "digest" 90000 3050).run leased,
          .markWarned leasedSession agingNotice 3100⟩ = some ⟨90000, 3600⟩ := by decide
    rw [Journal.lastWarning_cons, hgiven, Option.some_or] at hlast
    rw [← Option.some.inj hlast] at hnamed
    exact absurd hnamed (by decide)

end PowerLease
