import PowerLease.Proofs.Interleaving.Journal

/-!
# Announcing after an earlier reading

The start and the end of a session share one flag, and the write that announces tests this flag only.
Which of the two is announced was decided on the session as it was read. So a start that was read before
the end and is written after it takes the place of the announcement of the end, which is not made up for
(`endAnnounced_iff`).

That is the only way in which the wrong one is announced (`said_ended_iff`).
-/

namespace PowerLease

/-! ## Announcements -/

namespace Lifecycle

variable {s r : Session} {text : NoticeText}

/-- The announcement that a session has ended. -/
def endNotice (s : Session) : NoticeText :=
  { title := s!"Server group {s.group} session ended"
    message := s!"Session for server group {s.group} has ended; servers are shutting down" }

theorem endNotice_congr (h : s.group = r.group) : endNotice s = endNotice r := by
  rw [endNotice, endNotice, h]

/-- An announcement says that the session has ended exactly if it had when it was read. -/
theorem eq_endNotice_iff (h : announcement? s = some text) : text = endNotice s ↔ s.ended = true := by
  unfold announcement? at h
  split at h
  next hended => exact iff_of_true (Option.some.inj h).symm hended
  next hlive =>
    obtain ⟨time, -, rfl⟩ := Option.map_eq_some_iff.mp h
    refine iff_of_false (fun he => ?_) hlive
    have htitle := congrArg NoticeText.title he
    simp [endNotice, String.append_assoc, toString] at htitle

end Lifecycle

/-- An entry announces a session, which it meets as `s`. -/
def Entry.Announces (e : Entry) (s : Session) (text : NoticeText) : Prop :=
  s ∈ e.met.sessions ∧ s.unannounced = true ∧
    ∃ read now, e.did = .markAnnounced read text now ∧ s.id = read.id

/-- The session of an id was announced, as something and with a text of some kind. -/
def Journal.Announced (journal : Journal) (id : Nat) (kind : Session → NoticeText → Prop) : Prop :=
  ∃ e ∈ journal, ∃ s text, e.Announces s text ∧ s.id = id ∧ kind s text

/-- It was announced that the session of an id has ended. -/
abbrev Journal.EndAnnounced (journal : Journal) (id : Nat) : Prop :=
  journal.Announced id fun s text => text = Lifecycle.endNotice s

/-- Something else was announced of the session of an id, after it had ended. -/
abbrev Journal.StartAnnouncedLate (journal : Journal) (id : Nat) : Prop :=
  journal.Announced id fun s text => s.ended = true ∧ text ≠ Lifecycle.endNotice s

variable {journal before since : Journal} {e : Entry} {p c : Catalog} {s s' : Session} {id : Nat}
  {text : NoticeText} {kind : Session → NoticeText → Prop} {t : Transaction} {now : Int}

/-! ## What a transaction more announces -/

namespace Journal

theorem announced_cons : Announced (e :: journal) id kind ↔
    (∃ s text, e.Announces s text ∧ s.id = id ∧ kind s text) ∨ journal.Announced id kind := by
  simp only [Announced, List.exists_mem_cons_iff]

/-- A transaction that announces another session or none is of no account. -/
theorem announced_cons_of_other (h : ∀ s text, e.Announces s text → s.id ≠ id) :
    Announced (e :: journal) id kind ↔ journal.Announced id kind := by
  rw [announced_cons, or_iff_right]
  rintro ⟨s, text, hannounces, hid, -⟩
  exact h s text hannounces hid

/-- A transaction that announces a session with one text. -/
theorem announced_cons_of_announces
    (h : ∀ r text', e.Announces r text' ∧ r.id = s.id ↔ r = s ∧ text' = text)
    (hno : ¬journal.Announced s.id kind) : Announced (e :: journal) s.id kind ↔ kind s text := by
  rw [announced_cons, or_iff_left hno]
  simp only [← and_assoc, h]
  simp

end Journal

namespace Interleaving

/-- An announcement says that a session has ended only if it has. -/
theorem ended_of_endNotice (h : Interleaving (e :: journal) c) (hannounces : e.Announces s text)
    (htext : text = Lifecycle.endNotice s) : s.ended = true := by
  obtain ⟨hs, -, read, now, hdid, hid⟩ := hannounces
  obtain ⟨d, t⟩ := e
  obtain rfl : t = .markAnnounced read text now := hdid
  obtain ⟨since, before, p, rfl, hp, hdecides⟩ := h.exists_reading rfl
  cases hdecides with
  | announce hread hworded =>
    have hsince := hp.session_since (List.mem_of_mem_filter hread) h.of_cons.1 hs hid
    have hgroup : Lifecycle.endNotice s = Lifecycle.endNotice read :=
      Lifecycle.endNotice_congr hsince.sameLease.group.symm
    exact hsince.ended ((Lifecycle.eq_endNotice_iff hworded).mp (htext.trans hgroup))

/-- Nothing was announced of a session that is not opened yet. -/
theorem id_le_of_announces (h : Interleaving journal c) (he : e ∈ journal)
    (hannounces : e.Announces s text) : s.id ≤ c.lastSession := by
  have hmet : e.met ∈ c :: journal.map Entry.met :=
    List.mem_cons_of_mem c (List.mem_map_of_mem he)
  obtain ⟨hconsistent, hfollows⟩ := h.history.consistent_and_follows e.met hmet
  exact Nat.le_trans (hconsistent.sessionIds_le s hannounces.1) hfollows.lastSession_le

end Interleaving

/-! ## What was announced of a session -/

/-- The announcements of a session fit its flags. As long as one is due, there was none of its end; after
that there was one, of its end or of its start. -/
structure Journal.Tells (journal : Journal) (s : Session) : Prop where
  due : s.ended = false ∨ s.unannounced = true →
    ¬journal.EndAnnounced s.id ∧ ¬journal.StartAnnouncedLate s.id
  told : s.ended = true → s.unannounced = false →
    (journal.EndAnnounced s.id ↔ ¬journal.StartAnnouncedLate s.id)

namespace Journal.Tells

theorem of_none (h : ∀ e ∈ journal, ∀ r text, Entry.Announces e r text → r.id ≠ s.id)
    (hlive : s.ended = false) : journal.Tells s := by
  refine ⟨fun _ => ⟨?_, ?_⟩, fun hended => absurd (hlive.symm.trans hended) Bool.false_ne_true⟩
  · rintro ⟨e, he, r, text, hannounces, hid, -⟩
    exact h e he r text hannounces hid
  · rintro ⟨e, he, r, text, hannounces, hid, -⟩
    exact h e he r text hannounces hid

theorem cons_of_other (h : journal.Tells s) (hother : ∀ r text, e.Announces r text → r.id ≠ s.id) :
    Tells (e :: journal) s := by
  have hend : EndAnnounced (e :: journal) s.id ↔ journal.EndAnnounced s.id :=
    announced_cons_of_other hother
  have hlate : StartAnnouncedLate (e :: journal) s.id ↔ journal.StartAnnouncedLate s.id :=
    announced_cons_of_other hother
  refine ⟨?_, ?_⟩
  · rw [hend, hlate]
    exact h.due
  · rw [hend, hlate]
    exact h.told

/-- An announcement of a session settles what was announced of it. -/
theorem cons_announce (h : journal.Tells s) (hdue : s.unannounced = true)
    (honly : ∀ r text', e.Announces r text' ∧ r.id = s.id ↔ r = s ∧ text' = text)
    (htext : text = Lifecycle.endNotice s → s.ended = true) : Tells (e :: journal) s.announce := by
  obtain ⟨hnoend, hnolate⟩ := h.due (Or.inr hdue)
  have hend : EndAnnounced (e :: journal) s.id ↔ text = Lifecycle.endNotice s :=
    announced_cons_of_announces honly hnoend
  have hlate : StartAnnouncedLate (e :: journal) s.id ↔
      s.ended = true ∧ text ≠ Lifecycle.endNotice s := announced_cons_of_announces honly hnolate
  refine ⟨?_, fun hended _ => ?_⟩
  · rintro (hlive | hdue')
    · have hnot : ¬s.ended = true := fun hended => Bool.false_ne_true (hlive.symm.trans hended)
      exact ⟨fun h => hnot (htext (hend.mp h)), fun h => hnot (hlate.mp h).1⟩
    · exact absurd hdue' Bool.false_ne_true
  · refine hend.trans ⟨fun he hlate' => (hlate.mp hlate').2 he, fun hnot => ?_⟩
    by_contra hne
    exact hnot (hlate.mpr ⟨hended, hne⟩)

end Journal.Tells

namespace Interleaving

/-- The announcements keep fitting the flags of a session that stays. -/
theorem tells_of_makes (h : Interleaving (⟨c, t⟩ :: journal) p) (hs : s ∈ c.sessions)
    (hmakes : Transaction.Makes s t s') (htells : journal.Tells s) :
    Journal.Tells (⟨c, t⟩ :: journal) s' := by
  have hsame : ∀ r text, Entry.Announces ⟨c, t⟩ r text → r.id = s.id → r = s :=
    fun r _ hr hid => h.of_cons.1.consistent.session_eq_of_id hr.1 hs hid
  by_cases hannounces : ∃ text, Entry.Announces ⟨c, t⟩ s text
  · obtain ⟨text, hannounces⟩ := hannounces
    obtain ⟨-, hdue, read, now, hdid, hid⟩ := id hannounces
    obtain rfl : t = .markAnnounced read text now := hdid
    have honly : ∀ r text', Entry.Announces ⟨c, .markAnnounced read text now⟩ r text' ∧
        r.id = s.id ↔ r = s ∧ text' = text := by
      intro r text'
      constructor
      · rintro ⟨hr, hrid⟩
        obtain ⟨-, -, _, _, hdid', -⟩ := id hr
        exact ⟨hsame r text' hr hrid, (Transaction.markAnnounced.inj hdid').2.1.symm⟩
      · rintro ⟨rfl, rfl⟩
        exact ⟨hannounces, rfl⟩
    cases hmakes with
    | announced => exact htells.cons_announce hdue honly (h.ended_of_endNotice hannounces)
    | same hmiss => simp [Transaction.hits, hid, hdue] at hmiss
    | ended hends => exact absurd hends Bool.false_ne_true
  · have hother : ∀ r text, Entry.Announces ⟨c, t⟩ r text → r.id ≠ s.id := by
      intro r text hr hid
      exact hannounces ⟨text, hsame r text hr hid ▸ hr⟩
    have hstays := htells.cons_of_other hother
    cases hmakes with
    | ended _ hlive =>
      obtain ⟨hnoend, hnolate⟩ := hstays.due (Or.inl hlive)
      exact ⟨fun _ => ⟨hnoend, hnolate⟩, fun _ hdone => absurd hdone.symm Bool.false_ne_true⟩
    | announced hid hdue => exact absurd ⟨_, hs, hdue, _, _, rfl, hid⟩ hannounces
    | same | extended | warned | toldOff | toldReady => exact ⟨hstays.due, hstays.told⟩

/-- **At any time the announcements of each session fit its flags.** -/
theorem tells (h : Interleaving journal c) : ∀ s ∈ c.sessions, journal.Tells s := by
  induction journal generalizing c with
  | nil =>
    rw [h.unique .start]
    exact fun s hs => absurd hs List.not_mem_nil
  | cons e rest ih =>
    obtain ⟨hrest, rfl⟩ := h.of_cons
    intro s' hs'
    rcases Transaction.mem_sessions_run.mp hs' with ⟨s, hs, hstep⟩ | hopened
    · exact tells_of_makes h hs (Transaction.makes_of_onSession hstep) (ih hrest s hs)
    · obtain ⟨request, now, hdid, rfl⟩ := Transaction.eq_of_mem_opens hopened
      refine .of_none (fun e' he' r text hannounces => ?_) rfl
      -- a session that was announced was there before this one was opened
      have hle : r.id ≤ e.met.lastSession := by
        rcases List.mem_cons.mp he' with rfl | he'
        · exact hrest.consistent.sessionIds_le r hannounces.1
        · exact hrest.id_le_of_announces he' hannounces
      exact Nat.ne_of_lt (Nat.lt_succ_of_le hle)

end Interleaving

/-! ## Announcements of a session that was read -/

namespace Interleaving

/-- An announcement that is still due is made. -/
theorem markAnnounced_of_byOthers (hp : Interleaving before p) (hs : s ∈ p.sessionsToAnnounce)
    (hc : Interleaving (since ++ before) c) (hothers : ∀ e ∈ since, e.did.byOthers = true)
    (text : NoticeText) (now : Int) : (c.markAnnounced s text now).1 = true := by
  obtain ⟨hmem, hdue⟩ := List.mem_filter.mp hs
  obtain ⟨s', hs', huntold⟩ := hp.exists_untold hmem hc hothers
  exact Catalog.raise_eq_true_iff.mpr ⟨s', hs', huntold.id, huntold.unannounced hdue⟩

/-- An announcement is wrong where the session was live when it was read and was ended since. -/
theorem said_ended_iff (hp : Interleaving before p) (hs : s ∈ p.sessions)
    (htext : Lifecycle.announcement? s = some text) (hc : Interleaving (since ++ before) c)
    (hs' : s' ∈ c.sessions) (hid : s'.id = s.id) :
    (text = Lifecycle.endNotice s ↔ s'.ended = true) ↔
      ¬(s.ended = false ∧ ∃ e ∈ since, e.did.ends s = true) := by
  have hsince := hp.session_since hs hc hs' hid
  rw [Lifecycle.eq_endNotice_iff htext]
  cases hended : s.ended with
  | true => simp [hsince.ended hended]
  | false => simp [← hsince.ended_iff hended]

/-- A session that a cleanup deletes has been announced for good. -/
theorem endAnnounced_iff (hp : Interleaving before p) (hs : s ∈ p.sessionsToClean)
    (hc : Interleaving (since ++ before) c) (hdeleted : (c.finalize s).1 = true) :
    Journal.EndAnnounced (since ++ before) s.id ↔
      ¬Journal.StartAnnouncedLate (since ++ before) s.id := by
  obtain ⟨hmem, hended, hdone, -⟩ := Catalog.mem_sessionsToClean.mp hs
  obtain ⟨s', hs', hid⟩ := Catalog.exists_of_finalize hdeleted
  have hsince := hp.session_since hmem hc hs' hid
  rw [← hid]
  exact (hc.tells s' hs').told (hsince.ended hended) (hsince.announced hended hdone)

end Interleaving

/-- **An announcement is wrong exactly if the session was ended after it was read as live**, and a
session that is deleted was announced as ended exactly if no announcement of its start came after its
end. -/
theorem announced_as_ended_iff (hp : Interleaving before p) (hc : Interleaving (since ++ before) c)
    (now : Int) :
    (∀ s ∈ p.sessionsToAnnounce, ∀ text, Lifecycle.announcement? s = some text →
      ((∀ e ∈ since, e.did.byOthers = true) → (c.markAnnounced s text now).1 = true) ∧
      ((c.markAnnounced s text now).1 = true →
        (c.markAnnounced s text now).2.queue =
          c.queue ++ [⟨c.lastNotice + 1, s.user, text.title, text.message, now⟩] ∧
        ∃ s' ∈ c.sessions, s'.id = s.id ∧
          ((text = Lifecycle.endNotice s ↔ s'.ended = true) ↔
            ¬(s.ended = false ∧ ∃ e ∈ since, e.did.ends s = true)))) ∧
    ∀ s ∈ p.sessionsToClean, (c.finalize s).1 = true →
      (Journal.EndAnnounced (since ++ before) s.id ↔
        ¬Journal.StartAnnouncedLate (since ++ before) s.id) := by
  refine ⟨fun s hs text htext => ⟨fun hothers => ?_, fun hdone => ⟨?_, ?_⟩⟩, fun s hs hdeleted => ?_⟩
  · exact hp.markAnnounced_of_byOthers hs hc hothers text now
  · exact Catalog.queue_raise hdone
  · obtain ⟨s', hs', hid, -⟩ := Catalog.raise_eq_true_iff.mp hdone
    exact ⟨s', hs', hid, hp.said_ended_iff (List.mem_of_mem_filter hs) htext hc hs' hid⟩
  · exact hp.endAnnounced_iff hs hc hdeleted

/-- Extended in between, a lease is announced as what it is. -/
theorem announced_as_ended_iff_extended : ∃ text,
    Lifecycle.announcement? leasedSession = some text ∧
    (((Transaction.extendSession "digest" 7200 10).run leased).markAnnounced leasedSession text
      20).1 = true ∧
    ∃ s' ∈ ((Transaction.extendSession "digest" 7200 10).run leased).sessions,
      s'.id = 1 ∧ (text = Lifecycle.endNotice leasedSession ↔ s'.ended = true) := by
  obtain ⟨before, hp⟩ := interleaving_leased
  obtain ⟨text, htext⟩ : ∃ text, Lifecycle.announcement? leasedSession = some text :=
    Option.isSome_iff_exists.mp (by decide)
  have hc : Interleaving ([⟨leased, .extendSession "digest" 7200 10⟩] ++ before)
      ((Transaction.extendSession "digest" 7200 10).run leased) := .others _ hp rfl
  obtain ⟨hdue, hright⟩ :=
    (announced_as_ended_iff hp hc 20).1 leasedSession (by decide) text htext
  have hdone := hdue (List.forall_mem_singleton.mpr rfl)
  obtain ⟨-, s', hs', hid, hiff⟩ := hright hdone
  refine ⟨text, htext, hdone, s', hs', hid, hiff.mpr ?_⟩
  rintro ⟨-, e, he, hends⟩
  rw [List.mem_singleton.mp he] at hends
  exact Bool.false_ne_true hends

/-- The announcement of the start of this lease. -/
def startNotice : NoticeText :=
  ⟨"Server group QA session started",
    "Session for server group QA has started and expires at 1970-01-01T01:00:00Z"⟩

/-- The lease was ended after it was read, and then announced as started. -/
def startedLate : Catalog :=
  (Transaction.markAnnounced leasedSession startNotice 20).run <|
    (Transaction.endByToken "digest" 10).run leased

/-- Its session, as it is now. -/
def startedLateSession : Session := leasedSession.end.announce

theorem interleaving_startedLate : ∃ before, Interleaving before startedLate ∧
    before.StartAnnouncedLate 1 := by
  obtain ⟨before, hp⟩ := interleaving_leased
  have hc : Interleaving (⟨leased, .endByToken "digest" 10⟩ :: before)
      ((Transaction.endByToken "digest" 10).run leased) := .others _ hp rfl
  refine ⟨_, .lifecycle _ hc (List.mem_cons_of_mem _ List.mem_cons_self)
    (.announce (s := leasedSession) ?_ ?_), _, List.mem_cons_self, leasedSession.end, startNotice,
    ⟨?_, rfl, leasedSession, 20, rfl, rfl⟩, rfl, rfl, ?_⟩
  all_goals decide

/-- Ended in between, it is announced as started, and deleted without an announcement of its end. -/
theorem not_announced_as_ended :
    (¬∀ (before since : Journal) (p c : Catalog) (s : Session) (text : NoticeText) (now : Int),
      Interleaving before p → s ∈ p.sessionsToAnnounce →
      Lifecycle.announcement? s = some text → Interleaving (since ++ before) c →
      (∀ e ∈ since, e.did.byOthers = true) → (c.markAnnounced s text now).1 = true →
      ∀ s' ∈ c.sessions, s'.id = s.id → (text = Lifecycle.endNotice s ↔ s'.ended = true)) ∧
    ¬∀ (journal : Journal) (c : Catalog) (s : Session), Interleaving journal c →
      s ∈ c.sessionsToClean → (c.finalize s).1 = true → journal.EndAnnounced s.id := by
  constructor
  · intro h
    obtain ⟨before, hp⟩ := interleaving_leased
    have hc : Interleaving ([⟨leased, .endByToken "digest" 10⟩] ++ before)
        ((Transaction.endByToken "digest" 10).run leased) := .others _ hp rfl
    have hiff := h before _ leased _ leasedSession startNotice 20 hp (by decide) (by decide) hc
      (List.forall_mem_singleton.mpr rfl) (by decide) leasedSession.end (by decide) rfl
    exact absurd (hiff.mpr rfl) (by decide)
  · intro h
    obtain ⟨before, hp, hlate⟩ := interleaving_startedLate
    have hc : Interleaving (⟨startedLate, .markOff startedLateSession
        (Lifecycle.offNotice startedLateSession) 30⟩ :: before)
        ((Transaction.markOff startedLateSession (Lifecycle.offNotice startedLateSession) 30).run
          startedLate) :=
      .lifecycle _ hp List.mem_cons_self (.tellOff (by decide))
    have hend := h _ _ startedLateSession.tellOff hc (by decide) (by decide)
    rw [Journal.EndAnnounced, Journal.announced_cons_of_other] at hend
    · exact ((hp.tells startedLateSession (by decide)).told rfl rfl).mp hend hlate
    · rintro _ _ ⟨-, -, _, _, hdid, -⟩
      exact nomatch hdid

end PowerLease
