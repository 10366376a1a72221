import PowerLease.Proofs.Interleaving.Journal
import PowerLease.Proofs.Lifecycle.Outcome

/-!
# Cleaning up after an earlier reading

A tick reads which ended sessions have all their servers off, and then tells their holders and deletes
them. Whether the servers are still off is not looked at again. The deletion is guarded by the flags of
the session alone, and these say only that its holder was told.

So a report that is taken over in between may show a server on, or bring a running one into the group,
and the session is deleted nevertheless. `off_when_cleaned_iff` says when this happens: exactly when the
last report since the reading does not show the whole group off.
-/

namespace PowerLease

/-! ## Reports since a reading -/

/-- The last report that was taken over. -/
def Journal.lastReport (since : Journal) : Option (List Instance) :=
  since.findSome? fun e => e.did.report?

theorem Journal.lastReport_cons {e : Entry} {since : Journal} :
    lastReport (e :: since) = e.did.report?.or since.lastReport :=
  findSome?_cons_eq_or ..

/-- Whether the last records of a report show all instances of a group off. -/
def ReportsOff (group : String) (report : List Instance) : Prop :=
  ∀ i ∈ report, lastOf i.id report = some i → i.group = group → i.state = .off

variable {before since : Journal} {p c : Catalog} {s s' : Session} {group : String} {now : Int}

theorem Catalog.allSeen_sync (hn : (c.servers.map Server.id).Nodup) (report : List Instance) :
    (c.sync report now).2.allSeen group .off = true ↔ ReportsOff group report := by
  simp only [allSeen_iff_shown, mem_shown_sync hn]
  constructor
  · exact fun h i _ hlast => h i hlast
  · exact fun h i hlast => h i (List.mem_reverse.mp (List.mem_of_find?_eq_some hlast)) hlast

/-- A transaction that takes over no report leaves what is seen of the servers. -/
theorem Catalog.allSeen_run {t : Transaction} (ht : t.report? = none) :
    (t.run c).allSeen group .off = c.allSeen group .off := by
  have hshown : (t.run c).servers.map Server.shown = c.servers.map Server.shown := by
    refine shown_run t fun report now he => ?_
    rw [he] at ht
    exact nomatch ht
  rw [Bool.eq_iff_iff, allSeen_iff_shown, allSeen_iff_shown, hshown]

/-- A group that was read as off is off exactly as long as the last report says so. -/
theorem Interleaving.allSeen_iff_lastReport (hp : Interleaving before p)
    (hoff : p.allSeen group .off = true) (hc : Interleaving (since ++ before) c) :
    c.allSeen group .off = true ↔
      ∀ report, since.lastReport = some report → ReportsOff group report := by
  refine since_induct (P := fun since d => d.allSeen group .off = true ↔
    ∀ report, since.lastReport = some report → ReportsOff group report)
    hp (iff_of_true hoff nofun) (fun since d t hd ih => ?_) hc
  rw [Journal.lastReport_cons]
  cases ht : t.report? with
  | none => rw [Catalog.allSeen_run ht, ih, Option.none_or]
  | some report =>
    obtain ⟨now, rfl⟩ := Transaction.eq_sync_of_report? ht
    simp only [Option.some_or, Option.some.injEq, forall_eq']
    exact Catalog.allSeen_sync hd.consistent.serverIds report

/-! ## The two writes of a cleanup -/

namespace Catalog

theorem Consistent.allSeen_of_sessionsToClean (h : c.Consistent) (hs : s ∈ c.sessionsToClean) :
    c.allSeen s.group .off = true := by
  obtain ⟨hmem, hended, -, hsettled⟩ := mem_sessionsToClean.mp hs
  have htarget : s.target = .off := by rw [Session.target, hended, if_pos rfl]
  rwa [h.isSettled_eq hmem htarget] at hsettled

/-- The session of an id and a group, ended, and with its holder told or not. -/
theorem exists_told_markOff (hs' : s' ∈ c.sessions) (hid : s'.id = s.id) (hended : s'.ended = true)
    (text : NoticeText) (now : Int) :
    ∃ r ∈ (c.markOff s text now).2.sessions,
      r.id = s.id ∧ r.group = s'.group ∧ r.ended = true ∧ r.offTold = true := by
  have hmem : ∀ r, (Transaction.markOff s text now).onSession s' = some r →
      r ∈ (c.markOff s text now).2.sessions := fun r hr =>
    (Transaction.mem_sessions_run (t := .markOff s text now)).mpr (Or.inl ⟨s', hs', hr⟩)
  cases htold : s'.offTold with
  | true => exact ⟨s', hmem s' (by simp [Transaction.onSession, Transaction.hits, htold]), hid, rfl,
      hended, htold⟩
  | false => exact ⟨s'.tellOff, hmem s'.tellOff
      (by simp [Transaction.onSession, Transaction.hits, Transaction.change, hid, hended, htold]),
      hid, rfl, hended, rfl⟩

/-- The deletion of a session leaves its group without a session, and nothing wanted of it. -/
theorem Consistent.finalize_of_told (h : c.Consistent) (hs' : s' ∈ c.sessions) (hid : s'.id = s.id)
    (hgroup : s'.group = s.group) (hended : s'.ended = true) (htold : s'.offTold = true) :
    (c.finalize s).1 = true ∧ (∀ r ∈ (c.finalize s).2.sessions, r.group ≠ s.group) ∧
      ∀ v ∈ (c.finalize s).2.servers, v.group = s.group → v.target = none := by
  rcases c.finalize_cases s with ⟨hmiss, -⟩ | ⟨_, -, -, -, -, hrun⟩
  · rw [hmiss s' hs' hid hended] at htold
    exact Bool.noConfusion htold
  · rw [hrun]
    refine ⟨rfl, fun r hr hrgroup => ?_, fun v hv hvgroup => ?_⟩
    · obtain ⟨hmem, hkept⟩ := List.mem_filter.mp hr
      rw [h.session_eq_of_group hmem hs' (hrgroup.trans hgroup.symm)] at hkept
      simp [hid, hended, htold] at hkept
    · obtain ⟨w, -, rfl⟩ := mem_updateGroup.mp hv
      split at hvgroup
      next hw => rw [if_pos hw]
      next hw => exact absurd hvgroup hw

end Catalog

namespace Lifecycle

/-- The catalog that a cleanup deletes from: the holder is told, unless the session that was read had
been told. -/
def told (now : Int) (s : Session) (c : Catalog) : Catalog :=
  if s.offTold then c else (c.markOff s (offNotice s) now).2

theorem clean_eq (now : Int) (s : Session) (c : Catalog) :
    (clean now { catalog := c } s).catalog = ((told now s c).finalize s).2 ∧
      ((clean now { catalog := c } s).report.cleaned = 1 ↔
        ((told now s c).finalize s).1 = true) := by
  cases htold : s.offTold with
  | true =>
    simp only [clean, told, htold, if_true, Progress.write, Bool.false_eq_true, if_false]
    cases (c.finalize s).1 <;> simp
  | false =>
    simp only [clean, told, htold, Progress.write, Bool.false_eq_true, if_false]
    cases (c.markOff s (offNotice s) now).1 <;>
      cases ((c.markOff s (offNotice s) now).2.finalize s).1 <;> simp

theorem consistent_told (hc : c.Consistent) : (told now s c).Consistent := by
  unfold told
  split
  · exact hc
  · exact hc.run (.markOff s (offNotice s) now) nofun

theorem exists_told (hs' : s' ∈ c.sessions) (hid : s'.id = s.id) (hended : s'.ended = true)
    (htold : s.offTold = true → s'.offTold = true) (now : Int) :
    ∃ r ∈ (told now s c).sessions,
      r.id = s.id ∧ r.group = s'.group ∧ r.ended = true ∧ r.offTold = true := by
  unfold told
  split
  next h => exact ⟨s', hs', hid, rfl, hended, htold h⟩
  next => exact Catalog.exists_told_markOff hs' hid hended (offNotice s) now

theorem told_of_gone (h : ∀ r ∈ c.sessions, r.id ≠ s.id) : told now s c = c := by
  unfold told
  split
  next => rfl
  next =>
    rcases c.raise_cases (fun r => r.ended && !r.offTold) Session.tellOff s (offNotice s) now with
      ⟨-, hrun⟩ | ⟨r, hr, hid, -⟩
    · exact congrArg Prod.snd hrun
    · exact absurd hid (h r hr)

theorem exists_of_finalize_told (h : ((told now s c).finalize s).1 = true) :
    ∃ s' ∈ c.sessions, s'.id = s.id := by
  by_contra hgone
  have hnone : ∀ r ∈ c.sessions, r.id ≠ s.id := fun r hr hid => hgone ⟨r, hr, hid⟩
  rw [told_of_gone hnone] at h
  exact hgone (Catalog.exists_of_finalize h)

end Lifecycle

/-- **A cleanup deletes the session that was read, if it is still there, whatever the servers of the
group do by then.** They are all off exactly if the last report since the reading says so. -/
theorem off_when_cleaned_iff {done : Lifecycle.Progress} (hp : Interleaving before p)
    (hs : s ∈ p.sessionsToClean) (hc : Interleaving (since ++ before) c)
    (hdone : Lifecycle.clean now { catalog := c } s = done) :
    ((∀ e ∈ since, e.did.byOthers = true) → done.report.cleaned = 1) ∧
    (done.report.cleaned = 1 ↔ ∃ s' ∈ c.sessions, s'.id = s.id) ∧
    (done.report.cleaned = 1 →
      (∀ r ∈ done.catalog.sessions, r.group ≠ s.group) ∧
      (∀ v ∈ done.catalog.servers, v.group = s.group → v.target = none) ∧
      ((∀ v ∈ c.servers, v.group = s.group → v.state = .off) ↔
        ∀ report, since.lastReport = some report → ReportsOff s.group report)) := by
  obtain ⟨hmem, hended, -, -⟩ := Catalog.mem_sessionsToClean.mp hs
  obtain ⟨hcatalog, hcleaned⟩ := Lifecycle.clean_eq now s c
  have hoff : (∀ v ∈ c.servers, v.group = s.group → v.state = .off) ↔
      ∀ report, since.lastReport = some report → ReportsOff s.group report :=
    Catalog.allSeen_iff.symm.trans
      (hp.allSeen_iff_lastReport (hp.consistent.allSeen_of_sessionsToClean hs) hc)
  -- a session that is still there is deleted
  have hrow : (∃ s' ∈ c.sessions, s'.id = s.id) → done.report.cleaned = 1 ∧
      (∀ r ∈ done.catalog.sessions, r.group ≠ s.group) ∧
      ∀ v ∈ done.catalog.servers, v.group = s.group → v.target = none := by
    rintro ⟨s', hs', hid⟩
    have hsince := hp.session_since hmem hc hs' hid
    obtain ⟨r, hr, hrid, hrgroup, hrended, hrtold⟩ :=
      Lifecycle.exists_told hs' hid (hsince.ended hended) hsince.offTold now
    have hgroup : r.group = s.group := hrgroup.trans hsince.sameLease.group.symm
    obtain ⟨hdeleted, hsessions, hservers⟩ :=
      (Lifecycle.consistent_told hc.consistent).finalize_of_told hr hrid hgroup hrended hrtold
    rw [← hdone, hcatalog]
    exact ⟨hcleaned.mpr hdeleted, hsessions, hservers⟩
  have hiff : done.report.cleaned = 1 ↔ ∃ s' ∈ c.sessions, s'.id = s.id := by
    refine ⟨fun h => ?_, fun h => (hrow h).1⟩
    rw [← hdone, hcleaned] at h
    exact Lifecycle.exists_of_finalize_told h
  refine ⟨fun hothers => hiff.mpr ?_, hiff, fun h => ?_⟩
  · obtain ⟨s', hs', huntold⟩ := hp.exists_untold hmem hc hothers
    exact ⟨s', hs', huntold.id⟩
  · obtain ⟨-, hsessions, hservers⟩ := hrow (hiff.mp h)
    exact ⟨hsessions, hservers, hoff⟩

/-! ## A server that is started outside of the program -/

/-- The session of a lease that was given back and announced. -/
def givenBackSession : Session :=
  ⟨1, none, "u1", "u1@example.com", "QA", 3600, true, false, false, false, false⟩

/-- A catalog with this session only. Its server was off all the time. -/
def givenBack : Catalog :=
  (Transaction.markAnnounced { givenBackSession with unannounced := true }
    ⟨"Server group QA session ended",
      "Session for server group QA has ended; servers are shutting down"⟩ 20).run <|
    (Transaction.endByToken "digest" 10).run leased

theorem interleaving_givenBack : ∃ before, Interleaving before givenBack := by
  obtain ⟨before, h⟩ := interleaving_leased
  refine ⟨_, .lifecycle _ (.others (.endByToken "digest" 10) h rfl) List.mem_cons_self
    (.announce ?_ ?_)⟩
  · decide
  · decide

/-- A report on the one server, after the session of its group was read as one to be cleaned up. -/
def reportAfterReading (state : PowerState) : Entry :=
  ⟨givenBack, .sync [⟨"i-1", "web", "QA", state⟩] 30⟩

theorem interleaving_reportAfterReading {before : Journal} (h : Interleaving before givenBack)
    (state : PowerState) : Interleaving ([reportAfterReading state] ++ before)
      ((reportAfterReading state).did.run givenBack) := .others _ h rfl

/-- Reported off, the server is off when the session is deleted. -/
theorem off_when_cleaned_iff_reportAfterReading :
    (Lifecycle.clean 40 { catalog := (reportAfterReading .off).did.run givenBack }
      givenBackSession).report.cleaned = 1 ∧
      ∀ v ∈ ((reportAfterReading .off).did.run givenBack).servers, v.group = "QA" →
        v.state = .off := by
  obtain ⟨before, hp⟩ := interleaving_givenBack
  have hc := interleaving_reportAfterReading hp .off
  have hs : givenBackSession ∈ givenBack.sessionsToClean := by decide
  have hdone : Lifecycle.clean 40 { catalog := (reportAfterReading .off).did.run givenBack }
      givenBackSession = _ := rfl
  obtain ⟨hdeleted, -, hleft⟩ := off_when_cleaned_iff hp hs hc hdone
  have hcleaned := hdeleted (List.forall_mem_singleton.mpr rfl)
  refine ⟨hcleaned, (hleft hcleaned).2.2.mpr fun report hreport => ?_⟩
  rw [← Option.some.inj hreport]
  exact List.forall_mem_singleton.mpr fun _ _ => rfl

/-- Reported on, the server is left on without a session, and nothing is wanted of it. -/
theorem not_off_when_cleaned :
    ¬∀ (before since : Journal) (p c : Catalog) (s : Session) (now : Int),
      Interleaving before p → s ∈ p.sessionsToClean → Interleaving (since ++ before) c →
      (∀ e ∈ since, e.did.byOthers = true) →
      (Lifecycle.clean now { catalog := c } s).report.cleaned = 1 →
      ∀ v ∈ c.servers, v.group = s.group → v.state = .off := by
  intro h
  obtain ⟨before, hp⟩ := interleaving_givenBack
  have hoff := h before [reportAfterReading .on] givenBack _ givenBackSession 40 hp (by decide)
    (interleaving_reportAfterReading hp .on) (List.forall_mem_singleton.mpr rfl) (by decide)
    ⟨"i-1", "web", "QA", .on, some .off, 0, some 0, some 10, some "u1@example.com"⟩
    (by decide) rfl
  exact PowerState.noConfusion hoff

end PowerLease
