import PowerLease.Proofs.Interleaving.Journal
import PowerLease.Proofs.Lifecycle.Outcome

/-!
# Ending an expired session after an earlier reading

A tick reads which sessions have expired by its clock, and ends them afterwards by their groups. The
write does not look at the expiry again. The extension of a lease is guarded by the clock as it was when
the holder asked, which may be behind the one of the tick. So a holder may be granted more time between
reading and writing, and lose the lease nevertheless.

`expired_when_ended_iff` says that this is the only way in which a session is ended before its time, and
`expired_of_clocks` that it takes a clock behind the one of the tick.
-/

namespace PowerLease

variable {before since : Journal} {p c : Catalog} {s s' : Session} {now : Int}

/-- The live session of a group is the one that is ended with the group. -/
theorem Catalog.Consistent.endSession_of_live (h : c.Consistent) (hs : s ∈ c.sessions)
    (hlive : s.ended = false) (now : Int) :
    (c.endSession s.group now).1 = true ∧ (c.endSession s.group now).2.sessions =
      c.sessions.map fun r => if r.id = s.id then r.end else r := by
  constructor
  · rcases c.endSession_cases s.group now with ⟨hmiss, -⟩ | ⟨_, -, -, -, hrun⟩
    · exact absurd (hlive.symm.trans (hmiss s hs rfl)) Bool.false_ne_true
    · rw [hrun]
  · rw [sessions_endSession]
    refine List.map_congr_left fun r hr => ?_
    by_cases hid : r.id = s.id
    · rw [h.session_eq_of_id hr hs hid]
      simp [hlive]
    · have hgroup : r.group ≠ s.group := fun hg => hid (by rw [h.session_eq_of_group hr hs hg])
      simp [hid, hgroup]

namespace Interleaving

/-- Extensions keep a session live. -/
theorem exists_live_of_extensions (hp : Interleaving before p) (hs : s ∈ p.activeSessions)
    (hc : Interleaving (since ++ before) c)
    (hext : ∀ e ∈ since, ∃ token expiry clock, e.did = .extendSession token expiry clock) :
    ∃ s' ∈ c.sessions, s'.id = s.id ∧ s'.ended = false := by
  obtain ⟨hmem, hlive⟩ := Lifecycle.mem_activeSessions.mp hs
  have hothers : ∀ e ∈ since, e.did.byOthers = true := by
    intro e he
    obtain ⟨_, _, _, hdid⟩ := hext e he
    rw [hdid]
    rfl
  obtain ⟨s', hs', huntold⟩ := hp.exists_untold hmem hc hothers
  refine ⟨s', hs', huntold.id, eq_false_of_ne_true fun hended => ?_⟩
  obtain ⟨e, he, hends⟩ :=
    ((hp.session_since hmem hc hs' huntold.id).ended_iff hlive).mp hended
  obtain ⟨_, _, _, hdid⟩ := hext e he
  rw [hdid] at hends
  exact Bool.false_ne_true hends

/-- A live session that was read as expired has expired exactly if no later expiry was granted since. -/
theorem expired_iff (hp : Interleaving before p) (hs : s ∈ p.sessions) (hover : s.expiry < now)
    (hc : Interleaving (since ++ before) c) (hs' : s' ∈ c.sessions) (hid : s'.id = s.id)
    (hlive : s'.ended = false) :
    s'.expiry < now ↔ ∀ expiry, since.lastGrant s.token = some expiry → expiry < now := by
  rw [(hp.session_since hs hc hs' hid).expiry hlive]
  cases since.lastGrant s.token with
  | none => simp [hover]
  | some expiry => simp

end Interleaving

/-- **A session that was read as expired is ended before its time exactly if its holder was granted that
time since.** The session that is ended is the one that was read. -/
theorem expired_when_ended_iff (hp : Interleaving before p) (hs : s ∈ p.activeSessions)
    (hover : s.expiry < now) (hc : Interleaving (since ++ before) c) :
    ((∀ e ∈ since, ∃ token expiry clock, e.did = .extendSession token expiry clock) →
      ∃ s' ∈ c.sessions, s'.id = s.id ∧ s'.ended = false) ∧
    ∀ s' ∈ c.sessions, s'.id = s.id → s'.ended = false →
      (c.endSession s.group now).1 = true ∧
      (c.endSession s.group now).2.sessions =
        c.sessions.map (fun r => if r.id = s.id then r.end else r) ∧
      (s'.expiry < now ↔
        ∀ expiry, since.lastGrant s.token = some expiry → expiry < now) := by
  refine ⟨hp.exists_live_of_extensions hs hc, fun s' hs' hid hlive => ?_⟩
  have hmem := (Lifecycle.mem_activeSessions.mp hs).1
  have hgroup : s'.group = s.group := (hp.session_since hmem hc hs' hid).sameLease.group.symm
  obtain ⟨hdone, hsessions⟩ := hc.consistent.endSession_of_live hs' hlive now
  rw [hgroup] at hdone hsessions
  rw [hid] at hsessions
  exact ⟨hdone, hsessions, hp.expired_iff hmem hover hc hs' hid hlive⟩

/-- Extended to a time that is over as well, the lease is ended in time. -/
theorem expired_when_ended_iff_shortly :
    (((Transaction.extendSession "digest" 4000 3599).run leased).endSession "QA" 5000).1 = true ∧
    ∃ s' ∈ ((Transaction.extendSession "digest" 4000 3599).run leased).sessions,
      s'.id = 1 ∧ s'.expiry < 5000 := by
  obtain ⟨before, hp⟩ := interleaving_leased
  have hc : Interleaving ([⟨leased, .extendSession "digest" 4000 3599⟩] ++ before)
      ((Transaction.extendSession "digest" 4000 3599).run leased) := .others _ hp rfl
  have hs : leasedSession ∈ leased.activeSessions :=
    Lifecycle.mem_activeSessions.mpr ⟨by decide, rfl⟩
  have hover : leasedSession.expiry < 5000 := by decide
  obtain ⟨hstays, hended⟩ := expired_when_ended_iff hp hs hover hc
  obtain ⟨s', hs', hid, hlive⟩ := hstays (List.forall_mem_singleton.mpr ⟨_, _, _, rfl⟩)
  obtain ⟨hdone, -, hiff⟩ := hended s' hs' hid hlive
  refine ⟨hdone, s', hs', hid, hiff.mpr fun expiry hgrant => ?_⟩
  have hlast : Journal.lastGrant [⟨leased, .extendSession "digest" 4000 3599⟩]
      leasedSession.token = some 4000 := by decide
  rw [← Option.some.inj (hlast.symm.trans hgrant)]
  decide

/-- Extended in time by a clock behind the one of the tick, the lease is ended nevertheless. -/
theorem not_expired_when_ended :
    ¬∀ (before since : Journal) (p c : Catalog) (s : Session) (now : Int),
      Interleaving before p → s ∈ p.activeSessions → s.expiry < now →
      Interleaving (since ++ before) c →
      (∀ e ∈ since, ∃ token expiry clock, e.did = .extendSession token expiry clock) →
      ∀ s' ∈ c.sessions, s'.ended = false →
        s'.end ∈ (c.endSession s.group now).2.sessions → s'.expiry < now := by
  intro h
  obtain ⟨before, hp⟩ := interleaving_leased
  have hc : Interleaving ([⟨leased, .extendSession "digest" 10000 3599⟩] ++ before)
      ((Transaction.extendSession "digest" 10000 3599).run leased) := .others _ hp rfl
  have hs : leasedSession ∈ leased.activeSessions :=
    Lifecycle.mem_activeSessions.mpr ⟨by decide, rfl⟩
  have hover := h before _ leased _ leasedSession 3601 hp hs (by decide) hc
    (List.forall_mem_singleton.mpr ⟨_, _, _, rfl⟩) (leasedSession.extend 10000) (by decide) rfl (by decide)
  exact absurd hover (by decide)

/-! ## Clocks -/

/-- An expiry that was read is moved only by the clock of a holder that is behind it. -/
theorem Interleaving.expiry_of_clocks (hp : Interleaving before p) (hs : s ∈ p.sessions)
    (hc : Interleaving (since ++ before) c)
    (hclocks : ∀ e ∈ since, ∀ token expiry clock,
      e.did = .extendSession token expiry clock → s.expiry ≤ clock) :
    ∀ s' ∈ c.sessions, s'.id = s.id → s'.expiry = s.expiry := by
  revert hclocks
  refine since_induct (P := fun since d => (∀ e ∈ since, ∀ token expiry clock,
      e.did = .extendSession token expiry clock → s.expiry ≤ clock) →
      ∀ s' ∈ d.sessions, s'.id = s.id → s'.expiry = s.expiry) hp (fun _ r hr hid => ?_)
    (fun since d t hd ih hclocks s' hs' hid => ?_) hc
  · rw [hp.consistent.session_eq_of_id hr hs hid]
  · obtain ⟨hclock, hclocks⟩ := List.forall_mem_cons.mp hclocks
    obtain ⟨r, hr, hrid, hmakes⟩ := hp.exists_makes hd hs hs' hid
    have hexpiry := ih hclocks r hr hrid
    rcases hmakes.expiry_eq with hkept | ⟨token, clock, rfl, -, hbehind⟩
    · exact hkept.trans hexpiry
    · rw [hexpiry] at hbehind
      exact absurd (hclock _ _ _ rfl) (Int.not_le.mpr hbehind)

/-- **Where no holder's clock is behind the one of the tick, no session is ended before its time.** -/
theorem expired_of_clocks (hp : Interleaving before p) (hs : s ∈ p.activeSessions)
    (hover : s.expiry < now) (hc : Interleaving (since ++ before) c)
    (hclocks : ∀ e ∈ since, ∀ token expiry clock,
      e.did = .extendSession token expiry clock → now ≤ clock)
    (hs' : s' ∈ c.sessions) (hid : s'.id = s.id) : s'.expiry < now := by
  have hmem := (Lifecycle.mem_activeSessions.mp hs).1
  rw [hp.expiry_of_clocks hmem hc (fun e he token expiry clock hdid => ?_) s' hs' hid]
  · exact hover
  · exact Int.le_trans (Int.le_of_lt hover) (hclocks e he token expiry clock hdid)

end PowerLease
