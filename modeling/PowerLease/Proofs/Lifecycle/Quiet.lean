import PowerLease.Proofs.Lifecycle.Outcome

/-!
# Nothing is left due

A tick that comes to its end does all that is due at its reading of the clock (`nothingDue_tick`), and
where nothing is due, a tick does nothing (`tick_of_nothingDue`). So a second tick at the same reading of
the clock does nothing, and says so.

That one pass is enough rests on the order of the stages. What a stage makes due is left to those behind
it: the end of a session is to be announced, the announcement lets it be cleaned up after, and no stage
gives work to one before it.
-/

namespace PowerLease.Lifecycle

variable {p : Progress} {c : Catalog} {s : Session} {window : Duration} {now : Int}

/-- Nothing is due in a catalog at a reading of the clock. -/
structure NothingDue (window : Duration) (now : Int) (c : Catalog) : Prop where
  /-- No live session is over. -/
  inTime : ∀ s ∈ c.sessions, s.ended = false → now ≤ s.expiry
  warned : ∀ s ∈ c.sessions, s.ended = false → s.expiry < threshold window now → s.warned = true
  announced : ∀ s ∈ c.sessions, s.unannounced = false
  /-- An ended session waits for a server. -/
  waits : ∀ s ∈ c.sessions, s.ended = true → ∃ v ∈ c.servers, v.group = s.group ∧ v.state ≠ .off
  /-- Where all servers are on, the holder knows it. -/
  told : ∀ s ∈ c.sessions, s.ended = false → (∃ v ∈ c.servers, v.group = s.group) →
    (∀ v ∈ c.servers, v.group = s.group → v.state = .on) → s.readyTold = true

/-! ## After a tick -/

/-- A session that a tick leaves is ended and waits for a server, or it lives on with its flags raised. -/
theorem fate_cases {s' : Session} (h : fate window now c s = some s') :
    ((s.ended = true ∨ s.expiry < now) ∧ c.allSeen s.group .off = false ∧ s' = s.end.announce) ∨
    (s.ended = false ∧ now ≤ s.expiry ∧
      s' = { s with
        unannounced := false
        warned := s.warned || decide (s.expiry < threshold window now)
        readyTold := s.readyTold || (c.hasGroup s.group && c.allSeen s.group .on) }) := by
  unfold fate at h
  split at h
  next hover =>
    rw [Bool.or_eq_true, isExpired_iff] at hover
    split at h
    next => exact nomatch h
    next hwaits => exact Or.inl ⟨hover, eq_false_of_ne_true hwaits, (Option.some.inj h).symm⟩
  next hlives =>
    obtain ⟨hlive, hnow⟩ := isOver_iff.mp (eq_false_of_ne_true hlives)
    exact Or.inr ⟨hlive, hnow, (Option.some.inj h).symm⟩

/-- A tick that comes to its end leaves nothing due. -/
theorem nothingDue_tick (hc : c.Consistent) (h : (tick window now c).aborted = false) :
    NothingDue window now (tick window now c).catalog := by
  have hcont := continues_tick hc window now
  have hfate : ∀ s' ∈ (tick window now c).catalog.sessions,
      ∃ s ∈ c.sessions, fate window now c s = some s' := by
    intro s' hs'
    rw [sessions_tick hc h] at hs'
    exact List.mem_filterMap.mp hs'
  constructor
  · intro s' hs' hlive
    obtain ⟨s, -, hs⟩ := hfate s' hs'
    obtain ⟨-, -, rfl⟩ | ⟨-, hnow, rfl⟩ := fate_cases hs
    · exact absurd hlive.symm Bool.false_ne_true
    · exact hnow
  · intro s' hs' hlive hage
    obtain ⟨s, -, hs⟩ := hfate s' hs'
    obtain ⟨-, -, rfl⟩ | ⟨-, -, rfl⟩ := fate_cases hs
    · exact absurd hlive.symm Bool.false_ne_true
    · simp [show s.expiry < threshold window now from hage]
  · intro s' hs'
    obtain ⟨s, -, hs⟩ := hfate s' hs'
    obtain ⟨-, -, rfl⟩ | ⟨-, -, rfl⟩ := fate_cases hs <;> rfl
  · intro s' hs' hended
    obtain ⟨s, -, hs⟩ := hfate s' hs'
    obtain ⟨-, hwaits, rfl⟩ | ⟨hlive, -, rfl⟩ := fate_cases hs
    · rw [← hcont.allSeen_eq, ← Bool.not_eq_true, Catalog.allSeen_iff] at hwaits
      push Not at hwaits
      exact hwaits
    · exact absurd (hlive.symm.trans hended) Bool.false_ne_true
  · intro s' hs' hlive hgroup hon
    obtain ⟨s, -, hs⟩ := hfate s' hs'
    obtain ⟨-, -, rfl⟩ | ⟨-, -, rfl⟩ := fate_cases hs
    · exact absurd hlive.symm Bool.false_ne_true
    · have hknown : c.hasGroup s.group = true := hcont.hasGroup_eq ▸ Catalog.hasGroup_iff.mpr hgroup
      have hall : c.allSeen s.group .on = true := hcont.allSeen_eq ▸ Catalog.allSeen_iff.mpr hon
      simp [hknown, hall]

/-! ## A tick with nothing to do -/

theorem expireAndWarn_of_nothingDue (h : NothingDue window now p.catalog) :
    expireAndWarn window now p = p := by
  have hended : p.catalog.activeSessions.filter (isExpired now) = [] := by
    refine List.filter_eq_nil_iff.mpr fun s hs hover => ?_
    obtain ⟨hmem, hlive⟩ := mem_activeSessions.mp hs
    exact absurd (h.inTime s hmem hlive) (Int.not_le.mpr (isExpired_iff.mp hover))
  have hwarned : p.catalog.activeSessions.filter (isAging window now) = [] := by
    refine List.filter_eq_nil_iff.mpr fun s hs haging => ?_
    obtain ⟨hmem, hlive⟩ := mem_activeSessions.mp hs
    obtain ⟨-, hage, hnot⟩ := isAging_iff.mp haging
    exact Bool.false_ne_true (hnot.symm.trans (h.warned s hmem hlive hage))
  rw [expireAndWarn_eq, hended, hwarned]
  rfl

theorem announceAll_of_nothingDue (h : NothingDue window now p.catalog) : announceAll now p = p := by
  have hnone : p.catalog.sessionsToAnnounce = [] :=
    List.filter_eq_nil_iff.mpr fun s hs => Bool.eq_false_iff.mp (h.announced s hs)
  rw [announceAll, hnone]
  rfl

theorem cleanAll_of_nothingDue (hc : p.catalog.Consistent) (h : NothingDue window now p.catalog) :
    cleanAll now p = p := by
  have hnone : p.catalog.sessionsToClean = [] := by
    refine List.filter_eq_nil_iff.mpr fun s hs hpick => ?_
    simp only [Bool.and_eq_true] at hpick
    obtain ⟨⟨hended, -⟩, hsettled⟩ := hpick
    have htarget : s.target = .off := by rw [Session.target, if_pos hended]
    rw [hc.isSettled_eq hs htarget, Catalog.allSeen_iff] at hsettled
    obtain ⟨v, hv, hg, hnot⟩ := h.waits s hs hended
    exact hnot (hsettled v hv hg)
  rw [cleanAll, hnone]
  rfl

theorem tellAllReady_of_nothingDue (hc : p.catalog.Consistent) (h : NothingDue window now p.catalog) :
    tellAllReady now p = p := by
  have hnone : p.catalog.sessionsReady = [] := by
    refine List.filter_eq_nil_iff.mpr fun s hs hpick => ?_
    simp only [Bool.and_eq_true, Bool.not_eq_true'] at hpick
    obtain ⟨⟨⟨hlive, hnot⟩, hgroup⟩, hsettled⟩ := hpick
    have htarget : s.target = .on := by rw [Session.target, hlive, if_neg Bool.false_ne_true]
    rw [hc.isSettled_eq hs htarget, Catalog.allSeen_iff] at hsettled
    have htold := h.told s hs hlive (Catalog.hasGroup_iff.mp hgroup) hsettled
    exact Bool.false_ne_true (hnot.symm.trans htold)
  rw [tellAllReady, hnone]
  rfl

/-- Where nothing is due, a tick does nothing. -/
theorem tick_of_nothingDue (hc : c.Consistent) (h : NothingDue window now c) :
    tick window now c = { catalog := c } := by
  have hstart : NothingDue window now ({ catalog := c } : Progress).catalog := h
  rw [tick, laterStages, expireAndWarn_of_nothingDue hstart, announceAll_of_nothingDue hstart,
    cleanAll_of_nothingDue hc hstart, tellAllReady_of_nothingDue hc hstart]

/-- A tick does nothing exactly if nothing is due. -/
theorem tick_eq_self_iff (hc : c.Consistent) :
    tick window now c = { catalog := c } ↔ NothingDue window now c := by
  constructor
  · intro h
    have hdone : (tick window now c).aborted = false := by rw [h]
    have hdue := nothingDue_tick hc hdone
    rwa [h] at hdue
  · exact tick_of_nothingDue hc

/-- **A tick does all that is due.** As long as no live session expires in the year 10000 or later, a tick
comes to its end and leaves nothing due, so another one at the same reading of the clock does nothing: it
leaves the catalog as it is, and reports no transition. -/
theorem tick_leaves_nothing_due {past : List Catalog} (hpast : Catalog.History (c :: past))
    (hexpiry : ∀ s ∈ c.sessions, s.ended = false → s.expiry < Calendar.endOfTime)
    (window : Duration) (now : Int) :
    (tick window now c).aborted = false ∧ NothingDue window now (tick window now c).catalog ∧
      tick window now (tick window now c).catalog =
        { catalog := (tick window now c).catalog, report := {}, aborted := false } := by
  have hc := hpast.consistent
  have hdone := not_aborted_of_worded hc hexpiry window now
  have hdue := nothingDue_tick hc hdone
  exact ⟨hdone, hdue, (tick_eq_self_iff (continues_tick hc window now).consistent).mpr hdue⟩

/-- Three leases: one that is soon over and whose server is on, one that is over and whose server never came
on, and one that was given back while its server is on. -/
def busy : Catalog :=
  (Transaction.endByToken "third" 200).run <|
    (Transaction.sync [⟨"i-1", "web", "QA", .on⟩, ⟨"i-2", "db", "dev", .off⟩,
      ⟨"i-3", "gpu", "lab", .on⟩] 100).run <|
    (Transaction.openSession ⟨"third", "u3", "u3@example.com", "lab", 7200⟩ 0).run <|
    (Transaction.openSession ⟨"second", "u2", "u2@example.com", "dev", 2000⟩ 0).run <|
    (Transaction.openSession ⟨"first", "u1", "u1@example.com", "QA", 3600⟩ 0).run <|
    (Transaction.sync [⟨"i-1", "web", "QA", .off⟩, ⟨"i-2", "db", "dev", .off⟩,
      ⟨"i-3", "gpu", "lab", .off⟩] 0).run .empty

theorem history_busy : ∃ past, Catalog.History (busy :: past) :=
  ⟨_, .next _ (.next _ (.next _ (.next _ (.next _ (.next _ .start nofun) nofun) nofun) nofun) nofun)
    nofun⟩

/-- Of each kind of work there is some in `busy`, and one tick does it all. -/
theorem tick_leaves_nothing_due_busy :
    (tick (Duration.ofSeconds 900) 3000 busy).aborted = false ∧
      NothingDue (Duration.ofSeconds 900) 3000 (tick (Duration.ofSeconds 900) 3000 busy).catalog ∧
      tick (Duration.ofSeconds 900) 3000 (tick (Duration.ofSeconds 900) 3000 busy).catalog =
        { catalog := (tick (Duration.ofSeconds 900) 3000 busy).catalog, report := {}, aborted := false } := by
  obtain ⟨past, hpast⟩ := history_busy
  exact tick_leaves_nothing_due hpast (by decide) _ _

example : (tick (Duration.ofSeconds 900) 3000 busy).result = some ⟨1, 1, 3, 1, 1, 1⟩ := by
  cbv

end PowerLease.Lifecycle
