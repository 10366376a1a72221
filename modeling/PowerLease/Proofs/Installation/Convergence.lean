import PowerLease.Proofs.Installation.Reached
import PowerLease.Proofs.Lifecycle.Outcome

/-!
# One round is enough

A round takes over a report, manages the cloud, takes over another report and moves the sessions along.
Whatever was done before, after one round the machines of a leased group are where its lease wants them
(`Round.state_eq`), and the lifecycle has drawn the conclusions (`converges`): an ended session is gone
and its group can be leased again, and the holder of a live one was told that the servers are on.

The first report finds all machines still, and from then on the catalog has them as they are. So
managing sends exactly those on their way that are not where they are wanted, and the second report
finds them there. What the flags of the sessions were before does not matter.
-/

namespace PowerLease

variable {ν : Type} {cloud : SimulatedCloud} {c : Catalog} {network : ν} {s : Session} {v : Server}
  {m m' : Machine} {t₁ t₂ now : Int} {window : Duration}

/-- One round. The second report and the tick come after the managing that they show the effect of. -/
def Installation.round (t₁ t₂ : Int) (window : Duration) (now : Int)
    (i : Installation SimulatedCloud ν) :
    Option Lifecycle.Report × Installation SimulatedCloud ν :=
  ((((i.scrape t₁).2.manage).2.scrape t₂).2).tick window now

/-- A group is settled: catalog and cloud show all its servers at a target, and nothing of it is on its
way. -/
structure SettledAt (cloud : SimulatedCloud) (c : Catalog) (group : String) (t : Target) : Prop where
  servers : ∀ v ∈ c.servers, v.group = group →
    v.state = t.state ∧ cloud.stateOf v.id = some t.state
  machines : ∀ m ∈ cloud.machines, m.shown.group = group →
    m.shown.state = t.state ∧ m.settlesTo = none

/-! ## The stops of a round -/

namespace SimulatedCloud

/-- The cloud after a report, managing and another report. -/
def afterRound (cloud : SimulatedCloud) (c : Catalog) : SimulatedCloud :=
  (cloud.settled.told c).settled

theorem mem_afterRound : m' ∈ (cloud.afterRound c).machines ↔
    ∃ m ∈ cloud.settled.machines, (m.told cloud.settled c).settle = m' := by
  show m' ∈ (cloud.settled.told c).machines.map Machine.settle ↔ _
  rw [machines_told, List.map_map]
  exact List.mem_map

end SimulatedCloud

namespace Catalog

/-- The catalog after the first report of a round. -/
def firstReport (c : Catalog) (cloud : SimulatedCloud) (t₁ : Int) : Catalog :=
  (c.sync cloud.settled.report t₁).2

/-- The catalog after the second report of a round. -/
def secondReport (c : Catalog) (cloud : SimulatedCloud) (t₁ t₂ : Int) : Catalog :=
  ((c.firstReport cloud t₁).sync (cloud.afterRound (c.firstReport cloud t₁)).report t₂).2

end Catalog

theorem round_eq (havailable : cloud.unavailable = false) :
    Installation.round t₁ t₂ window now ⟨cloud, .opened c, network⟩ =
      ((Lifecycle.tick window now (c.secondReport cloud t₁ t₂)).result,
        ⟨cloud.afterRound (c.firstReport cloud t₁),
          .opened (Lifecycle.tick window now (c.secondReport cloud t₁ t₂)).catalog, network⟩) := by
  rw [Installation.round, scrape_simulated havailable, manage_simulated,
    scrape_simulated (by exact havailable)]
  rfl

/-! ## Where the machines are -/

/-- What a round starts from: reports are given, no machine fails, and all ways have an end. -/
structure Round (cloud : SimulatedCloud) (c : Catalog) : Prop where
  ordered : cloud.Ordered
  consistent : c.Consistent
  failing : cloud.failing = []
  settles : ∀ m ∈ cloud.machines, m.shown.state = .transitioning → m.settlesTo ≠ none

namespace Round

theorem isStill (h : Round cloud c) (hm : m ∈ cloud.settled.machines) : m.IsStill := by
  obtain ⟨n, hn, rfl⟩ := List.mem_map.mp hm
  exact Machine.isStill_settle (h.settles n hn)

theorem ordered_settled (h : Round cloud c) : cloud.settled.Ordered :=
  h.ordered.map Machine.id_settle

theorem ordered_afterRound (h : Round cloud c) (d : Catalog) : (cloud.afterRound d).Ordered := by
  have htold : (cloud.settled.told d).Ordered := (h.ordered_settled.transition _ _ _).transition _ _ _
  exact htold.map Machine.id_settle

/-- After the first report, the catalog has every machine as it is. -/
theorem exists_server (h : Round cloud c) (hm : m ∈ cloud.settled.machines) (t₁ : Int) :
    ∃ v ∈ (c.firstReport cloud t₁).servers, v.shown = m.shown :=
  (Catalog.mem_report_iff h.consistent.serverIds
    (SimulatedCloud.nodup_report h.ordered_settled)).mp (List.mem_map_of_mem hm)

/-- A machine of a leased group is where the lease wants it, after managing and another report. -/
theorem state_eq (h : Round cloud c) (hs : s ∈ c.sessions)
    (hm' : m' ∈ (cloud.afterRound (c.firstReport cloud t₁)).machines)
    (hgroup : m'.shown.group = s.group) :
    m'.shown.state = s.target.state ∧ m'.settlesTo = none := by
  obtain ⟨m, hm, rfl⟩ := SimulatedCloud.mem_afterRound.mp hm'
  rw [Machine.group_settle, group_told] at hgroup
  have hstill := h.isStill hm
  have hc₁ : (c.firstReport cloud t₁).Consistent := h.consistent.sync _ t₁
  obtain ⟨v, hv, hshown⟩ := h.exists_server hm t₁
  have hid : v.id = m.id := congrArg Instance.id hshown
  have hstate : v.state = m.shown.state := congrArg Instance.state hshown
  have hvgroup : v.group = m.shown.group := congrArg Instance.group hshown
  have htarget : v.target = some s.target :=
    hc₁.target_of_session hv hs (hvgroup.trans hgroup).symm
  -- the machine is still, so it is where it is wanted, or where the way there begins
  rcases Target.seen_cases hstill.seen s.target with hthere | hopposite
  · have htold : m.told cloud.settled (c.firstReport cloud t₁) = m := by
      refine told_of_not_pending h.failing fun w hw hwid t hwstate hwtarget => ?_
      rw [hc₁.server_eq_of_id hw hv (hwid.trans hid.symm)] at hwstate hwtarget
      rw [← Option.some.inj (htarget.symm.trans hwtarget), hstate, hthere] at hwstate
      exact s.target.opposite_ne hwstate.symm
    rw [htold, Machine.settle_of_still hstill]
    exact ⟨hthere, hstill.arrived⟩
  · have htold : m.told cloud.settled (c.firstReport cloud t₁) =
        m.send s.target.opposite s.target :=
      told_of_pending hc₁.serverIds h.failing hv hid (hstate.trans hopposite) htarget
    rw [htold]
    refine ⟨Machine.state_settle_send hopposite, ?_⟩
    exact (Machine.isStill_settle (Machine.isCoherent_send hstill.isCoherent).mp).arrived

/-- After the second report, what a server shows is a machine. -/
theorem exists_machine (h : Round cloud c) (hv : v ∈ (c.secondReport cloud t₁ t₂).servers) :
    ∃ m ∈ (cloud.afterRound (c.firstReport cloud t₁)).machines, m.shown = v.shown := by
  have hc₁ : (c.firstReport cloud t₁).Consistent := h.consistent.sync _ t₁
  have hreport : v.shown ∈ (cloud.afterRound (c.firstReport cloud t₁)).report :=
    (Catalog.mem_report_iff hc₁.serverIds
      (SimulatedCloud.nodup_report (h.ordered_afterRound _))).mpr ⟨v, hv, rfl⟩
  exact List.mem_map.mp hreport

theorem consistent_second (h : Round cloud c) (t₁ t₂ : Int) :
    (c.secondReport cloud t₁ t₂).Consistent :=
  (h.consistent.sync _ t₁).sync _ t₂

/-- The group of a session is settled where the session wants it, when the tick comes. -/
theorem settledAt (h : Round cloud c) (hs : s ∈ c.sessions) (t₁ t₂ : Int) :
    SettledAt (cloud.afterRound (c.firstReport cloud t₁)) (c.secondReport cloud t₁ t₂) s.group
      s.target where
  servers := by
    intro v hv hgroup
    obtain ⟨m, hm, hshown⟩ := h.exists_machine hv
    have hmgroup : m.shown.group = s.group := (congrArg Instance.group hshown).trans hgroup
    have hstate := (h.state_eq hs hm hmgroup).1
    have hid : m.id = v.id := congrArg Instance.id hshown
    rw [← hid, (h.ordered_afterRound _).stateOf hm, ← hstate]
    exact ⟨(congrArg Instance.state hshown).symm, rfl⟩
  machines := fun m hm hgroup => h.state_eq hs hm hgroup

end Round

/-- A tick does not touch what is settled. -/
theorem SettledAt.of_continues {c' : Catalog} {group : String} {t : Target}
    (h : SettledAt cloud c group t) (hcont : Catalog.Continues c c') :
    SettledAt cloud c' group t where
  servers := by
    intro v' hv' hgroup
    have hshown : v'.shown ∈ c.servers.map Server.shown := hcont.shown ▸ List.mem_map_of_mem hv'
    obtain ⟨v, hv, heq⟩ := List.mem_map.mp hshown
    have hstate : v.state = v'.state := congrArg Instance.state heq
    have hid : v.id = v'.id := congrArg Instance.id heq
    rw [← hstate, ← hid]
    exact h.servers v hv ((congrArg Instance.group heq).trans hgroup)
  machines := h.machines

/-! ## What the lifecycle makes of it -/

theorem target_of_ended (h : s.ended = true) : s.target = .off := by
  rw [Session.target, if_pos h]

theorem target_of_live (h : s.ended = false) : s.target = .on := by
  rw [Session.target, h]
  rfl

theorem openSession_ok {request : LeaseRequest} (hgroup : ∃ v ∈ c.servers, v.group = request.group)
    (hfree : ∀ s ∈ c.sessions, s.group ≠ request.group ∧ s.token ≠ some request.token)
    (time : Int) : ∃ session, (c.openSession request time).1 = .ok session := by
  rcases c.openSession_cases request time with
    ⟨hunknown, -⟩ | ⟨-, hrefused, -⟩ | ⟨-, -, hrun⟩
  · rw [Catalog.hasGroup_iff.mpr hgroup] at hunknown
    exact Bool.noConfusion hunknown
  · rw [Catalog.admits_iff.mpr hfree] at hrefused
    exact Bool.noConfusion hrefused
  · exact ⟨_, congrArg Prod.fst hrun⟩

/-- Where the servers of an ended session are off, a tick deletes it, and nothing is left of it. -/
theorem released_tick (hc : c.Consistent)
    (habort : (Lifecycle.tick window now c).aborted = false) (hs : s ∈ c.sessions)
    (hended : s.ended = true) (hoff : SettledAt cloud c s.group .off) :
    (∀ s' ∈ (Lifecycle.tick window now c).catalog.sessions,
      s'.id ≠ s.id ∧ s'.group ≠ s.group) ∧
    ∀ v ∈ (Lifecycle.tick window now c).catalog.servers, v.group = s.group → v.target = none := by
  have hfate : Lifecycle.fate window now c s = none :=
    Lifecycle.fate_eq_none_iff.mpr ⟨Or.inl hended, fun v hv hgroup => (hoff.servers v hv hgroup).1⟩
  have hgone : ∀ s' ∈ (Lifecycle.tick window now c).catalog.sessions,
      s'.id ≠ s.id ∧ s'.group ≠ s.group := by
    intro s' hs'
    rw [Lifecycle.sessions_tick hc habort, List.mem_filterMap] at hs'
    obtain ⟨t, ht, hkept⟩ := hs'
    have hsame := Lifecycle.sameLease_of_fate hkept
    have hne : t ≠ s := by
      rintro rfl
      rw [hfate] at hkept
      exact absurd hkept nofun
    rw [← hsame.id, ← hsame.group]
    exact ⟨fun hid => hne (hc.session_eq_of_id ht hs hid),
      fun hgroup => hne (hc.session_eq_of_group ht hs hgroup)⟩
  refine ⟨hgone, fun v hv hgroup => ?_⟩
  refine (Lifecycle.continues_tick hc window now).consistent.target_eq_none hv fun s' hs' he => ?_
  exact (hgone s' hs').2 (he.trans hgroup)

/-- Where the servers of a live session are on, a tick keeps it, and its holder is told. -/
theorem ready_tick (hc : c.Consistent)
    (habort : (Lifecycle.tick window now c).aborted = false) (hs : s ∈ c.sessions)
    (hlive : s.ended = false) (hnow : now ≤ s.expiry) (hon : SettledAt cloud c s.group .on) :
    ∃ s' ∈ (Lifecycle.tick window now c).catalog.sessions, s.SameLease s' ∧ s'.ended = false ∧
      s'.expiry = s.expiry ∧ ((∃ v ∈ c.servers, v.group = s.group) → s'.readyTold = true) := by
  have hall : c.allSeen s.group .on = true :=
    Catalog.allSeen_iff.mpr fun v hv hgroup => (hon.servers v hv hgroup).1
  obtain ⟨s', hfate, hready⟩ : ∃ s', Lifecycle.fate window now c s = some s' ∧
      s'.ended = false ∧ (c.hasGroup s.group = true → s'.readyTold = true) := by
    rw [Lifecycle.fate, Lifecycle.isOver_iff.mpr ⟨hlive, hnow⟩, if_neg Bool.false_ne_true]
    refine ⟨_, rfl, hlive, fun hgroup => ?_⟩
    rw [hgroup, hall, Bool.and_self, Bool.or_true]
  refine ⟨s', ?_, Lifecycle.sameLease_of_fate hfate, hready.1, Lifecycle.expiry_of_fate hfate,
    fun hgroup => hready.2 (Catalog.hasGroup_iff.mpr hgroup)⟩
  rw [Lifecycle.sessions_tick hc habort]
  exact List.mem_filterMap.mpr ⟨s, hs, hfate⟩

/-- **One round is enough.** From whatever was reached, as long as no machine fails, reports are given,
all ways have an end and every expiry of a live session can be worded: after one round an ended session
is gone, its servers are off and wanted nowhere, and its group can be leased again; a live session whose
time is not over lives on, its servers are on, and its holder was told if there are any. -/
theorem converges {past : List Catalog} {i : Installation SimulatedCloud ν} (h : Reached past i)
    (hstore : i.store = .opened c) (hfailing : i.cloud.failing = [])
    (havailable : i.cloud.unavailable = false)
    (hsettles : ∀ m ∈ i.cloud.machines, m.shown.state = .transitioning → m.settlesTo ≠ none)
    (t₁ t₂ : Int) (window : Duration) (now : Int)
    (hexpiry : ∀ s ∈ c.sessions, s.ended = false → now ≤ s.expiry →
      s.expiry < Calendar.endOfTime) (hs : s ∈ c.sessions) :
    ∃ report c', (i.round t₁ t₂ window now).1 = some report ∧
      (i.round t₁ t₂ window now).2.store = .opened c' ∧
      (s.ended = true →
        (∀ s' ∈ c'.sessions, s'.id ≠ s.id ∧ s'.group ≠ s.group) ∧
        SettledAt (i.round t₁ t₂ window now).2.cloud c' s.group .off ∧
        (∀ v ∈ c'.servers, v.group = s.group → v.target = none) ∧
        ((∃ v ∈ c'.servers, v.group = s.group) → ∀ request time, request.group = s.group →
          (∀ s' ∈ c'.sessions, s'.token ≠ some request.token) →
          ∃ session, (c'.openSession request time).1 = .ok session)) ∧
      (s.ended = false → now ≤ s.expiry →
        (∃ s' ∈ c'.sessions, s.SameLease s' ∧ s'.ended = false ∧ s'.expiry = s.expiry ∧
          ((∃ v ∈ c'.servers, v.group = s.group) → s'.readyTold = true)) ∧
        SettledAt (i.round t₁ t₂ window now).2.cloud c' s.group .on ∧
        (∀ v ∈ c'.servers, v.group = s.group → v.target = some .on)) := by
  obtain ⟨d, hd⟩ := h.inOrder
  cases hstore.symm.trans hd.store
  cases i with
  | mk cloud store network =>
  cases hstore
  have hround : Round cloud c := ⟨hd.ordered, hd.consistent, hfailing, hsettles⟩
  have hc₃ := hround.consistent_second t₁ t₂
  have hcont := Lifecycle.continues_tick hc₃ window now
  -- reports leave the sessions alone, so every expiry can still be worded
  have habort : (Lifecycle.tick window now (c.secondReport cloud t₁ t₂)).aborted = false := by
    rw [← Bool.not_eq_true, Lifecycle.aborted_tick_iff hc₃]
    rintro ⟨t, ht, hlive, hnow, hlate, -⟩
    exact absurd hlate (Int.not_le.mpr (hexpiry t ht hlive hnow))
  have hsettled := hround.settledAt hs t₁ t₂
  rw [round_eq havailable]
  refine ⟨_, _, if_neg (by rw [habort]; exact Bool.false_ne_true), rfl, fun hended => ?_,
    fun hlive hnow => ?_⟩
  · rw [target_of_ended hended] at hsettled
    obtain ⟨hgone, hnone⟩ := released_tick hc₃ habort hs hended hsettled
    refine ⟨hgone, hsettled.of_continues hcont, hnone, fun hgroup request time hrequest hunused => ?_⟩
    rw [← hrequest] at hgroup
    exact openSession_ok hgroup (fun s' hs' => ⟨hrequest ▸ (hgone s' hs').2, hunused s' hs'⟩) time
  · rw [target_of_live hlive] at hsettled
    obtain ⟨s', hs', hsame, hlive', hexpiry', hready⟩ :=
      ready_tick hc₃ habort hs hlive hnow hsettled
    refine ⟨⟨s', hs', hsame, hlive', hexpiry', fun hgroup => hready ?_⟩,
      hsettled.of_continues hcont, fun v hv hgroup => ?_⟩
    · have hknown := Catalog.hasGroup_iff.mpr hgroup
      rw [hcont.hasGroup_eq] at hknown
      exact Catalog.hasGroup_iff.mp hknown
    · rw [hcont.consistent.target_of_session hv hs' (hsame.group.symm.trans hgroup.symm),
        target_of_live hlive']

/-- A machine that is off, of a group that can be leased. -/
def spareInstance : Instance := ⟨"i-1", "web", "QA", .off⟩

/-- A lease of its group. -/
def spareRequest : LeaseRequest := ⟨"digest", "u1", "u1@example.com", "QA", 1700003600⟩

/-- The catalog after the group was leased. -/
def spareCatalog : Catalog :=
  (Transaction.openSession spareRequest 1700000000).run
    ((Transaction.sync [spareInstance] 1700000000).run .empty)

theorem reached_spareCatalog :
    Reached [(Transaction.sync [spareInstance] 1700000000).run .empty, .empty]
      ⟨.ofInstances [spareInstance], .opened spareCatalog, ()⟩ :=
  .transaction _ (.transaction _ (.start [spareInstance] ()) nofun) nofun

/-- After one round the holder of that lease was told that the server is on. -/
theorem converges_spareCatalog :
    ∃ report c', (Installation.round 1700000010 1700000020 (Duration.ofSeconds 900) 1700000030
        ⟨.ofInstances [spareInstance], .opened spareCatalog, ()⟩).1 = some report ∧
      (Installation.round 1700000010 1700000020 (Duration.ofSeconds 900) 1700000030
        ⟨.ofInstances [spareInstance], .opened spareCatalog, ()⟩).2.store = .opened c' ∧
      ∃ s' ∈ c'.sessions, s'.group = "QA" ∧ s'.ended = false ∧
        ((∃ v ∈ c'.servers, v.group = "QA") → s'.readyTold = true) := by
  obtain ⟨report, c', hreport, hstore, -, hlive⟩ :=
    converges reached_spareCatalog rfl rfl rfl (by decide) 1700000010 1700000020
      (Duration.ofSeconds 900) 1700000030 (by decide) (s := spareRequest.session 1) (by decide)
  obtain ⟨⟨s', hs', hsame, hended, -, hready⟩, -⟩ := hlive rfl (by decide)
  exact ⟨report, c', hreport, hstore, s', hs', hsame.group.symm, hended, hready⟩

end PowerLease
