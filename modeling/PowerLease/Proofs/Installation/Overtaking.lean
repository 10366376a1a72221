import Mathlib.Data.List.Induction
import PowerLease.Proofs.Installation.Managing
import PowerLease.Proofs.Installation.Operations
import PowerLease.Proofs.Lifecycle.Notices

/-!
# Starts that are overtaken by a cleanup

The lifecycle judges by what the last report showed whether the servers of a group are off. A machine
that was sent on its way since then still counts as off. So a tick may delete the session of a group,
and tell that all its servers are off, while a machine of the group is coming up
(`not_keepsLeases_lateReport`): the tick *overtakes* the start.

This is the only way in which a machine outlives its lease (`keepsLeases_iff_no_overtaking`). It takes a
lease that is over before a report has shown that its machines are on their way, so it cannot happen
where a report lies between managing and the next tick (`keepsLeases_of_isReported`).

The argument is on what the catalog knows of the cloud (`Mirrors`): for each machine it either has the
server as it was last seen, or it has never heard of it, and then nobody has started it.
-/

namespace PowerLease

variable {σ ν : Type}

namespace Installation

/-- All machines that run, or come up, are of a group with a session. -/
def Leased (i : Installation SimulatedCloud ν) : Prop :=
  ∀ m ∈ i.cloud.machines, m.isRunning = true →
    ∃ c, i.store = .opened c ∧ ∃ s ∈ c.sessions, s.group = m.shown.group

/-- A group is closed between two installations: its session is deleted, or the notice is queued that
its servers are off. -/
def Closes (i i' : Installation σ ν) (group : String) : Prop :=
  ∃ c c', i.store = .opened c ∧ i'.store = .opened c' ∧
    ((∃ s ∈ c.sessions, s.group = group ∧ ∀ s' ∈ c'.sessions, s'.id ≠ s.id) ∨
      ∃ n ∈ c'.queue, n ∉ c.queue ∧
        ∃ s : Session, s.group = group ∧ n.message = (Lifecycle.offNotice s).message)

end Installation

/-- A tick overtakes a start: it comes to its end, and finds a session that is over and whose servers
were all last seen off, while a machine of the group is coming up. -/
def Routine.Overtakes (r : Routine) (i : Installation SimulatedCloud ν) : Prop :=
  ∃ window now c, r = .tick window now ∧ i.store = .opened c ∧ (i.tick window now).1 ≠ none ∧
    ∃ s ∈ c.sessions, (s.ended = true ∨ s.expiry < now) ∧
      (∀ v ∈ c.servers, v.group = s.group → v.state = .off) ∧
      ∃ m ∈ i.cloud.machines, m.shown.group = s.group ∧
        m.shown.state = .transitioning ∧ m.settlesTo = some .on

/-! ## What the catalog knows of the cloud -/

/-- The catalog has the machines as they were last seen. One that it has not, does not run. -/
structure Mirrors (cloud : SimulatedCloud) (c : Catalog) : Prop where
  consistent : c.Consistent
  ordered : cloud.Ordered
  failing : cloud.failing = []
  available : cloud.unavailable = false
  coherent : ∀ m ∈ cloud.machines, m.IsCoherent
  seen : ∀ m ∈ cloud.machines,
    (∃ i ∈ c.servers.map Server.shown,
      i.id = m.id ∧ i.group = m.shown.group ∧ i.state = m.lastSeen) ∨
    (m.isRunning = false ∧ ∀ i ∈ c.servers.map Server.shown, i.id ≠ m.id)

variable {cloud : SimulatedCloud} {c c' : Catalog} {network : ν} {r : Routine} {now : Int}
  {window : Duration} {s : Session} {m : Machine}

theorem mirrors_begin {instances : List Instance} (h : ∀ i ∈ instances, i.state = .off) :
    Mirrors (.ofInstances instances) .empty where
  consistent := Catalog.consistent_empty
  ordered := SimulatedCloud.ordered_ofInstances instances
  failing := SimulatedCloud.failing_ofInstances instances
  available := SimulatedCloud.unavailable_ofInstances instances
  coherent := by
    intro m hm
    obtain ⟨hi, hnone⟩ := SimulatedCloud.mem_ofInstances hm
    refine Machine.IsStill.isCoherent ⟨hnone, ?_⟩
    rw [h _ hi]
    exact PowerState.noConfusion
  seen := by
    intro m hm
    obtain ⟨hi, -⟩ := SimulatedCloud.mem_ofInstances hm
    refine Or.inr ⟨?_, fun i hi' => absurd hi' List.not_mem_nil⟩
    rw [Machine.isRunning, h _ hi]
    rfl

/-- Only what servers show matters of the catalog. -/
theorem Mirrors.of_shown (h : Mirrors cloud c) (hc : c'.Consistent)
    (hshown : c'.servers.map Server.shown = c.servers.map Server.shown) : Mirrors cloud c' :=
  ⟨hc, h.ordered, h.failing, h.available, h.coherent, hshown ▸ h.seen⟩

theorem Mirrors.isStill_settle (h : Mirrors cloud c) (hm : m ∈ cloud.machines) :
    m.settle.IsStill :=
  Machine.isStill_settle (h.coherent m hm).mp

/-- After a report the catalog has all machines as they are. -/
theorem Mirrors.scrape (h : Mirrors cloud c) (now : Int) :
    Mirrors cloud.settled (c.sync cloud.settled.report now).2 where
  consistent := h.consistent.sync _ now
  ordered := h.ordered.map Machine.id_settle
  failing := h.failing
  available := h.available
  coherent := by
    intro m' hm'
    obtain ⟨m, hm, rfl⟩ := List.mem_map.mp hm'
    exact (h.isStill_settle hm).isCoherent
  seen := by
    intro m' hm'
    obtain ⟨m, hm, rfl⟩ := List.mem_map.mp hm'
    have hids : (cloud.settled.report.map Instance.id).Nodup :=
      SimulatedCloud.nodup_report (h.ordered.map Machine.id_settle)
    obtain ⟨v, hv, hshown⟩ : ∃ v ∈ (c.sync cloud.settled.report now).2.servers,
        v.shown = m.settle.shown :=
      (Catalog.mem_report_iff h.consistent.serverIds hids).mp (List.mem_map_of_mem hm')
    refine Or.inl ⟨v.shown, List.mem_map_of_mem hv, ?_⟩
    rw [hshown, Machine.lastSeen_of_still (h.isStill_settle hm)]
    exact ⟨rfl, rfl, rfl⟩

/-- Managing sends only machines on their way that the catalog has as they are. -/
theorem Mirrors.manage (h : Mirrors cloud c) : Mirrors (cloud.told c) c where
  consistent := h.consistent
  ordered := (h.ordered.transition _ _ _).transition _ _ _
  failing := h.failing
  available := h.available
  coherent := by
    intro m' hm'
    rw [machines_told] at hm'
    obtain ⟨m, hm, rfl⟩ := List.mem_map.mp hm'
    rcases told_cases h.consistent.serverIds h.failing m with hsame | ⟨-, -, -, t, -, -, hsend⟩
    · rw [hsame]
      exact h.coherent m hm
    · rw [hsend]
      exact Machine.isCoherent_send (h.coherent m hm)
  seen := by
    intro m' hm'
    rw [machines_told] at hm'
    obtain ⟨m, hm, rfl⟩ := List.mem_map.mp hm'
    rcases told_cases h.consistent.serverIds h.failing m with hsame | ⟨v, hv, hid, t, -, -, hsend⟩
    · rw [hsame]
      exact h.seen m hm
    -- a machine that is sent on its way still counts as it was last seen
    · rw [hsend, Machine.lastSeen_send (h.coherent m hm), Machine.group_send, Machine.id_send]
      rcases h.seen m hm with hseen | ⟨-, hunknown⟩
      · exact Or.inl hseen
      · exact absurd hid (hunknown v.shown (List.mem_map_of_mem hv))

/-! ## What a routine keeps -/

namespace Routine

/-- Everything but a tick keeps all sessions. -/
theorem Changes.kept (h : r.Changes c c') (hr : ∀ window now, r ≠ .tick window now) :
    Catalog.Kept c c' := by
  cases h with
  | ticked window now => exact absurd rfl (hr window now)
  | leased _ => exact Catalog.kept_openSession _ _
  | extended _ => exact Catalog.kept_extendSession _ _ _
  | gaveBack token now => exact Catalog.kept_endByToken _ now
  | scraped | notScraped | managed | notLeased | notExtended => exact fun s hs => ⟨s, hs, .refl s, id⟩

/-- A session stays, except for a tick that comes to its end and decides to delete it. -/
theorem Changes.kept_or_deleted (h : r.Changes c c') (hc : c.Consistent) (hs : s ∈ c.sessions) :
    (∃ s' ∈ c'.sessions, s.SameLease s') ∨ ∃ window now, r = .tick window now ∧
      (Lifecycle.tick window now c).aborted = false ∧ Lifecycle.fate window now c s = none := by
  by_cases hr : ∃ window now, r = .tick window now
  · obtain ⟨window, now, rfl⟩ := hr
    cases h
    cases habort : (Lifecycle.tick window now c).aborted with
    | true =>
      obtain ⟨s', hs', hsame, -⟩ := Lifecycle.kept_of_aborted habort s hs
      exact Or.inl ⟨s', hs', hsame⟩
    | false =>
      cases hfate : Lifecycle.fate window now c s with
      | none => exact Or.inr ⟨window, now, rfl, habort, hfate⟩
      | some s' =>
        refine Or.inl ⟨s', ?_, Lifecycle.sameLease_of_fate hfate⟩
        rw [Lifecycle.sessions_tick hc habort]
        exact List.mem_filterMap.mpr ⟨s, hs, hfate⟩
  · obtain ⟨s', hs', hsame, -⟩ := h.kept (fun window now he => hr ⟨window, now, he⟩) s hs
    exact Or.inl ⟨s', hs', hsame⟩

/-- Only ticks queue notices. -/
theorem Changes.queue_eq (h : r.Changes c c') :
    c'.queue = c.queue ∨ ∃ window now, r = .tick window now ∧
      c' = (Lifecycle.tick window now c).catalog := by
  let Same (d : Catalog) : Prop := d.queue = c.queue
  cases h with
  | ticked window now => exact Or.inr ⟨window, now, rfl, rfl⟩
  | leased _ => exact Or.inl (Catalog.openSession_induct (P := Same) rfl fun _ => rfl)
  | extended _ => exact Or.inl (Catalog.extendSession_induct (P := Same) rfl rfl)
  | gaveBack token now =>
    exact Or.inl (Catalog.endByToken_induct (P := Same) rfl fun _ _ _ _ => rfl)
  | scraped | notScraped | managed | notLeased | notExtended => exact Or.inl rfl

end Routine

/-! ## One step -/

/-- What reporting and managing do not have a part in leaves the cloud alone. -/
theorem run_idle (h : Mirrors cloud c) (hscrape : ∀ now, r ≠ .scrape now) (hmanage : r ≠ .manage)
    (network : ν) : ∃ c', r.run ⟨cloud, .opened c, network⟩ = ⟨cloud, .opened c', network⟩ ∧
      Mirrors cloud c' := by
  obtain ⟨c', hstore, hchanges⟩ := r.run_changes (i := ⟨cloud, .opened c, network⟩) rfl
  refine ⟨c', ?_, h.of_shown (hchanges.consistent h.consistent)
    (hchanges.reaches hscrape).shown⟩
  cases r with
  | scrape now => exact absurd rfl (hscrape now)
  | manage => exact absurd rfl hmanage
  | tick window now => rw [← hstore]; rfl
  | lease user email group duration token now => rw [← hstore]; rfl
  | extend token duration now => rw [← hstore]; rfl
  | giveBack token now => rw [← hstore]; rfl

/-- A machine that runs after a routine ran before it, or its group has a session. -/
def StartsOnlyLeased (cloud cloud' : SimulatedCloud) (c : Catalog) : Prop :=
  ∀ m' ∈ cloud'.machines, m'.isRunning = true → ∃ m ∈ cloud.machines,
    m.shown.group = m'.shown.group ∧
      (m.isRunning = true ∨ ∃ s ∈ c.sessions, s.group = m.shown.group)

theorem startsOnlyLeased_settled (h : Mirrors cloud c) :
    StartsOnlyLeased cloud cloud.settled c := by
  intro m' hm' hrun
  obtain ⟨m, hm, rfl⟩ := List.mem_map.mp hm'
  exact ⟨m, hm, m.group_settle.symm, Or.inl (Machine.isRunning_settle (h.coherent m hm) hrun)⟩

theorem startsOnlyLeased_told (h : Mirrors cloud c) :
    StartsOnlyLeased cloud (cloud.told c) c := by
  intro m' hm' hrun
  rw [machines_told] at hm'
  obtain ⟨m, hm, rfl⟩ := List.mem_map.mp hm'
  rcases told_cases h.consistent.serverIds h.failing m with
    hsame | ⟨v, hv, hid, t, -, htarget, hsend⟩
  · rw [hsame] at hrun ⊢
    exact ⟨m, hm, rfl, Or.inl hrun⟩
  · rw [hsend, Machine.group_send]
    refine ⟨m, hm, rfl, Or.inr ?_⟩
    -- the machine is known, so its group is the one of the server that is wanted
    rcases h.seen m hm with ⟨i, hi, hiid, higroup, -⟩ | ⟨-, hunknown⟩
    · obtain ⟨w, hw, rfl⟩ := List.mem_map.mp hi
      have hwv : w = v := h.consistent.server_eq_of_id hw hv (hiid.trans hid.symm)
      obtain ⟨s, hs, hg, -⟩ := h.consistent.exists_session hv htarget
      rw [hwv] at higroup
      exact ⟨s, hs, hg.trans higroup⟩
    · exact absurd hid (hunknown v.shown (List.mem_map_of_mem hv))

/-- What a routine leaves of the cloud and of the catalog's knowledge of it. -/
theorem Mirrors.run (h : Mirrors cloud c) (r : Routine) (network : ν) :
    ∃ cloud' c', r.run ⟨cloud, .opened c, network⟩ = ⟨cloud', .opened c', network⟩ ∧
      Mirrors cloud' c' ∧ StartsOnlyLeased cloud cloud' c := by
  by_cases hscrape : ∃ now, r = .scrape now
  · obtain ⟨now, rfl⟩ := hscrape
    exact ⟨_, _, scrape_simulated h.available, h.scrape now, startsOnlyLeased_settled h⟩
  by_cases hmanage : r = .manage
  · rw [hmanage]
    exact ⟨_, _, manage_simulated, h.manage, startsOnlyLeased_told h⟩
  · obtain ⟨c', hrun, hmirrors⟩ :=
      run_idle h (fun now he => hscrape ⟨now, he⟩) hmanage network
    exact ⟨cloud, c', hrun, hmirrors, fun m hm hrun => ⟨m, hm, rfl, Or.inl hrun⟩⟩

/-- A tick that deletes the session of a machine that runs overtakes its start. -/
theorem overtakes_of_deleted (h : Mirrors cloud c) (hs : s ∈ c.sessions)
    (habort : (Lifecycle.tick window now c).aborted = false)
    (hfate : Lifecycle.fate window now c s = none) (hm : m ∈ cloud.machines)
    (hgroup : m.shown.group = s.group) (hrun : m.isRunning = true) :
    (Routine.tick window now).Overtakes ⟨cloud, .opened c, network⟩ := by
  obtain ⟨hover, hoff⟩ := Lifecycle.fate_eq_none_iff.mp hfate
  -- the tick has only looked at what was last seen
  have hseen : m.lastSeen = .off := by
    rcases h.seen m hm with ⟨i, hi, -, higroup, histate⟩ | ⟨hidle, -⟩
    · obtain ⟨v, hv, rfl⟩ := List.mem_map.mp hi
      rw [← histate]
      exact hoff v hv (higroup.trans hgroup)
    · rw [hrun] at hidle
      exact Bool.noConfusion hidle
  have hgoing := Machine.settlesTo_of_running (h.coherent m hm) hrun hseen
  have hmoving : m.shown.state = .transitioning :=
    (h.coherent m hm).mpr (hgoing ▸ Option.some_ne_none _)
  refine ⟨window, now, c, rfl, rfl, ?_, s, hs, hover, hoff, m, hm, hgroup, hmoving, hgoing⟩
  intro hnone
  rw [Lifecycle.result_eq_none_iff.mp hnone] at habort
  exact Bool.noConfusion habort

theorem leased_run (h : Mirrors cloud c) (hl : Installation.Leased ⟨cloud, .opened c, network⟩)
    (hno : ¬r.Overtakes ⟨cloud, .opened c, network⟩) :
    (r.run ⟨cloud, .opened c, network⟩).Leased := by
  obtain ⟨c', hstore, hchanges⟩ := r.run_changes (i := ⟨cloud, .opened c, network⟩) rfl
  obtain ⟨cloud', c'', hrun, -, hstarts⟩ := h.run r network
  intro m' hm' hrunning
  refine ⟨c', hstore, ?_⟩
  rw [hrun] at hm'
  obtain ⟨m, hm, hgroup, hwas⟩ := hstarts m' hm' hrunning
  obtain ⟨s, hs, hsgroup⟩ : ∃ s ∈ c.sessions, s.group = m.shown.group := by
    rcases hwas with hrunning | hleased
    · obtain ⟨d, hd, hleased⟩ := hl m hm hrunning
      cases hd
      exact hleased
    · exact hleased
  rcases hchanges.kept_or_deleted h.consistent hs with
    ⟨s', hs', hsame⟩ | ⟨window, now, rfl, habort, hfate⟩
  · exact ⟨s', hs', hsame.group.symm.trans (hsgroup.trans hgroup)⟩
  · -- a tick does not touch the cloud, so the machine runs while its session is deleted
    have hcloud : cloud' = cloud := congrArg Installation.cloud hrun.symm
    have hmgroup : m'.shown.group = s.group := (hsgroup.trans hgroup).symm
    exact absurd (overtakes_of_deleted h hs habort hfate (hcloud ▸ hm') hmgroup hrunning) hno

theorem not_leased_of_overtakes (h : Mirrors cloud c)
    (hover : r.Overtakes ⟨cloud, .opened c, network⟩) :
    ¬(r.run ⟨cloud, .opened c, network⟩).Leased := by
  obtain ⟨window, now, d, rfl, hd, hresult, s, hs, hended, hoff, m, hm, hgroup, hmoving, hgoing⟩ :=
    hover
  cases hd
  intro hl
  have habort : (Lifecycle.tick window now c).aborted = false := by
    rw [← Bool.not_eq_true]
    exact fun habort => hresult (Lifecycle.result_eq_none_iff.mpr habort)
  have hrunning : m.isRunning = true := Machine.isRunning_iff.mpr (Or.inr ⟨hmoving, hgoing⟩)
  obtain ⟨d, hd, s', hs', hsgroup⟩ := hl m hm hrunning
  have hsessions : d.sessions = c.sessions.filterMap (Lifecycle.fate window now c) := by
    rw [← Lifecycle.sessions_tick h.consistent habort, ← Store.opened.inj hd]
  rw [hsessions, List.mem_filterMap] at hs'
  obtain ⟨t, ht, hfate⟩ := hs'
  have hts : t = s := by
    refine h.consistent.session_eq_of_group ht hs ?_
    rw [(Lifecycle.sameLease_of_fate hfate).group, hsgroup, hgroup]
  rw [hts, Lifecycle.fate_eq_none_iff.mpr ⟨hended, hoff⟩] at hfate
  exact absurd hfate nofun

/-- A group is closed while a machine of it runs only by a tick that overtakes its start. -/
theorem overtakes_of_closes (h : Mirrors cloud c) {group : String}
    (hcloses : Installation.Closes ⟨cloud, .opened c, network⟩
      (r.run ⟨cloud, .opened c, network⟩) group)
    (hm : m ∈ cloud.machines) (hgroup : m.shown.group = group) (hrun : m.isRunning = true) :
    r.Overtakes ⟨cloud, .opened c, network⟩ := by
  obtain ⟨c', hstore, hchanges⟩ := r.run_changes (i := ⟨cloud, .opened c, network⟩) rfl
  obtain ⟨d, d', hd, hd', hdeleted | ⟨n, hn, hnew, t, ht, hmessage⟩⟩ := hcloses
  · cases hd
    cases hstore.symm.trans hd'
    obtain ⟨s, hs, hsgroup, hgone⟩ := hdeleted
    rcases hchanges.kept_or_deleted h.consistent hs with
      ⟨s', hs', hsame⟩ | ⟨window, now, rfl, habort, hfate⟩
    · exact absurd hsame.id.symm (hgone s' hs')
    · exact overtakes_of_deleted h hs habort hfate hm (hgroup.trans hsgroup.symm) hrun
  · cases hd
    cases hstore.symm.trans hd'
    rcases hchanges.queue_eq with hqueue | ⟨window, now, rfl, rfl⟩
    · rw [hqueue] at hn
      exact absurd hn hnew
    · obtain ⟨habort, s, hs, hsgroup, hfate⟩ :=
        Lifecycle.deleted_of_offNotice h.consistent hn hnew hmessage
      exact overtakes_of_deleted h hs habort hfate hm (hgroup.trans (hsgroup.trans ht).symm) hrun

/-! ## Whole runs -/

/-- At any time of a run from a cloud that is off, the catalog has what was last seen of it. -/
theorem mirrors_runAll {instances : List Instance} (hoff : ∀ i ∈ instances, i.state = .off)
    (network : ν) (routines : List Routine) :
    ∃ cloud c, Routine.runAll routines (.simulated instances network) =
      ⟨cloud, .opened c, network⟩ ∧ Mirrors cloud c := by
  induction routines using List.reverseRecOn with
  | nil => exact ⟨_, _, rfl, mirrors_begin hoff⟩
  | append_singleton rest r ih =>
    obtain ⟨cloud, c, hrest, h⟩ := ih
    obtain ⟨cloud', c', hrun, h', -⟩ := h.run r network
    exact ⟨cloud', c', by rw [Routine.runAll_concat, hrest, hrun], h'⟩

theorem leased_begin {instances : List Instance} (hoff : ∀ i ∈ instances, i.state = .off)
    (network : ν) : (Installation.simulated instances network).Leased := by
  intro m hm hrun
  obtain ⟨hi, -⟩ := SimulatedCloud.mem_ofInstances hm
  rw [Machine.isRunning, hoff _ hi] at hrun
  exact Bool.noConfusion hrun

/-- A run in which every machine that runs or comes up is at all times of a group with a session, and in
which no group is closed while a machine of it runs or comes up. -/
structure Routine.KeepsLeases (routines : List Routine) (i : Installation SimulatedCloud ν) :
    Prop where
  leased : ∀ before, before <+: routines → (runAll before i).Leased
  closed : ∀ before r, before ++ [r] <+: routines → ∀ group,
    Installation.Closes (runAll before i) (runAll (before ++ [r]) i) group →
      ∀ m ∈ (runAll before i).cloud.machines, m.shown.group = group → m.isRunning = false

theorem keepsLeases_of_no_overtaking {instances : List Instance}
    (hoff : ∀ i ∈ instances, i.state = .off) {network : ν} {routines : List Routine}
    (hno : ∀ before r, before ++ [r] <+: routines →
      ¬r.Overtakes (Routine.runAll before (.simulated instances network))) :
    Routine.KeepsLeases routines (.simulated instances network) where
  leased := by
    intro before
    induction before using List.reverseRecOn with
    | nil => exact fun _ => leased_begin hoff network
    | append_singleton rest r ih =>
      intro hbefore
      obtain ⟨cloud, c, hrun, h⟩ := mirrors_runAll hoff network rest
      have hl := ih ((List.prefix_append rest [r]).trans hbefore)
      have hnot := hno rest r hbefore
      rw [hrun] at hl hnot
      rw [Routine.runAll_concat, hrun]
      exact leased_run h hl hnot
  closed := by
    intro before r hbefore group hcloses m hm hgroup
    obtain ⟨cloud, c, hrun, h⟩ := mirrors_runAll hoff network before
    have hnot := hno before r hbefore
    rw [Routine.runAll_concat, hrun] at hcloses
    rw [hrun] at hm hnot
    rw [← Bool.not_eq_true]
    exact fun hrunning => hnot (overtakes_of_closes h hcloses hm hgroup hrunning)

/-- **When machines outlive their leases.** In a run from a cloud that is off, all leases are kept
exactly if no tick overtakes a start. -/
theorem keepsLeases_iff_no_overtaking {instances : List Instance}
    (hoff : ∀ i ∈ instances, i.state = .off) (network : ν) (routines : List Routine) :
    Routine.KeepsLeases routines (.simulated instances network) ↔
      ∀ before r, before ++ [r] <+: routines →
        ¬r.Overtakes (Routine.runAll before (.simulated instances network)) := by
  refine ⟨fun hkeeps before r hbefore hover => ?_, keepsLeases_of_no_overtaking hoff⟩
  obtain ⟨cloud, c, hrun, h⟩ := mirrors_runAll hoff network before
  have hafter := hkeeps.leased _ hbefore
  rw [Routine.runAll_concat, hrun] at hafter
  rw [hrun] at hover
  exact not_leased_of_overtakes h hover hafter

/-- A lease whose time is over before a report has shown that its machine comes up. -/
def lateReport : List Routine :=
  [.scrape 1700000000, .lease "u1" "u1@example.com" "QA" "1h" "t1" 1700000000, .manage,
    .tick (Duration.ofSeconds 900) 1700003601]

/-- A machine that is off, of a group that can be leased. -/
def switchedOff : Instance := ⟨"i-1", "web", "QA", .off⟩

theorem keepsLeases_iff_no_overtaking_lateReport :
    (∀ i ∈ [switchedOff], i.state = .off) ∧
      (Routine.KeepsLeases lateReport (.simulated [switchedOff] ()) ↔
        ∀ before r, before ++ [r] <+: lateReport →
          ¬r.Overtakes (Routine.runAll before (.simulated [switchedOff] ()))) :=
  ⟨by decide, keepsLeases_iff_no_overtaking (by decide) () lateReport⟩

/-- The machine of that lease comes up, and its group has no session any more. -/
theorem not_keepsLeases_lateReport :
    ¬Routine.KeepsLeases lateReport (.simulated [switchedOff] ()) := by
  intro hkeeps
  have hl := hkeeps.leased lateReport (List.prefix_refl _)
  have hcloud : (Routine.runAll lateReport (.simulated [switchedOff] ())).cloud.machines =
      [⟨⟨"i-1", "web", "QA", .transitioning⟩, some .on⟩] := by decide +kernel
  have hstore : (Routine.runAll lateReport
      (.simulated [switchedOff] ())).store.catalog?.map Catalog.sessions = some [] := by
    decide +kernel
  obtain ⟨c, hc, s, hs, -⟩ := hl _ (hcloud ▸ List.mem_singleton_self _) rfl
  rw [hc] at hstore
  rw [show c.sessions = [] from Option.some.inj hstore] at hs
  exact absurd hs List.not_mem_nil

/-! ## Reports in time -/

/-- Whether a report was taken over since the cloud was managed last. -/
def Routine.isReported (routines : List Routine) : Bool :=
  routines.foldl (fun reported r =>
    match r with
    | .scrape _ => true
    | .manage => false
    | .tick _ _ | .lease .. | .extend .. | .giveBack .. => reported) true

/-- With a report since the last managing, no machine is on its way. -/
theorem arrived_of_isReported {instances : List Instance}
    (hoff : ∀ i ∈ instances, i.state = .off) (network : ν) {routines : List Routine}
    (h : Routine.isReported routines = true) :
    ∀ m ∈ (Routine.runAll routines (.simulated instances network)).cloud.machines,
      m.settlesTo = none := by
  induction routines using List.reverseRecOn with
  | nil => exact fun m hm => (SimulatedCloud.mem_ofInstances hm).2
  | append_singleton rest r ih =>
    obtain ⟨cloud, c, hrun, hmirrors⟩ := mirrors_runAll hoff network rest
    rw [Routine.isReported, List.foldl_append] at h
    rw [Routine.runAll_concat]
    cases r with
    | scrape now =>
      intro m' hm'
      rw [hrun, Routine.run, scrape_simulated hmirrors.available] at hm'
      obtain ⟨m, hm, rfl⟩ := List.mem_map.mp hm'
      exact (hmirrors.isStill_settle hm).arrived
    | manage => exact absurd h Bool.false_ne_true
    | tick window now =>
      rw [hrun] at ih ⊢
      exact ih h
    | lease | extend | giveBack => exact ih h

/-- Where a report lies between managing and the next tick, all leases are kept. -/
theorem keepsLeases_of_isReported {instances : List Instance}
    (hoff : ∀ i ∈ instances, i.state = .off) (network : ν) {routines : List Routine}
    (h : ∀ before window now, before ++ [.tick window now] <+: routines →
      Routine.isReported before = true) :
    Routine.KeepsLeases routines (.simulated instances network) := by
  refine keepsLeases_of_no_overtaking hoff fun before r hbefore hover => ?_
  obtain ⟨window, now, c, rfl, -, -, s, -, -, -, m, hm, -, -, hgoing⟩ := hover
  rw [arrived_of_isReported hoff network (h before window now hbefore) m hm] at hgoing
  exact absurd hgoing nofun

end PowerLease
