import PowerLease.Proofs.Cloud.Simulated
import PowerLease.Proofs.Installation.Routines

/-!
# Reporting and managing with the simulated cloud

What the two steps between a catalog and the simulated cloud do to a single machine, as long as reports
are given and no machine fails: a report finds it where it was going, and managing sends it to the other
side if the catalog saw it on one side and wants it on the other (`told_cases`).
-/

namespace PowerLease

variable {ν : Type} {cloud : SimulatedCloud} {c : Catalog} {network : ν} {m : Machine} {v : Server}
  {now : Int}

/-- An installation on a new simulated cloud. -/
def Installation.simulated (instances : List Instance) (network : ν) :
    Installation SimulatedCloud ν :=
  .begin (.ofInstances instances) network

/-! ## Reports -/

namespace SimulatedCloud

/-- The cloud after a report. -/
def settled (cloud : SimulatedCloud) : SimulatedCloud :=
  { cloud with machines := cloud.machines.map Machine.settle }

/-- What the cloud shows. -/
def report (cloud : SimulatedCloud) : List Instance := cloud.machines.map Machine.shown

theorem nodup_report (h : cloud.Ordered) : (cloud.report.map Instance.id).Nodup := by
  rw [report, List.map_map]
  exact h.nodup

theorem scrape_of_available (h : cloud.unavailable = false) :
    cloud.scrape = (.ok cloud.settled.report, cloud.settled) := by
  rw [scrape, if_neg (by rw [h]; exact Bool.false_ne_true)]
  rfl

end SimulatedCloud

theorem scrape_simulated (h : cloud.unavailable = false) :
    (Installation.scrape now ⟨cloud, .opened c, network⟩).2 =
      ⟨cloud.settled, .opened (c.sync cloud.settled.report now).2, network⟩ := by
  have hscrape : (Provider.scrape cloud : Except ProviderFault (List Instance) × SimulatedCloud) =
      (.ok cloud.settled.report, cloud.settled) := SimulatedCloud.scrape_of_available h
  simp only [Installation.scrape, Reconciler.scrape, hscrape]
  rfl

/-! ## Managing -/

theorem mem_idsPending {state : PowerState} {target : Target} {id : String} :
    id ∈ c.idsPending state target ↔
      ∃ v ∈ c.servers, v.id = id ∧ v.state = state ∧ v.target = some target := by
  simp only [Catalog.idsPending, List.mem_mergeSort, List.mem_map, List.mem_filter,
    Bool.and_eq_true, beq_iff_eq]
  constructor
  · rintro ⟨v, ⟨hv, hseen⟩, hid⟩
    exact ⟨v, hv, hid, hseen⟩
  · rintro ⟨v, hv, hid, hseen⟩
    exact ⟨v, ⟨hv, hseen⟩, hid⟩

namespace SimulatedCloud

/-- The cloud after it was told to start and to stop what a catalog wants. -/
def told (c : Catalog) (cloud : SimulatedCloud) : SimulatedCloud :=
  (cloud.transition .off .on (c.idsPending .off .on)).transition .on .off (c.idsPending .on .off)

theorem transition_nil (source target : Target) : cloud.transition source target [] = cloud := by
  cases cloud
  simp [transition, obeys]

end SimulatedCloud

theorem handOver_simulated {source target : Target} {ids : List String} :
    (Reconciler.handOver (fun ids (cloud : SimulatedCloud) =>
      (.ok (), cloud.transition source target ids)) ids cloud) =
      (.ok ids, cloud.transition source target ids) := by
  unfold Reconciler.handOver
  split
  next hnil =>
    rw [List.isEmpty_iff.mp hnil, SimulatedCloud.transition_nil]
  next => rfl

theorem manage_simulated :
    (Installation.manage ⟨cloud, .opened c, network⟩).2 =
      ⟨cloud.told c, .opened c, network⟩ := by
  have hstart : ∀ (ids : List String) (cloud : SimulatedCloud),
      Reconciler.handOver Provider.start ids cloud = (.ok ids, cloud.transition .off .on ids) :=
    fun _ _ => handOver_simulated
  have hstop : ∀ (ids : List String) (cloud : SimulatedCloud),
      Reconciler.handOver Provider.stop ids cloud = (.ok ids, cloud.transition .on .off ids) :=
    fun _ _ => handOver_simulated
  simp only [Installation.manage, Reconciler.manage, Store.ask, hstart, hstop]
  rfl

namespace Machine

/-- A machine after its cloud was told what a catalog wants. -/
def told (cloud : SimulatedCloud) (c : Catalog) (m : Machine) : Machine :=
  let started := if cloud.obeys (c.idsPending .off .on) m then m.send .off .on else m
  if cloud.obeys (c.idsPending .on .off) started then started.send .on .off else started

end Machine

theorem group_told (m : Machine) : (m.told cloud c).shown.group = m.shown.group := by
  unfold Machine.told
  dsimp only
  split <;> split <;> simp only [Machine.group_send]

theorem machines_told : (cloud.told c).machines = cloud.machines.map (Machine.told cloud c) := by
  simp only [SimulatedCloud.told, SimulatedCloud.transition, List.map_map]
  rfl

theorem obeys_iff (h : cloud.failing = []) {ids : List String} :
    cloud.obeys ids m = true ↔ m.id ∈ ids := by
  simp [SimulatedCloud.obeys_eq_true_iff, h]

/-- A machine is sent to where the catalog wants it, if it was seen on the other side. -/
theorem told_of_pending (hn : (c.servers.map Server.id).Nodup) (h : cloud.failing = [])
    (hv : v ∈ c.servers) (hid : v.id = m.id) {t : Target} (hstate : v.state = t.opposite.state)
    (htarget : v.target = some t) : m.told cloud c = m.send t.opposite t := by
  have honly : ∀ w ∈ c.servers, w.id = m.id → w = v := fun w hw hwid =>
    List.inj_on_of_nodup_map hn hw hv (hwid.trans hid.symm)
  have hpending : ∀ (state : PowerState) (target : Target),
      m.id ∈ c.idsPending state target ↔ v.state = state ∧ v.target = some target := by
    intro state target
    rw [mem_idsPending]
    constructor
    · rintro ⟨w, hw, hwid, hseen⟩
      rwa [honly w hw hwid] at hseen
    · exact fun hseen => ⟨v, hv, hid, hseen⟩
  have hidsend : (m.send .off .on).id = m.id := m.id_send .off .on
  -- what is wanted of the one server picks one of the two orders, and not the other
  unfold Machine.told
  cases t with
  | on =>
    have hstart : cloud.obeys (c.idsPending .off .on) m = true :=
      (obeys_iff h).mpr ((hpending _ _).mpr ⟨hstate, htarget⟩)
    have hstop : ¬cloud.obeys (c.idsPending .on .off) (m.send .off .on) = true := by
      rw [obeys_iff h, hidsend, hpending, htarget]
      exact fun hboth => absurd hboth.2 nofun
    simp only [hstart, if_true, if_neg hstop]
    rfl
  | off =>
    have hstart : ¬cloud.obeys (c.idsPending .off .on) m = true := by
      rw [obeys_iff h, hpending, htarget]
      exact fun hboth => absurd hboth.2 nofun
    have hstop : cloud.obeys (c.idsPending .on .off) m = true :=
      (obeys_iff h).mpr ((hpending _ _).mpr ⟨hstate, htarget⟩)
    simp only [if_neg hstart, hstop, if_true]
    rfl

/-- A machine of which the catalog wants nothing else than what it saw is left alone. -/
theorem told_of_not_pending (h : cloud.failing = [])
    (hnone : ∀ v ∈ c.servers, v.id = m.id → ∀ t : Target, v.state = t.opposite.state →
      v.target ≠ some t) : m.told cloud c = m := by
  have hnot : ∀ t : Target, ¬cloud.obeys (c.idsPending t.opposite.state t) m = true := by
    intro t
    rw [obeys_iff h, mem_idsPending]
    rintro ⟨v, hv, hid, hstate, htarget⟩
    exact hnone v hv hid t hstate htarget
  have hstart : ¬cloud.obeys (c.idsPending .off .on) m = true := hnot .on
  have hstop : ¬cloud.obeys (c.idsPending .on .off) m = true := hnot .off
  unfold Machine.told
  simp only [if_neg hstart, if_neg hstop]

/-- What managing does to a machine. -/
theorem told_cases (hn : (c.servers.map Server.id).Nodup) (h : cloud.failing = []) (m : Machine) :
    m.told cloud c = m ∨ ∃ v ∈ c.servers, v.id = m.id ∧ ∃ t : Target,
      v.state = t.opposite.state ∧ v.target = some t ∧ m.told cloud c = m.send t.opposite t := by
  by_cases hpending : ∃ v ∈ c.servers, v.id = m.id ∧ ∃ t : Target,
      v.state = t.opposite.state ∧ v.target = some t
  · obtain ⟨v, hv, hid, t, hstate, htarget⟩ := hpending
    exact Or.inr ⟨v, hv, hid, t, hstate, htarget, told_of_pending hn h hv hid hstate htarget⟩
  · refine Or.inl (told_of_not_pending h fun v hv hid t hstate htarget => hpending ?_)
    exact ⟨v, hv, hid, t, hstate, htarget⟩

end PowerLease
