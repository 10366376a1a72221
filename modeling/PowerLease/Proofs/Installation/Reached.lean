import PowerLease.Proofs.Delivery.Rounds
import PowerLease.Proofs.Installation.Managing

/-!
# Everything that can happen

An installation on the simulated cloud, with all that can be done to it in any order: single
transactions of whoever works on the store, changes of the cloud from outside, whole routines, and rounds
of delivering notices. Transactions and changes of the cloud are the finest steps; routines are made of
them, and are listed as well so that nobody has to take this on trust.

As in a history, the deletion of a session is given a row that some catalog on the way had.
-/

namespace PowerLease

variable {ν : Type} {cloud : SimulatedCloud} {c c' : Catalog} {network : ν}

/-- What can be done to the simulated cloud. -/
inductive CloudChange where
  | put (i : Instance)
  | remove (id : String)
  | setFailing (id : String) (fails : Bool)
  | setUnavailable (refuses : Bool)
  | scrape
  | start (ids : List String)
  | stop (ids : List String)

/-- The cloud after a change. -/
def CloudChange.run : CloudChange → SimulatedCloud → SimulatedCloud
  | put i, cloud => cloud.put i
  | remove id, cloud => (cloud.remove id).2
  | setFailing id fails, cloud => cloud.setFailing id fails
  | setUnavailable refuses, cloud => cloud.setUnavailable refuses
  | scrape, cloud => cloud.scrape.2
  | start ids, cloud => cloud.transition .off .on ids
  | stop ids, cloud => cloud.transition .on .off ids

/-- The installations that can be reached, with the catalogs that they had before. -/
inductive Reached : List Catalog → Installation SimulatedCloud ν → Prop
  | start (instances : List Instance) (network : ν) : Reached [] (.simulated instances network)
  | transaction {past : List Catalog} {cloud : SimulatedCloud} {c : Catalog} {network : ν}
    (t : Transaction) (h : Reached past ⟨cloud, .opened c, network⟩)
    (hread : ∀ s, t = .finalize s → ∃ p ∈ c :: past, s ∈ p.sessions) :
    Reached (c :: past) ⟨cloud, .opened (t.run c), network⟩
  | cloud {past : List Catalog} {i : Installation SimulatedCloud ν} (change : CloudChange)
    (h : Reached past i) : Reached past { i with cloud := change.run i.cloud }
  | routine {past : List Catalog} {i : Installation SimulatedCloud ν} {c : Catalog} (r : Routine)
    (h : Reached past i) (hc : i.store = .opened c) : Reached (c :: past) (r.run i)
  | dispatch {past : List Catalog} {i : Installation SimulatedCloud ν} {c : Catalog}
    (registry : Registry ν) (clock : Int) (h : Reached past i) (hc : i.store = .opened c) :
    Reached (c :: past) (i.dispatch registry clock).2

/-! ## The order of the machines -/

theorem ordered_change (change : CloudChange) (h : cloud.Ordered) :
    (change.run cloud).Ordered := by
  cases change with
  | put i => exact h.put i
  | remove id => exact h.remove id
  | scrape => exact h.scrape
  | start ids => exact h.transition .off .on ids
  | stop ids => exact h.transition .on .off ids
  | setFailing | setUnavailable => exact h

theorem cloud_scrape (now : Int) (store : Store) :
    (Installation.scrape now ⟨cloud, store, network⟩).2.cloud = cloud.scrape.2 := by
  simp only [Installation.scrape, Reconciler.scrape]
  split <;> rfl

theorem ordered_routine (r : Routine) (h : cloud.Ordered) :
    (r.run ⟨cloud, .opened c, network⟩).cloud.Ordered := by
  cases r with
  | scrape now =>
    rw [Routine.run, cloud_scrape]
    exact h.scrape
  | manage =>
    rw [Routine.run, manage_simulated]
    exact (h.transition _ _ _).transition _ _ _
  | tick | lease | extend | giveBack => exact h

/-! ## Rows that notices do not touch -/

theorem sameRows_dispatch (registry : Registry ν) (clock : Int) :
    ∃ c', (Installation.dispatch registry clock ⟨cloud, .opened c, network⟩).2.store = .opened c' ∧
      (Installation.dispatch registry clock ⟨cloud, .opened c, network⟩).2.cloud = cloud ∧
      c.SameRows c' := by
  obtain ⟨c', hstore, hrows⟩ := Dispatch.run_induct (P := c.SameRows)
    (fun _ h => h.trans ⟨rfl, rfl, rfl⟩) (fun _ _ h => h.trans ⟨rfl, rfl, rfl⟩) (.refl c)
    registry clock network
  exact ⟨c', hstore, rfl, hrows⟩

/-! ## What is reached -/

theorem Routine.Changes.follows {r : Routine} (h : r.Changes c c') (hc : c.Consistent) :
    Catalog.Follows c c' := by
  cases h with
  | scraped report now => exact Catalog.follows_run c (.sync report now)
  | ticked window now => exact (Lifecycle.continues_tick hc window now).follows
  | leased _ => exact Catalog.follows_run c (.openSession _ _)
  | extended _ => exact Catalog.follows_run c (.extendSession _ _ _)
  | gaveBack token now => exact Catalog.follows_run c (.endByToken _ now)
  | notScraped | managed | notLeased | notExtended => exact .refl c

/-- What is known of whatever is reached: the machines are in order, the store is open, its catalog is
consistent, and so were the ones before, which it follows. -/
structure InOrder (past : List Catalog) (i : Installation SimulatedCloud ν) (c : Catalog) :
    Prop where
  store : i.store = .opened c
  ordered : i.cloud.Ordered
  consistent : c.Consistent
  past : ∀ p ∈ past, p.Consistent ∧ Catalog.Follows p c

theorem InOrder.next {past : List Catalog} {i i' : Installation SimulatedCloud ν}
    (h : InOrder past i c) (hstore : i'.store = .opened c') (hordered : i'.cloud.Ordered)
    (hc : c'.Consistent) (hfollows : Catalog.Follows c c') : InOrder (c :: past) i' c' where
  store := hstore
  ordered := hordered
  consistent := hc
  past := by
    intro p hp
    rcases List.mem_cons.mp hp with rfl | hp
    · exact ⟨h.consistent, hfollows⟩
    · exact ⟨(h.past p hp).1, (h.past p hp).2.trans hfollows⟩

theorem Reached.inOrder {past : List Catalog} {i : Installation SimulatedCloud ν}
    (h : Reached past i) : ∃ c, InOrder past i c := by
  induction h with
  | start instances network =>
    exact ⟨.empty, rfl, SimulatedCloud.ordered_ofInstances instances, Catalog.consistent_empty,
      fun p hp => absurd hp List.not_mem_nil⟩
  | @transaction past cloud c network t _ hread ih =>
    obtain ⟨d, hd⟩ := ih
    cases hd.store
    refine ⟨t.run c, hd.next rfl hd.ordered (hd.consistent.run t fun r hr s hs hid => ?_)
      (Catalog.follows_run c t)⟩
    -- the row to be deleted was read from this catalog or from one that it follows
    obtain ⟨p, hp, hrp⟩ := hread r hr
    rcases List.mem_cons.mp hp with rfl | hp
    · rw [hd.consistent.session_eq_of_id hs hrp hid]
    · exact (hd.past p hp).2.group_eq (hd.past p hp).1 hrp hs hid
  | cloud change _ ih =>
    obtain ⟨c, hc⟩ := ih
    exact ⟨c, hc.store, ordered_change change hc.ordered, hc.consistent, hc.past⟩
  | @routine past i c r _ hc ih =>
    obtain ⟨d, hd⟩ := ih
    cases hc.symm.trans hd.store
    obtain ⟨c', hstore, hchanges⟩ := r.run_changes hc
    cases i
    cases hc
    exact ⟨c', hd.next hstore (ordered_routine r hd.ordered) (hchanges.consistent hd.consistent)
      (hchanges.follows hd.consistent)⟩
  | @dispatch past i c registry clock _ hc ih =>
    obtain ⟨d, hd⟩ := ih
    cases hc.symm.trans hd.store
    cases i
    cases hc
    obtain ⟨c', hstore, hcloud, hrows⟩ := sameRows_dispatch registry clock
    refine ⟨c', hd.next hstore (hcloud ▸ hd.ordered)
      (hd.consistent.of_rows hrows) ?_⟩
    exact (Catalog.Follows.refl c).of_rows hrows.sessions hrows.lastSession

end PowerLease
