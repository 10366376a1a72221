import PowerLease.Leasing
import PowerLease.Proofs.Lifecycle.Continuity
import PowerLease.Task

/-!
# Routines

What workers and users do to an installation, each run to its end: taking over a report, managing the
cloud, moving the sessions along, and the three requests of the leasing service.

What a routine does to the catalog is listed once (`Routine.Changes`), whatever the cloud answers. All
that holds of every catalog on the way is derived from that list.
-/

namespace PowerLease

variable {σ ν : Type}

/-- An installation whose store holds nothing yet. -/
def Installation.begin (cloud : σ) (network : ν) : Installation σ ν :=
  { cloud, store := .opened .empty, network }

/-- What is done to an installation. -/
inductive Routine where
  | scrape (now : Int)
  | manage
  | tick (window : Duration) (now : Int)
  | lease (user email group duration token : String) (now : Int)
  | extend (token duration : String) (now : Int)
  | giveBack (token : String) (now : Int)

namespace Routine

/-- The installation after a routine, whatever its outcome. -/
def run [Provider σ] : Routine → Installation σ ν → Installation σ ν
  | scrape now, i => (i.scrape now).2
  | manage, i => i.manage.2
  | tick window now, i => (i.tick window now).2
  | lease user email group duration token now, i =>
    { i with store := (Leasing.lease user email group duration token now i.store).2 }
  | extend token duration now, i =>
    { i with store := (Leasing.extend token duration now i.store).2 }
  | giveBack token now, i => { i with store := (Leasing.giveBack token now i.store).2 }

/-- The installation after one routine after another. -/
def runAll [Provider σ] (routines : List Routine) (i : Installation σ ν) : Installation σ ν :=
  routines.foldl (fun i r => r.run i) i

theorem runAll_concat [Provider σ] (routines : List Routine) (r : Routine)
    (i : Installation σ ν) : runAll (routines ++ [r]) i = r.run (runAll routines i) := by
  rw [runAll, List.foldl_append]
  rfl

/-- What a routine makes of a catalog. Reports may fail, and requests may be refused. -/
inductive Changes : Routine → Catalog → Catalog → Prop
  | scraped (report : List Instance) (now : Int) (c : Catalog) :
    Changes (.scrape now) c (c.sync report now).2
  | notScraped (now : Int) (c : Catalog) : Changes (.scrape now) c c
  | managed (c : Catalog) : Changes .manage c c
  | ticked (window : Duration) (now : Int) (c : Catalog) :
    Changes (.tick window now) c (Lifecycle.tick window now c).catalog
  | leased {user email group duration token : String} {now expiry : Int} {d : Duration}
    (hterm : Leasing.term duration now = .ok (d, expiry)) (c : Catalog) :
    Changes (.lease user email group duration token now) c
      (c.openSession { token := Leasing.tokenDigest token, user, email, group, expiry } now).2
  | notLeased {user email group duration token : String} {now : Int} (c : Catalog) :
    Changes (.lease user email group duration token now) c c
  | extended {token duration : String} {now expiry : Int} {d : Duration}
    (hterm : Leasing.term duration now = .ok (d, expiry)) (c : Catalog) :
    Changes (.extend token duration now) c
      (c.extendSession (Leasing.tokenDigest token) expiry now).2
  | notExtended {token duration : String} {now : Int} (c : Catalog) :
    Changes (.extend token duration now) c c
  | gaveBack (token : String) (now : Int) (c : Catalog) :
    Changes (.giveBack token now) c (c.endByToken (Leasing.tokenDigest token) now).2

/-- A routine keeps an open store open, and does to its catalog what is listed. -/
theorem run_changes [Provider σ] (r : Routine) {i : Installation σ ν} {c : Catalog}
    (h : i.store = .opened c) : ∃ c', (r.run i).store = .opened c' ∧ r.Changes c c' := by
  cases i with
  | mk cloud store network =>
  cases h
  cases r with
  | scrape now =>
    simp only [run, Installation.scrape, Reconciler.scrape]
    split
    · exact ⟨c, rfl, .notScraped now c⟩
    next report _ => exact ⟨_, rfl, .scraped report now c⟩
  | manage => exact ⟨c, rfl, .managed c⟩
  | tick window now => exact ⟨_, rfl, .ticked window now c⟩
  | lease user email group duration token now =>
    simp only [run, Leasing.lease]
    split
    · exact ⟨c, rfl, .notLeased c⟩
    next hterm =>
      refine ⟨_, ?_, .leased hterm c⟩
      simp only [Store.attempt]
      split <;> simp_all
  | extend token duration now =>
    simp only [run, Leasing.extend]
    split
    · exact ⟨c, rfl, .notExtended c⟩
    next hterm =>
      refine ⟨_, ?_, .extended hterm c⟩
      simp only [Store.attempt]
      split <;> simp_all
  | giveBack token now =>
    refine ⟨_, ?_, .gaveBack token now c⟩
    simp only [run, Leasing.giveBack, Store.attempt]
    split <;> simp_all

theorem Changes.consistent {r : Routine} {c c' : Catalog} (h : r.Changes c c')
    (hc : c.Consistent) : c'.Consistent := by
  cases h with
  | scraped report now => exact hc.sync report now
  | ticked window now => exact (Lifecycle.continues_tick hc window now).consistent
  | leased _ => exact hc.openSession _ _
  | extended _ => exact hc.extendSession _ _ _
  | gaveBack token now => exact hc.endByToken _ now
  | notScraped | managed | notLeased | notExtended => exact hc

/-- What holds at the start and is kept by each routine of a run holds after the run. -/
theorem runAll_induct [Provider σ] {P : Catalog → Prop} {routines : List Routine}
    (hstep : ∀ r ∈ routines, ∀ c c', r.Changes c c' → P c → P c') {i : Installation σ ν}
    {c : Catalog} (h : i.store = .opened c) (hc : P c) :
    ∃ c', (runAll routines i).store = .opened c' ∧ P c' := by
  induction routines generalizing i c with
  | nil => exact ⟨c, h, hc⟩
  | cons r rest ih =>
    obtain ⟨hr, hrest⟩ := List.forall_mem_cons.mp hstep
    obtain ⟨c', hstore, hchanges⟩ := r.run_changes h
    exact ih hrest hstore (hr c c' hchanges hc)

/-- After any run from an empty store, the store is open and its catalog is consistent. -/
theorem consistent_runAll [Provider σ] (cloud : σ) (network : ν) (routines : List Routine) :
    ∃ c, (runAll routines (.begin cloud network)).store = .opened c ∧ c.Consistent :=
  runAll_induct (fun _ _ _ _ hchanges => hchanges.consistent) rfl Catalog.consistent_empty

end Routine
end PowerLease
