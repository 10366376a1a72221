import PowerLease.Notify.Registry
import PowerLease.Proofs.Delivery.Rounds
import PowerLease.Proofs.Installation.Routines
import PowerLease.Proofs.Lifecycle.Transactions

/-!
# Operations on an installation

All that can be done to an installation, on any provider and any network: routines, rounds of delivery,
choices of a channel, single transactions, and whatever happens to the cloud and the network from
outside. To the catalog, each of these is a list of transactions: a single one where a provider has
given a report (`store_of_report?`), and otherwise any number that take over none
(`reaches_of_report?`).
-/

namespace PowerLease

variable {σ ν : Type}

/-! ## Transactions that take over no report -/

namespace Catalog

variable {c c' : Catalog}

/-- A catalog is reached from another by transactions that take over no report. -/
def Reaches (c c' : Catalog) : Prop :=
  ∃ transactions : List Transaction,
    Transaction.runAll transactions c = c' ∧ ∀ t ∈ transactions, t.report? = none

theorem Reaches.refl (c : Catalog) : Reaches c c := ⟨[], rfl, fun _ h => absurd h List.not_mem_nil⟩

theorem Reaches.run (h : Reaches c c') {t : Transaction} (ht : t.report? = none) :
    Reaches c (t.run c') := by
  obtain ⟨transactions, rfl, hall⟩ := h
  refine ⟨transactions ++ [t], Transaction.runAll_append .., ?_⟩
  rw [List.forall_mem_append]
  exact ⟨hall, List.forall_mem_singleton.mpr ht⟩

/-- Transactions that take over no report leave what the servers show. -/
theorem shown_runAll {transactions : List Transaction} (c : Catalog)
    (h : ∀ t ∈ transactions, t.report? = none) :
    (Transaction.runAll transactions c).servers.map Server.shown = c.servers.map Server.shown := by
  induction transactions generalizing c with
  | nil => rfl
  | cons t rest ih =>
    obtain ⟨ht, hrest⟩ := List.forall_mem_cons.mp h
    refine (ih (t.run c) hrest).trans (shown_run t fun report now he => ?_)
    rw [he] at ht
    exact nomatch ht

theorem Reaches.shown (h : Reaches c c') :
    c'.servers.map Server.shown = c.servers.map Server.shown := by
  obtain ⟨transactions, rfl, hnone⟩ := h
  exact shown_runAll c hnone

theorem reaches_tick (window : Duration) (now : Int) (c : Catalog) :
    Reaches c (Lifecycle.tick window now c).catalog := by
  have hwarned : Reaches c (Lifecycle.expired window now c) :=
    Lifecycle.expireAndWarn_induct (.refl c) (fun _ r _ _ h => h.run (t := .endSession r.group now) rfl)
      fun _ r _ _ text _ h => h.run (t := .markWarned r text now) rfl
  have hannounced : Reaches c (Lifecycle.announced window now c) :=
    Lifecycle.announceAll_induct hwarned fun _ r _ text _ h =>
      h.run (t := .markAnnounced r text now) rfl
  have hcleaned : Reaches c (Lifecycle.cleaned window now c) :=
    Lifecycle.cleanAll_induct hannounced
      (fun _ r _ h => h.run (t := .markOff r (Lifecycle.offNotice r) now) rfl)
      fun _ r _ h => h.run (t := .finalize r) rfl
  exact Lifecycle.tellAllReady_induct hcleaned
    fun _ r _ h => h.run (t := .markReady r (Lifecycle.readyNotice r) now) rfl

end Catalog

/-- A routine that does not scrape takes over no report. -/
theorem Routine.Changes.reaches {r : Routine} {c c' : Catalog} (h : r.Changes c c')
    (hr : ∀ now, r ≠ .scrape now) : c.Reaches c' := by
  have hself : c.Reaches c := .refl c
  cases h with
  | scraped _ now | notScraped now => exact absurd rfl (hr now)
  | ticked window now => exact c.reaches_tick window now
  | leased => exact hself.run (t := .openSession _ _) rfl
  | extended => exact hself.run (t := .extendSession _ _ _) rfl
  | gaveBack token now => exact hself.run (t := .endByToken _ now) rfl
  | managed | notLeased | notExtended => exact hself

/-! ## Operations -/

/-- What can be done to an installation. -/
inductive Operation (σ ν : Type) where
  | routine (r : Routine)
  | dispatch (registry : Registry ν) (clock : Int)
  /-- A user chooses a channel. -/
  | choose (registry : Registry ν) (choice : Setting)
  | transaction (t : Transaction)
  /-- The cloud and the network change by themselves. -/
  | outside (cloud : σ) (network : ν)

namespace Operation

/-- The installation after an operation, whatever its outcome. -/
def run [Provider σ] : Operation σ ν → Installation σ ν → Installation σ ν
  | routine r, i => r.run i
  | dispatch registry clock, i => (i.dispatch registry clock).2
  | choose registry choice, i => { i with store := (registry.choose choice i.store).2 }
  | transaction t, i => { i with store := (i.store.run fun c => ((), t.run c)).2 }
  | outside cloud network, i => { i with cloud, network }

/-- The report that an operation takes over. A provider that refuses gives none. -/
def report? [Provider σ] : Operation σ ν → Installation σ ν → Option (List Instance)
  | routine (.scrape _), i => (Provider.scrape i.cloud).1.toOption
  | transaction t, _ => t.report?
  | _, _ => none

variable {i : Installation σ ν} {c : Catalog}

/-- What scraping does to the catalog is told by what the provider answers. -/
theorem store_scrape [Provider σ] (h : i.store = .opened c) (now : Int) :
    (i.scrape now).2.store = .opened (match (Provider.scrape i.cloud).1 with
      | .error _ => c
      | .ok report => (c.sync report now).2) := by
  obtain ⟨cloud, store, network⟩ := i
  cases h
  simp only [Installation.scrape, Reconciler.scrape]
  cases (Provider.scrape cloud).1 <;> rfl

/-- An operation that takes over a report does nothing else to the catalog. -/
theorem store_of_report? [Provider σ] {op : Operation σ ν} (h : i.store = .opened c)
    {report : List Instance} (hreport : op.report? i = some report) :
    ∃ now, (op.run i).store = .opened (c.sync report now).2 := by
  cases op with
  | routine r =>
    cases r with
    | scrape now =>
      refine ⟨now, (store_scrape h now).trans ?_⟩
      cases hscrape : (Provider.scrape i.cloud).1 with
      | error fault => simp [report?, hscrape, Except.toOption] at hreport
      | ok reported =>
        rw [report?, hscrape] at hreport
        rw [Option.some.inj hreport]
    | _ => exact nomatch hreport
  | transaction t =>
    obtain ⟨now, rfl⟩ := Transaction.eq_sync_of_report? hreport
    exact ⟨now, by rw [run, h]; rfl⟩
  | _ => exact nomatch hreport

/-- Any other operation runs transactions that take over none. -/
theorem reaches_of_report? [Provider σ] {op : Operation σ ν} (h : i.store = .opened c)
    (hreport : op.report? i = none) : ∃ c', (op.run i).store = .opened c' ∧ c.Reaches c' := by
  cases op with
  | routine r =>
    cases r with
    | scrape now =>
      refine ⟨c, (store_scrape h now).trans ?_, .refl c⟩
      cases hscrape : (Provider.scrape i.cloud).1 with
      | error fault => rfl
      | ok reported => simp [report?, hscrape, Except.toOption] at hreport
    | manage | tick | lease | extend | giveBack =>
      obtain ⟨c', hstore, hchanges⟩ := Routine.run_changes _ h
      exact ⟨c', hstore, hchanges.reaches nofun⟩
  | dispatch registry clock =>
    obtain ⟨cloud, store, network⟩ := i
    cases h
    exact Dispatch.run_induct (P := c.Reaches) (fun d hd => hd.run (t := .purge) rfl)
      (fun d id hd => hd.run (t := .deleteNotice id) rfl) (.refl c) registry clock network
  | choose registry choice =>
    simp only [run, Registry.choose, h]
    split
    · exact ⟨c, rfl, .refl c⟩
    · exact ⟨_, rfl, (Catalog.Reaches.refl c).run (t := .setSetting choice) rfl⟩
  | transaction t => exact ⟨t.run c, by rw [run, h]; rfl, (Catalog.Reaches.refl c).run hreport⟩
  | outside => exact ⟨c, h, .refl c⟩

end Operation
end PowerLease
