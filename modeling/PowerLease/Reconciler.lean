import PowerLease.Catalog.Store
import PowerLease.Catalog.View
import PowerLease.Cloud.Provider

/-!
# The reconciler

Two steps between the catalog and the provider, in opposite directions. *Scraping* takes over what
the provider reports. *Managing* tells the provider to start what is off and wanted on, and to stop
what is on and wanted off. Neither waits for the other: what managing has started shows only in a
later report.

A report that fails leaves the catalog as it is. A start that fails does not keep the stop from being
tried; the first fault is what the step answers.
-/

namespace PowerLease

/-- Why a step of the reconciler fails. -/
inductive ReconcileFault where
  | provider (fault : ProviderFault)
  | store (fault : StoreFault)
deriving DecidableEq, Repr

/-- What one managing step handed to the provider. -/
structure ManageReport where
  started : List String
  stopped : List String
deriving DecidableEq, Repr

namespace Reconciler

variable {σ : Type} [Provider σ]

/-- Takes over what the provider reports. -/
def scrape (now : Int) (cloud : σ) (store : Store) :
    Except ReconcileFault SyncReport × σ × Store :=
  let (reported, cloud) := Provider.scrape cloud
  match reported with
  | .error fault => (.error (.provider fault), cloud, store)
  | .ok instances =>
    let (synced, store) := store.run (Catalog.sync instances now)
    (synced.mapError .store, cloud, store)

/-- Hands ids to the provider, and answers what it was handed. No call is made for no ids. -/
def handOver (call : List String → σ → Except ProviderFault Unit × σ) (ids : List String)
    (cloud : σ) : Except ProviderFault (List String) × σ :=
  if ids.isEmpty then (.ok [], cloud)
  else
    let (answer, cloud) := call ids cloud
    (answer.map fun _ => ids, cloud)

/-- Starts what is off and wanted on, and stops what is on and wanted off. -/
def manage (cloud : σ) (store : Store) : Except ReconcileFault ManageReport × σ :=
  match store.ask fun c => (c.idsPending .off .on, c.idsPending .on .off) with
  | .error fault => (.error (.store fault), cloud)
  | .ok (toStart, toStop) =>
    let (started, cloud) := handOver Provider.start toStart cloud
    let (stopped, cloud) := handOver Provider.stop toStop cloud
    match started, stopped with
    | .ok started, .ok stopped => (.ok { started, stopped }, cloud)
    | .error fault, _ => (.error (.provider fault), cloud)
    | .ok _, .error fault => (.error (.provider fault), cloud)

end Reconciler
end PowerLease
