import PowerLease.Proofs.Interleaving.Journal
import PowerLease.Proofs.Lifecycle.Continuity

/-!
# Ticks are interleavings

What a stage of a tick writes is decided on the catalog that the stage has read (`Lifecycle.IsDecided`).
So if the catalog that is written on was reached from the one that was read, whoever else wrote in
between, the write goes on with the interleaving (`Interleaving.decided`).

Where nobody disturbs it, this holds of each write of a stage in turn, and so of a stage and of the whole
tick (`Interleaving.tick`).
-/

namespace PowerLease

/-! ## Stages -/

namespace Lifecycle

variable {p : Catalog} {q : Progress} {window : Duration} {now : Int}

/-- All that a stage writes is decided on the catalog that it finds: whatever such writes keep, the stage
keeps. -/
def IsDecided (stage : Progress → Progress) : Prop :=
  ∀ (P : Catalog → Prop) (q : Progress), P q.catalog →
    (∀ d t, Decides q.catalog t → P d → P (t.run d)) → P (stage q).catalog

/-- Any part of the first writes is decided on the catalog that was read, even if it is not the one that
they find. -/
theorem firstWrites_decided {P : Catalog → Prop} {writes : List FirstWrite}
    (hwrites : writes ⊆ firstWrites window now p.activeSessions) (h : P q.catalog)
    (hstep : ∀ d t, Decides p t → P d → P (t.run d)) :
    P (writes.foldl (FirstWrite.run now) q).catalog := by
  refine firstWrites_induct hwrites h ?_ ?_
  · exact fun d _ hr hover => hstep d _ (.expire hr hover)
  · exact fun d _ hr haging _ htext => hstep d _ (.warn hr haging htext)

theorem isDecided_expireAndWarn (window : Duration) (now : Int) :
    IsDecided (expireAndWarn window now) :=
  fun _ _ h hstep => firstWrites_decided (List.Subset.refl _) h hstep

theorem isDecided_announceAll (now : Int) : IsDecided (announceAll now) :=
  fun _ _ h hstep => announceAll_induct h fun d _ hr _ htext => hstep d _ (.announce hr htext)

theorem isDecided_cleanAll (now : Int) : IsDecided (cleanAll now) := by
  refine fun _ _ h hstep => cleanAll_induct h ?_ ?_
  · exact fun d _ hr => hstep d _ (.tellOff hr)
  · exact fun d _ hr => hstep d _ (.delete hr)

theorem isDecided_tellAllReady (now : Int) : IsDecided (tellAllReady now) :=
  fun _ _ h hstep => tellAllReady_induct h fun d _ hr => hstep d _ (.tellReady hr)

end Lifecycle

/-! ## Interleavings -/

namespace Interleaving

variable {journal before since : Journal} {p c : Catalog} {q : Lifecycle.Progress}
  {t : Transaction} {stage : Lifecycle.Progress → Lifecycle.Progress}

/-- A reading is on the way of all that follows it. -/
theorem mem_of_since (hp : Interleaving before p) (hc : Interleaving (since ++ before) c) :
    p ∈ c :: (since ++ before).map Entry.met := by
  induction since generalizing c with
  | nil =>
    rw [hp.unique hc]
    exact List.mem_cons_self
  | cons e rest ih => exact List.mem_cons_of_mem c (ih hc.of_cons.1)

/-- What was decided on a reading may be written at any later time. -/
theorem decided (hp : Interleaving before p) (ht : Lifecycle.Decides p t)
    (hc : ∃ since, Interleaving (since ++ before) c) :
    ∃ since, Interleaving (since ++ before) (t.run c) := by
  obtain ⟨since, hc⟩ := hc
  exact ⟨⟨c, t⟩ :: since, .lifecycle t hc (hp.mem_of_since hc) ht⟩

/-- A stage that nobody disturbs goes on with the interleaving. -/
theorem advance (hstage : Lifecycle.IsDecided stage) (h : Interleaving journal q.catalog) :
    ∃ since, Interleaving (since ++ journal) (stage q).catalog :=
  hstage (fun d => ∃ since, Interleaving (since ++ journal) d) q ⟨[], h⟩ fun _ _ ht => h.decided ht

/-- **A tick that nobody disturbs is an interleaving.** -/
theorem tick (h : Interleaving journal c) (window : Duration) (now : Int) :
    ∃ since, Interleaving (since ++ journal) (Lifecycle.tick window now c).catalog := by
  obtain ⟨first, h1⟩ := advance (q := { catalog := c }) (Lifecycle.isDecided_expireAndWarn window now) h
  obtain ⟨second, h2⟩ := advance (Lifecycle.isDecided_announceAll now) h1
  obtain ⟨third, h3⟩ := advance (Lifecycle.isDecided_cleanAll now) h2
  obtain ⟨fourth, h4⟩ := advance (Lifecycle.isDecided_tellAllReady now) h3
  refine ⟨fourth ++ (third ++ (second ++ first)), ?_⟩
  rw [List.append_assoc, List.append_assoc, List.append_assoc]
  exact h4

end Interleaving
end PowerLease
