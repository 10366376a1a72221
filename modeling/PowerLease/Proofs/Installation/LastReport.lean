import Mathlib.Data.List.Perm.Lattice
import PowerLease.Cloud.Simulated
import PowerLease.Proofs.Installation.Operations

/-!
# The servers are the last report

Whatever is done to an installation, its servers are at any time what the last report that was taken
over says, one for each id, and there are none before the first report (`shows_last_report`). Nothing
but the taking over of a report adds or deletes a server, or changes what it shows; also not halfway
through an operation.
-/

namespace PowerLease

variable {σ ν : Type}

namespace Catalog

variable {c c' : Catalog} {last : Option (List Instance)} {report : List Instance}

/-- The servers of a catalog are the instances of a report, each with its last record; without a report,
there are none. -/
structure Shows (last : Option (List Instance)) (c : Catalog) : Prop where
  ids : (c.servers.map Server.id).Nodup
  mem_iff : ∀ i : Instance, i ∈ c.servers.map Server.shown ↔ lastOf i.id (last.getD []) = some i

theorem shows_empty : Shows none .empty := by
  refine ⟨.nil, fun i => ?_⟩
  simp [Catalog.empty, lastOf]

theorem shows_sync (hn : (c.servers.map Server.id).Nodup) (report : List Instance) (now : Int) :
    Shows (some report) (c.sync report now).2 :=
  ⟨nodup_sync hn, fun _ => mem_shown_sync hn⟩

namespace Shows

theorem of_shown (h : Shows last c)
    (hshown : c'.servers.map Server.shown = c.servers.map Server.shown) : Shows last c' := by
  have hids : ∀ d : Catalog, d.servers.map Server.id = (d.servers.map Server.shown).map Instance.id := by
    intro d
    rw [List.map_map]
    rfl
  refine ⟨?_, fun i => hshown ▸ h.mem_iff i⟩
  rw [hids, hshown, ← hids]
  exact h.ids

/-- Without a report there are no servers. -/
theorem servers_eq_nil (h : Shows none c) : c.servers = [] := by
  refine List.eq_nil_iff_forall_not_mem.mpr fun v hv => ?_
  exact nomatch (h.mem_iff v.shown).mp (List.mem_map_of_mem hv)

/-- If the report repeats no id, the servers are the report. -/
theorem perm (h : Shows (some report) c) (hn : (report.map Instance.id).Nodup) :
    (c.servers.map Server.shown).Perm report := by
  have hshown : (c.servers.map Server.shown).Nodup := by
    refine List.Nodup.of_map Instance.id ?_
    rw [List.map_map]
    exact h.ids
  refine (List.perm_ext_iff_of_nodup hshown hn.of_map).mpr fun i => ?_
  rw [h.mem_iff]
  constructor
  · exact fun hlast => List.mem_reverse.mp (List.mem_of_find?_eq_some hlast)
  · exact fun hi => lastOf_of_mem hn hi

end Shows

end Catalog

/-- The installations that operations lead to, with the last report that was taken over. -/
inductive Operated [Provider σ] : Option (List Instance) → Installation σ ν → Prop
  | begin (cloud : σ) (network : ν) : Operated none (.begin cloud network)
  | next {last : Option (List Instance)} {i : Installation σ ν} (h : Operated last i)
    (op : Operation σ ν) : Operated ((op.report? i).or last) (op.run i)

section

variable [Provider σ] {last : Option (List Instance)} {i : Installation σ ν}

theorem Operated.exists_shows (h : Operated last i) : ∃ c, i.store = .opened c ∧ c.Shows last := by
  induction h with
  | begin cloud network => exact ⟨.empty, rfl, Catalog.shows_empty⟩
  | @next last i h op ih =>
    obtain ⟨c, hstore, hshows⟩ := ih
    cases hreport : op.report? i with
    | some report =>
      obtain ⟨now, hrun⟩ := Operation.store_of_report? hstore hreport
      exact ⟨_, hrun, Catalog.shows_sync hshows.ids report now⟩
    | none =>
      obtain ⟨c', hrun, transactions, rfl, hnone⟩ := Operation.reaches_of_report? hstore hreport
      exact ⟨_, hrun, hshows.of_shown (Catalog.shown_runAll c hnone)⟩

/-- **The servers are the last report.** After any operations on any provider and network, the store is
open and its servers are the instances of the last report that was taken over, one for each id with its
last record, and there are none if there was no report. An operation that takes over a report does
nothing but that; at no moment of any other one do the servers show anything else than before. -/
theorem shows_last_report (h : Operated last i) :
    ∃ c, i.store = .opened c ∧ c.Shows last ∧
      (last = none → c.servers = []) ∧
      (∀ report, last = some report → (report.map Instance.id).Nodup →
        (c.servers.map Server.shown).Perm report) ∧
      ∀ op : Operation σ ν,
        (∀ report, op.report? i = some report →
          ∃ now, (op.run i).store = .opened (c.sync report now).2) ∧
        (op.report? i = none →
          ∃ transactions, (op.run i).store = .opened (Transaction.runAll transactions c) ∧
            ∀ done, done <+: transactions →
              (Transaction.runAll done c).servers.map Server.shown =
                c.servers.map Server.shown) := by
  obtain ⟨c, hstore, hshows⟩ := h.exists_shows
  refine ⟨c, hstore, hshows, ?_, ?_, fun op => ⟨?_, fun hreport => ?_⟩⟩
  · rintro rfl
    exact hshows.servers_eq_nil
  · rintro report rfl
    exact hshows.perm
  · exact fun report hreport => Operation.store_of_report? hstore hreport
  · obtain ⟨_, hrun, transactions, rfl, hnone⟩ := Operation.reaches_of_report? hstore hreport
    refine ⟨transactions, hrun, fun done hdone => ?_⟩
    exact Catalog.shown_runAll c fun t ht => hnone t (hdone.subset ht)

end

/-- A report that gives an id twice, in two groups. -/
def repeatedId : List Instance :=
  [⟨"i-1", "web", "QA", .off⟩, ⟨"i-2", "db", "dev", .on⟩, ⟨"i-2", "db", "QA", .on⟩]

/-- A lease after this report leaves what the servers show. -/
theorem shows_last_report_repeatedId :
    ∃ c, (((Operation.routine (.lease "u1" "u1@example.com" "QA" "1h" "t1" 20)).run
        ((Operation.transaction (.sync repeatedId 10)).run
          (.begin (SimulatedCloud.ofInstances []) ()))).store = .opened c) ∧
      c.Shows (some repeatedId) := by
  have hrun := Operated.next (Operated.next (.begin (SimulatedCloud.ofInstances []) ())
    (.transaction (.sync repeatedId 10)))
    (.routine (.lease "u1" "u1@example.com" "QA" "1h" "t1" 20))
  obtain ⟨c, hstore, hshows, -⟩ := shows_last_report hrun
  exact ⟨c, hstore, hshows⟩

end PowerLease
