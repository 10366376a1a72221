import PowerLease.Cloud.Simulated
import PowerLease.Proofs.Installation.Routines
import PowerLease.Proofs.Lifecycle.Outcome

/-!
# Leases that make the lifecycle abort

The leasing service accepts every expiry that can be stored, and the lifecycle words only those before
the year 10000. So there are leases that make every tick abort, and `tick_eq_none_iff` says exactly
when: as long as a live session has such an expiry and something to be told about it. Nothing takes the
session out of the way of the others, so the next tick aborts again. Of the work for other groups only
the ending is still done, for that comes first.

No tick aborts as long as no lease is asked for that ends so late (`tick_ne_none_of_endsInTime`).
-/

namespace PowerLease

variable {σ ν : Type}

namespace Lifecycle

variable {c : Catalog} {s : Session} {window : Duration} {now : Int}

/-- A tick ends all sessions whose time is over, whether it comes to its end or not. -/
theorem ended_tick (hc : c.Consistent) (hs : s ∈ c.sessions) (hexp : s.expiry < now) {s' : Session}
    (hs' : s' ∈ (tick window now c).catalog.sessions) (hid : s'.id = s.id) : s'.ended = true := by
  have hover : isExpired now s = true := isExpired_iff.mpr hexp
  cases habort : (tick window now c).aborted with
  | true =>
    -- the ending comes before everything that can abort
    obtain ⟨t, ht, hsame, hended⟩ := ended_of_aborted hc habort hs hover
    have hts : s' = t := (continues_tick hc window now).consistent.session_eq_of_id hs' ht
      (hid.trans hsame.id)
    rw [hts, hended]
  | false =>
    rw [sessions_tick hc habort, List.mem_filterMap] at hs'
    obtain ⟨t, ht, hfate⟩ := hs'
    have hts : t = s := hc.session_eq_of_id ht hs ((sameLease_of_fate hfate).id.trans hid)
    rw [hts] at hfate
    rw [fate_of_isExpired hover hfate]
    rfl

end Lifecycle

/-- **When a tick aborts.** After any run from an empty store, on any provider, a tick has no report
exactly if there is a live session whose time is not over, whose expiry lies in the year 10000 or later,
and which is to be announced or to be warned. Also then it has ended all sessions whose time is over. -/
theorem tick_eq_none_iff [Provider σ] (cloud : σ) (network : ν) (routines : List Routine) :
    ∃ c, (Routine.runAll routines (.begin cloud network)).store = .opened c ∧
      ∀ window now,
        (((Routine.runAll routines (.begin cloud network)).tick window now).1 = none ↔
          ∃ s ∈ c.sessions, s.ended = false ∧ now ≤ s.expiry ∧
            (Calendar.endOfTime : Int) ≤ s.expiry ∧
            (s.unannounced = true ∨
              (s.warned = false ∧ s.expiry < Lifecycle.threshold window now))) ∧
        ∀ s ∈ c.sessions, s.expiry < now →
          ∀ s' ∈ (Lifecycle.tick window now c).catalog.sessions, s'.id = s.id → s'.ended = true := by
  obtain ⟨c, hstore, hc⟩ := Routine.consistent_runAll cloud network routines
  refine ⟨c, hstore, fun window now => ⟨?_, ?_⟩⟩
  · rw [Installation.tick, hstore]
    exact Lifecycle.result_eq_none_iff.trans (Lifecycle.aborted_tick_iff hc)
  · exact fun s hs hexp s' hs' hid => Lifecycle.ended_tick hc hs hexp hs' hid

/-- A lease that the service accepts, and that makes the next tick abort. -/
theorem tick_eq_none_of_late_lease :
    ((Routine.runAll
      [.scrape 1700000000, .lease "u1" "u1@example.com" "QA" "8000years" "t1" 1700000000]
      (.begin (SimulatedCloud.ofInstances [⟨"i-1", "web", "QA", .off⟩]) ())).tick
        (Duration.ofSeconds 900) 1700000001).1 = none := by
  decide +kernel

namespace Routine

/-- Whether nothing is asked for that ends in the year 10000 or later. -/
def EndsInTime : Routine → Prop
  | lease _ _ _ duration _ now | extend _ duration now =>
    ∀ d expiry, Leasing.term duration now = .ok (d, expiry) → expiry < Calendar.endOfTime
  | scrape _ | manage | tick _ _ | giveBack _ _ => True

/-- Every expiry can be worded. -/
def InTime (c : Catalog) : Prop := ∀ s ∈ c.sessions, s.expiry < Calendar.endOfTime

theorem not_aborted_of_inTime {c : Catalog} (hc : c.Consistent) (h : InTime c) (window : Duration)
    (now : Int) : (Lifecycle.tick window now c).aborted = false := by
  rw [← Bool.not_eq_true, Lifecycle.aborted_tick_iff hc]
  rintro ⟨s, hs, -, -, hlate, -⟩
  exact absurd hlate (Int.not_le.mpr (h s hs))

theorem inTime_updateSessions {c : Catalog} (h : InTime c) {pick : Session → Bool}
    {f : Session → Session} (hf : ∀ s : Session, s.expiry < Calendar.endOfTime →
      (f s).expiry < Calendar.endOfTime) : InTime (c.updateSessions pick f) := by
  intro s hs
  obtain ⟨t, ht, rfl⟩ := List.mem_map.mp hs
  split
  · exact hf t (h t ht)
  · exact h t ht

theorem Changes.inTime {r : Routine} {c c' : Catalog} (h : r.Changes c c') (hc : c.Consistent)
    (hr : r.EndsInTime) (htime : InTime c) : InTime c' := by
  cases h with
  | ticked window now =>
    intro s' hs'
    rw [Lifecycle.sessions_tick hc (not_aborted_of_inTime hc htime window now),
      List.mem_filterMap] at hs'
    obtain ⟨s, hs, hfate⟩ := hs'
    rw [Lifecycle.expiry_of_fate hfate]
    exact htime s hs
  | leased hterm =>
    refine Catalog.openSession_induct (P := InTime) htime fun _ s hs => ?_
    rcases List.mem_append.mp hs with hs | hs
    · exact htime s hs
    · rw [List.mem_singleton.mp hs]
      exact hr _ _ hterm
  | extended hterm =>
    refine Catalog.extendSession_induct (P := InTime) htime ?_
    exact inTime_updateSessions htime fun _ _ => hr _ _ hterm
  | gaveBack token now =>
    refine Catalog.endByToken_induct (P := InTime) htime fun _ _ _ _ => ?_
    exact inTime_updateSessions htime fun _ h => h
  | scraped | notScraped | managed | notLeased | notExtended => exact htime

end Routine

/-- No tick aborts as long as nothing is asked for that ends in the year 10000 or later. -/
theorem tick_ne_none_of_endsInTime [Provider σ] (cloud : σ) (network : ν)
    (routines : List Routine) (h : ∀ r ∈ routines, r.EndsInTime) (window : Duration) (now : Int) :
    ((Routine.runAll routines (.begin cloud network)).tick window now).1 ≠ none := by
  obtain ⟨c, hstore, hc, htime⟩ :=
    Routine.runAll_induct (P := fun c => c.Consistent ∧ Routine.InTime c)
      (i := .begin cloud network)
      (fun r hr _ _ hchanges hP => ⟨hchanges.consistent hP.1, hchanges.inTime hP.1 (h r hr) hP.2⟩)
      rfl ⟨Catalog.consistent_empty, fun s hs => absurd hs List.not_mem_nil⟩
  rw [Installation.tick, hstore]
  intro hnone
  have habort := Lifecycle.result_eq_none_iff.mp hnone
  rw [Routine.not_aborted_of_inTime hc htime] at habort
  exact Bool.noConfusion habort

end PowerLease
