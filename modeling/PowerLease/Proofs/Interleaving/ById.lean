import PowerLease.Proofs.Interleaving.Acts
import PowerLease.Proofs.Lifecycle.Transactions

/-!
# A session by its id

An id stands for one lease, so a lease can be followed through any transactions by looking its id up. What
a transaction makes of the row depends on the row alone (`Catalog.row?_run`), and a row that is gone stays
gone, for no id is given twice.

So whatever the row of an id has lost in a run of transactions, was taken by one of them, and the catalog
that this one met can be told (`Journal.exists_acts_of_lost`).
-/

namespace PowerLease

/-- The session of an id. -/
def Catalog.row? (c : Catalog) (id : Nat) : Option Session := c.sessions.find? fun s => s.id == id

variable {c : Catalog} {s : Session} {t : Transaction} {writes : List Transaction} {a : Act} {id : Nat}

/-- Where ids are not shared, what becomes of the row of an id can be told from the row. -/
theorem find?_id_filterMap {f : Session → Option Session} (hf : ∀ s s', f s = some s' → s'.id = s.id)
    {l : List Session} (hl : (l.map Session.id).Nodup) (id : Nat) :
    (l.filterMap f).find? (fun s => s.id == id) = (l.find? fun s => s.id == id).bind f := by
  induction l with
  | nil => rfl
  | cons s rest ih =>
    obtain ⟨hnot, hrest⟩ := List.nodup_cons.mp hl
    by_cases hid : s.id = id
    · subst hid
      have hgone : rest.find? (fun r => r.id == s.id) = none := by
        refine List.find?_eq_none.mpr fun r hr hrs => hnot ?_
        rw [← beq_iff_eq.mp hrs]
        exact List.mem_map_of_mem hr
      rw [List.find?_cons, beq_self_eq_true, Option.bind_some, List.filterMap_cons]
      cases hs : f s with
      | none => rw [ih hrest, hgone, Option.bind_none]
      | some s' =>
        have hid : (s'.id == s.id) = true := beq_iff_eq.mpr (hf s s' hs)
        exact List.find?_cons_of_pos hid
    · have hother : ¬(s.id == id) = true := fun h => hid (beq_iff_eq.mp h)
      have hskip : (s :: rest).find? (fun s => s.id == id) = rest.find? fun s => s.id == id :=
        List.find?_cons_of_neg hother
      rw [hskip, ← ih hrest, List.filterMap_cons]
      cases hs : f s with
      | none => rfl
      | some s' =>
        have hother' : ¬(s'.id == id) = true := by rwa [hf s s' hs]
        exact List.find?_cons_of_neg hother'

namespace Catalog

theorem row?_eq_some (h : c.row? id = some s) : s ∈ c.sessions ∧ s.id = id :=
  ⟨List.mem_of_find?_eq_some h, by simpa using List.find?_some h⟩

theorem Consistent.row?_of_mem (hc : c.Consistent) (hs : s ∈ c.sessions) : c.row? s.id = some s := by
  cases h : c.row? s.id with
  | none => exact absurd (beq_self_eq_true s.id) (List.find?_eq_none.mp h s hs)
  | some r =>
    obtain ⟨hr, hid⟩ := row?_eq_some h
    rw [hc.session_eq_of_id hr hs hid]

/-- A transaction treats the row of an id for itself. No row gets an id that was given before. -/
theorem row?_run (hc : c.Consistent) (hid : id ≤ c.lastSession) (t : Transaction) :
    (t.run c).row? id = (c.row? id).bind t.onSession := by
  have hopened : (t.opens c).find? (fun s => s.id == id) = none := by
    refine List.find?_eq_none.mpr fun s hs hsid => ?_
    obtain ⟨request, now, -, rfl⟩ := Transaction.eq_of_mem_opens hs
    rw [← beq_iff_eq.mp hsid] at hid
    exact absurd hid (Nat.not_succ_le_self _)
  have hkeeps : ∀ s s', t.onSession s = some s' → s'.id = s.id := fun _ _ h =>
    (Transaction.makes_of_onSession h).sameLease.id.symm
  rw [row?, Transaction.sessions_run, List.find?_append, hopened, Option.or_none,
    find?_id_filterMap hkeeps hc.sessionIds_nodup]
  rfl

end Catalog

/-- What is done to the session of an id, is done to a row that is there. -/
theorem Entry.exists_hit {e : Entry} (hc : e.met.Consistent) (h : e.acts a id = true) (ha : a ≠ .opened) :
    ∃ s ∈ e.met.sessions, s.id = id ∧ e.did.act = some a ∧ e.did.hits s = true := by
  by_cases hrow : ∃ s ∈ e.met.sessions, s.id = id
  · obtain ⟨s, hs, rfl⟩ := hrow
    have hacts : (e.did.act == some a && e.did.hits s) = true := (Entry.acts_eq hc hs).symm.trans h
    rw [Bool.and_eq_true, beq_iff_eq] at hacts
    exact ⟨s, hs, rfl, hacts⟩
  · have hgone : ∀ s ∈ e.met.sessions, s.id ≠ id := fun s hs hid => hrow ⟨s, hs, hid⟩
    exact absurd (Entry.acts_of_gone hgone h).1 ha

/-- What the row of an id has and loses, is taken by a transaction that does something to it. Whatever all
transactions of the run keep, held when it was taken. -/
theorem Journal.exists_acts_of_lost (P : Catalog → Prop) (ok : Option Session → Prop)
    (hok : ∀ (t : Transaction) (s : Session), t.act ≠ some a → ok (some s) → ok (t.onSession s))
    (hconsistent : ∀ d, P d → d.Consistent) (hrun : ∀ t ∈ writes, ∀ d, P d → P (t.run d))
    (hc : P c) (hid : id ≤ c.lastSession) (hfirst : ok (c.row? id))
    (hlost : ¬ok ((Transaction.runAll writes c).row? id)) :
    ∃ e ∈ Journal.record c writes, e.acts a id = true ∧ P e.met := by
  induction writes generalizing c with
  | nil => exact absurd hfirst hlost
  | cons t rest ih =>
    obtain ⟨ht, hrest⟩ := List.forall_mem_cons.mp hrun
    by_cases hacts : Entry.acts a id ⟨c, t⟩ = true
    · exact ⟨⟨c, t⟩, List.mem_append_right _ List.mem_cons_self, hacts, hc⟩
    · have hnext : ok ((t.run c).row? id) := by
        rw [Catalog.row?_run (hconsistent c hc) hid]
        cases hrow : c.row? id with
        | none => rwa [hrow] at hfirst
        | some s =>
          rw [hrow] at hfirst
          obtain ⟨hs, rfl⟩ := Catalog.row?_eq_some hrow
          show ok (t.onSession s)
          by_cases hact : t.act = some a
          · -- it is of the kind, but meant for another session
            rw [Entry.acts_eq (hconsistent c hc) hs, hact, beq_self_eq_true, Bool.true_and] at hacts
            rwa [Transaction.onSession, if_neg hacts]
          · exact hok t s hact hfirst
      have hle := Nat.le_trans hid (Catalog.follows_run c t).lastSession_le
      obtain ⟨e, he, hdid⟩ := ih hrest (ht c hc) hle hnext hlost
      exact ⟨e, List.mem_append_left _ he, hdid⟩

/-- Nobody but the one who tells of servers that are on raises the flag for it. -/
theorem Transaction.readyTold_onSession (h : t.act ≠ some .toldReady) (hs : s.readyTold = false) :
    ∀ s', t.onSession s = some s' → s'.readyTold = false := by
  intro s' hs'
  cases makes_of_onSession hs' with
  | toldReady => exact absurd rfl h
  | same | extended | ended | warned | announced | toldOff => exact hs

/-- Only what is ended is deleted. -/
theorem Transaction.ended_of_hits (h : t.act = some .deleted) (hhit : t.hits s = true) :
    s.ended = true := by
  cases t with
  | finalize read =>
    simp only [hits, Bool.and_eq_true] at hhit
    exact hhit.1.2
  | _ => cases h

/-- Only of a session that lives, it is told that the servers are on. -/
theorem Transaction.live_of_hits (h : t.act = some .toldReady) (hhit : t.hits s = true) :
    s.ended = false := by
  cases t with
  | markReady read text now =>
    simp only [hits, Bool.and_eq_true, Bool.not_eq_true'] at hhit
    exact hhit.2.1
  | _ => cases h

end PowerLease
