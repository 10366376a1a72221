import PowerLease.Leasing
import PowerLease.Proofs.Interleaving.Acts
import PowerLease.Proofs.Interleaving.Cleanup

/-!
# One lease of a group at a time

Nobody asks beforehand whether a group is free. A request marks the servers as wanted on, and it is the
session itself, of which a group can have but one, that is refused in the end. So what a refused request
leaves is nothing (`Tenancy.taken`), and what an accepted one leaves is a session in a group that had
none.

A group that has a session keeps it until its deletion: it does not matter whether the session is ended,
whether its servers vanish from the reports, or how old the reading is that the deletion was decided on.
Seen from its group, a run is therefore a strict alternation of openings and deletions
(`Interleaving.turns_eq`).
-/

namespace PowerLease

/-! ## Turns -/

/-- Whether an entry has opened or deleted a session of a group, and which of the two. -/
def Entry.turn (group : String) (e : Entry) : Option Act :=
  match e.did with
  | .openSession request now =>
    if request.group = group ∧ (e.met.openSession request now).1.isOk = true then some .opened
    else none
  | .finalize read =>
    if read.group = group ∧ (e.met.finalize read).1 = true then some .deleted else none
  | _ => none

/-- The openings and deletions of the sessions of a group, the first of them in front. -/
def Journal.turns (journal : Journal) (group : String) : List Act :=
  (journal.filterMap (Entry.turn group)).reverse

/-- Openings and deletions by turns, beginning with an opening. -/
def Act.alternating (n : Nat) : List Act :=
  (List.range n).map fun i => if i % 2 = 0 then .opened else .deleted

variable {journal : Journal} {c c' : Catalog} {t : Transaction} {group : String}

theorem Journal.turns_cons {e : Entry} :
    turns (e :: journal) group = journal.turns group ++ (e.turn group).toList :=
  reverse_filterMap_cons ..

theorem Act.alternating_succ (n : Nat) :
    alternating (n + 1) = alternating n ++ [if n % 2 = 0 then .opened else .deleted] := by
  rw [alternating, List.range_succ, List.map_append]
  rfl

/-! ## Whether a group has a session -/

namespace Catalog

theorem isSome_sessionOf_iff : (c.sessionOf group).isSome = true ↔
    ∃ s ∈ c.sessions, s.group = group := by
  simp [sessionOf]

/-- An opening finds a group without session, and leaves it with one. -/
theorem sessionOf_openSession {request : LeaseRequest} {now : Int}
    (h : (c.openSession request now).1.isOk = true) :
    c.sessionOf request.group = none ∧
      ((c.openSession request now).2.sessionOf request.group).isSome = true := by
  rcases c.openSession_cases request now with ⟨-, hrun⟩ | ⟨-, -, hrun⟩ | ⟨-, hadmits, hrun⟩
  · rw [hrun] at h
    exact absurd h Bool.false_ne_true
  · rw [hrun] at h
    exact absurd h Bool.false_ne_true
  · have hnone : c.sessionOf request.group = none :=
      sessionOf_eq_none_iff.mpr fun s hs => (admits_iff.mp hadmits s hs).1
    refine ⟨hnone, ?_⟩
    rw [hrun, sessionOf_opened hnone, if_pos rfl]
    rfl

end Catalog

/-- Whether a group has a session is changed by openings and deletions only. -/
theorem Transaction.isSome_sessionOf (hopens : ∀ s ∈ t.opens c, s.group ≠ group)
    (hkeeps : ∀ s ∈ c.sessions, s.group = group → (t.onSession s).isSome = true) :
    ((t.run c).sessionOf group).isSome = (c.sessionOf group).isSome := by
  rw [Bool.eq_iff_iff, Catalog.isSome_sessionOf_iff, Catalog.isSome_sessionOf_iff]
  constructor
  · rintro ⟨s', hs', hgroup⟩
    rcases mem_sessions_run.mp hs' with ⟨s, hs, hstep⟩ | hopened
    · exact ⟨s, hs, (makes_of_onSession hstep).sameLease.group.trans hgroup⟩
    · exact absurd hgroup (hopens s' hopened)
  · rintro ⟨s, hs, hgroup⟩
    obtain ⟨s', hstep⟩ := Option.isSome_iff_exists.mp (hkeeps s hs hgroup)
    exact ⟨s', mem_sessions_run.mpr (Or.inl ⟨s, hs, hstep⟩),
      (makes_of_onSession hstep).sameLease.group.symm.trans hgroup⟩

/-- What is not the deletion of a session deletes none. -/
theorem Transaction.isSome_onSession (h : t.act ≠ some .deleted) (s : Session) :
    (t.onSession s).isSome = true := by
  unfold onSession
  split
  · cases t with
    | finalize => exact absurd rfl h
    | _ => rfl
  · rfl

namespace Interleaving

/-- A row that a deletion finds is the session that was read. -/
theorem group_eq_of_finalize {read s : Session} (h : Interleaving (⟨c, .finalize read⟩ :: journal) c')
    (hs : s ∈ c.sessions) (hid : s.id = read.id) : s.group = read.group := by
  obtain ⟨hc, -⟩ := h.of_cons
  obtain ⟨since, before, p, rfl, hp, hdecides⟩ := h.exists_reading rfl
  have hmem : read ∈ p.sessions := hdecides.mem_of_reading rfl
  exact (hp.session_since hmem hc hs hid).sameLease.group.symm

/-- A deletion finds a group with a session, and leaves it with none. -/
theorem sessionOf_finalize {read : Session} (h : Interleaving (⟨c, .finalize read⟩ :: journal) c')
    (hdone : (c.finalize read).1 = true) :
    (c.sessionOf read.group).isSome = true ∧ (c.finalize read).2.sessionOf read.group = none := by
  rcases c.finalize_cases read with ⟨-, hrun⟩ | ⟨s, hs, hid, hended, htold, -⟩
  · rw [hrun] at hdone
    exact absurd hdone Bool.false_ne_true
  · have hgroup : s.group = read.group := h.group_eq_of_finalize hs hid
    have hafter := h.of_cons.1.consistent.finalize_of_told hs hid hgroup hended htold
    exact ⟨Catalog.isSome_sessionOf_iff.mpr ⟨s, hs, hgroup⟩,
      Catalog.sessionOf_eq_none_iff.mpr hafter.2.1⟩

/-- What an entry does to a group: it opens a session where there was none, deletes the one that was
there, or leaves the group as it was. -/
theorem turn_cases (h : Interleaving (⟨c, t⟩ :: journal) c') (group : String) :
    (Entry.turn group ⟨c, t⟩ = some .opened ∧ c.sessionOf group = none ∧
      (c'.sessionOf group).isSome = true) ∨
    (Entry.turn group ⟨c, t⟩ = some .deleted ∧ (c.sessionOf group).isSome = true ∧
      c'.sessionOf group = none) ∨
    (Entry.turn group ⟨c, t⟩ = none ∧ (c'.sessionOf group).isSome = (c.sessionOf group).isSome) := by
  obtain ⟨-, rfl⟩ := h.of_cons
  cases t with
  | openSession request now =>
    by_cases hturn : request.group = group ∧ (c.openSession request now).1.isOk = true
    · obtain ⟨rfl, hok⟩ := hturn
      exact Or.inl ⟨if_pos ⟨rfl, hok⟩, Catalog.sessionOf_openSession hok⟩
    · refine Or.inr (Or.inr ⟨if_neg hturn, Transaction.isSome_sessionOf (fun s hs hgroup => ?_) ?_⟩)
      · -- it is opened in this group, so this is its turn
        have hok := Transaction.mem_opens_openSession.mp hs
        obtain ⟨_, _, heq, rfl⟩ := Transaction.eq_of_mem_opens hs
        obtain ⟨rfl, -⟩ := Transaction.openSession.inj heq
        exact hturn ⟨hgroup, by rw [hok]; rfl⟩
      · exact fun s _ _ => Transaction.isSome_onSession (fun hact => by cases hact) s
  | finalize read =>
    by_cases hturn : read.group = group ∧ (c.finalize read).1 = true
    · obtain ⟨rfl, hdone⟩ := hturn
      exact Or.inr (Or.inl ⟨if_pos ⟨rfl, hdone⟩, h.sessionOf_finalize hdone⟩)
    · refine Or.inr (Or.inr ⟨if_neg hturn, Transaction.isSome_sessionOf
        (fun _ hs => absurd hs List.not_mem_nil) fun s hs hgroup => ?_⟩)
      cases hhit : (Transaction.finalize read).hits s with
      | false =>
        rw [Transaction.onSession, hhit]
        rfl
      | true =>
        -- the session that is deleted is of this group, so this is its turn
        simp only [Transaction.hits, Bool.and_eq_true, beq_iff_eq] at hhit
        obtain ⟨⟨hid, hended⟩, htold⟩ := hhit
        have hread : s.group = read.group := h.group_eq_of_finalize hs hid
        have hafter := h.of_cons.1.consistent.finalize_of_told hs hid hread hended htold
        exact absurd ⟨hread.symm.trans hgroup, hafter.1⟩ hturn
  | sync | extendSession | endSession | endByToken | markWarned | markAnnounced | markOff | markReady
  | enqueue | purge | deleteNotice | setSetting | deleteSetting =>
    exact Or.inr (Or.inr ⟨rfl, Transaction.isSome_sessionOf (fun _ hs => absurd hs List.not_mem_nil)
      fun s _ _ => Transaction.isSome_onSession (fun hact => by cases hact) s⟩)

/-- **Openings and deletions of the sessions of a group alternate**, and the group has a session between
an opening and the deletion that follows. -/
theorem turns_eq (h : Interleaving journal c) (group : String) :
    journal.turns group = Act.alternating (journal.turns group).length ∧
      (c.sessionOf group).isSome = decide ((journal.turns group).length % 2 = 1) := by
  induction journal generalizing c with
  | nil =>
    rw [h.unique .start]
    exact ⟨rfl, rfl⟩
  | cons e rest ih =>
    obtain ⟨d, t⟩ := e
    obtain ⟨halternating, hsome⟩ := ih h.of_cons.1
    rw [Journal.turns_cons]
    rcases h.turn_cases group with ⟨hturn, hfree, htaken⟩ | ⟨hturn, htaken, hfree⟩ | ⟨hturn, hsame⟩
    · have heven : (Journal.turns rest group).length % 2 = 0 := by
        rw [hfree, Option.isSome_none, eq_comm, decide_eq_false_iff_not] at hsome
        omega
      rw [hturn, Option.toList_some, List.length_append, List.length_singleton,
        Act.alternating_succ, ← halternating, if_pos heven, htaken]
      exact ⟨rfl, (decide_eq_true (by omega)).symm⟩
    · have hodd : (Journal.turns rest group).length % 2 = 1 := by
        rwa [htaken, eq_comm, decide_eq_true_eq] at hsome
      rw [hturn, Option.toList_some, List.length_append, List.length_singleton,
        Act.alternating_succ, ← halternating, if_neg (by omega), hfree]
      exact ⟨rfl, (decide_eq_false (by omega)).symm⟩
    · rw [hturn, Option.toList_none, List.append_nil, hsame]
      exact ⟨halternating, hsome⟩

end Interleaving

/-! ## Who asks for a group -/

/-- How a catalog, and the leasing service on it, answer those who ask for a group. -/
structure Tenancy (c : Catalog) (group : String) : Prop where
  /-- A group without servers cannot be leased, whether it has a session or not. -/
  unknown : c.hasGroup group = false →
    (∀ request now, request.group = group →
      c.openSession request now = (.error (.notFound s!"Server group {group}"), c)) ∧
    ∀ user email duration token now term, Leasing.term duration now = .ok term →
      Leasing.lease user email group duration token now (.opened c) =
        (refuse (.groupNotFound group), .opened c)
  /-- A group that has a session, live or ended, is not leased once more. -/
  taken : c.hasGroup group = true → (∃ s ∈ c.sessions, s.group = group) →
    (∀ request now, request.group = group → c.openSession request now = (.error .conflict, c)) ∧
    ∀ user email duration token now term, Leasing.term duration now = .ok term →
      Leasing.lease user email group duration token now (.opened c) =
        (refuse (.groupInUse group), .opened c)
  /-- Any other group is leased to whoever asks for it with a token of his own, and all its servers are
  wanted on for him. -/
  free : c.hasGroup group = true → (∀ s ∈ c.sessions, s.group ≠ group) →
    ∀ request now, request.group = group → (∀ s ∈ c.sessions, s.token ≠ some request.token) →
      ∃ c', c.openSession request now = (.ok (request.session (c.lastSession + 1)), c') ∧
        c'.sessions = c.sessions ++ [request.session (c.lastSession + 1)] ∧
        c'.servers = c.servers.map fun v =>
          if v.group = group then
            { v with target := some .on, lastUser := some request.email, lastOnAt := some now }
          else v

theorem Leasing.lease_of_openSession_error {user email duration token : String} {now : Int}
    {term : Duration × Int} {fault : StoreFault} (hterm : Leasing.term duration now = .ok term)
    (h : ∀ request : LeaseRequest, request.group = group →
      c.openSession request now = (.error fault, c)) :
    Leasing.lease user email group duration token now (.opened c) =
      (refuse (openFault group fault), .opened c) := by
  rw [Leasing.lease, hterm]
  simp only [Store.attempt]
  rw [h _ rfl]

theorem Catalog.tenancy (c : Catalog) (group : String) : Tenancy c group where
  unknown hno := by
    have hopen : ∀ request now, request.group = group →
        c.openSession request now = (.error (.notFound s!"Server group {group}"), c) := by
      rintro request now rfl
      rcases c.openSession_cases request now with ⟨-, hrun⟩ | ⟨hany, -⟩ | ⟨hany, -⟩
      · exact hrun
      · exact absurd (hno.symm.trans hany) Bool.false_ne_true
      · exact absurd (hno.symm.trans hany) Bool.false_ne_true
    exact ⟨hopen, fun _ _ _ _ now _ hterm =>
      Leasing.lease_of_openSession_error hterm fun request => hopen request now⟩
  taken hany hrow := by
    obtain ⟨s, hs, hgroup⟩ := hrow
    have hopen : ∀ request now, request.group = group →
        c.openSession request now = (.error .conflict, c) := by
      rintro request now rfl
      rcases c.openSession_cases request now with ⟨hno, -⟩ | ⟨-, -, hrun⟩ | ⟨-, hadmits, -⟩
      · exact absurd (hno.symm.trans hany) Bool.false_ne_true
      · exact hrun
      · exact absurd hgroup (admits_iff.mp hadmits s hs).1
    exact ⟨hopen, fun _ _ _ _ now _ hterm =>
      Leasing.lease_of_openSession_error hterm fun request => hopen request now⟩
  free hany hfree := by
    rintro request now rfl hunused
    have hadmits : c.admits request = true :=
      admits_iff.mpr fun s hs => ⟨hfree s hs, hunused s hs⟩
    rcases c.openSession_cases request now with ⟨hno, -⟩ | ⟨-, hrefuses, -⟩ | ⟨-, -, hrun⟩
    · exact absurd (hno.symm.trans hany) Bool.false_ne_true
    · exact absurd (hrefuses.symm.trans hadmits) Bool.false_ne_true
    · refine ⟨_, hrun, rfl, List.map_congr_left fun v _ => ?_⟩
      simp only [beq_iff_eq]
      rfl

/-- **One lease of a group at a time.** However openings, ends, reports and cleanups follow each other, the
openings of sessions of a group and their deletions alternate, and there are never two sessions of one
group. In between, who asks for the group is refused if it has a session or no server; else it is his. -/
theorem exclusive_of_interleaving (h : Interleaving journal c) (group : String) :
    journal.turns group = Act.alternating (journal.turns group).length ∧
      ((∃ s ∈ c.sessions, s.group = group) ↔ (journal.turns group).length % 2 = 1) ∧
      (c.sessions.filter fun s => s.group == group).length ≤ 1 ∧ Tenancy c group := by
  obtain ⟨halternating, hsome⟩ := h.turns_eq group
  refine ⟨halternating, ?_, ?_, c.tenancy group⟩
  · rw [← Catalog.isSome_sessionOf_iff, hsome, decide_eq_true_eq]
  · have hcount : (c.sessions.map Session.group).count group ≤ 1 :=
      List.nodup_iff_count_le_one.mp h.consistent.groups group
    rwa [List.count_eq_countP, List.countP_map, List.countP_eq_length_filter] at hcount

/-- A lease is given back, announced and cleaned up after, and the group is leased again. -/
def leasedAgain : Journal :=
  .record .empty
    [.sync [⟨"i-1", "web", "QA", .off⟩] 0,
      .openSession ⟨"digest", "u1", "u1@example.com", "QA", 3600⟩ 0,
      .endByToken "digest" 10,
      .markAnnounced leasedSession.end (Lifecycle.endNotice leasedSession) 20,
      .markOff givenBackSession (Lifecycle.offNotice givenBackSession) 20,
      .finalize givenBackSession,
      .openSession ⟨"other", "u2", "u2@example.com", "QA", 7200⟩ 30]

theorem exclusive_of_interleaving_leasedAgain :
    leasedAgain.turns "QA" = [.opened, .deleted, .opened] ∧
      leasedAgain.turns "QA" = Act.alternating (leasedAgain.turns "QA").length := by
  have hleased : Interleaving _ leased := .others _ (.others _ .start rfl) rfl
  have hended := hleased.others (.endByToken "digest" 10) rfl
  have hannounced := hended.lifecycle
    (.markAnnounced leasedSession.end (Lifecycle.endNotice leasedSession) 20) List.mem_cons_self
    (.announce (by decide) (by decide))
  have htold := hannounced.lifecycle
    (.markOff givenBackSession (Lifecycle.offNotice givenBackSession) 20) List.mem_cons_self
    (.tellOff (by decide))
  have hdeleted := htold.lifecycle (.finalize givenBackSession)
    (List.mem_cons_of_mem _ List.mem_cons_self) (.delete (by decide))
  have hagain := hdeleted.others (.openSession ⟨"other", "u2", "u2@example.com", "QA", 7200⟩ 30) rfl
  exact ⟨by decide, (exclusive_of_interleaving hagain "QA").1⟩

end PowerLease
