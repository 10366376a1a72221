import PowerLease.Catalog.Queue
import PowerLease.Proofs.Catalog.Report

/-!
# Histories of a catalog

All that ever changes a catalog is one transaction after another, by whoever asks for them and in any
order. A *history* is such a run from the empty catalog, with all catalogs on the way.

The transactions of the lifecycle are given a session that was read before, which may have changed
since or be gone. Only the deletion of a session trusts it in more than its id. All that a history
asks for is that some catalog on the way had the row that a deletion is given. This is enough,
because ids are not given twice and a row keeps what the lease was opened with (`Follows`): a row of
the same id is of the same lease, also when it was read long ago.

The main statement is `History.target_iff`: at any time, what is wanted of a server is what the
session of its group implies.
-/

namespace PowerLease

/-- Two rows of one lease. They differ at most in what can change while the lease lasts. -/
structure Session.SameLease (r s : Session) : Prop where
  id : r.id = s.id
  user : r.user = s.user
  email : r.email = s.email
  group : r.group = s.group

theorem Session.SameLease.refl (s : Session) : s.SameLease s := ⟨rfl, rfl, rfl, rfl⟩

theorem Session.SameLease.trans {r s t : Session} (h : r.SameLease s) (h' : s.SameLease t) :
    r.SameLease t :=
  ⟨h.id.trans h'.id, h.user.trans h'.user, h.email.trans h'.email, h.group.trans h'.group⟩

/-- A transaction. -/
inductive Transaction where
  | sync (report : List Instance) (now : Int)
  | openSession (request : LeaseRequest) (now : Int)
  | extendSession (token : String) (expiry now : Int)
  | endSession (group : String) (now : Int)
  | endByToken (token : String) (now : Int)
  | markWarned (read : Session) (text : NoticeText) (now : Int)
  | markAnnounced (read : Session) (text : NoticeText) (now : Int)
  | markOff (read : Session) (text : NoticeText) (now : Int)
  | markReady (read : Session) (text : NoticeText) (now : Int)
  | finalize (read : Session)
  | enqueue (user title message : String) (now : Int)
  | purge
  | deleteNotice (id : Nat)
  | setSetting (setting : Setting)
  | deleteSetting (user : String)

namespace Transaction

/-- The catalog after a transaction, whatever its outcome. -/
def run : Transaction → Catalog → Catalog
  | sync report now, c => (c.sync report now).2
  | openSession request now, c => (c.openSession request now).2
  | extendSession token expiry now, c => (c.extendSession token expiry now).2
  | endSession group now, c => (c.endSession group now).2
  | endByToken token now, c => (c.endByToken token now).2
  | markWarned read text now, c => (c.markWarned read text now).2
  | markAnnounced read text now, c => (c.markAnnounced read text now).2
  | markOff read text now, c => (c.markOff read text now).2
  | markReady read text now, c => (c.markReady read text now).2
  | finalize read, c => (c.finalize read).2
  | enqueue user title message now, c => (c.enqueue user title message now).2
  | purge, c => c.purge.2
  | deleteNotice id, c => (c.deleteNotice id).2
  | setSetting setting, c => c.setSetting setting
  | deleteSetting user, c => (c.deleteSetting user).2

/-- The report that a transaction takes over, if it takes over one. -/
def report? : Transaction → Option (List Instance)
  | sync report _ => some report
  | openSession .. | extendSession .. | endSession .. | endByToken .. | markWarned ..
  | markAnnounced .. | markOff .. | markReady .. | finalize _ | enqueue .. | purge | deleteNotice _
  | setSetting _ | deleteSetting _ => none

theorem eq_sync_of_report? {t : Transaction} {report : List Instance}
    (h : t.report? = some report) : ∃ now, t = .sync report now := by
  cases t with
  | sync report' now => exact ⟨now, congrArg (sync · now) (Option.some.inj h)⟩
  | _ => exact nomatch h

end Transaction

namespace Catalog

/-- The catalogs of a run of transactions, the last one in front. -/
inductive History : List Catalog → Prop
  | start : History [.empty]
  | next {c : Catalog} {past : List Catalog} (t : Transaction) (h : History (c :: past))
      (hread : ∀ s, t = .finalize s → ∃ p ∈ c :: past, s ∈ p.sessions) :
      History (t.run c :: c :: past)

/-! ## A catalog and an earlier one -/

/-- A catalog follows an earlier one: session ids are not given again, and rows of one id are of one
lease. -/
structure Follows (p c : Catalog) : Prop where
  lastSession_le : p.lastSession ≤ c.lastSession
  sameLease : ∀ s ∈ c.sessions, s.id ≤ p.lastSession → ∃ r ∈ p.sessions, r.SameLease s

theorem Follows.refl (c : Catalog) : Follows c c :=
  ⟨Nat.le_refl _, fun s hs _ => ⟨s, hs, .refl s⟩⟩

theorem Follows.trans {a b c : Catalog} (hab : Follows a b) (hbc : Follows b c) : Follows a c := by
  refine ⟨Nat.le_trans hab.lastSession_le hbc.lastSession_le, fun s hs hle => ?_⟩
  obtain ⟨r, hr, hrs⟩ := hbc.sameLease s hs (Nat.le_trans hle hab.lastSession_le)
  obtain ⟨q, hq, hqr⟩ := hab.sameLease r hr (hrs.id.symm ▸ hle)
  exact ⟨q, hq, hqr.trans hrs⟩

variable {c : Catalog}

theorem follows_of_mem {c' : Catalog} (hlast : c'.lastSession = c.lastSession)
    (hmem : ∀ s ∈ c'.sessions, ∃ r ∈ c.sessions, r.SameLease s) : Follows c c' :=
  ⟨Nat.le_of_eq hlast.symm, fun s hs _ => hmem s hs⟩

theorem follows_updateSessions {pick : Session → Bool} {f : Session → Session}
    (hf : ∀ s : Session, s.SameLease (f s)) : Follows c (c.updateSessions pick f) := by
  refine follows_of_mem rfl fun s hs => ?_
  obtain ⟨r, hr, rfl⟩ := List.mem_map.mp hs
  refine ⟨r, hr, ?_⟩
  split
  · exact hf r
  · exact .refl r

theorem Follows.of_rows {c₁ c₂ : Catalog} (h : Follows c c₁) (hsessions : c₂.sessions = c₁.sessions)
    (hlast : c₂.lastSession = c₁.lastSession) : Follows c c₂ :=
  ⟨hlast ▸ h.lastSession_le, hsessions ▸ h.sameLease⟩

theorem follows_opened (r : LeaseRequest) (now : Int) : Follows c (c.opened r now) := by
  refine ⟨Nat.le_succ _, fun s hs hle => ?_⟩
  rcases List.mem_append.mp hs with hs | hs
  · exact ⟨s, hs, .refl s⟩
  · -- the new session has an id that was never given
    rw [List.mem_singleton.mp hs] at hle
    exact absurd hle (Nat.not_succ_le_self _)

theorem follows_closed {pick : Session → Bool} (group : String) (now : Int) :
    Follows c (c.closed pick group now) := by
  have h : Follows c (c.updateSessions pick Session.end) :=
    follows_updateSessions fun _ => ⟨rfl, rfl, rfl, rfl⟩
  exact h.of_rows rfl rfl

theorem follows_raise {guard : Session → Bool} {flag : Session → Session}
    (hflag : ∀ s : Session, s.SameLease (flag s)) (read : Session) (text : NoticeText) (now : Int) :
    Follows c (raise guard flag read text now c).2 :=
  raise_induct (P := Follows c) (.refl c) ((follows_updateSessions hflag).of_rows rfl rfl)

theorem follows_run (c : Catalog) (t : Transaction) : Follows c (t.run c) := by
  cases t with
  | openSession request now =>
    exact openSession_induct (P := Follows c) (.refl c) fun _ => follows_opened request now
  | extendSession token expiry now =>
    refine extendSession_induct (P := Follows c) (.refl c) (follows_updateSessions fun s => ?_)
    exact ⟨rfl, rfl, rfl, rfl⟩
  | endSession group now =>
    exact endSession_induct (P := Follows c) (.refl c) fun _ _ _ _ => follows_closed group now
  | endByToken token now =>
    exact endByToken_induct (P := Follows c) (.refl c) fun s _ _ _ => follows_closed s.group now
  | markWarned read text now | markAnnounced read text now | markOff read text now
  | markReady read text now =>
    refine follows_raise (fun s => ?_) read text now
    exact ⟨rfl, rfl, rfl, rfl⟩
  | finalize read =>
    refine finalize_induct (P := Follows c) (.refl c) fun _ _ _ _ _ => ?_
    exact follows_of_mem rfl fun s hs => ⟨s, List.mem_of_mem_filter hs, .refl s⟩
  | sync | enqueue | purge | deleteNotice | setSetting | deleteSetting =>
    exact (Follows.refl c).of_rows rfl rfl

/-- A row that an earlier catalog had is of the group that its id still stands for. -/
theorem Follows.group_eq {p : Catalog} (h : Follows p c) (hp : p.Consistent) {r s : Session}
    (hr : r ∈ p.sessions) (hs : s ∈ c.sessions) (hid : s.id = r.id) : s.group = r.group := by
  obtain ⟨q, hq, hqs⟩ := h.sameLease s hs (hid ▸ hp.sessionIds_le r hr)
  rw [← hqs.group, hp.session_eq_of_id hq hr (hqs.id.trans hid)]

/-! ## Every catalog of a history -/

theorem Consistent.run (h : c.Consistent) (t : Transaction)
    (hread : ∀ r, t = .finalize r → ∀ s ∈ c.sessions, s.id = r.id → s.group = r.group) :
    (t.run c).Consistent := by
  cases t with
  | sync report now => exact h.sync report now
  | openSession request now => exact h.openSession request now
  | extendSession token expiry now => exact h.extendSession token expiry now
  | endSession group now => exact h.endSession group now
  | endByToken token now => exact h.endByToken token now
  | markWarned read text now | markAnnounced read text now | markOff read text now
  | markReady read text now =>
    refine h.raise ?_ ?_ ?_ ?_ read text now <;> intro s <;> rfl
  | finalize read => exact h.finalize (hread read rfl)
  | enqueue | purge | deleteNotice | setSetting | deleteSetting =>
    exact h.of_rows ⟨rfl, rfl, rfl⟩

/-- All catalogs of a history are consistent, and the last one follows each of them. -/
theorem History.consistent_and_follows {past : List Catalog} (h : History (c :: past)) :
    ∀ p ∈ c :: past, p.Consistent ∧ Follows p c := by
  -- the induction is on the history, so its list of catalogs has to be a variable
  generalize hcs : c :: past = cs at h
  induction h generalizing c past with
  | start =>
    obtain ⟨rfl, rfl⟩ := List.cons.inj hcs
    intro p hp
    rw [List.mem_singleton.mp hp]
    exact ⟨consistent_empty, .refl _⟩
  | @next b earlier t _ hread ih =>
    obtain ⟨rfl, rfl⟩ := List.cons.inj hcs
    have hall := ih rfl
    obtain ⟨hb, -⟩ := hall b List.mem_cons_self
    have hstep : Follows b (t.run b) := follows_run b t
    -- a row to be deleted was read at `p`, and `b` follows `p`, so the id is still of the same lease
    have hconsistent : (t.run b).Consistent := by
      refine hb.run t fun r hr s hs hid => ?_
      obtain ⟨p, hp, hrp⟩ := hread r hr
      obtain ⟨hpc, hpb⟩ := hall p hp
      exact hpb.group_eq hpc hrp hs hid
    intro p hp
    rcases List.mem_cons.mp hp with rfl | hp
    · exact ⟨hconsistent, .refl _⟩
    · obtain ⟨hpc, hpb⟩ := hall p hp
      exact ⟨hpc, hpb.trans hstep⟩

theorem History.consistent {past : List Catalog} (h : History (c :: past)) : c.Consistent :=
  (h.consistent_and_follows c List.mem_cons_self).1

/-- **What is wanted of a server is exactly what the session of its group implies**: that it is on
while the session lives, that it is off once the session is ended, and nothing without a session. -/
theorem History.target_iff {past : List Catalog} (h : History (c :: past)) {v : Server}
    (hv : v ∈ c.servers) :
    (v.target = some .on ↔ ∃ s ∈ c.sessions, s.group = v.group ∧ s.ended = false) ∧
      (v.target = some .off ↔ ∃ s ∈ c.sessions, s.group = v.group ∧ s.ended = true) ∧
      (v.target = none ↔ ∀ s ∈ c.sessions, s.group ≠ v.group) := by
  have hc := h.consistent
  have hwanted : ∀ t, v.target = some t ↔ ∃ s ∈ c.sessions, s.group = v.group ∧ s.target = t := by
    intro t
    constructor
    · exact hc.exists_session hv
    · rintro ⟨s, hs, hg, rfl⟩
      exact hc.target_of_session hv hs hg
  have hon : ∀ s : Session, s.target = .on ↔ s.ended = false := by
    intro s
    cases hs : s.ended <;> simp [Session.target, hs]
  have hoff : ∀ s : Session, s.target = .off ↔ s.ended = true := by
    intro s
    cases hs : s.ended <;> simp [Session.target, hs]
  refine ⟨?_, ?_, ?_⟩
  · simp only [hwanted, hon]
  · simp only [hwanted, hoff]
  · constructor
    · intro hnone s hs hg
      rw [hc.target_of_session hv hs hg] at hnone
      simp at hnone
    · exact hc.target_eq_none hv

/-- A catalog whose lease was ended before a second server joined the group, which was then reported
twice. -/
def lateJoin : Catalog :=
  (Transaction.sync [⟨"i-1", "web", "QA", .on⟩, ⟨"i-2", "db", "dev", .on⟩, ⟨"i-2", "db", "QA", .on⟩]
      20).run <|
    (Transaction.endSession "QA" 10).run <|
    (Transaction.openSession ⟨"digest", "u1", "u1@example.com", "QA", 3600⟩ 0).run <|
    (Transaction.sync [⟨"i-1", "web", "QA", .off⟩] 0).run .empty

/-- The server that joined is wanted off. -/
theorem target_iff_lateJoin : ∃ v ∈ lateJoin.servers, v.id = "i-2" ∧ v.target = some .off := by
  have h : ∃ past, History (lateJoin :: past) :=
    ⟨_, .next _ (.next _ (.next _ (.next _ .start nofun) nofun) nofun) nofun⟩
  obtain ⟨past, h⟩ := h
  refine ⟨⟨"i-2", "db", "QA", .on, some .off, 20, none, none, none⟩, by decide, rfl, ?_⟩
  refine (History.target_iff h (by decide)).2.1.mpr ⟨⟨1, none, "u1", "u1@example.com", "QA", 3600,
    true, true, false, false, false⟩, by decide, rfl, rfl⟩

end Catalog
end PowerLease
