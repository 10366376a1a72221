import Mathlib.Data.List.Nodup
import PowerLease.Catalog.Sync
import PowerLease.Proofs.Catalog.Writes

/-!
# Consistency of a catalog

What holds of the rows of a catalog between any two transactions:

* no two servers share an id, and no two sessions share an id, a group or a token;
* a session has a token exactly as long as it is not ended;
* every server is wanted as the session of its group implies, and not at all without one.

Each transaction keeps this (`Consistent.sync`, `Consistent.openSession`, ...). Only `finalize` needs
a promise for it: it looks the session up by its id and the servers by the group that was read, so
the two have to belong together.
-/

namespace PowerLease.Catalog

/-- The rows of a catalog fit together. -/
structure Consistent (c : Catalog) : Prop where
  serverIds : (c.servers.map Server.id).Nodup
  sessionIds : (c.sessions.map Session.id).Pairwise (· < ·)
  sessionIds_le : ∀ s ∈ c.sessions, s.id ≤ c.lastSession
  groups : (c.sessions.map Session.group).Nodup
  tokens : (c.sessions.filterMap Session.token).Nodup
  token_eq_none_iff : ∀ s ∈ c.sessions, s.token = none ↔ s.ended = true
  target_eq : ∀ v ∈ c.servers, v.target = (c.sessionOf v.group).map Session.target

theorem consistent_empty : Consistent .empty := by
  constructor <;> simp [Catalog.empty]

variable {c : Catalog}

/-- A catalog with the same servers and sessions. Notices and settings may differ. -/
structure SameRows (c c' : Catalog) : Prop where
  servers : c'.servers = c.servers
  sessions : c'.sessions = c.sessions
  lastSession : c'.lastSession = c.lastSession

theorem SameRows.refl (c : Catalog) : c.SameRows c := ⟨rfl, rfl, rfl⟩

theorem SameRows.trans {c' c'' : Catalog} (h : c.SameRows c') (h' : c'.SameRows c'') :
    c.SameRows c'' :=
  ⟨h'.servers.trans h.servers, h'.sessions.trans h.sessions, h'.lastSession.trans h.lastSession⟩

/-- A catalog with the same notices. Servers and sessions may differ. -/
def SameQueue (c c' : Catalog) : Prop :=
  c'.queue = c.queue ∧ c'.lastNotice = c.lastNotice

/-- Notices and settings play no part in consistency. -/
theorem Consistent.of_rows {c' : Catalog} (h : c.Consistent) (hrows : c.SameRows c') :
    c'.Consistent := by
  obtain ⟨h1, h2, h3, h4, h5, h6, h7⟩ := h
  obtain ⟨hservers, hsessions, hlast⟩ := hrows
  constructor <;> simp only [hservers, hsessions, hlast, sessionOf] <;> assumption

/-! ## Looking rows up -/

theorem Consistent.sessionIds_nodup (h : c.Consistent) : (c.sessions.map Session.id).Nodup :=
  h.sessionIds.imp Nat.ne_of_lt

theorem Consistent.session_eq_of_id (h : c.Consistent) {s t : Session} (hs : s ∈ c.sessions)
    (ht : t ∈ c.sessions) (hid : s.id = t.id) : s = t :=
  List.inj_on_of_nodup_map h.sessionIds_nodup hs ht hid

theorem Consistent.session_eq_of_group (h : c.Consistent) {s t : Session} (hs : s ∈ c.sessions)
    (ht : t ∈ c.sessions) (hg : s.group = t.group) : s = t :=
  List.inj_on_of_nodup_map h.groups hs ht hg

theorem Consistent.server_eq_of_id (h : c.Consistent) {v w : Server} (hv : v ∈ c.servers)
    (hw : w ∈ c.servers) (hid : v.id = w.id) : v = w :=
  List.inj_on_of_nodup_map h.serverIds hv hw hid

/-- An id that was not given yet is the id of no session. -/
theorem Consistent.id_ne_of_lt (h : c.Consistent) {id : Nat} (hlt : c.lastSession < id) :
    ∀ s ∈ c.sessions, s.id ≠ id := by
  rintro s hs rfl
  exact absurd (h.sessionIds_le s hs) (Nat.not_le.mpr hlt)

theorem nodup_filterMap_inj {α β : Type} {f : α → Option β} {l : List α}
    (h : (l.filterMap f).Nodup) {a b : α} (ha : a ∈ l) (hb : b ∈ l) {k : β} (hfa : f a = some k)
    (hfb : f b = some k) : a = b := by
  induction l with
  | nil => simp at ha
  | cons x rest ih =>
    have hrest : (rest.filterMap f).Nodup := h.sublist ((List.sublist_cons_self x rest).filterMap f)
    have hnot : ∀ y ∈ rest, f y = some k → f x ≠ some k := by
      intro y hy hfy hfx
      rw [List.filterMap_cons_some hfx, List.nodup_cons] at h
      exact h.1 (List.mem_filterMap.mpr ⟨y, hy, hfy⟩)
    rcases List.mem_cons.mp ha with rfl | ha' <;> rcases List.mem_cons.mp hb with rfl | hb'
    · rfl
    · exact absurd hfa (hnot b hb' hfb)
    · exact absurd hfb (hnot a ha' hfa)
    · exact ih hrest ha' hb'

theorem filterMap_sublist_of_le {α β : Type} {f g : α → Option β} {l : List α}
    (h : ∀ a, g a = none ∨ g a = f a) : (l.filterMap g).Sublist (l.filterMap f) := by
  induction l with
  | nil => simp
  | cons a rest ih =>
    simp only [List.filterMap_cons]
    rcases h a with hn | he
    · rw [hn]
      cases f a with
      | none => exact ih
      | some b => exact ih.cons b
    · rw [he]
      cases f a with
      | none => exact ih
      | some b => exact ih.cons_cons b

theorem Consistent.session_eq_of_token (h : c.Consistent) {s t : Session} (hs : s ∈ c.sessions)
    (ht : t ∈ c.sessions) {token : String} (hks : s.token = some token)
    (hkt : t.token = some token) : s = t :=
  nodup_filterMap_inj h.tokens hs ht hks hkt

theorem sessionOf_eq_some {g : String} {s : Session} (h : c.sessionOf g = some s) :
    s ∈ c.sessions ∧ s.group = g :=
  ⟨List.mem_of_find?_eq_some h, by simpa using List.find?_some h⟩

theorem sessionOf_eq_none_iff {g : String} :
    c.sessionOf g = none ↔ ∀ s ∈ c.sessions, s.group ≠ g := by
  simp [sessionOf]

/-- Where groups are not shared, the session of a group is the one that is found. -/
theorem sessionOf_of_mem (h : (c.sessions.map Session.group).Nodup) {s : Session}
    (hs : s ∈ c.sessions) : c.sessionOf s.group = some s := by
  cases hf : c.sessionOf s.group with
  | none => exact absurd rfl (sessionOf_eq_none_iff.mp hf s hs)
  | some t =>
    obtain ⟨ht, hg⟩ := sessionOf_eq_some hf
    rw [List.inj_on_of_nodup_map h ht hs hg]

theorem Consistent.sessionOf_group (h : c.Consistent) {s : Session} (hs : s ∈ c.sessions) :
    c.sessionOf s.group = some s :=
  sessionOf_of_mem h.groups hs

theorem Consistent.target_of_session (h : c.Consistent) {v : Server} (hv : v ∈ c.servers)
    {s : Session} (hs : s ∈ c.sessions) (hg : s.group = v.group) : v.target = some s.target := by
  rw [h.target_eq v hv, ← hg, h.sessionOf_group hs]
  rfl

theorem Consistent.target_eq_none (h : c.Consistent) {v : Server} (hv : v ∈ c.servers)
    (hno : ∀ s ∈ c.sessions, s.group ≠ v.group) : v.target = none := by
  rw [h.target_eq v hv, sessionOf_eq_none_iff.mpr hno]
  rfl

/-- What is wanted of a server is wanted by a session of its group. -/
theorem Consistent.exists_session (h : c.Consistent) {v : Server} (hv : v ∈ c.servers) {t : Target}
    (ht : v.target = some t) : ∃ s ∈ c.sessions, s.group = v.group ∧ s.target = t := by
  rw [h.target_eq v hv, Option.map_eq_some_iff] at ht
  obtain ⟨s, hs, hst⟩ := ht
  obtain ⟨hmem, hg⟩ := sessionOf_eq_some hs
  exact ⟨s, hmem, hg, hst⟩

/-! ## Sessions that are changed in place -/

theorem find?_map_group {f : Session → Session} (hf : ∀ s, (f s).group = s.group) (g : String)
    (l : List Session) :
    (l.map f).find? (fun s => s.group == g) = (l.find? fun s => s.group == g).map f := by
  rw [List.find?_map]
  simp only [Function.comp_def, hf]

/-- The flags of a session play no part in consistency. -/
theorem Consistent.mapSessions (h : c.Consistent) {f : Session → Session}
    (hid : ∀ s, (f s).id = s.id) (hgroup : ∀ s, (f s).group = s.group)
    (htoken : ∀ s, (f s).token = s.token) (hended : ∀ s, (f s).ended = s.ended) :
    Consistent { c with sessions := c.sessions.map f } where
  serverIds := h.serverIds
  sessionIds := by simpa [Function.comp_def, hid] using h.sessionIds
  sessionIds_le := by simpa [hid] using h.sessionIds_le
  groups := by simpa [Function.comp_def, hgroup] using h.groups
  tokens := by simpa [List.filterMap_map, Function.comp_def, htoken] using h.tokens
  token_eq_none_iff := by simpa [htoken, hended] using h.token_eq_none_iff
  target_eq := by
    intro v hv
    have ht : Session.target ∘ f = Session.target := by
      funext s
      simp [Session.target, hended]
    rw [h.target_eq v hv]
    simp only [sessionOf, find?_map_group hgroup, Option.map_map, ht]

theorem Consistent.updateSessions (h : c.Consistent) {f : Session → Session} (pick : Session → Bool)
    (hid : ∀ s, (f s).id = s.id) (hgroup : ∀ s, (f s).group = s.group)
    (htoken : ∀ s, (f s).token = s.token) (hended : ∀ s, (f s).ended = s.ended) :
    (c.updateSessions pick f).Consistent := by
  refine h.mapSessions ?_ ?_ ?_ ?_ <;> intro s <;> split <;> simp [*]

/-- A session that a lifecycle write looks up again keeps all that consistency is about. -/
theorem Consistent.raise (h : c.Consistent) {guard : Session → Bool} {flag : Session → Session}
    (hid : ∀ s, (flag s).id = s.id) (hgroup : ∀ s, (flag s).group = s.group)
    (htoken : ∀ s, (flag s).token = s.token) (hended : ∀ s, (flag s).ended = s.ended)
    (read : Session) (text : NoticeText) (now : Int) :
    (Catalog.raise guard flag read text now c).2.Consistent :=
  raise_induct h ((h.updateSessions _ hid hgroup htoken hended).of_rows ⟨rfl, rfl, rfl⟩)

theorem Consistent.extendSession (h : c.Consistent) (token : String) (expiry now : Int) :
    (c.extendSession token expiry now).2.Consistent :=
  extendSession_induct h
    (h.updateSessions _ (fun _ => rfl) (fun _ => rfl) (fun _ => rfl) (fun _ => rfl))

/-! ## Servers of a group that are changed in place -/

theorem mem_updateGroup {g : String} {f : Server → Server} {w : Server} :
    w ∈ (c.updateGroup g f).servers ↔ ∃ v ∈ c.servers, (if v.group = g then f v else v) = w := by
  simp only [Catalog.updateGroup, List.mem_map, beq_iff_eq]

theorem serverIds_updateGroup (h : (c.servers.map Server.id).Nodup) {g : String}
    {f : Server → Server} (hf : ∀ v, (f v).id = v.id) :
    ((c.updateGroup g f).servers.map Server.id).Nodup := by
  have hid : ∀ v : Server, (if v.group = g then f v else v).id = v.id := by
    intro v
    split
    · exact hf v
    · rfl
  simpa [Catalog.updateGroup, Function.comp_def, hid] using h

/-! ## Opening a session -/

/-- The group had no session, so the new one is found. -/
theorem sessionOf_opened {r : LeaseRequest} (hnone : c.sessionOf r.group = none) (now : Int)
    (g : String) : (c.opened r now).sessionOf g =
      if r.group = g then some (r.session (c.lastSession + 1)) else c.sessionOf g := by
  rw [sessionOf, opened, List.find?_append, List.find?_singleton]
  by_cases hg : r.group = g
  · subst hg
    rw [show c.sessions.find? (fun s => s.group == r.group) = none from hnone, if_pos rfl]
    simp [LeaseRequest.session]
  · have hother : ((r.session (c.lastSession + 1)).group == g) = false := beq_false_of_ne hg
    rw [if_neg hg, hother, if_neg Bool.false_ne_true, Option.or_none]
    rfl

theorem Consistent.opened (h : c.Consistent) {r : LeaseRequest} (hadmits : c.admits r = true)
    (now : Int) : (c.opened r now).Consistent where
  serverIds := serverIds_updateGroup h.serverIds fun _ => rfl
  sessionIds := by
    simp only [Catalog.opened, List.map_append, List.map_cons, List.map_nil, List.pairwise_append,
      List.pairwise_singleton, List.mem_map, List.mem_singleton]
    refine ⟨h.sessionIds, trivial, ?_⟩
    rintro _ ⟨s, hs, rfl⟩ _ rfl
    exact Nat.lt_succ_of_le (h.sessionIds_le s hs)
  sessionIds_le := by
    intro s hs
    rcases List.mem_append.mp hs with hs | hs
    · exact Nat.le_succ_of_le (h.sessionIds_le s hs)
    · rw [List.mem_singleton.mp hs]
      exact Nat.le_refl _
  groups := by
    simp only [Catalog.opened, List.map_append, List.map_cons, List.map_nil]
    refine List.nodup_append.mpr ⟨h.groups, List.nodup_singleton _, ?_⟩
    intro g hg g' hg'
    obtain ⟨s, hs, rfl⟩ := List.mem_map.mp hg
    rw [List.mem_singleton.mp hg']
    exact (admits_iff.mp hadmits s hs).1
  tokens := by
    rw [Catalog.opened, List.filterMap_append]
    refine List.nodup_append.mpr ⟨h.tokens, List.nodup_singleton _, ?_⟩
    intro t ht t' ht'
    obtain ⟨s, hs, hst⟩ := List.mem_filterMap.mp ht
    rintro rfl
    exact (admits_iff.mp hadmits s hs).2 (by simpa [LeaseRequest.session, hst] using ht')
  token_eq_none_iff := by
    intro s hs
    rcases List.mem_append.mp hs with hs | hs
    · exact h.token_eq_none_iff s hs
    · rw [List.mem_singleton.mp hs]
      simp [LeaseRequest.session]
  target_eq := by
    have hnone : c.sessionOf r.group = none :=
      sessionOf_eq_none_iff.mpr fun s hs => (admits_iff.mp hadmits s hs).1
    intro w hw
    obtain ⟨v, hv, rfl⟩ := mem_updateGroup.mp hw
    rw [sessionOf_opened hnone]
    by_cases hg : v.group = r.group
    · rw [if_pos hg, if_pos (show r.group = (v.wantOn r.email now).group from hg.symm)]
      rfl
    · rw [if_neg hg, if_neg (Ne.symm hg), h.target_eq v hv]

theorem Consistent.openSession (h : c.Consistent) (r : LeaseRequest) (now : Int) :
    (c.openSession r now).2.Consistent :=
  openSession_induct h fun hadmits => h.opened hadmits now

/-! ## Ending a session -/

/-- Only the session of the one group is another one. -/
theorem sessionOf_closed (h : c.Consistent) {pick : Session → Bool} {s : Session}
    (hs : s ∈ c.sessions) (hpick : pick s = true)
    (honly : ∀ t ∈ c.sessions, pick t = true → t.group = s.group) (now : Int) (g : String) :
    (c.closed pick s.group now).sessionOf g = if s.group = g then some s.end else c.sessionOf g := by
  have hgroup : ∀ t : Session, (if pick t then t.end else t).group = t.group := by
    intro t
    split <;> rfl
  have hmap : (c.closed pick s.group now).sessionOf g =
      (c.sessionOf g).map fun t => if pick t then t.end else t := find?_map_group hgroup g c.sessions
  rw [hmap]
  by_cases hg : s.group = g
  · rw [if_pos hg, ← hg, h.sessionOf_group hs, Option.map_some, if_pos hpick]
  · rw [if_neg hg]
    cases hf : c.sessionOf g with
    | none => rfl
    | some t =>
      obtain ⟨ht, htg⟩ := sessionOf_eq_some hf
      have hnot : ¬pick t = true := fun hp => hg ((honly t ht hp).symm.trans htg)
      rw [Option.map_some, if_neg hnot]

/-- Ending whichever session of a group a test picks. -/
theorem Consistent.closed (h : c.Consistent) {pick : Session → Bool} {s : Session}
    (hs : s ∈ c.sessions) (hpick : pick s = true)
    (honly : ∀ t ∈ c.sessions, pick t = true → t.group = s.group) (now : Int) :
    (c.closed pick s.group now).Consistent where
  serverIds := serverIds_updateGroup h.serverIds fun _ => rfl
  sessionIds := by
    have hid : ∀ t : Session, (if pick t then t.end else t).id = t.id := by
      intro t
      split <;> rfl
    simpa [Catalog.closed, Catalog.updateGroup, Catalog.updateSessions, Function.comp_def, hid]
      using h.sessionIds
  sessionIds_le := by
    intro t' ht'
    obtain ⟨t, ht, rfl⟩ := List.mem_map.mp ht'
    split <;> exact h.sessionIds_le t ht
  groups := by
    have hgroup : ∀ t : Session, (if pick t then t.end else t).group = t.group := by
      intro t
      split <;> rfl
    simpa [Catalog.closed, Catalog.updateGroup, Catalog.updateSessions, Function.comp_def, hgroup]
      using h.groups
  tokens := by
    refine h.tokens.sublist ?_
    simp only [Catalog.closed, Catalog.updateGroup, Catalog.updateSessions, List.filterMap_map]
    refine filterMap_sublist_of_le fun t => ?_
    rw [Function.comp_apply]
    split
    · exact Or.inl rfl
    · exact Or.inr rfl
  token_eq_none_iff := by
    intro t' ht'
    obtain ⟨t, ht, rfl⟩ := List.mem_map.mp ht'
    split
    · simp [Session.end]
    · exact h.token_eq_none_iff t ht
  target_eq := by
    intro w hw
    obtain ⟨v, hv, rfl⟩ := mem_updateGroup.mp hw
    rw [sessionOf_closed h hs hpick honly]
    by_cases hg : v.group = s.group
    · rw [if_pos hg, if_pos (show s.group = (v.wantOff now).group from hg.symm)]
      rfl
    · rw [if_neg hg, if_neg (Ne.symm hg), h.target_eq v hv]

theorem Consistent.endSession (h : c.Consistent) (group : String) (now : Int) :
    (c.endSession group now).2.Consistent := by
  refine endSession_induct (P := Consistent) h ?_
  rintro s hs rfl hlive
  refine h.closed hs ?_ (fun t _ ht => ?_) now
  · simp [hlive]
  · exact beq_iff_eq.mp (Bool.and_eq_true_iff.mp ht).1

theorem Consistent.endByToken (h : c.Consistent) (token : String) (now : Int) :
    (c.endByToken token now).2.Consistent := by
  refine endByToken_induct (P := Consistent) h fun s hs htoken hlive => ?_
  refine h.closed hs ?_ (fun t ht hpick => ?_) now
  · simp [holds, htoken, hlive]
  · have hheld : t.token = some token := beq_iff_eq.mp (Bool.and_eq_true_iff.mp hpick).1
    rw [h.session_eq_of_token ht hs hheld htoken]

/-! ## Deleting a session -/

/-- The deleted session was the only one of its group, and the other groups keep theirs. -/
theorem sessionOf_dropped (h : c.Consistent) {pick : Session → Bool} {s : Session}
    (hs : s ∈ c.sessions) (hpick : pick s = true)
    (honly : ∀ t ∈ c.sessions, pick t = true → t.group = s.group) (g : String) :
    (c.dropped pick s.group).sessionOf g = if s.group = g then none else c.sessionOf g := by
  have hmem : ∀ t, t ∈ (c.dropped pick s.group).sessions ↔ t ∈ c.sessions ∧ pick t = false := by
    intro t
    simp [dropped, updateGroup]
  have hgroups : ((c.dropped pick s.group).sessions.map Session.group).Nodup :=
    h.groups.sublist (List.filter_sublist.map _)
  by_cases hg : s.group = g
  · rw [if_pos hg, sessionOf_eq_none_iff]
    intro t ht htg
    obtain ⟨htm, hkept⟩ := (hmem t).mp ht
    rw [h.session_eq_of_group htm hs (htg.trans hg.symm), hpick] at hkept
    exact Bool.noConfusion hkept
  · rw [if_neg hg]
    cases hf : c.sessionOf g with
    | none =>
      refine sessionOf_eq_none_iff.mpr fun t ht => ?_
      exact sessionOf_eq_none_iff.mp hf t ((hmem t).mp ht).1
    | some t =>
      obtain ⟨ht, rfl⟩ := sessionOf_eq_some hf
      refine sessionOf_of_mem hgroups ((hmem t).mpr ⟨ht, ?_⟩)
      exact eq_false_of_ne_true fun hp => hg (honly t ht hp).symm

/-- Deleting whichever session of a group a test picks. -/
theorem Consistent.dropped (h : c.Consistent) {pick : Session → Bool} {s : Session}
    (hs : s ∈ c.sessions) (hpick : pick s = true)
    (honly : ∀ t ∈ c.sessions, pick t = true → t.group = s.group) :
    (c.dropped pick s.group).Consistent where
  serverIds := serverIds_updateGroup h.serverIds fun _ => rfl
  sessionIds := h.sessionIds.sublist (List.filter_sublist.map _)
  sessionIds_le := fun t ht => h.sessionIds_le t (List.mem_of_mem_filter ht)
  groups := h.groups.sublist (List.filter_sublist.map _)
  tokens := h.tokens.sublist (List.filter_sublist.filterMap _)
  token_eq_none_iff := fun t ht => h.token_eq_none_iff t (List.mem_of_mem_filter ht)
  target_eq := by
    intro w hw
    obtain ⟨v, hv, rfl⟩ := mem_updateGroup.mp hw
    rw [sessionOf_dropped h hs hpick honly]
    by_cases hg : v.group = s.group
    · rw [if_pos hg, if_pos hg.symm]
      rfl
    · rw [if_neg hg, if_neg (Ne.symm hg), h.target_eq v hv]

theorem Consistent.finalize (h : c.Consistent) {read : Session}
    (hread : ∀ s ∈ c.sessions, s.id = read.id → s.group = read.group) :
    (c.finalize read).2.Consistent := by
  refine finalize_induct (P := Consistent) h fun s hs hid hended htold => ?_
  rw [← hread s hs hid]
  refine h.dropped hs ?_ fun t ht hpick => ?_
  · simp [hid, hended, htold]
  · simp only [Bool.and_eq_true, beq_iff_eq] at hpick
    exact (hread t ht hpick.1.1).trans (hread s hs hid).symm

end PowerLease.Catalog
