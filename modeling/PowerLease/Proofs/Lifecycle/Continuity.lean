import PowerLease.Lifecycle
import PowerLease.Proofs.Catalog.History

/-!
# What a tick keeps, also when it aborts

A tick is a run of transactions, and it may abort between any two of them. What is said here is what
every write keeps, so it holds wherever the tick stops: the catalog stays consistent, rows stay of the
lease that they were of, and what the servers show is not touched (`continues_tick`).

A session is deleted only in a tick that comes to its end. In one that aborts all rows are kept
(`kept_of_aborted`), for the deleting stands behind everything that can abort.
-/

namespace PowerLease

namespace Catalog

variable {c c' : Catalog}

theorem shown_updateGroup {g : String} {f : Server → Server} (hf : ∀ v, (f v).shown = v.shown) :
    (c.updateGroup g f).servers.map Server.shown = c.servers.map Server.shown := by
  simp only [Catalog.updateGroup, List.map_map]
  refine List.map_congr_left fun v _ => ?_
  rw [Function.comp_apply]
  split
  · exact hf v
  · rfl

/-- Only reports change what the servers show. -/
theorem shown_run (t : Transaction) (ht : ∀ report now, t ≠ .sync report now) :
    (t.run c).servers.map Server.shown = c.servers.map Server.shown := by
  let Same (d : Catalog) : Prop := d.servers.map Server.shown = c.servers.map Server.shown
  have hsame : Same c := rfl
  show Same (t.run c)
  cases t with
  | sync report now => exact absurd rfl (ht report now)
  | openSession request now =>
    exact openSession_induct (P := Same) hsame fun _ => shown_updateGroup fun _ => rfl
  | extendSession token expiry now => exact extendSession_induct (P := Same) hsame rfl
  | endSession group now =>
    exact endSession_induct (P := Same) hsame fun _ _ _ _ => shown_updateGroup fun _ => rfl
  | endByToken token now =>
    exact endByToken_induct (P := Same) hsame fun _ _ _ _ => shown_updateGroup fun _ => rfl
  | markWarned read text now | markAnnounced read text now | markOff read text now
  | markReady read text now => exact raise_induct (P := Same) hsame rfl
  | finalize read =>
    exact finalize_induct (P := Same) hsame fun _ _ _ _ _ => shown_updateGroup fun _ => rfl
  | enqueue | purge | deleteNotice | setSetting | deleteSetting => exact hsame

/-- All sessions of an earlier catalog are still there, and none of them lives again. -/
def Kept (c c' : Catalog) : Prop :=
  ∀ s ∈ c.sessions, ∃ s' ∈ c'.sessions, s.SameLease s' ∧ (s.ended = true → s'.ended = true)

theorem Kept.refl (c : Catalog) : Kept c c := fun s hs => ⟨s, hs, .refl s, fun h => h⟩

theorem Kept.trans {c'' : Catalog} (h : Kept c c') (h' : Kept c' c'') : Kept c c'' := by
  intro s hs
  obtain ⟨s', hs', hsame, hended⟩ := h s hs
  obtain ⟨s'', hs'', hsame', hended'⟩ := h' s' hs'
  exact ⟨s'', hs'', hsame.trans hsame', fun he => hended' (hended he)⟩

theorem kept_updateSessions {pick : Session → Bool} {f : Session → Session}
    (hf : ∀ s : Session, s.SameLease (f s)) (hended : ∀ s, s.ended = true → (f s).ended = true) :
    Kept c (c.updateSessions pick f) := by
  intro s hs
  refine ⟨if pick s then f s else s, List.mem_map_of_mem hs, ?_⟩
  split
  · exact ⟨hf s, hended s⟩
  · exact ⟨.refl s, fun h => h⟩

theorem kept_raise {guard : Session → Bool} {flag : Session → Session}
    (hflag : ∀ s : Session, s.SameLease (flag s)) (hended : ∀ s, (flag s).ended = s.ended)
    (read : Session) (text : NoticeText) (now : Int) :
    Kept c (raise guard flag read text now c).2 :=
  raise_induct (P := Kept c) (.refl c) (kept_updateSessions hflag fun s h => (hended s).trans h)

theorem kept_closed {pick : Session → Bool} (group : String) (now : Int) :
    Kept c (c.closed pick group now) :=
  kept_updateSessions (fun _ => ⟨rfl, rfl, rfl, rfl⟩) fun _ _ => rfl

theorem kept_endSession (group : String) (now : Int) : Kept c (c.endSession group now).2 :=
  endSession_induct (P := Kept c) (.refl c) fun _ _ _ _ => kept_closed group now

theorem kept_endByToken (token : String) (now : Int) : Kept c (c.endByToken token now).2 :=
  endByToken_induct (P := Kept c) (.refl c) fun s _ _ _ => kept_closed s.group now

theorem kept_extendSession (token : String) (expiry now : Int) :
    Kept c (c.extendSession token expiry now).2 := by
  refine extendSession_induct (P := Kept c) (.refl c) (kept_updateSessions (fun s => ?_) fun s h => ?_)
  · exact ⟨rfl, rfl, rfl, rfl⟩
  · exact h

theorem kept_openSession (request : LeaseRequest) (now : Int) :
    Kept c (c.openSession request now).2 :=
  openSession_induct (P := Kept c) (.refl c) fun _ s hs =>
    ⟨s, List.mem_append_left _ hs, .refl s, fun h => h⟩

/-! ## Catalogs that go on from another -/

/-- What any run of transactions leaves behind that takes over no report. -/
structure Continues (c c' : Catalog) : Prop where
  consistent : c'.Consistent
  follows : Follows c c'
  shown : c'.servers.map Server.shown = c.servers.map Server.shown

theorem Continues.refl (hc : c.Consistent) : Continues c c := ⟨hc, .refl c, rfl⟩

theorem Continues.trans {c'' : Catalog} (h : Continues c c') (h' : Continues c' c'') :
    Continues c c'' :=
  ⟨h'.consistent, h.follows.trans h'.follows, h'.shown.trans h.shown⟩

/-- One transaction more. A session to be deleted is of a lease that was there at the beginning. -/
theorem Continues.run (h : Continues c c') (hc : c.Consistent) (t : Transaction)
    (ht : ∀ report now, t ≠ .sync report now)
    (hread : ∀ r, t = .finalize r → ∃ q ∈ c.sessions, q.SameLease r) :
    Continues c (t.run c') where
  consistent := by
    refine h.consistent.run t fun r hr s hs hid => ?_
    obtain ⟨q, hq, hqr⟩ := hread r hr
    exact (h.follows.group_eq hc hq hs (hid.trans hqr.id.symm)).trans hqr.group
  follows := h.follows.trans (follows_run c' t)
  shown := (shown_run t ht).trans h.shown

end Catalog

namespace Lifecycle

variable {p q : Progress} {c : Catalog} {window : Duration} {now : Int} {l : List Session}

/-! ## Progress -/

theorem Progress.write_of_aborted (h : p.aborted = true)
    (transaction : Catalog → Bool × Catalog) (count : Report → Report) :
    p.write transaction count = p := by
  simp [Progress.write, h]

theorem Progress.catalog_write (h : p.aborted = false)
    (transaction : Catalog → Bool × Catalog) (count : Report → Report) :
    (p.write transaction count).catalog = (transaction p.catalog).2 := by
  simp [Progress.write, h]

@[simp] theorem Progress.aborted_write (transaction : Catalog → Bool × Catalog)
    (count : Report → Report) : (p.write transaction count).aborted = p.aborted := by
  unfold Progress.write
  split <;> rfl

/-- What holds of a catalog before a write and after its transaction holds after the write. -/
theorem Progress.write_induct {P : Catalog → Prop} {transaction : Catalog → Bool × Catalog}
    (h : P p.catalog) (hrun : P (transaction p.catalog).2) (count : Report → Report) :
    P (p.write transaction count).catalog := by
  cases hp : p.aborted with
  | true => rwa [Progress.write_of_aborted hp]
  | false => rwa [Progress.catalog_write hp]

theorem Progress.writeNotice_induct {P : Catalog → Prop} {text : Option NoticeText}
    {transaction : NoticeText → Catalog → Bool × Catalog} (h : P p.catalog)
    (hrun : ∀ t, text = some t → P (transaction t p.catalog).2) (count : Report → Report) :
    P (p.writeNotice text transaction count).catalog := by
  cases text with
  | none => exact h
  | some t => exact Progress.write_induct h (hrun t rfl) count

/-! ## What the writes of a stage keep, the stage keeps -/

section

variable {P : Catalog → Prop}

theorem expire_mem_firstWrites {active : List Session} {s : Session} :
    .expire s ∈ firstWrites window now active ↔ s ∈ active ∧ isExpired now s = true := by
  simp [firstWrites]

theorem warn_mem_firstWrites {active : List Session} {s : Session} :
    .warn s ∈ firstWrites window now active ↔ s ∈ active ∧ isAging window now s = true := by
  simp [firstWrites]

/-- What any of the first writes keeps, any part of them keeps. -/
theorem firstWrites_induct {active : List Session} {writes : List FirstWrite}
    (hwrites : writes ⊆ firstWrites window now active) (h : P p.catalog)
    (hexpire : ∀ c, ∀ r ∈ active, isExpired now r = true → P c → P (c.endSession r.group now).2)
    (hwarn : ∀ c, ∀ r ∈ active, isAging window now r = true → ∀ text, warning? r = some text →
      P c → P (Catalog.markWarned r text now c).2) :
    P (writes.foldl (FirstWrite.run now) p).catalog := by
  refine List.foldlRecOn (motive := fun q : Progress => P q.catalog) _ _ h fun q hq w hw => ?_
  cases w with
  | expire r =>
    obtain ⟨hr, hover⟩ := expire_mem_firstWrites.mp (hwrites hw)
    exact Progress.write_induct hq (hexpire _ r hr hover hq) _
  | warn r =>
    obtain ⟨hr, haging⟩ := warn_mem_firstWrites.mp (hwrites hw)
    exact Progress.writeNotice_induct hq (fun t ht => hwarn _ r hr haging t ht hq) _

theorem expireAndWarn_induct (h : P p.catalog)
    (hexpire : ∀ c, ∀ r ∈ p.catalog.activeSessions, isExpired now r = true → P c →
      P (c.endSession r.group now).2)
    (hwarn : ∀ c, ∀ r ∈ p.catalog.activeSessions, isAging window now r = true → ∀ text,
      warning? r = some text → P c → P (Catalog.markWarned r text now c).2) :
    P (expireAndWarn window now p).catalog :=
  firstWrites_induct (List.Subset.refl _) h hexpire hwarn

theorem announceAll_induct (h : P p.catalog)
    (hannounce : ∀ c, ∀ r ∈ p.catalog.sessionsToAnnounce, ∀ text, announcement? r = some text →
      P c → P (Catalog.markAnnounced r text now c).2) : P (announceAll now p).catalog :=
  List.foldlRecOn (motive := fun q : Progress => P q.catalog) _ _ h fun _ hq r hr =>
    Progress.writeNotice_induct hq (fun t ht => hannounce _ r hr t ht hq) _

theorem cleanAll_induct (h : P p.catalog)
    (htell : ∀ c, ∀ r ∈ p.catalog.sessionsToClean, P c →
      P (Catalog.markOff r (offNotice r) now c).2)
    (hdelete : ∀ c, ∀ r ∈ p.catalog.sessionsToClean, P c → P (Catalog.finalize r c).2) :
    P (cleanAll now p).catalog := by
  refine List.foldlRecOn (motive := fun q : Progress => P q.catalog) _ _ h fun q hq r hr => ?_
  unfold clean
  dsimp only
  split
  · exact Progress.write_induct hq (hdelete _ r hr hq) _
  · have htold : P (q.write (Catalog.markOff r (offNotice r) now)
        fun r => { r with offTold := r.offTold + 1 }).catalog :=
      Progress.write_induct hq (htell _ r hr hq) _
    exact Progress.write_induct htold (hdelete _ r hr htold) _

theorem tellAllReady_induct (h : P p.catalog)
    (htell : ∀ c, ∀ r ∈ p.catalog.sessionsReady, P c →
      P (Catalog.markReady r (readyNotice r) now c).2) : P (tellAllReady now p).catalog :=
  List.foldlRecOn (motive := fun q : Progress => P q.catalog) _ _ h fun _ hq r hr =>
    Progress.write_induct hq (htell _ r hr hq) _

end

/-! ## Stages of an aborted tick -/

/-- An aborted tick cleans up nothing and tells nobody. -/
theorem cleanAll_of_aborted (h : p.aborted = true) : cleanAll now p = p := by
  have hclean : ∀ r, clean now p r = p := by
    intro r
    unfold clean
    dsimp only
    split <;> simp only [Progress.write_of_aborted h]
  exact List.foldlRecOn (motive := fun q => q = p) _ _ rfl fun q hq r _ => by
    rw [hq, hclean]

theorem tellAllReady_of_aborted (h : p.aborted = true) : tellAllReady now p = p :=
  List.foldlRecOn (motive := fun q => q = p) _ _ rfl fun q hq r _ => by
    rw [hq, tellReady, Progress.write_of_aborted h]

/-! ## Stages that cannot abort -/

theorem aborted_clean (r : Session) : (clean now p r).aborted = p.aborted := by
  unfold clean
  dsimp only
  split <;> simp only [Progress.aborted_write]

theorem aborted_cleanAll : (cleanAll now p).aborted = p.aborted :=
  List.foldlRecOn (motive := fun q : Progress => q.aborted = p.aborted) _ _ rfl fun q hq r _ => by
    rw [aborted_clean, hq]

theorem aborted_tellAllReady : (tellAllReady now p).aborted = p.aborted :=
  List.foldlRecOn (motive := fun q : Progress => q.aborted = p.aborted) _ _ rfl fun q hq r _ => by
    rw [tellReady, Progress.aborted_write, hq]

/-! ## Sessions that are kept -/

theorem kept_markWarned (c : Catalog) (r : Session) (text : NoticeText) :
    Catalog.Kept c (Catalog.markWarned r text now c).2 := by
  refine Catalog.kept_raise (fun s => ?_) (fun s => ?_) r text now
  · exact ⟨rfl, rfl, rfl, rfl⟩
  · rfl

theorem kept_markAnnounced (c : Catalog) (r : Session) (text : NoticeText) :
    Catalog.Kept c (Catalog.markAnnounced r text now c).2 := by
  refine Catalog.kept_raise (fun s => ?_) (fun s => ?_) r text now
  · exact ⟨rfl, rfl, rfl, rfl⟩
  · rfl

theorem kept_foldl_warn (l : List Session) :
    Catalog.Kept p.catalog (l.foldl (warn now) p).catalog :=
  List.foldlRecOn (motive := fun q : Progress => Catalog.Kept p.catalog q.catalog)
    _ _ (.refl _) fun _ hq r _ =>
      Progress.writeNotice_induct hq (fun text _ => hq.trans (kept_markWarned _ r text)) _

theorem kept_expireAndWarn : Catalog.Kept p.catalog (expireAndWarn window now p).catalog :=
  expireAndWarn_induct (P := Catalog.Kept p.catalog) (.refl _)
    (fun _ r _ _ hd => hd.trans (Catalog.kept_endSession r.group now))
    fun d r _ _ text _ hd => hd.trans (kept_markWarned d r text)

theorem kept_announceAll : Catalog.Kept p.catalog (announceAll now p).catalog :=
  announceAll_induct (P := Catalog.Kept p.catalog) (.refl _)
    fun d r _ text _ hd => hd.trans (kept_markAnnounced d r text)

/-- Where a tick aborts, its catalog is the one of the stages that can. -/
theorem tick_of_aborted (h : (tick window now c).aborted = true) :
    tick window now c = announceAll now (expireAndWarn window now { catalog := c }) := by
  have habort : (announceAll now (expireAndWarn window now { catalog := c })).aborted = true := by
    rwa [tick, laterStages, aborted_tellAllReady, aborted_cleanAll] at h
  rw [tick, laterStages, cleanAll_of_aborted habort, tellAllReady_of_aborted habort]

/-- A tick that aborts deletes no session. -/
theorem kept_of_aborted (h : (tick window now c).aborted = true) :
    Catalog.Kept c (tick window now c).catalog := by
  rw [tick_of_aborted h]
  exact (kept_expireAndWarn (p := { catalog := c })).trans kept_announceAll

/-! ## The whole tick -/

theorem continues_expireAndWarn (hc : p.catalog.Consistent) (window : Duration) (now : Int) :
    Catalog.Continues p.catalog (expireAndWarn window now p).catalog := by
  refine expireAndWarn_induct (P := Catalog.Continues p.catalog) (.refl hc) ?_ ?_
  · exact fun _ r _ _ hd => hd.run hc (.endSession r.group now) nofun nofun
  · exact fun _ r _ _ text _ hd => hd.run hc (.markWarned r text now) nofun nofun

theorem continues_announceAll (hc : p.catalog.Consistent) (now : Int) :
    Catalog.Continues p.catalog (announceAll now p).catalog :=
  announceAll_induct (P := Catalog.Continues p.catalog) (.refl hc) fun _ r _ text _ hd =>
    hd.run hc (.markAnnounced r text now) nofun nofun

theorem continues_cleanAll (hc : p.catalog.Consistent) (now : Int) :
    Catalog.Continues p.catalog (cleanAll now p).catalog := by
  refine cleanAll_induct (P := Catalog.Continues p.catalog) (.refl hc) ?_ fun _ r hr hd => ?_
  · exact fun _ r _ hd => hd.run hc (.markOff r (offNotice r) now) nofun nofun
  · refine hd.run hc (.finalize r) nofun fun s hs => ?_
    rw [← Transaction.finalize.inj hs]
    exact ⟨r, List.mem_of_mem_filter hr, .refl r⟩

theorem continues_tellAllReady (hc : p.catalog.Consistent) (now : Int) :
    Catalog.Continues p.catalog (tellAllReady now p).catalog :=
  tellAllReady_induct (P := Catalog.Continues p.catalog) (.refl hc) fun _ r _ hd =>
    hd.run hc (.markReady r (readyNotice r) now) nofun nofun

/-- A tick keeps the catalog consistent, keeps to the leases, and does not touch what the servers
show. -/
theorem continues_tick (hc : c.Consistent) (window : Duration) (now : Int) :
    Catalog.Continues c (tick window now c).catalog := by
  have h1 : Catalog.Continues c (expireAndWarn window now { catalog := c }).catalog :=
    continues_expireAndWarn (p := { catalog := c }) hc window now
  have h2 := h1.trans (continues_announceAll h1.consistent now)
  have h3 := h2.trans (continues_cleanAll h2.consistent now)
  exact h3.trans (continues_tellAllReady h3.consistent now)

end Lifecycle
end PowerLease
