import PowerLease.Proofs.Lifecycle.Continuity

/-!
# The stages of a tick as single updates

A stage of the lifecycle writes one session after another, each in a transaction of its own. As long
as nobody else writes in between, a stage amounts to one update of the whole catalog: `endAll`,
`flagAll` or `deleteAll` of the sessions that it has read, and the notices queued in their order.

The induction is on the rows that are still to be written, and done once (`WritesRows.catalog_foldl`). It
goes through because a write touches the rows of one session only, so the others are still there as they
were read.
-/

namespace PowerLease

/-! ## Flags -/

/-- A session whose holder is warned. -/
def Session.warn (s : Session) : Session := { s with warned := true }

/-- A session that is announced. -/
def Session.announce (s : Session) : Session := { s with unannounced := false }

/-- A session whose holder is told that the servers are off. -/
def Session.tellOff (s : Session) : Session := { s with offTold := true }

/-- A session whose holder is told that the servers are on. -/
def Session.tellReady (s : Session) : Session := { s with readyTold := true }

namespace Catalog

/-! ## Updates of many sessions -/

/-- Raises a flag of all sessions of a list. -/
def flagAll (l : List Session) (flag : Session → Session) (c : Catalog) : Catalog :=
  { c with sessions := c.sessions.map fun s => if s ∈ l then flag s else s }

/-- Ends all sessions of a list. -/
def endAll (l : List Session) (now : Int) (c : Catalog) : Catalog :=
  { c with
    servers := c.servers.map fun v => if ∃ s ∈ l, s.group = v.group then v.wantOff now else v
    sessions := c.sessions.map fun s => if s ∈ l then s.end else s }

/-- Deletes all sessions of a list. -/
def deleteAll (l : List Session) (c : Catalog) : Catalog :=
  { c with
    servers := c.servers.map fun v =>
      if ∃ s ∈ l, s.group = v.group then { v with target := none } else v
    sessions := c.sessions.filter fun s => s.id ∉ l.map Session.id }

/-- Queues a list of notices. -/
def enqueueAll (now : Int) (l : List (String × NoticeText)) (c : Catalog) : Catalog :=
  l.foldl (fun c n => (c.enqueue n.1 n.2.title n.2.message now).2) c

variable {c : Catalog} {r : Session} {l : List Session}

@[simp] theorem sessions_enqueueAll (now : Int) (n : List (String × NoticeText)) (c : Catalog) :
    (c.enqueueAll now n).sessions = c.sessions := by
  induction n generalizing c with
  | nil => rfl
  | cons _ rest ih => exact ih _

@[simp] theorem servers_enqueueAll (now : Int) (n : List (String × NoticeText)) (c : Catalog) :
    (c.enqueueAll now n).servers = c.servers := by
  induction n generalizing c with
  | nil => rfl
  | cons _ rest ih => exact ih _

theorem enqueueAll_append (now : Int) (m n : List (String × NoticeText)) (c : Catalog) :
    (c.enqueueAll now m).enqueueAll now n = c.enqueueAll now (m ++ n) :=
  (List.foldl_append ..).symm

theorem flagAll_enqueueAll (flag : Session → Session) (now : Int)
    (n : List (String × NoticeText)) :
    (c.enqueueAll now n).flagAll l flag = (c.flagAll l flag).enqueueAll now n := by
  induction n generalizing c with
  | nil => rfl
  | cons _ rest ih => exact ih

theorem deleteAll_enqueueAll (now : Int) (n : List (String × NoticeText)) :
    (c.enqueueAll now n).deleteAll l = (c.deleteAll l).enqueueAll now n := by
  induction n generalizing c with
  | nil => rfl
  | cons _ rest ih => exact ih

theorem flagAll_nil (flag : Session → Session) (c : Catalog) : c.flagAll [] flag = c := by
  simp [flagAll]

theorem endAll_nil (now : Int) (c : Catalog) : c.endAll [] now = c := by
  simp [endAll]

theorem deleteAll_nil (c : Catalog) : c.deleteAll [] = c := by
  simp [deleteAll]

/-- Where a flag keeps the ids, raising it session by session is raising it at once. -/
theorem map_map_cons {f : Session → Session} (hf : (f r).id = r.id)
    (hl : ((r :: l).map Session.id).Nodup) (sessions : List Session) :
    (sessions.map fun s => if s = r then f s else s).map (fun s => if s ∈ l then f s else s) =
      sessions.map fun s => if s ∈ r :: l then f s else s := by
  rw [List.map_map]
  refine List.map_congr_left fun s _ => ?_
  simp only [Function.comp_apply, List.mem_cons]
  by_cases hs : s = r
  · have hnot : f r ∉ l := by
      intro hmem
      exact (List.nodup_cons.mp hl).1 (List.mem_map.mpr ⟨f r, hmem, hf⟩)
    simp [hs, hnot]
  · simp [hs]

theorem flagAll_cons {flag : Session → Session} (hflag : ∀ s, (flag s).id = s.id)
    (hl : ((r :: l).map Session.id).Nodup) :
    (c.flagAll [r] flag).flagAll l flag = c.flagAll (r :: l) flag := by
  simp only [flagAll, List.mem_singleton, map_map_cons (hflag r) hl]

theorem map_id_flagAll {flag : Session → Session} (hflag : ∀ s, (flag s).id = s.id) :
    (c.flagAll l flag).sessions.map Session.id = c.sessions.map Session.id := by
  simp only [flagAll, List.map_map]
  refine List.map_congr_left fun s _ => ?_
  simp only [Function.comp_apply]
  split
  · exact hflag s
  · rfl

theorem mem_flagAll_of_notMem {flag : Session → Session} {s : Session} (hs : s ∈ c.sessions)
    (hnot : s ∉ l) : s ∈ (c.flagAll l flag).sessions :=
  List.mem_map.mpr ⟨s, hs, if_neg hnot⟩

theorem endAll_cons (hl : ((r :: l).map Session.id).Nodup) (now : Int) :
    (c.endAll [r] now).endAll l now = c.endAll (r :: l) now := by
  simp only [endAll, List.mem_singleton, map_map_cons (f := Session.end) rfl hl, List.map_map]
  congr 1
  refine List.map_congr_left fun v _ => ?_
  simp only [Function.comp_apply, List.exists_mem_cons_iff]
  by_cases hr : r.group = v.group
  · simp [hr, Server.wantOff]
  · simp [hr]

theorem deleteAll_cons : (c.deleteAll [r]).deleteAll l = c.deleteAll (r :: l) := by
  simp only [deleteAll, List.filter_filter, List.map_map]
  congr 1
  · refine List.map_congr_left fun v _ => ?_
    simp only [Function.comp_apply, List.mem_singleton, exists_eq_left, List.exists_mem_cons_iff]
    by_cases hr : r.group = v.group
    · simp [hr]
    · simp [hr]
  · refine List.filter_congr fun s _ => ?_
    simp [Bool.and_comm]

/-- Flags of sessions that are deleted do not matter. -/
theorem deleteAll_flagAll {flag : Session → Session} (hflag : ∀ s, (flag s).id = s.id) :
    (c.flagAll l flag).deleteAll l = c.deleteAll l := by
  simp only [deleteAll, flagAll, List.filter_map]
  congr 1
  have hid : ∀ s : Session, (if s ∈ l then flag s else s).id = s.id := by
    intro s
    split
    · exact hflag s
    · rfl
  simp only [Function.comp_def, hid]
  refine (List.map_congr_left fun s hs => ?_).trans (List.map_id _)
  have hkept : s.id ∉ l.map Session.id := by simpa using (List.mem_filter.mp hs).2
  exact if_neg fun hmem => hkept (List.mem_map_of_mem hmem)

/-! ## One write -/

/-- Among sessions without shared ids, an id and a guard pick the one row that was read. -/
theorem mem_of_guard (hn : (c.sessions.map Session.id).Nodup) (hr : r ∈ c.sessions)
    {guard : Session → Bool} (hguard : guard r = true) {s : Session} (hs : s ∈ c.sessions) :
    (s.id == r.id && guard s) = true ↔ s = r := by
  simp only [Bool.and_eq_true, beq_iff_eq]
  constructor
  · exact fun h => List.inj_on_of_nodup_map hn hs hr h.1
  · rintro rfl
    exact ⟨rfl, hguard⟩

theorem updateSessions_eq_flagAll (hn : (c.sessions.map Session.id).Nodup) (hr : r ∈ c.sessions)
    {guard : Session → Bool} (hguard : guard r = true) (flag : Session → Session) :
    c.updateSessions (fun s => s.id == r.id && guard s) flag = c.flagAll [r] flag := by
  simp only [updateSessions, flagAll, List.mem_singleton]
  congr 1
  refine List.map_congr_left fun s hs => ?_
  simp only [mem_of_guard hn hr hguard hs]

/-- A write whose guard holds raises its flag and queues its notice. -/
theorem raise_eq (hn : (c.sessions.map Session.id).Nodup) (hr : r ∈ c.sessions)
    {guard : Session → Bool} (hguard : guard r = true) (flag : Session → Session)
    (text : NoticeText) (now : Int) :
    (raise guard flag r text now c).2 = (c.flagAll [r] flag).enqueueAll now [(r.user, text)] := by
  rcases c.raise_cases guard flag r text now with ⟨hmiss, -⟩ | ⟨_, -, -, -, hrun⟩
  · rw [hmiss r hr rfl] at hguard
    exact Bool.noConfusion hguard
  · rw [hrun, raised, updateSessions_eq_flagAll hn hr hguard]
    rfl

/-- Ending the session of a group ends the row that was read. -/
theorem Consistent.endSession_eq (h : c.Consistent) (hr : r ∈ c.sessions) (hlive : r.ended = false)
    (now : Int) : (c.endSession r.group now).2 = c.endAll [r] now := by
  have hhit : ∀ s ∈ c.sessions, (s.group == r.group && !s.ended) = true ↔ s = r := by
    intro s hs
    simp only [Bool.and_eq_true, beq_iff_eq]
    constructor
    · exact fun hg => h.session_eq_of_group hs hr hg.1
    · rintro rfl
      simp [hlive]
  rcases c.endSession_cases r.group now with ⟨hmiss, -⟩ | ⟨_, -, -, -, hrun⟩
  · rw [hmiss r hr rfl] at hlive
    exact Bool.noConfusion hlive
  · rw [hrun]
    simp only [Catalog.closed, Catalog.updateSessions, updateGroup, endAll, List.mem_singleton,
      exists_eq_left, beq_iff_eq]
    congr 1
    · simp only [eq_comm]
    · refine List.map_congr_left fun s hs => ?_
      simp only [hhit s hs]

/-- The deletion of a session that its holder was told of deletes the rows of its id. -/
theorem finalize_eq {s : Session} (hs : s ∈ c.sessions) (hid : s.id = r.id)
    (hdone : ∀ s ∈ c.sessions, s.id = r.id → s.ended = true ∧ s.offTold = true) :
    (c.finalize r).2 = c.deleteAll [r] := by
  have hhit : ∀ t ∈ c.sessions, (t.id == r.id && t.ended && t.offTold) = true ↔ t.id = r.id := by
    intro t ht
    simp only [Bool.and_eq_true, beq_iff_eq, and_assoc]
    exact ⟨fun h => h.1, fun h => ⟨h, hdone t ht h⟩⟩
  rcases c.finalize_cases r with ⟨hmiss, -⟩ | ⟨_, -, -, -, -, hrun⟩
  · obtain ⟨hended, htold⟩ := hdone s hs hid
    rw [hmiss s hs hid hended] at htold
    exact Bool.noConfusion htold
  · rw [hrun]
    simp only [dropped, updateGroup, deleteAll, List.mem_singleton, exists_eq_left, beq_iff_eq]
    congr 1
    · simp only [eq_comm]
    · refine List.filter_congr fun t ht => ?_
      rw [Bool.eq_iff_iff, Bool.not_eq_true', ← Bool.not_eq_true, hhit t ht]
      simp

end Catalog

namespace Lifecycle

variable {p : Progress} {r : Session} {l : List Session} {now : Int}

/-! ## Row by row and at once -/

/-- What makes a stage one update: its writes are updates of single rows, they leave the other rows
where they are, and updates of rows one after the other are one update of them all. -/
structure WritesRows (step : Progress → Session → Progress)
    (update : List Session → Catalog → Catalog) (invariant : Catalog → Prop) (l : List Session) :
    Prop where
  nil : ∀ c, update [] c = c
  cons : ∀ r rest c, ((r :: rest).map Session.id).Nodup →
    update rest (update [r] c) = update (r :: rest) c
  aborted : ∀ q, ∀ r ∈ l, (step q r).aborted = q.aborted
  write : ∀ q : Progress, ∀ r ∈ l, q.aborted = false → invariant q.catalog →
    r ∈ q.catalog.sessions → (step q r).catalog = update [r] q.catalog
  keeps : ∀ c, ∀ r ∈ l, invariant c → r ∈ c.sessions → invariant (update [r] c)
  others : ∀ c r s, s ∈ c.sessions → s.id ≠ r.id → s ∈ (update [r] c).sessions

/-- A progress at which the rows of a list are to be written: it is not aborted, its catalog is as the writes
need it, and the rows are there as they were read. -/
structure Stands (invariant : Catalog → Prop) (l : List Session) (p : Progress) : Prop where
  aborted : p.aborted = false
  holds : invariant p.catalog
  ids : (l.map Session.id).Nodup
  read : ∀ r ∈ l, r ∈ p.catalog.sessions

section

variable {step : Progress → Session → Progress} {update : List Session → Catalog → Catalog}
  {invariant : Catalog → Prop} {rest : List Session}

/-- A write leaves the others to be written. -/
theorem WritesRows.next (h : WritesRows step update invariant (r :: rest))
    (hp : Stands invariant (r :: rest) p) :
    WritesRows step update invariant rest ∧ Stands invariant rest (step p r) := by
  obtain ⟨hr, hrest⟩ := List.forall_mem_cons.mp hp.read
  obtain ⟨hnot, hids⟩ := List.nodup_cons.mp hp.ids
  have hwrite : (step p r).catalog = update [r] p.catalog :=
    h.write p r List.mem_cons_self hp.aborted hp.holds hr
  refine ⟨?_, ?_, ?_, hids, fun s hs => ?_⟩
  · exact { h with
      aborted := fun q s hs => h.aborted q s (List.mem_cons_of_mem r hs)
      write := fun q s hs => h.write q s (List.mem_cons_of_mem r hs)
      keeps := fun c s hs => h.keeps c s (List.mem_cons_of_mem r hs) }
  · rw [h.aborted p r List.mem_cons_self, hp.aborted]
  · rw [hwrite]
    exact h.keeps p.catalog r List.mem_cons_self hp.holds hr
  · -- the other rows are still there as they were read
    have hne : s.id ≠ r.id := fun he => hnot (he ▸ List.mem_map_of_mem hs)
    rw [hwrite]
    exact h.others p.catalog r s (hrest s hs) hne

/-- Writing row by row is writing all rows at once. -/
theorem WritesRows.catalog_foldl (h : WritesRows step update invariant l) (hp : Stands invariant l p) :
    (l.foldl step p).catalog = update l p.catalog := by
  induction l generalizing p with
  | nil => exact (h.nil p.catalog).symm
  | cons r rest ih =>
    obtain ⟨hrest, hnext⟩ := h.next hp
    have hwrite : (step p r).catalog = update [r] p.catalog :=
      h.write p r List.mem_cons_self hp.aborted hp.holds (hp.read r List.mem_cons_self)
    rw [List.foldl_cons, ih hrest hnext, hwrite, h.cons r rest p.catalog hp.ids]

end

/-! ## Stages that raise flags -/

/-- The texts of a stage, each for the user of its session. -/
def addressed (text : Session → NoticeText) (l : List Session) : List (String × NoticeText) :=
  l.map fun r => (r.user, text r)

theorem writesRows_raise {step : Progress → Session → Progress} {guard : Session → Bool}
    {flag : Session → Session} {text : Session → NoticeText} {count : Report → Report}
    (hstep : ∀ r ∈ l, ∀ q : Progress,
      step q r = q.write (Catalog.raise guard flag r (text r) now) count)
    (hflag : ∀ s, (flag s).id = s.id) (hguard : ∀ r ∈ l, guard r = true) :
    WritesRows step (fun l c => (c.flagAll l flag).enqueueAll now (addressed text l))
      (fun c => (c.sessions.map Session.id).Nodup) l where
  nil := Catalog.flagAll_nil flag
  cons := by
    intro r rest c hl
    rw [Catalog.flagAll_enqueueAll, Catalog.enqueueAll_append, Catalog.flagAll_cons hflag hl]
    rfl
  aborted := by
    intro q r hr
    rw [hstep r hr, Progress.aborted_write]
  write := by
    intro q r hr hp hn hmem
    rw [hstep r hr, Progress.catalog_write hp, Catalog.raise_eq hn hmem (hguard r hr)]
    rfl
  keeps := by
    intro c r _ hn _
    rwa [Catalog.sessions_enqueueAll, Catalog.map_id_flagAll hflag]
  others := by
    intro c r s hs hne
    rw [Catalog.sessions_enqueueAll]
    refine Catalog.mem_flagAll_of_notMem hs fun hmem => hne ?_
    rw [List.mem_singleton.mp hmem]

/-! ## The stage that ends -/

theorem writesRows_expire (hlive : ∀ r ∈ l, r.ended = false) :
    WritesRows (expire now) (fun l c => c.endAll l now) Catalog.Consistent l where
  nil := Catalog.endAll_nil now
  cons := fun _ _ _ hl => Catalog.endAll_cons hl now
  aborted := fun _ _ _ => Progress.aborted_write _ _
  write := by
    intro q r hr hp hc hmem
    rw [expire, Progress.catalog_write hp, hc.endSession_eq hmem (hlive r hr)]
  keeps := by
    intro c r hr hc hmem
    rw [← hc.endSession_eq hmem (hlive r hr) now]
    exact hc.endSession r.group now
  others := by
    intro c r s hs hne
    refine List.mem_map.mpr ⟨s, hs, if_neg fun hmem => hne ?_⟩
    rw [List.mem_singleton.mp hmem]

/-! ## The stage that cleans up -/

/-- The notices of a cleanup. Who was told before is not told again. -/
def offNotices (l : List Session) : List (String × NoticeText) :=
  addressed offNotice (l.filter fun r => !r.offTold)

theorem catalog_clean (hp : p.aborted = false)
    (hn : (p.catalog.sessions.map Session.id).Nodup) (hr : r ∈ p.catalog.sessions)
    (hended : r.ended = true) :
    (clean now p r).catalog = (p.catalog.deleteAll [r]).enqueueAll now (offNotices [r]) := by
  have honly : ∀ s ∈ p.catalog.sessions, s.id = r.id → s = r :=
    fun s hs hid => List.inj_on_of_nodup_map hn hs hr hid
  unfold clean
  dsimp only
  by_cases htold : r.offTold = true
  · have hdone : ∀ s ∈ p.catalog.sessions, s.id = r.id → s.ended = true ∧ s.offTold = true := by
      intro s hs hid
      rw [honly s hs hid]
      exact ⟨hended, htold⟩
    rw [if_pos htold, Progress.catalog_write hp, Catalog.finalize_eq hr rfl hdone]
    simp [offNotices, addressed, htold, Catalog.enqueueAll]
  · have hguard : (r.ended && !r.offTold) = true := by simp [hended, htold]
    have hmark : (Catalog.markOff r (offNotice r) now p.catalog).2 =
        (p.catalog.flagAll [r] Session.tellOff).enqueueAll now [(r.user, offNotice r)] :=
      Catalog.raise_eq hn hr hguard Session.tellOff (offNotice r) now
    -- the row is deleted as it was just told
    have hdone : ∀ s ∈ (p.catalog.flagAll [r] Session.tellOff).sessions,
        s.id = r.id → s.ended = true ∧ s.offTold = true := by
      intro s hs hid
      obtain ⟨t, ht, rfl⟩ := List.mem_map.mp hs
      have htr : t = r := honly t ht (by split at hid <;> exact hid)
      simp [htr, hended, Session.tellOff]
    have hmem : r.tellOff ∈ (p.catalog.flagAll [r] Session.tellOff).sessions :=
      List.mem_map.mpr ⟨r, hr, if_pos (List.mem_singleton.mpr rfl)⟩
    have hfinal := Catalog.finalize_eq (r := r) (s := r.tellOff)
      (c := (p.catalog.flagAll [r] Session.tellOff).enqueueAll now [(r.user, offNotice r)])
      (by rwa [Catalog.sessions_enqueueAll]) rfl (by rwa [Catalog.sessions_enqueueAll])
    have hdelete : (p.catalog.flagAll [r] Session.tellOff).deleteAll [r] =
        p.catalog.deleteAll [r] := Catalog.deleteAll_flagAll fun _ => rfl
    rw [if_neg htold, Progress.catalog_write (by rw [Progress.aborted_write, hp]),
      Progress.catalog_write hp, hmark, hfinal, Catalog.deleteAll_enqueueAll,
      hdelete]
    simp [offNotices, addressed, htold]

theorem writesRows_clean (hended : ∀ r ∈ l, r.ended = true) :
    WritesRows (clean now) (fun l c => (c.deleteAll l).enqueueAll now (offNotices l))
      (fun c => (c.sessions.map Session.id).Nodup) l where
  nil := Catalog.deleteAll_nil
  cons := by
    intro r rest c _
    rw [Catalog.deleteAll_enqueueAll, Catalog.enqueueAll_append, Catalog.deleteAll_cons]
    simp only [offNotices, addressed, ← List.map_append, ← List.filter_append,
      List.singleton_append]
  aborted := fun _ r _ => aborted_clean r
  write := fun _ r hr hp hn hmem => catalog_clean hp hn hmem (hended r hr)
  keeps := by
    intro c r _ hn _
    rw [Catalog.sessions_enqueueAll]
    exact hn.sublist (List.filter_sublist.map _)
  others := by
    intro c r s hs hne
    rw [Catalog.sessions_enqueueAll]
    exact List.mem_filter.mpr ⟨hs, by simpa using hne⟩

end Lifecycle
end PowerLease
