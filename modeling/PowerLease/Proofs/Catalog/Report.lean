import PowerLease.Proofs.Catalog.Consistency

/-!
# What a report leaves in a catalog

After a report has been taken over, the servers are the instances that it names, each with the last
record that the report has of it (`lastOf_of_mem_sync`, `exists_server_of_mem_report`). What they were
before matters only for what the catalog alone knows of them.

The report also keeps the catalog consistent (`Consistent.sync`). The argument follows the passes: the
writing leaves each server with the target of its group or with none, and the last pass fills these in.
-/

namespace PowerLease

/-- What a server shows of its instance. -/
def Server.shown (v : Server) : Instance :=
  { id := v.id, name := v.name, group := v.group, state := v.state }

/-- The last record of an id in a report. -/
def lastOf (id : String) (report : List Instance) : Option Instance :=
  report.reverse.find? fun i => i.id == id

theorem lastOf_cons {id : String} {i : Instance} {report : List Instance} :
    lastOf id (i :: report) = (lastOf id report).or (if i.id = id then some i else none) := by
  simp [lastOf, List.find?_append, List.find?_singleton]

theorem lastOf_eq_none_iff {id : String} {report : List Instance} :
    lastOf id report = none ↔ ∀ i ∈ report, i.id ≠ id := by
  simp [lastOf]

/-- In a report without repetition, each record is the last one of its id. -/
theorem lastOf_of_mem {i : Instance} {report : List Instance}
    (hn : (report.map Instance.id).Nodup) (hi : i ∈ report) : lastOf i.id report = some i := by
  cases hf : lastOf i.id report with
  | none => exact absurd rfl (lastOf_eq_none_iff.mp hf i hi)
  | some j =>
    have hj : j ∈ report := List.mem_reverse.mp (List.mem_of_find?_eq_some hf)
    have hid : j.id = i.id := by simpa using List.find?_some hf
    rw [List.inj_on_of_nodup_map hn hj hi hid]

theorem Server.shown_of_matches {v : Server} {i : Instance} (hid : v.id = i.id)
    (h : v.matches i = true) : v.shown = i := by
  simp only [Server.matches, Bool.and_eq_true, beq_iff_eq] at h
  obtain ⟨⟨hname, hgroup⟩, hstate⟩ := h
  cases i
  simp_all [Server.shown]

theorem Server.shown_refresh {v : Server} {i : Instance} (hid : v.id = i.id) :
    (v.refresh i).shown = i := by
  cases i
  simpa [Server.shown, Server.refresh] using hid

namespace Catalog

variable {c : Catalog} {now : Int} {i : Instance} {l : List Server} {report : List Instance}

/-! ## Writing one instance -/

/-- What holds of all servers before a write, of a server that is new and of a refreshed one, holds after. -/
theorem forall_writeInstance {P : Server → Prop} (hl : ∀ v ∈ l, P v)
    (hnew : i.id ∉ l.map Server.id → P (i.newServer now))
    (hrefresh : ∀ v, P v → v.id = i.id → P (v.refresh i)) :
    ∀ v ∈ (writeInstance i now l).1, P v := by
  induction l with
  | nil => simpa [writeInstance] using hnew
  | cons w rest ih =>
    obtain ⟨hw, hrest⟩ := List.forall_mem_cons.mp hl
    simp only [writeInstance]
    split
    next hid =>
      split
      · exact hl
      · exact List.forall_mem_cons.mpr ⟨hrefresh w hw hid, hrest⟩
    next hid =>
      refine List.forall_mem_cons.mpr ⟨hw, ih hrest fun hnot => hnew fun hmem => ?_⟩
      rcases List.mem_cons.mp hmem with he | hmem
      · exact hid he.symm
      · exact hnot hmem

theorem map_id_writeInstance :
    (writeInstance i now l).1.map Server.id =
      if i.id ∈ l.map Server.id then l.map Server.id else l.map Server.id ++ [i.id] := by
  induction l with
  | nil => simp [writeInstance, Instance.newServer]
  | cons w rest ih =>
    simp only [writeInstance]
    by_cases hid : w.id = i.id
    · have hmem : i.id ∈ (w :: rest).map Server.id := by simp [hid]
      rw [if_pos hid, if_pos hmem]
      split <;> simp [Server.refresh]
    · have hiff : i.id ∈ (w :: rest).map Server.id ↔ i.id ∈ rest.map Server.id := by
        simp [Ne.symm hid]
      rw [if_neg hid, List.map_cons, ih]
      simp only [hiff]
      split <;> simp

/-- A write shows the instance at its id, and leaves the servers of other ids alone. -/
theorem shown_of_mem_writeInstance (hn : (l.map Server.id).Nodup) {w : Server}
    (hw : w ∈ (writeInstance i now l).1) : (w.id = i.id ∧ w.shown = i) ∨ (w.id ≠ i.id ∧ w ∈ l) := by
  induction l with
  | nil =>
    rw [writeInstance, List.mem_singleton] at hw
    exact Or.inl ⟨by rw [hw]; rfl, by rw [hw]; rfl⟩
  | cons v rest ih =>
    obtain ⟨hv, hrest⟩ := List.nodup_cons.mp hn
    have hother : ∀ u ∈ rest, v.id = i.id → u.id ≠ i.id := by
      intro u hu hid he
      exact hv (List.mem_map.mpr ⟨u, hu, he.trans hid.symm⟩)
    rw [writeInstance] at hw
    by_cases hid : v.id = i.id
    · rw [if_pos hid] at hw
      split at hw
      next hmatches =>
        rcases List.mem_cons.mp hw with rfl | hw
        · exact Or.inl ⟨hid, Server.shown_of_matches hid hmatches⟩
        · exact Or.inr ⟨hother w hw hid, List.mem_cons_of_mem _ hw⟩
      next =>
        rcases List.mem_cons.mp hw with rfl | hw
        · exact Or.inl ⟨hid, Server.shown_refresh hid⟩
        · exact Or.inr ⟨hother w hw hid, List.mem_cons_of_mem _ hw⟩
    · -- another id: the write goes on behind it
      rw [if_neg hid] at hw
      rcases List.mem_cons.mp hw with rfl | hw
      · exact Or.inr ⟨hid, List.mem_cons_self⟩
      · exact (ih hrest hw).imp_right fun h => ⟨h.1, List.mem_cons_of_mem _ h.2⟩

theorem nodup_writeInstance (hn : (l.map Server.id).Nodup) :
    ((writeInstance i now l).1.map Server.id).Nodup := by
  rw [map_id_writeInstance]
  split
  · exact hn
  next hnew =>
    refine List.nodup_append.mpr ⟨hn, List.nodup_singleton _, ?_⟩
    intro id hid id' hid' he
    rw [List.mem_singleton.mp hid'] at he
    exact hnew (he ▸ hid)

theorem mem_ids_writeInstance {id : String} :
    id ∈ (writeInstance i now l).1.map Server.id ↔ id = i.id ∨ id ∈ l.map Server.id := by
  rw [map_id_writeInstance]
  split
  next hmem => exact ⟨Or.inr, fun h => h.elim (fun he => he ▸ hmem) fun h => h⟩
  next => rw [List.mem_append, List.mem_singleton, or_comm]

/-! ## Writing all instances -/

theorem forall_writeInstances {P : Server → Prop} (hl : ∀ v ∈ l, P v)
    (hnew : ∀ i ∈ report, i.id ∉ l.map Server.id → P (i.newServer now))
    (hrefresh : ∀ i ∈ report, ∀ v, P v → v.id = i.id → P (v.refresh i)) :
    ∀ v ∈ (writeInstances now report l).1, P v := by
  induction report generalizing l with
  | nil => exact hl
  | cons i rest ih =>
    obtain ⟨hnewi, hnew⟩ := List.forall_mem_cons.mp hnew
    obtain ⟨hrefreshi, hrefresh⟩ := List.forall_mem_cons.mp hrefresh
    refine ih (forall_writeInstance hl hnewi hrefreshi) (fun j hj hnot => hnew j hj fun hmem => ?_) hrefresh
    exact hnot (mem_ids_writeInstance.mpr (Or.inr hmem))

theorem nodup_writeInstances (hn : (l.map Server.id).Nodup) :
    ((writeInstances now report l).1.map Server.id).Nodup := by
  induction report generalizing l with
  | nil => exact hn
  | cons i rest ih => exact ih (nodup_writeInstance hn)

theorem mem_ids_writeInstances {id : String} :
    id ∈ (writeInstances now report l).1.map Server.id ↔
      id ∈ report.map Instance.id ∨ id ∈ l.map Server.id := by
  induction report generalizing l with
  | nil => simp [writeInstances]
  | cons i rest ih =>
    rw [List.map_cons, List.mem_cons, or_assoc, or_left_comm]
    exact ih.trans (or_congr_right mem_ids_writeInstance)

/-- After all writes a server shows the last record of its id. -/
theorem shown_of_mem_writeInstances (hn : (l.map Server.id).Nodup) {w : Server}
    (hw : w ∈ (writeInstances now report l).1) :
    lastOf w.id report = some w.shown ∨ (lastOf w.id report = none ∧ w ∈ l) := by
  induction report generalizing l with
  | nil => exact Or.inr ⟨rfl, hw⟩
  | cons i rest ih =>
    rw [lastOf_cons]
    -- a later record of the id wins over this one
    rcases ih (nodup_writeInstance hn) hw with hlast | ⟨hnone, hw⟩
    · left
      rw [hlast, Option.some_or]
    · rw [hnone, Option.none_or]
      rcases shown_of_mem_writeInstance hn hw with ⟨hid, hshown⟩ | ⟨hid, hl⟩
      · left
        rw [if_pos hid.symm, hshown]
      · right
        exact ⟨if_neg (Ne.symm hid), hl⟩

/-! ## Taking over a report -/

theorem shown_adopt (c : Catalog) (v : Server) : (c.adopt v).shown = v.shown := by
  unfold adopt
  split <;> rfl

theorem id_adopt (c : Catalog) (v : Server) : (c.adopt v).id = v.id :=
  congrArg Instance.id (shown_adopt c v)

theorem group_adopt (c : Catalog) (v : Server) : (c.adopt v).group = v.group :=
  congrArg Instance.group (shown_adopt c v)

theorem mem_servers_sync {v : Server} :
    v ∈ (c.sync report now).2.servers ↔
      ∃ w ∈ (writeInstances now report c.servers).1, named report w = true ∧ c.adopt w = v := by
  simp only [Catalog.sync, List.mem_map, List.mem_filter, and_assoc]

theorem named_iff {v : Server} : named report v = true ↔ v.id ∈ report.map Instance.id := by
  simp [named]

/-- A server shows the last record that the report has of it. -/
theorem lastOf_of_mem_sync (hn : (c.servers.map Server.id).Nodup) {v : Server}
    (hv : v ∈ (c.sync report now).2.servers) : lastOf v.id report = some v.shown := by
  obtain ⟨w, hw, hnamed, rfl⟩ := mem_servers_sync.mp hv
  rw [id_adopt, shown_adopt]
  rcases shown_of_mem_writeInstances hn hw with hlast | ⟨hnone, -⟩
  · exact hlast
  · obtain ⟨i, hi, hid⟩ := List.mem_map.mp (named_iff.mp hnamed)
    exact absurd hid (lastOf_eq_none_iff.mp hnone i hi)

/-- No instance of the report is missing. -/
theorem exists_server_of_mem_report (hi : i ∈ report) :
    ∃ v ∈ (c.sync report now).2.servers, v.id = i.id := by
  have hid : i.id ∈ report.map Instance.id := List.mem_map_of_mem hi
  obtain ⟨w, hw, hwid⟩ := List.mem_map.mp (mem_ids_writeInstances.mpr (Or.inl hid))
  refine ⟨c.adopt w, mem_servers_sync.mpr ⟨w, hw, ?_, rfl⟩, (id_adopt c w).trans hwid⟩
  exact named_iff.mpr (hwid ▸ hid)

/-- What the servers show is the last record of each id. -/
theorem mem_shown_sync (hn : (c.servers.map Server.id).Nodup) :
    i ∈ (c.sync report now).2.servers.map Server.shown ↔ lastOf i.id report = some i := by
  constructor
  · intro hi
    obtain ⟨v, hv, rfl⟩ := List.mem_map.mp hi
    exact lastOf_of_mem_sync hn hv
  · intro hlast
    have hi : i ∈ report := List.mem_reverse.mp (List.mem_of_find?_eq_some hlast)
    obtain ⟨v, hv, hid⟩ : ∃ v ∈ (c.sync report now).2.servers, v.id = i.id :=
      exists_server_of_mem_report hi
    have hshown := lastOf_of_mem_sync hn hv
    rw [hid, hlast] at hshown
    exact List.mem_map.mpr ⟨v, hv, (Option.some.inj hshown).symm⟩

/-- A report without repetition is what the servers show afterwards. -/
theorem mem_report_iff (hn : (c.servers.map Server.id).Nodup)
    (hreport : (report.map Instance.id).Nodup) :
    i ∈ report ↔ ∃ v ∈ (c.sync report now).2.servers, v.shown = i := by
  constructor
  · intro hi
    obtain ⟨v, hv, hid⟩ : ∃ v ∈ (c.sync report now).2.servers, v.id = i.id :=
      exists_server_of_mem_report hi
    have hlast := lastOf_of_mem_sync hn hv
    rw [hid, lastOf_of_mem hreport hi] at hlast
    exact ⟨v, hv, (Option.some.inj hlast).symm⟩
  · rintro ⟨v, hv, rfl⟩
    exact List.mem_reverse.mp (List.mem_of_find?_eq_some (lastOf_of_mem_sync hn hv))

/-- No id is there twice after a report, not even if the report repeats it. -/
theorem nodup_sync (hn : (c.servers.map Server.id).Nodup) :
    ((c.sync report now).2.servers.map Server.id).Nodup := by
  have hmap : ∀ l : List Server, (l.map c.adopt).map Server.id = l.map Server.id := by
    intro l
    simp [Function.comp_def, id_adopt]
  simp only [Catalog.sync, hmap]
  exact (nodup_writeInstances hn).sublist (List.filter_sublist.map _)

theorem Consistent.sync (h : c.Consistent) (report : List Instance) (now : Int) :
    (c.sync report now).2.Consistent := by
  constructor
  · exact nodup_sync h.serverIds
  · exact h.sessionIds
  · exact h.sessionIds_le
  · exact h.groups
  · exact h.tokens
  · exact h.token_eq_none_iff
  · -- a write keeps the target within a group and drops it on a move
    have hwritten : ∀ v ∈ (writeInstances now report c.servers).1,
        v.target = none ∨ v.target = (c.sessionOf v.group).map Session.target := by
      refine forall_writeInstances (fun v hv => Or.inr (h.target_eq v hv)) ?_ ?_
      · exact fun i _ _ => Or.inl rfl
      · intro i _ v hv _
        simp only [Server.refresh]
        split
        next hg => exact hg ▸ hv
        next => exact Or.inl rfl
    intro v hv
    obtain ⟨w, hw, -, rfl⟩ := mem_servers_sync.mp hv
    rw [group_adopt]
    show (c.adopt w).target = (c.sessionOf w.group).map Session.target
    unfold adopt
    split
    next => rfl
    next hsome =>
      rcases hwritten w hw with hnone | heq
      · simp [hnone] at hsome
      · exact heq

end Catalog
end PowerLease
