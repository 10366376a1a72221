import PowerLease.Proofs.Catalog.History

/-!
# Taking over a report, row by row

Of a server that the catalog knows, a report changes what the server shows and what is wanted of it; what
the catalog alone knows of it stays, wherever the server moves (`past_of_mem_sync`).

Where a report names no id twice, each server is written once at most, and the writes come down to one
change of each row and some new rows behind them (`writeInstances_eq`). From this the numbers of the
outcome can be told: a row may count twice, once for what it shows and once for the session of a group
that it came into. What has been taken over once is taken over for good (`History.sync_exact`).
-/

namespace PowerLease

/-- What the catalog alone knows of a server. -/
structure ServerPast where
  addedAt : Int
  lastOnAt : Option Int
  lastOffAt : Option Int
  lastUser : Option String
deriving DecidableEq, Repr

/-- What the catalog alone knows of a server, apart from what is wanted of it. -/
def Server.past (v : Server) : ServerPast := ⟨v.addedAt, v.lastOnAt, v.lastOffAt, v.lastUser⟩

/-- What a catalog knows of a server that it sees for the first time. -/
def ServerPast.seenFirst (now : Int) : ServerPast := ⟨now, none, none, none⟩

theorem Server.refresh_of_matches {v : Server} {i : Instance} (h : v.matches i = true) :
    v.refresh i = v := by
  simp only [Server.matches, Bool.and_eq_true, beq_iff_eq] at h
  obtain ⟨⟨hname, hgroup⟩, hstate⟩ := h
  rw [refresh, if_pos hgroup, ← hname, ← hgroup, ← hstate]

theorem Server.matches_iff_shown {v : Server} {i : Instance} (hid : i.id = v.id) :
    v.matches i = true ↔ i = v.shown := by
  constructor
  · exact fun h => (Server.shown_of_matches hid.symm h).symm
  · rintro rfl
    simp [Server.matches, Server.shown]

/-- A server after a record of an instance, which matters to the server of its id. -/
def Server.writtenBy (i : Instance) (v : Server) : Server := if v.id = i.id then v.refresh i else v

theorem Server.id_writtenBy (i : Instance) (v : Server) : (v.writtenBy i).id = v.id := by
  unfold writtenBy
  split <;> rfl

theorem Server.writtenBy_of_eq {v : Server} {i : Instance} (h : v.id = i.id) :
    v.writtenBy i = v.refresh i :=
  if_pos h

theorem Server.writtenBy_of_ne {v : Server} {i : Instance} (h : v.id ≠ i.id) : v.writtenBy i = v :=
  if_neg h

namespace Catalog

variable {c : Catalog} {now : Int} {i : Instance} {l : List Server} {report : List Instance} {v w : Server}

/-! ## What is known of a server -/

theorem past_adopt (c : Catalog) (v : Server) : (c.adopt v).past = v.past := by
  unfold adopt
  split <;> rfl

/-- A server that was there keeps what is known of it, also in another group. One that is new has only been
seen. -/
theorem past_of_mem_sync (hw : w ∈ (c.sync report now).2.servers) :
    (∃ v ∈ c.servers, v.id = w.id ∧ w.past = v.past) ∨
      (∀ v ∈ c.servers, v.id ≠ w.id) ∧ w.past = .seenFirst now := by
  obtain ⟨u, hu, -, rfl⟩ := mem_servers_sync.mp hw
  simp only [id_adopt, past_adopt]
  refine forall_writeInstances
    (P := fun u => (∃ v ∈ c.servers, v.id = u.id ∧ u.past = v.past) ∨
      (∀ v ∈ c.servers, v.id ≠ u.id) ∧ u.past = .seenFirst now)
    (fun v hv => Or.inl ⟨v, hv, rfl, rfl⟩) ?_ (fun _ _ _ hu _ => hu) u hu
  refine fun i _ hnew => Or.inr ⟨fun v hv hid => hnew ?_, rfl⟩
  exact List.mem_map.mpr ⟨v, hv, hid⟩

/-! ## One write -/

theorem writeInstance_of_new (hnew : i.id ∉ l.map Server.id) :
    writeInstance i now l = (l ++ [i.newServer now], 1) := by
  induction l with
  | nil => rfl
  | cons v rest ih =>
    rw [List.map_cons, List.mem_cons, not_or] at hnew
    rw [writeInstance, if_neg (Ne.symm hnew.1), ih hnew.2]
    rfl

theorem writeInstance_of_mem (hn : (l.map Server.id).Nodup) (hmem : i.id ∈ l.map Server.id) :
    writeInstance i now l =
      (l.map (Server.writtenBy i), l.countP fun v => v.id == i.id && !v.matches i) := by
  induction l with
  | nil => exact absurd hmem List.not_mem_nil
  | cons v rest ih =>
    obtain ⟨hnot, hrest⟩ := List.nodup_cons.mp hn
    by_cases hid : v.id = i.id
    · -- the id does not come again
      have hother : ∀ u ∈ rest, u.id ≠ i.id := fun u hu he =>
        hnot (hid.trans he.symm ▸ List.mem_map_of_mem hu)
      have hmap : rest.map (Server.writtenBy i) = rest :=
        (List.map_congr_left fun u hu => Server.writtenBy_of_ne (hother u hu)).trans (List.map_id rest)
      have hcount : (rest.countP fun v => v.id == i.id && !v.matches i) = 0 := by
        refine List.countP_eq_zero.mpr fun u hu => ?_
        simp [hother u hu]
      rw [writeInstance, if_pos hid, List.map_cons, Server.writtenBy_of_eq hid, hmap, List.countP_cons,
        hcount]
      cases hmatches : v.matches i with
      | true => simp [Server.refresh_of_matches hmatches]
      | false => simp [hid]
    · have hlater : i.id ∈ rest.map Server.id := (List.mem_cons.mp hmem).resolve_left (Ne.symm hid)
      have hskip : (v.id == i.id) = false := beq_false_of_ne hid
      rw [writeInstance, if_neg hid, ih hrest hlater, List.map_cons, Server.writtenBy_of_ne hid,
        List.countP_cons, hskip]
      rfl

/-! ## All writes of a report without repetition -/

/-- A server as the report says it is, if the report names it. -/
def updated (report : List Instance) (v : Server) : Server :=
  ((lastOf v.id report).map v.refresh).getD v

/-- Whether the report says anything new of a server. -/
def differs (report : List Instance) (v : Server) : Bool :=
  (lastOf v.id report).any fun i => !v.matches i

/-- Whether an instance is none of the servers. -/
def isNew (l : List Server) (i : Instance) : Bool := i.id ∉ l.map Server.id

theorem updated_of_none (h : lastOf v.id report = none) : updated report v = v := by
  rw [updated, h]
  rfl

theorem differs_of_none (h : lastOf v.id report = none) : differs report v = false := by
  rw [differs, h]
  rfl

/-- The last record of an id is the first one too, if no other follows. -/
theorem lastOf_cons_self (h : lastOf i.id report = none) : lastOf i.id (i :: report) = some i := by
  rw [lastOf_cons, h, if_pos rfl, Option.none_or]

theorem lastOf_cons_of_ne {id : String} (hid : id ≠ i.id) : lastOf id (i :: report) = lastOf id report := by
  rw [lastOf_cons, if_neg (Ne.symm hid), Option.or_none]

/-- Where no later record is of the same id, the first record is written for good. -/
theorem updated_cons (h : lastOf i.id report = none) (v : Server) :
    updated (i :: report) v = updated report (v.writtenBy i) := by
  by_cases hid : v.id = i.id
  · have hdone : lastOf (v.refresh i).id report = none := hid.symm ▸ h
    rw [Server.writtenBy_of_eq hid, updated_of_none hdone, updated, hid, lastOf_cons_self h]
    rfl
  · rw [Server.writtenBy_of_ne hid, updated, lastOf_cons_of_ne hid, updated]

theorem differs_cons (h : lastOf i.id report = none) (v : Server) :
    (v.id == i.id && !v.matches i).toNat + (differs report (v.writtenBy i)).toNat =
      (differs (i :: report) v).toNat := by
  by_cases hid : v.id = i.id
  · have hdone : lastOf (v.refresh i).id report = none := hid.symm ▸ h
    rw [Server.writtenBy_of_eq hid, differs_of_none hdone, differs, hid, lastOf_cons_self h,
      beq_self_eq_true]
    rfl
  · have hskip : (v.id == i.id) = false := beq_false_of_ne hid
    rw [Server.writtenBy_of_ne hid, differs, differs, lastOf_cons_of_ne hid, hskip]
    exact Nat.zero_add _

theorem isNew_map_writtenBy (l : List Server) (i : Instance) :
    isNew (l.map (Server.writtenBy i)) = isNew l := by
  have hids : (l.map (Server.writtenBy i)).map Server.id = l.map Server.id := by
    rw [List.map_map]
    exact List.map_congr_left fun v _ => v.id_writtenBy i
  funext j
  rw [isNew, hids, isNew]

theorem isNew_append_newServer {j : Instance} (h : j.id ≠ i.id) (l : List Server) (now : Int) :
    isNew (l ++ [i.newServer now]) j = isNew l j := by
  simp [isNew, Instance.newServer, h]

theorem countP_add {α : Type} {p q r : α → Bool} {l : List α}
    (h : ∀ a ∈ l, (p a).toNat + (q a).toNat = (r a).toNat) : l.countP p + l.countP q = l.countP r := by
  induction l with
  | nil => rfl
  | cons a rest ih =>
    obtain ⟨ha, hrest⟩ := List.forall_mem_cons.mp h
    have hsum := ih hrest
    have hone : ∀ b : Bool, (if b = true then 1 else 0) = b.toNat := fun b => by cases b <;> rfl
    simp only [List.countP_cons, hone]
    omega

/-- What a report does to the servers if it names no id twice: each is changed for itself, and new ones come
behind them in the order of the report. -/
def written (now : Int) (report : List Instance) (l : List Server) : List Server × Nat :=
  (l.map (updated report) ++ (report.filter (isNew l)).map fun i => i.newServer now,
    report.countP (isNew l) + l.countP (differs report))

theorem written_nil : written now [] l = (l, 0) := by
  have hupdated : updated [] = id := funext fun v => updated_of_none rfl
  have hdiffers : l.countP (differs []) = 0 :=
    List.countP_eq_zero.mpr fun v _ => Bool.eq_false_iff.mp (differs_of_none rfl)
  simp [written, hupdated, hdiffers]

/-- The record of a known instance is written where its server stands. -/
theorem written_cons_of_mem (hlast : lastOf i.id report = none) (hmem : i.id ∈ l.map Server.id) :
    written now (i :: report) l =
      ((written now report (l.map (Server.writtenBy i))).1,
        (l.countP fun v => v.id == i.id && !v.matches i) +
          (written now report (l.map (Server.writtenBy i))).2) := by
  have hknown : isNew l i = false := by simp [isNew, hmem]
  have hrows : l.map (updated (i :: report)) = l.map (updated report ∘ Server.writtenBy i) :=
    List.map_congr_left fun v _ => updated_cons hlast v
  have hcounts : (l.countP fun v => v.id == i.id && !v.matches i) +
      l.countP (differs report ∘ Server.writtenBy i) = l.countP (differs (i :: report)) :=
    countP_add fun v _ => differs_cons hlast v
  simp only [written, isNew_map_writtenBy, List.filter_cons, List.countP_cons, hknown, hrows, ← hcounts,
    List.map_map, List.countP_map, Bool.false_eq_true, if_false]
  refine Prod.ext rfl ?_
  omega

/-- The record of a new instance is written into a row of its own behind the others. -/
theorem written_cons_of_new (hlast : lastOf i.id report = none) (hnew : i.id ∉ l.map Server.id) :
    written now (i :: report) l =
      ((written now report (l ++ [i.newServer now])).1,
        1 + (written now report (l ++ [i.newServer now])).2) := by
  have hunknown : isNew l i = true := by simpa [isNew] using hnew
  have hdone : lastOf (i.newServer now).id report = none := hlast
  have hother : ∀ v ∈ l, v.id ≠ i.id := fun v hv he => hnew (he ▸ List.mem_map_of_mem hv)
  have hrows : l.map (updated (i :: report)) = l.map (updated report) := List.map_congr_left fun v hv => by
    rw [updated_cons hlast, Server.writtenBy_of_ne (hother v hv)]
  have hcounts : l.countP (differs (i :: report)) = l.countP (differs report) :=
    List.countP_congr fun v hv => by
      rw [differs, differs, lastOf_cons_of_ne (hother v hv)]
  have hsame : ∀ j ∈ report, isNew (l ++ [i.newServer now]) j = isNew l j := fun j hj =>
    isNew_append_newServer (lastOf_eq_none_iff.mp hlast j hj) l now
  have hcount : report.countP (isNew (l ++ [i.newServer now])) = report.countP (isNew l) :=
    List.countP_congr fun j hj => by rw [hsame j hj]
  simp only [written, List.filter_cons, List.countP_cons, hunknown, hrows, hcounts,
    List.filter_congr hsame, hcount, List.map_append, List.map_cons, List.map_nil, updated_of_none hdone,
    List.countP_append, List.countP_nil, differs_of_none hdone, List.append_assoc, Bool.false_eq_true,
    if_true, if_false]
  refine Prod.ext rfl ?_
  omega

theorem writeInstances_eq (hn : (l.map Server.id).Nodup) (hreport : (report.map Instance.id).Nodup) :
    writeInstances now report l = written now report l := by
  induction report generalizing l with
  | nil => exact written_nil.symm
  | cons i rest ih =>
    obtain ⟨hnot, hrest⟩ := List.nodup_cons.mp hreport
    have hlast : lastOf i.id rest = none :=
      lastOf_eq_none_iff.mpr fun j hj he => hnot (he ▸ List.mem_map_of_mem hj)
    have hwritten : ((writeInstance i now l).1.map Server.id).Nodup := nodup_writeInstance hn
    rw [writeInstances, ih hwritten hrest]
    by_cases hmem : i.id ∈ l.map Server.id
    · rw [written_cons_of_mem hlast hmem, writeInstance_of_mem hn hmem]
    · rw [written_cons_of_new hlast hmem, writeInstance_of_new hmem]

/-! ## The outcome -/

theorem id_updated (report : List Instance) (v : Server) : (updated report v).id = v.id := by
  unfold updated
  cases lastOf v.id report <;> rfl

theorem named_updated : named report (updated report v) = named report v := by
  rw [named, id_updated, named]

theorem target_updated (report : List Instance) (v : Server) :
    (updated report v).target = if v.group = (updated report v).group then v.target else none := by
  unfold updated
  cases lastOf v.id report with
  | none => exact (if_pos rfl).symm
  | some i => rfl

/-- Whether a server is in another group than before, or was not there. -/
def arrived (c : Catalog) (w : Server) : Bool :=
  !c.servers.any fun v => v.id == w.id && v.group == w.group

theorem Consistent.arrived_updated (hc : c.Consistent) (hv : v ∈ c.servers) (report : List Instance) :
    c.arrived (updated report v) = !(v.group == (updated report v).group) := by
  have hany : (c.servers.any fun u => u.id == (updated report v).id && u.group == (updated report v).group) =
      (v.group == (updated report v).group) := by
    rw [Bool.eq_iff_iff, List.any_eq_true, id_updated]
    constructor
    · rintro ⟨u, hu, hboth⟩
      rw [Bool.and_eq_true, beq_iff_eq] at hboth
      obtain ⟨hid, hg⟩ := hboth
      rwa [hc.server_eq_of_id hu hv hid] at hg
    · exact fun hg => ⟨v, hv, by rw [beq_self_eq_true, hg]; rfl⟩
  rw [arrived, hany]

theorem arrived_newServer (h : isNew c.servers i = true) : c.arrived (i.newServer now) = true := by
  rw [arrived, Bool.not_eq_true', List.any_eq_false]
  intro v hv hboth
  rw [Bool.and_eq_true, beq_iff_eq] at hboth
  exact of_decide_eq_true h (List.mem_map.mpr ⟨v, hv, hboth.1⟩)

/-- Where a report names no id twice, it differs from a server if its record of the server does. -/
theorem differs_eq (hreport : (report.map Instance.id).Nodup) (v : Server) :
    differs report v = report.any fun i => i.id == v.id && i != v.shown := by
  rw [differs]
  cases hlast : lastOf v.id report with
  | none =>
    refine Eq.symm (List.any_eq_false.mpr fun i hi hboth => ?_)
    rw [Bool.and_eq_true, beq_iff_eq] at hboth
    exact lastOf_eq_none_iff.mp hlast i hi hboth.1
  | some i =>
    have hi : i ∈ report := List.mem_reverse.mp (List.mem_of_find?_eq_some hlast)
    have hid : i.id = v.id := by simpa using List.find?_some hlast
    rw [Option.any_some, Bool.eq_iff_iff, Bool.not_eq_true', ← Bool.not_eq_true,
      Server.matches_iff_shown hid, List.any_eq_true]
    constructor
    · exact fun hne => ⟨i, hi, by simpa [hid] using hne⟩
    · rintro ⟨j, hj, hboth⟩
      rw [Bool.and_eq_true, beq_iff_eq, bne_iff_ne] at hboth
      rw [List.inj_on_of_nodup_map hreport hi hj (hid.trans hboth.1.symm)]
      exact hboth.2

section

variable (hc : c.Consistent) (hreport : (report.map Instance.id).Nodup)
include hc hreport

theorem mem_writeInstances (hw : w ∈ (writeInstances now report c.servers).1) :
    (∃ v ∈ c.servers, w = updated report v) ∨ ∃ i, isNew c.servers i = true ∧ w = i.newServer now := by
  rw [writeInstances_eq hc.serverIds hreport] at hw
  rcases List.mem_append.mp hw with hw | hw
  · obtain ⟨v, hv, rfl⟩ := List.mem_map.mp hw
    exact Or.inl ⟨v, hv, rfl⟩
  · obtain ⟨i, hi, rfl⟩ := List.mem_map.mp hw
    exact Or.inr ⟨i, (List.mem_filter.mp hi).2, rfl⟩

/-- What is wanted of a server is dropped where it comes into a group, and only there. -/
theorem isOrphan_eq (hw : w ∈ (writeInstances now report c.servers).1) :
    c.isOrphan w = (c.arrived w && (c.sessionOf w.group).isSome) := by
  rcases mem_writeInstances hc hreport hw with ⟨v, hv, rfl⟩ | ⟨i, hnew, rfl⟩
  · rw [hc.arrived_updated hv, isOrphan, target_updated]
    by_cases hg : v.group = (updated report v).group
    · rw [if_pos hg, hc.target_eq v hv, ← hg, beq_self_eq_true, Option.isNone_map]
      cases c.sessionOf v.group <;> rfl
    · rw [if_neg hg, beq_false_of_ne hg]
      rfl
  · rw [arrived_newServer hnew]
    rfl

/-- The servers that are deleted are those that the report does not name. -/
theorem removed_sync (now : Int) :
    (c.sync report now).1.removed = c.servers.countP fun v => !named report v := by
  have hnew : ((report.filter (isNew c.servers)).map fun i => i.newServer now).filter
      (fun v => !named report v) = [] := by
    refine List.filter_eq_nil_iff.mpr fun v hv hnot => ?_
    obtain ⟨i, hi, rfl⟩ := List.mem_map.mp hv
    have hnamed : named report (i.newServer now) = true :=
      named_iff.mpr (List.mem_map_of_mem (List.mem_of_mem_filter hi))
    rw [hnamed] at hnot
    exact Bool.false_ne_true hnot
  have hkept : (fun v => !named report v) ∘ updated report = fun v => !named report v := by
    funext v
    rw [Function.comp_apply, named_updated]
  simp only [Catalog.sync, writeInstances_eq hc.serverIds hreport, written, List.filter_append, hnew,
    List.append_nil, List.filter_map, hkept, List.length_map, ← List.countP_eq_length_filter]

theorem changed_sync (now : Int) : (c.sync report now).1.changed =
    report.countP (isNew c.servers) +
      (c.servers.countP fun v => report.any fun i => i.id == v.id && i != v.shown) +
        (c.sync report now).2.servers.countP fun w => c.arrived w && (c.sessionOf w.group).isSome := by
  have hwrites : (writeInstances now report c.servers).2 = report.countP (isNew c.servers) +
      c.servers.countP fun v => report.any fun i => i.id == v.id && i != v.shown := by
    rw [writeInstances_eq hc.serverIds hreport]
    exact congrArg (_ + ·) (List.countP_congr fun v _ => by rw [differs_eq hreport])
  have hadopted : ((writeInstances now report c.servers).1.filter (named report)).countP c.isOrphan =
      (c.sync report now).2.servers.countP fun w => c.arrived w && (c.sessionOf w.group).isSome := by
    rw [Catalog.sync, List.countP_map]
    refine List.countP_congr fun w hw => ?_
    rw [isOrphan_eq hc hreport (List.mem_of_mem_filter hw), Function.comp_apply, arrived, arrived,
      id_adopt, group_adopt]
  rw [← hwrites, ← hadopted]
  rfl

end

/-! ## Once more -/

/-- An instance that is shown already is not written. -/
theorem writeInstance_of_shown (hn : (l.map Server.id).Nodup) (hv : v ∈ l) (now : Int) :
    writeInstance v.shown now l = (l, 0) := by
  have hmatches : v.matches v.shown = true := (Server.matches_iff_shown rfl).mpr rfl
  have hsame : ∀ u ∈ l, u.id = v.shown.id → u = v := fun u hu hid => List.inj_on_of_nodup_map hn hu hv hid
  rw [writeInstance_of_mem hn (List.mem_map.mpr ⟨v, hv, rfl⟩)]
  refine Prod.ext ?_ (List.countP_eq_zero.mpr fun u hu hboth => ?_)
  · refine (List.map_congr_left fun u hu => ?_).trans (List.map_id l)
    by_cases hid : u.id = v.shown.id
    · rw [Server.writtenBy_of_eq hid, hsame u hu hid]
      exact Server.refresh_of_matches hmatches
    · exact Server.writtenBy_of_ne hid
  · rw [Bool.and_eq_true, beq_iff_eq] at hboth
    rw [hsame u hu hboth.1, hmatches] at hboth
    exact Bool.false_ne_true hboth.2

theorem writeInstances_of_shown (hn : (l.map Server.id).Nodup) (hall : ∀ i ∈ report, ∃ v ∈ l, v.shown = i)
    (now : Int) : writeInstances now report l = (l, 0) := by
  induction report with
  | nil => rfl
  | cons i rest ih =>
    obtain ⟨⟨v, hv, rfl⟩, hrest⟩ := List.forall_mem_cons.mp hall
    rw [writeInstances, writeInstance_of_shown hn hv, ih hrest]
    rfl

/-- A report that says what the servers show already, and names all of them, changes nothing. -/
theorem Consistent.sync_of_shown (hc : c.Consistent) (hall : ∀ i ∈ report, ∃ v ∈ c.servers, v.shown = i)
    (hnamed : ∀ v ∈ c.servers, named report v = true) (now : Int) :
    c.sync report now = (⟨0, 0⟩, c) := by
  have hkept : c.servers.filter (named report) = c.servers := List.filter_eq_self.mpr hnamed
  have hremoved : c.servers.filter (fun v => !named report v) = [] := by
    refine List.filter_eq_nil_iff.mpr fun v hv => ?_
    rw [hnamed v hv]
    exact Bool.false_ne_true
  have horphans : c.servers.countP c.isOrphan = 0 := by
    refine List.countP_eq_zero.mpr fun v hv => ?_
    rw [isOrphan, hc.target_eq v hv, Option.isNone_map]
    cases c.sessionOf v.group <;> exact Bool.false_ne_true
  have hadopted : c.servers.map c.adopt = c.servers := by
    refine (List.map_congr_left fun v hv => ?_).trans (List.map_id _)
    rw [adopt, ← hc.target_eq v hv]
    split <;> rfl
  rw [Catalog.sync, writeInstances_of_shown hc.serverIds hall]
  simp only [hkept, hremoved, horphans, hadopted, List.length_nil]

/-! ## The whole report -/

/-- What a report leaves alone. -/
structure Spares (now : Int) (c d : Catalog) : Prop where
  /-- Only servers are written. -/
  others : d = { c with servers := d.servers }
  known : ∀ v ∈ c.servers, ∀ w ∈ d.servers, w.id = v.id → w.past = v.past
  new : ∀ w ∈ d.servers, (∀ v ∈ c.servers, v.id ≠ w.id) → w.past = .seenFirst now

/-- What the outcome of a report without repetition counts. -/
structure Counts (report : List Instance) (c : Catalog) (outcome : SyncReport) (d : Catalog) : Prop where
  removed_eq : outcome.removed = c.servers.countP fun v => !named report v
  /-- New instances, servers that show something else, and servers that came into a group with a session. -/
  changed_eq : outcome.changed =
    report.countP (isNew c.servers) +
      (c.servers.countP fun v => report.any fun i => i.id == v.id && i != v.shown) +
        d.servers.countP fun w => c.arrived w && (c.sessionOf w.group).isSome
  isNoop_iff : outcome.isNoop = true ↔ d = c
  /-- Taken over once, it is taken over for good. -/
  again : ∀ later, d.sync report later = (⟨0, 0⟩, d)

theorem Consistent.spares_sync (hc : c.Consistent) (report : List Instance) (now : Int) :
    Spares now c (c.sync report now).2 where
  others := rfl
  known := by
    intro v hv w hw hid
    rcases past_of_mem_sync hw with ⟨u, hu, huid, hpast⟩ | ⟨hnone, -⟩
    · rwa [hc.server_eq_of_id hu hv (huid.trans hid)] at hpast
    · exact absurd hid.symm (hnone v hv)
  new := by
    intro w hw hnone
    rcases past_of_mem_sync hw with ⟨u, hu, huid, -⟩ | ⟨-, hpast⟩
    · exact absurd huid (hnone u hu)
    · exact hpast

theorem Consistent.sync_again (hc : c.Consistent) (hreport : (report.map Instance.id).Nodup)
    (now later : Int) : (c.sync report now).2.sync report later = (⟨0, 0⟩, (c.sync report now).2) := by
  refine (hc.sync report now).sync_of_shown (fun i hi => ?_) (fun v hv => ?_) later
  · exact (mem_report_iff hc.serverIds hreport).mp hi
  · have hshown : v.shown ∈ report := (mem_report_iff hc.serverIds hreport).mpr ⟨v, hv, rfl⟩
    exact named_iff.mpr (List.mem_map.mpr ⟨v.shown, hshown, rfl⟩)

theorem Consistent.isNoop_sync_iff (hc : c.Consistent) (hreport : (report.map Instance.id).Nodup)
    (now : Int) : (c.sync report now).1.isNoop = true ↔ (c.sync report now).2 = c := by
  constructor
  · intro hnoop
    rw [SyncReport.isNoop, Bool.and_eq_true, beq_iff_eq, beq_iff_eq, changed_sync hc hreport,
      removed_sync hc hreport, Nat.add_eq_zero_iff, Nat.add_eq_zero_iff] at hnoop
    obtain ⟨⟨⟨hnew, hdiffers⟩, -⟩, hremoved⟩ := hnoop
    have hall : ∀ i ∈ report, ∃ v ∈ c.servers, v.shown = i := by
      intro i hi
      have hmem : i.id ∈ c.servers.map Server.id := by simpa [isNew] using List.countP_eq_zero.mp hnew i hi
      obtain ⟨v, hv, hid⟩ := List.mem_map.mp hmem
      by_contra hnone
      refine List.countP_eq_zero.mp hdiffers v hv (List.any_eq_true.mpr ⟨i, hi, ?_⟩)
      rw [Bool.and_eq_true, beq_iff_eq, bne_iff_ne]
      exact ⟨hid.symm, fun he => hnone ⟨v, hv, he.symm⟩⟩
    have hnamed : ∀ v ∈ c.servers, named report v = true := fun v hv => by
      simpa using List.countP_eq_zero.mp hremoved v hv
    exact congrArg Prod.snd (hc.sync_of_shown hall hnamed now)
  · intro hsame
    have hagain := hc.sync_again hreport now now
    rw [hsame] at hagain
    rw [hagain]
    rfl

theorem Consistent.counts_sync (hc : c.Consistent) (hreport : (report.map Instance.id).Nodup) (now : Int) :
    Counts report c (c.sync report now).1 (c.sync report now).2 where
  removed_eq := removed_sync hc hreport now
  changed_eq := changed_sync hc hreport now
  isNoop_iff := hc.isNoop_sync_iff hreport now
  again := hc.sync_again hreport now

/-- **A report is taken over in full.** It spares what the catalog alone knows of its servers, and everything
that is not a server. Where it names no id twice, its outcome counts the deleted rows and the written ones,
says that nothing was changed exactly if nothing was, and the same report has nothing to change any more,
whenever it is taken over again. -/
theorem History.sync_exact {past : List Catalog} (h : History (c :: past)) (report : List Instance)
    (now : Int) :
    Spares now c (c.sync report now).2 ∧
      ((report.map Instance.id).Nodup →
        Counts report c (c.sync report now).1 (c.sync report now).2) :=
  ⟨h.consistent.spares_sync report now, fun hreport => h.consistent.counts_sync hreport now⟩

/-- What is reported after `lateJoin`: a server is gone, one has moved to another group, and one is seen for
the first time, in a group that has a session. -/
def nextReport : List Instance := [⟨"i-2", "db", "dev", .on⟩, ⟨"i-3", "gpu", "QA", .off⟩]

theorem sync_exact_nextReport :
    Spares 30 lateJoin (lateJoin.sync nextReport 30).2 ∧
      Counts nextReport lateJoin (lateJoin.sync nextReport 30).1 (lateJoin.sync nextReport 30).2 := by
  have h : ∃ past, History (lateJoin :: past) :=
    ⟨_, .next _ (.next _ (.next _ (.next _ .start nofun) nofun) nofun) nofun⟩
  obtain ⟨past, h⟩ := h
  obtain ⟨hspares, hcounts⟩ := h.sync_exact nextReport 30
  exact ⟨hspares, hcounts (by decide)⟩

example : (lateJoin.sync nextReport 30).1 = ⟨3, 1⟩ := by decide

end Catalog
end PowerLease
