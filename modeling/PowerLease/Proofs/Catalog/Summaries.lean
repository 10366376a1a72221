import PowerLease.Leasing
import PowerLease.Proofs.Catalog.Texts
import PowerLease.Proofs.Lifecycle.Isolation

/-!
# What the summaries tell

The summaries are put together in two readings, of the servers and of the live sessions. Each row that is read
changes the summary of its group, and makes one if there is none yet. So a group may be known from either
reading alone: nobody holds it, or a report has emptied it.

A reading is seen from one group at a time. Only the rows of the group change its entry, and they do so in
the order in which they are read (`entry_read`). Seen from all groups together, a row is added to what is shown,
and nothing is lost (`shown_read`).

Nothing so far depends on what the rows are. It takes a consistent catalog for a group to have one holder at
most, and for its servers to be wanted on while it has one.
-/

namespace PowerLease

namespace Catalog

/-! ## The order of servers -/

section

variable {v w x : ServerSummary}

theorem summaryBefore_trans (hvw : summaryBefore v w = true) (hwx : summaryBefore w x = true) :
    summaryBefore v x = true := by
  refine textThen_trans hvw hwx fun h h' => textThen_trans h h' fun h h' => ?_
  rw [decide_eq_true_eq] at h h' ⊢
  exact String.le_trans h h'

theorem summaryBefore_total (v w : ServerSummary) :
    (summaryBefore v w || summaryBefore w v) = true := by
  refine textThen_total (textThen_total ?_)
  rw [Bool.or_eq_true, decide_eq_true_eq, decide_eq_true_eq]
  exact String.le_total _ _

end

/-- The servers of a group are read in the order of their names. -/
theorem pairwise_summaryRows (c : Catalog) (group : String) :
    (c.summaryRows.filter fun v => v.group == group).Pairwise fun v w => v.name ≤ w.name := by
  have hrows : c.summaryRows.Pairwise fun v w =>
      textThen v.group w.group (summaryBefore v.summary w.summary) = true := by
    refine List.pairwise_mergeSort (fun u v w => ?_) (fun v w => ?_) _
    · exact fun huv hvw => textThen_trans huv hvw summaryBefore_trans
    · exact textThen_total (summaryBefore_total _ _)
  refine (hrows.filter _).imp_of_mem fun {v w} hv hw hle => ?_
  have hgroup : v.group = w.group := by
    rw [eq_of_beq (List.mem_filter.mp hv).2, eq_of_beq (List.mem_filter.mp hw).2]
  rcases textThen_iff.mp hle with hlt | ⟨-, hbefore⟩
  · exact absurd hgroup (String.ne_of_lt hlt)
  · exact le_of_textThen hbefore

/-! ## Entries -/

/-- The summaries stand in the order of their groups, one for each. -/
def Ascending (gs : List GroupSummary) : Prop := (gs.map GroupSummary.group).Pairwise (· < ·)

theorem ascending_nil : Ascending [] := List.Pairwise.nil

/-- The summary of a group. If there is none, nothing is known of the group. -/
def entry (group : String) (gs : List GroupSummary) : GroupSummary :=
  (gs.find? fun g => g.group == group).getD (.empty group)

/-- All servers that summaries show, each with the group under which it is shown. -/
def shown (gs : List GroupSummary) : List (String × ServerSummary) :=
  gs.flatMap fun g => g.servers.map fun v => (g.group, v)

section

variable {group k : String} {f : GroupSummary → GroupSummary} {g : GroupSummary}
  {gs : List GroupSummary}

theorem entry_cons : entry k (g :: gs) = if g.group = k then g else entry k gs := by
  unfold entry
  rw [List.find?_cons]
  by_cases h : g.group = k
  · rw [if_pos h, beq_iff_eq.mpr h]
    rfl
  · rw [if_neg h, beq_eq_false_iff_ne.mpr h]

theorem entry_eq_empty (h : ∀ g ∈ gs, g.group ≠ k) : entry k gs = .empty k := by
  have hnone : (gs.find? fun g => g.group == k) = none :=
    List.find?_eq_none.mpr fun g hg => by simpa using h g hg
  rw [entry, hnone]
  rfl

/-- Where each group has one summary, that is its entry. -/
theorem Ascending.entry_group (h : Ascending gs) (hg : g ∈ gs) : entry g.group gs = g := by
  induction gs with
  | nil => exact absurd hg List.not_mem_nil
  | cons first rest ih =>
    obtain ⟨hfirst, hrest⟩ := List.pairwise_cons.mp h
    rw [entry_cons]
    rcases List.mem_cons.mp hg with rfl | hg
    · exact if_pos rfl
    · rw [if_neg (String.ne_of_lt (hfirst _ (List.mem_map_of_mem hg)))]
      exact ih hrest hg

/-! ## A row -/

variable (hf : ∀ g, (f g).group = g.group)
include hf

/-- The groups of the summaries are a set, to which a row adds its own. -/
theorem groups_amend :
    (amend group f gs).map GroupSummary.group = insertText group (gs.map GroupSummary.group) := by
  induction gs with
  | nil => simp [amend, insertText, hf, GroupSummary.empty]
  | cons first rest ih =>
    unfold amend
    rw [List.map_cons, insertText]
    split
    next => simp [hf, GroupSummary.empty]
    next =>
      split
      next => simp [hf]
      next => rw [List.map_cons, ih]

theorem Ascending.amend (h : Ascending gs) : Ascending (amend group f gs) := by
  rw [Ascending, groups_amend hf]
  exact pairwise_insertText h

/-- A row changes the entry of its group, and no other. -/
theorem Ascending.entry_amend (h : Ascending gs) (k : String) :
    entry k (Catalog.amend group f gs) = if group = k then f (entry group gs) else entry k gs := by
  have hgroup : (f (.empty group)).group = group := hf _
  induction gs with
  | nil =>
    show entry k [f (.empty group)] = _
    rw [entry_cons, hgroup]
    rfl
  | cons first rest ih =>
    obtain ⟨hfirst, hrest⟩ := List.pairwise_cons.mp h
    unfold Catalog.amend
    split
    next hlt =>
      -- the group comes before all others, so there was no summary of it
      have hempty : entry group (first :: rest) = .empty group := by
        refine entry_eq_empty fun g hg heq => ?_
        rcases List.mem_cons.mp hg with rfl | hg
        · exact String.ne_of_lt hlt heq.symm
        · exact String.ne_of_lt (String.lt_trans hlt (hfirst _ (List.mem_map_of_mem hg))) heq.symm
      rw [entry_cons, hgroup, hempty]
    next =>
      split
      next heq =>
        rw [entry_cons, hf, entry_cons, entry_cons, if_pos heq.symm, ← heq]
        exact ite_congr rfl (fun _ => rfl) fun hk => (if_neg hk).symm
      next hne =>
        rw [entry_cons, ih hrest, entry_cons, entry_cons, if_neg (Ne.symm hne)]
        by_cases hk : group = k
        · rw [← hk, if_neg (Ne.symm hne), if_pos rfl, if_pos rfl]
        · rw [if_neg hk, if_neg hk]

/-- A row adds its own servers to what is shown, under its group. -/
theorem shown_amend {added : List ServerSummary} (hadded : ∀ g, (f g).servers = g.servers ++ added) :
    (shown (amend group f gs)).Perm (added.map (fun v => (group, v)) ++ shown gs) := by
  have hcons : ∀ (g : GroupSummary) (gs : List GroupSummary),
      shown (g :: gs) = g.servers.map (fun v => (g.group, v)) ++ shown gs :=
    fun _ _ => List.flatMap_cons
  induction gs with
  | nil =>
    show (shown [f (.empty group)]).Perm _
    rw [hcons, hadded, hf]
    exact List.Perm.refl _
  | cons first rest ih =>
    unfold amend
    split
    next =>
      rw [hcons, hadded, hf]
      exact List.Perm.refl _
    next =>
      split
      next heq =>
        -- they come behind the servers that the group had, and in front of those of the other groups
        rw [hcons, hcons, hadded, hf, List.map_append, heq, ← List.append_assoc]
        exact List.perm_append_comm.append_right _
      next =>
        rw [hcons, hcons]
        exact (ih.append_left _).trans (List.perm_append_comm_assoc _ _ _)

end

/-! ## A reading -/

/-- Reads rows one after another, each of which changes the summary of its group. -/
def read {α : Type} (key : α → String) (f : α → GroupSummary → GroupSummary) (rows : List α)
    (gs : List GroupSummary) : List GroupSummary :=
  rows.foldl (fun gs a => amend (key a) (f a) gs) gs

section

variable {α : Type} {key : α → String} {f : α → GroupSummary → GroupSummary} {rows : List α}
  {gs : List GroupSummary} (hf : ∀ a g, (f a g).group = g.group)
include hf

theorem mem_groups_read {k : String} : k ∈ (read key f rows gs).map GroupSummary.group ↔
    (∃ a ∈ rows, key a = k) ∨ k ∈ gs.map GroupSummary.group := by
  induction rows generalizing gs with
  | nil => simp [read]
  | cons a rest ih =>
    have hcons : (∃ b ∈ a :: rest, key b = k) ↔ k = key a ∨ ∃ b ∈ rest, key b = k := by
      simp [eq_comm]
    rw [read, List.foldl_cons, ← read, ih, groups_amend (hf a), mem_insertText, hcons, or_left_comm,
      or_assoc]

theorem Ascending.read (h : Ascending gs) : Ascending (read key f rows gs) := by
  induction rows generalizing gs with
  | nil => exact h
  | cons a rest ih => exact ih (h.amend (hf a))

/-- The entry of a group is what the rows of the group make of it. -/
theorem Ascending.entry_read (h : Ascending gs) (k : String) : entry k (Catalog.read key f rows gs) =
    (rows.filter fun a => key a == k).foldl (fun g a => f a g) (entry k gs) := by
  -- the summaries change with every row, but stay in order, which is all that a row asks of them
  induction rows generalizing gs with
  | nil => rfl
  | cons a rest ih =>
    rw [Catalog.read, List.foldl_cons, ← Catalog.read, ih (h.amend (hf a)), h.entry_amend (hf a),
      List.filter_cons]
    by_cases hk : key a = k
    · simp [hk]
    · simp [hk]

/-- What is shown after a reading are the servers of all rows, next to what was shown before. -/
theorem shown_read {added : α → List ServerSummary}
    (hadded : ∀ a g, (f a g).servers = g.servers ++ added a) :
    (shown (read key f rows gs)).Perm
      ((rows.flatMap fun a => (added a).map fun v => (key a, v)) ++ shown gs) := by
  induction rows generalizing gs with
  | nil => exact List.Perm.refl _
  | cons a rest ih =>
    rw [read, List.foldl_cons, ← read, List.flatMap_cons, List.append_assoc]
    refine ih.trans (((shown_amend (hf a) (hadded a)).append_left _).trans ?_)
    exact List.perm_append_comm_assoc _ _ _

end

/-! ## The two readings -/

section

variable {c : Catalog} {s : Session} {g : GroupSummary} {k : String}

/-- The summaries after the first reading. -/
def serverSummaries (c : Catalog) : List GroupSummary :=
  read Server.group GroupSummary.addServer c.summaryRows []

theorem ascending_serverSummaries (c : Catalog) : Ascending c.serverSummaries :=
  ascending_nil.read fun _ _ => rfl

theorem ascending_summaries (c : Catalog) : Ascending c.summaries :=
  (ascending_serverSummaries c).read fun _ _ => rfl

theorem mem_summaryRows {v : Server} : v ∈ c.summaryRows ↔ v ∈ c.servers := List.mem_mergeSort

theorem mem_liveSessions : s ∈ c.liveSessions ↔ s ∈ c.sessions ∧ s.ended = false := by
  simp [liveSessions]

theorem mem_groups_summaries : k ∈ c.summaries.map GroupSummary.group ↔
    (∃ v ∈ c.servers, v.group = k) ∨ ∃ s ∈ c.sessions, s.group = k ∧ s.ended = false := by
  have hservers : k ∈ c.serverSummaries.map GroupSummary.group ↔ ∃ v ∈ c.servers, v.group = k := by
    refine (mem_groups_read (f := GroupSummary.addServer) fun _ _ => rfl).trans ?_
    simp [mem_summaryRows]
  have hlive : (∃ s ∈ c.liveSessions, s.group = k) ↔
      ∃ s ∈ c.sessions, s.group = k ∧ s.ended = false := by
    refine exists_congr fun s => ?_
    rw [mem_liveSessions, and_assoc, and_comm (a := s.ended = false)]
  have hboth : k ∈ c.summaries.map GroupSummary.group ↔
      (∃ s ∈ c.liveSessions, s.group = k) ∨ k ∈ c.serverSummaries.map GroupSummary.group :=
    mem_groups_read (f := GroupSummary.addLease) fun _ _ => rfl
  rw [hboth, hservers, hlive, or_comm]

/-- The first reading adds each server once, and the second adds none. -/
theorem shown_summaries (c : Catalog) :
    (shown c.summaries).Perm (c.servers.map fun v => (v.group, v.summary)) := by
  have hservers : (shown c.serverSummaries).Perm
      ((c.summaryRows.flatMap fun v => [v.summary].map fun w => (v.group, w)) ++ shown []) :=
    shown_read (f := GroupSummary.addServer) (fun _ _ => rfl) fun _ _ => rfl
  have hsessions : (shown c.summaries).Perm
      ((c.liveSessions.flatMap fun s => ([] : List ServerSummary).map fun w => (s.group, w)) ++
        shown c.serverSummaries) :=
    shown_read (f := GroupSummary.addLease) (fun _ _ => rfl) fun _ g => (List.append_nil g.servers).symm
  have hrows : (c.summaryRows.flatMap fun v => [v.summary].map fun w => (v.group, w)) =
      c.summaryRows.map fun v => (v.group, v.summary) := List.map_eq_flatMap.symm
  have hnone : (c.liveSessions.flatMap fun s =>
      ([] : List ServerSummary).map fun w => (s.group, w)) = [] :=
    List.flatMap_eq_nil_iff.mpr fun _ _ => rfl
  rw [hrows, show shown [] = [] from rfl, List.append_nil] at hservers
  rw [hnone, List.nil_append] at hsessions
  exact hsessions.trans (hservers.trans ((List.mergeSort_perm _ _).map _))

/-- The live session of a group. -/
def leaseOf (c : Catalog) (group : String) : Option Session :=
  (c.sessionOf group).filter fun s => !s.ended

theorem leaseOf_eq_some (h : c.leaseOf k = some s) : s ∈ c.sessions ∧ s.group = k ∧ s.ended = false := by
  obtain ⟨hs, hlive⟩ := Option.filter_eq_some_iff.mp h
  obtain ⟨hmem, hgroup⟩ := sessionOf_eq_some hs
  exact ⟨hmem, hgroup, by simpa using hlive⟩

theorem Consistent.leaseOf_group (h : c.Consistent) (hs : s ∈ c.sessions) (hlive : s.ended = false) :
    c.leaseOf s.group = some s := by
  rw [leaseOf, h.sessionOf_group hs]
  simp [hlive]

theorem foldl_addServer (vs : List Server) (g : GroupSummary) :
    vs.foldl (fun g v => g.addServer v) g = { g with servers := g.servers ++ vs.map Server.summary } := by
  induction vs generalizing g with
  | nil => simp
  | cons v rest ih =>
    rw [List.foldl_cons, ih, List.map_cons]
    simp [GroupSummary.addServer]

/-- What is known of a group after both readings. -/
theorem Consistent.entry_summaries (h : c.Consistent) (k : String) : entry k c.summaries =
    { group := k
      servers := (c.summaryRows.filter fun v => v.group == k).map Server.summary
      user := (c.leaseOf k).map Session.email
      expiry := (c.leaseOf k).map Session.expiry } := by
  have hfirst : entry k c.serverSummaries =
      { GroupSummary.empty k with
        servers := (c.summaryRows.filter fun v => v.group == k).map Server.summary } := by
    refine (ascending_nil.entry_read (f := GroupSummary.addServer) (fun _ _ => rfl) k).trans ?_
    rw [foldl_addServer]
    rfl
  refine ((ascending_serverSummaries c).entry_read (f := GroupSummary.addLease)
    (fun _ _ => rfl) k).trans ?_
  -- no two sessions share a group, so at most one of them is read
  have hlive : (c.liveSessions.filter fun s => s.group == k) = (c.leaseOf k).toList :=
    h.ofGroup_filter k fun s => !s.ended
  rw [hlive, hfirst]
  cases c.leaseOf k <;> rfl

theorem Consistent.eq_of_mem_summaries (h : c.Consistent) (hg : g ∈ c.summaries) :
    g.servers = (c.summaryRows.filter fun v => v.group == g.group).map Server.summary ∧
      g.user = (c.leaseOf g.group).map Session.email ∧
      g.expiry = (c.leaseOf g.group).map Session.expiry := by
  have hentry : g = _ := ((ascending_summaries c).entry_group hg).symm.trans (h.entry_summaries g.group)
  exact ⟨congrArg GroupSummary.servers hentry, congrArg GroupSummary.user hentry,
    congrArg GroupSummary.expiry hentry⟩

/-- Summaries tell all that is to be told of a catalog, and nothing else. -/
structure Summed (c : Catalog) (gs : List GroupSummary) : Prop where
  ascending : (gs.map GroupSummary.group).Pairwise (· < ·)
  mem_iff : ∀ group, group ∈ gs.map GroupSummary.group ↔
    (∃ v ∈ c.servers, v.group = group) ∨ ∃ s ∈ c.sessions, s.group = group ∧ s.ended = false
  /-- Every server is shown once, and under its own group. -/
  rows : (shown gs).Perm (c.servers.map fun v => (v.group, v.summary))
  byName : ∀ g ∈ gs, (g.servers.map ServerSummary.name).Pairwise (· ≤ ·)
  leased : ∀ g ∈ gs, ∀ s ∈ c.sessions, s.group = g.group → s.ended = false →
    g.user = some s.email ∧ g.expiry = some s.expiry
  free : ∀ g ∈ gs, (∀ s ∈ c.sessions, s.group = g.group → s.ended = true) →
    g.user = none ∧ g.expiry = none
  wantedOn : ∀ g ∈ gs, g.user.isSome = true → ∀ v ∈ g.servers, v.target = some .on

theorem Consistent.summed (h : c.Consistent) : c.Summed c.summaries where
  ascending := ascending_summaries c
  mem_iff _ := mem_groups_summaries
  rows := shown_summaries c
  byName g hg := by
    rw [(h.eq_of_mem_summaries hg).1, List.map_map]
    exact List.pairwise_map.mpr (pairwise_summaryRows c g.group)
  leased g hg s hs hgroup hlive := by
    obtain ⟨-, huser, hexpiry⟩ := h.eq_of_mem_summaries hg
    rw [huser, hexpiry, ← hgroup, h.leaseOf_group hs hlive]
    exact ⟨rfl, rfl⟩
  free g hg hended := by
    obtain ⟨-, huser, hexpiry⟩ := h.eq_of_mem_summaries hg
    have hnone : c.leaseOf g.group = none := by
      refine Option.eq_none_iff_forall_ne_some.mpr fun s hs => ?_
      obtain ⟨hmem, hgroup, hlive⟩ := leaseOf_eq_some hs
      exact Bool.noConfusion (hlive.symm.trans (hended s hmem hgroup))
    rw [huser, hexpiry, hnone]
    exact ⟨rfl, rfl⟩
  wantedOn g hg huser v hv := by
    -- there is a holder only while there is a live session, and that wants the servers of its group on
    obtain ⟨hservers, hlease, -⟩ := h.eq_of_mem_summaries hg
    rw [hlease, Option.isSome_map] at huser
    obtain ⟨s, hs⟩ := Option.isSome_iff_exists.mp huser
    obtain ⟨hmem, hgroup, hlive⟩ := leaseOf_eq_some hs
    rw [hservers] at hv
    obtain ⟨w, hw, rfl⟩ := List.mem_map.mp hv
    obtain ⟨hrow, hwgroup⟩ := List.mem_filter.mp hw
    have htarget : w.target = some s.target :=
      h.target_of_session (mem_summaryRows.mp hrow) hmem (hgroup.trans (beq_iff_eq.mp hwgroup).symm)
    show w.target = some .on
    rw [htarget, Session.target, hlive]
    rfl

end

/-- **The summaries lose nothing and make nothing up.** In any history of a catalog, they are told in the
order of their groups, one for each group that has a server or a live session. Every server is shown once,
under its group and as it is, and those of a group in the order of their names. A group with a live session is
held by the one who opened it, and until it expires; any other group is held by nobody. All servers of a group
that is held are wanted on. -/
theorem summaries_exact {past : List Catalog} (h : History (c :: past)) :
    ∃ gs, Leasing.summaries (.opened c) = .ok gs ∧ c.Summed gs :=
  ⟨c.summaries, rfl, h.consistent.summed⟩

/-- A catalog with a group that is leased, one that was given back, one that nobody leased, and a leased one
that a report has emptied. -/
def mixedGroups : Catalog :=
  (Transaction.sync [⟨"i-1", "web", "qa", .off⟩, ⟨"i-2", "db", "qa", .off⟩, ⟨"i-3", "web", "dev", .on⟩,
      ⟨"i-4", "web", "ops", .on⟩] 40).run <|
    (Transaction.endSession "ops" 30).run <|
    (Transaction.openSession ⟨"d3", "u3", "u3@example.com", "lab", 3620⟩ 20).run <|
    (Transaction.openSession ⟨"d2", "u2", "u2@example.com", "ops", 3610⟩ 10).run <|
    (Transaction.openSession ⟨"d1", "u1", "u1@example.com", "qa", 3600⟩ 0).run <|
    (Transaction.sync [⟨"i-3", "web", "dev", .on⟩, ⟨"i-5", "web", "lab", .off⟩,
      ⟨"i-4", "web", "ops", .on⟩, ⟨"i-2", "db", "qa", .off⟩, ⟨"i-1", "web", "qa", .off⟩] 0).run .empty

theorem summaries_exact_mixedGroups : ∃ gs, Leasing.summaries (.opened mixedGroups) = .ok gs ∧
    mixedGroups.Summed gs ∧
    gs = [⟨"dev", [⟨"web", .on, none⟩], none, none⟩,
      ⟨"lab", [], some "u3@example.com", some 3620⟩,
      ⟨"ops", [⟨"web", .on, some .off⟩], none, none⟩,
      ⟨"qa", [⟨"db", .off, some .on⟩, ⟨"web", .off, some .on⟩], some "u1@example.com", some 3600⟩] := by
  have h : ∃ past, History (mixedGroups :: past) :=
    ⟨_, .next _ (.next _ (.next _ (.next _ (.next _ (.next _ .start nofun) nofun) nofun) nofun) nofun)
      nofun⟩
  obtain ⟨past, h⟩ := h
  obtain ⟨gs, hgs, hsummed⟩ := summaries_exact h
  refine ⟨gs, hgs, hsummed, ?_⟩
  obtain rfl : mixedGroups.summaries = gs := Except.ok.inj hgs
  have hrows : mixedGroups.summaryRows = mixedGroups.servers :=
    List.mergeSort_of_pairwise (by decide +kernel)
  rw [summaries, hrows]
  decide +kernel

end Catalog
end PowerLease
