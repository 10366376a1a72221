import PowerLease.Proofs.Lifecycle.Outcome

/-!
# Who is told that servers are off

A tick queues the notice that the servers of a group are off only while it deletes the session of that
group (`deleted_of_offNotice`). So whatever is said of the deletion of sessions is said of this notice.

The notices of the other stages are told apart from it by their first letter.
-/

namespace PowerLease.Lifecycle

variable {p : Progress} {c : Catalog} {r s : Session} {n : Notice} {text : NoticeText}
  {window : Duration} {now : Int}

/-! ## Wordings -/

theorem head_offNotice (s : Session) : (offNotice s).message.toList.head? = some 'A' := by
  simp [offNotice, toString]

theorem head_readyNotice (s : Session) : (readyNotice s).message.toList.head? = some 'S' := by
  simp [readyNotice, toString]

theorem head_warning? (h : warning? s = some text) : text.message.toList.head? = some 'S' := by
  obtain ⟨time, -, rfl⟩ := Option.map_eq_some_iff.mp h
  simp [toString]

theorem head_announcement? (h : announcement? s = some text) :
    text.message.toList.head? = some 'S' := by
  unfold announcement? at h
  split at h
  · rw [← Option.some.inj h]
    simp [toString]
  · obtain ⟨time, -, rfl⟩ := Option.map_eq_some_iff.mp h
    simp [toString]

/-- The notice names its group. -/
theorem group_eq_of_offNotice (h : (offNotice s).message = (offNotice r).message) :
    s.group = r.group := by
  simpa [offNotice, String.append_assoc, toString] using h

/-! ## What a write queues -/

theorem mem_queue_raise {guard : Session → Bool} {flag : Session → Session}
    (h : n ∈ (Catalog.raise guard flag r text now c).2.queue) :
    n ∈ c.queue ∨ n.message = text.message := by
  rcases c.raise_cases guard flag r text now with ⟨-, hrun⟩ | ⟨_, -, -, -, hrun⟩
  · rw [hrun] at h
    exact Or.inl h
  · rw [hrun] at h
    refine (List.mem_append.mp h).imp_right fun hlast => ?_
    rw [List.mem_singleton.mp hlast]

theorem queue_endSession (group : String) (now : Int) :
    (c.endSession group now).2.queue = c.queue :=
  Catalog.endSession_induct (P := fun d => d.queue = c.queue) rfl fun _ _ _ _ => rfl

theorem queue_finalize (read : Session) : (c.finalize read).2.queue = c.queue :=
  Catalog.finalize_induct (P := fun d => d.queue = c.queue) rfl fun _ _ _ _ _ => rfl

/-- All messages that are new in a queue are of one kind. -/
def Queues (kind : String → Prop) (c c' : Catalog) : Prop :=
  ∀ n ∈ c'.queue, n ∈ c.queue ∨ kind n.message

variable {kind : String → Prop}

theorem Queues.refl (c : Catalog) : Queues kind c c := fun _ hn => Or.inl hn

theorem Queues.trans {c' c'' : Catalog} (h : Queues kind c c') (h' : Queues kind c' c'') :
    Queues kind c c'' :=
  fun n hn => (h' n hn).elim (h n) Or.inr

theorem queues_raise {guard : Session → Bool} {flag : Session → Session} (htext : kind text.message) :
    Queues kind c (Catalog.raise guard flag r text now c).2 := by
  intro n hn
  refine (mem_queue_raise hn).imp_right fun he => ?_
  rwa [he]

theorem queues_of_queue_eq {c' : Catalog} (h : c'.queue = c.queue) : Queues kind c c' := by
  intro n hn
  rw [h] at hn
  exact Or.inl hn

/-! ## What a stage queues -/

/-- A message that does not tell of servers that are off. -/
def TellsOther (message : String) : Prop := message.toList.head? = some 'S'

theorem queues_expireAndWarn :
    Queues TellsOther p.catalog (expireAndWarn window now p).catalog := by
  refine expireAndWarn_induct (P := Queues TellsOther p.catalog) (.refl _) ?_ ?_
  · exact fun _ r _ _ hd => hd.trans (queues_of_queue_eq (queue_endSession r.group now))
  · exact fun _ _ _ _ _ htext hd => hd.trans (queues_raise (head_warning? htext))

theorem queues_announceAll : Queues TellsOther p.catalog (announceAll now p).catalog :=
  announceAll_induct (P := Queues TellsOther p.catalog) (.refl _)
    fun _ _ _ _ htext hd => hd.trans (queues_raise (head_announcement? htext))

theorem queues_tellAllReady : Queues TellsOther p.catalog (tellAllReady now p).catalog :=
  tellAllReady_induct (P := Queues TellsOther p.catalog) (.refl _)
    fun _ r _ hd => hd.trans (queues_raise (head_readyNotice r))

/-- The stage that cleans up tells of the sessions that it deletes. -/
theorem queues_cleanAll :
    Queues (fun m => ∃ r ∈ p.catalog.sessionsToClean, m = (offNotice r).message) p.catalog
      (cleanAll now p).catalog := by
  refine cleanAll_induct (P := Queues _ p.catalog) (.refl _) ?_ ?_
  · exact fun _ r hr hd => hd.trans (queues_raise ⟨r, hr, rfl⟩)
  · exact fun _ r _ hd => hd.trans (queues_of_queue_eq (queue_finalize r))

/-- Whoever is told that the servers of a group are off, is told in a tick that comes to its end and
deletes the session of that group. -/
theorem deleted_of_offNotice (hc : c.Consistent) (hn : n ∈ (tick window now c).catalog.queue)
    (hnew : n ∉ c.queue) (hoff : n.message = (offNotice r).message) :
    (tick window now c).aborted = false ∧
      ∃ s ∈ c.sessions, s.group = r.group ∧ fate window now c s = none := by
  have hother : ¬TellsOther n.message := by
    rw [TellsOther, hoff, head_offNotice]
    decide
  have hfirst : Queues TellsOther c
      (announceAll now (expireAndWarn window now { catalog := c })).catalog :=
    (queues_expireAndWarn (p := { catalog := c })).trans queues_announceAll
  cases habort : (tick window now c).aborted with
  | true =>
    -- the stage that would tell was not reached
    rw [tick_of_aborted habort] at hn
    exact absurd (hfirst n hn) (not_or.mpr ⟨hnew, hother⟩)
  | false =>
    refine ⟨rfl, ?_⟩
    obtain hold | hready := queues_tellAllReady n hn
    · obtain hold | ⟨t, ht, hmessage⟩ := queues_cleanAll n hold
      · exact absurd (hfirst n hold) (not_or.mpr ⟨hnew, hother⟩)
      · -- the session that the stage read is one of those before the tick
        obtain ⟨hmem, hpick⟩ := List.mem_filter.mp ht
        rw [(announced_tick hc habort).2] at hmem
        obtain ⟨s, hs, rfl⟩ := List.mem_map.mp hmem
        have hgroup : (endOrWarn window now s).announce.group = s.group := group_endOrWarn
        rw [toClean_announced hc habort hs, Bool.and_eq_true] at hpick
        refine ⟨s, hs, ?_, ?_⟩
        · rw [← hgroup]
          exact group_eq_of_offNotice (hmessage.symm.trans hoff)
        · rw [fate, if_pos hpick.1, if_pos hpick.2]
    · exact absurd hready hother

end PowerLease.Lifecycle
