import Mathlib.Tactic.SplitIfs
import PowerLease.Proofs.Lifecycle.Stages

/-!
# The outcome of a tick

When a tick aborts (`aborted_tick_iff`), and what it leaves of each session when it does not
(`sessions_tick`). Of a session that is over, or whose time is, nothing is left if all servers of its
group were last *seen* off; every other session stays, with its flags raised.

The stages are taken one by one. What a stage decides on depends on those before it, but never on more
than flags of the same session: no stage changes what servers show.
-/

namespace PowerLease

/-! ## Times that cannot be worded -/

theorem Calendar.timestamp?_eq_none_iff {n : Int} :
    Calendar.timestamp? n = none ↔ (Calendar.endOfTime : Int) ≤ n := by
  unfold Calendar.timestamp?
  dsimp only
  split
  next h =>
    simp only [reduceCtorEq, false_iff, Int.not_le]
    omega
  next h =>
    simp only [true_iff]
    simp only [Calendar.endOfTime] at h ⊢
    omega

namespace Catalog

variable {c c' : Catalog} {r s : Session} {l : List Session} {g : String} {t : Target}

/-! ## Groups that are seen in one state -/

/-- Whether all servers of a group are seen in the state of a target. -/
def allSeen (c : Catalog) (group : String) (t : Target) : Bool :=
  (c.serversOf group).all fun v => v.state == t.state

theorem allSeen_iff : c.allSeen g t = true ↔ ∀ v ∈ c.servers, v.group = g → v.state = t.state := by
  simp only [allSeen, serversOf, List.all_eq_true, List.mem_filter, beq_iff_eq, and_imp]

theorem allSeen_iff_shown :
    c.allSeen g t = true ↔ ∀ i ∈ c.servers.map Server.shown, i.group = g → i.state = t.state := by
  simp [allSeen_iff, Server.shown]

theorem hasGroup_iff_shown :
    c.hasGroup g = true ↔ ∃ i ∈ c.servers.map Server.shown, i.group = g := by
  simp [hasGroup_iff, Server.shown]

theorem Continues.allSeen_eq (h : Continues c c') : c'.allSeen g t = c.allSeen g t := by
  rw [Bool.eq_iff_iff, allSeen_iff_shown, allSeen_iff_shown, h.shown]

theorem Continues.hasGroup_eq (h : Continues c c') : c'.hasGroup g = c.hasGroup g := by
  rw [Bool.eq_iff_iff, hasGroup_iff_shown, hasGroup_iff_shown, h.shown]

/-- What is wanted of the servers of a session never holds it back: it is what the session wants. -/
theorem Consistent.isSettled_eq (h : c.Consistent) (hs : s ∈ c.sessions) (ht : s.target = t) :
    c.isSettled s.group t = c.allSeen s.group t := by
  subst ht
  rw [Bool.eq_iff_iff, isSettled, allSeen, List.all_eq_true, List.all_eq_true]
  refine forall₂_congr fun v hv => ?_
  obtain ⟨hmem, hg⟩ := List.mem_filter.mp hv
  rw [holdsBack, h.target_of_session hmem hs (beq_iff_eq.mp hg).symm]
  simp

/-! ## Updates of the sessions that a test picks -/

theorem sessions_flagAll_filter (pick : Session → Bool) (flag : Session → Session) :
    (c.flagAll (c.sessions.filter pick) flag).sessions =
      c.sessions.map fun s => if pick s then flag s else s := by
  refine List.map_congr_left fun s hs => ?_
  simp only [List.mem_filter, hs, true_and]

theorem sessions_deleteAll_filter (hn : (c.sessions.map Session.id).Nodup) (pick : Session → Bool) :
    (c.deleteAll (c.sessions.filter pick)).sessions = c.sessions.filter fun s => !pick s := by
  refine List.filter_congr fun s hs => ?_
  have hpicked : s.id ∈ (c.sessions.filter pick).map Session.id ↔ pick s = true := by
    constructor
    · intro hid
      obtain ⟨t, ht, hts⟩ := List.mem_map.mp hid
      obtain ⟨htm, hpick⟩ := List.mem_filter.mp ht
      rwa [← List.inj_on_of_nodup_map hn htm hs hts]
    · exact fun hpick => List.mem_map_of_mem (List.mem_filter.mpr ⟨hs, hpick⟩)
  simp only [hpicked]
  simp

end Catalog

namespace Lifecycle

variable {p : Progress} {c : Catalog} {r s : Session} {window : Duration} {now : Int}

theorem warning?_eq_none_iff : warning? s = none ↔ (Calendar.endOfTime : Int) ≤ s.expiry := by
  rw [warning?, Option.map_eq_none_iff, Calendar.timestamp?_eq_none_iff]

theorem announcement?_eq_none_iff :
    announcement? s = none ↔ s.ended = false ∧ (Calendar.endOfTime : Int) ≤ s.expiry := by
  unfold announcement?
  split
  next h => simp [h]
  next h =>
    rw [Option.map_eq_none_iff, Calendar.timestamp?_eq_none_iff]
    simp [h]

/-! ## Aborting -/

theorem result_eq_none_iff : p.result = none ↔ p.aborted = true := by
  unfold Progress.result
  split <;> simp_all

theorem Progress.aborted_writeNotice {text : Option NoticeText}
    {transaction : NoticeText → Catalog → Bool × Catalog} {count : Report → Report} :
    (p.writeNotice text transaction count).aborted = true ↔ p.aborted = true ∨ text = none := by
  cases text with
  | none => simp [Progress.writeNotice]
  | some t => simp [Progress.writeNotice]

/-- A stage aborts where one of its notices cannot be worded. -/
theorem aborted_foldl {step : Progress → Session → Progress} {text : Session → Option NoticeText}
    (hstep : ∀ q r, (step q r).aborted = true ↔ q.aborted = true ∨ text r = none)
    (l : List Session) (p : Progress) :
    (l.foldl step p).aborted = true ↔ p.aborted = true ∨ ∃ r ∈ l, text r = none := by
  induction l generalizing p with
  | nil => simp
  | cons r rest ih => rw [List.foldl_cons, ih, hstep, List.exists_mem_cons_iff, or_assoc]

theorem aborted_foldl_expire (l : List Session) (p : Progress) :
    (l.foldl (expire now) p).aborted = p.aborted :=
  List.foldlRecOn (motive := fun q : Progress => q.aborted = p.aborted) _ _ rfl fun q hq r _ => by
    rw [expire, Progress.aborted_write, hq]

theorem expireAndWarn_eq : expireAndWarn window now p =
    (p.catalog.activeSessions.filter (isAging window now)).foldl (warn now)
      ((p.catalog.activeSessions.filter (isExpired now)).foldl (expire now) p) := by
  rw [expireAndWarn, firstWrites, List.foldl_append, List.foldl_map, List.foldl_map]
  rfl

theorem mem_activeSessions : s ∈ c.activeSessions ↔ s ∈ c.sessions ∧ s.ended = false := by
  simp [Catalog.activeSessions]

theorem isExpired_iff : isExpired now s = true ↔ s.expiry < now := by
  simp [isExpired]

theorem isAging_iff : isAging window now s = true ↔
    now ≤ s.expiry ∧ s.expiry < threshold window now ∧ s.warned = false := by
  simp [isAging, isExpired, and_assoc]

theorem aborted_expireAndWarn_iff :
    (expireAndWarn window now p).aborted = true ↔
      p.aborted = true ∨ ∃ s ∈ p.catalog.sessions, s.ended = false ∧ now ≤ s.expiry ∧
        s.expiry < threshold window now ∧ s.warned = false ∧
        (Calendar.endOfTime : Int) ≤ s.expiry := by
  have hwarn : ∀ q r, (warn now q r).aborted = true ↔ q.aborted = true ∨ warning? r = none :=
    fun _ _ => Progress.aborted_writeNotice
  rw [expireAndWarn_eq, aborted_foldl hwarn, aborted_foldl_expire]
  simp only [List.mem_filter, mem_activeSessions, isAging_iff, warning?_eq_none_iff, and_assoc]

theorem aborted_announceAll_iff :
    (announceAll now p).aborted = true ↔
      p.aborted = true ∨ ∃ s ∈ p.catalog.sessions, s.unannounced = true ∧ s.ended = false ∧
        (Calendar.endOfTime : Int) ≤ s.expiry := by
  have hannounce : ∀ q r, (announce now q r).aborted = true ↔
      q.aborted = true ∨ announcement? r = none := fun _ _ => Progress.aborted_writeNotice
  rw [announceAll, aborted_foldl hannounce]
  simp only [Catalog.sessionsToAnnounce, List.mem_filter, announcement?_eq_none_iff, and_assoc]

/-! ## Each stage in one update -/

/-- What the first two stages make of a session. -/
def endOrWarn (window : Duration) (now : Int) (s : Session) : Session :=
  if s.ended then s
  else if isExpired now s then s.end
  else if isAging window now s then s.warn
  else s

@[simp] theorem group_endOrWarn : (endOrWarn window now s).group = s.group := by
  unfold endOrWarn
  split_ifs <;> rfl

@[simp] theorem expiry_endOrWarn : (endOrWarn window now s).expiry = s.expiry := by
  unfold endOrWarn
  split_ifs <;> rfl

@[simp] theorem ended_endOrWarn :
    (endOrWarn window now s).ended = (s.ended || isExpired now s) := by
  unfold endOrWarn
  split_ifs with hended hexp haging
  · rw [hended, Bool.true_or]
  · rw [hexp, Bool.or_true]
    rfl
  · simp [hended, hexp, Session.warn]
  · simp [hended, hexp]

/-- A session that is over for the lifecycle: it is ended, or its time is over. -/
theorem isOver_iff : (s.ended || isExpired now s) = false ↔ s.ended = false ∧ now ≤ s.expiry := by
  rw [Bool.or_eq_false_iff, isExpired, decide_eq_false_iff_not, Int.not_lt]

/-- Of a session that lives on, only the warning is new. -/
theorem endOrWarn_of_live (h : (s.ended || isExpired now s) = false) :
    endOrWarn window now s =
      { s with warned := s.warned || decide (s.expiry < threshold window now) } := by
  obtain ⟨hended, hexp⟩ := Bool.or_eq_false_iff.mp h
  have haging : isAging window now s = (decide (s.expiry < threshold window now) && !s.warned) := by
    rw [isAging, hexp, Bool.not_false, Bool.true_and]
  rw [endOrWarn, if_neg (by simp [hended]), if_neg (by simp [hexp]), haging]
  cases hwarned : s.warned with
  | true =>
    rw [Bool.not_true, Bool.and_false, Bool.true_or, if_neg Bool.false_ne_true, ← hwarned]
  | false =>
    rw [Bool.not_false, Bool.and_true, Bool.false_or]
    cases decide (s.expiry < threshold window now) with
    | true => rfl
    | false => rw [if_neg Bool.false_ne_true, ← hwarned]

theorem announce_endOrWarn_of_over (htoken : s.token = none ↔ s.ended = true)
    (h : (s.ended || isExpired now s) = true) :
    (endOrWarn window now s).announce = s.end.announce := by
  unfold endOrWarn
  by_cases hended : s.ended = true
  · have hnone := htoken.mpr hended
    rw [if_pos hended]
    cases s
    simp_all [Session.announce, Session.end]
  · have hexp : isExpired now s = true := by simpa [hended] using h
    rw [if_neg hended, if_pos hexp]

theorem nodup_activeSessions (hn : (c.sessions.map Session.id).Nodup) (pick : Session → Bool) :
    ((c.activeSessions.filter pick).map Session.id).Nodup := by
  have hactive : (c.activeSessions.map Session.id).Nodup := by
    refine ((List.mergeSort_perm _ _).map Session.id).nodup_iff.mpr ?_
    exact hn.sublist (List.filter_sublist.map _)
  exact hactive.sublist (List.filter_sublist.map _)

theorem not_aborted_of_expireAndWarn (h : (expireAndWarn window now p).aborted = false) :
    p.aborted = false := by
  cases hp : p.aborted with
  | false => rfl
  | true => rw [aborted_expireAndWarn_iff.mpr (Or.inl hp)] at h; exact h

/-- The sessions that a stage picks among the live ones can be written one by one. -/
theorem stands_activeSessions (hc : p.catalog.Consistent) (hp : p.aborted = false)
    (pick : Session → Bool) : Stands Catalog.Consistent (p.catalog.activeSessions.filter pick) p where
  aborted := hp
  holds := hc
  ids := nodup_activeSessions hc.sessionIds_nodup pick
  read := fun _ hr => (mem_activeSessions.mp (List.mem_of_mem_filter hr)).1

/-- So can those that it picks among all. -/
theorem stands_filter (hn : (p.catalog.sessions.map Session.id).Nodup) (hp : p.aborted = false)
    (pick : Session → Bool) :
    Stands (fun c => (c.sessions.map Session.id).Nodup) (p.catalog.sessions.filter pick) p where
  aborted := hp
  holds := hn
  ids := hn.sublist (List.filter_sublist.map _)
  read := fun _ hr => List.mem_of_mem_filter hr

/-- The stage that ends leaves everything else in place. -/
theorem catalog_foldl_expire (hc : p.catalog.Consistent) (hp : p.aborted = false) :
    ((p.catalog.activeSessions.filter (isExpired now)).foldl (expire now) p).catalog =
      p.catalog.endAll (p.catalog.activeSessions.filter (isExpired now)) now := by
  refine (writesRows_expire fun r hr => ?_).catalog_foldl (stands_activeSessions hc hp _)
  exact (mem_activeSessions.mp (List.mem_of_mem_filter hr)).2

/-- The notices of a stage, each with the session that it is on. What cannot be worded is left out. -/
def tellings (text : Session → Option NoticeText) (l : List Session) : List (Session × NoticeText) :=
  l.flatMap fun r => (text r).toList.map (Prod.mk r)

/-- Notices on sessions, each for the user of its session. -/
def forUsers (l : List (Session × NoticeText)) : List (String × NoticeText) :=
  l.map fun n => (n.1.user, n.2)

theorem forUsers_tellings_cons (text : Session → Option NoticeText) (r : Session) (l : List Session) :
    forUsers (tellings text (r :: l)) =
      (text r).toList.map (Prod.mk r.user) ++ forUsers (tellings text l) := by
  rw [tellings, List.flatMap_cons, forUsers, List.map_append, List.map_map]
  rfl

theorem addressed_eq_forUsers {text : Session → NoticeText} {text? : Session → Option NoticeText}
    {l : List Session} (h : ∀ r ∈ l, text? r = some (text r)) :
    addressed text l = forUsers (tellings text? l) := by
  induction l with
  | nil => rfl
  | cons r rest ih =>
    obtain ⟨hr, hrest⟩ := List.forall_mem_cons.mp h
    rw [forUsers_tellings_cons, hr, ← ih hrest]
    rfl

theorem warn_eq_raise (q : Progress) (r : Session) : warn now q r = q.writeNotice (warning? r)
    (fun t => Catalog.raise (fun s => !s.warned && !s.ended) Session.warn r t now)
    fun r => { r with warned := r.warned + 1 } := rfl

theorem announce_eq_raise (q : Progress) (r : Session) : announce now q r =
    q.writeNotice (announcement? r)
      (fun t => Catalog.raise (fun s => s.unannounced) Session.announce r t now)
      fun r => { r with announced := r.announced + 1 } := rfl

theorem tellReady_eq_raise (q : Progress) (r : Session) : tellReady now q r =
    q.write (Catalog.raise (fun s => !s.ended && !s.readyTold) Session.tellReady r (readyNotice r) now)
      fun r => { r with ready := r.ready + 1 } := rfl

/-- A stage of notices that comes to its end could word them all, so it made its writes row by row. -/
theorem writesRows_writeNotice {step : Progress → Session → Progress} {l : List Session}
    {guard : Session → Bool} {flag : Session → Session} {text : Session → Option NoticeText}
    {count : Report → Report}
    (hstep : ∀ q r, step q r =
      q.writeNotice (text r) (fun t => Catalog.raise guard flag r t now) count)
    (hflag : ∀ s, (flag s).id = s.id) (hguard : ∀ r ∈ l, guard r = true)
    (h : (l.foldl step p).aborted = false) :
    p.aborted = false ∧ ∃ worded : Session → NoticeText, (∀ r ∈ l, text r = some (worded r)) ∧
      (∀ r ∈ l, ∀ q : Progress,
        step q r = q.write (Catalog.raise guard flag r (worded r) now) count) ∧
      WritesRows step (fun l c => (c.flagAll l flag).enqueueAll now (addressed worded l))
        (fun c => (c.sessions.map Session.id).Nodup) l := by
  have habort : ∀ q r, (step q r).aborted = true ↔ q.aborted = true ∨ text r = none := by
    intro q r
    rw [hstep, Progress.aborted_writeNotice]
  have hnot : ¬(p.aborted = true ∨ ∃ r ∈ l, text r = none) := by
    rw [← aborted_foldl habort, h]
    exact Bool.false_ne_true
  obtain ⟨hp, hworded⟩ := not_or.mp hnot
  have htext : ∀ r ∈ l, text r = some ((text r).getD ⟨"", ""⟩) := by
    intro r hr
    obtain ⟨t, ht⟩ := Option.ne_none_iff_exists'.mp fun hnone => hworded ⟨r, hr, hnone⟩
    rw [ht]
    rfl
  have hwrite : ∀ r ∈ l, ∀ q : Progress,
      step q r = q.write (Catalog.raise guard flag r ((text r).getD ⟨"", ""⟩) now) count := by
    intro r hr q
    rw [hstep, htext r hr]
    rfl
  exact ⟨Bool.not_eq_true _ ▸ hp, _, htext, hwrite, writesRows_raise hwrite hflag hguard⟩

/-- A stage of notices that comes to its end has raised its flag everywhere, and told everybody. -/
theorem catalog_foldl_writeNotice {step : Progress → Session → Progress} {l : List Session}
    {guard : Session → Bool} {flag : Session → Session} {text : Session → Option NoticeText}
    {count : Report → Report}
    (hstep : ∀ q r, step q r =
      q.writeNotice (text r) (fun t => Catalog.raise guard flag r t now) count)
    (hflag : ∀ s, (flag s).id = s.id) (hn : (p.catalog.sessions.map Session.id).Nodup)
    (hl : (l.map Session.id).Nodup) (hread : ∀ r ∈ l, r ∈ p.catalog.sessions)
    (hguard : ∀ r ∈ l, guard r = true) (h : (l.foldl step p).aborted = false) :
    (l.foldl step p).catalog =
      (p.catalog.flagAll l flag).enqueueAll now (forUsers (tellings text l)) := by
  obtain ⟨hp, worded, htext, -, hrows⟩ := writesRows_writeNotice hstep hflag hguard h
  rw [hrows.catalog_foldl ⟨hp, hn, hl, hread⟩, addressed_eq_forUsers htext]

theorem map_id_endAll (l : List Session) (now : Int) (c : Catalog) :
    (c.endAll l now).sessions.map Session.id = c.sessions.map Session.id := by
  simp only [Catalog.endAll, List.map_map]
  refine List.map_congr_left fun s _ => ?_
  simp only [Function.comp_apply]
  split <;> rfl

/-- The sessions that the stages that end and warn decide to end. -/
def toEnd (now : Int) (c : Catalog) : List Session := c.activeSessions.filter (isExpired now)

/-- The sessions that they decide to warn. -/
def toWarn (window : Duration) (now : Int) (c : Catalog) : List Session :=
  c.activeSessions.filter (isAging window now)

theorem guard_of_mem_toWarn (hr : r ∈ toWarn window now c) : (!r.warned && !r.ended) = true := by
  obtain ⟨hactive, haging⟩ := List.mem_filter.mp hr
  rw [(isAging_iff.mp haging).2.2, (mem_activeSessions.mp hactive).2]
  rfl

/-- The sessions to warn are not among those that were ended, so they can be written after them. -/
theorem stands_toWarn (hc : p.catalog.Consistent) (hp : p.aborted = false) (window : Duration)
    (now : Int) :
    Stands (fun c => (c.sessions.map Session.id).Nodup) (toWarn window now p.catalog)
      ((toEnd now p.catalog).foldl (expire now) p) := by
  have hmid : ((toEnd now p.catalog).foldl (expire now) p).catalog =
      p.catalog.endAll (toEnd now p.catalog) now := catalog_foldl_expire hc hp
  refine ⟨(aborted_foldl_expire _ _).trans hp, ?_, nodup_activeSessions hc.sessionIds_nodup _, ?_⟩
  · rw [hmid, map_id_endAll]
    exact hc.sessionIds_nodup
  · intro r hr
    obtain ⟨hactive, haging⟩ := List.mem_filter.mp hr
    rw [hmid]
    refine List.mem_map.mpr ⟨r, (mem_activeSessions.mp hactive).1, if_neg fun hexp => ?_⟩
    have hover := isExpired_iff.mp (List.mem_filter.mp hexp).2
    exact absurd (isAging_iff.mp haging).1 (Int.not_le.mpr hover)

theorem catalog_expireAndWarn (hc : p.catalog.Consistent)
    (h : (expireAndWarn window now p).aborted = false) :
    (expireAndWarn window now p).catalog =
      ((p.catalog.endAll (toEnd now p.catalog) now).flagAll (toWarn window now p.catalog)
        Session.warn).enqueueAll now (forUsers (tellings warning? (toWarn window now p.catalog))) := by
  have hp := not_aborted_of_expireAndWarn h
  rw [expireAndWarn_eq] at h ⊢
  have hmid : ((toEnd now p.catalog).foldl (expire now) p).catalog =
      p.catalog.endAll (toEnd now p.catalog) now := catalog_foldl_expire hc hp
  have hstands := stands_toWarn hc hp window now
  have hwarned := catalog_foldl_writeNotice warn_eq_raise (fun _ => rfl) hstands.holds hstands.ids
    hstands.read (fun _ => guard_of_mem_toWarn) h
  rwa [hmid] at hwarned

theorem sessions_expireAndWarn (hc : p.catalog.Consistent)
    (h : (expireAndWarn window now p).aborted = false) :
    (expireAndWarn window now p).catalog.sessions =
      p.catalog.sessions.map (endOrWarn window now) := by
  rw [catalog_expireAndWarn hc h, Catalog.sessions_enqueueAll]
  simp only [Catalog.flagAll, Catalog.endAll, List.map_map]
  refine List.map_congr_left fun s hs => ?_
  simp only [Function.comp_apply, toEnd, toWarn, List.mem_filter, mem_activeSessions, hs, true_and,
    endOrWarn]
  by_cases hended : s.ended = true
  · simp [hended]
  · by_cases hexp : isExpired now s = true
    · simp [hended, hexp, Session.end]
    · simp [hended, hexp, hs]

theorem catalog_announceAll (hn : (p.catalog.sessions.map Session.id).Nodup)
    (h : (announceAll now p).aborted = false) :
    (announceAll now p).catalog =
      (p.catalog.flagAll p.catalog.sessionsToAnnounce Session.announce).enqueueAll now
        (forUsers (tellings announcement? p.catalog.sessionsToAnnounce)) := by
  have hl : (p.catalog.sessionsToAnnounce.map Session.id).Nodup :=
    hn.sublist (List.filter_sublist.map _)
  exact catalog_foldl_writeNotice announce_eq_raise (fun _ => rfl) hn hl
    (fun r hr => List.mem_of_mem_filter hr) (fun r hr => (List.mem_filter.mp hr).2) h

theorem sessions_announceAll (hn : (p.catalog.sessions.map Session.id).Nodup)
    (h : (announceAll now p).aborted = false) :
    (announceAll now p).catalog.sessions = p.catalog.sessions.map Session.announce := by
  rw [catalog_announceAll hn h, Catalog.sessions_enqueueAll, Catalog.sessionsToAnnounce,
    Catalog.sessions_flagAll_filter]
  refine List.map_congr_left fun s _ => ?_
  split
  next => rfl
  next hdone =>
    -- nothing is left to announce
    cases s
    simpa [Session.announce] using hdone

/-- What a holder is told while a session is cleaned up after, unless the holder was told before. -/
def offNotice? (r : Session) : Option NoticeText := if r.offTold then none else some (offNotice r)

theorem offNotices_eq_forUsers (l : List Session) :
    offNotices l = forUsers (tellings offNotice? l) := by
  induction l with
  | nil => rfl
  | cons r rest ih =>
    rw [forUsers_tellings_cons, ← ih, offNotices, List.filter_cons]
    cases htold : r.offTold with
    | true => simp [offNotice?, htold, offNotices]
    | false => simp [offNotice?, htold, offNotices, addressed]

theorem ended_of_mem_sessionsToClean (hr : r ∈ c.sessionsToClean) : r.ended = true := by
  have hpicked := (List.mem_filter.mp hr).2
  simp only [Bool.and_eq_true] at hpicked
  exact hpicked.1.1

theorem catalog_cleanAll (hn : (p.catalog.sessions.map Session.id).Nodup) (hp : p.aborted = false) :
    (cleanAll now p).catalog =
      (p.catalog.deleteAll p.catalog.sessionsToClean).enqueueAll now
        (forUsers (tellings offNotice? p.catalog.sessionsToClean)) := by
  rw [cleanAll, (writesRows_clean fun _ => ended_of_mem_sessionsToClean).catalog_foldl
    (stands_filter hn hp _), offNotices_eq_forUsers]

theorem sessions_cleanAll (hn : (p.catalog.sessions.map Session.id).Nodup)
    (hp : p.aborted = false) :
    (cleanAll now p).catalog.sessions =
      p.catalog.sessions.filter fun s =>
        !(s.ended && !s.unannounced && p.catalog.isSettled s.group .off) := by
  rw [catalog_cleanAll hn hp, Catalog.sessions_enqueueAll]
  exact Catalog.sessions_deleteAll_filter hn _

theorem guard_of_mem_sessionsReady (hr : r ∈ c.sessionsReady) : (!r.ended && !r.readyTold) = true := by
  have hpicked := (List.mem_filter.mp hr).2
  simp only [Bool.and_eq_true] at hpicked ⊢
  exact hpicked.1.1

theorem catalog_tellAllReady (hn : (p.catalog.sessions.map Session.id).Nodup)
    (hp : p.aborted = false) :
    (tellAllReady now p).catalog =
      (p.catalog.flagAll p.catalog.sessionsReady Session.tellReady).enqueueAll now
        (forUsers (tellings (fun r => some (readyNotice r)) p.catalog.sessionsReady)) := by
  rw [tellAllReady, (writesRows_raise (fun r _ q => tellReady_eq_raise q r) (fun _ => rfl) fun _ =>
    guard_of_mem_sessionsReady).catalog_foldl (stands_filter hn hp _),
    addressed_eq_forUsers fun _ _ => rfl]

theorem sessions_tellAllReady (hn : (p.catalog.sessions.map Session.id).Nodup)
    (hp : p.aborted = false) :
    (tellAllReady now p).catalog.sessions =
      p.catalog.sessions.map fun s =>
        if !s.ended && !s.readyTold && p.catalog.hasGroup s.group && p.catalog.isSettled s.group .on
        then s.tellReady else s := by
  rw [catalog_tellAllReady hn hp, Catalog.sessions_enqueueAll]
  exact Catalog.sessions_flagAll_filter _ _

/-! ## The whole tick -/

/-- What a tick that comes to its end leaves of a session. -/
def fate (window : Duration) (now : Int) (c : Catalog) (s : Session) : Option Session :=
  if s.ended || isExpired now s then
    if c.allSeen s.group .off then none else some s.end.announce
  else
    some { s with
      unannounced := false
      warned := s.warned || decide (s.expiry < threshold window now)
      readyTold := s.readyTold || (c.hasGroup s.group && c.allSeen s.group .on) }

/-- When a tick aborts: there is a live session, not over yet, with a start to be announced or an
expiry to be warned of, and the expiry cannot be worded. -/
theorem aborted_tick_iff (hc : c.Consistent) :
    (tick window now c).aborted = true ↔
      ∃ s ∈ c.sessions, s.ended = false ∧ now ≤ s.expiry ∧
        (Calendar.endOfTime : Int) ≤ s.expiry ∧
        (s.unannounced = true ∨ (s.warned = false ∧ s.expiry < threshold window now)) := by
  rw [tick, laterStages, aborted_tellAllReady, aborted_cleanAll, aborted_announceAll_iff]
  cases hfirst : (expireAndWarn window now { catalog := c }).aborted with
  | true =>
    obtain hno | ⟨s, hs, hlive, hnow, hage, hwarn, hend⟩ := aborted_expireAndWarn_iff.mp hfirst
    · exact absurd hno Bool.false_ne_true
    · simp only [true_or, true_iff]
      exact ⟨s, hs, hlive, hnow, hend, Or.inr ⟨hwarn, hage⟩⟩
  | false =>
    have hnone : ¬∃ s ∈ c.sessions, s.ended = false ∧ now ≤ s.expiry ∧
        s.expiry < threshold window now ∧ s.warned = false ∧
        (Calendar.endOfTime : Int) ≤ s.expiry := by
      intro hex
      rw [aborted_expireAndWarn_iff.mpr (Or.inr hex)] at hfirst
      exact Bool.noConfusion hfirst
    -- the announcing reads the rows as the first stage left them
    rw [sessions_expireAndWarn hc hfirst]
    simp only [Bool.false_eq_true, false_or, List.mem_map]
    constructor
    · rintro ⟨_, ⟨s, hs, rfl⟩, hun, hover, hend⟩
      rw [ended_endOrWarn] at hover
      rw [endOrWarn_of_live hover] at hun
      obtain ⟨hlive, hnow⟩ := isOver_iff.mp hover
      exact ⟨s, hs, hlive, hnow, by simpa using hend, Or.inl hun⟩
    · rintro ⟨s, hs, hlive, hnow, hend, hun | ⟨hwarn, hage⟩⟩
      · have hover := isOver_iff.mpr ⟨hlive, hnow⟩
        refine ⟨_, ⟨s, hs, rfl⟩, ?_, ?_, by simpa using hend⟩
        · rw [endOrWarn_of_live hover, hun]
        · rw [ended_endOrWarn, hover]
      · exact absurd ⟨s, hs, hlive, hnow, hage, hwarn, hend⟩ hnone

/-- A tick aborts only if there is a live session that expires in the year 10000 or later. -/
theorem not_aborted_of_worded (hc : c.Consistent)
    (hexpiry : ∀ s ∈ c.sessions, s.ended = false → s.expiry < Calendar.endOfTime)
    (window : Duration) (now : Int) : (tick window now c).aborted = false := by
  rw [← Bool.not_eq_true, aborted_tick_iff hc]
  rintro ⟨s, hs, hlive, -, hlate, -⟩
  exact absurd hlate (Int.not_le.mpr (hexpiry s hs hlive))

/-- A tick that aborts has ended the sessions whose time is over: nothing that can abort stands in
front of that. -/
theorem ended_of_aborted (hc : c.Consistent) (h : (tick window now c).aborted = true)
    (hs : s ∈ c.sessions) (hexp : isExpired now s = true) :
    ∃ s' ∈ (tick window now c).catalog.sessions, s.SameLease s' ∧ s'.ended = true := by
  have hmid : ((c.activeSessions.filter (isExpired now)).foldl (expire now)
      { catalog := c }).catalog = c.endAll (c.activeSessions.filter (isExpired now)) now :=
    catalog_foldl_expire (p := { catalog := c }) hc rfl
  obtain ⟨t, ht, hst, hended⟩ : ∃ t ∈ ((c.activeSessions.filter (isExpired now)).foldl (expire now)
      { catalog := c }).catalog.sessions, s.SameLease t ∧ t.ended = true := by
    rw [hmid]
    refine ⟨_, List.mem_map_of_mem hs, ?_⟩
    split
    next => exact ⟨⟨rfl, rfl, rfl, rfl⟩, rfl⟩
    next hnot =>
      refine ⟨.refl s, ?_⟩
      by_contra hlive
      refine hnot (List.mem_filter.mpr ⟨mem_activeSessions.mpr ⟨hs, ?_⟩, hexp⟩)
      exact Bool.not_eq_true _ ▸ hlive
  -- what comes after the ending keeps the rows, and brings no session back to life
  have hwarned : Catalog.Kept ((c.activeSessions.filter (isExpired now)).foldl (expire now)
      { catalog := c }).catalog (expireAndWarn window now { catalog := c }).catalog := by
    rw [expireAndWarn_eq]
    exact kept_foldl_warn _
  rw [tick_of_aborted h]
  obtain ⟨s', hs', hsame, hkept⟩ := (hwarned.trans kept_announceAll) t ht
  exact ⟨s', hs', hst.trans hsame, hkept hended⟩

/-- Changing, picking and changing again is doing it all row by row. -/
theorem map_filter_map_eq_filterMap {α : Type} {f g : α → α} {keep : α → Bool} {h : α → Option α}
    {l : List α} (hrow : ∀ a ∈ l, h a = if keep (f a) then some (g (f a)) else none) :
    ((l.map f).filter keep).map g = l.filterMap h := by
  induction l with
  | nil => rfl
  | cons a rest ih =>
    obtain ⟨ha, hrest⟩ := List.forall_mem_cons.mp hrow
    rw [List.filterMap_cons, ha, List.map_cons, List.filter_cons]
    split
    · rw [List.map_cons, ih hrest]
    · exact ih hrest

/-- A tick that did not abort has come past the stages that can. -/
theorem not_aborted_of_tick (h : (tick window now c).aborted = false) :
    (expireAndWarn window now { catalog := c }).aborted = false ∧
      (announceAll now (expireAndWarn window now { catalog := c })).aborted = false := by
  have h2 : (announceAll now (expireAndWarn window now { catalog := c })).aborted = false := by
    rwa [tick, laterStages, aborted_tellAllReady, aborted_cleanAll] at h
  refine ⟨?_, h2⟩
  cases hfirst : (expireAndWarn window now { catalog := c }).aborted with
  | false => rfl
  | true => rw [aborted_announceAll_iff.mpr (Or.inl hfirst)] at h2; exact h2

theorem not_aborted_cleaned (h : (tick window now c).aborted = false) :
    (cleanAll now (announceAll now (expireAndWarn window now { catalog := c }))).aborted = false := by
  rw [aborted_cleanAll]
  exact (not_aborted_of_tick h).2

/-- The catalog as the first stages of a tick leave it, with nothing left to warn of or to announce. -/
theorem announced_tick (hc : c.Consistent) (h : (tick window now c).aborted = false) :
    (announceAll now (expireAndWarn window now { catalog := c })).aborted = false ∧
      (announceAll now (expireAndWarn window now { catalog := c })).catalog.sessions =
        c.sessions.map fun s => (endOrWarn window now s).announce := by
  obtain ⟨h1, h2⟩ := not_aborted_of_tick h
  have hc1 := (continues_expireAndWarn (p := { catalog := c }) hc window now).consistent
  refine ⟨h2, ?_⟩
  rw [sessions_announceAll hc1.sessionIds_nodup h2, sessions_expireAndWarn hc h1, List.map_map]
  rfl

theorem continues_announced (hc : c.Consistent) (window : Duration) (now : Int) :
    Catalog.Continues c
      (announceAll now (expireAndWarn window now { catalog := c })).catalog := by
  have h := continues_expireAndWarn (p := { catalog := c }) hc window now
  exact h.trans (continues_announceAll h.consistent now)

/-- The test of the stage that cleans up, on a session as it was before the tick. -/
theorem toClean_announced (hc : c.Consistent) (h : (tick window now c).aborted = false)
    (hs : s ∈ c.sessions) :
    ((endOrWarn window now s).announce.ended && !(endOrWarn window now s).announce.unannounced &&
        (announceAll now (expireAndWarn window now { catalog := c })).catalog.isSettled
          (endOrWarn window now s).announce.group .off) =
      ((s.ended || isExpired now s) && c.allSeen s.group .off) := by
  have hcont := continues_announced hc window now
  have hmem : (endOrWarn window now s).announce ∈
      (announceAll now (expireAndWarn window now { catalog := c })).catalog.sessions := by
    rw [(announced_tick hc h).2]
    exact List.mem_map_of_mem hs
  have hended : (endOrWarn window now s).announce.ended = (s.ended || isExpired now s) :=
    ended_endOrWarn
  have hgroup : (endOrWarn window now s).announce.group = s.group := group_endOrWarn
  cases hover : s.ended || isExpired now s with
  | false => rw [hended, hover]; rfl
  | true =>
    have htarget : (endOrWarn window now s).announce.target = .off := by
      rw [Session.target, hended, hover]
      rfl
    rw [hcont.consistent.isSettled_eq hmem htarget, hcont.allSeen_eq, hended, hover, hgroup]
    rfl

theorem continues_cleaned (hc : c.Consistent) (window : Duration) (now : Int) :
    Catalog.Continues c (cleanAll now (announceAll now
      (expireAndWarn window now { catalog := c }))).catalog := by
  have h := continues_announced hc window now
  exact h.trans (continues_cleanAll h.consistent now)

/-- The catalog as the stages in front of the last one leave it. -/
theorem sessions_cleaned (hc : c.Consistent) (h : (tick window now c).aborted = false) :
    (cleanAll now (announceAll now (expireAndWarn window now { catalog := c }))).catalog.sessions =
      (c.sessions.map fun s => (endOrWarn window now s).announce).filter fun s =>
        !(s.ended && !s.unannounced &&
          (announceAll now (expireAndWarn window now { catalog := c })).catalog.isSettled s.group .off) := by
  obtain ⟨h2, hrows⟩ := announced_tick hc h
  rw [sessions_cleanAll (continues_announced hc window now).consistent.sessionIds_nodup h2, hrows]

theorem announce_endOrWarn_of_live (h : (s.ended || isExpired now s) = false) :
    (endOrWarn window now s).announce =
      { s with
        unannounced := false
        warned := s.warned || decide (s.expiry < threshold window now) } := by
  rw [endOrWarn_of_live h]
  rfl

/-- The test of the stage that tells of servers that are on, on the group of a session that lives on. -/
theorem isSettled_cleaned (hc : c.Consistent) (h : (tick window now c).aborted = false)
    (hs : s ∈ c.sessions) (hover : (s.ended || isExpired now s) = false) :
    (cleanAll now (announceAll now (expireAndWarn window now { catalog := c }))).catalog.isSettled
      s.group .on = c.allSeen s.group .on := by
  have hcont := continues_cleaned hc window now
  have hmem : (endOrWarn window now s).announce ∈ (cleanAll now (announceAll now
      (expireAndWarn window now { catalog := c }))).catalog.sessions := by
    rw [sessions_cleaned hc h, List.mem_filter, toClean_announced hc h hs, hover]
    exact ⟨List.mem_map_of_mem hs, rfl⟩
  have htarget : (endOrWarn window now s).announce.target = .on := by
    rw [announce_endOrWarn_of_live hover, Session.target, (isOver_iff.mp hover).1]
    rfl
  have hsettled := hcont.consistent.isSettled_eq hmem htarget
  rwa [announce_endOrWarn_of_live hover, hcont.allSeen_eq] at hsettled

/-- **What a tick that comes to its end leaves of the sessions.** -/
theorem sessions_tick (hc : c.Consistent) (h : (tick window now c).aborted = false) :
    (tick window now c).catalog.sessions = c.sessions.filterMap (fate window now c) := by
  have hcont := continues_cleaned hc window now
  rw [tick, laterStages, sessions_tellAllReady hcont.consistent.sessionIds_nodup
    (not_aborted_cleaned h), sessions_cleaned hc h]
  -- row by row: a session that is over is deleted or kept as ended, one that lives on may be told
  refine map_filter_map_eq_filterMap fun s hs => ?_
  rw [toClean_announced hc h hs, fate]
  cases hover : s.ended || isExpired now s with
  | true =>
    have hended : (endOrWarn window now s).announce.ended = true := ended_endOrWarn.trans hover
    rw [announce_endOrWarn_of_over (hc.token_eq_none_iff s hs) hover] at hended ⊢
    rw [hended]
    cases c.allSeen s.group .off <;> rfl
  | false =>
    have hlive := (isOver_iff.mp hover).1
    rw [announce_endOrWarn_of_live hover, isSettled_cleaned hc h hs hover, hcont.hasGroup_eq]
    cases hready : s.readyTold <;>
      cases hall : c.hasGroup s.group && c.allSeen s.group .on <;>
        simp_all [Session.tellReady]

/-! ## Fates -/

/-- A session is deleted if it is over and all servers of its group were last seen off. -/
theorem fate_eq_none_iff : fate window now c s = none ↔
    (s.ended = true ∨ s.expiry < now) ∧ ∀ v ∈ c.servers, v.group = s.group → v.state = .off := by
  have hoff : c.allSeen s.group .off = true ↔
      ∀ v ∈ c.servers, v.group = s.group → v.state = .off := Catalog.allSeen_iff
  rw [← hoff, ← isExpired_iff, ← Bool.or_eq_true, fate]
  split_ifs with hover hall
  · exact ⟨fun _ => ⟨hover, hall⟩, fun _ => rfl⟩
  · exact ⟨nofun, fun h => absurd h.2 hall⟩
  · exact ⟨nofun, fun h => absurd h.1 hover⟩

theorem fate_of_isExpired (hexp : isExpired now s = true) {s' : Session}
    (h : fate window now c s = some s') : s' = s.end.announce := by
  rw [fate, hexp, Bool.or_true, if_pos rfl] at h
  split at h
  · exact absurd h nofun
  · exact (Option.some.inj h).symm

theorem sameLease_of_fate {s' : Session} (h : fate window now c s = some s') : s.SameLease s' := by
  unfold fate at h
  split at h
  · split at h
    · exact absurd h nofun
    · rw [← Option.some.inj h]
      exact ⟨rfl, rfl, rfl, rfl⟩
  · rw [← Option.some.inj h]
    exact ⟨rfl, rfl, rfl, rfl⟩

theorem expiry_of_fate {s' : Session} (h : fate window now c s = some s') :
    s'.expiry = s.expiry := by
  unfold fate at h
  split at h
  · split at h
    · exact absurd h nofun
    · rw [← Option.some.inj h]
      rfl
  · rw [← Option.some.inj h]

end Lifecycle
end PowerLease
