import PowerLease.Proofs.Interleaving.ById
import PowerLease.Proofs.Lifecycle.Due
import PowerLease.Proofs.Lifecycle.Isolation

/-!
# A tick does what is due, and reports it

The catalogs in front of a tick and behind it are compared row by row. What was done to a session was due
and what was due was done, the report counts it, the queue goes on with the notices of it, and nothing else
is changed (`tick_exact`).

Two of the acts are judged by the servers of the group. A server is compared by what it shows in the catalog
in front of the tick; what is wanted of it at the moment of the act is another matter, and said of the
catalog that the transaction has met.
-/

namespace PowerLease

namespace Lifecycle

variable {c : Catalog} {s : Session} {window : Duration} {now : Int} {a : Act} {t : Transaction}

/-! ## Rows -/

/-- The row of a session after a tick that comes to its end is its fate. -/
theorem row?_tick (hc : c.Consistent) (h : (tick window now c).aborted = false) (hs : s ∈ c.sessions) :
    (tick window now c).catalog.row? s.id = fate window now c s := by
  have hkeeps : ∀ r r', fate window now c r = some r' → r'.id = r.id := fun _ _ hfate =>
    (sameLease_of_fate hfate).id.symm
  have hrow := hc.row?_of_mem hs
  rw [Catalog.row?] at hrow ⊢
  rw [sessions_tick hc h, find?_id_filterMap hkeeps hc.sessionIds_nodup, hrow, Option.bind_some]

/-! ## What the stages write -/

section

variable (hc : c.Consistent) (h : (tick window now c).aborted = false)
include hc h

theorem expired_eq_writes : expired window now c =
    ((c.endAll (toEnd now c) now).flagAll (toWarn window now c) Session.warn).enqueueAll now
      (forUsers (tellings warning? (toWarn window now c))) :=
  catalog_expireAndWarn (p := { catalog := c }) hc (not_aborted_of_tick h).1

theorem announced_eq_writes : announced window now c =
    ((expired window now c).flagAll (expired window now c).sessionsToAnnounce
      Session.announce).enqueueAll now
        (forUsers (tellings announcement? (expired window now c).sessionsToAnnounce)) := by
  have hconsistent := (continues_expireAndWarn (p := { catalog := c }) hc window now).consistent
  exact catalog_announceAll hconsistent.sessionIds_nodup (not_aborted_of_tick h).2

theorem cleaned_eq_writes : cleaned window now c =
    ((announced window now c).deleteAll (announced window now c).sessionsToClean).enqueueAll now
      (forUsers (tellings offNotice? (announced window now c).sessionsToClean)) := by
  have hconsistent := (continues_announced hc window now).consistent
  exact catalog_cleanAll hconsistent.sessionIds_nodup (not_aborted_of_tick h).2

theorem catalog_tick_eq_writes : (tick window now c).catalog =
    ((cleaned window now c).flagAll (cleaned window now c).sessionsReady Session.tellReady).enqueueAll
      now (forUsers (tellings (fun r => some (readyNotice r)) (cleaned window now c).sessionsReady)) := by
  have hconsistent := (continues_cleaned hc window now).consistent
  exact catalog_tellAllReady hconsistent.sessionIds_nodup (not_aborted_cleaned h)

end

/-! ## The queue -/

/-- What the holders of sessions are told of an act, by the titles. -/
def titlesOf (topic : Session → Topic) (l : List Session) : List (String × String) :=
  l.map fun s => (s.user, (topic s).title s.group)

theorem titles_tellings {text? : Session → Option NoticeText} {topic : Session → Topic} {l : List Session}
    (h : ∀ r ∈ l, ∃ text, text? r = some text ∧ text.title = (topic r).title r.group) :
    (forUsers (tellings text? l)).map (fun n => (n.1, n.2.title)) = titlesOf topic l := by
  induction l with
  | nil => rfl
  | cons r rest ih =>
    obtain ⟨⟨text, htext, htitle⟩, hrest⟩ := List.forall_mem_cons.mp h
    rw [forUsers_tellings_cons, List.map_append, ih hrest, htext]
    simp only [Option.toList_some, List.map_cons, List.map_nil, htitle]
    rfl

/-- Stage after stage, the queue goes on with the notices on the sessions that were read. -/
theorem tells_tick (hc : c.Consistent) (h : (tick window now c).aborted = false) :
    c.Tells (forUsers (tellings warning? (toWarn window now c)) ++
        (forUsers (tellings announcement? (expired window now c).sessionsToAnnounce) ++
          (forUsers (tellings offNotice? (announced window now c).sessionsToClean) ++
            forUsers (tellings (fun r => some (readyNotice r)) (cleaned window now c).sessionsReady))))
      (tick window now c).catalog := by
  have hwarned : c.Tells (forUsers (tellings warning? (toWarn window now c)))
      (expired window now c) := by
    rw [expired_eq_writes hc h]
    exact (Catalog.tells_enqueueAll now _ _).of_queue_eq rfl
  have hannounced : (expired window now c).Tells
      (forUsers (tellings announcement? (expired window now c).sessionsToAnnounce))
      (announced window now c) := by
    rw [announced_eq_writes hc h]
    exact (Catalog.tells_enqueueAll now _ _).of_queue_eq rfl
  have hcleaned : (announced window now c).Tells
      (forUsers (tellings offNotice? (announced window now c).sessionsToClean))
      (cleaned window now c) := by
    rw [cleaned_eq_writes hc h]
    exact (Catalog.tells_enqueueAll now _ _).of_queue_eq rfl
  have hready : (cleaned window now c).Tells
      (forUsers (tellings (fun r => some (readyNotice r)) (cleaned window now c).sessionsReady))
      (tick window now c).catalog := by
    rw [catalog_tick_eq_writes hc h]
    exact (Catalog.tells_enqueueAll now _ _).of_queue_eq rfl
  exact hwarned.trans (hannounced.trans (hcleaned.trans hready))

theorem titlesOf_map {f : Session → Session} (huser : ∀ s, (f s).user = s.user)
    (hgroup : ∀ s, (f s).group = s.group) (topic : Session → Topic) (l : List Session) :
    titlesOf topic (l.map f) = titlesOf (fun s => topic (f s)) l := by
  simp only [titlesOf, List.map_map, Function.comp_def, huser, hgroup]

theorem user_endOrWarn : (endOrWarn window now s).user = s.user := by
  unfold endOrWarn
  split_ifs <;> rfl

theorem titlesOf_map_announce (topic : Topic) (l : List Session) :
    titlesOf (fun _ => topic) (l.map fun s => (endOrWarn window now s).announce) =
      titlesOf (fun _ => topic) l := by
  have huser : ∀ s, (endOrWarn window now s).announce.user = s.user := fun _ => user_endOrWarn
  have hgroup : ∀ s, (endOrWarn window now s).announce.group = s.group := fun _ => group_endOrWarn
  exact titlesOf_map huser hgroup _ l

/-- What a session is announced as. -/
def announcedAs (r : Session) : Topic := if r.ended then .ended else .started

theorem title_announcement?_eq {text : NoticeText} (h : announcement? s = some text) :
    text.title = (announcedAs s).title s.group := by
  unfold announcement? at h
  unfold announcedAs
  split at h
  next hended =>
    rw [if_pos hended, ← Option.some.inj h]
    rfl
  next hlive =>
    obtain ⟨time, -, rfl⟩ := Option.map_eq_some_iff.mp h
    rw [if_neg hlive]
    rfl

/-- In a tick that comes to its end, the expiry of a session that has to be told of it can be worded. -/
theorem worded_of_done (hc : c.Consistent) (h : (tick window now c).aborted = false) (hs : s ∈ c.sessions)
    (hlive : s.ended = false) (hnow : now ≤ s.expiry)
    (hdue : s.unannounced = true ∨ s.warned = false ∧ s.expiry < threshold window now) :
    ¬(Calendar.endOfTime : Int) ≤ s.expiry := fun hlate =>
  Bool.false_ne_true (h.symm.trans ((aborted_tick_iff hc).mpr ⟨s, hs, hlive, hnow, hlate, hdue⟩))

theorem titles_toWarn (hc : c.Consistent) (h : (tick window now c).aborted = false) :
    (forUsers (tellings warning? (toWarn window now c))).map (fun n => (n.1, n.2.title)) =
      titlesOf (fun _ => .expiring) (c.activeSessions.filter (does window now c .warned)) := by
  rw [← toWarn_eq]
  refine titles_tellings fun r hr => ?_
  obtain ⟨hactive, haging⟩ := List.mem_filter.mp hr
  obtain ⟨hmem, hlive⟩ := mem_activeSessions.mp hactive
  obtain ⟨hnow, hage, hnot⟩ := isAging_iff.mp haging
  have hworded := worded_of_done hc h hmem hlive hnow (Or.inr ⟨hnot, hage⟩)
  obtain ⟨text, htext⟩ := Option.ne_none_iff_exists'.mp (mt warning?_eq_none_iff.mp hworded)
  exact ⟨text, htext, title_warning? htext⟩

theorem titles_sessionsToAnnounce (hc : c.Consistent) (h : (tick window now c).aborted = false) :
    (forUsers (tellings announcement? (expired window now c).sessionsToAnnounce)).map
        (fun n => (n.1, n.2.title)) =
      titlesOf (fun s => announcedAs (endOrWarn window now s))
        (c.sessions.filter (does window now c .announced)) := by
  rw [← titlesOf_map (fun _ => user_endOrWarn) (fun _ => group_endOrWarn),
    ← sessionsToAnnounce_expired hc h]
  refine titles_tellings fun r hr => ?_
  have hunannounced : r.unannounced = true := (List.mem_filter.mp hr).2
  have hworded : announcement? r ≠ none := by
    rw [Ne, announcement?_eq_none_iff]
    rintro ⟨hlive, hlate⟩
    rw [sessionsToAnnounce_expired hc h] at hr
    obtain ⟨s, hs, rfl⟩ := List.mem_map.mp hr
    rw [ended_endOrWarn] at hlive
    rw [endOrWarn_of_live hlive] at hunannounced
    rw [expiry_endOrWarn] at hlate
    obtain ⟨hslive, hnow⟩ := isOver_iff.mp hlive
    exact worded_of_done hc h (List.mem_of_mem_filter hs) hslive hnow (Or.inl hunannounced) hlate
  obtain ⟨text, htext⟩ := Option.ne_none_iff_exists'.mp hworded
  exact ⟨text, htext, title_announcement?_eq htext⟩

theorem titles_sessionsToClean (hc : c.Consistent) (h : (tick window now c).aborted = false) :
    (forUsers (tellings offNotice? (announced window now c).sessionsToClean)).map
        (fun n => (n.1, n.2.title)) =
      titlesOf (fun _ => .offline) (c.sessions.filter (does window now c .toldOff)) := by
  have hnotices : ∀ l, (addressed offNotice l).map (fun n => (n.1, n.2.title)) =
      titlesOf (fun _ => .offline) l := by
    intro l
    rw [addressed, titlesOf, List.map_map]
    rfl
  have htold : (fun r : Session => !r.offTold) ∘ (fun s => (endOrWarn window now s).announce) =
      fun s => !s.offTold := by
    funext s
    exact congrArg not offTold_endOrWarn
  have hpicked : (fun s => !s.offTold && does window now c .deleted s) = does window now c .toldOff := by
    funext s
    rw [does_toldOff, Bool.and_comm]
  rw [← offNotices_eq_forUsers, offNotices, sessionsToClean_announced hc h, List.filter_map, htold,
    List.filter_filter, hpicked, hnotices, titlesOf_map_announce]

theorem titles_sessionsReady (hc : c.Consistent) (h : (tick window now c).aborted = false) :
    (forUsers (tellings (fun r => some (readyNotice r)) (cleaned window now c).sessionsReady)).map
        (fun n => (n.1, n.2.title)) =
      titlesOf (fun _ => .online) (c.sessions.filter (does window now c .toldReady)) := by
  have htitle : ∀ r ∈ (cleaned window now c).sessionsReady,
      ∃ text, some (readyNotice r) = some text ∧ text.title = Topic.online.title r.group :=
    fun r _ => ⟨readyNotice r, rfl, rfl⟩
  rw [titles_tellings htitle, sessionsReady_cleaned hc h, titlesOf_map_announce]

/-- Who is told what in a tick that comes to its end, by the titles and in the order of the stages. -/
def titlesDue (window : Duration) (now : Int) (c : Catalog) : List (String × String) :=
  titlesOf (fun _ => .expiring) (c.activeSessions.filter (does window now c .warned)) ++
    (titlesOf (fun s => announcedAs (endOrWarn window now s))
        (c.sessions.filter (does window now c .announced)) ++
      (titlesOf (fun _ => .offline) (c.sessions.filter (does window now c .toldOff)) ++
        titlesOf (fun _ => .online) (c.sessions.filter (does window now c .toldReady))))

theorem queue_tick (hc : c.Consistent) (h : (tick window now c).aborted = false) :
    ∃ new, (tick window now c).catalog.queue = c.queue ++ new ∧
      new.map (fun n => (n.user, n.title)) = titlesDue window now c := by
  obtain ⟨new, hqueue, hcontent⟩ := tells_tick hc h
  refine ⟨new, hqueue, ?_⟩
  have htitles := congrArg (List.map fun n => (n.1, n.2.title)) hcontent
  rw [List.map_map, List.map_append, List.map_append, List.map_append, titles_toWarn hc h,
    titles_sessionsToAnnounce hc h, titles_sessionsToClean hc h, titles_sessionsReady hc h] at htitles
  exact htitles

/-- As many notices are due as the report counts. -/
theorem length_titlesDue (hc : c.Consistent) (h : (tick window now c).aborted = false) :
    (titlesDue window now c).length = (tick window now c).report.warned +
      (tick window now c).report.announced + (tick window now c).report.offTold +
        (tick window now c).report.ready := by
  have hwarned := length_filter_activeSessions (c := c) fun s (hs : does window now c .warned s = true) =>
    (does_iff.mp hs).1
  have hcount := count_eq_does hc h
  simp only [titlesDue, titlesOf, List.length_append, List.length_map, hwarned,
    ← List.countP_eq_length_filter, ← hcount, Report.count, Nat.add_assoc]

/-! ## Servers -/

/-- The end of leases and the deletion of sessions change two columns of a server. -/
theorem exists_servers_deleteAll (l l' : List Session) (now : Int) (c : Catalog) :
    ∃ f : Server → Server, ((c.endAll l now).deleteAll l').servers = c.servers.map f ∧
      ∀ v, f v = { v with
        target := (f v).target
        lastOffAt := if ∃ s ∈ l, s.group = v.group then some now else v.lastOffAt } := by
  refine ⟨_, List.map_map, fun v => ?_⟩
  simp only [Function.comp_apply]
  by_cases hended : ∃ s ∈ l, s.group = v.group
  · rw [if_pos hended]
    split <;> rfl
  · rw [if_neg hended]
    split <;> rfl

theorem servers_tick_eq_deleteAll (hc : c.Consistent) (h : (tick window now c).aborted = false) :
    (tick window now c).catalog.servers =
      ((c.endAll (toEnd now c) now).deleteAll (announced window now c).sessionsToClean).servers := by
  have hexpired : (expired window now c).servers = (c.endAll (toEnd now c) now).servers := by
    rw [expired_eq_writes hc h, Catalog.servers_enqueueAll]
    rfl
  have hannounced : (announced window now c).servers = (expired window now c).servers := by
    rw [announced_eq_writes hc h, Catalog.servers_enqueueAll]
    rfl
  have hcleaned : (cleaned window now c).servers =
      ((announced window now c).deleteAll (announced window now c).sessionsToClean).servers := by
    rw [cleaned_eq_writes hc h, Catalog.servers_enqueueAll]
  have hready : (tick window now c).catalog.servers = (cleaned window now c).servers := by
    rw [catalog_tick_eq_writes hc h, Catalog.servers_enqueueAll]
    rfl
  simp only [hready, hcleaned, Catalog.deleteAll, hannounced, hexpired]

/-- Of a server only what is wanted changes, and when the end of a lease last wanted it off. -/
theorem servers_tick (hc : c.Consistent) (h : (tick window now c).aborted = false) :
    (tick window now c).catalog.servers = c.servers.map fun v =>
      { v with
        target := ((tick window now c).catalog.sessionOf v.group).map Session.target
        lastOffAt :=
          if ∃ s ∈ c.sessions, s.group = v.group ∧ s.ended = false ∧ s.expiry < now then some now
          else v.lastOffAt } := by
  obtain ⟨f, hf, hcolumns⟩ :=
    exists_servers_deleteAll (toEnd now c) (announced window now c).sessionsToClean now c
  rw [← servers_tick_eq_deleteAll hc h] at hf
  rw [hf]
  refine List.map_congr_left fun v hv => ?_
  have hmem : f v ∈ (tick window now c).catalog.servers := hf ▸ List.mem_map_of_mem hv
  have hgroup : (f v).group = v.group := by rw [hcolumns v]
  have htarget := (continues_tick hc window now).consistent.target_eq _ hmem
  have hended : (∃ s ∈ toEnd now c, s.group = v.group) ↔
      ∃ s ∈ c.sessions, s.group = v.group ∧ s.ended = false ∧ s.expiry < now := by
    simp only [toEnd, List.mem_filter, mem_activeSessions, isExpired_iff]
    grind
  rw [hcolumns v, htarget, hgroup]
  simp only [hended]

/-! ## The moment of an act -/

/-- Only a session that the stage that cleans up has read is deleted. -/
theorem mem_of_finalize {read : Session} (ht : .finalize read ∈ transactions window now c) :
    read ∈ (announced window now c).sessionsToClean := by
  rw [transactions, List.mem_append, List.mem_append, List.mem_append] at ht
  rcases ht with ht | ht | ht | ht
  · obtain ⟨_, -, ⟨-, hno⟩ | ⟨-, _, -, hno⟩⟩ := mem_expireAndWarnTransactions ht
    · cases hno
    · cases hno
  · obtain ⟨_, -, _, -, hno⟩ := mem_announceTransactions ht
    cases hno
  · obtain ⟨s, hs, hno | heq⟩ := mem_cleanTransactions ht
    · cases hno
    · rwa [Transaction.finalize.inj heq]
  · obtain ⟨_, -, hno⟩ := mem_readyTransactions ht
    cases hno

/-- Whatever of the transactions of a tick was run, the catalog goes on from the one in front of the tick. -/
theorem continues_transactions (hc : c.Consistent) (h : (tick window now c).aborted = false) :
    ∀ t ∈ transactions window now c, ∀ d, Catalog.Continues c d → Catalog.Continues c (t.run d) := by
  intro t ht d hd
  refine hd.run hc t ?_ ?_
  · rintro report time rfl
    obtain ⟨p, hp⟩ := exists_decides ht
    exact nomatch hp.byOthers_eq_false
  · rintro read rfl
    have hread := mem_of_finalize ht
    rw [sessionsToClean_announced hc h] at hread
    obtain ⟨s, hs, rfl⟩ := List.mem_map.mp hread
    refine ⟨s, List.mem_of_mem_filter hs, ?_⟩
    unfold endOrWarn
    split_ifs <;> exact ⟨rfl, rfl, rfl, rfl⟩

/-- Where the servers of a session are seen as it wants them, they are wanted so in each catalog that goes on
from it. -/
theorem settled_of_continues {d : Catalog} (h : Catalog.Continues c d) (hc : c.Consistent)
    (hs : s ∈ c.sessions) {x : Session} (hx : x ∈ d.sessions) (hid : x.id = s.id) {goal : Target}
    (hgoal : x.target = goal) (hseen : ∀ v ∈ c.servers, v.group = s.group → v.state = goal.state) :
    ∀ v ∈ d.servers, v.group = s.group → v.state = goal.state ∧ v.target = some goal := by
  have hgroup : x.group = s.group := h.follows.group_eq hc hs hx hid
  have hall : d.allSeen s.group goal = true := h.allSeen_eq.trans (Catalog.allSeen_iff.mpr hseen)
  intro v hv hg
  have hwanted := h.consistent.target_of_session hv hx (hgroup.trans hg.symm)
  exact ⟨Catalog.allSeen_iff.mp hall v hv hg, hgoal ▸ hwanted⟩

/-- **Who is deleted, was ended by then, and the servers of the group were seen off and wanted off.** -/
theorem exists_deletion (hc : c.Consistent) (h : (tick window now c).aborted = false) (hs : s ∈ c.sessions)
    (hdone : does window now c .deleted s = true) :
    ∃ e ∈ Journal.record c (transactions window now c), e.acts .deleted s.id = true ∧
      (∃ x ∈ e.met.sessions, x.id = s.id ∧ x.ended = true) ∧
      ∀ v ∈ e.met.servers, v.group = s.group → v.state = .off ∧ v.target = some .off := by
  have hgone : (Transaction.runAll (transactions window now c) c).row? s.id = none := by
    rw [← catalog_tick h, row?_tick hc h hs]
    exact Option.isNone_iff_eq_none.mp hdone
  obtain ⟨e, he, hacts, hcont⟩ := Journal.exists_acts_of_lost (Catalog.Continues c)
    (fun row => row.isSome = true)
    (fun t s hact _ => Transaction.isSome_onSession hact s) (fun d hd => hd.consistent)
    (continues_transactions hc h) (.refl hc) (hc.sessionIds_le s hs)
    (by rw [hc.row?_of_mem hs]; rfl) (by rw [hgone]; exact Bool.false_ne_true)
  obtain ⟨x, hx, hid, hact, hhit⟩ := Entry.exists_hit hcont.consistent hacts (by decide)
  have hended := Transaction.ended_of_hits hact hhit
  refine ⟨e, he, hacts, ⟨x, hx, hid, hended⟩, ?_⟩
  exact settled_of_continues hcont hc hs hx hid (if_pos hended) (does_iff.mp hdone).2

/-- **Who is told that the servers are on, lived by then, and the servers of the group were seen on and
wanted on.** -/
theorem exists_readiness (hc : c.Consistent) (h : (tick window now c).aborted = false) (hs : s ∈ c.sessions)
    (hdone : does window now c .toldReady s = true) :
    ∃ e ∈ Journal.record c (transactions window now c), e.acts .toldReady s.id = true ∧
      (∃ x ∈ e.met.sessions, x.id = s.id ∧ x.ended = false) ∧
      (∃ v ∈ e.met.servers, v.group = s.group) ∧
      ∀ v ∈ e.met.servers, v.group = s.group → v.state = .on ∧ v.target = some .on := by
  obtain ⟨-, -, hnot, hgroup, hon⟩ := does_iff.mp hdone
  have hraised : ¬∀ r, (Transaction.runAll (transactions window now c) c).row? s.id = some r →
      r.readyTold = false := by
    rw [← catalog_tick h, row?_tick hc h hs]
    rw [does, Act.made, Bool.and_eq_true, Option.any_eq_true] at hdone
    obtain ⟨-, r, hr, htold⟩ := hdone
    exact fun hall => Bool.false_ne_true ((hall r hr).symm.trans htold)
  obtain ⟨e, he, hacts, hcont⟩ := Journal.exists_acts_of_lost (Catalog.Continues c)
    (fun row => ∀ r, row = some r → r.readyTold = false)
    (fun t s hact hs => Transaction.readyTold_onSession hact (hs s rfl)) (fun d hd => hd.consistent)
    (continues_transactions hc h) (.refl hc) (hc.sessionIds_le s hs)
    (by rw [hc.row?_of_mem hs]; rintro r ⟨⟩; exact hnot) hraised
  obtain ⟨x, hx, hid, hact, hhit⟩ := Entry.exists_hit hcont.consistent hacts (by decide)
  have hlive := Transaction.live_of_hits hact hhit
  have htarget : x.target = .on := by
    rw [Session.target, hlive]
    rfl
  refine ⟨e, he, hacts, ⟨x, hx, hid, hlive⟩, ?_, settled_of_continues hcont hc hs hx hid htarget hon⟩
  exact Catalog.hasGroup_iff.mp (hcont.hasGroup_eq.trans (Catalog.hasGroup_iff.mpr hgroup))

/-! ## The whole tick -/

/-- Whether something was done to a session of the catalog that a tick began with. -/
def Progress.did (p : Progress) (a : Act) (s : Session) : Bool := a.made s (p.catalog.row? s.id)

/-- How a tick that came to its end compares to the catalog that it began with. -/
structure Exact (window : Duration) (now : Int) (c : Catalog) (p : Progress) : Prop where
  /-- Its transactions have led there. -/
  run_eq : p.catalog = Transaction.runAll (transactions window now c) c
  /-- No session is new, and each is of the lease that it was of. -/
  rows : ∀ s' ∈ p.catalog.sessions, ∃ s ∈ c.sessions, s.SameLease s'
  /-- What was done was due, and what was due was done. -/
  did_iff : ∀ s ∈ c.sessions, ∀ a, p.did a s = true ↔ Due window now c s a
  count_eq : ∀ a, p.report.count a = c.sessions.countP (p.did a)
  deletion : ∀ s ∈ c.sessions, p.did .deleted s = true →
    ∃ e ∈ Journal.record c (transactions window now c), e.acts .deleted s.id = true ∧
      (∃ x ∈ e.met.sessions, x.id = s.id ∧ x.ended = true) ∧
      ∀ v ∈ e.met.servers, v.group = s.group → v.state = .off ∧ v.target = some .off
  readiness : ∀ s ∈ c.sessions, p.did .toldReady s = true →
    ∃ e ∈ Journal.record c (transactions window now c), e.acts .toldReady s.id = true ∧
      (∃ x ∈ e.met.sessions, x.id = s.id ∧ x.ended = false) ∧
      (∃ v ∈ e.met.servers, v.group = s.group) ∧
      ∀ v ∈ e.met.servers, v.group = s.group → v.state = .on ∧ v.target = some .on
  /-- Each notice is for the user of its session, and named for what was done. -/
  queue : ∃ new, p.catalog.queue = c.queue ++ new ∧
    new.length = p.report.warned + p.report.announced + p.report.offTold + p.report.ready ∧
    new.map (fun n => (n.user, n.title)) =
      titlesOf (fun _ => .expiring) (c.activeSessions.filter (p.did .warned)) ++
      titlesOf (fun s => if (p.catalog.row? s.id).all Session.ended then .ended else .started)
        (c.sessions.filter (p.did .announced)) ++
      titlesOf (fun _ => .offline) (c.sessions.filter (p.did .toldOff)) ++
      titlesOf (fun _ => .online) (c.sessions.filter (p.did .toldReady))
  servers : p.catalog.servers = c.servers.map fun v =>
    { v with
      target := (p.catalog.sessionOf v.group).map Session.target
      lastOffAt := if ∃ s ∈ c.sessions, s.group = v.group ∧ p.did .ended s = true then some now
        else v.lastOffAt }

section

variable (hc : c.Consistent) (h : (tick window now c).aborted = false)
include hc h

theorem did_tick (hs : s ∈ c.sessions) (a : Act) :
    (tick window now c).did a s = does window now c a s := by
  rw [Progress.did, row?_tick hc h hs, does]

theorem filter_did (a : Act) :
    c.sessions.filter ((tick window now c).did a) = c.sessions.filter (does window now c a) :=
  List.filter_congr fun _ hs => did_tick hc h hs a

theorem filter_did_activeSessions (a : Act) :
    c.activeSessions.filter ((tick window now c).did a) =
      c.activeSessions.filter (does window now c a) :=
  List.filter_congr fun _ hs => did_tick hc h (mem_activeSessions.mp hs).1 a

/-- What is announced, told from the row that is left of the session. -/
theorem announcedAs_endOrWarn (hs : s ∈ c.sessions) : announcedAs (endOrWarn window now s) =
    if ((tick window now c).catalog.row? s.id).all Session.ended then .ended else .started := by
  rw [row?_tick hc h hs, announcedAs, ended_endOrWarn, fate]
  cases hover : s.ended || isExpired now s with
  | true => cases c.allSeen s.group .off <;> rfl
  | false =>
    rw [if_neg Bool.false_ne_true, if_neg Bool.false_ne_true, Option.all_some,
      (isOver_iff.mp hover).1]
    rfl

theorem exact_tick : Exact window now c (tick window now c) where
  run_eq := catalog_tick h
  rows := by
    intro s' hs'
    rw [sessions_tick hc h] at hs'
    obtain ⟨s, hs, hfate⟩ := List.mem_filterMap.mp hs'
    exact ⟨s, hs, sameLease_of_fate hfate⟩
  did_iff := fun s hs a => by rw [did_tick hc h hs, does_iff]
  count_eq := fun a => by
    rw [count_eq_does hc h, List.countP_eq_length_filter, List.countP_eq_length_filter, filter_did hc h]
  deletion := fun s hs hdone => exists_deletion hc h hs (did_tick hc h hs _ ▸ hdone)
  readiness := fun s hs hdone => exists_readiness hc h hs (did_tick hc h hs _ ▸ hdone)
  queue := by
    obtain ⟨new, hqueue, htitles⟩ := queue_tick hc h
    have hlength := length_titlesDue hc h
    rw [← htitles, List.length_map] at hlength
    refine ⟨new, hqueue, hlength, ?_⟩
    have hannounced : titlesOf (fun s => announcedAs (endOrWarn window now s))
        (c.sessions.filter (does window now c .announced)) =
          titlesOf (fun s => if ((tick window now c).catalog.row? s.id).all Session.ended then .ended
            else .started) (c.sessions.filter (does window now c .announced)) :=
      List.map_congr_left fun s hs => by
        simp only [announcedAs_endOrWarn hc h (List.mem_of_mem_filter hs)]
    rw [htitles, titlesDue, hannounced, filter_did_activeSessions hc h, filter_did hc h, filter_did hc h,
      filter_did hc h]
    simp only [List.append_assoc]
  servers := by
    rw [servers_tick hc h]
    refine List.map_congr_left fun v _ => ?_
    have hended : (∃ s ∈ c.sessions, s.group = v.group ∧ s.ended = false ∧ s.expiry < now) ↔
        ∃ s ∈ c.sessions, s.group = v.group ∧ (tick window now c).did .ended s = true := by
      refine exists_congr fun s => and_congr_right fun hs => and_congr_right fun _ => ?_
      rw [did_tick hc h hs, does_iff]
      rfl
    simp only [hended]

end

/-- **A tick does nothing that is not due, and its report is exact.** As long as no live session expires in the
year 10000 or later, a tick comes to its end, and then: what was done to each session is what was due; the
report counts it; a session was deleted, or its holder told that the servers are on, while the servers of the
group were seen so and wanted so; the queue goes on with the notices of it, each for the user of its session;
and servers differ in what is wanted of them, and in the time at which the end of a lease last wanted them
off. -/
theorem tick_exact {past : List Catalog} (hpast : Catalog.History (c :: past))
    (hexpiry : ∀ s ∈ c.sessions, s.ended = false → s.expiry < Calendar.endOfTime)
    (window : Duration) (now : Int) :
    (tick window now c).aborted = false ∧ Exact window now c (tick window now c) := by
  have hc := hpast.consistent
  have hdone := not_aborted_of_worded hc hexpiry window now
  exact ⟨hdone, exact_tick hc hdone⟩

/-- Of each act there is some in `busy`. -/
theorem tick_exact_busy :
    (tick (Duration.ofSeconds 900) 3000 busy).aborted = false ∧
      Exact (Duration.ofSeconds 900) 3000 busy (tick (Duration.ofSeconds 900) 3000 busy) := by
  obtain ⟨past, hpast⟩ := history_busy
  exact tick_exact hpast (by decide) _ _

end Lifecycle
end PowerLease
