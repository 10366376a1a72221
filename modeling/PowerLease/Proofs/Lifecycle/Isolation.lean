import PowerLease.Proofs.Interleaving.Topics
import PowerLease.Proofs.Lifecycle.Outcome

/-!
# Groups are of no account to each other

All groups share the tables of a catalog, and every stage of a tick walks through all of them. Still, what
a tick does to a group depends on nothing but the group: two catalogs that agree on it still agree on it
after a tick, and its holder is told the same in the same order (`tick_isolated`).

The two ticks are followed side by side, stage by stage. A stage reads a list of sessions; as far as the
group is concerned it is the same list in both (`AgreesOn.ofGroup_filter`), and the update that the stage
makes of it is the same update (`AgreesOn.flagAll`, `AgreesOn.endAll`, `AgreesOn.deleteAll`).
-/

namespace PowerLease

/-! ## Titles -/

namespace Topic

/-- All topics. -/
def all : List Topic := [started, expiring, online, ended, offline]

theorem mem_all (x : Topic) : x ∈ all := by
  cases x <;> decide

end Topic

/-- Whether a text is on a group, which its title names. -/
def NoticeText.isOn (group : String) (text : NoticeText) : Bool :=
  Topic.all.any fun x => text.title == x.title group

theorem NoticeText.isOn_of_title {text : NoticeText} {x : Topic} {g : String}
    (h : text.title = x.title g) (group : String) : text.isOn group = (g == group) := by
  rw [Bool.eq_iff_iff, isOn, List.any_eq_true, beq_iff_eq, h]
  constructor
  · rintro ⟨y, -, hy⟩
    exact (Topic.title_inj.mp (beq_iff_eq.mp hy)).1
  · rintro rfl
    exact ⟨x, x.mem_all, beq_self_eq_true _⟩

/-- Who is told, and what. -/
def Notice.content (n : Notice) : String × NoticeText := (n.user, { title := n.title, message := n.message })

namespace Catalog

variable {c c' d d' e e' : Catalog} {g : String} {l l' : List Session} {now : Int} {t : Target}
  {s : Session}

/-! ## What was queued -/

/-- What was queued on a group since a catalog. -/
def toldSince (group : String) (c d : Catalog) : List (String × NoticeText) :=
  ((d.queue.drop c.queue.length).map Notice.content).filter fun n => n.2.isOn group

/-- The queue of a catalog goes on with notices of some contents. -/
def Tells (c : Catalog) (contents : List (String × NoticeText)) (d : Catalog) : Prop :=
  ∃ new, d.queue = c.queue ++ new ∧ new.map Notice.content = contents

theorem Tells.trans {m n : List (String × NoticeText)} (h : c.Tells m d) (h' : d.Tells n e) :
    c.Tells (m ++ n) e := by
  obtain ⟨new, hqueue, rfl⟩ := h
  obtain ⟨more, hqueue', rfl⟩ := h'
  exact ⟨new ++ more, by rw [hqueue', hqueue, List.append_assoc], List.map_append⟩

theorem Tells.of_queue_eq {m : List (String × NoticeText)} (h : d.Tells m e) (hqueue : d.queue = c.queue) :
    c.Tells m e := by
  obtain ⟨new, hnew, hm⟩ := h
  exact ⟨new, hqueue ▸ hnew, hm⟩

theorem Tells.toldSince_eq {m : List (String × NoticeText)} (h : c.Tells m d) :
    toldSince g c d = m.filter fun n => n.2.isOn g := by
  obtain ⟨new, hqueue, rfl⟩ := h
  rw [toldSince, hqueue, List.drop_left]

theorem tells_enqueueAll (now : Int) (n : List (String × NoticeText)) (c : Catalog) :
    c.Tells n (c.enqueueAll now n) := by
  induction n generalizing c with
  | nil => exact ⟨[], (List.append_nil _).symm, rfl⟩
  | cons first rest ih =>
    have hfirst : c.Tells [first] (c.enqueue first.1 first.2.title first.2.message now).2 :=
      ⟨_, rfl, rfl⟩
    exact hfirst.trans (ih _)

/-! ## Catalogs that agree on a group -/

/-- Two catalogs know the same of a group: they have the same servers of it, and the same session or
none. -/
structure AgreesOn (group : String) (c c' : Catalog) : Prop where
  servers : ∀ v : Server, v.group = group → (v ∈ c.servers ↔ v ∈ c'.servers)
  session : c.sessionOf group = c'.sessionOf group

theorem agreesOn_iff : AgreesOn g c c' ↔
    (∀ v ∈ c.servers, v.group = g → v ∈ c'.servers) ∧
      (∀ v ∈ c'.servers, v.group = g → v ∈ c.servers) ∧ c.sessionOf g = c'.sessionOf g := by
  constructor
  · rintro ⟨hservers, hsession⟩
    exact ⟨fun v hv hg => (hservers v hg).mp hv, fun v hv hg => (hservers v hg).mpr hv, hsession⟩
  · rintro ⟨hto, hfrom, hsession⟩
    exact ⟨fun v hg => ⟨fun hv => hto v hv hg, fun hv => hfrom v hv hg⟩, hsession⟩

instance : Decidable (AgreesOn g c c') := decidable_of_iff' _ agreesOn_iff

/-- The sessions of a group in a list. -/
def ofGroup (group : String) (l : List Session) : List Session := l.filter fun s => s.group == group

theorem mem_ofGroup : s ∈ ofGroup g l ↔ s ∈ l ∧ s.group = g := by
  rw [ofGroup, List.mem_filter, beq_iff_eq]

/-- Where groups are not shared, a list has one session of a group at most. -/
theorem ofGroup_eq_toList (h : (l.map Session.group).Nodup) (g : String) :
    ofGroup g l = (l.find? fun s => s.group == g).toList := by
  induction l with
  | nil => rfl
  | cons s rest ih =>
    obtain ⟨hnot, hrest⟩ := List.nodup_cons.mp h
    rw [ofGroup, List.filter_cons, List.find?_cons]
    cases hs : s.group == g with
    | false => exact ih hrest
    | true =>
      have hnone : rest.filter (fun s => s.group == g) = [] := by
        refine List.filter_eq_nil_iff.mpr fun t ht htg => hnot ?_
        rw [beq_iff_eq.mp hs, ← beq_iff_eq.mp htg]
        exact List.mem_map_of_mem ht
      rw [if_pos rfl, hnone]
      rfl

theorem Consistent.ofGroup_filter (hc : c.Consistent) (g : String) (pick : Session → Bool) :
    ofGroup g (c.sessions.filter pick) = ((c.sessionOf g).filter pick).toList := by
  have hswap : ofGroup g (c.sessions.filter pick) = (ofGroup g c.sessions).filter pick := by
    simp only [ofGroup, List.filter_filter, Bool.and_comm]
  rw [hswap, ofGroup_eq_toList hc.groups, Option.toList_filter]
  rfl

/-- The order in which the live sessions of all groups are read is of no account. -/
theorem Consistent.ofGroup_active (hc : c.Consistent) (g : String) (pick : Session → Bool) :
    ofGroup g (c.activeSessions.filter pick) =
      ((c.sessionOf g).filter fun s => pick s && !s.ended).toList := by
  have hsorted : (ofGroup g (c.activeSessions.filter pick)).Perm
      (ofGroup g (c.sessions.filter fun s => pick s && !s.ended)) := by
    rw [← List.filter_filter]
    exact ((List.mergeSort_perm _ _).filter pick).filter _
  rw [hc.ofGroup_filter] at hsorted
  cases hone : (c.sessionOf g).filter fun s => pick s && !s.ended with
  | none => exact List.perm_nil.mp (by rwa [hone] at hsorted)
  | some s => exact List.perm_singleton.mp (by rwa [hone] at hsorted)

namespace AgreesOn

theorem isSettled (h : AgreesOn g c c') (t : Target) : c.isSettled g t = c'.isSettled g t := by
  rw [Bool.eq_iff_iff]
  simp only [Catalog.isSettled, serversOf, List.all_eq_true, List.mem_filter, beq_iff_eq, and_imp]
  constructor
  · exact fun hall v hv hg => hall v ((h.servers v hg).mpr hv) hg
  · exact fun hall v hv hg => hall v ((h.servers v hg).mp hv) hg

theorem hasGroup (h : AgreesOn g c c') : c.hasGroup g = c'.hasGroup g := by
  rw [Bool.eq_iff_iff, hasGroup_iff, hasGroup_iff]
  constructor
  · exact fun ⟨v, hv, hg⟩ => ⟨v, (h.servers v hg).mp hv, hg⟩
  · exact fun ⟨v, hv, hg⟩ => ⟨v, (h.servers v hg).mpr hv, hg⟩

/-! ### Readings -/

/-- Of the group, both read the same session, if they judge it by the same. -/
theorem ofGroup_filter (h : AgreesOn g c c') (hc : c.Consistent) (hc' : c'.Consistent)
    {pick pick' : Session → Bool} (hpick : ∀ s, s.group = g → pick s = pick' s) :
    ofGroup g (c.sessions.filter pick) = ofGroup g (c'.sessions.filter pick') := by
  rw [hc.ofGroup_filter, hc'.ofGroup_filter, ← h.session]
  cases hsession : c.sessionOf g with
  | none => rfl
  | some s => simp only [Option.filter_some, hpick s (sessionOf_eq_some hsession).2]

theorem ofGroup_active (h : AgreesOn g c c') (hc : c.Consistent) (hc' : c'.Consistent)
    (pick : Session → Bool) :
    ofGroup g (c.activeSessions.filter pick) = ofGroup g (c'.activeSessions.filter pick) := by
  rw [hc.ofGroup_active, hc'.ofGroup_active, h.session]

theorem sessionsToAnnounce (h : AgreesOn g c c') (hc : c.Consistent) (hc' : c'.Consistent) :
    ofGroup g c.sessionsToAnnounce = ofGroup g c'.sessionsToAnnounce :=
  h.ofGroup_filter hc hc' fun _ _ => rfl

theorem sessionsToClean (h : AgreesOn g c c') (hc : c.Consistent) (hc' : c'.Consistent) :
    ofGroup g c.sessionsToClean = ofGroup g c'.sessionsToClean := by
  refine h.ofGroup_filter hc hc' fun s hg => ?_
  rw [hg, h.isSettled]

theorem sessionsReady (h : AgreesOn g c c') (hc : c.Consistent) (hc' : c'.Consistent) :
    ofGroup g c.sessionsReady = ofGroup g c'.sessionsReady := by
  refine h.ofGroup_filter hc hc' fun s hg => ?_
  rw [hg, h.hasGroup, h.isSettled]

/-! ### Updates -/

theorem mem_iff (hl : ofGroup g l = ofGroup g l') (hs : s.group = g) : s ∈ l ↔ s ∈ l' := by
  have hmem : s ∈ ofGroup g l ↔ s ∈ ofGroup g l' := by rw [hl]
  rwa [mem_ofGroup, mem_ofGroup, and_iff_left hs, and_iff_left hs] at hmem

theorem exists_iff (hl : ofGroup g l = ofGroup g l') :
    (∃ s ∈ l, s.group = g) ↔ ∃ s ∈ l', s.group = g :=
  exists_congr fun _ => and_congr_left fun hs => mem_iff hl hs

/-- A change of each session by itself, which keeps its group. -/
theorem sessionOf_map {f f' : Session → Session} (h : c.sessionOf g = c'.sessionOf g)
    (hf : ∀ s, (f s).group = s.group) (hf' : ∀ s, (f' s).group = s.group)
    (hsame : ∀ s, s.group = g → f s = f' s) :
    (c.sessions.map f).find? (fun s => s.group == g) =
      (c'.sessions.map f').find? fun s => s.group == g := by
  rw [find?_map_group hf, find?_map_group hf']
  show (c.sessionOf g).map f = (c'.sessionOf g).map f'
  rw [← h]
  cases hsession : c.sessionOf g with
  | none => rfl
  | some s => simp only [Option.map_some, hsame s (sessionOf_eq_some hsession).2]

/-- A change of each server by itself, which keeps its group. -/
theorem mem_map_iff {f f' : Server → Server} (h : AgreesOn g c c')
    (hf : ∀ v, (f v).group = v.group) (hf' : ∀ v, (f' v).group = v.group)
    (hsame : ∀ v, v.group = g → f v = f' v) (w : Server) (hw : w.group = g) :
    w ∈ c.servers.map f ↔ w ∈ c'.servers.map f' := by
  simp only [List.mem_map]
  constructor
  · rintro ⟨v, hv, rfl⟩
    have hg : v.group = g := (hf v).symm.trans hw
    exact ⟨v, (h.servers v hg).mp hv, (hsame v hg).symm⟩
  · rintro ⟨v, hv, rfl⟩
    have hg : v.group = g := (hf' v).symm.trans hw
    exact ⟨v, (h.servers v hg).mpr hv, hsame v hg⟩

theorem flagAll (h : AgreesOn g c c') (hl : ofGroup g l = ofGroup g l') {flag : Session → Session}
    (hflag : ∀ s, (flag s).group = s.group) : AgreesOn g (c.flagAll l flag) (c'.flagAll l' flag) where
  servers := h.servers
  session := by
    have hkeeps : ∀ (k : List Session) (s : Session), (if s ∈ k then flag s else s).group = s.group := by
      intro k s
      split
      · exact hflag s
      · rfl
    refine sessionOf_map h.session (hkeeps l) (hkeeps l') fun s hs => ?_
    simp only [mem_iff hl hs]

theorem endAll (h : AgreesOn g c c') (hl : ofGroup g l = ofGroup g l') (now : Int) :
    AgreesOn g (c.endAll l now) (c'.endAll l' now) where
  servers := by
    refine h.mem_map_iff (fun v => ?_) (fun v => ?_) fun v hv => ?_
    · split <;> rfl
    · split <;> rfl
    · simp only [hv, exists_iff hl]
  session := by
    refine sessionOf_map h.session (fun s => ?_) (fun s => ?_) fun s hs => ?_
    · split <;> rfl
    · split <;> rfl
    · simp only [mem_iff hl hs]

end AgreesOn

/-- Of a group whose session is in the list, nothing is left. -/
theorem Consistent.sessionOf_deleteAll (hc : c.Consistent) (hl : ∀ r ∈ l, r ∈ c.sessions)
    (g : String) : (c.deleteAll l).sessionOf g = (c.sessionOf g).filter fun s => s ∉ l := by
  have hid : ∀ s ∈ c.sessions, s.id ∈ l.map Session.id ↔ s ∈ l := by
    intro s hs
    constructor
    · intro hmem
      obtain ⟨r, hr, hrs⟩ := List.mem_map.mp hmem
      rwa [← hc.session_eq_of_id (hl r hr) hs hrs]
    · exact fun hs => List.mem_map_of_mem hs
  have hkept : (c.deleteAll l).sessions = c.sessions.filter fun s => s ∉ l :=
    List.filter_congr fun s hs => by simp only [hid s hs]
  have hgroups : ((c.deleteAll l).sessions.map Session.group).Nodup :=
    hc.groups.sublist (List.filter_sublist.map _)
  have hlists := hc.ofGroup_filter g fun s => s ∉ l
  rw [← hkept, ofGroup_eq_toList hgroups] at hlists
  have hheads := congrArg List.head? hlists
  rwa [Option.head?_toList, Option.head?_toList] at hheads

theorem AgreesOn.deleteAll (h : AgreesOn g c c') (hc : c.Consistent) (hc' : c'.Consistent)
    (hread : ∀ r ∈ l, r ∈ c.sessions) (hread' : ∀ r ∈ l', r ∈ c'.sessions)
    (hl : ofGroup g l = ofGroup g l') : AgreesOn g (c.deleteAll l) (c'.deleteAll l') where
  servers := by
    refine h.mem_map_iff (fun v => ?_) (fun v => ?_) fun v hv => ?_
    · split <;> rfl
    · split <;> rfl
    · simp only [hv, exists_iff hl]
  session := by
    rw [hc.sessionOf_deleteAll hread, hc'.sessionOf_deleteAll hread', ← h.session]
    cases hsession : c.sessionOf g with
    | none => rfl
    | some s => simp only [Option.filter_some, mem_iff hl (sessionOf_eq_some hsession).2]

/-! ## Steps that are alike for a group -/

/-- Two steps, from `c` to `d` and from `c'` to `d'`, do the same to a group and tell its holder the
same. -/
structure Alike (group : String) (c d c' d' : Catalog) : Prop where
  agrees : AgreesOn group d d'
  told : ∃ m m', c.Tells m d ∧ c'.Tells m' d' ∧
    (m.filter fun n => n.2.isOn group) = m'.filter fun n => n.2.isOn group

theorem Alike.trans (h : Alike g c d c' d') (h' : Alike g d e d' e') : Alike g c e c' e' where
  agrees := h'.agrees
  told := by
    obtain ⟨m, m', hm, hm', hsame⟩ := h.told
    obtain ⟨n, n', hn, hn', hsame'⟩ := h'.told
    refine ⟨m ++ n, m' ++ n', hm.trans hn, hm'.trans hn', ?_⟩
    rw [List.filter_append, List.filter_append, hsame, hsame']

theorem Alike.toldSince_eq (h : Alike g c d c' d') : toldSince g c d = toldSince g c' d' := by
  obtain ⟨m, m', hm, hm', hsame⟩ := h.told
  rw [hm.toldSince_eq, hm'.toldSince_eq, hsame]

end Catalog

namespace Lifecycle

variable {c c' d d' : Catalog} {p p' : Progress} {g : String} {l l' : List Session} {now : Int}
  {window : Duration} {r : Session} {text : NoticeText}

/-! ## Who is told by a stage -/

theorem title_warning? (h : warning? r = some text) : text.title = Topic.expiring.title r.group := by
  obtain ⟨time, -, rfl⟩ := Option.map_eq_some_iff.mp h
  rfl

theorem title_announcement? (h : announcement? r = some text) :
    ∃ x : Topic, text.title = x.title r.group := by
  unfold announcement? at h
  split at h
  · rw [← Option.some.inj h]
    exact ⟨.ended, rfl⟩
  · obtain ⟨time, -, rfl⟩ := Option.map_eq_some_iff.mp h
    exact ⟨.started, rfl⟩

theorem title_offNotice? (h : offNotice? r = some text) :
    text.title = Topic.offline.title r.group := by
  unfold offNotice? at h
  split at h
  · exact nomatch h
  · rw [← Option.some.inj h]
    rfl

/-- The notices on a group are those on its sessions. -/
theorem filter_forUsers {text? : Session → Option NoticeText}
    (htitle : ∀ r text, text? r = some text → ∃ x : Topic, text.title = x.title r.group)
    (g : String) (l : List Session) :
    (forUsers (tellings text? l)).filter (fun n => n.2.isOn g) =
      forUsers (tellings text? (Catalog.ofGroup g l)) := by
  induction l with
  | nil => rfl
  | cons r rest ih =>
    have hr : ((text? r).toList.map (Prod.mk r.user)).filter (fun n => n.2.isOn g) =
        if r.group == g then (text? r).toList.map (Prod.mk r.user) else [] := by
      cases htext : text? r with
      | none => simp
      | some text =>
        obtain ⟨x, hx⟩ := htitle r text htext
        simp only [Option.toList_some, List.map_cons, List.map_nil, List.filter_cons, List.filter_nil,
          NoticeText.isOn_of_title hx]
    have hcons : Catalog.ofGroup g (r :: rest) =
        if r.group == g then r :: Catalog.ofGroup g rest else Catalog.ofGroup g rest :=
      List.filter_cons
    rw [forUsers_tellings_cons, List.filter_append, ih, hr, hcons]
    cases r.group == g with
    | false => rfl
    | true => rw [if_pos rfl, if_pos rfl, forUsers_tellings_cons]

/-- Stages that agree on a group before they tell, and tell on the same sessions of it, are alike. -/
theorem alike_enqueueAll {text? : Session → Option NoticeText} (h : Catalog.AgreesOn g d d')
    (htitle : ∀ r text, text? r = some text → ∃ x : Topic, text.title = x.title r.group)
    (hl : Catalog.ofGroup g l = Catalog.ofGroup g l') (hqueue : d.queue = c.queue)
    (hqueue' : d'.queue = c'.queue) :
    Catalog.Alike g c (d.enqueueAll now (forUsers (tellings text? l)))
      c' (d'.enqueueAll now (forUsers (tellings text? l'))) where
  agrees := by
    refine ⟨fun v hv => ?_, ?_⟩
    · rw [Catalog.servers_enqueueAll, Catalog.servers_enqueueAll]
      exact h.servers v hv
    · simp only [Catalog.sessionOf, Catalog.sessions_enqueueAll]
      exact h.session
  told := by
    refine ⟨forUsers (tellings text? l), forUsers (tellings text? l'), ?_, ?_, ?_⟩
    · exact (Catalog.tells_enqueueAll now _ d).of_queue_eq hqueue
    · exact (Catalog.tells_enqueueAll now _ d').of_queue_eq hqueue'
    · rw [filter_forUsers htitle, filter_forUsers htitle, hl]

/-! ## The stages side by side -/

section

variable (h : Catalog.AgreesOn g p.catalog p'.catalog) (hc : p.catalog.Consistent)
  (hc' : p'.catalog.Consistent)
include h hc hc'

theorem alike_expireAndWarn (hdone : (expireAndWarn window now p).aborted = false)
    (hdone' : (expireAndWarn window now p').aborted = false) :
    Catalog.Alike g p.catalog (expireAndWarn window now p).catalog
      p'.catalog (expireAndWarn window now p').catalog := by
  rw [catalog_expireAndWarn hc hdone, catalog_expireAndWarn hc' hdone']
  have hwarned := h.ofGroup_active hc hc' (isAging window now)
  refine alike_enqueueAll ?_ (fun r text ht => ⟨_, title_warning? ht⟩) hwarned rfl rfl
  exact (h.endAll (h.ofGroup_active hc hc' (isExpired now)) now).flagAll hwarned fun _ => rfl

theorem alike_announceAll (hdone : (announceAll now p).aborted = false)
    (hdone' : (announceAll now p').aborted = false) :
    Catalog.Alike g p.catalog (announceAll now p).catalog p'.catalog (announceAll now p').catalog := by
  rw [catalog_announceAll hc.sessionIds_nodup hdone, catalog_announceAll hc'.sessionIds_nodup hdone']
  have hread := h.sessionsToAnnounce hc hc'
  exact alike_enqueueAll (h.flagAll hread fun _ => rfl) (fun _ _ => title_announcement?) hread rfl rfl

theorem alike_cleanAll (hp : p.aborted = false) (hp' : p'.aborted = false) (now : Int) :
    Catalog.Alike g p.catalog (cleanAll now p).catalog p'.catalog (cleanAll now p').catalog := by
  rw [catalog_cleanAll hc.sessionIds_nodup hp, catalog_cleanAll hc'.sessionIds_nodup hp']
  have hread := h.sessionsToClean hc hc'
  refine alike_enqueueAll ?_ (fun r text ht => ⟨_, title_offNotice? ht⟩) hread rfl rfl
  exact h.deleteAll hc hc' (fun r hr => List.mem_of_mem_filter hr)
    (fun r hr => List.mem_of_mem_filter hr) hread

theorem alike_tellAllReady (hp : p.aborted = false) (hp' : p'.aborted = false) (now : Int) :
    Catalog.Alike g p.catalog (tellAllReady now p).catalog p'.catalog (tellAllReady now p').catalog := by
  rw [catalog_tellAllReady hc.sessionIds_nodup hp, catalog_tellAllReady hc'.sessionIds_nodup hp']
  have hread := h.sessionsReady hc hc'
  refine alike_enqueueAll (h.flagAll hread fun _ => rfl) (fun r text ht => ?_) hread rfl rfl
  exact ⟨.online, (congrArg NoticeText.title (Option.some.inj ht)).symm⟩

end

theorem alike_tick (h : Catalog.AgreesOn g c c') (hc : c.Consistent) (hc' : c'.Consistent)
    (hdone : (tick window now c).aborted = false) (hdone' : (tick window now c').aborted = false) :
    Catalog.Alike g c (tick window now c).catalog c' (tick window now c').catalog := by
  obtain ⟨h1, h2⟩ := not_aborted_of_tick hdone
  obtain ⟨h1', h2'⟩ := not_aborted_of_tick hdone'
  have hc1 := (continues_expireAndWarn (p := { catalog := c }) hc window now).consistent
  have hc1' := (continues_expireAndWarn (p := { catalog := c' }) hc' window now).consistent
  have hc2 := (continues_announceAll hc1 now).consistent
  have hc2' := (continues_announceAll hc1' now).consistent
  have hc3 := (continues_cleanAll hc2 now).consistent
  have hc3' := (continues_cleanAll hc2' now).consistent
  have hwarned : Catalog.Alike g c (expireAndWarn window now { catalog := c }).catalog
      c' (expireAndWarn window now { catalog := c' }).catalog :=
    alike_expireAndWarn h hc hc' h1 h1'
  have hannounced := hwarned.trans (alike_announceAll hwarned.agrees hc1 hc1' h2 h2')
  have hcleaned := hannounced.trans (alike_cleanAll hannounced.agrees hc2 hc2' h2 h2' now)
  refine hcleaned.trans (alike_tellAllReady hcleaned.agrees hc3 hc3' ?_ ?_ now)
  · rwa [aborted_cleanAll]
  · rwa [aborted_cleanAll]

/-- **A tick keeps groups apart.** Two catalogs that agree on a group may differ in all other groups as
they like, in servers, leases and flags. As long as no live session of theirs expires in the year 10000
or later, neither tick aborts, they agree on the group afterwards as well, and its holder is told the
same in the same order. -/
theorem tick_isolated {past past' : List Catalog} (hpast : Catalog.History (c :: past))
    (hpast' : Catalog.History (c' :: past')) (h : Catalog.AgreesOn g c c')
    (hexpiry : ∀ s ∈ c.sessions, s.ended = false → s.expiry < Calendar.endOfTime)
    (hexpiry' : ∀ s ∈ c'.sessions, s.ended = false → s.expiry < Calendar.endOfTime)
    (window : Duration) (now : Int) :
    (tick window now c).aborted = false ∧ (tick window now c').aborted = false ∧
      Catalog.AgreesOn g (tick window now c).catalog (tick window now c').catalog ∧
      Catalog.toldSince g c (tick window now c).catalog =
        Catalog.toldSince g c' (tick window now c').catalog := by
  have hdone : ∀ {b : Catalog}, b.Consistent →
      (∀ s ∈ b.sessions, s.ended = false → s.expiry < Calendar.endOfTime) →
      (tick window now b).aborted = false := by
    intro b hb hbefore
    rw [← Bool.not_eq_true, aborted_tick_iff hb]
    rintro ⟨s, hs, hlive, -, hlate, -⟩
    exact absurd hlate (Int.not_le.mpr (hbefore s hs hlive))
  have hc := hdone hpast.consistent hexpiry
  have hc' := hdone hpast'.consistent hexpiry'
  have halike : Catalog.Alike g c (tick window now c).catalog c' (tick window now c').catalog :=
    alike_tick h hpast.consistent hpast'.consistent hc hc'
  exact ⟨hc, hc', halike.agrees, halike.toldSince_eq⟩

/-- The lease of `leased`, and beside it one of another group, which was given back. -/
def leasedBesideDev : Catalog :=
  (Transaction.endSession "dev" 20).run <|
    (Transaction.openSession ⟨"other", "u2", "u2@example.com", "dev", 7200⟩ 10).run <|
    (Transaction.openSession ⟨"digest", "u1", "u1@example.com", "QA", 3600⟩ 0).run <|
    (Transaction.sync [⟨"i-1", "web", "QA", .off⟩, ⟨"i-2", "db", "dev", .off⟩] 0).run .empty

/-- While the other lease is cleaned up, `QA` is warned and announced all the same. -/
theorem tick_isolated_neighbourGone :
    (tick (Duration.ofSeconds 900) 3000 leased).aborted = false ∧
      (tick (Duration.ofSeconds 900) 3000 leasedBesideDev).aborted = false ∧
      Catalog.AgreesOn "QA" (tick (Duration.ofSeconds 900) 3000 leased).catalog
        (tick (Duration.ofSeconds 900) 3000 leasedBesideDev).catalog ∧
      Catalog.toldSince "QA" leased (tick (Duration.ofSeconds 900) 3000 leased).catalog =
        Catalog.toldSince "QA" leasedBesideDev
          (tick (Duration.ofSeconds 900) 3000 leasedBesideDev).catalog := by
  have hpast : ∃ past, Catalog.History (leased :: past) := ⟨_, .next _ (.next _ .start nofun) nofun⟩
  have hpast' : ∃ past, Catalog.History (leasedBesideDev :: past) :=
    ⟨_, .next _ (.next _ (.next _ (.next _ .start nofun) nofun) nofun) nofun⟩
  obtain ⟨_, hpast⟩ := hpast
  obtain ⟨_, hpast'⟩ := hpast'
  exact tick_isolated hpast hpast' (by decide) (by decide) (by decide) _ _

example : (Catalog.toldSince "QA" leasedBesideDev
    (tick (Duration.ofSeconds 900) 3000 leasedBesideDev).catalog).map (fun n => n.2.title) =
      ["Server group QA expiring soon", "Server group QA session started"] := by
  decide +kernel

end Lifecycle
end PowerLease
