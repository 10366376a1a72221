import Mathlib.Data.List.Induction
import PowerLease.Proofs.Interleaving.Acts

/-!
# What a holder is told, in order

The notices of a session are about few topics: it has started, it expires soon, its servers are on, it has
ended, its servers are off. Which of them may be told after which others is a rule of its own
(`Topic.MayFollow`), and a list of topics that keeps to it is in order (`Topic.InOrder`).

An interleaving keeps to the rule if its writes are *prompt*: what is announced is still true, and nobody is
told that servers are on or off, or cleaned up after, while something is to be announced. Then the flags of
a session say at any time what its holder was told (`Session.Told`), and the deletion of a session leaves
none of it out.
-/

namespace PowerLease

/-- What a notice is about. -/
inductive Topic where
  | started
  | expiring
  | online
  | ended
  | offline
deriving DecidableEq, Repr

namespace Topic

/-- The title of a notice to the holder of a group. -/
def title (group : String) : Topic → String
  | started => s!"Server group {group} session started"
  | expiring => s!"Server group {group} expiring soon"
  | online => s!"Server group {group} online"
  | ended => s!"Server group {group} session ended"
  | offline => s!"Server group {group} offline"

/-- What follows the group in a title. -/
def words : Topic → String
  | started => " session started"
  | expiring => " expiring soon"
  | online => " online"
  | ended => " session ended"
  | offline => " offline"

theorem title_eq (group : String) (x : Topic) :
    x.title group = "Server group " ++ group ++ x.words := by
  cases x <;> rfl

/-- The words of one topic are not the end of those of another. -/
theorem eq_of_isSuffix {x y : Topic} (h : x.words.toList <:+ y.words.toList) : x = y := by
  cases x <;> cases y <;> first | rfl | exact absurd h (by decide)

/-- A title names one group and one topic. -/
theorem title_inj {g g' : String} {x y : Topic} : x.title g = y.title g' ↔ g = g' ∧ x = y := by
  constructor
  · intro h
    have hchars := congrArg String.toList h
    simp only [title_eq, String.toList_append] at hchars
    have hxy : x = y := by
      have hx : x.words.toList <:+ "Server group ".toList ++ g'.toList ++ y.words.toList :=
        hchars ▸ List.suffix_append ..
      rcases List.suffix_or_suffix_of_suffix hx (List.suffix_append ..) with h | h
      · exact eq_of_isSuffix h
      · exact (eq_of_isSuffix h).symm
    subst hxy
    rw [List.append_left_inj, List.append_right_inj] at hchars
    exact ⟨String.toList_inj.mp hchars, rfl⟩
  · rintro ⟨rfl, rfl⟩
    rfl

/-- Whether a topic may be told after what was told before. After its end, a session has nothing to tell
but that its servers are off; that they are on is told after the start. -/
def MayFollow (told : List Topic) : Topic → Prop
  | started => .started ∉ told ∧ .ended ∉ told
  | expiring => .ended ∉ told
  | online => .online ∉ told ∧ .ended ∉ told ∧ .started ∈ told
  | ended => .ended ∉ told
  | offline => .offline ∉ told ∧ .ended ∈ told

variable {told : List Topic} {x : Topic}

/-- Only a warning is repeated. -/
theorem MayFollow.notMem (h : x.MayFollow told) (hx : x ≠ .expiring) : x ∉ told := by
  cases x with
  | started | online | offline => exact h.1
  | ended => exact h
  | expiring => exact absurd rfl hx

theorem MayFollow.eq_offline (h : x.MayFollow told) (hended : .ended ∈ told) : x = .offline := by
  cases x with
  | started => exact absurd hended h.2
  | online => exact absurd hended h.2.1
  | expiring | ended => exact absurd hended h
  | offline => rfl

/-- Each topic may follow those before it. -/
def InOrder (topics : List Topic) : Prop :=
  ∀ told x later, topics = told ++ x :: later → x.MayFollow told

namespace InOrder

variable {topics later : List Topic}

theorem nil : InOrder [] := fun _ _ _ h => absurd h (by simp)

theorem concat (h : InOrder topics) (hx : x.MayFollow topics) : InOrder (topics ++ [x]) := by
  intro told y later he
  rcases List.eq_nil_or_concat later with rfl | ⟨rest, z, rfl⟩
  · obtain ⟨rfl, hy⟩ := List.append_inj' he rfl
    rwa [← List.singleton_inj.mp hy]
  · rw [List.concat_eq_append, ← List.cons_append, ← List.append_assoc] at he
    obtain ⟨rfl, -⟩ := List.append_inj' he rfl
    exact h told y rest rfl

theorem of_concat (h : InOrder (topics ++ [x])) : InOrder topics ∧ x.MayFollow topics := by
  refine ⟨fun told y later he => ?_, h topics x [] rfl⟩
  exact h told y (later ++ [x]) (by rw [he, List.append_assoc, List.cons_append])

/-- All topics but the warning are told once at most. -/
theorem count_le_one (h : InOrder topics) (hx : x ≠ .expiring) : topics.count x ≤ 1 := by
  induction topics using List.reverseRecOn with
  | nil => exact Nat.zero_le 1
  | append_singleton told y ih =>
    obtain ⟨htold, hy⟩ := h.of_concat
    rw [List.count_append, List.count_singleton]
    split
    next hyx =>
      obtain rfl := beq_iff_eq.mp hyx
      have hfirst : told.count y = 0 := List.count_eq_zero.mpr (hy.notMem hx)
      exact Nat.le_of_eq (congrArg (· + 1) hfirst)
    next => exact ih htold

theorem count_eq_ite (h : InOrder topics) (hx : x ≠ .expiring) :
    topics.count x = if x ∈ topics then 1 else 0 := by
  split
  next hmem => exact Nat.le_antisymm (h.count_le_one hx) (List.count_pos_iff.mpr hmem)
  next hnot => exact List.count_eq_zero.mpr hnot

theorem eq_offline_of_ended (h : InOrder topics) (he : topics = told ++ .ended :: later) :
    ∀ x ∈ later, x = .offline := by
  intro x hx
  obtain ⟨between, rest, rfl⟩ := List.append_of_mem hx
  rw [← List.cons_append, ← List.append_assoc] at he
  exact (h _ x rest he).eq_offline (List.mem_append_right _ List.mem_cons_self)

theorem eq_nil_of_offline (h : InOrder topics) (he : topics = told ++ .offline :: later) :
    later = [] := by
  cases later with
  | nil => rfl
  | cons x rest =>
    -- the end was told before, so only the same once more could follow
    have hended : .ended ∈ told := (h told _ _ he).2
    rw [List.append_cons] at he
    have hx := h _ x rest he
    obtain rfl := hx.eq_offline (List.mem_append_left _ hended)
    exact absurd (List.mem_append_right _ List.mem_cons_self) hx.1

end InOrder

end Topic

/-! ## Topics of transactions -/

/-- What a transaction tells the holder of a session. -/
def Transaction.topic? : Transaction → Option Topic
  | markWarned .. => some .expiring
  | markAnnounced read .. => some (if read.ended then .ended else .started)
  | markOff .. => some .offline
  | markReady .. => some .online
  | sync .. | openSession .. | extendSession .. | endSession .. | endByToken .. | finalize _
  | enqueue .. | purge | deleteNotice _ | setSetting _ | deleteSetting _ => none

/-- What an entry has told the holder of the session of an id. -/
def Entry.topic? (id : Nat) (e : Entry) : Option Topic :=
  if (e.did.subject e.met).any fun s => s.id == id then e.did.topic? else none

/-- What the holder of the session of an id was told, the first of it in front. -/
def Journal.topics (journal : Journal) (id : Nat) : List Topic :=
  (journal.filterMap (Entry.topic? id)).reverse

variable {journal : Journal} {c c' : Catalog} {e : Entry} {t : Transaction} {s s' : Session}
  {topics : List Topic} {id : Nat}

theorem Journal.topics_cons :
    Journal.topics (e :: journal) id = journal.topics id ++ (e.topic? id).toList :=
  reverse_filterMap_cons ..

theorem Journal.topics_append (since before : Journal) (id : Nat) :
    Journal.topics (since ++ before) id = before.topics id ++ since.topics id := by
  rw [topics, List.filterMap_append, List.reverse_append]
  rfl

theorem Journal.mem_topics {x : Topic} : x ∈ journal.topics id ↔
    ∃ e ∈ journal, e.topic? id = some x := by
  rw [topics, List.mem_reverse, List.mem_filterMap]

/-- That a session has started or ended is told by an announcement of it. -/
theorem Entry.exists_of_announced {x : Topic} (h : e.topic? id = some x)
    (hx : x = .started ∨ x = .ended) : ∃ read text now, e.did = .markAnnounced read text now ∧
      read.id = id ∧ x = if read.ended then .ended else .started := by
  obtain ⟨c, t⟩ := e
  rw [topic?] at h
  split at h
  next hsubject =>
    obtain ⟨r, hr, hid⟩ := Option.any_eq_true _ _ |>.mp hsubject
    cases t with
    | markAnnounced read text now =>
      rw [Transaction.subject] at hr
      split at hr
      · obtain rfl := Option.some.inj hr
        exact ⟨read, text, now, rfl, beq_iff_eq.mp hid, (Option.some.inj h).symm⟩
      · cases hr
    | markWarned | markOff | markReady =>
      cases h
      rcases hx with hx | hx <;> cases hx
    | _ => cases h
  next => cases h

theorem Entry.topic?_eq (hc : c.Consistent) (hs : s ∈ c.sessions) :
    Entry.topic? s.id ⟨c, t⟩ = if t.hits s then t.topic? else none := by
  rw [Entry.topic?]
  refine if_congr ?_ rfl rfl
  rw [← t.subject_iff hc hs]
  simp only [Option.any_eq_true, beq_iff_eq]

/-- The holder of a session that is not there is not told anything. -/
theorem Entry.topic?_of_gone (hgone : ∀ s ∈ c.sessions, s.id ≠ id) :
    Entry.topic? id ⟨c, t⟩ = none := by
  rw [Entry.topic?]
  split
  next hsubject =>
    obtain ⟨r, hr, hid⟩ := Option.any_eq_true _ _ |>.mp hsubject
    rcases Transaction.exists_of_subject hr with ⟨s, hs, hsid⟩ | ⟨hopened, -⟩
    · exact absurd (hsid.trans (beq_iff_eq.mp hid)) (hgone s hs)
    · cases t with
      | openSession => rfl
      | _ => exact nomatch hopened
  next => rfl

/-- Of one topic there are as many as there are transactions of its act. -/
theorem Journal.count_expiring (journal : Journal) (id : Nat) :
    (journal.topics id).count .expiring = journal.times .warned id := by
  induction journal with
  | nil => rfl
  | cons e rest ih =>
    rw [topics_cons, List.count_append, ih, times_cons]
    congr 1
    obtain ⟨d, t⟩ := e
    rw [Entry.topic?, Entry.acts]
    cases hsubject : (t.subject d).any fun s => s.id == id with
    | false => rw [if_neg Bool.false_ne_true, Bool.and_false]; rfl
    | true =>
      rw [if_pos rfl, Bool.and_true]
      cases t with
      | markAnnounced read =>
        rw [Transaction.topic?]
        cases read.ended <;> rfl
      | _ => rfl

/-! ## What the flags of a session say -/

/-- What the holder of a session was told, as the flags have it. -/
structure Session.Told (s : Session) (topics : List Topic) : Prop where
  inOrder : Topic.InOrder topics
  started : s.ended = false → (.started ∈ topics ↔ s.unannounced = false)
  online : .online ∈ topics ↔ s.readyTold = true
  ended : .ended ∈ topics ↔ s.ended = true ∧ s.unannounced = false
  offline : .offline ∈ topics ↔ s.offTold = true

/-- Whether an entry is prompt. An announcement finds the session as live, or as ended, as it was read; and
whoever tells of servers, or deletes, finds all announced. -/
def Entry.Prompt (e : Entry) : Prop :=
  match e.did with
  | .markAnnounced read .. => ∀ s ∈ e.met.sessions, s.id = read.id → s.ended = read.ended
  | .markOff .. | .markReady .. | .finalize _ => ∀ s ∈ e.met.sessions, s.unannounced = false
  | _ => True

theorem LeaseRequest.told_session (request : LeaseRequest) (id : Nat) :
    (request.session id).Told [] := by
  refine ⟨.nil, fun _ => ?_, ?_, ?_, ?_⟩ <;> simp [LeaseRequest.session]

namespace Session.Told

/-- A session that is told something more. -/
theorem concat {x : Topic} (h : s.Told topics) (hx : x.MayFollow topics)
    (hstarted : s'.ended = false → (.started ∈ topics ∨ .started = x ↔ s'.unannounced = false))
    (honline : s.readyTold = true ∨ .online = x ↔ s'.readyTold = true)
    (hended : (s.ended = true ∧ s.unannounced = false) ∨ .ended = x ↔
      s'.ended = true ∧ s'.unannounced = false)
    (hoffline : s.offTold = true ∨ .offline = x ↔ s'.offTold = true) :
    s'.Told (topics ++ [x]) := by
  refine ⟨h.inOrder.concat hx, ?_, ?_, ?_, ?_⟩
  · rwa [List.mem_append, List.mem_singleton]
  · rwa [List.mem_append, List.mem_singleton, h.online]
  · rwa [List.mem_append, List.mem_singleton, h.ended]
  · rwa [List.mem_append, List.mem_singleton, h.offline]

/-- What a prompt transaction tells of a session that it changes fits the flags that it changes. -/
theorem change (h : s.Told topics) (hprompt : Entry.Prompt ⟨c, t⟩) (hs : s ∈ c.sessions)
    (hhit : t.hits s = true) (hchange : t.change s = some s') :
    s'.Told (topics ++ t.topic?.toList) := by
  cases t with
  | extendSession token expiry now =>
    obtain rfl := Option.some.inj hchange
    rw [Transaction.topic?, Option.toList_none, List.append_nil]
    exact ⟨h.inOrder, h.started, h.online, h.ended, h.offline⟩
  | endSession | endByToken =>
    obtain rfl := Option.some.inj hchange
    rw [Transaction.topic?, Option.toList_none, List.append_nil]
    have hlive : s.ended = false := by simp_all [Transaction.hits]
    refine ⟨h.inOrder, (fun hended => by cases hended), h.online, ?_, h.offline⟩
    simp [h.ended, hlive, Session.end]
  | markWarned read text now =>
    obtain rfl := Option.some.inj hchange
    have hlive : s.ended = false := by simp_all [Transaction.hits]
    have hnot : .ended ∉ topics := by simp [h.ended, hlive]
    refine h.concat hnot ?_ ?_ ?_ ?_
    · simpa [Session.warn] using h.started
    · simp [Session.warn]
    · simp [Session.warn]
    · simp [Session.warn]
  | markAnnounced read text now =>
    obtain rfl := Option.some.inj hchange
    simp only [Transaction.hits, Bool.and_eq_true, beq_iff_eq] at hhit
    obtain ⟨hid, hdue⟩ := hhit
    have hread : s.ended = read.ended := hprompt s hs hid
    have hnot : .ended ∉ topics := by simp [h.ended, hdue]
    rw [Transaction.topic?, ← hread]
    cases hended : s.ended with
    | true =>
      refine h.concat hnot ?_ ?_ ?_ ?_
      · simp [Session.announce, hended]
      · simp [Session.announce]
      · simp [Session.announce, hended]
      · simp [Session.announce]
    | false =>
      have hfirst : .started ∉ topics := by simp [h.started hended, hdue]
      refine h.concat ⟨hfirst, hnot⟩ ?_ ?_ ?_ ?_
      · simp [Session.announce]
      · simp [Session.announce]
      · simp [Session.announce, hended]
      · simp [Session.announce]
  | markOff read text now =>
    obtain rfl := Option.some.inj hchange
    simp only [Transaction.hits, Bool.and_eq_true, beq_iff_eq, Bool.not_eq_true'] at hhit
    obtain ⟨-, hended, hfirst⟩ := hhit
    have hdone : s.unannounced = false := hprompt s hs
    have hnot : .offline ∉ topics := by simp [h.offline, hfirst]
    refine h.concat ⟨hnot, h.ended.mpr ⟨hended, hdone⟩⟩ ?_ ?_ ?_ ?_
    · simp [Session.tellOff, hended]
    · simp [Session.tellOff]
    · simp [Session.tellOff]
    · simp [Session.tellOff]
  | markReady read text now =>
    obtain rfl := Option.some.inj hchange
    simp only [Transaction.hits, Bool.and_eq_true, beq_iff_eq, Bool.not_eq_true'] at hhit
    obtain ⟨-, hlive, hfirst⟩ := hhit
    have hdone : s.unannounced = false := hprompt s hs
    have hnot : .online ∉ topics := by simp [h.online, hfirst]
    have hgoesOn : .ended ∉ topics := by simp [h.ended, hlive]
    refine h.concat ⟨hnot, hgoesOn, (h.started hlive).mpr hdone⟩ ?_ ?_ ?_ ?_
    · simpa [Session.tellReady] using h.started
    · simp [Session.tellReady]
    · simp [Session.tellReady]
    · simp [Session.tellReady]
  | finalize => cases hchange
  | sync | openSession | enqueue | purge | deleteNotice | setSetting | deleteSetting =>
    exact absurd hhit Bool.false_ne_true

end Session.Told

/-! ## What was told of all sessions -/

/-- What the holders of sessions were told, of those that are there and of those that were deleted. -/
structure Journal.Informs (journal : Journal) (c : Catalog) : Prop where
  rows : ∀ s ∈ c.sessions, s.Told (journal.topics s.id)
  deleted : ∀ id, 0 < id → id ≤ c.lastSession → (∀ s ∈ c.sessions, s.id ≠ id) →
    Topic.InOrder (journal.topics id) ∧ .ended ∈ journal.topics id ∧ .offline ∈ journal.topics id
  unused : ∀ id, c.lastSession < id → journal.topics id = []

/-- Only with a session that is opened another id is given. -/
theorem Transaction.lastSession_run (t : Transaction) (c : Catalog) :
    (t.run c).lastSession = c.lastSession ∨
      (t.run c).lastSession = c.lastSession + 1 ∧
        ∃ s ∈ (t.run c).sessions, s.id = c.lastSession + 1 := by
  let Same (d : Catalog) : Prop := d.lastSession = c.lastSession
  have hsame : Same c := rfl
  cases t with
  | openSession request now =>
    rw [run]
    rcases c.openSession_cases request now with ⟨-, hrun⟩ | ⟨-, -, hrun⟩ | ⟨-, -, hrun⟩
    · rw [hrun]
      exact Or.inl rfl
    · rw [hrun]
      exact Or.inl rfl
    · rw [hrun]
      exact Or.inr ⟨rfl, _, List.mem_append_right _ List.mem_cons_self, rfl⟩
  | extendSession => exact Or.inl (Catalog.extendSession_induct (P := Same) hsame hsame)
  | endSession => exact Or.inl (Catalog.endSession_induct (P := Same) hsame fun _ _ _ _ => hsame)
  | endByToken => exact Or.inl (Catalog.endByToken_induct (P := Same) hsame fun _ _ _ _ => hsame)
  | markWarned | markAnnounced | markOff | markReady =>
    exact Or.inl (Catalog.raise_induct (P := Same) hsame hsame)
  | finalize => exact Or.inl (Catalog.finalize_induct (P := Same) hsame fun _ _ _ _ _ => hsame)
  | sync | enqueue | purge | deleteNotice | setSetting | deleteSetting => exact Or.inl rfl

namespace Journal.Informs

theorem rows_run (h : journal.Informs c) (hc : c.Consistent) (hprompt : Entry.Prompt ⟨c, t⟩) :
    ∀ s' ∈ (t.run c).sessions, s'.Told (Journal.topics (⟨c, t⟩ :: journal) s'.id) := by
  intro s' hs'
  rw [topics_cons]
  rcases Transaction.mem_sessions_run.mp hs' with ⟨s, hs, hstep⟩ | hopened
  · have hid : s.id = s'.id := (Transaction.makes_of_onSession hstep).sameLease.id
    rw [← hid, Entry.topic?_eq hc hs]
    unfold Transaction.onSession at hstep
    split at hstep
    next hhit =>
      rw [if_pos hhit]
      exact (h.rows s hs).change hprompt hs hhit hstep
    next hmiss =>
      obtain rfl := Option.some.inj hstep
      rw [if_neg hmiss, Option.toList_none, List.append_nil]
      exact h.rows s hs
  · obtain ⟨request, now, -, rfl⟩ := Transaction.eq_of_mem_opens hopened
    have hid : (request.session (c.lastSession + 1)).id = c.lastSession + 1 := rfl
    have hgone := hc.id_ne_of_lt (Nat.lt_succ_self c.lastSession)
    rw [hid, Entry.topic?_of_gone hgone, h.unused _ (Nat.lt_succ_self _)]
    exact request.told_session _

theorem deleted_run (h : journal.Informs c) (hc : c.Consistent) (hprompt : Entry.Prompt ⟨c, t⟩)
    (hpos : 0 < id) (hle : id ≤ (t.run c).lastSession)
    (hgone : ∀ s ∈ (t.run c).sessions, s.id ≠ id) :
    Topic.InOrder (Journal.topics (⟨c, t⟩ :: journal) id) ∧
      .ended ∈ Journal.topics (⟨c, t⟩ :: journal) id ∧
      .offline ∈ Journal.topics (⟨c, t⟩ :: journal) id := by
  rw [topics_cons]
  by_cases hrow : ∃ s ∈ c.sessions, s.id = id
  · obtain ⟨s, hs, rfl⟩ := hrow
    have hdeleted : t.onSession s = none := by
      cases hstep : t.onSession s with
      | none => rfl
      | some s' =>
        have hid : s.id = s'.id := (Transaction.makes_of_onSession hstep).sameLease.id
        exact absurd hid.symm (hgone s' (Transaction.mem_sessions_run.mpr (Or.inl ⟨s, hs, hstep⟩)))
    rw [Transaction.onSession] at hdeleted
    split at hdeleted
    next hhit =>
      cases t with
      | finalize read =>
        -- it was ended and told that the servers are off, and nothing was left to announce
        simp only [Transaction.hits, Bool.and_eq_true] at hhit
        have htold := h.rows s hs
        have hdone : s.unannounced = false := hprompt s hs
        rw [Entry.topic?_eq hc hs, Transaction.topic?, ite_self, Option.toList_none, List.append_nil]
        exact ⟨htold.inOrder, htold.ended.mpr ⟨hhit.1.2, hdone⟩, htold.offline.mpr hhit.2⟩
      | _ => cases hdeleted
    next => cases hdeleted
  · have hnever : ∀ s ∈ c.sessions, s.id ≠ id := fun s hs hid => hrow ⟨s, hs, hid⟩
    rw [Entry.topic?_of_gone hnever, Option.toList_none, List.append_nil]
    refine h.deleted id hpos ?_ hnever
    rcases t.lastSession_run c with hlast | ⟨hlast, s, hs, hid⟩
    · rwa [hlast] at hle
    · -- the session that was opened is still there, so this is another one
      have hne : id ≠ c.lastSession + 1 := fun he => hgone s hs (hid.trans he.symm)
      omega

theorem unused_run (h : journal.Informs c) (hc : c.Consistent)
    (hid : (t.run c).lastSession < id) : Journal.topics (⟨c, t⟩ :: journal) id = [] := by
  have hlt : c.lastSession < id :=
    Nat.lt_of_le_of_lt (Catalog.follows_run c t).lastSession_le hid
  rw [topics_cons, h.unused id hlt, Entry.topic?_of_gone (hc.id_ne_of_lt hlt)]
  rfl

end Journal.Informs

/-- **Where all writes are prompt, the flags of sessions say what their holders were told**, and nobody was
left without a notice whose session is deleted. -/
theorem Interleaving.informs (h : Interleaving journal c) (hprompt : ∀ e ∈ journal, e.Prompt) :
    journal.Informs c := by
  induction journal generalizing c with
  | nil =>
    rw [h.unique .start]
    exact ⟨fun s hs => absurd hs List.not_mem_nil,
      fun _ hpos hle => absurd hle (Nat.not_le.mpr hpos), fun _ _ => rfl⟩
  | cons e rest ih =>
    obtain ⟨c, t⟩ := e
    obtain ⟨hrest, rfl⟩ := h.of_cons
    obtain ⟨hnow, hbefore⟩ := List.forall_mem_cons.mp hprompt
    have hinforms := ih hrest hbefore
    have hc := hrest.consistent
    exact ⟨hinforms.rows_run hc hnow, fun _ => hinforms.deleted_run hc hnow,
      fun _ => hinforms.unused_run hc⟩

end PowerLease
