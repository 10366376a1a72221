import PowerLease.Proofs.Catalog.History
import PowerLease.Proofs.Lifecycle.Stages

/-!
# What a transaction makes of one session

A transaction *hits* some sessions and leaves the others alone. Which ones it hits, and what becomes of
them, can be told from each session alone (`sessions_run`). Only opening a lease adds a session, and
only `finalize` deletes one.

So a session can be followed through any run of transactions without a look at the rest of the catalog.
-/

namespace PowerLease

namespace Catalog

variable {c : Catalog}

/-! ## Outcomes -/

theorem isOk_extendSession {token : String} {expiry now : Int} :
    (c.extendSession token expiry now).1.isOk = true ↔
      ∃ s ∈ c.sessions, s.token = some token ∧ now < s.expiry := by
  rcases c.extendSession_cases token expiry now with ⟨hmiss, hrun⟩ | ⟨s, hs, htoken, hnow, hrun⟩
  · rw [hrun]
    refine iff_of_false Bool.false_ne_true ?_
    rintro ⟨s, hs, htoken, hnow⟩
    exact Int.not_lt.mpr (hmiss s hs htoken) hnow
  · rw [hrun]
    exact iff_of_true rfl ⟨s, hs, htoken, hnow⟩

theorem raise_eq_true_iff {guard : Session → Bool} {flag : Session → Session} {read : Session}
    {text : NoticeText} {now : Int} :
    (raise guard flag read text now c).1 = true ↔
      ∃ s ∈ c.sessions, s.id = read.id ∧ guard s = true := by
  rcases c.raise_cases guard flag read text now with ⟨hmiss, hrun⟩ | ⟨s, hs, hid, hguard, hrun⟩
  · rw [hrun]
    refine iff_of_false Bool.false_ne_true ?_
    rintro ⟨s, hs, hid, hguard⟩
    exact Bool.false_ne_true ((hmiss s hs hid).symm.trans hguard)
  · rw [hrun]
    exact iff_of_true rfl ⟨s, hs, hid, hguard⟩

theorem queue_raise {guard : Session → Bool} {flag : Session → Session} {read : Session}
    {text : NoticeText} {now : Int} (h : (raise guard flag read text now c).1 = true) :
    (raise guard flag read text now c).2.queue =
      c.queue ++ [⟨c.lastNotice + 1, read.user, text.title, text.message, now⟩] := by
  rcases c.raise_cases guard flag read text now with ⟨-, hrun⟩ | ⟨_, -, -, -, hrun⟩
  · rw [hrun] at h
    exact absurd h Bool.false_ne_true
  · rw [hrun]
    rfl

theorem exists_of_finalize {read : Session} (h : (c.finalize read).1 = true) :
    ∃ s ∈ c.sessions, s.id = read.id := by
  rcases c.finalize_cases read with ⟨-, hrun⟩ | ⟨s, hs, hid, -⟩
  · rw [hrun] at h
    exact absurd h Bool.false_ne_true
  · exact ⟨s, hs, hid⟩

/-! ## Sessions after a transaction, refused or not -/

theorem sessions_extendSession (token : String) (expiry now : Int) :
    (c.extendSession token expiry now).2.sessions =
      c.sessions.map fun s =>
        if holds token s && decide (now < s.expiry) then s.extend expiry else s := by
  rcases c.extendSession_cases token expiry now with ⟨hmiss, hrun⟩ | ⟨_, -, -, -, hrun⟩
  · rw [hrun, map_of_none_picked]
    intro s hs
    by_cases htoken : s.token = some token
    · have hlate : s.expiry ≤ now := hmiss s hs htoken
      simp [Int.not_lt.mpr hlate]
    · simp [holds, htoken]
  · rw [hrun]
    rfl

theorem sessions_endSession (group : String) (now : Int) :
    (c.endSession group now).2.sessions =
      c.sessions.map fun s => if s.group == group && !s.ended then s.end else s := by
  rcases c.endSession_cases group now with ⟨hmiss, hrun⟩ | ⟨_, -, -, -, hrun⟩
  · rw [hrun, map_of_none_picked]
    intro s hs
    by_cases hgroup : s.group = group
    · simp [hmiss s hs hgroup]
    · simp [hgroup]
  · rw [hrun]
    rfl

theorem sessions_endByToken (token : String) (now : Int) :
    (c.endByToken token now).2.sessions =
      c.sessions.map fun s => if holds token s && !s.ended then s.end else s := by
  rcases c.endByToken_cases token now with ⟨hmiss, hrun⟩ | ⟨_, -, -, -, hrun⟩
  · rw [hrun, map_of_none_picked]
    intro s hs
    by_cases htoken : s.token = some token
    · simp [hmiss s hs htoken]
    · simp [holds, htoken]
  · rw [hrun]
    rfl

theorem sessions_raise (guard : Session → Bool) (flag : Session → Session) (read : Session)
    (text : NoticeText) (now : Int) :
    (raise guard flag read text now c).2.sessions =
      c.sessions.map fun s => if s.id == read.id && guard s then flag s else s := by
  rcases c.raise_cases guard flag read text now with ⟨hmiss, hrun⟩ | ⟨_, -, -, -, hrun⟩
  · rw [hrun, map_of_none_picked]
    intro s hs
    by_cases hid : s.id = read.id
    · simp [hmiss s hs hid]
    · simp [hid]
  · rw [hrun]
    rfl

theorem sessions_finalize (read : Session) :
    (c.finalize read).2.sessions =
      c.sessions.filter fun s => !(s.id == read.id && s.ended && s.offTold) := by
  rcases c.finalize_cases read with ⟨hmiss, hrun⟩ | ⟨_, -, -, -, -, hrun⟩
  · rw [hrun, List.filter_eq_self.mpr]
    intro s hs
    by_cases hid : s.id = read.id
    · cases hended : s.ended with
      | false => simp
      | true => simp [hmiss s hs hid hended]
    · simp [hid]
  · rw [hrun]
    rfl

end Catalog

namespace Transaction

/-! ## One session -/

/-- Whether a transaction changes a session. -/
def hits : Transaction → Session → Bool
  | extendSession token _ now, s => Catalog.holds token s && decide (now < s.expiry)
  | endSession group _, s => s.group == group && !s.ended
  | endByToken token _, s => Catalog.holds token s && !s.ended
  | markWarned read _ _, s => s.id == read.id && (!s.warned && !s.ended)
  | markAnnounced read _ _, s => s.id == read.id && s.unannounced
  | markOff read _ _, s => s.id == read.id && (s.ended && !s.offTold)
  | markReady read _ _, s => s.id == read.id && (!s.ended && !s.readyTold)
  | finalize read, s => s.id == read.id && s.ended && s.offTold
  | sync .., _ | openSession .., _ | enqueue .., _ | purge, _ | deleteNotice _, _ | setSetting _, _
  | deleteSetting _, _ => false

/-- What a transaction makes of a session that it hits; nothing, if it deletes it. -/
def change : Transaction → Session → Option Session
  | extendSession _ expiry _, s => some (s.extend expiry)
  | endSession .., s | endByToken .., s => some s.end
  | markWarned .., s => some s.warn
  | markAnnounced .., s => some s.announce
  | markOff .., s => some s.tellOff
  | markReady .., s => some s.tellReady
  | finalize _, _ => none
  | sync .., s | openSession .., s | enqueue .., s | purge, s | deleteNotice _, s | setSetting _, s
  | deleteSetting _, s => some s

/-- What a transaction makes of a session. -/
def onSession (t : Transaction) (s : Session) : Option Session :=
  if t.hits s then t.change s else some s

/-- The session that a transaction opens, if it opens one. -/
def opens (c : Catalog) : Transaction → List Session
  | openSession request _ =>
    if c.hasGroup request.group && c.admits request then [request.session (c.lastSession + 1)]
    else []
  | sync .. | extendSession .. | endSession .. | endByToken .. | markWarned .. | markAnnounced ..
  | markOff .. | markReady .. | finalize _ | enqueue .. | purge | deleteNotice _ | setSetting _
  | deleteSetting _ => []

variable {t : Transaction} {c : Catalog} {s s' : Session} {l : List Session}

theorem filterMap_onSession_of_missed (h : ∀ s, t.hits s = false) : l.filterMap t.onSession = l := by
  have hsome : t.onSession = some := by
    funext s
    rw [onSession, h s]
    rfl
  rw [hsome, List.filterMap_some]

theorem filterMap_onSession_of_change {f : Session → Session} (h : ∀ s, t.change s = some (f s)) :
    l.filterMap t.onSession = l.map fun s => if t.hits s then f s else s := by
  have hsome : t.onSession = fun s => some (if t.hits s then f s else s) := by
    funext s
    rw [onSession, h, apply_ite some]
  rw [hsome, List.filterMap_eq_map']

/-- **A transaction treats each session for itself.** -/
theorem sessions_run (t : Transaction) (c : Catalog) :
    (t.run c).sessions = c.sessions.filterMap t.onSession ++ t.opens c := by
  cases t with
  | openSession request now =>
    rw [filterMap_onSession_of_missed fun _ => rfl, run, opens]
    rcases c.openSession_cases request now with ⟨hgroup, hrun⟩ | ⟨hgroup, hadmits, hrun⟩ |
      ⟨hgroup, hadmits, hrun⟩
    · simp [hrun, hgroup]
    · simp [hrun, hgroup, hadmits]
    · simp [hrun, hgroup, hadmits, Catalog.opened]
  | extendSession token expiry now =>
    rw [filterMap_onSession_of_change fun _ => rfl, opens, List.append_nil]
    exact c.sessions_extendSession token expiry now
  | endSession group now =>
    rw [filterMap_onSession_of_change fun _ => rfl, opens, List.append_nil]
    exact c.sessions_endSession group now
  | endByToken token now =>
    rw [filterMap_onSession_of_change fun _ => rfl, opens, List.append_nil]
    exact c.sessions_endByToken token now
  | markWarned read text now | markAnnounced read text now | markOff read text now
  | markReady read text now =>
    rw [filterMap_onSession_of_change fun _ => rfl, opens, List.append_nil]
    exact c.sessions_raise _ _ read text now
  | finalize read =>
    have hkept : (c.finalize read).2.sessions =
        c.sessions.filter fun s => !(finalize read).hits s := c.sessions_finalize read
    rw [opens, List.append_nil, run, hkept, ← List.filterMap_eq_filter]
    refine List.filterMap_congr fun s _ => ?_
    rw [onSession, Option.guard]
    cases (finalize read).hits s <;> rfl
  | sync | enqueue | purge | deleteNotice | setSetting | deleteSetting =>
    rw [filterMap_onSession_of_missed fun _ => rfl, opens, List.append_nil]
    rfl

/-- A session after a transaction was there before, or the transaction opened it. -/
theorem mem_sessions_run : s' ∈ (t.run c).sessions ↔
    (∃ s ∈ c.sessions, t.onSession s = some s') ∨ s' ∈ t.opens c := by
  rw [sessions_run, List.mem_append, List.mem_filterMap]

/-- A session that is opened is live, and has an id that was never given. -/
theorem eq_of_mem_opens (h : s ∈ t.opens c) :
    ∃ request now, t = openSession request now ∧ s = request.session (c.lastSession + 1) := by
  cases t with
  | openSession request now =>
    simp only [opens] at h
    split at h
    · exact ⟨request, now, rfl, List.mem_singleton.mp h⟩
    · exact absurd h List.not_mem_nil
  | _ => exact absurd h List.not_mem_nil

/-- The session that is opened is the one that is answered. -/
theorem mem_opens_openSession {request : LeaseRequest} {now : Int} :
    s ∈ (openSession request now).opens c ↔ (c.openSession request now).1 = .ok s := by
  rw [opens]
  rcases c.openSession_cases request now with ⟨hgroup, hrun⟩ | ⟨hgroup, hadmits, hrun⟩ |
    ⟨hgroup, hadmits, hrun⟩
  · simp [hrun, hgroup]
  · simp [hrun, hgroup, hadmits]
  · simp [hrun, hgroup, hadmits, eq_comm]

/-! ## What becomes of a session -/

/-- Whether a transaction is meant to end a session: its holder gives it back, or its group is freed. -/
def ends (s : Session) : Transaction → Bool
  | endSession group _ => s.group == group
  | endByToken token _ => Catalog.holds token s
  | sync .. | openSession .. | extendSession .. | markWarned .. | markAnnounced .. | markOff ..
  | markReady .. | finalize _ | enqueue .. | purge | deleteNotice _ | setSetting _
  | deleteSetting _ => false

theorem ends_congr (hgroup : s.group = s'.group) (htoken : s.token = s'.token) :
    t.ends s = t.ends s' := by
  cases t <;> simp only [ends, Catalog.holds, hgroup, htoken]

/-- All that a transaction can make of a session that stays. -/
inductive Makes (s : Session) : Transaction → Session → Prop
  | same {t : Transaction} (h : t.hits s = false) : Makes s t s
  | extended {token : String} {expiry now : Int} (htoken : s.token = some token)
    (hnow : now < s.expiry) : Makes s (extendSession token expiry now) (s.extend expiry)
  | ended {t : Transaction} (hends : t.ends s = true) (hlive : s.ended = false) : Makes s t s.end
  | warned {read : Session} {text : NoticeText} {now : Int} (hid : s.id = read.id)
    (hwarned : s.warned = false) (hlive : s.ended = false) :
    Makes s (markWarned read text now) s.warn
  | announced {read : Session} {text : NoticeText} {now : Int} (hid : s.id = read.id)
    (hdue : s.unannounced = true) : Makes s (markAnnounced read text now) s.announce
  | toldOff {read : Session} {text : NoticeText} {now : Int} (hid : s.id = read.id)
    (hended : s.ended = true) : Makes s (markOff read text now) s.tellOff
  | toldReady {read : Session} {text : NoticeText} {now : Int} (hid : s.id = read.id)
    (hlive : s.ended = false) : Makes s (markReady read text now) s.tellReady

theorem makes_of_onSession (h : t.onSession s = some s') : Makes s t s' := by
  unfold onSession at h
  split at h
  next hhit =>
    cases t with
    | extendSession token expiry now =>
      cases h
      simp only [hits, Catalog.holds, Bool.and_eq_true, beq_iff_eq, decide_eq_true_eq] at hhit
      exact .extended hhit.1 hhit.2
    | endSession | endByToken =>
      cases h
      simp only [hits, Bool.and_eq_true, Bool.not_eq_true'] at hhit
      exact .ended hhit.1 hhit.2
    | markWarned =>
      cases h
      simp only [hits, Bool.and_eq_true, Bool.not_eq_true', beq_iff_eq] at hhit
      exact .warned hhit.1 hhit.2.1 hhit.2.2
    | markAnnounced =>
      cases h
      simp only [hits, Bool.and_eq_true, beq_iff_eq] at hhit
      exact .announced hhit.1 hhit.2
    | markOff =>
      cases h
      simp only [hits, Bool.and_eq_true, Bool.not_eq_true', beq_iff_eq] at hhit
      exact .toldOff hhit.1 hhit.2.1
    | markReady =>
      cases h
      simp only [hits, Bool.and_eq_true, Bool.not_eq_true', beq_iff_eq] at hhit
      exact .toldReady hhit.1 hhit.2.1
    | finalize => cases h
    | sync | openSession | enqueue | purge | deleteNotice | setSetting | deleteSetting =>
      exact absurd hhit Bool.false_ne_true
  next hmiss =>
    rw [← Option.some.inj h]
    exact .same (Bool.not_eq_true _ ▸ hmiss)

namespace Makes

theorem sameLease (h : Makes s t s') : s.SameLease s' := by
  cases h <;> exact ⟨rfl, rfl, rfl, rfl⟩

/-- An ended session does not live again. -/
theorem ended_of_ended (h : Makes s t s') (hended : s.ended = true) : s'.ended = true := by
  cases h with
  | ended => rfl
  | same | extended | warned | announced | toldOff | toldReady => exact hended

/-- A holder who was told that the servers are off, was told for good. -/
theorem offTold_of_offTold (h : Makes s t s') (htold : s.offTold = true) : s'.offTold = true := by
  cases h with
  | toldOff => rfl
  | same | extended | ended | warned | announced | toldReady => exact htold

/-- The end of a session is announced once. -/
theorem announced_of_announced (h : Makes s t s') (hended : s.ended = true)
    (hdone : s.unannounced = false) : s'.unannounced = false := by
  cases h with
  | ended _ hlive => exact absurd (hlive.symm.trans hended) Bool.false_ne_true
  | announced => rfl
  | same | extended | warned | toldOff | toldReady => exact hdone

/-- A session that lives on keeps its token. -/
theorem token_eq (h : Makes s t s') (hlive : s'.ended = false) : s'.token = s.token := by
  cases h with
  | ended => exact absurd hlive.symm Bool.false_ne_true
  | same | extended | warned | announced | toldOff | toldReady => rfl

/-- Only its extension moves the expiry of a session. -/
theorem expiry_eq (h : Makes s t s') :
    s'.expiry = s.expiry ∨ ∃ token now, t = extendSession token s'.expiry now ∧
      s.token = some token ∧ now < s.expiry := by
  cases h with
  | extended htoken hnow => exact Or.inr ⟨_, _, rfl, htoken, hnow⟩
  | same | ended | warned | announced | toldOff | toldReady => exact Or.inl rfl

/-- What is meant to end a live session ends it, and nothing else does. -/
theorem ended_iff (h : Makes s t s') (hlive : s.ended = false) :
    s'.ended = true ↔ t.ends s = true := by
  cases h with
  | ended hends => exact iff_of_true rfl hends
  | same hmiss =>
    refine iff_of_false (by simp [hlive]) fun hends => ?_
    cases t <;> simp_all [ends, hits]
  | extended | warned | announced | toldOff | toldReady =>
    exact iff_of_false (Bool.not_eq_true _ ▸ hlive) Bool.false_ne_true

end Makes

end Transaction
end PowerLease
