import PowerLease.Catalog.Sync
import PowerLease.Proofs.Catalog.Writes

/-!
# The statements of a transaction

A transaction is more than one statement, and some of them write before it is known whether all of them
can: the servers of a group are wanted on before the session is inserted, which may conflict with
another; and a session is ended, flagged or deleted before it is looked whether there was one. What a
transaction has written when it fails is rolled back.

Here the transactions are given statement by statement (`openingStatements`, ...), and each is shown to
be what it is elsewhere, where it looks first and writes then (`openSession_eq_transact`, ...). So a
transaction that fails leaves the catalog as it was, whatever its statements have written by then
(`transact_of_error`).
-/

namespace PowerLease.Catalog

/-- What statements do to a catalog: they come to their end with an answer, or fail with a reason, and
have written something in either case. -/
abbrev Statements (ε α : Type) := Catalog → Except ε α × Catalog

variable {ε α : Type} {c : Catalog}

/-- Runs statements as a transaction. If they fail, what they have written is rolled back. -/
def transact (statements : Statements ε α) (c : Catalog) : Except ε α × Catalog :=
  match statements c with
  | (.ok answer, written) => (.ok answer, written)
  | (.error reason, _) => (.error reason, c)

theorem transact_of_error {statements : Statements ε α}
    (h : (transact statements c).1.isOk = false) : (transact statements c).2 = c := by
  unfold transact at h ⊢
  split
  next hok => simp [hok, Except.isOk, Except.toBool] at h
  next => rfl

/-! ## Single statements -/

/-- Writes the servers of a group, and counts them. -/
def writeGroup (group : String) (f : Server → Server) (c : Catalog) : Nat × Catalog :=
  ((c.serversOf group).length, c.updateGroup group f)

/-- Writes the sessions that a test picks, and gives them as they are then. -/
def writeSessions (pick : Session → Bool) (f : Session → Session) (c : Catalog) :
    List Session × Catalog :=
  ((c.sessions.filter pick).map f, c.updateSessions pick f)

/-- Deletes the sessions that a test picks, and counts them. -/
def deleteSessions (pick : Session → Bool) (c : Catalog) : Nat × Catalog :=
  (c.sessions.countP pick, { c with sessions := c.sessions.filter fun s => !pick s })

/-- Inserts the session of a request, unless its group or its token is taken. -/
def insertSession (r : LeaseRequest) : Statements StoreFault Session := fun c =>
  if c.admits r then
    (.ok (r.session (c.lastSession + 1)),
     { c with
       sessions := c.sessions ++ [r.session (c.lastSession + 1)]
       lastSession := c.lastSession + 1 })
  else (.error .conflict, c)

/-- A write that picks no session writes nothing. -/
theorem writeSessions_of_none {pick : Session → Bool} (h : ∀ s ∈ c.sessions, pick s = false)
    (f : Session → Session) : writeSessions pick f c = ([], c) := by
  have hnone : c.sessions.filter pick = [] :=
    List.filter_eq_nil_iff.mpr fun s hs => Bool.eq_false_iff.mp (h s hs)
  rw [writeSessions, hnone, updateSessions, map_of_none_picked f h]
  rfl

/-- A write that picks a session gives the first one that it picks. -/
theorem exists_of_writeSessions {pick : Session → Bool} {s : Session}
    (h : c.sessions.find? pick = some s) (f : Session → Session) :
    ∃ rest, writeSessions pick f c = (f s :: rest, c.updateSessions pick f) := by
  rw [← List.head?_filter] at h
  obtain ⟨rest, hrest⟩ := List.head?_eq_some_iff.mp h
  exact ⟨rest.map f, by rw [writeSessions, hrest]; rfl⟩

/-! ## Transactions -/

/-- Opening a lease: the servers are wanted on, and the session is inserted. -/
def openingStatements (r : LeaseRequest) (now : Int) : Statements StoreFault Session := fun c =>
  match c.writeGroup r.group (Server.wantOn r.email now) with
  | (0, written) => (.error (.notFound s!"Server group {r.group}"), written)
  | (_ + 1, written) => written.insertSession r

/-- Extending a lease: its session is written. -/
def extendingStatements (token : String) (expiry now : Int) : Statements StoreFault Session := fun c =>
  match c.writeSessions (fun s => holds token s && decide (now < s.expiry)) (Session.extend expiry) with
  | ([], written) => (.error (.notFound "Session"), written)
  | (s :: _, written) => (.ok s, written)

/-- Ending the session that a test picks: it is written, and then the servers of its group. -/
def endingStatements (reason : ε) (pick : Session → Bool) (now : Int) : Statements ε String := fun c =>
  match c.writeSessions pick Session.end with
  | ([], written) => (.error reason, written)
  | (s :: _, written) => (.ok s.group, (written.writeGroup s.group (Server.wantOff now)).2)

/-- Raising a flag: the session is written, and the notice queued. -/
def raisingStatements (guard : Session → Bool) (flag : Session → Session) (read : Session)
    (text : NoticeText) (now : Int) : Statements Unit Unit := fun c =>
  match c.writeSessions (fun s => s.id == read.id && guard s) flag with
  | ([], written) => (.error (), written)
  | (_ :: _, written) => (.ok (), (written.enqueue read.user text.title text.message now).2)

/-- Deleting a session: it is deleted, and then nothing is wanted of the servers of its group. -/
def finalizingStatements (read : Session) : Statements Unit Unit := fun c =>
  match c.deleteSessions fun s => s.id == read.id && s.ended && s.offTold with
  | (0, written) => (.error (), written)
  | (_ + 1, written) =>
    (.ok (), (written.writeGroup read.group fun v => { v with target := none }).2)

/-! ## What the transactions come to -/

theorem openSession_eq_transact (r : LeaseRequest) (now : Int) (c : Catalog) :
    c.openSession r now = transact (openingStatements r now) c := by
  have hcount : (c.serversOf r.group).length = 0 ↔ c.hasGroup r.group = false := by
    rw [List.length_eq_zero_iff, serversOf, List.filter_eq_nil_iff, hasGroup, List.any_eq_false]
  -- the servers that were written by then play no part in whether the session conflicts
  have hadmits : (c.updateGroup r.group (Server.wantOn r.email now)).admits r = c.admits r := rfl
  rw [transact, openingStatements, writeGroup]
  cases hn : (c.serversOf r.group).length with
  | zero => simp [openSession, hcount.mp hn]
  | succ n =>
    have hgroup : c.hasGroup r.group = true := by
      rw [← Bool.not_eq_false, ← hcount, hn]
      exact Nat.succ_ne_zero n
    cases hadmitted : c.admits r with
    | false => simp [openSession, insertSession, hgroup, hadmits, hadmitted]
    | true =>
      simp only [openSession, insertSession, hgroup, hadmits, hadmitted, Bool.not_true, if_true]
      rfl

/-- Nothing need be rolled back here: a write that picks no session has written nothing. -/
theorem extendSession_eq_statements (token : String) (expiry now : Int) (c : Catalog) :
    c.extendSession token expiry now = extendingStatements token expiry now c := by
  rw [extendingStatements, extendSession]
  cases hfind : c.sessions.find? fun s => holds token s && decide (now < s.expiry) with
  | none =>
    rw [writeSessions_of_none fun s hs => Bool.eq_false_iff.mpr (List.find?_eq_none.mp hfind s hs)]
  | some s =>
    obtain ⟨rest, hwrite⟩ := exists_of_writeSessions hfind (Session.extend expiry)
    rw [hwrite]
    rfl

theorem transact_endingStatements (reason : ε) (pick : Session → Bool) (now : Int) (c : Catalog) :
    transact (endingStatements reason pick now) c =
      match c.sessions.find? pick with
      | none => (.error reason, c)
      | some s => (.ok s.group, c.closed pick s.group now) := by
  rw [transact, endingStatements]
  cases hfind : c.sessions.find? pick with
  | none =>
    rw [writeSessions_of_none fun s hs => Bool.eq_false_iff.mpr (List.find?_eq_none.mp hfind s hs)]
  | some s =>
    obtain ⟨rest, hwrite⟩ := exists_of_writeSessions hfind Session.end
    rw [hwrite]
    rfl

theorem endByToken_eq_transact (token : String) (now : Int) (c : Catalog) :
    c.endByToken token now = transact
      (endingStatements (.notFound "Session") (fun s => holds token s && !s.ended) now) c := by
  rw [transact_endingStatements]
  rfl

/-- What a transaction answers that only says whether it was done. -/
def answer (outcome : Except ε α × Catalog) : Bool × Catalog := (outcome.1.isOk, outcome.2)

theorem endSession_eq_transact (group : String) (now : Int) (c : Catalog) :
    c.endSession group now = answer (transact
      (endingStatements () (fun s => s.group == group && !s.ended) now) c) := by
  rw [transact_endingStatements]
  rcases c.endSession_cases group now with ⟨hended, hrun⟩ | ⟨s, hs, hgroup, hlive, hrun⟩
  · have hnone : c.sessions.find? (fun s => s.group == group && !s.ended) = none := by
      refine List.find?_eq_none.mpr fun s hs hpick => ?_
      simp only [Bool.and_eq_true, beq_iff_eq, Bool.not_eq_true'] at hpick
      exact Bool.false_ne_true (hpick.2.symm.trans (hended s hs hpick.1))
    rw [hrun, hnone]
    rfl
  · cases hfind : c.sessions.find? (fun s => s.group == group && !s.ended) with
    | none =>
      have hmiss := List.find?_eq_none.mp hfind s hs
      simp [hgroup, hlive] at hmiss
    | some t =>
      have htgroup : t.group = group := by
        have hpick := List.find?_some hfind
        simp only [Bool.and_eq_true, beq_iff_eq] at hpick
        exact hpick.1
      subst htgroup
      rw [hrun]
      rfl

theorem raise_eq_transact (guard : Session → Bool) (flag : Session → Session) (read : Session)
    (text : NoticeText) (now : Int) (c : Catalog) :
    raise guard flag read text now c =
      answer (transact (raisingStatements guard flag read text now) c) := by
  rw [transact, raisingStatements]
  cases hfind : c.sessions.find? fun s => s.id == read.id && guard s with
  | none =>
    have hmiss := List.find?_eq_none.mp hfind
    rw [writeSessions_of_none fun s hs => Bool.eq_false_iff.mpr (hmiss s hs), raise,
      if_neg (by simpa using hmiss)]
    rfl
  | some s =>
    obtain ⟨rest, hwrite⟩ := exists_of_writeSessions hfind flag
    have hpick := List.find?_some hfind
    have hany : (c.sessions.any fun s => s.id == read.id && guard s) = true :=
      List.any_eq_true.mpr ⟨s, List.mem_of_find?_eq_some hfind, hpick⟩
    rw [hwrite, raise, if_pos hany]
    rfl

theorem finalize_eq_transact (read : Session) (c : Catalog) :
    c.finalize read = answer (transact (finalizingStatements read) c) := by
  rw [transact, finalizingStatements, deleteSessions, finalize]
  cases hn : c.sessions.countP fun s => s.id == read.id && s.ended && s.offTold with
  | zero =>
    have hmiss := List.countP_eq_zero.mp hn
    rw [if_neg (by simpa using hmiss)]
    rfl
  | succ n =>
    have hany : (c.sessions.any fun s => s.id == read.id && s.ended && s.offTold) = true := by
      have hpos : 0 < c.sessions.countP fun s => s.id == read.id && s.ended && s.offTold := by
        rw [hn]
        exact Nat.succ_pos n
      obtain ⟨s, hs, hpick⟩ := List.countP_pos_iff.mp hpos
      exact List.any_eq_true.mpr ⟨s, hs, hpick⟩
    rw [if_pos hany]
    rfl

/-! ## Transactions that fail -/

/-- A transaction that says it was not done leaves the catalog as it was. -/
theorem answer_transact_of_false {statements : Statements ε α}
    (h : (answer (transact statements c)).1 = false) : (answer (transact statements c)).2 = c :=
  transact_of_error h

theorem openSession_of_error {r : LeaseRequest} {now : Int}
    (h : (c.openSession r now).1.isOk = false) : (c.openSession r now).2 = c := by
  rw [openSession_eq_transact] at h ⊢
  exact transact_of_error h

/-- A catalog with one server, whose group is leased. -/
def taken : Catalog :=
  (openSession ⟨"digest", "u1", "u1@example.com", "QA", 3600⟩ 0
    (sync [⟨"i-1", "web", "QA", .off⟩] 0 .empty).2).2

-- the servers are written before the conflict shows
example : (openingStatements ⟨"other", "u2", "u2@example.com", "QA", 7200⟩ 10 taken).2 ≠ taken := by
  decide

theorem extendSession_of_error {token : String} {expiry now : Int}
    (h : (c.extendSession token expiry now).1.isOk = false) :
    (c.extendSession token expiry now).2 = c := by
  rcases c.extendSession_cases token expiry now with ⟨-, hrun⟩ | ⟨s, -, -, -, hrun⟩
  · rw [hrun]
  · rw [hrun] at h
    exact absurd h.symm Bool.false_ne_true

theorem endByToken_of_error {token : String} {now : Int}
    (h : (c.endByToken token now).1.isOk = false) : (c.endByToken token now).2 = c := by
  rw [endByToken_eq_transact] at h ⊢
  exact transact_of_error h

theorem endSession_of_false {group : String} {now : Int} (h : (c.endSession group now).1 = false) :
    (c.endSession group now).2 = c := by
  rw [endSession_eq_transact] at h ⊢
  exact answer_transact_of_false h

theorem raise_of_false {guard : Session → Bool} {flag : Session → Session} {read : Session}
    {text : NoticeText} {now : Int} (h : (raise guard flag read text now c).1 = false) :
    (raise guard flag read text now c).2 = c := by
  rw [raise_eq_transact] at h ⊢
  exact answer_transact_of_false h

theorem finalize_of_false {read : Session} (h : (c.finalize read).1 = false) :
    (c.finalize read).2 = c := by
  rw [finalize_eq_transact] at h ⊢
  exact answer_transact_of_false h

end PowerLease.Catalog
