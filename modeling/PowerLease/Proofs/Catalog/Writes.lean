import PowerLease.Catalog.Handshake
import PowerLease.Catalog.Lease

/-!
# What the transactions write

A transaction on sessions is either refused, and then nothing is changed, or it makes one change. The
changes have names here: `opened`, `closed`, `raised` and `dropped`, and `updateSessions` for a session
that is extended.

For each transaction one lemma says when it is refused, what it answers, and what it writes
(`openSession_cases`, `raise_cases`, ...). Most statements hold whether it is refused or not, and need to
be proved of the change only (`openSession_induct`, `raise_induct`, ...).
-/

namespace PowerLease

/-- A session with another expiry, of which its holder is warned anew. -/
def Session.extend (expiry : Int) (s : Session) : Session := { s with expiry, warned := false }

namespace Catalog

/-! ## Changes -/

/-- A lease is opened: its session is the last one, and the servers of its group are wanted on. -/
def opened (r : LeaseRequest) (now : Int) (c : Catalog) : Catalog :=
  { c.updateGroup r.group (Server.wantOn r.email now) with
    sessions := c.sessions ++ [r.session (c.lastSession + 1)]
    lastSession := c.lastSession + 1 }

/-- The sessions that a test picks are ended, and the servers of a group are wanted off. -/
def closed (pick : Session → Bool) (group : String) (now : Int) (c : Catalog) : Catalog :=
  (c.updateSessions pick Session.end).updateGroup group (Server.wantOff now)

/-- A flag is raised of the sessions that a test picks, and a user is told. -/
def raised (pick : Session → Bool) (flag : Session → Session) (user : String) (text : NoticeText)
    (now : Int) (c : Catalog) : Catalog :=
  ((c.updateSessions pick flag).enqueue user text.title text.message now).2

/-- The sessions that a test picks are deleted, and nothing is wanted of the servers of a group. -/
def dropped (pick : Session → Bool) (group : String) (c : Catalog) : Catalog :=
  { c with sessions := c.sessions.filter fun s => !pick s }.updateGroup group
    fun v => { v with target := none }

/-- A change of sessions that picks none changes none. -/
theorem map_of_none_picked {pick : Session → Bool} {l : List Session} (f : Session → Session)
    (h : ∀ s ∈ l, pick s = false) : (l.map fun s => if pick s then f s else s) = l := by
  refine (List.map_congr_left fun s hs => ?_).trans (List.map_id l)
  rw [h s hs]
  rfl

/-! ## Which change a transaction makes -/

theorem hasGroup_iff {c : Catalog} {g : String} :
    c.hasGroup g = true ↔ ∃ v ∈ c.servers, v.group = g := by
  simp [hasGroup]

theorem admits_iff {c : Catalog} {r : LeaseRequest} :
    c.admits r = true ↔ ∀ s ∈ c.sessions, s.group ≠ r.group ∧ s.token ≠ some r.token := by
  simp [admits, not_or]

theorem openSession_cases (c : Catalog) (r : LeaseRequest) (now : Int) :
    (c.hasGroup r.group = false ∧
      c.openSession r now = (.error (.notFound s!"Server group {r.group}"), c)) ∨
    (c.hasGroup r.group = true ∧ c.admits r = false ∧
      c.openSession r now = (.error .conflict, c)) ∨
    (c.hasGroup r.group = true ∧ c.admits r = true ∧
      c.openSession r now = (.ok (r.session (c.lastSession + 1)), c.opened r now)) := by
  unfold openSession
  cases hgroup : c.hasGroup r.group with
  | false => exact Or.inl ⟨rfl, rfl⟩
  | true =>
    cases hadmits : c.admits r with
    | false => exact Or.inr (Or.inl ⟨rfl, rfl, rfl⟩)
    | true => exact Or.inr (Or.inr ⟨rfl, rfl, rfl⟩)

theorem extendSession_cases (c : Catalog) (token : String) (expiry now : Int) :
    ((∀ s ∈ c.sessions, s.token = some token → s.expiry ≤ now) ∧
      c.extendSession token expiry now = (.error (.notFound "Session"), c)) ∨
    ∃ s ∈ c.sessions, s.token = some token ∧ now < s.expiry ∧
      c.extendSession token expiry now = (.ok (s.extend expiry),
        c.updateSessions (fun t => holds token t && decide (now < t.expiry))
          (Session.extend expiry)) := by
  unfold extendSession
  dsimp only
  split
  next hnone =>
    refine Or.inl ⟨fun s hs htoken => ?_, rfl⟩
    have hmiss := List.find?_eq_none.mp hnone s hs
    simpa [holds, htoken] using hmiss
  next s hfind =>
    have hhit := List.find?_some hfind
    simp only [holds, Bool.and_eq_true, beq_iff_eq, decide_eq_true_eq] at hhit
    exact Or.inr ⟨s, List.mem_of_find?_eq_some hfind, hhit.1, hhit.2, rfl⟩

theorem endSession_cases (c : Catalog) (group : String) (now : Int) :
    ((∀ s ∈ c.sessions, s.group = group → s.ended = true) ∧
      c.endSession group now = (false, c)) ∨
    ∃ s ∈ c.sessions, s.group = group ∧ s.ended = false ∧
      c.endSession group now =
        (true, c.closed (fun t => t.group == group && !t.ended) group now) := by
  unfold endSession
  dsimp only
  split
  next hany =>
    obtain ⟨s, hs, hhit⟩ := List.any_eq_true.mp hany
    simp only [Bool.and_eq_true, beq_iff_eq, Bool.not_eq_true'] at hhit
    exact Or.inr ⟨s, hs, hhit.1, hhit.2, rfl⟩
  next hnone =>
    refine Or.inl ⟨fun s hs hg => ?_, rfl⟩
    have hmiss := List.any_eq_false.mp (eq_false_of_ne_true hnone) s hs
    simpa [hg] using hmiss

theorem endByToken_cases (c : Catalog) (token : String) (now : Int) :
    ((∀ s ∈ c.sessions, s.token = some token → s.ended = true) ∧
      c.endByToken token now = (.error (.notFound "Session"), c)) ∨
    ∃ s ∈ c.sessions, s.token = some token ∧ s.ended = false ∧
      c.endByToken token now =
        (.ok s.group, c.closed (fun t => holds token t && !t.ended) s.group now) := by
  unfold endByToken
  dsimp only
  split
  next hnone =>
    refine Or.inl ⟨fun s hs htoken => ?_, rfl⟩
    have hmiss := List.find?_eq_none.mp hnone s hs
    simpa [holds, htoken] using hmiss
  next s hfind =>
    have hhit := List.find?_some hfind
    simp only [holds, Bool.and_eq_true, beq_iff_eq, Bool.not_eq_true'] at hhit
    exact Or.inr ⟨s, List.mem_of_find?_eq_some hfind, hhit.1, hhit.2, rfl⟩

theorem raise_cases (c : Catalog) (guard : Session → Bool) (flag : Session → Session)
    (read : Session) (text : NoticeText) (now : Int) :
    ((∀ s ∈ c.sessions, s.id = read.id → guard s = false) ∧
      raise guard flag read text now c = (false, c)) ∨
    ∃ s ∈ c.sessions, s.id = read.id ∧ guard s = true ∧
      raise guard flag read text now c =
        (true, c.raised (fun t => t.id == read.id && guard t) flag read.user text now) := by
  unfold raise
  dsimp only
  split
  next hany =>
    obtain ⟨s, hs, hhit⟩ := List.any_eq_true.mp hany
    simp only [Bool.and_eq_true, beq_iff_eq] at hhit
    exact Or.inr ⟨s, hs, hhit.1, hhit.2, rfl⟩
  next hnone =>
    refine Or.inl ⟨fun s hs hid => ?_, rfl⟩
    have hmiss := List.any_eq_false.mp (eq_false_of_ne_true hnone) s hs
    simpa [hid] using hmiss

theorem finalize_cases (c : Catalog) (read : Session) :
    ((∀ s ∈ c.sessions, s.id = read.id → s.ended = true → s.offTold = false) ∧
      c.finalize read = (false, c)) ∨
    ∃ s ∈ c.sessions, s.id = read.id ∧ s.ended = true ∧ s.offTold = true ∧
      c.finalize read =
        (true, c.dropped (fun t => t.id == read.id && t.ended && t.offTold) read.group) := by
  unfold finalize
  dsimp only
  split
  next hany =>
    obtain ⟨s, hs, hhit⟩ := List.any_eq_true.mp hany
    simp only [Bool.and_eq_true, beq_iff_eq] at hhit
    exact Or.inr ⟨s, hs, hhit.1.1, hhit.1.2, hhit.2, rfl⟩
  next hnone =>
    refine Or.inl ⟨fun s hs hid hended => ?_, rfl⟩
    have hmiss := List.any_eq_false.mp (eq_false_of_ne_true hnone) s hs
    simpa [hid, hended] using hmiss

/-! ## What holds after a transaction -/

section

variable {c : Catalog} {P : Catalog → Prop}

theorem openSession_induct {r : LeaseRequest} {now : Int} (h : P c)
    (hwrite : c.admits r = true → P (c.opened r now)) : P (c.openSession r now).2 := by
  rcases c.openSession_cases r now with ⟨-, hrun⟩ | ⟨-, -, hrun⟩ | ⟨-, hadmits, hrun⟩
  · rwa [hrun]
  · rwa [hrun]
  · rw [hrun]
    exact hwrite hadmits

theorem extendSession_induct {token : String} {expiry now : Int} (h : P c)
    (hwrite : P (c.updateSessions (fun t => holds token t && decide (now < t.expiry))
      (Session.extend expiry))) : P (c.extendSession token expiry now).2 := by
  rcases c.extendSession_cases token expiry now with ⟨-, hrun⟩ | ⟨_, -, -, -, hrun⟩
  · rwa [hrun]
  · rwa [hrun]

theorem endSession_induct {group : String} {now : Int} (h : P c)
    (hwrite : ∀ s ∈ c.sessions, s.group = group → s.ended = false →
      P (c.closed (fun t => t.group == group && !t.ended) group now)) :
    P (c.endSession group now).2 := by
  rcases c.endSession_cases group now with ⟨-, hrun⟩ | ⟨s, hs, hgroup, hlive, hrun⟩
  · rwa [hrun]
  · rw [hrun]
    exact hwrite s hs hgroup hlive

theorem endByToken_induct {token : String} {now : Int} (h : P c)
    (hwrite : ∀ s ∈ c.sessions, s.token = some token → s.ended = false →
      P (c.closed (fun t => holds token t && !t.ended) s.group now)) :
    P (c.endByToken token now).2 := by
  rcases c.endByToken_cases token now with ⟨-, hrun⟩ | ⟨s, hs, htoken, hlive, hrun⟩
  · rwa [hrun]
  · rw [hrun]
    exact hwrite s hs htoken hlive

theorem raise_induct {guard : Session → Bool} {flag : Session → Session} {read : Session}
    {text : NoticeText} {now : Int} (h : P c)
    (hwrite : P (c.raised (fun t => t.id == read.id && guard t) flag read.user text now)) :
    P (raise guard flag read text now c).2 := by
  rcases c.raise_cases guard flag read text now with ⟨-, hrun⟩ | ⟨_, -, -, -, hrun⟩
  · rwa [hrun]
  · rwa [hrun]

theorem finalize_induct {read : Session} (h : P c)
    (hwrite : ∀ s ∈ c.sessions, s.id = read.id → s.ended = true → s.offTold = true →
      P (c.dropped (fun t => t.id == read.id && t.ended && t.offTold) read.group)) :
    P (c.finalize read).2 := by
  rcases c.finalize_cases read with ⟨-, hrun⟩ | ⟨s, hs, hid, hended, htold, hrun⟩
  · rwa [hrun]
  · rw [hrun]
    exact hwrite s hs hid hended htold

end

end Catalog
end PowerLease
