import PowerLease.Proofs.Leasing.Asks

/-!
# Whether a lease lies ahead

A lease ends at the clock plus the whole seconds of its duration, while a duration is refused for having no
length only if it has not even a nanosecond. What lies between the two is granted, and is over at once: a
grant lies ahead exactly if its text denotes one second or more (`grant_exact`).

What a grant is good for shows where more time is asked for at once. The session that a token extends is the
first one that holds it and lies ahead (`Catalog.extendable?`). Behind a grant this is the session that was
written for it, or none.
-/

namespace PowerLease

namespace Catalog

variable {c : Catalog} {r : LeaseRequest} {token : String} {now : Int} {s : Session}

/-- Whether a token extends a session. -/
def canExtend (token : String) (now : Int) (s : Session) : Bool := holds token s && decide (now < s.expiry)

theorem canExtend_iff : canExtend token now s = true ↔ s.token = some token ∧ now < s.expiry := by
  simp [canExtend, holds]

/-- The session that a token extends. -/
def extendable? (token : String) (now : Int) (c : Catalog) : Option Session :=
  c.sessions.find? (canExtend token now)

/-- The catalog after a token was used to move an expiry. -/
def extended (token : String) (expiry now : Int) (c : Catalog) : Catalog :=
  c.updateSessions (canExtend token now) (Session.extend expiry)

/-- A token that was not in use extends the session that was opened with it, if that lies ahead. -/
theorem extendable?_opened (h : c.admits r = true) (now : Int) : (c.opened r now).extendable? r.token now =
    if now < r.expiry then some (r.session (c.lastSession + 1)) else none := by
  have hnone : c.sessions.find? (canExtend r.token now) = none := by
    refine List.find?_eq_none.mpr fun s hs hcan => ?_
    exact (admits_iff.mp h s hs).2 (canExtend_iff.mp hcan).1
  rw [extendable?, opened, List.find?_append, hnone, Option.none_or]
  by_cases hahead : now < r.expiry <;> simp [canExtend, holds, LeaseRequest.session, hahead]

/-- What was extended can be extended again, if it still lies ahead. -/
theorem extendable?_extended (token : String) (expiry now : Int) (c : Catalog) :
    (c.extended token expiry now).extendable? token now =
      if now < expiry then (c.extendable? token now).map (Session.extend expiry) else none := by
  have hagain : ∀ s : Session,
      canExtend token now (if canExtend token now s then s.extend expiry else s) =
        (canExtend token now s && decide (now < expiry)) := by
    intro s
    cases hs : canExtend token now s with
    | false => exact hs
    | true =>
      have hholds : holds token (s.extend expiry) = true := (Bool.and_eq_true_iff.mp hs).1
      rw [if_pos rfl, canExtend, hholds]
      rfl
  rw [extendable?, extended, updateSessions, List.find?_map]
  simp only [Function.comp_def, hagain]
  split_ifs with hahead
  · simp only [hahead, decide_true, Bool.and_true, extendable?]
    cases hfind : c.sessions.find? fun s => canExtend token now s with
    | none => rfl
    | some s => rw [Option.map_some, if_pos (List.find?_some hfind), Option.map_some]
  · simp [hahead]

end Catalog

namespace Leasing

variable {a : Ask} {text token : String} {now expiry : Int} {store after : Store} {g : Grant} {d : Duration}

/-! ## What is granted -/

theorem extend_of_term (h : term text now = .ok (d, expiry)) (token : String) (c : Catalog) :
    extend token text now (.opened c) =
      match c.extendable? (tokenDigest token) now with
      | none => (refuse .sessionNotFound, .opened c)
      | some s => (.ok ⟨s.group, d, expiry⟩, .opened (c.extended (tokenDigest token) expiry now)) := by
  simp only [extend, h, Store.attempt, Catalog.extendSession]
  rw [show (c.sessions.find? fun s => Catalog.holds (tokenDigest token) s && decide (now < s.expiry)) =
    c.extendable? (tokenDigest token) now from rfl]
  cases c.extendable? (tokenDigest token) now <;> rfl

/-- A lease that is granted is opened with a token that was not in use. -/
theorem exists_of_leased {user email group : String}
    (h : lease user email group text token now store = (.ok g, after)) :
    ∃ c : Catalog, term text now = .ok (g.duration, g.expiry) ∧
      let r : LeaseRequest := ⟨tokenDigest token, user, email, g.group, g.expiry⟩
      c.admits r = true ∧ after = .opened (c.opened r now) := by
  unfold lease at h
  split at h
  next => exact absurd (Prod.mk.inj h).1 (by simp)
  next d expiry hterm =>
  cases store with
  | closed => exact absurd (Prod.mk.inj h).1 refuse_ne_ok
  | opened c =>
  simp only [Store.attempt] at h
  rcases c.openSession_cases ⟨tokenDigest token, user, email, group, expiry⟩ now with
    ⟨-, hopen⟩ | ⟨-, -, hopen⟩ | ⟨-, hadmits, hopen⟩
  · rw [hopen] at h
    exact absurd (Prod.mk.inj h).1 refuse_ne_ok
  · rw [hopen] at h
    exact absurd (Prod.mk.inj h).1 refuse_ne_ok
  · rw [hopen] at h
    obtain ⟨hgrant, rfl⟩ := Prod.mk.inj h
    rw [← Except.ok.inj hgrant]
    exact ⟨c, hterm, hadmits, rfl⟩

/-- More time that is granted is granted to the session that the token extends. -/
theorem exists_of_extended (h : extend token text now store = (.ok g, after)) :
    ∃ (c : Catalog) (s : Session), term text now = .ok (g.duration, g.expiry) ∧
      c.extendable? (tokenDigest token) now = some s ∧ s.group = g.group ∧
      after = .opened (c.extended (tokenDigest token) g.expiry now) := by
  cases hterm : term text now with
  | error halt =>
    rw [extend, hterm] at h
    exact absurd (Prod.mk.inj h).1 (by simp)
  | ok length =>
  cases store with
  | closed =>
    rw [extend, hterm] at h
    exact absurd (Prod.mk.inj h).1 refuse_ne_ok
  | opened c =>
  rw [extend_of_term hterm] at h
  cases hfind : c.extendable? (tokenDigest token) now with
  | none =>
    rw [hfind] at h
    exact absurd (Prod.mk.inj h).1 refuse_ne_ok
  | some s =>
    rw [hfind] at h
    obtain ⟨hgrant, rfl⟩ := Prod.mk.inj h
    rw [← Except.ok.inj hgrant]
    exact ⟨c, s, rfl, hfind, rfl, rfl⟩

/-- What a request leaves behind that is granted: a session that has the token, the group and the expiry of
the grant. The token extends this session if it lies ahead, and none otherwise. -/
theorem exists_of_granted (h : a.run text now store = (.ok g, after)) :
    term text now = .ok (g.duration, g.expiry) ∧ ∃ c, after = .opened c ∧ ∃ s ∈ c.sessions,
      (s.token = some (tokenDigest a.token) ∧ s.group = g.group ∧ s.expiry = g.expiry) ∧
        c.extendable? (tokenDigest a.token) now = if now < g.expiry then some s else none := by
  cases a with
  | lease user email group token =>
    obtain ⟨c, hterm, hadmits, rfl⟩ := exists_of_leased h
    refine ⟨hterm, _, rfl, _, ?_, ⟨rfl, rfl, rfl⟩, Catalog.extendable?_opened hadmits now⟩
    exact List.mem_append_right _ List.mem_cons_self
  | extend token =>
    obtain ⟨c, s, hterm, hfind, hgroup, rfl⟩ := exists_of_extended h
    have hcan := List.find?_some hfind
    refine ⟨hterm, _, rfl, s.extend g.expiry, ?_, ⟨(Catalog.canExtend_iff.mp hcan).1, hgroup, rfl⟩, ?_⟩
    · exact List.mem_map.mpr ⟨s, List.mem_of_find?_eq_some hfind, if_pos hcan⟩
    · show Catalog.extendable? (tokenDigest token) now _ = _
      rw [Catalog.extendable?_extended, hfind]
      rfl

/-- More time is granted at once to what lies ahead, and refused to what does not. -/
theorem extend_of_granted (h : a.run text now store = (.ok g, after)) {more : String}
    (hmore : term more now = .ok (d, expiry)) : (extend a.token more now after).1 =
      if now < g.expiry then .ok ⟨g.group, d, expiry⟩ else refuse .sessionNotFound := by
  obtain ⟨-, c, rfl, s, -, ⟨-, hgroup, -⟩, hfind⟩ := exists_of_granted h
  rw [extend_of_term hmore, hfind]
  split_ifs with hahead
  · rw [← hgroup]
  · rfl

/-! ## Together -/

/-- What is known of a request that is granted. -/
structure Ask.Granted (a : Ask) (text : String) (now : Int) (g : Grant) (after : Store) : Prop where
  denotes_iff : ∀ n, Duration.Denotes (Text.trim text).toList n ↔ n = g.duration.toNanos
  expiry : g.expiry = now + g.duration.seconds
  stored : ∃ c, after = .opened c ∧ ∃ s ∈ c.sessions,
    s.token = some (tokenDigest a.token) ∧ s.group = g.group ∧ s.expiry = g.expiry
  /-- The grant lies ahead. -/
  ahead : now < g.expiry ↔ 1000000000 ≤ g.duration.toNanos
  /-- More time can be asked for at once, with the token. -/
  more : ∀ more d expiry, term more now = .ok (d, expiry) →
    (Leasing.extend a.token more now after).1 =
      if now < g.expiry then .ok ⟨g.group, d, expiry⟩ else refuse .sessionNotFound

theorem granted_of_ok (h : a.run text now store = (.ok g, after)) : a.Granted text now g after := by
  obtain ⟨hterm, c, hafter, s, hs, hsession, -⟩ := exists_of_granted h
  obtain ⟨hread, hexpiry⟩ := of_term_eq_ok hterm
  refine ⟨fun n => Duration.denotes_iff_of_readPositive hread, hexpiry, ⟨c, hafter, s, hs, hsession⟩, ?_,
    fun more d expiry hmore => extend_of_granted h hmore⟩
  have hnanos := g.duration.nanos_lt
  rw [hexpiry, Duration.toNanos]
  omega

/-- **What lies ahead is what denotes a second.** A grant stores the clock plus the whole seconds of what its
text denotes. It lies ahead exactly if this is one second or more, and exactly then its token is good for more
time at once. Only a text that denotes no time at all is refused for that, and one that denotes less than a
second is carried out with an expiry that has come. -/
theorem grant_exact (a : Ask) (text : String) (now : Int) (store : Store) :
    (∀ g after, a.run text now store = (.ok g, after) → a.Granted text now g after) ∧
    ((a.run text now store).1 = refuse (.invalidDuration (.refused ⟨text, .zero⟩)) ↔
      Text.trim text = "0" ∨
        Duration.Sums (Text.trim text).toList .zero ∧ ¬Duration.Blank (Text.trim text).toList) ∧
    ∀ d, Duration.readPositive text = .ok d → d.toNanos < 1000000000 → now ≤ Timestamp.last →
      a.CarriedOut d now now store (a.run text now store) := by
  refine ⟨fun g after h => granted_of_ok h, run_eq_refused_iff.trans Duration.readPositive_eq_zero_iff, ?_⟩
  intro d hread hshort hnow
  have hseconds : d.seconds = 0 := by
    rw [Duration.toNanos] at hshort
    omega
  have hexpiry : now + d.seconds = now := by rw [hseconds, Int.natCast_zero, Int.add_zero]
  have hdone := carriedOut_of_fits hread (by rw [hseconds]; decide) (hexpiry ▸ hnow) a store
  rwa [hexpiry] at hdone

/-- One hour lies ahead, and can be made two. -/
theorem grant_exact_hour : ∃ g after,
    (Ask.lease "u1" "u1@example.com" "QA" "t1").run "1h" 100 (.opened vacant) = (.ok g, after) ∧
      100 < g.expiry ∧ (Leasing.extend "t1" "2h" 100 after).1 = .ok ⟨"QA", .ofSeconds 7200, 7300⟩ := by
  have hrun : ((Ask.lease "u1" "u1@example.com" "QA" "t1").run "1h" 100 (.opened vacant)).1 =
      .ok ⟨"QA", .ofSeconds 3600, 3700⟩ := by decide +kernel
  have h := (grant_exact (.lease "u1" "u1@example.com" "QA" "t1") "1h" 100 (.opened vacant)).1 _ _
    (Prod.ext hrun rfl)
  have hahead := h.ahead.mpr (by decide)
  refine ⟨_, _, Prod.ext hrun rfl, hahead, ?_⟩
  exact (h.more "2h" (.ofSeconds 7200) 7300 (by decide +kernel)).trans (if_pos hahead)

/-- Half a second is granted, and is over as soon as it is granted. -/
theorem not_ahead_half_second : ¬∀ (a : Ask) (text : String) (now : Int) (store : Store) (g : Grant)
    (after : Store), a.run text now store = (.ok g, after) → now < g.expiry := by
  intro h
  have hrun : ((Ask.lease "u1" "u1@example.com" "QA" "t1").run "500ms" 100 (.opened vacant)).1 =
      .ok ⟨"QA", ⟨0, 500000000, by decide, by decide⟩, 100⟩ := by decide +kernel
  exact absurd (h _ _ _ _ _ _ (Prod.ext hrun rfl)) (by decide)

end Leasing
end PowerLease
