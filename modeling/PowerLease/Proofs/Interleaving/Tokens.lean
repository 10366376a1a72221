import PowerLease.Leasing
import PowerLease.Proofs.Interleaving.Flags
import PowerLease.Proofs.Interleaving.Tenancy

/-!
# What a token is good for

A holder is known by a token alone, and the catalog keeps only its digest. Here the leases of an
interleaving are those that the leasing service has granted, and it is recorded which token was given for
which session (`Issuing`). At any time, the row of a live session carries the digest of the token that was
given for it, and of no other (`Issued`). So, as far as the digests of different tokens differ, a token is
good for the one session that it was given for, as long as that lives: its holder can give the group back,
and have more time before the expiry has come. Nobody else can do anything with any other text.

A session that has ended keeps no token, and no session is given its id again. So a token that was good for
it is good for nothing from then on, also when the group has been leased again (`authority_of_issuing`).
-/

namespace PowerLease

/-! ## Runs with the tokens that were given -/

/-- A token that a holder was given, and the id of the session that it was given for. -/
structure Issue where
  token : String
  session : Nat
deriving DecidableEq, Repr

/-- The interleavings in which leases are opened by the leasing service only, with the tokens that it has
given, the last one in front. A lease that is refused changes nothing, and its token is not given. -/
inductive Issuing : List Issue → Journal → Catalog → Prop
  | start : Issuing [] [] .empty
  | lease {issued : List Issue} {journal : Journal} {c c' : Catalog}
    (user email group duration token : String) (now : Int) {grant : Grant}
    (h : Issuing issued journal c)
    (hlease : Leasing.lease user email group duration token now (.opened c) =
      (.ok grant, .opened c')) :
    Issuing (⟨token, c'.lastSession⟩ :: issued)
      (⟨c, .openSession ⟨Leasing.tokenDigest token, user, email, group, grant.expiry⟩ now⟩ :: journal)
      c'
  | others {issued : List Issue} {journal : Journal} {c : Catalog} (t : Transaction)
    (h : Issuing issued journal c) (ht : t.byOthers = true)
    (hlease : ∀ request now, t ≠ .openSession request now) :
    Issuing issued (⟨c, t⟩ :: journal) (t.run c)
  | lifecycle {issued : List Issue} {journal : Journal} {c : Catalog} (t : Transaction)
    (h : Issuing issued journal c) {p : Catalog} (hp : p ∈ c :: journal.map Entry.met)
    (ht : Lifecycle.Decides p t) : Issuing issued (⟨c, t⟩ :: journal) (t.run c)

/-- A lease that is granted opens a session under the digest of its token. -/
theorem Leasing.openSession_of_lease {user email group duration token : String} {now : Int}
    {grant : Grant} {c c' : Catalog}
    (h : lease user email group duration token now (.opened c) = (.ok grant, .opened c')) :
    ∃ s, c.openSession ⟨tokenDigest token, user, email, group, grant.expiry⟩ now = (.ok s, c') := by
  unfold lease at h
  split at h
  next => cases (Prod.mk.inj h).1
  next d expiry hterm =>
    simp only [Store.attempt] at h
    split at h
    next => cases (Prod.mk.inj h).1
    next s after hopen =>
      obtain ⟨hgrant, hafter⟩ := Prod.mk.inj h
      rw [← Except.ok.inj hgrant]
      exact ⟨s, Prod.ext (Prod.mk.inj hopen).1 (Store.opened.inj ((Prod.mk.inj hopen).2.trans hafter))⟩

/-! ## Rows and tokens -/

/-- How the rows of a catalog belong to the tokens that were given. -/
structure Issued (issued : List Issue) (c : Catalog) : Prop where
  session_le : ∀ i ∈ issued, i.session ≤ c.lastSession
  /-- Every row is there for a token that was given. -/
  exists_issue : ∀ s ∈ c.sessions, ∃ i ∈ issued, i.session = s.id
  /-- A live row carries the digest of the token that was given for it. -/
  token_eq : ∀ i ∈ issued, ∀ s ∈ c.sessions, s.id = i.session → s.ended = false →
    s.token = some (Leasing.tokenDigest i.token)

namespace Issued

variable {issued : List Issue} {c : Catalog} {t : Transaction}

theorem start : Issued [] .empty :=
  ⟨fun _ hi => absurd hi List.not_mem_nil, fun _ hs => absurd hs List.not_mem_nil,
    fun _ hi => absurd hi List.not_mem_nil⟩

/-- A transaction that opens no session leaves rows and tokens together. -/
theorem run (h : Issued issued c) (ht : t.opens c = []) : Issued issued (t.run c) := by
  have hrow : ∀ s' ∈ (t.run c).sessions, ∃ s ∈ c.sessions, Transaction.Makes s t s' := by
    intro s' hs'
    rcases Transaction.mem_sessions_run.mp hs' with ⟨s, hs, hmade⟩ | hopened
    · exact ⟨s, hs, Transaction.makes_of_onSession hmade⟩
    · rw [ht] at hopened
      exact absurd hopened List.not_mem_nil
  refine ⟨fun i hi => ?_, fun s' hs' => ?_, fun i hi s' hs' hid hlive => ?_⟩
  · exact Nat.le_trans (h.session_le i hi) (Catalog.follows_run c t).lastSession_le
  · obtain ⟨s, hs, hmakes⟩ := hrow s' hs'
    obtain ⟨i, hi, hid⟩ := h.exists_issue s hs
    exact ⟨i, hi, hid.trans hmakes.sameLease.id⟩
  · obtain ⟨s, hs, hmakes⟩ := hrow s' hs'
    have hbefore : s.ended = false := by
      refine eq_false_of_ne_true fun hended => ?_
      exact Bool.false_ne_true (hlive.symm.trans (hmakes.ended_of_ended hended))
    rw [hmakes.token_eq hlive]
    exact h.token_eq i hi s hs (hmakes.sameLease.id.trans hid) hbefore

/-- A session that is opened under the digest of a token is there for this token. -/
theorem lease (h : Issued issued c) (hc : c.Consistent) {token user email group : String}
    {expiry now : Int} {s : Session} {c' : Catalog}
    (hopen : c.openSession ⟨Leasing.tokenDigest token, user, email, group, expiry⟩ now =
      (.ok s, c')) : Issued (⟨token, c'.lastSession⟩ :: issued) c' := by
  rcases c.openSession_cases ⟨Leasing.tokenDigest token, user, email, group, expiry⟩ now with
    ⟨-, hrun⟩ | ⟨-, -, hrun⟩ | ⟨-, -, hrun⟩
  · exact nomatch (Prod.mk.inj (hopen.symm.trans hrun)).1
  · exact nomatch (Prod.mk.inj (hopen.symm.trans hrun)).1
  rw [(Prod.mk.inj (hopen.symm.trans hrun)).2]
  have hlast : ∀ i ∈ issued, i.session ≠ c.lastSession + 1 := fun i hi heq =>
    absurd (h.session_le i hi) (heq ▸ Nat.not_succ_le_self _)
  have hnew : ∀ s ∈ c.sessions, s.id ≠ c.lastSession + 1 :=
    hc.id_ne_of_lt (Nat.lt_succ_self c.lastSession)
  refine ⟨fun i hi => ?_, fun s hs => ?_, fun i hi s hs hid hlive => ?_⟩
  · rcases List.mem_cons.mp hi with rfl | hi
    · exact Nat.le_refl _
    · exact Nat.le_succ_of_le (h.session_le i hi)
  · rcases List.mem_append.mp hs with hs | hs
    · obtain ⟨i, hi, hid⟩ := h.exists_issue s hs
      exact ⟨i, List.mem_cons_of_mem _ hi, hid⟩
    · rw [List.mem_singleton.mp hs]
      exact ⟨_, List.mem_cons_self, rfl⟩
  · -- the new row and the new token belong together, and so do the old ones
    rcases List.mem_cons.mp hi with rfl | hi <;> rcases List.mem_append.mp hs with hs | hs
    · exact absurd hid (hnew s hs)
    · rw [List.mem_singleton.mp hs]
      rfl
    · exact h.token_eq i hi s hs hid hlive
    · rw [List.mem_singleton.mp hs] at hid
      exact absurd hid.symm (hlast i hi)

/-- The row that carries the digest of a text is the one of the live session that the text was given
for, if no other token has this digest. -/
theorem token_iff (h : Issued issued c) (hc : c.Consistent) {text : String}
    (hdigest : ∀ i ∈ issued, Leasing.tokenDigest i.token = Leasing.tokenDigest text →
      i.token = text) {s : Session} (hs : s ∈ c.sessions) :
    s.token = some (Leasing.tokenDigest text) ↔ s.ended = false ∧ ⟨text, s.id⟩ ∈ issued := by
  constructor
  · intro htoken
    have hlive : s.ended = false := Transaction.Makes.live_of_token hc hs htoken
    obtain ⟨i, hi, hid⟩ := h.exists_issue s hs
    have hcarried := h.token_eq i hi s hs hid.symm hlive
    have hsame := hdigest i hi (Option.some.inj (hcarried.symm.trans htoken))
    rw [← hsame, ← hid]
    exact ⟨hlive, hi⟩
  · rintro ⟨hlive, hissued⟩
    exact h.token_eq _ hissued s hs rfl hlive

end Issued

namespace Issuing

variable {issues : List Issue} {journal : Journal} {c : Catalog}

theorem interleaving (h : Issuing issues journal c) : Interleaving journal c := by
  induction h with
  | start => exact .start
  | @lease _ _ _ _ user email group _ token now grant _ hlease ih =>
    obtain ⟨s, hopen⟩ := Leasing.openSession_of_lease hlease
    have hrun := ih.others
      (.openSession ⟨Leasing.tokenDigest token, user, email, group, grant.expiry⟩ now) rfl
    rw [Transaction.run, hopen] at hrun
    exact hrun
  | others t _ ht _ ih => exact ih.others t ht
  | lifecycle t _ hp ht ih => exact ih.lifecycle t hp ht

theorem issued (h : Issuing issues journal c) : Issued issues c := by
  induction h with
  | start => exact .start
  | lease _ _ _ _ _ _ h hlease ih =>
    obtain ⟨s, hopen⟩ := Leasing.openSession_of_lease hlease
    exact ih.lease h.interleaving.consistent hopen
  | others t _ _ hlease ih =>
    refine ih.run ?_
    cases t with
    | openSession request now => exact absurd rfl (hlease request now)
    | _ => rfl
  | lifecycle t _ _ ht ih =>
    refine ih.run ?_
    cases ht <;> rfl

end Issuing

/-! ## Sessions that are over -/

namespace Interleaving

variable {journal : Journal} {c p : Catalog} {e : Entry} {s : Session}

/-- A session that was no longer live at some time is not live since. -/
theorem ended_of_ended (h : Interleaving journal c) (hp : p ∈ c :: journal.map Entry.met)
    (hle : s.id ≤ p.lastSession) (hended : ∀ r ∈ p.sessions, r.id = s.id → r.ended = true)
    (hs : s ∈ c.sessions) : s.ended = true := by
  obtain ⟨since, before, rfl, hbefore⟩ := h.of_mem hp
  obtain ⟨r, hr, hsame⟩ := (hbefore.follows h).sameLease s hs hle
  exact (hbefore.session_since hr h hs hsame.id.symm).ended (hended r hr hsame.id)

/-- A session that a transaction is meant to end has ended after it. -/
theorem ended_of_ends (h : Interleaving journal c) (he : e ∈ journal) (hs : s ∈ e.met.sessions)
    (hends : e.did.ends s = true) :
    ∀ r ∈ (e.did.run e.met).sessions, r.id = s.id → r.ended = true := by
  intro r hr hid
  have hmakes := h.makes_of_id he hs hr hid
  cases hlive : s.ended with
  | true => exact hmakes.ended_of_ended hlive
  | false => exact (hmakes.ended_iff hlive).mpr hends

/-- What an entry has led to, the next one has met. -/
theorem mem_of_led (h : Interleaving journal c) (he : e ∈ journal) :
    e.did.run e.met ∈ c :: journal.map Entry.met := by
  induction journal generalizing c with
  | nil => exact absurd he List.not_mem_nil
  | cons e' rest ih =>
    obtain ⟨hrest, hc⟩ := h.of_cons
    rcases List.mem_cons.mp he with rfl | he
    · rw [hc]
      exact List.mem_cons_self
    · exact List.mem_cons_of_mem c (ih hrest he)

theorem id_le_of_led (h : Interleaving journal c) (he : e ∈ journal) (hs : s ∈ e.met.sessions) :
    s.id ≤ (e.did.run e.met).lastSession := by
  obtain ⟨_, _, -, hmet, -⟩ := h.exists_before he
  exact Nat.le_trans (hmet.consistent.sessionIds_le s hs)
    (Catalog.follows_run e.met e.did).lastSession_le

end Interleaving

/-! ## What the service answers -/

/-- Whether a text is good for nothing: whoever has it can neither give a group back nor have more time. -/
def Catalog.Ignores (c : Catalog) (text : String) : Prop :=
  (∀ now, Leasing.giveBack text now (.opened c) = (refuse .sessionNotFound, .opened c)) ∧
    ∀ duration now term, Leasing.term duration now = .ok term →
      Leasing.extend text duration now (.opened c) = (refuse .sessionNotFound, .opened c)

namespace Leasing

variable {c : Catalog} {s : Session} {text duration : String} {d : Duration} {expiry now : Int}

/-- A text whose digest no row carries is good for nothing. -/
theorem ignores_of_missed (hmiss : ∀ s ∈ c.sessions, s.token ≠ some (tokenDigest text)) :
    c.Ignores text := by
  constructor
  · intro now
    rcases c.endByToken_cases (tokenDigest text) now with ⟨-, hrun⟩ | ⟨s, hs, htoken, -⟩
    · rw [giveBack, Store.attempt, hrun]
      rfl
    · exact absurd htoken (hmiss s hs)
  · rintro duration now ⟨d, expiry⟩ hterm
    rcases c.extendSession_cases (tokenDigest text) expiry now with ⟨-, hrun⟩ | ⟨s, hs, htoken, -⟩
    · rw [extend, hterm]
      simp only [Store.attempt]
      rw [hrun]
      rfl
    · exact absurd htoken (hmiss s hs)

section

variable (hc : c.Consistent) (hs : s ∈ c.sessions) (htoken : s.token = some (tokenDigest text))
include hc hs htoken

/-- A digest picks one row. -/
theorem holds_eq_id {r : Session} (hr : r ∈ c.sessions) :
    Catalog.holds (tokenDigest text) r = decide (r.id = s.id) := by
  rw [Catalog.holds, Bool.eq_iff_iff, beq_iff_eq, decide_eq_true_eq]
  constructor
  · intro hheld
    rw [hc.session_eq_of_token hr hs hheld htoken]
  · intro hid
    rw [hc.session_eq_of_id hr hs hid, htoken]

/-- A group that is given back. -/
theorem giveBack_eq (now : Int) : giveBack text now (.opened c) =
    (.ok s.group, .opened { c with
      sessions := c.sessions.map fun r =>
        if r.id = s.id then { r with token := none, unannounced := true, ended := true } else r
      servers := c.servers.map fun v =>
        if v.group = s.group then { v with target := some .off, lastOffAt := some now } else v }) := by
  have hlive : s.ended = false := Transaction.Makes.live_of_token hc hs htoken
  rcases c.endByToken_cases (tokenDigest text) now with ⟨hmiss, -⟩ | ⟨r, hr, hheld, -, hrun⟩
  · exact absurd (hlive.symm.trans (hmiss s hs htoken)) Bool.false_ne_true
  obtain rfl : r = s := hc.session_eq_of_token hr hs hheld htoken
  have hsessions : (c.sessions.map fun q =>
      if Catalog.holds (tokenDigest text) q && !q.ended then q.end else q) =
      c.sessions.map fun q =>
        if q.id = r.id then { q with token := none, unannounced := true, ended := true } else q := by
    refine List.map_congr_left fun q hq => ?_
    rw [holds_eq_id hc hs htoken hq]
    by_cases hid : q.id = r.id
    · rw [hc.session_eq_of_id hq hs hid]
      simp only [hlive, Bool.not_false, Bool.and_true, decide_true, if_true]
      rfl
    · simp only [hid, decide_false, Bool.false_and, Bool.false_eq_true, if_false]
  rw [giveBack, Store.attempt, hrun, ← hsessions]
  simp only [Catalog.closed, Catalog.updateGroup, Catalog.updateSessions, beq_iff_eq]
  rfl

/-- A lease that is given more time. -/
theorem extend_eq (hterm : term duration now = .ok (d, expiry)) (hnow : now < s.expiry) :
    extend text duration now (.opened c) =
      (.ok { group := s.group, duration := d, expiry }, .opened { c with
        sessions := c.sessions.map fun r =>
          if r.id = s.id then { r with expiry, warned := false } else r }) := by
  rcases c.extendSession_cases (tokenDigest text) expiry now with
    ⟨hmiss, -⟩ | ⟨r, hr, hheld, -, hrun⟩
  · exact absurd (hmiss s hs htoken) (Int.not_le.mpr hnow)
  obtain rfl : r = s := hc.session_eq_of_token hr hs hheld htoken
  have hsessions : (c.sessions.map fun q =>
      if Catalog.holds (tokenDigest text) q && decide (now < q.expiry) then q.extend expiry else q) =
      c.sessions.map fun q => if q.id = r.id then { q with expiry, warned := false } else q := by
    refine List.map_congr_left fun q hq => ?_
    rw [holds_eq_id hc hs htoken hq]
    by_cases hid : q.id = r.id
    · rw [hc.session_eq_of_id hq hs hid]
      simp only [hnow, Bool.and_true, decide_true, if_true]
      rfl
    · simp only [hid, decide_false, Bool.false_and, Bool.false_eq_true, if_false]
  rw [extend, hterm]
  simp only [Store.attempt]
  rw [hrun, ← hsessions]
  rfl

/-- A lease whose expiry has come is given no more time. -/
theorem extend_of_late (hterm : term duration now = .ok (d, expiry)) (hlate : s.expiry ≤ now) :
    extend text duration now (.opened c) = (refuse .sessionNotFound, .opened c) := by
  rcases c.extendSession_cases (tokenDigest text) expiry now with
    ⟨-, hrun⟩ | ⟨r, hr, hheld, hnow, -⟩
  · rw [extend, hterm]
    simp only [Store.attempt]
    rw [hrun]
    rfl
  · rw [hc.session_eq_of_token hr hs hheld htoken] at hnow
    exact absurd hnow (Int.not_lt.mpr hlate)

end

end Leasing

/-- What a text is good for. -/
structure Authority (issued : List Issue) (journal : Journal) (c : Catalog) (text : String) :
    Prop where
  /-- Who has the token of a live session gives its group back, at any time. Its servers are wanted off,
  and no other row is touched. -/
  giveBack : ∀ s ∈ c.sessions, s.ended = false → ⟨text, s.id⟩ ∈ issued → ∀ now,
    Leasing.giveBack text now (.opened c) = (.ok s.group, .opened { c with
      sessions := c.sessions.map fun r =>
        if r.id = s.id then { r with token := none, unannounced := true, ended := true } else r
      servers := c.servers.map fun v =>
        if v.group = s.group then { v with target := some .off, lastOffAt := some now } else v })
  /-- He has more time before the expiry has come. No other row is touched. -/
  extend : ∀ s ∈ c.sessions, s.ended = false → ⟨text, s.id⟩ ∈ issued →
    ∀ duration now d expiry, Leasing.term duration now = .ok (d, expiry) → now < s.expiry →
      Leasing.extend text duration now (.opened c) =
        (.ok { group := s.group, duration := d, expiry }, .opened { c with
          sessions := c.sessions.map fun r =>
            if r.id = s.id then { r with expiry, warned := false } else r })
  /-- But not from then on. -/
  late : ∀ s ∈ c.sessions, s.ended = false → ⟨text, s.id⟩ ∈ issued →
    ∀ duration now d expiry, Leasing.term duration now = .ok (d, expiry) → s.expiry ≤ now →
      Leasing.extend text duration now (.opened c) = (refuse .sessionNotFound, .opened c)
  /-- Any other text is good for nothing. -/
  ignored : (∀ s ∈ c.sessions, s.ended = false → ⟨text, s.id⟩ ∉ issued) → c.Ignores text
  /-- The token of a session that was no longer live at some time is good for nothing since. -/
  revoked : ∀ p ∈ c :: journal.map Entry.met, ∀ id ≤ p.lastSession, ⟨text, id⟩ ∈ issued →
    (∀ s ∈ p.sessions, s.id = id → s.ended = true) → c.Ignores text
  /-- So it is since the session was ended, by its holder or by the lifecycle. -/
  ended : ∀ e ∈ journal, ∀ s ∈ e.met.sessions, ⟨text, s.id⟩ ∈ issued → e.did.ends s = true →
    c.Ignores text

/-- **A token is good for the lease that it was given for, and only as long as that lasts.** In every run in
which no two leases have the same token, and for every text whose digest no other token has. -/
theorem authority_of_issuing {issued : List Issue} {journal : Journal} {c : Catalog}
    (h : Issuing issued journal c) (htokens : (issued.map Issue.token).Nodup) (text : String)
    (hdigest : ∀ i ∈ issued, Leasing.tokenDigest i.token = Leasing.tokenDigest text →
      i.token = text) : Authority issued journal c text := by
  have hinter := h.interleaving
  have hc := hinter.consistent
  have hcarries : ∀ s ∈ c.sessions, s.ended = false → ⟨text, s.id⟩ ∈ issued →
      s.token = some (Leasing.tokenDigest text) :=
    fun s hs hlive hissued => (h.issued.token_iff hc hdigest hs).mpr ⟨hlive, hissued⟩
  have hignored : (∀ s ∈ c.sessions, s.ended = false → ⟨text, s.id⟩ ∉ issued) →
      c.Ignores text := by
    refine fun hnone => Leasing.ignores_of_missed fun s hs htoken => ?_
    obtain ⟨hlive, hissued⟩ := (h.issued.token_iff hc hdigest hs).mp htoken
    exact hnone s hs hlive hissued
  have hrevoked : ∀ p ∈ c :: journal.map Entry.met, ∀ id ≤ p.lastSession, ⟨text, id⟩ ∈ issued →
      (∀ s ∈ p.sessions, s.id = id → s.ended = true) → c.Ignores text := by
    intro p hp id hle hissued hended
    refine hignored fun s hs hlive hs' => ?_
    -- the text was given once only
    obtain rfl : s.id = id :=
      congrArg Issue.session (List.inj_on_of_nodup_map htokens hs' hissued rfl)
    have hover := hinter.ended_of_ended hp hle hended hs
    exact Bool.false_ne_true (hlive.symm.trans hover)
  constructor
  · exact fun s hs hlive hissued now => Leasing.giveBack_eq hc hs (hcarries s hs hlive hissued) now
  · exact fun s hs hlive hissued _ _ _ _ hterm hnow =>
      Leasing.extend_eq hc hs (hcarries s hs hlive hissued) hterm hnow
  · exact fun s hs hlive hissued _ _ _ _ hterm hlate =>
      Leasing.extend_of_late hc hs (hcarries s hs hlive hissued) hterm hlate
  · exact hignored
  · exact hrevoked
  · exact fun e he s hs hissued hends => hrevoked _ (hinter.mem_of_led he) s.id
      (hinter.id_le_of_led he hs) hissued (hinter.ended_of_ends he hs hends)

/-- A catalog with one group, and no lease. -/
def unleased : Catalog := (Transaction.sync [⟨"i-1", "web", "QA", .off⟩] 0).run .empty

/-- The lease of this group, under a token. -/
def leasedUnder (token : String) (now : Int) (c : Catalog) : Catalog :=
  (Transaction.openSession
    ⟨Leasing.tokenDigest token, "u1", "u1@example.com", "QA", now + 3600⟩ now).run c

/-- The group after such a lease, when it is given back and cleaned up after. -/
def cleanedUp : Catalog :=
  (Transaction.finalize givenBackSession).run <|
    (Transaction.markOff givenBackSession (Lifecycle.offNotice givenBackSession) 20).run givenBack

/-- The group is leased once more. The first token is then good for nothing, and the second one for the
second lease. -/
theorem authority_of_issuing_leasedAgain : ∃ issued journal c, Issuing issued journal c ∧
    issued.map Issue.token = ["t2", "t1"] ∧ c.Ignores "t1" ∧
      (Leasing.giveBack "t2" 40 (.opened c)).1 = .ok "QA" := by
  have hunleased : Issuing _ _ unleased := .others _ .start rfl fun _ _ => by simp
  have hgranted : Leasing.lease "u1" "u1@example.com" "QA" "1h" "t1" 0 (.opened unleased) =
      (.ok ⟨"QA", { seconds := 3600, nanos := 0 }, 3600⟩, .opened (leasedUnder "t1" 0 unleased)) := by
    decide +kernel
  have hleased := hunleased.lease _ _ _ _ _ _ hgranted
  have hended := hleased.others (.endByToken (Leasing.tokenDigest "t1") 10) rfl fun _ _ => by simp
  have hreturned : (Transaction.endByToken (Leasing.tokenDigest "t1") 10).run
      (leasedUnder "t1" 0 unleased) = (Transaction.endByToken "digest" 10).run leased := by
    decide +kernel
  rw [hreturned] at hended
  have hannounced : Issuing _ _ givenBack :=
    hended.lifecycle _ List.mem_cons_self (.announce (by decide) (by decide))
  have hcleaned : Issuing _ _ cleanedUp :=
    (hannounced.lifecycle _ List.mem_cons_self (.tellOff (by decide))).lifecycle _
      (List.mem_cons_of_mem _ List.mem_cons_self) (.delete (by decide))
  have hgranted' : Leasing.lease "u1" "u1@example.com" "QA" "1h" "t2" 30 (.opened cleanedUp) =
      (.ok ⟨"QA", { seconds := 3600, nanos := 0 }, 3630⟩,
        .opened (leasedUnder "t2" 30 cleanedUp)) := by
    decide +kernel
  have hagain := hcleaned.lease _ _ _ _ _ _ hgranted'
  have hdiffer : Leasing.tokenDigest "t1" ≠ Leasing.tokenDigest "t2" := by decide +kernel
  have hfirst := authority_of_issuing hagain (by decide) "t1" (by simp [hdiffer.symm])
  have hsecond := authority_of_issuing hagain (by decide) "t2" (by simp [hdiffer])
  refine ⟨_, _, _, hagain, rfl, ?_, ?_⟩
  · exact hfirst.revoked cleanedUp (by simp) 1 (by decide) (by decide) (by decide)
  · have hgiven := hsecond.giveBack
      (LeaseRequest.session ⟨Leasing.tokenDigest "t2", "u1", "u1@example.com", "QA", 3630⟩ 2)
      (by decide +kernel) rfl (by decide) 40
    rw [hgiven]
    rfl

end PowerLease
