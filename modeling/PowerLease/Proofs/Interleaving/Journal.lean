import PowerLease.Proofs.Interleaving.Rows

/-!
# Ticks among other transactions

A tick of the lifecycle is not one transaction but many: it reads, decides on writes, and writes one
after the other, and between any two of them others may have written. An *interleaving* is a run from the
empty catalog in which the writes of ticks (`Lifecycle.Decides`) and the transactions of others stand in
any order. A write may come long after the reading that it was decided on, and any number of ticks may
be under way. A tick that nobody disturbs is the simplest case (`Interleaving.tick`).

The journal of an interleaving has all its transactions, each with the catalog that it met. Statements
about a stale reading are made of three parts of it: what was done `before` the catalog that was read,
what was done `since`, and the catalog that the write meets. A session in that catalog has an id that the
reading knew, and `Interleaving.session_since` says what it has in common with the session that was read.
-/

namespace PowerLease

/-- Whether a transaction is not one of the lifecycle: a report is taken over, the leasing service is
asked, or something is done to notices and channels. -/
def Transaction.byOthers : Transaction → Bool
  | sync .. | openSession .. | extendSession .. | endByToken .. | enqueue .. | purge
  | deleteNotice _ | setSetting _ | deleteSetting _ => true
  | endSession .. | markWarned .. | markAnnounced .. | markOff .. | markReady .. | finalize _ => false

/-- The writes that a tick decides on when it reads a catalog. -/
inductive Lifecycle.Decides (p : Catalog) : Transaction → Prop
  | expire {s : Session} {now : Int} (hs : s ∈ p.activeSessions) (hover : isExpired now s = true) :
    Decides p (.endSession s.group now)
  | warn {s : Session} {window : Duration} {now : Int} {text : NoticeText}
    (hs : s ∈ p.activeSessions) (haging : isAging window now s = true)
    (htext : warning? s = some text) : Decides p (.markWarned s text now)
  | announce {s : Session} {now : Int} {text : NoticeText} (hs : s ∈ p.sessionsToAnnounce)
    (htext : announcement? s = some text) : Decides p (.markAnnounced s text now)
  | tellOff {s : Session} {now : Int} (hs : s ∈ p.sessionsToClean) :
    Decides p (.markOff s (offNotice s) now)
  | delete {s : Session} (hs : s ∈ p.sessionsToClean) : Decides p (.finalize s)
  | tellReady {s : Session} {now : Int} (hs : s ∈ p.sessionsReady) :
    Decides p (.markReady s (readyNotice s) now)

theorem Catalog.mem_sessionsToClean {c : Catalog} {s : Session} : s ∈ c.sessionsToClean ↔
    s ∈ c.sessions ∧ s.ended = true ∧ s.unannounced = false ∧ c.isSettled s.group .off = true := by
  simp only [sessionsToClean, List.mem_filter, Bool.and_eq_true, Bool.not_eq_true', and_assoc]

/-- A transaction, and the catalog that it met. -/
structure Entry where
  met : Catalog
  did : Transaction

/-- What was done, the last transaction in front. -/
abbrev Journal := List Entry

/-- The journal of transactions that are run on a catalog, one after the other. -/
def Journal.record (c : Catalog) : List Transaction → Journal
  | [] => []
  | t :: rest => record (t.run c) rest ++ [⟨c, t⟩]

/-- The journals of ticks among other transactions, with the catalogs that they lead to. -/
inductive Interleaving : Journal → Catalog → Prop
  | start : Interleaving [] .empty
  | others {journal : Journal} {c : Catalog} (t : Transaction) (h : Interleaving journal c)
    (ht : t.byOthers = true) : Interleaving (⟨c, t⟩ :: journal) (t.run c)
  | lifecycle {journal : Journal} {c : Catalog} (t : Transaction) (h : Interleaving journal c)
    {p : Catalog} (hp : p ∈ c :: journal.map Entry.met) (ht : Lifecycle.Decides p t) :
    Interleaving (⟨c, t⟩ :: journal) (t.run c)

namespace Interleaving

variable {journal before since : Journal} {e : Entry} {p c c' : Catalog} {s s' : Session}
  {t : Transaction}

/-! ## Journals -/

theorem of_cons (h : Interleaving (e :: journal) c) :
    Interleaving journal e.met ∧ c = e.did.run e.met := by
  cases h with
  | others t h _ => exact ⟨h, rfl⟩
  | lifecycle t h _ _ => exact ⟨h, rfl⟩

/-- The journal leads to one catalog only. -/
theorem unique (h : Interleaving journal c) (h' : Interleaving journal c') : c = c' := by
  cases journal with
  | nil =>
    cases h
    cases h'
    rfl
  | cons e rest => rw [h.of_cons.2, h'.of_cons.2]

/-- An interleaving is a history: it deletes only what it has read. -/
theorem history (h : Interleaving journal c) : Catalog.History (c :: journal.map Entry.met) := by
  induction h with
  | start => exact .start
  | others t _ ht ih =>
    refine .next t ih fun s hs => ?_
    rw [hs] at ht
    exact absurd ht Bool.false_ne_true
  | lifecycle t _ hp ht ih =>
    refine .next t ih fun s hs => ?_
    subst hs
    cases ht with
    | delete hs => exact ⟨_, hp, List.mem_of_mem_filter hs⟩

theorem consistent (h : Interleaving journal c) : c.Consistent := h.history.consistent

/-- A catalog on the way was reached by the journal up to it. -/
theorem of_mem (h : Interleaving journal c) (hp : p ∈ c :: journal.map Entry.met) :
    ∃ since before, journal = since ++ before ∧ Interleaving before p := by
  induction journal generalizing c with
  | nil =>
    rw [List.mem_singleton.mp hp]
    exact ⟨[], [], rfl, h⟩
  | cons e rest ih =>
    rcases List.mem_cons.mp hp with rfl | hp
    · exact ⟨[], e :: rest, rfl, h⟩
    · obtain ⟨since, before, rfl, hbefore⟩ := ih h.of_cons.1 hp
      exact ⟨e :: since, before, rfl, hbefore⟩

/-- What an entry met and what it led to were reached by the journal up to it. -/
theorem exists_before (h : Interleaving journal c) (he : e ∈ journal) :
    ∃ since before, journal = since ++ e :: before ∧ Interleaving before e.met ∧
      Interleaving (e :: before) (e.did.run e.met) := by
  induction journal generalizing c with
  | nil => exact absurd he List.not_mem_nil
  | cons e' rest ih =>
    obtain ⟨hrest, hc⟩ := h.of_cons
    rcases List.mem_cons.mp he with rfl | he
    · exact ⟨[], rest, rfl, hrest, hc ▸ h⟩
    · obtain ⟨since, before, rfl, hmet, hled⟩ := ih hrest he
      exact ⟨e' :: since, before, rfl, hmet, hled⟩

/-- A write of the lifecycle was decided on a catalog that was read before. -/
theorem exists_reading (h : Interleaving (⟨c, t⟩ :: journal) c') (ht : t.byOthers = false) :
    ∃ since before p, journal = since ++ before ∧ Interleaving before p ∧ Lifecycle.Decides p t := by
  cases h with
  | others _ _ hothers => exact absurd (ht.symm.trans hothers) Bool.false_ne_true
  | lifecycle _ h hp hdecides =>
    obtain ⟨since, before, hjournal, hbefore⟩ := h.of_mem hp
    exact ⟨since, before, _, hjournal, hbefore, hdecides⟩

/-- What holds of a reading, and is kept by all transactions after it, holds at any time since. -/
theorem since_induct {P : Journal → Catalog → Prop} (hp : Interleaving before p) (hstart : P [] p)
    (hstep : ∀ since c t, Interleaving (since ++ before) c → P since c →
      P (⟨c, t⟩ :: since) (t.run c)) (hc : Interleaving (since ++ before) c) : P since c := by
  induction since generalizing c with
  | nil =>
    rw [hc.unique hp]
    exact hstart
  | cons e rest ih =>
    obtain ⟨hrest, rfl⟩ := hc.of_cons
    exact hstep rest e.met e.did hrest (ih hrest)

theorem follows (hp : Interleaving before p) (hc : Interleaving (since ++ before) c) :
    Catalog.Follows p c :=
  since_induct (P := fun _ d => Catalog.Follows p d) hp (.refl p)
    (fun _ d t _ hd => hd.trans (Catalog.follows_run d t)) hc

/-! ## A session since it was read -/

/-- A session with an id of an earlier reading was there before the transaction. -/
theorem exists_makes (hp : Interleaving before p) (hc : Interleaving (since ++ before) c)
    (hs : s ∈ p.sessions) (hs' : s' ∈ (t.run c).sessions) (hid : s'.id = s.id) :
    ∃ r ∈ c.sessions, r.id = s.id ∧ Transaction.Makes r t s' := by
  rcases Transaction.mem_sessions_run.mp hs' with ⟨r, hr, hrs⟩ | hopened
  · have hmakes := Transaction.makes_of_onSession hrs
    exact ⟨r, hr, hmakes.sameLease.id.trans hid, hmakes⟩
  · -- ids are not given twice
    obtain ⟨request, now, -, rfl⟩ := Transaction.eq_of_mem_opens hopened
    have hle : s.id ≤ c.lastSession :=
      Nat.le_trans (hp.consistent.sessionIds_le s hs) (hp.follows hc).lastSession_le
    rw [← hid] at hle
    exact absurd hle (Nat.not_succ_le_self _)

end Interleaving

/-! ## The last of a kind, and all of it -/

/-- What the first of a list gives goes before what the others give. -/
theorem findSome?_cons_eq_or {α β : Type} (f : α → Option β) (a : α) (l : List α) :
    (a :: l).findSome? f = (f a).or (l.findSome? f) := by
  rw [List.findSome?_cons]
  cases f a <;> rfl

/-- What the last of a list gives, in a list that is read from its end. -/
theorem reverse_filterMap_cons {α β : Type} (f : α → Option β) (a : α) (l : List α) :
    ((a :: l).filterMap f).reverse = (l.filterMap f).reverse ++ (f a).toList := by
  rw [List.filterMap_cons]
  cases f a with
  | none => exact (List.append_nil _).symm
  | some b => exact List.reverse_cons

/-! ## Extensions that were granted -/

/-- The expiry that a transaction has granted the holder of a token. -/
def Entry.grant (token : Option String) (e : Entry) : Option Int :=
  match e.did with
  | .extendSession asked expiry now =>
    if token = some asked ∧ (e.met.extendSession asked expiry now).1.isOk = true then some expiry
    else none
  | _ => none

/-- The last expiry that was granted the holder of a token, if there was one. -/
def Journal.lastGrant (since : Journal) (token : Option String) : Option Int :=
  since.findSome? (Entry.grant token)

theorem Journal.lastGrant_cons {e : Entry} {since : Journal} {token : Option String} :
    lastGrant (e :: since) token = (e.grant token).or (since.lastGrant token) :=
  findSome?_cons_eq_or ..

/-- A live session moves its expiry exactly where its holder is granted another one. -/
theorem Transaction.Makes.expiry_eq_grant {c : Catalog} {t : Transaction} {s s' : Session}
    (h : Makes s t s') (hc : c.Consistent) (hs : s ∈ c.sessions) (hlive : s'.ended = false) :
    s'.expiry = (Entry.grant s.token ⟨c, t⟩).getD s.expiry := by
  cases h with
  | @extended token expiry now htoken hnow =>
    have hgranted : (c.extendSession token expiry now).1.isOk = true :=
      Catalog.isOk_extendSession.mpr ⟨s, hs, htoken, hnow⟩
    simp only [Entry.grant, htoken, hgranted, and_self, if_true, Option.getD_some]
    rfl
  | ended => exact absurd hlive.symm Bool.false_ne_true
  | same hmiss =>
    cases t with
    | extendSession asked expiry now =>
      -- a token is held by one session only, and this one was not extended
      have hrefused : ¬(s.token = some asked ∧
          (c.extendSession asked expiry now).1.isOk = true) := by
        rintro ⟨htoken, hok⟩
        obtain ⟨r, hr, hrtoken, hnow⟩ := Catalog.isOk_extendSession.mp hok
        rw [hc.session_eq_of_token hr hs hrtoken htoken] at hnow
        simp [hits, Catalog.holds, htoken, hnow] at hmiss
      simp only [Entry.grant, if_neg hrefused, Option.getD_none]
    | _ => rfl
  | warned | announced | toldOff | toldReady => rfl

/-! ## What is left of a reading -/

/-- What a session `s'` has of the session `s` that it was when it was read. -/
structure Session.Since (since : Journal) (s s' : Session) : Prop where
  sameLease : s.SameLease s'
  ended : s.ended = true → s'.ended = true
  offTold : s.offTold = true → s'.offTold = true
  announced : s.ended = true → s.unannounced = false → s'.unannounced = false
  ended_iff : s.ended = false → (s'.ended = true ↔ ∃ e ∈ since, e.did.ends s = true)
  token : s'.ended = false → s'.token = s.token
  expiry : s'.ended = false → s'.expiry = (since.lastGrant s.token).getD s.expiry

theorem Session.Since.refl (s : Session) : s.Since [] s := by
  refine ⟨.refl s, fun h => h, fun h => h, fun _ h => h, fun hlive => ?_, fun _ => rfl, fun _ => rfl⟩
  simp [hlive]

namespace Interleaving

variable {before since : Journal} {p c : Catalog} {s s' : Session} {t : Transaction}

/-- A session is still the same lease after one transaction more. -/
theorem since_run (hp : Interleaving before p) (hs : s ∈ p.sessions)
    (ih : ∀ r ∈ c.sessions, r.id = s.id → s.Since since r)
    (hc : Interleaving (since ++ before) c) (hs' : s' ∈ (t.run c).sessions) (hid : s'.id = s.id) :
    s.Since (⟨c, t⟩ :: since) s' := by
  obtain ⟨r, hr, hrid, hmakes⟩ := hp.exists_makes hc hs hs' hid
  have hsince := ih r hr hrid
  have hlive : s'.ended = false → r.ended = false := by
    intro hs'live
    refine eq_false_of_ne_true fun hended => ?_
    exact Bool.false_ne_true (hs'live.symm.trans (hmakes.ended_of_ended hended))
  refine ⟨hsince.sameLease.trans hmakes.sameLease, ?_, ?_, ?_, ?_, ?_, ?_⟩
  · exact fun hended => hmakes.ended_of_ended (hsince.ended hended)
  · exact fun htold => hmakes.offTold_of_offTold (hsince.offTold htold)
  · intro hended hdone
    exact hmakes.announced_of_announced (hsince.ended hended) (hsince.announced hended hdone)
  · intro hfirst
    rw [List.exists_mem_cons_iff, ← hsince.ended_iff hfirst]
    cases hr' : r.ended with
    | true => exact iff_of_true (hmakes.ended_of_ended hr') (Or.inr rfl)
    | false =>
      rw [hmakes.ended_iff hr', Transaction.ends_congr hsince.sameLease.group.symm (hsince.token hr')]
      simp
  · exact fun h => (hmakes.token_eq h).trans (hsince.token (hlive h))
  · intro h
    rw [hmakes.expiry_eq_grant hc.consistent hr h, hsince.token (hlive h),
      hsince.expiry (hlive h), Journal.lastGrant_cons, Option.getD_or]

/-- **A row with the id of a session that was read is that session, however long ago it was read.** -/
theorem session_since (hp : Interleaving before p) (hs : s ∈ p.sessions)
    (hc : Interleaving (since ++ before) c) (hs' : s' ∈ c.sessions) (hid : s'.id = s.id) :
    s.Since since s' := by
  have hstart : ∀ r ∈ p.sessions, r.id = s.id → s.Since [] r := by
    intro r hr hrid
    rw [hp.consistent.session_eq_of_id hr hs hrid]
    exact .refl s
  have hall := since_induct
    (P := fun since d => ∀ r ∈ d.sessions, r.id = s.id → s.Since since r) hp hstart
    (fun _ _ _ hd ih r hr hrid => since_run hp hs ih hd hr hrid) hc
  exact hall s' hs' hid

end Interleaving

/-! ## Readings that the lifecycle has not written on -/

/-- What was due to be told of a session `s` is still due of the session `s'` that became of it. -/
structure Session.Untold (s s' : Session) : Prop where
  id : s'.id = s.id
  unannounced : s.unannounced = true → s'.unannounced = true
  warned : s.warned = false → s'.warned = false

theorem Session.Untold.refl (s : Session) : s.Untold s := ⟨rfl, fun h => h, fun h => h⟩

theorem Session.Untold.trans {r s t : Session} (h : r.Untold s) (h' : s.Untold t) : r.Untold t :=
  ⟨h'.id.trans h.id, fun hr => h'.unannounced (h.unannounced hr), fun hr => h'.warned (h.warned hr)⟩

/-- Others delete no session, and raise no flag of the lifecycle. -/
theorem Transaction.exists_untold_of_byOthers {t : Transaction} (ht : t.byOthers = true)
    (s : Session) : ∃ s', t.onSession s = some s' ∧ s.Untold s' := by
  unfold onSession
  split
  next =>
    cases t with
    | extendSession _ expiry _ => exact ⟨_, rfl, rfl, fun h => h, fun _ => rfl⟩
    | endByToken => exact ⟨_, rfl, rfl, fun _ => rfl, fun h => h⟩
    | sync | openSession | enqueue | purge | deleteNotice | setSetting | deleteSetting =>
      exact ⟨s, rfl, .refl s⟩
    | endSession | markWarned | markAnnounced | markOff | markReady | finalize =>
      exact absurd ht Bool.false_ne_true
  next => exact ⟨s, rfl, .refl s⟩

/-- Where only others wrote since, a session that was read is still there and waits for the same. -/
theorem Interleaving.exists_untold {before since : Journal} {p c : Catalog} {s : Session}
    (hp : Interleaving before p) (hs : s ∈ p.sessions) (hc : Interleaving (since ++ before) c)
    (hothers : ∀ e ∈ since, e.did.byOthers = true) : ∃ s' ∈ c.sessions, s.Untold s' := by
  revert hothers
  refine since_induct
    (P := fun since d => (∀ e ∈ since, e.did.byOthers = true) → ∃ s' ∈ d.sessions, s.Untold s')
    hp (fun _ => ⟨s, hs, .refl s⟩) (fun since d t _ ih hothers => ?_) hc
  obtain ⟨ht, hothers⟩ := List.forall_mem_cons.mp hothers
  obtain ⟨r, hr, huntold⟩ := ih hothers
  obtain ⟨s', hs', huntold'⟩ := Transaction.exists_untold_of_byOthers ht r
  exact ⟨s', Transaction.mem_sessions_run.mpr (Or.inl ⟨r, hr, hs'⟩), huntold.trans huntold'⟩

/-! ## One lease -/

/-- A lease that was just opened. -/
def leasedSession : Session :=
  ⟨1, some "digest", "u1", "u1@example.com", "QA", 3600, false, true, false, false, false⟩

/-- A catalog with this lease only, on one server that is off. -/
def leased : Catalog :=
  (Transaction.openSession ⟨"digest", "u1", "u1@example.com", "QA", 3600⟩ 0).run <|
    (Transaction.sync [⟨"i-1", "web", "QA", .off⟩] 0).run .empty

theorem interleaving_leased : ∃ before, Interleaving before leased :=
  ⟨_, .others _ (.others _ .start rfl) rfl⟩

end PowerLease
