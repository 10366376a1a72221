import PowerLease.Proofs.Installation.Routines
import PowerLease.Proofs.Interleaving.Ticks
import PowerLease.Proofs.Interleaving.Topics
import PowerLease.Proofs.Lifecycle.Transactions

/-!
# Runs in which nobody is disturbed

A run is *undisturbed* if each request, each report and each tick comes to its end before the next one
begins. Of a tick such a run has the transactions (`Lifecycle.transactions`), and it keeps in mind which
catalogs the announcing stages of its ticks have read.

An undisturbed run is an interleaving (`Undisturbed.interleaving`), and all its writes are prompt
(`Undisturbed.prompt`). After each reading there is a catalog on the way in which everything that was read
is announced (`Undisturbed.exists_announced`).
-/

namespace PowerLease

/-- Whether a transaction is a report that is taken over, or asked for by a user. -/
def Transaction.isCall : Transaction → Bool
  | sync .. | openSession .. | extendSession .. | endByToken .. | setSetting _
  | deleteSetting _ => true
  | endSession .. | markWarned .. | markAnnounced .. | markOff .. | markReady .. | finalize _
  | enqueue .. | purge | deleteNotice _ => false

theorem Transaction.byOthers_of_isCall {t : Transaction} (h : t.isCall = true) :
    t.byOthers = true := by
  cases t <;> first | rfl | exact absurd h Bool.false_ne_true

/-- The undisturbed runs: what the announcing stages of their ticks have read, their journals, and the
catalogs that they lead to. -/
inductive Undisturbed : List Catalog → Journal → Catalog → Prop
  | start : Undisturbed [] [] .empty
  | call {readings : List Catalog} {journal : Journal} {c : Catalog} (t : Transaction)
    (h : Undisturbed readings journal c) (ht : t.isCall = true) :
    Undisturbed readings (⟨c, t⟩ :: journal) (t.run c)
  | tick {readings : List Catalog} {journal : Journal} {c : Catalog} (window : Duration) (now : Int)
    (h : Undisturbed readings journal c) (hdone : (Lifecycle.tick window now c).aborted = false) :
    Undisturbed (Lifecycle.expired window now c :: readings)
      (.record c (Lifecycle.transactions window now c) ++ journal)
      (Lifecycle.tick window now c).catalog

variable {readings : List Catalog} {journal before since : Journal} {p c d m : Catalog}
  {t : Transaction} {writes : List Transaction} {s s' : Session} {window : Duration} {now : Int}

/-! ## Recorded transactions -/

namespace Journal

theorem record_append (first second : List Transaction) (c : Catalog) :
    record c (first ++ second) = record (Transaction.runAll first c) second ++ record c first := by
  induction first generalizing c with
  | nil => exact (List.append_nil _).symm
  | cons t rest ih =>
    rw [List.cons_append, record, ih, record, List.append_assoc]
    rfl

/-- What holds of a catalog, and is kept by all transactions, holds whenever one of them is run. -/
theorem forall_mem_record {P : Catalog → Prop} {Q : Entry → Prop} (h : P c)
    (hstep : ∀ t ∈ writes, ∀ d, P d → Q ⟨d, t⟩ ∧ P (t.run d)) :
    ∀ e ∈ record c writes, Q e := by
  induction writes generalizing c with
  | nil => exact fun _ he => absurd he List.not_mem_nil
  | cons t rest ih =>
    obtain ⟨ht, hrest⟩ := List.forall_mem_cons.mp hstep
    obtain ⟨hfirst, hnext⟩ := ht c h
    intro e he
    rcases List.mem_append.mp he with he | he
    · exact ih hnext hrest e he
    · rwa [List.mem_singleton.mp he]

theorem did_mem_of_record {e : Entry} (he : e ∈ record c writes) : e.did ∈ writes :=
  forall_mem_record (P := fun _ => True) (Q := fun e => e.did ∈ writes) trivial
    (fun _ ht _ _ => ⟨ht, trivial⟩) e he

end Journal

/-- What was decided on one reading may be written one after the other. -/
theorem Interleaving.record (hp : Interleaving before p)
    (hdecides : ∀ t ∈ writes, Lifecycle.Decides p t) (hc : Interleaving (since ++ before) c) :
    Interleaving (Journal.record c writes ++ (since ++ before))
      (Transaction.runAll writes c) := by
  induction writes generalizing since c with
  | nil => exact hc
  | cons t rest ih =>
    obtain ⟨ht, hrest⟩ := List.forall_mem_cons.mp hdecides
    have hnext : Interleaving (⟨c, t⟩ :: since ++ before) (t.run c) :=
      .lifecycle t hc (hp.mem_of_since hc) ht
    rw [Journal.record, List.append_assoc]
    exact ih hrest hnext

/-- A stage writes what it has decided on, and nobody comes in between. -/
theorem Interleaving.stage (hp : Interleaving before p)
    (hdecides : ∀ t ∈ writes, Lifecycle.Decides p t) :
    Interleaving (Journal.record p writes ++ before) (Transaction.runAll writes p) :=
  have hc : Interleaving ([] ++ before) p := hp
  hp.record hdecides hc

/-! ## Stages -/

namespace Lifecycle

theorem mem_expireAndWarnTransactions (ht : t ∈ expireAndWarnTransactions window now p) :
    ∃ s ∈ p.activeSessions, (isExpired now s = true ∧ t = .endSession s.group now) ∨
      isAging window now s = true ∧ ∃ text, warning? s = some text ∧ t = .markWarned s text now := by
  rcases List.mem_append.mp ht with ht | ht
  · obtain ⟨s, hs, ht⟩ := List.mem_flatMap.mp ht
    obtain ⟨hs, hover⟩ := List.mem_filter.mp hs
    exact ⟨s, hs, Or.inl ⟨hover, List.mem_singleton.mp ht⟩⟩
  · obtain ⟨s, hs, ht⟩ := List.mem_flatMap.mp ht
    obtain ⟨hs, haging⟩ := List.mem_filter.mp hs
    obtain ⟨text, htext, rfl⟩ := List.mem_map.mp ht
    exact ⟨s, hs, Or.inr ⟨haging, text, Option.mem_toList.mp htext, rfl⟩⟩

theorem mem_announceTransactions (ht : t ∈ announceTransactions now p) :
    ∃ s ∈ p.sessionsToAnnounce, ∃ text, announcement? s = some text ∧
      t = .markAnnounced s text now := by
  obtain ⟨s, hs, ht⟩ := List.mem_flatMap.mp ht
  obtain ⟨text, htext, rfl⟩ := List.mem_map.mp ht
  exact ⟨s, hs, text, Option.mem_toList.mp htext, rfl⟩

theorem mem_cleanTransactions (ht : t ∈ cleanTransactions now p) :
    ∃ s ∈ p.sessionsToClean, t = .markOff s (offNotice s) now ∨ t = .finalize s := by
  obtain ⟨s, hs, ht⟩ := List.mem_flatMap.mp ht
  refine ⟨s, hs, ?_⟩
  rcases List.mem_append.mp ht with ht | ht
  · split at ht
    · exact absurd ht List.not_mem_nil
    · exact Or.inl (List.mem_singleton.mp ht)
  · exact Or.inr (List.mem_singleton.mp ht)

theorem mem_readyTransactions (ht : t ∈ readyTransactions now p) :
    ∃ s ∈ p.sessionsReady, t = .markReady s (readyNotice s) now := by
  obtain ⟨s, hs, ht⟩ := List.mem_flatMap.mp ht
  exact ⟨s, hs, List.mem_singleton.mp ht⟩

theorem decides_expireAndWarn (window : Duration) (now : Int) (p : Catalog) :
    ∀ t ∈ expireAndWarnTransactions window now p, Decides p t := by
  intro t ht
  obtain ⟨s, hs, ⟨hover, rfl⟩ | ⟨haging, text, htext, rfl⟩⟩ := mem_expireAndWarnTransactions ht
  · exact .expire hs hover
  · exact .warn hs haging htext

theorem decides_announce (now : Int) (p : Catalog) : ∀ t ∈ announceTransactions now p, Decides p t := by
  intro t ht
  obtain ⟨s, hs, text, htext, rfl⟩ := mem_announceTransactions ht
  exact .announce hs htext

theorem decides_clean (now : Int) (p : Catalog) : ∀ t ∈ cleanTransactions now p, Decides p t := by
  intro t ht
  obtain ⟨s, hs, rfl | rfl⟩ := mem_cleanTransactions ht
  · exact .tellOff hs
  · exact .delete hs

theorem decides_ready (now : Int) (p : Catalog) : ∀ t ∈ readyTransactions now p, Decides p t := by
  intro t ht
  obtain ⟨s, hs, rfl⟩ := mem_readyTransactions ht
  exact .tellReady hs

theorem exists_decides (ht : t ∈ transactions window now c) : ∃ p, Decides p t := by
  rw [Lifecycle.transactions, List.mem_append, List.mem_append, List.mem_append] at ht
  rcases ht with ht | ht | ht | ht
  · exact ⟨_, decides_expireAndWarn _ _ _ t ht⟩
  · exact ⟨_, decides_announce _ _ t ht⟩
  · exact ⟨_, decides_clean _ _ t ht⟩
  · exact ⟨_, decides_ready _ _ t ht⟩

theorem Decides.byOthers_eq_false (h : Decides p t) : t.byOthers = false := by
  cases h <;> rfl

/-- Announcing all sessions that wait for it leaves none that waits. -/
theorem sessions_announced (hc : c.Consistent) (hdone : (tick window now c).aborted = false) :
    (announced window now c).sessions = (expired window now c).sessions.map Session.announce := by
  have hexpired := (continues_expireAndWarn (p := { catalog := c }) hc window now).consistent
  exact sessions_announceAll hexpired.sessionIds_nodup (announced_tick hc hdone).1

theorem lastSession_announced :
    (announced window now c).lastSession = (expired window now c).lastSession :=
  announceAll_induct (P := fun d => d.lastSession = (expired window now c).lastSession) rfl
    fun _ _ _ _ _ hd => Catalog.raise_induct (P := fun d => d.lastSession = _) hd hd

/-- A tick deletes the session of a holder whom it tells that the servers are off. -/
theorem offTold_of_fate (h : fate window now c s = some s') : s'.offTold = s.offTold := by
  unfold fate at h
  split at h
  · split at h
    · exact nomatch h
    · rw [← Option.some.inj h]
      rfl
  · rw [← Option.some.inj h]

/-! ## Stages are prompt -/

theorem prompt_expireAndWarn (c : Catalog) :
    ∀ e ∈ Journal.record c (expireAndWarnTransactions window now p), e.Prompt := by
  refine Journal.forall_mem_record (P := fun _ => True) trivial fun t ht d _ => ⟨?_, trivial⟩
  obtain ⟨s, -, ⟨-, rfl⟩ | ⟨-, text, -, rfl⟩⟩ := mem_expireAndWarnTransactions ht
  · exact trivial
  · exact trivial

/-- While sessions are announced, they stay as live or as ended as they were read. -/
theorem prompt_announce (hc : c.Consistent) :
    ∀ e ∈ Journal.record c (announceTransactions now c), e.Prompt := by
  refine Journal.forall_mem_record
    (P := fun d => ∀ s ∈ d.sessions, ∀ r ∈ c.sessions, s.id = r.id → s.ended = r.ended)
    (fun s hs r hr hid => by rw [hc.session_eq_of_id hs hr hid]) fun t ht d hd => ?_
  obtain ⟨read, hread, text, -, rfl⟩ := mem_announceTransactions ht
  refine ⟨fun s hs hid => hd s hs read (List.mem_of_mem_filter hread) hid, fun s' hs' r hr hid => ?_⟩
  rcases Transaction.mem_sessions_run.mp hs' with ⟨s, hs, hstep⟩ | hopened
  · cases Transaction.makes_of_onSession hstep with
    | same | announced => exact hd _ hs r hr hid
    | ended hends => exact absurd hends Bool.false_ne_true
  · exact absurd hopened List.not_mem_nil

/-- Whether a transaction belongs to the stages behind the announcing one. -/
def IsLater (t : Transaction) : Prop :=
  t.act = some .toldOff ∨ t.act = some .deleted ∨ t.act = some .toldReady

theorem isLater_clean : ∀ t ∈ cleanTransactions now p, IsLater t := by
  intro t ht
  obtain ⟨s, -, rfl | rfl⟩ := mem_cleanTransactions ht
  · exact Or.inl rfl
  · exact Or.inr (Or.inl rfl)

theorem isLater_ready : ∀ t ∈ readyTransactions now p, IsLater t := by
  intro t ht
  obtain ⟨s, -, rfl⟩ := mem_readyTransactions ht
  exact Or.inr (Or.inr rfl)

/-- Where nothing is to be announced, a transaction of these stages is prompt, and leaves it so. -/
theorem IsLater.prompt (ht : IsLater t) (hnone : ∀ s ∈ c.sessions, s.unannounced = false) :
    Entry.Prompt ⟨c, t⟩ ∧ ∀ s ∈ (t.run c).sessions, s.unannounced = false := by
  cases t with
  | markOff | markReady | finalize =>
    refine ⟨hnone, fun s' hs' => ?_⟩
    rcases Transaction.mem_sessions_run.mp hs' with ⟨s, hs, hstep⟩ | hopened
    · have hkept : s'.unannounced = s.unannounced := by
        cases Transaction.makes_of_onSession hstep with
        | ended hends => exact absurd hends Bool.false_ne_true
        | _ => rfl
      exact hkept.trans (hnone s hs)
    · exact absurd hopened List.not_mem_nil
  | _ => rcases ht with h | h | h <;> exact nomatch h

theorem prompt_later (hlater : ∀ t ∈ writes, IsLater t)
    (hnone : ∀ s ∈ c.sessions, s.unannounced = false) :
    ∀ e ∈ Journal.record c writes, e.Prompt :=
  Journal.forall_mem_record (P := fun d => ∀ s ∈ d.sessions, s.unannounced = false) hnone
    fun t ht _ hd => (hlater t ht).prompt hd

theorem announced_of_later (hlater : ∀ t ∈ writes, IsLater t)
    (hnone : ∀ s ∈ c.sessions, s.unannounced = false) :
    ∀ s ∈ (Transaction.runAll writes c).sessions, s.unannounced = false :=
  List.foldlRecOn (motive := fun d : Catalog => ∀ s ∈ d.sessions, s.unannounced = false)
    _ _ hnone fun _ hd t ht => ((hlater t ht).prompt hd).2

end Lifecycle

/-! ## Whole runs -/

namespace Undisturbed

/-- A tick that comes to its end goes on with an interleaving, stage after stage, and is prompt. -/
theorem exists_stages (hc : Interleaving journal c)
    (hdone : (Lifecycle.tick window now c).aborted = false) :
    ∃ first second later,
      Journal.record c (Lifecycle.transactions window now c) = later ++ (second ++ first) ∧
      Interleaving (first ++ journal) (Lifecycle.expired window now c) ∧
      Interleaving (second ++ (first ++ journal)) (Lifecycle.announced window now c) ∧
      Interleaving (later ++ (second ++ (first ++ journal))) (Lifecycle.tick window now c).catalog ∧
      ∀ e ∈ later ++ (second ++ first), e.Prompt := by
  have h1 := hc.stage (Lifecycle.decides_expireAndWarn window now c)
  rw [← Lifecycle.expired_eq hdone] at h1
  have h2 := h1.stage (Lifecycle.decides_announce now (Lifecycle.expired window now c))
  rw [← Lifecycle.announced_eq hdone] at h2
  have h3 := h2.stage (Lifecycle.decides_clean now (Lifecycle.announced window now c))
  rw [← Lifecycle.cleaned_eq hdone] at h3
  have h4 := h3.stage (Lifecycle.decides_ready now (Lifecycle.cleaned window now c))
  rw [← Lifecycle.catalog_tick_of_cleaned hdone] at h4
  have hnone : ∀ s ∈ (Lifecycle.announced window now c).sessions, s.unannounced = false := by
    rw [Lifecycle.sessions_announced hc.consistent hdone]
    intro s hs
    obtain ⟨r, -, rfl⟩ := List.mem_map.mp hs
    rfl
  have hnone' : ∀ s ∈ (Lifecycle.cleaned window now c).sessions, s.unannounced = false := by
    rw [Lifecycle.cleaned_eq hdone]
    exact Lifecycle.announced_of_later Lifecycle.isLater_clean hnone
  refine ⟨_, _, _, ?_, h1, h2, by rwa [← List.append_assoc] at h4, ?_⟩
  · simp only [Lifecycle.transactions, Journal.record_append, ← Lifecycle.expired_eq hdone,
      ← Lifecycle.announced_eq hdone, ← Lifecycle.cleaned_eq hdone, List.append_assoc]
  · intro e he
    rcases List.mem_append.mp he with he | he
    · rcases List.mem_append.mp he with he | he
      · exact Lifecycle.prompt_later Lifecycle.isLater_ready hnone' e he
      · exact Lifecycle.prompt_later Lifecycle.isLater_clean hnone e he
    · rcases List.mem_append.mp he with he | he
      · exact Lifecycle.prompt_announce h1.consistent e he
      · exact Lifecycle.prompt_expireAndWarn c e he

/-- **An undisturbed run is an interleaving, and all its writes are prompt.** -/
theorem interleaving_and_prompt (h : Undisturbed readings journal c) :
    Interleaving journal c ∧ ∀ e ∈ journal, e.Prompt := by
  induction h with
  | start => exact ⟨.start, fun e he => absurd he List.not_mem_nil⟩
  | call t h ht ih =>
    refine ⟨.others t ih.1 (Transaction.byOthers_of_isCall ht), List.forall_mem_cons.mpr ⟨?_, ih.2⟩⟩
    cases t with
    | sync | openSession | extendSession | endByToken | setSetting | deleteSetting => exact trivial
    | _ => exact absurd ht Bool.false_ne_true
  | tick window now h hdone ih =>
    obtain ⟨first, second, later, hrecord, -, -, htick, hprompt⟩ := exists_stages ih.1 hdone
    rw [hrecord, List.append_assoc, List.append_assoc]
    refine ⟨htick, fun e he => ?_⟩
    rw [← List.append_assoc, ← List.append_assoc] at he
    rcases List.mem_append.mp he with he | he
    · exact hprompt e (List.append_assoc .. ▸ he)
    · exact ih.2 e he

theorem interleaving (h : Undisturbed readings journal c) : Interleaving journal c :=
  h.interleaving_and_prompt.1

theorem prompt (h : Undisturbed readings journal c) : ∀ e ∈ journal, e.Prompt :=
  h.interleaving_and_prompt.2

/-! ## Readings -/

/-- What is announced was read by an announcing stage. -/
theorem exists_reading (h : Undisturbed readings journal c) {e : Entry} (he : e ∈ journal)
    {read : Session} {text : NoticeText} {time : Int} (hdid : e.did = .markAnnounced read text time) :
    ∃ m ∈ readings, read ∈ m.sessions := by
  induction h with
  | start => exact absurd he List.not_mem_nil
  | call t h ht ih =>
    rcases List.mem_cons.mp he with rfl | he
    · obtain rfl : t = _ := hdid
      exact absurd ht Bool.false_ne_true
    · exact ih he
  | @tick _ _ c window now h hdone ih =>
    rcases List.mem_append.mp he with he | he
    · refine ⟨Lifecycle.expired window now c, List.mem_cons_self, ?_⟩
      have hmem := Journal.did_mem_of_record he
      rw [hdid, Lifecycle.transactions, List.mem_append, List.mem_append, List.mem_append] at hmem
      rcases hmem with ht | ht | ht | ht
      · obtain ⟨_, -, ⟨-, hno⟩ | ⟨-, _, -, hno⟩⟩ := Lifecycle.mem_expireAndWarnTransactions ht
        · cases hno
        · cases hno
      · obtain ⟨s, hs, _, -, heq⟩ := Lifecycle.mem_announceTransactions ht
        obtain ⟨rfl, -, -⟩ := Transaction.markAnnounced.inj heq
        exact List.mem_of_mem_filter hs
      · obtain ⟨_, -, hno | hno⟩ := Lifecycle.mem_cleanTransactions ht
        · cases hno
        · cases hno
      · obtain ⟨_, -, hno⟩ := Lifecycle.mem_readyTransactions ht
        cases hno
    · obtain ⟨m, hm, hread⟩ := ih he
      exact ⟨m, List.mem_cons_of_mem _ hm, hread⟩

/-- What an announcing stage has read was announced when it came to its end. -/
theorem exists_announced (h : Undisturbed readings journal c) (hm : m ∈ readings) :
    m.Consistent ∧ ∃ since before p, journal = since ++ before ∧ Interleaving before p ∧
      p.sessions = m.sessions.map Session.announce ∧ p.lastSession = m.lastSession := by
  induction h with
  | start => exact absurd hm List.not_mem_nil
  | call t h ht ih =>
    obtain ⟨hconsistent, since, before, p, rfl, hp⟩ := ih hm
    exact ⟨hconsistent, _ :: since, before, p, rfl, hp⟩
  | tick window now h hdone ih =>
    rcases List.mem_cons.mp hm with rfl | hm
    · obtain ⟨first, second, later, hrecord, hexpired, hannounced, -⟩ :=
        exists_stages h.interleaving hdone
      refine ⟨hexpired.consistent, later, _, _, ?_, hannounced,
        Lifecycle.sessions_announced h.interleaving.consistent hdone, ?_⟩
      · rw [hrecord, List.append_assoc, List.append_assoc]
      · exact Lifecycle.lastSession_announced
    · obtain ⟨hconsistent, since, before, p, rfl, hp⟩ := ih hm
      exact ⟨hconsistent, _ ++ since, before, p, (List.append_assoc ..).symm, hp⟩

/-- Between two ticks no session is left whose holder was told that the servers are off. -/
theorem offTold_eq_false (h : Undisturbed readings journal c) :
    ∀ s ∈ c.sessions, s.offTold = false := by
  induction h with
  | start => exact fun s hs => absurd hs List.not_mem_nil
  | call t h ht ih =>
    intro s' hs'
    rcases Transaction.mem_sessions_run.mp hs' with ⟨s, hs, hstep⟩ | hopened
    · cases Transaction.makes_of_onSession hstep with
      | toldOff => exact absurd ht Bool.false_ne_true
      | same => exact ih _ hs
      | _ => exact ih s hs
    · obtain ⟨request, time, -, rfl⟩ := Transaction.eq_of_mem_opens hopened
      rfl
  | tick window now h hdone ih =>
    rw [Lifecycle.sessions_tick h.interleaving.consistent hdone]
    intro s' hs'
    obtain ⟨s, hs, hfate⟩ := List.mem_filterMap.mp hs'
    rw [Lifecycle.offTold_of_fate hfate]
    exact ih s hs

end Undisturbed

/-! ## Routines -/

namespace Routine

variable {σ ν : Type} {r : Routine} {c' : Catalog}

/-- What a routine does, a tick that comes to its end included, goes on with an undisturbed run. -/
theorem Changes.undisturbed (h : r.Changes c c') (hc : Undisturbed readings journal c)
    (hdone : ∀ window now, r = .tick window now → (Lifecycle.tick window now c).aborted = false) :
    ∃ readings' journal', Undisturbed readings' journal' c' := by
  cases h with
  | scraped report now => exact ⟨_, _, hc.call (.sync report now) rfl⟩
  | ticked window now => exact ⟨_, _, hc.tick window now (hdone window now rfl)⟩
  | leased => exact ⟨_, _, hc.call (.openSession _ _) rfl⟩
  | extended => exact ⟨_, _, hc.call (.extendSession _ _ _) rfl⟩
  | gaveBack token now => exact ⟨_, _, hc.call (.endByToken _ now) rfl⟩
  | notScraped | managed | notLeased | notExtended => exact ⟨_, _, hc⟩

/-- **Routines that are run one after the other are an undisturbed run**, if none of their ticks aborts. -/
theorem exists_undisturbed [Provider σ] {routines : List Routine} {i : Installation σ ν}
    (hstore : i.store = .opened c) (hc : Undisturbed readings journal c)
    (hdone : ∀ first window now rest d, routines = first ++ .tick window now :: rest →
      (runAll first i).store = .opened d → (Lifecycle.tick window now d).aborted = false) :
    ∃ readings' journal' c', (runAll routines i).store = .opened c' ∧
      Undisturbed readings' journal' c' := by
  induction routines generalizing i c readings journal with
  | nil => exact ⟨_, _, c, hstore, hc⟩
  | cons r rest ih =>
    obtain ⟨c', hstore', hchanges⟩ := r.run_changes hstore
    obtain ⟨_, _, hc'⟩ := hchanges.undisturbed hc fun window now hr =>
      hdone [] window now rest c (congrArg (· :: rest) hr) hstore
    refine ih hstore' hc' fun first window now after d hsplit hd => ?_
    exact hdone (r :: first) window now after d (congrArg (r :: ·) hsplit) hd

end Routine

end PowerLease
