import PowerLease.Proofs.Lifecycle.Outcome

/-!
# The transactions of a tick

A tick that comes to its end is a list of transactions, stage after stage: what a stage commits can be
told from the catalog that it has read (`transactions`), and run one after the other these transactions
lead to the catalog that the tick leaves (`catalog_tick`).

So a tick that nobody disturbs need not be looked into any further. What its transactions do, each for
itself, is what it does.
-/

namespace PowerLease

/-- The catalog after transactions that are run one after the other. -/
def Transaction.runAll (transactions : List Transaction) (c : Catalog) : Catalog :=
  transactions.foldl (fun c t => t.run c) c

theorem Transaction.runAll_append (first second : List Transaction) (c : Catalog) :
    runAll (first ++ second) c = runAll second (runAll first c) :=
  List.foldl_append

namespace Lifecycle

/-! ## What is committed for one session -/

/-- The end of a session that was read as expired. -/
def endings (now : Int) (s : Session) : List Transaction := [.endSession s.group now]

/-- The warning of a session, if it can be worded. -/
def warnings (now : Int) (s : Session) : List Transaction :=
  (warning? s).toList.map fun text => .markWarned s text now

/-- The announcement of a session, if it can be worded. -/
def announcements (now : Int) (s : Session) : List Transaction :=
  (announcement? s).toList.map fun text => .markAnnounced s text now

/-- The cleanup after a session: its deletion, and before it what its holder was not told yet. -/
def cleanups (now : Int) (s : Session) : List Transaction :=
  (if s.offTold then [] else [.markOff s (offNotice s) now]) ++ [.finalize s]

/-- What the holder of a session is told of servers that are on. -/
def readiness (now : Int) (s : Session) : List Transaction := [.markReady s (readyNotice s) now]

/-! ## What is committed by a stage -/

/-- The transactions of the stages that end and warn, which share a reading. -/
def expireAndWarnTransactions (window : Duration) (now : Int) (c : Catalog) : List Transaction :=
  (c.activeSessions.filter (isExpired now)).flatMap (endings now) ++
    (c.activeSessions.filter (isAging window now)).flatMap (warnings now)

/-- The transactions of the stage that announces. -/
def announceTransactions (now : Int) (c : Catalog) : List Transaction :=
  c.sessionsToAnnounce.flatMap (announcements now)

/-- The transactions of the stage that cleans up. -/
def cleanTransactions (now : Int) (c : Catalog) : List Transaction :=
  c.sessionsToClean.flatMap (cleanups now)

/-- The transactions of the stage that tells of servers that are on. -/
def readyTransactions (now : Int) (c : Catalog) : List Transaction :=
  c.sessionsReady.flatMap (readiness now)

/-- What the stages that end and warn leave of a catalog. -/
def expired (window : Duration) (now : Int) (c : Catalog) : Catalog :=
  (expireAndWarn window now { catalog := c }).catalog

/-- What the stage that announces leaves of it. -/
def announced (window : Duration) (now : Int) (c : Catalog) : Catalog :=
  (announceAll now (expireAndWarn window now { catalog := c })).catalog

/-- What the stage that cleans up leaves of it. -/
def cleaned (window : Duration) (now : Int) (c : Catalog) : Catalog :=
  (cleanAll now (announceAll now (expireAndWarn window now { catalog := c }))).catalog

/-- All transactions of a tick. Each stage reads what those before it have left. -/
def transactions (window : Duration) (now : Int) (c : Catalog) : List Transaction :=
  expireAndWarnTransactions window now c ++ (announceTransactions now (expired window now c) ++
    (cleanTransactions now (announced window now c) ++
      readyTransactions now (cleaned window now c)))

variable {p q : Progress} {c : Catalog} {r : Session} {window : Duration} {now : Int}

/-! ## Stages as runs of transactions -/

/-- A step on one session that commits transactions, if it does not abort. -/
def Commits (step : Progress → Session → Progress) (writes : Session → List Transaction) : Prop :=
  ∀ q r, (step q r).aborted = false →
    q.aborted = false ∧ (step q r).catalog = Transaction.runAll (writes r) q.catalog

theorem commits_expire : Commits (expire now) (endings now) := by
  intro q r h
  rw [expire, Progress.aborted_write] at h
  exact ⟨h, Progress.catalog_write h _ _⟩

theorem commits_writeNotice {step : Progress → Session → Progress}
    {text : Session → Option NoticeText} {write : Session → NoticeText → Transaction}
    {transaction : Session → NoticeText → Catalog → Bool × Catalog} {count : Report → Report}
    (hstep : ∀ q r, step q r = q.writeNotice (text r) (transaction r) count)
    (hwrite : ∀ r t c, (write r t).run c = (transaction r t c).2) :
    Commits step fun r => (text r).toList.map (write r) := by
  intro q r h
  rw [hstep] at h ⊢
  cases htext : text r with
  | none =>
    rw [htext] at h
    exact absurd h.symm Bool.false_ne_true
  | some t =>
    rw [htext, Progress.writeNotice, Progress.aborted_write] at h
    refine ⟨h, ?_⟩
    show _ = Transaction.runAll ((text r).toList.map (write r)) q.catalog
    rw [htext, Progress.writeNotice, Progress.catalog_write h, ← hwrite]
    rfl

theorem commits_warn : Commits (warn now) (warnings now) :=
  commits_writeNotice (fun _ _ => rfl) fun _ _ _ => rfl

theorem commits_announce : Commits (announce now) (announcements now) :=
  commits_writeNotice (fun _ _ => rfl) fun _ _ _ => rfl

theorem commits_clean : Commits (clean now) (cleanups now) := by
  intro q r h
  rw [aborted_clean] at h
  refine ⟨h, ?_⟩
  unfold clean cleanups
  dsimp only
  split
  · rw [Progress.catalog_write h]
    rfl
  · rw [Progress.catalog_write (by rw [Progress.aborted_write, h]), Progress.catalog_write h]
    rfl

theorem commits_tellReady : Commits (tellReady now) (readiness now) := by
  intro q r h
  rw [tellReady, Progress.aborted_write] at h
  exact ⟨h, Progress.catalog_write h _ _⟩

/-- Where each step commits transactions, all steps together commit them one after the other. -/
theorem Commits.foldl {step : Progress → Session → Progress} {writes : Session → List Transaction}
    (h : Commits step writes) {l : List Session} (hdone : (l.foldl step p).aborted = false) :
    p.aborted = false ∧
      (l.foldl step p).catalog = Transaction.runAll (l.flatMap writes) p.catalog := by
  induction l generalizing p with
  | nil => exact ⟨hdone, rfl⟩
  | cons r rest ih =>
    obtain ⟨hstep, hrest⟩ := ih hdone
    obtain ⟨hp, hr⟩ := h p r hstep
    refine ⟨hp, ?_⟩
    rw [List.foldl_cons, hrest, hr, List.flatMap_cons, Transaction.runAll_append]

/-! ## A tick that comes to its end -/

section

variable (h : (tick window now c).aborted = false)
include h

theorem catalog_tick_of_cleaned : (tick window now c).catalog =
    Transaction.runAll (readyTransactions now (cleaned window now c)) (cleaned window now c) := by
  rw [tick, laterStages] at h
  exact (commits_tellReady.foldl h).2

theorem cleaned_eq : cleaned window now c =
    Transaction.runAll (cleanTransactions now (announced window now c)) (announced window now c) := by
  rw [tick, laterStages, aborted_tellAllReady] at h
  exact (commits_clean.foldl h).2

theorem announced_eq : announced window now c =
    Transaction.runAll (announceTransactions now (expired window now c)) (expired window now c) := by
  rw [tick, laterStages, aborted_tellAllReady, aborted_cleanAll] at h
  exact (commits_announce.foldl h).2

theorem expired_eq : expired window now c =
    Transaction.runAll (expireAndWarnTransactions window now c) c := by
  rw [tick, laterStages, aborted_tellAllReady, aborted_cleanAll] at h
  have hexpired := (commits_announce.foldl h).1
  rw [expireAndWarn_eq] at hexpired
  obtain ⟨hmid, hwarned⟩ := commits_warn.foldl hexpired
  rw [expired, expireAndWarn_eq, hwarned, (commits_expire.foldl hmid).2, expireAndWarnTransactions,
    Transaction.runAll_append]

/-- **A tick that comes to its end is the run of its transactions.** -/
theorem catalog_tick :
    (tick window now c).catalog = Transaction.runAll (transactions window now c) c := by
  rw [transactions, Transaction.runAll_append, Transaction.runAll_append, Transaction.runAll_append,
    ← expired_eq h, ← announced_eq h, ← cleaned_eq h]
  exact catalog_tick_of_cleaned h

end

end Lifecycle
end PowerLease
