import PowerLease.Proofs.Interleaving.Acts
import PowerLease.Proofs.Lifecycle.Transactions

/-!
# The report of a tick, counted

A stage counts a write only if its guard let it happen. Where nobody writes in between, every guard does:
the rows are as they were read. So the report of a tick that comes to its end counts, act by act, the
sessions that its stages have read (`count_tick`).
-/

namespace PowerLease

/-- The number of a report that counts an act. -/
def Lifecycle.Report.count (r : Lifecycle.Report) : Act → Nat
  | .ended => r.expired
  | .warned => r.warned
  | .announced => r.announced
  | .toldOff => r.offTold
  | .deleted => r.cleaned
  | .toldReady => r.ready
  | .opened | .extended => 0

namespace Catalog

variable {c : Catalog} {r s : Session}

theorem endSession_eq_true (hr : r ∈ c.sessions) (hlive : r.ended = false) (now : Int) :
    (c.endSession r.group now).1 = true := by
  rcases c.endSession_cases r.group now with ⟨hmiss, -⟩ | ⟨_, -, -, -, hrun⟩
  · rw [hmiss r hr rfl] at hlive
    exact Bool.noConfusion hlive
  · rw [hrun]

theorem finalize_eq_true (hs : s ∈ c.sessions) (hid : s.id = r.id) (hended : s.ended = true)
    (htold : s.offTold = true) : (c.finalize r).1 = true := by
  rcases c.finalize_cases r with ⟨hmiss, -⟩ | ⟨_, -, -, -, -, hrun⟩
  · rw [hmiss s hs hid hended] at htold
    exact Bool.noConfusion htold
  · rw [hrun]

end Catalog

namespace Lifecycle

variable {p q : Progress} {c : Catalog} {l : List Session} {r : Session} {window : Duration} {now : Int}
  {a : Act} {step : Progress → Session → Progress} {update : List Session → Catalog → Catalog}
  {invariant : Catalog → Prop}

/-! ## One write -/

theorem report_write_of_done (hp : p.aborted = false) {transaction : Catalog → Bool × Catalog}
    (hdone : (transaction p.catalog).1 = true) (count : Report → Report) :
    (p.write transaction count).report = count p.report := by
  simp only [Progress.write, hp, hdone, Bool.false_eq_true, if_false, if_true]

theorem report_write_raise (hp : p.aborted = false) (hr : r ∈ p.catalog.sessions)
    {guard : Session → Bool} (hguard : guard r = true) (flag : Session → Session) (text : NoticeText)
    (count : Report → Report) :
    (p.write (Catalog.raise guard flag r text now) count).report = count p.report :=
  report_write_of_done hp (Catalog.raise_eq_true_iff.mpr ⟨r, hr, rfl, hguard⟩) count

/-- What the cleanup after one session counts. -/
def cleanupCounts (a : Act) (r : Session) : Bool := a = .deleted || a = .toldOff && !r.offTold

/-- The cleanup after an ended session succeeds: the deletion meets the session as it was just told. -/
theorem count_clean (hq : q.aborted = false) (hr : r ∈ q.catalog.sessions) (hended : r.ended = true)
    (a : Act) : (clean now q r).report.count a =
      q.report.count a + if cleanupCounts a r then 1 else 0 := by
  unfold clean
  dsimp only
  cases htold : r.offTold with
  | true =>
    rw [if_pos rfl, report_write_of_done hq (Catalog.finalize_eq_true hr rfl hended htold)]
    cases a <;> simp [Report.count, cleanupCounts, htold]
  | false =>
    have hguard : (r.ended && !r.offTold) = true := by rw [hended, htold]; rfl
    have htells : (q.write (Catalog.markOff r (offNotice r) now)
        fun r => { r with offTold := r.offTold + 1 }).report =
          { q.report with offTold := q.report.offTold + 1 } :=
      report_write_raise hq hr hguard Session.tellOff (offNotice r) _
    have hmem : r.tellOff ∈ (q.write (Catalog.markOff r (offNotice r) now)
        fun r => { r with offTold := r.offTold + 1 }).catalog.sessions := by
      rw [Progress.catalog_write hq, Catalog.markOff, Catalog.sessions_raise]
      refine List.mem_map.mpr ⟨r, hr, if_pos ?_⟩
      rw [beq_self_eq_true, Bool.true_and, hguard]
    have hdone : ∀ d : Catalog, r.tellOff ∈ d.sessions → (Catalog.finalize r d).1 = true :=
      fun _ hd => Catalog.finalize_eq_true hd rfl hended rfl
    rw [if_neg Bool.false_ne_true, report_write_of_done (by rw [Progress.aborted_write, hq])
      (hdone _ hmem), htells]
    cases a <;> simp [Report.count, cleanupCounts, htold]

/-! ## One stage -/

/-- What is counted row by row is the number of rows. -/
theorem WritesRows.count_foldl {pick : Session → Bool} (h : WritesRows step update invariant l)
    (hp : Stands invariant l p)
    (hstep : ∀ q : Progress, ∀ r ∈ l, q.aborted = false → r ∈ q.catalog.sessions →
      (step q r).report.count a = q.report.count a + if pick r then 1 else 0) :
    (l.foldl step p).report.count a = p.report.count a + l.countP pick := by
  induction l generalizing p with
  | nil => rfl
  | cons r rest ih =>
    obtain ⟨hrest, hnext⟩ := h.next hp
    have hfirst := hstep p r List.mem_cons_self hp.aborted (hp.read r List.mem_cons_self)
    have hothers := ih hrest hnext fun q s hs => hstep q s (List.mem_cons_of_mem r hs)
    rw [List.foldl_cons, hothers, hfirst, List.countP_cons]
    omega

/-- A stage that raises a flag counts its sessions for one act. -/
theorem count_foldl_raise {guard : Session → Bool} {flag : Session → Session}
    {text : Session → NoticeText} {count : Report → Report} {b : Act}
    (h : WritesRows step update invariant l) (hp : Stands invariant l p)
    (hstep : ∀ r ∈ l, ∀ q : Progress,
      step q r = q.write (Catalog.raise guard flag r (text r) now) count)
    (hguard : ∀ r ∈ l, guard r = true)
    (hcount : ∀ n : Report, (count n).count a = n.count a + if a = b then 1 else 0) :
    (l.foldl step p).report.count a = p.report.count a + l.countP fun _ => a = b := by
  refine h.count_foldl hp fun q r hr hq hmem => ?_
  rw [hstep r hr, report_write_raise hq hmem (hguard r hr), hcount]
  simp only [decide_eq_true_eq]

theorem count_expireAndWarn (hc : p.catalog.Consistent)
    (h : (expireAndWarn window now p).aborted = false) (a : Act) :
    (expireAndWarn window now p).report.count a =
      p.report.count a + (toEnd now p.catalog).countP (fun _ => a = .ended) +
        (toWarn window now p.catalog).countP fun _ => a = .warned := by
  have hp := not_aborted_of_expireAndWarn h
  have hlive : ∀ r ∈ toEnd now p.catalog, r.ended = false := fun r hr =>
    (mem_activeSessions.mp (List.mem_of_mem_filter hr)).2
  have hended : ((toEnd now p.catalog).foldl (expire now) p).report.count a =
      p.report.count a + (toEnd now p.catalog).countP fun _ => a = .ended := by
    refine (writesRows_expire hlive).count_foldl (stands_activeSessions hc hp _) ?_
    intro q r hr hq hmem
    rw [expire, report_write_of_done hq (Catalog.endSession_eq_true hmem (hlive r hr) now)]
    cases a <;> simp [Report.count]
  rw [expireAndWarn_eq] at h ⊢
  obtain ⟨-, worded, -, hwrite, hrows⟩ :=
    writesRows_writeNotice warn_eq_raise (fun _ => rfl) (fun _ => guard_of_mem_toWarn) h
  rw [← hended]
  refine count_foldl_raise hrows (stands_toWarn hc hp window now) hwrite
    (fun _ => guard_of_mem_toWarn) fun n => ?_
  cases a <;> rfl

theorem count_announceAll (hn : (p.catalog.sessions.map Session.id).Nodup)
    (h : (announceAll now p).aborted = false) (a : Act) :
    (announceAll now p).report.count a =
      p.report.count a + p.catalog.sessionsToAnnounce.countP fun _ => a = .announced := by
  have hguard : ∀ r ∈ p.catalog.sessionsToAnnounce, r.unannounced = true := fun r hr =>
    (List.mem_filter.mp hr).2
  obtain ⟨hp, worded, -, hwrite, hrows⟩ := writesRows_writeNotice announce_eq_raise (fun _ => rfl) hguard h
  refine count_foldl_raise hrows (stands_filter hn hp _) hwrite hguard fun n => ?_
  cases a <;> rfl

theorem count_cleanAll (hn : (p.catalog.sessions.map Session.id).Nodup) (hp : p.aborted = false)
    (now : Int) (a : Act) : (cleanAll now p).report.count a =
      p.report.count a + p.catalog.sessionsToClean.countP (cleanupCounts a) := by
  refine (writesRows_clean fun _ => ended_of_mem_sessionsToClean).count_foldl (stands_filter hn hp _) ?_
  exact fun q r hr hq hmem => count_clean hq hmem (ended_of_mem_sessionsToClean hr) a

theorem count_tellAllReady (hn : (p.catalog.sessions.map Session.id).Nodup) (hp : p.aborted = false)
    (now : Int) (a : Act) : (tellAllReady now p).report.count a =
      p.report.count a + p.catalog.sessionsReady.countP fun _ => a = .toldReady := by
  have hguard : ∀ r ∈ p.catalog.sessionsReady, (!r.ended && !r.readyTold) = true := fun _ =>
    guard_of_mem_sessionsReady
  refine count_foldl_raise (writesRows_raise (fun r _ q => tellReady_eq_raise q r) (fun _ => rfl) hguard)
    (stands_filter hn hp _) (fun r _ q => tellReady_eq_raise q r) hguard fun n => ?_
  cases a <;> rfl

/-! ## The whole tick -/

/-- **The report of a tick that comes to its end counts the sessions that its stages have read.** -/
theorem count_tick (hc : c.Consistent) (h : (tick window now c).aborted = false) (a : Act) :
    (tick window now c).report.count a =
      (toEnd now c).countP (fun _ => a = .ended) + (toWarn window now c).countP (fun _ => a = .warned) +
        (expired window now c).sessionsToAnnounce.countP (fun _ => a = .announced) +
        (announced window now c).sessionsToClean.countP (cleanupCounts a) +
        (cleaned window now c).sessionsReady.countP fun _ => a = .toldReady := by
  obtain ⟨h1, h2⟩ := not_aborted_of_tick h
  have hc1 := (continues_expireAndWarn (p := { catalog := c }) hc window now).consistent
  have hc2 := (continues_announced hc window now).consistent
  have hc3 := (continues_cleaned hc window now).consistent
  have hfirst : (expireAndWarn window now { catalog := c }).report.count a =
      ({} : Report).count a + (toEnd now c).countP (fun _ => a = .ended) +
        (toWarn window now c).countP fun _ => a = .warned :=
    count_expireAndWarn (p := { catalog := c }) hc h1 a
  have hzero : ({} : Report).count a = 0 := by cases a <;> rfl
  rw [tick, laterStages, count_tellAllReady hc3.sessionIds_nodup (not_aborted_cleaned h),
    count_cleanAll hc2.sessionIds_nodup h2, count_announceAll hc1.sessionIds_nodup h2, hfirst, hzero,
    Nat.zero_add]
  rfl

end Lifecycle
end PowerLease
