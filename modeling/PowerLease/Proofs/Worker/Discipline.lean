import Mathlib.Data.List.Basic
import PowerLease.Worker

/-!
# The discipline of a worker

When the runs of a worker start depends on its schedule alone: the next one starts when it is due, or when
the run before it is over if that is later (`Schedule.start`). So the starts of a schedule have their
distances, whatever happens to the worker. They are never less than a period apart, counted from when a
run was due, and a run that starts late by more than the slack puts off those behind it.

A worker follows its schedule (`Follows`) up to the moment at which it stops. All that signals decide is how
far it gets. Once it is told to stop and not told otherwise it starts nothing more, and it has stopped as soon
as its last run is over (`WindsUp`).

A signal that arrives at the very time of a step finds the step done.
-/

namespace PowerLease

/-! ## The starts of a schedule -/

namespace Schedule

variable (s : Schedule) {n m : Nat}

/-- How long a run lasts. -/
def lasts (n : Nat) : Nat := s.takes.getD n 0

/-- When the first run is due. -/
def firstDue : Nat := if s.immediate then 0 else s.period

/-- When a run is due, and when it starts. -/
def slot : Nat → Nat × Nat
  | 0 => (s.firstDue, s.firstDue)
  | n + 1 =>
    let due := Worker.nextDue s (slot n).1 (slot n).2
    (due, max due ((slot n).2 + s.lasts n))

/-- When a run is due. -/
def due (n : Nat) : Nat := (s.slot n).1

/-- When a run starts, if the worker gets that far. -/
def start (n : Nat) : Nat := (s.slot n).2

/-- When a run is over. -/
def ends (n : Nat) : Nat := s.start n + s.lasts n

@[simp] theorem due_zero : s.due 0 = s.firstDue := rfl

theorem due_succ (n : Nat) : s.due (n + 1) = Worker.nextDue s (s.due n) (s.start n) := rfl

theorem start_succ (n : Nat) : s.start (n + 1) = max (s.due (n + 1)) (s.ends n) := rfl

theorem due_le_start (n : Nat) : s.due n ≤ s.start n := by
  cases n with
  | zero => exact Nat.le_refl _
  | succ n => exact Nat.le_max_left _ _

theorem ends_le_start_succ (n : Nat) : s.ends n ≤ s.start (n + 1) := Nat.le_max_right _ _

/-- A run is due a period after the one before it was. -/
theorem due_add_period_le (n : Nat) : s.due n + s.period ≤ s.due (n + 1) := by
  have hle := s.due_le_start n
  rw [due_succ, Worker.nextDue]
  split <;> omega

/-- A run is due a period after the one before it started, but for the slack. -/
theorem start_add_period_le (n : Nat) : s.start n + s.period ≤ s.due (n + 1) + Worker.slack := by
  rw [due_succ, Worker.nextDue]
  split <;> omega

theorem due_add_mul_le (n k : Nat) : s.due n + k * s.period ≤ s.due (n + k) := by
  induction k with
  | zero => simp
  | succ k ih =>
    have hstep := s.due_add_period_le (n + k)
    have hmul : (k + 1) * s.period = k * s.period + s.period := Nat.succ_mul k s.period
    rw [← Nat.add_assoc]
    omega

/-- No run starts before its turn. -/
theorem firstDue_add_mul_le (n : Nat) : s.firstDue + n * s.period ≤ s.start n := by
  have hdue := s.due_add_mul_le 0 n
  have hstart := s.due_le_start n
  rw [due_zero, Nat.zero_add] at hdue
  omega

/-- Runs that are late are not made up for: but for the slack, a run starts as many periods after an earlier
one as there are runs between them. -/
theorem start_add_mul_le (h : n < m) :
    s.start n + (m - n) * s.period ≤ s.start m + Worker.slack := by
  obtain ⟨k, rfl⟩ : ∃ k, m = n + 1 + k := ⟨m - (n + 1), by omega⟩
  have hmul : (n + 1 + k - n) * s.period = k * s.period + s.period := by
    rw [show n + 1 + k - n = k + 1 by omega]
    exact Nat.succ_mul k s.period
  have hfirst := s.start_add_period_le n
  have hrest := s.due_add_mul_le (n + 1) k
  have hstart := s.due_le_start (n + 1 + k)
  omega

theorem start_le_of_le (h : n ≤ m) : s.start n ≤ s.start m := by
  induction h with
  | refl => exact Nat.le_refl _
  | step _ ih =>
    exact Nat.le_trans ih (Nat.le_trans (Nat.le_add_right _ _) (s.ends_le_start_succ _))

/-- A run is over when a later one starts. -/
theorem ends_le_start (h : n < m) : s.ends n ≤ s.start m :=
  Nat.le_trans (s.ends_le_start_succ n) (s.start_le_of_le h)

end Schedule

namespace Worker

variable {s : Schedule} {w v : Worker} {n now limit : Nat}

/-! ## One step -/

/-- A run starts, or the last one is over: all that a step of a worker's own accord can be. -/
theorem step?_cases (h : w.step? s limit = some v) :
    (∃ due, w.phase = .waiting due ∧ due ≤ limit ∧ v = w.start s due due) ∨
      ∃ ends due, w.phase = .busy ends due ∧ ends ≤ limit ∧
        v = { w with finished := w.finished + 1 }.look s due ends := by
  unfold step? at h
  split at h
  next due hphase =>
    split at h
    next hle => exact Or.inl ⟨due, hphase, hle, (Option.some.inj h).symm⟩
    next => exact nomatch h
  next ends due hphase =>
    split at h
    next hle => exact Or.inr ⟨ends, due, hphase, hle, (Option.some.inj h).symm⟩
    next => exact nomatch h
  next => exact nomatch h
  next => exact nomatch h

/-- What a worker decides between two runs. -/
theorem look_cases (s : Schedule) (due now : Nat) (w : Worker) :
    ((w.told || w.alone) = true ∧ w.look s due now = { w with phase := .stopped }) ∨
      ((w.told || w.alone) = false ∧ due ≤ now ∧ w.look s due now = w.start s due now) ∨
      ((w.told || w.alone) = false ∧ now < due ∧ w.look s due now = { w with phase := .waiting due }) := by
  unfold look
  split
  next hasked => exact Or.inl ⟨hasked, rfl⟩
  next hasked =>
    rw [Bool.not_eq_true] at hasked
    split
    next hdue => exact Or.inr (Or.inl ⟨hasked, hdue, rfl⟩)
    next hdue => exact Or.inr (Or.inr ⟨hasked, Nat.lt_of_not_le hdue, rfl⟩)

/-- What holds of a worker and is kept by its steps still holds when it has done all there is to do. -/
theorem runUntil_induct {P : Worker → Prop} (hstep : ∀ w v, w.step? s limit = some v → P w → P v)
    (h : P w) : P (w.runUntil s limit) := by
  fun_induction runUntil s limit w with
  | case1 w v hv ih => exact ih (hstep w v hv h)
  | case2 => exact h

theorem step?_runUntil (s : Schedule) (limit : Nat) (w : Worker) :
    (w.runUntil s limit).step? s limit = none := by
  fun_induction runUntil s limit w with
  | case1 w v hv ih => exact ih
  | case2 w hnone => exact hnone

/-! ## Following a schedule -/

/-- Where in its loop a worker is that has started so many runs, of which so many are over. -/
def Phase.Fits (s : Schedule) (started finished : Nat) : Phase → Prop
  | fresh => started = 0 ∧ finished = 0
  | waiting due => finished = started ∧ due = s.due started ∧ s.start started = due
  | busy ends due => started = finished + 1 ∧ ends = s.ends finished ∧ due = s.due started
  | stopped => finished = started

/-- Nothing that a worker does of its own accord is left to do at a time. -/
def Phase.IsAhead (now : Nat) : Phase → Prop
  | waiting due => now < due
  | busy ends _ => now < ends
  | fresh | stopped => True

theorem isAhead_of_step? (h : w.step? s now = none) : w.phase.IsAhead now := by
  unfold step? at h
  split at h <;> rename_i hphase <;> simp_all [Phase.IsAhead]

/-- The runs of a worker up to some time are the first ones of its schedule. -/
structure Keeps (s : Schedule) (now : Nat) (w : Worker) : Prop where
  starts : w.starts.reverse = (List.range w.starts.length).map s.start
  begun : ∀ n < w.starts.length, s.start n ≤ now
  completed : ∀ n < w.finished, s.ends n ≤ now

/-- A worker that has followed its schedule up to some time. -/
structure Follows (s : Schedule) (now : Nat) (w : Worker) : Prop extends w.Keeps s now where
  fits : w.phase.Fits s w.starts.length w.finished

theorem Follows.mono (h : w.Follows s now) (hle : now ≤ limit) : w.Follows s limit where
  starts := h.starts
  begun n hn := Nat.le_trans (h.begun n hn) hle
  completed n hn := Nat.le_trans (h.completed n hn) hle
  fits := h.fits

/-- When the runs of a worker started can be read off its schedule. -/
theorem Keeps.getElem?_starts (h : w.Keeps s now) {a : Nat} :
    w.starts.reverse[n]? = some a ↔ n < w.starts.length ∧ s.start n = a := by
  rw [h.starts, List.getElem?_map]
  by_cases hn : n < w.starts.length
  · simp [hn]
  · simp [hn]

/-- The run that is next starts in its turn. -/
theorem Keeps.start (h : w.Keeps s limit) (hover : w.finished = w.starts.length)
    (hnow : s.start w.starts.length = now) (hle : now ≤ limit) :
    (w.start s (s.due w.starts.length) now).Follows s limit where
  starts := by simpa [Worker.start, List.range_succ, hnow] using h.starts
  begun n hn := by
    rcases Nat.lt_succ_iff_lt_or_eq.mp hn with hlt | rfl
    · exact h.begun n hlt
    · exact hnow ▸ hle
  completed := h.completed
  fits := by
    show w.starts.length + 1 = w.finished + 1 ∧
      now + s.lasts w.starts.length = s.start w.finished + s.lasts w.finished ∧
      nextDue s (s.due w.starts.length) now = s.due (w.starts.length + 1)
    rw [hover, Schedule.due_succ, hnow]
    exact ⟨rfl, rfl, rfl⟩

/-- A worker between two runs starts the next one in its turn, or waits for it, or stops. -/
theorem Keeps.look (h : w.Keeps s limit) (hover : w.finished = w.starts.length)
    (hnow : s.start w.starts.length = max (s.due w.starts.length) now) (hle : now ≤ limit) :
    (w.look s (s.due w.starts.length) now).Follows s limit := by
  rcases look_cases s (s.due w.starts.length) now w with
    ⟨-, hlook⟩ | ⟨-, hdue, hlook⟩ | ⟨-, hdue, hlook⟩
  · rw [hlook]
    exact ⟨⟨h.starts, h.begun, h.completed⟩, hover⟩
  · rw [hlook]
    exact h.start hover (hnow.trans (Nat.max_eq_right hdue)) hle
  · rw [hlook]
    have hwaits : s.start w.starts.length = s.due w.starts.length :=
      hnow.trans (Nat.max_eq_left (Nat.le_of_lt hdue))
    exact ⟨⟨h.starts, h.begun, h.completed⟩, hover, rfl, hwaits⟩

/-- A step keeps to the schedule. -/
theorem Follows.step (h : w.Follows s limit) (hstep : w.step? s limit = some v) :
    v.Follows s limit := by
  have hfits := h.fits
  rcases step?_cases hstep with ⟨due, hphase, hle, rfl⟩ | ⟨ends, due, hphase, hle, rfl⟩
  · rw [hphase] at hfits
    obtain ⟨hover, rfl, hturn⟩ := hfits
    exact h.toKeeps.start hover hturn hle
  · rw [hphase] at hfits
    obtain ⟨hstarted, rfl, rfl⟩ := hfits
    have hkeeps : ({ w with finished := w.finished + 1 } : Worker).Keeps s limit := by
      refine ⟨h.starts, h.begun, fun n hn => ?_⟩
      rcases Nat.lt_succ_iff_lt_or_eq.mp hn with hlt | rfl
      · exact h.completed n hlt
      · exact hle
    refine hkeeps.look hstarted.symm ?_ hle
    show s.start w.starts.length = max (s.due w.starts.length) (s.ends w.finished)
    rw [hstarted, Schedule.start_succ]

theorem Follows.runUntil (h : w.Follows s limit) : (w.runUntil s limit).Follows s limit :=
  runUntil_induct (fun _ _ hstep hw => hw.step hstep) h

/-- A turn keeps to the schedule too. -/
theorem Follows.turn (h : w.Follows s now) (hahead : w.phase.IsAhead now)
    (hfresh : w.phase = .fresh → now = 0) : (w.turn s now).Follows s now := by
  have hfits := h.fits
  unfold Worker.turn
  split
  next hphase =>
    rw [hphase] at hfits
    obtain ⟨hnone, hover⟩ := hfits
    have hnow : now = 0 := hfresh hphase
    have hdue : (if s.immediate then now else now + s.period) = s.due w.starts.length := by
      rw [hnone, hnow, Nat.zero_add]
      rfl
    rw [hdue]
    refine h.toKeeps.look (hover.trans hnone.symm) ?_ (Nat.le_refl now)
    rw [hnone, hnow, Nat.max_zero]
    rfl
  next due hphase =>
    rw [hphase] at hfits hahead
    obtain ⟨hover, rfl, hturn⟩ := hfits
    exact h.toKeeps.look hover (hturn.trans (Nat.max_eq_left (Nat.le_of_lt hahead)).symm)
      (Nat.le_refl now)
  next => exact h
  next => exact h

/-! ## Events -/

/-- How long an event takes. -/
def Event.length : Event → Nat
  | sleep length => length
  | signal _ | release => 0

/-- A worker that an event has reached, and that has not had its turn. -/
def hear (w : Worker) : Event → Worker
  | .sleep _ => w
  | .signal stop => if w.alone then w else { w with told := stop }
  | .release => { w with alone := true }

/-- After every event a worker has its turn, and then goes on for as long as the event takes. -/
theorem Timed.after_eq (s : Schedule) (t : Timed) (e : Event) :
    t.after s e =
      ⟨t.now + e.length, ((t.worker.hear e).turn s t.now).runUntil s (t.now + e.length)⟩ := by
  cases e <;> rfl

/-- An event is heard of, and nothing else is changed by it until the worker has its turn. -/
theorem hear_eq (w : Worker) (e : Event) : ∃ told alone, w.hear e = { w with told, alone } ∧
    (w.told = true → e ≠ .signal false → told = true) := by
  cases e with
  | sleep => exact ⟨w.told, w.alone, rfl, fun h _ => h⟩
  | release => exact ⟨w.told, true, rfl, fun h _ => h⟩
  | signal stop =>
    by_cases halone : w.alone = true
    · exact ⟨w.told, w.alone, if_pos halone, fun h _ => h⟩
    · refine ⟨stop, w.alone, if_neg halone, fun _ he => ?_⟩
      cases stop with
      | true => rfl
      | false => exact absurd rfl he

theorem Follows.hear (h : w.Follows s now) (e : Event) : (w.hear e).Follows s now := by
  obtain ⟨told, alone, heq, -⟩ := hear_eq w e
  rw [heq]
  exact ⟨⟨h.starts, h.begun, h.completed⟩, h.fits⟩

theorem phase_hear (w : Worker) (e : Event) : (w.hear e).phase = w.phase := by
  obtain ⟨told, alone, heq, -⟩ := hear_eq w e
  rw [heq]

theorem phase_step?_ne_fresh (h : w.step? s limit = some v) : v.phase ≠ .fresh := by
  rcases step?_cases h with ⟨due, -, -, rfl⟩ | ⟨ends, due, -, -, rfl⟩
  · exact Phase.noConfusion
  · rcases look_cases s due ends { w with finished := w.finished + 1 } with
      ⟨-, hlook⟩ | ⟨-, -, hlook⟩ | ⟨-, -, hlook⟩ <;> rw [hlook] <;> exact Phase.noConfusion

/-- A worker that has had a turn is not fresh any more. -/
theorem phase_turn_ne_fresh (s : Schedule) (now : Nat) (w : Worker) :
    (w.turn s now).phase ≠ .fresh := by
  have hlook : ∀ due, (w.look s due now).phase ≠ .fresh := by
    intro due
    rcases look_cases s due now w with ⟨-, h⟩ | ⟨-, -, h⟩ | ⟨-, -, h⟩ <;> rw [h] <;>
      exact Phase.noConfusion
  unfold turn
  split
  next => exact hlook _
  next => exact hlook _
  next hphase => simp [hphase]
  next hphase => simp [hphase]

/-- A worker on its schedule, with nothing left to do now. -/
structure Timed.OnSchedule (s : Schedule) (t : Timed) : Prop where
  follows : t.worker.Follows s t.now
  ahead : t.worker.phase.IsAhead t.now
  fresh : t.worker.phase = .fresh → t.now = 0

variable {t : Timed}

theorem Timed.onSchedule_start (s : Schedule) (told : Bool) :
    Timed.OnSchedule s { worker := { told } } where
  follows := ⟨⟨rfl, nofun, nofun⟩, rfl, rfl⟩
  ahead := trivial
  fresh _ := rfl

theorem Timed.OnSchedule.after (h : t.OnSchedule s) (e : Event) : (t.after s e).OnSchedule s := by
  have hturn : ((t.worker.hear e).turn s t.now).Follows s t.now := by
    refine (h.follows.hear e).turn ?_ ?_
    · rw [phase_hear]
      exact h.ahead
    · rw [phase_hear]
      exact h.fresh
  rw [Timed.after_eq]
  refine ⟨(hturn.mono (Nat.le_add_right _ _)).runUntil, isAhead_of_step? (step?_runUntil _ _ _), ?_⟩
  intro hfresh
  refine absurd hfresh (runUntil_induct (P := fun w => w.phase ≠ .fresh) ?_ ?_)
  · exact fun _ _ hstep _ => phase_step?_ne_fresh hstep
  · exact phase_turn_ne_fresh s t.now _

/-- Whatever happens to a worker, it is on its schedule. -/
theorem Timed.OnSchedule.foldl (h : t.OnSchedule s) (events : List Event) :
    (events.foldl (Timed.after s) t).OnSchedule s := by
  induction events generalizing t with
  | nil => exact h
  | cons e rest ih => exact ih (h.after e)

theorem Timed.phase_after_ne_fresh (s : Schedule) (t : Timed) (e : Event) :
    (t.after s e).worker.phase ≠ .fresh := by
  rw [Timed.after_eq]
  refine runUntil_induct (P := fun w => w.phase ≠ .fresh) ?_ (phase_turn_ne_fresh s t.now _)
  exact fun _ _ hstep _ => phase_step?_ne_fresh hstep

theorem Timed.phase_foldl_ne_fresh (s : Schedule) (t : Timed) {events : List Event}
    (h : events ≠ []) : (events.foldl (Timed.after s) t).worker.phase ≠ .fresh := by
  induction events generalizing t with
  | nil => exact absurd rfl h
  | cons e rest ih =>
    cases rest with
    | nil => exact phase_after_ne_fresh s t e
    | cons => exact ih (t.after s e) (List.cons_ne_nil _ _)

/-! ## Being told to stop -/

/-- A worker that is told to stop, and is at most in the middle of its last run. -/
structure Closing (w : Worker) : Prop where
  told : w.told = true
  notWaiting : ∀ due, w.phase ≠ .waiting due

/-- A worker that is told to stop starts nothing when it has its turn. -/
theorem closing_turn (h : w.told = true) (s : Schedule) (now : Nat) :
    (w.turn s now).Closing ∧ (w.turn s now).starts = w.starts := by
  have hlook : ∀ due, w.look s due now = { w with phase := .stopped } := by
    intro due
    simp [look, h]
  unfold turn
  split
  next => rw [hlook]; exact ⟨⟨h, fun _ => Phase.noConfusion⟩, rfl⟩
  next => rw [hlook]; exact ⟨⟨h, fun _ => Phase.noConfusion⟩, rfl⟩
  next hphase => exact ⟨⟨h, fun _ => hphase ▸ Phase.noConfusion⟩, rfl⟩
  next hphase => exact ⟨⟨h, fun _ => hphase ▸ Phase.noConfusion⟩, rfl⟩

theorem Closing.step (h : w.Closing) (hstep : w.step? s limit = some v) :
    v.Closing ∧ v.starts = w.starts := by
  rcases step?_cases hstep with ⟨due, hphase, -, -⟩ | ⟨ends, due, -, -, rfl⟩
  · exact absurd hphase (h.notWaiting due)
  · have hlook : ({ w with finished := w.finished + 1 } : Worker).look s due ends =
        { w with finished := w.finished + 1, phase := .stopped } := by
      simp [look, h.told]
    rw [hlook]
    exact ⟨⟨h.told, fun _ => Phase.noConfusion⟩, rfl⟩

/-- As long as it stays told to stop, a worker starts nothing. -/
theorem Timed.closing_after (h : t.worker.told = true) {e : Event} (he : e ≠ .signal false) :
    (t.after s e).worker.Closing ∧ (t.after s e).worker.starts = t.worker.starts := by
  obtain ⟨told, alone, heq, htold⟩ := hear_eq t.worker e
  rw [Timed.after_eq, heq]
  refine runUntil_induct (P := fun w => w.Closing ∧ w.starts = t.worker.starts) ?_
    (closing_turn (htold h he) s t.now)
  rintro w v hstep ⟨hw, hstarts⟩
  obtain ⟨hv, hkept⟩ := hw.step hstep
  exact ⟨hv, hkept.trans hstarts⟩

theorem Timed.closing_foldl (h : t.worker.told = true) {events : List Event}
    (hnone : ∀ e ∈ events, e ≠ .signal false) :
    (events.foldl (Timed.after s) t).worker.starts = t.worker.starts ∧
      (events ≠ [] → (events.foldl (Timed.after s) t).worker.Closing) := by
  induction events generalizing t with
  | nil => exact ⟨rfl, fun hne => absurd rfl hne⟩
  | cons e rest ih =>
    obtain ⟨he, hrest⟩ := List.forall_mem_cons.mp hnone
    obtain ⟨hclosing, hstarts⟩ := closing_after (s := s) h he
    obtain ⟨hkept, hclosed⟩ := ih hclosing.told hrest
    refine ⟨hkept.trans hstarts, fun _ => ?_⟩
    cases rest with
    | nil => exact hclosing
    | cons => exact hclosed (List.cons_ne_nil _ _)

/-! ## Not being told to stop -/

/-- A worker that nobody has told to stop. -/
structure Willing (w : Worker) : Prop where
  told : w.told = false
  alone : w.alone = false
  notStopped : w.phase ≠ .stopped

/-- A worker that is not told to stop does not stop between two runs. -/
theorem willing_look (htold : w.told = false) (halone : w.alone = false) (s : Schedule)
    (due now : Nat) : (w.look s due now).Willing := by
  rcases look_cases s due now w with ⟨hasked, -⟩ | ⟨-, -, hlook⟩ | ⟨-, -, hlook⟩
  · simp [htold, halone] at hasked
  · rw [hlook]
    exact ⟨htold, halone, Phase.noConfusion⟩
  · rw [hlook]
    exact ⟨htold, halone, Phase.noConfusion⟩

theorem Willing.step (h : w.Willing) (hstep : w.step? s limit = some v) : v.Willing := by
  rcases step?_cases hstep with ⟨due, -, -, rfl⟩ | ⟨ends, due, -, -, rfl⟩
  · exact ⟨h.told, h.alone, Phase.noConfusion⟩
  · exact willing_look (w := { w with finished := w.finished + 1 }) h.told h.alone s due ends

theorem Willing.turn (h : w.Willing) (s : Schedule) (now : Nat) : (w.turn s now).Willing := by
  unfold Worker.turn
  split
  next => exact willing_look h.told h.alone s _ now
  next => exact willing_look h.told h.alone s _ now
  next => exact h
  next => exact h

theorem Timed.willing_after (h : t.worker.Willing) {e : Event}
    (he : e ≠ .signal true ∧ e ≠ .release) : (t.after s e).worker.Willing := by
  have hheard : (t.worker.hear e).Willing := by
    cases e with
    | sleep => exact h
    | release => exact absurd rfl he.2
    | signal stop =>
      cases stop with
      | true => exact absurd rfl he.1
      | false =>
        show (if t.worker.alone then t.worker else { t.worker with told := false }).Willing
        rw [h.alone]
        exact ⟨rfl, h.alone, h.notStopped⟩
  rw [Timed.after_eq]
  exact runUntil_induct (fun _ _ hstep hw => hw.step hstep) (hheard.turn s t.now)

theorem Timed.willing_foldl (h : t.worker.Willing) {events : List Event}
    (hnone : ∀ e ∈ events, e ≠ .signal true ∧ e ≠ .release) :
    (events.foldl (Timed.after s) t).worker.Willing := by
  induction events generalizing t with
  | nil => exact h
  | cons e rest ih =>
    obtain ⟨he, hrest⟩ := List.forall_mem_cons.mp hnone
    exact ih (willing_after h he) hrest

/-! ## The discipline -/

/-- A run, counted from zero, that started at a time. -/
def Started (w : Worker) (n time : Nat) : Prop := w.starts.reverse[n]? = some time

/-- What can be said of the runs of a worker, whatever happens to it. -/
structure Disciplined (s : Schedule) (w : Worker) : Prop where
  /-- A run starts when all earlier ones are over. -/
  apart : ∀ n m a b, n < m → w.Started n a → w.Started m b → a + s.lasts n ≤ b
  /-- No run starts before its turn. -/
  notEarly : ∀ n a, w.Started n a → (if s.immediate then n else n + 1) * s.period ≤ a
  /-- Runs that are late are not made up for. -/
  noBurst : ∀ n m a b, n < m → w.Started n a → w.Started m b →
    a + (m - n) * s.period ≤ b + slack

theorem Follows.disciplined (h : w.Follows s now) : w.Disciplined s := by
  have hstarted : ∀ {n a}, w.Started n a → s.start n = a := fun hn =>
    (h.toKeeps.getElem?_starts.mp hn).2
  refine ⟨fun n m a b hlt hn hm => ?_, fun n a hn => ?_, fun n m a b hlt hn hm => ?_⟩
  · rw [← hstarted hn, ← hstarted hm]
    exact s.ends_le_start hlt
  · have hturn := s.firstDue_add_mul_le n
    rw [hstarted hn, Schedule.firstDue] at hturn
    split at hturn
    next himmediate =>
      rw [if_pos himmediate]
      omega
    next himmediate =>
      rw [if_neg himmediate, Nat.succ_mul]
      omega
  · rw [← hstarted hn, ← hstarted hm]
    exact s.start_add_mul_le hlt

/-- How a worker at one time ends, seen at a later one. -/
structure WindsUp (s : Schedule) (t u : Timed) : Prop where
  /-- No run has started in between. -/
  starts : u.worker.starts = t.worker.starts
  /-- The worker has stopped as soon as its runs are over. -/
  stopped_iff : u.worker.phase = .stopped ↔ ∀ n a, u.worker.Started n a → a + s.lasts n ≤ u.now
  /-- It has not stopped in the middle of a run. -/
  finished : u.worker.phase = .stopped → u.worker.finished = u.worker.starts.length

/-- A worker that is told to stop has stopped exactly if its runs are over. -/
theorem Timed.OnSchedule.stopped_iff (h : t.OnSchedule s) (hclosing : t.worker.Closing)
    (hfresh : t.worker.phase ≠ .fresh) : t.worker.phase = .stopped ↔
      ∀ n a, t.worker.Started n a → a + s.lasts n ≤ t.now := by
  have hkeeps := h.follows.toKeeps
  have hfits := h.follows.fits
  have hahead := h.ahead
  cases hphase : t.worker.phase with
  | fresh => exact absurd hphase hfresh
  | waiting due => exact absurd hphase (hclosing.notWaiting due)
  | stopped =>
    rw [hphase] at hfits
    refine iff_of_true rfl fun n a hn => ?_
    obtain ⟨hlt, rfl⟩ := hkeeps.getElem?_starts.mp hn
    exact hkeeps.completed n (hfits ▸ hlt)
  | busy ends due =>
    rw [hphase] at hfits hahead
    obtain ⟨hstarted, rfl, -⟩ := hfits
    refine iff_of_false Phase.noConfusion fun hall => ?_
    -- the last run is still to end
    have hlast := hall t.worker.finished _
      (hkeeps.getElem?_starts.mpr ⟨hstarted ▸ Nat.lt_succ_self _, rfl⟩)
    exact absurd hahead (Nat.not_lt_of_le hlast)

theorem Timed.OnSchedule.windsUp (h : t.OnSchedule s) (htold : t.worker.told = true)
    {more : List Event} (hmore : more ≠ []) (hnone : ∀ e ∈ more, e ≠ .signal false) :
    WindsUp s t (more.foldl (Timed.after s) t) := by
  obtain ⟨hstarts, hclosing⟩ := closing_foldl (s := s) htold hnone
  have hlater : (more.foldl (Timed.after s) t).OnSchedule s := h.foldl more
  refine ⟨hstarts, hlater.stopped_iff (hclosing hmore) (phase_foldl_ne_fresh s t hmore), ?_⟩
  intro hstopped
  have hfits := hlater.follows.fits
  rw [hstopped] at hfits
  exact hfits

/-- The runs of a worker that nobody tells to stop are all those whose time has come. -/
theorem Timed.OnSchedule.lt_starts_iff (h : t.OnSchedule s) (hwilling : t.worker.Willing)
    (hfresh : t.worker.phase ≠ .fresh) (n : Nat) :
    n < t.worker.starts.length ↔ s.start n ≤ t.now := by
  have hfits := h.follows.fits
  have hahead := h.ahead
  have hnext : t.now < s.start t.worker.starts.length := by
    cases hphase : t.worker.phase with
    | fresh => exact absurd hphase hfresh
    | stopped => exact absurd hphase hwilling.notStopped
    | waiting due =>
      rw [hphase] at hfits hahead
      obtain ⟨-, -, hturn⟩ := hfits
      exact hturn ▸ hahead
    | busy ends due =>
      rw [hphase] at hfits hahead
      obtain ⟨hstarted, rfl, -⟩ := hfits
      rw [hstarted]
      exact Nat.lt_of_lt_of_le hahead (s.ends_le_start_succ _)
  refine ⟨h.follows.begun n, fun hle => ?_⟩
  by_contra hnot
  exact absurd (Nat.le_trans (s.start_le_of_le (Nat.le_of_not_lt hnot)) hle)
    (Nat.not_le_of_lt hnext)

/-- **A worker keeps its discipline**, however long its runs last and whatever happens to it. No run starts
while another one lasts, none before its turn, and those that are late are not followed by others in quick
succession. Once the worker is told to stop, and as long as it is not told otherwise, no further run starts,
and it has stopped as soon as the run that it was in is over; so it has no run at all if it was told so from
the beginning. A worker that is not told to stop leaves no run out. -/
theorem keeps_discipline (s : Schedule) (told : Bool) (events : List Event) :
    let t := events.foldl (Timed.after s) { worker := { told } }
    Disciplined s t.worker ∧
      (t.worker.told = true → ∀ more, more ≠ [] → (∀ e ∈ more, e ≠ .signal false) →
        WindsUp s t (more.foldl (Timed.after s) t)) ∧
      (told = true → (∀ e ∈ events, e ≠ .signal false) → t.worker.starts = []) ∧
      (told = false → events ≠ [] → (∀ e ∈ events, e ≠ .signal true ∧ e ≠ .release) →
        ∀ n, n < t.worker.starts.length ↔ s.start n ≤ t.now) := by
  intro t
  have hstart := Timed.onSchedule_start s told
  have ht : t.OnSchedule s := hstart.foldl events
  refine ⟨ht.follows.disciplined, fun hasked more hmore hnone => ht.windsUp hasked hmore hnone, ?_, ?_⟩
  · rintro rfl hnone
    exact (Timed.closing_foldl rfl hnone).1
  · rintro rfl hevents hnone
    exact ht.lt_starts_iff (Timed.willing_foldl ⟨rfl, rfl, Phase.noConfusion⟩ hnone)
      (Timed.phase_foldl_ne_fresh s _ hevents)

/-- A schedule whose first run lasts for almost two periods. -/
def tardy : Schedule := ⟨10, false, [18, 3], by decide⟩

/-- The second run of the tardy worker starts late, at 28, and is over at 31, after which there is no other. -/
theorem keeps_discipline_tardy :
    let t := [Event.sleep 29, .signal true].foldl (Timed.after tardy) { worker := {} }
    let u := [Event.signal true, .sleep 1, .sleep 20].foldl (Timed.after tardy) t
    t.worker.starts = [28, 10] ∧ u.worker.starts = [28, 10] ∧ u.worker.phase = .stopped := by
  intro t u
  have ht : t.worker.starts = [28, 10] ∧ t.worker.told = true := by decide +kernel
  obtain ⟨-, hwinds, -, -⟩ := keeps_discipline tardy false [.sleep 29, .signal true]
  have hu : WindsUp tardy t u := hwinds ht.2 _ (List.cons_ne_nil _ _) (by decide)
  have hstarts : u.worker.starts = [28, 10] := hu.starts.trans ht.1
  refine ⟨ht.1, hstarts, hu.stopped_iff.mpr fun n a hn => ?_⟩
  rw [Started, hstarts] at hn
  have hruns : ∀ r ∈ [28, 10].reverse.zipIdx, r.1 + tardy.lasts r.2 ≤ u.now := by decide +kernel
  exact hruns (a, n) (List.mem_zipIdx_iff_getElem?.mpr hn)

end Worker
end PowerLease
