import PowerLease.Scheduler
import PowerLease.Startup
import PowerLease.Proofs.Json.Records
import PowerLease.Proofs.Startup.Options

/-!
# Periods of the workers after a start

Workers need a period of some length. Options on the command line and in the environment are tested for
that, but the file of the settings is not: there `0s` is a duration like any other. So a start that goes
through gives workers without a period in just one case, that the file says so and no option overrules it
(`periods_of_plan`).

What the file says is followed from its text: the value that is given for the period in the part about the
workers, which may be an object or an array, and the text in that value. Where nothing is given, the period
is a default, and these have a length.
-/

namespace PowerLease

open Json (Value)

namespace Scheduler

/-! ## The two periods -/

namespace Turn

/-- The name of a period in a file. -/
def setting : Turn → String
  | outer => "scrape_interval"
  | inner => "internal_clock"

/-- Its place, in a file that gives no names. -/
def place : Turn → Nat
  | outer => 0
  | inner => 1

/-- The period that settings have. -/
def period (s : WorkerSettings) : Turn → Duration
  | outer => s.scrapeInterval
  | inner => s.internalClock

/-- The period that an option gives. -/
def option (a : CommandLine.Arguments) : Turn → Option Duration
  | outer => a.scrapeInterval
  | inner => a.internalClock

/-- What a text of settings gives for a period. -/
def given (text : String) (turn : Turn) : Option Value :=
  ((Json.Document.read text).value.given "workers" 1).bind fun workers =>
    workers.given turn.setting turn.place

/-- Whether a text of settings gives a period of no length. -/
def IsZeroIn (text : String) (turn : Turn) : Prop :=
  ∃ s, turn.given text = some (.text s) ∧ Duration.read s = .ok .zero

end Turn

/-- Who has a turn for a task. -/
def turnOf : Task → Turn
  | .scrape => .outer
  | .manage | .session | .notify => .inner

/-- The schedule of the worker of a task. -/
def schedule? (s : WorkerSettings) (takes : List Nat) (task : Task) : Option Schedule :=
  match turnOf task with
  | .outer => Schedule.ofPeriod? (timetable s).scrapePeriod (timetable s).scrapeOnStart takes
  | .inner => Schedule.ofPeriod? (timetable s).innerPeriod false takes

theorem milliseconds_eq_zero_iff (d : Duration) : milliseconds d = 0 ↔ d = .zero := by
  rw [← Duration.isZero_iff]
  simp only [milliseconds, Duration.isZero, Bool.and_eq_true, beq_iff_eq]
  omega

theorem aborted_trial_ofPeriod? {period : Nat} {immediate told : Bool} {takes : List Nat}
    {events : List Worker.Event} :
    (Worker.trial (Schedule.ofPeriod? period immediate takes) told events).aborted = true ↔
      period = 0 := by
  unfold Schedule.ofPeriod?
  split
  next hpos => simp [Worker.trial, Nat.ne_of_gt hpos]
  next hzero => simp [Worker.trial, Nat.eq_zero_of_not_pos hzero]

/-- A worker aborts if and only if its period has no length. -/
theorem aborted_iff (s : WorkerSettings) (task : Task) (told : Bool) (takes : List Nat)
    (events : List Worker.Event) :
    (Worker.trial (schedule? s takes task) told events).aborted = true ↔
      (turnOf task).period s = .zero := by
  unfold schedule?
  cases turnOf task with
  | outer => exact aborted_trial_ofPeriod?.trans (milliseconds_eq_zero_iff s.scrapeInterval)
  | inner => exact aborted_trial_ofPeriod?.trans (milliseconds_eq_zero_iff s.internalClock)

end Scheduler

/-! ## What a file says -/

namespace Settings

open Scheduler (Turn)

theorem eq_text_of_string {v : Value} {s : String} (h : Json.string v = .ok s) : v = .text s := by
  unfold Json.string Json.stringOf at h
  split at h
  · exact congrArg Value.text (Except.ok.inj h)
  · obtain ⟨_, _, h⟩ := exists_of_bind_eq_ok h
    exact nomatch h

/-- A duration is read from its text. -/
theorem exists_of_duration {v : Value} {d : Duration} (h : duration v = .ok d) :
    ∃ s, v = .text s ∧ Duration.read s = .ok d := by
  obtain ⟨s, hs, h⟩ := exists_of_bind_eq_ok h
  refine ⟨s, eq_text_of_string hs, ?_⟩
  split at h
  next hread => rw [hread, Except.ok.inj h]
  next => exact nomatch h

/-- The periods are read from the part about the workers. -/
theorem period_of_workers? {v : Value} {w : WorkerSettings} (h : workers? v = .ok w) (turn : Turn) :
    (∀ u, v.given turn.setting turn.place = some u → duration u = .ok (turn.period w)) ∧
      (v.given turn.setting turn.place = none → turn.period w = turn.period {}) := by
  obtain ⟨⟨scrape, inner, window, onStart, ⟨⟩⟩, hrecord, h⟩ := exists_of_bind_eq_ok h
  obtain rfl := Except.ok.inj h
  obtain ⟨hscrape, hnoScrape, hinner, hnoInner, -⟩ := Json.holds_of_record (by decide) hrecord
  cases turn with
  | outer => exact ⟨hscrape, fun hnone => (Option.some.inj (hnoScrape hnone)).symm⟩
  | inner => exact ⟨hinner, fun hnone => (Option.some.inj (hnoInner hnone)).symm⟩

/-- The part about the workers is read from the settings as a whole. -/
theorem workers_of_decoder {v : Value} {s : Settings} (h : decoder v = .ok s) :
    (∀ u, v.given "workers" 1 = some u → workers? u = .ok s.workers) ∧
      (v.given "workers" 1 = none → s.workers = {}) := by
  obtain ⟨⟨provider, workers, database, ⟨⟩⟩, hrecord, h⟩ := exists_of_bind_eq_ok h
  obtain rfl := Except.ok.inj h
  obtain ⟨-, -, hworkers, hnoWorkers, -⟩ := Json.holds_of_record (by decide) hrecord
  exact ⟨hworkers, fun hnone => (Option.some.inj (hnoWorkers hnone)).symm⟩

theorem period_default_ne_zero (turn : Turn) : turn.period {} ≠ .zero := by
  cases turn <;> decide

/-- The periods are read from what the text gives for them. -/
theorem period_of_read {text : String} {s : Settings} (h : read text = .ok s) (turn : Turn) :
    (∀ u, turn.given text = some u → duration u = .ok (turn.period s.workers)) ∧
      (turn.given text = none → turn.period s.workers = turn.period {}) := by
  obtain ⟨read, hread, h⟩ := exists_of_bind_eq_ok h
  -- that nothing comes behind the document does not change what is read
  have hsame : read = s := by
    split at h
    · exact Except.ok.inj h
    · exact nomatch h
  obtain ⟨hworkers, hnoWorkers⟩ := workers_of_decoder (hsame ▸ hread)
  constructor
  · intro u hu
    obtain ⟨w, hw, hu⟩ := Option.bind_eq_some_iff.mp hu
    exact (period_of_workers? (hworkers w hw) turn).1 u hu
  · intro hnone
    cases hw : (Json.Document.read text).value.given "workers" 1 with
    | none => rw [hnoWorkers hw]
    | some w =>
      refine (period_of_workers? (hworkers w hw) turn).2 ?_
      rwa [Turn.given, hw] at hnone

/-- **Settings that are read have a period of no length if and only if their text gives it so.** -/
theorem period_eq_zero_iff {text : String} {s : Settings} (h : read text = .ok s) (turn : Turn) :
    turn.period s.workers = .zero ↔ turn.IsZeroIn text := by
  obtain ⟨hgiven, hdefault⟩ := period_of_read h turn
  constructor
  · intro hzero
    cases hu : turn.given text with
    | none => exact absurd (hdefault hu ▸ hzero) (period_default_ne_zero turn)
    | some u =>
      obtain ⟨t, rfl, ht⟩ := exists_of_duration (hgiven u hu)
      exact ⟨t, hu, hzero ▸ ht⟩
  · rintro ⟨t, hu, ht⟩
    obtain ⟨t', htext, ht'⟩ := exists_of_duration (hgiven _ hu)
    obtain rfl : t = t' := by simpa [Value.text] using htext
    exact Except.ok.inj (ht'.symm.trans ht)

end Settings

namespace Startup

open Scheduler (Turn)

theorem read_of_readSettings {path text : String} {s : Settings} (h : readSettings path text = .ok s) :
    Settings.read text = .ok s := by
  unfold readSettings at h
  split at h
  next hread => rw [hread, Except.ok.inj h]
  next => exact nomatch h

/-- Settings that are loaded are those of their file, or the defaults if it is not there. -/
theorem loadSettings_cases {files : Files} {home : String} {asked : Option String} {s : Settings}
    (h : loadSettings files home asked = .ok s) :
    (∃ text, files (settingsFile home asked) = some text ∧ Settings.read text = .ok s) ∨
      files (settingsFile home asked) = none ∧ s = {} := by
  unfold loadSettings at h
  split at h
  next path =>
    split at h
    next text htext => exact .inl ⟨text, htext, read_of_readSettings h⟩
    next => exact nomatch h
  next =>
    split at h
    next text htext => exact .inl ⟨text, htext, read_of_readSettings h⟩
    next hnone => exact .inr ⟨hnone, (Except.ok.inj h).symm⟩

/-- So they have a period of no length if and only if their file gives it so. -/
theorem period_of_loadSettings {files : Files} {home : String} {asked : Option String} {s : Settings}
    (h : loadSettings files home asked = .ok s) (turn : Turn) :
    turn.period s.workers = .zero ↔
      ∃ text, files (settingsFile home asked) = some text ∧ turn.IsZeroIn text := by
  rcases loadSettings_cases h with ⟨text, htext, hread⟩ | ⟨hnone, rfl⟩
  · rw [Settings.period_eq_zero_iff hread, htext]
    exact ⟨fun hzero => ⟨text, rfl, hzero⟩, fun ⟨_, hsame, hzero⟩ => Option.some.inj hsame ▸ hzero⟩
  · rw [hnone]
    exact ⟨fun hzero => absurd hzero (Settings.period_default_ne_zero turn),
      fun ⟨_, htext, _⟩ => nomatch htext⟩

/-- An option overrules a period. -/
theorem period_overrule (a : CommandLine.Arguments) (s : Settings) (turn : Turn) :
    turn.period (overrule a s).workers = (turn.option a).getD (turn.period s.workers) := by
  cases turn <;> rfl

/-- A period that an option gives has some length. -/
theorem option_ne_zero {a : CommandLine.Arguments} (h : a.Proper) {turn : Turn} {d : Duration}
    (hd : turn.option a = some d) : d ≠ .zero := by
  have hmem : some d ∈ [a.scrapeInterval, a.internalClock, a.warningWindow] := by
    cases turn <;> simp [← hd, Turn.option]
  intro hzero
  have hlong := h.duration d hmem
  rw [hzero] at hlong
  exact absurd hlong (by decide)

variable {files : Files} {home : String} {arguments : List String}
  {environment : List (String × String)} {p : Plan}

/-- **What is known of periods after a start that goes through.** A period has some length if and only if
an option gives it, or else the file of the settings does not give it as one without length. And the
workers that do not abort at once are those whose period has some length. -/
theorem periods_of_plan (h : plan files home arguments environment = .ok p) :
    (∀ turn : Turn, 0 < (turn.period p.settings.workers).toNanos ↔
      turn.option p.arguments ≠ none ∨
        ¬∃ text, files (settingsFile home p.arguments.config) = some text ∧ turn.IsZeroIn text) ∧
    ∀ task takes told events,
      (Worker.trial (Scheduler.schedule? p.settings.workers takes task) told events).aborted = false ↔
        0 < ((Scheduler.turnOf task).period p.settings.workers).toNanos := by
  obtain ⟨a, ha, h⟩ := exists_of_bind_eq_ok h
  obtain ⟨loaded, hloaded, h⟩ := exists_of_bind_eq_ok h
  obtain rfl := Except.ok.inj h
  have hproper : a.Proper := CommandLine.proper_read (eq_ok_of_mapError_eq_ok ha)
  have hfile := period_of_loadSettings (eq_ok_of_mapError_eq_ok hloaded)
  refine ⟨fun turn => ?_, fun task takes told events => ?_⟩
  · rw [Duration.toNanos_pos_iff, period_overrule, ← hfile turn]
    -- only where no option was given does the file matter
    cases hoption : turn.option a with
    | some d => simp [option_ne_zero hproper hoption]
    | none => simp
  · rw [← Bool.not_eq_true, Scheduler.aborted_iff, Duration.toNanos_pos_iff]

/-- A file of settings whose reports have no period. -/
def withoutPeriod : Files := fun path =>
  if path = "settings.json" then some "\x7b\"workers\":\x7b\"scrape_interval\":\"0s\"\x7d\x7d" else none

/-- Where a variable of the environment overrules that file, all workers have a period. -/
theorem periods_of_plan_overruled : ∃ p, plan withoutPeriod "/home/user" ["--config", "settings.json"]
      [("EZ2BOOT_SCRAPE_INTERVAL", "30s")] = .ok p ∧
    0 < (Turn.outer.period p.settings.workers).toNanos ∧
    (Worker.trial (Scheduler.schedule? p.settings.workers [] .scrape) false []).aborted = false := by
  have hplan : plan withoutPeriod "/home/user" ["--config", "settings.json"]
    [("EZ2BOOT_SCRAPE_INTERVAL", "30s")] = .ok _ := rfl
  have hpos := ((periods_of_plan hplan).1 .outer).mpr (.inl (by decide))
  exact ⟨_, rfl, hpos, ((periods_of_plan hplan).2 .scrape [] false []).mpr hpos⟩

/-- With that file alone, a start goes through and the first worker aborts. -/
theorem not_periods_pos : ¬∀ files home arguments environment p,
    plan files home arguments environment = .ok p →
      (∀ turn : Turn, 0 < (turn.period p.settings.workers).toNanos) ∧
        ∀ task takes told events,
          (Worker.trial (Scheduler.schedule? p.settings.workers takes task) told events).aborted = false := by
  intro h
  have hpos := (h withoutPeriod "/home/user" ["--config", "settings.json"] [] _ rfl).1 .outer
  exact absurd hpos (by decide)

end Startup
end PowerLease
