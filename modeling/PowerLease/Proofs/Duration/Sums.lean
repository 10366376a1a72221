import Mathlib.Tactic.SplitIfs
import PowerLease.Proofs.Duration.Roundtrip

/-!
# What adding comes to

Whatever is added to a sum, the new sum is exact, or there is none (`toNanos_of_addTerm`). Where there is none,
this is refused, with one exception: nanoseconds that make up exactly one second are carried only in the last
step, which nobody checks. So adding aborts exactly where the sum is filled up to the second that it cannot
hold, by at most one second of nanoseconds (`addTerm_eq_abort_iff`).
-/

namespace PowerLease.Duration

variable {sum d : Duration} {n seconds nanos amount : Nat} {f : Fraction} {grain : Grain}

/-! ## Parts -/

/-- What is computed of a number that has to fit is computed if it does, and refused otherwise. -/
theorem bind_fit_eq_iff {α : Type} {next : Nat → Except (Halt Fault) α} {result : Except (Halt Fault) α}
    (h : result ≠ refuse .overflow) : (fit n).bind next = result ↔ n < 1 <<< 64 ∧ next n = result := by
  unfold fit
  split_ifs with hfits
  · rw [and_iff_right hfits]
    rfl
  · exact iff_of_false (Ne.symm h) fun hboth => hfits hboth.1

theorem ok_ne_overflow {α : Type} (a : α) : (Except.ok a : Except (Halt Fault) α) ≠ refuse .overflow := nofun

theorem abort_ne_overflow {α : Type} : (abort : Except (Halt Fault) α) ≠ refuse .overflow :=
  refuse_ne_abort.symm

theorem toNanos_of_ofParts (h : ofParts seconds nanos = .ok d) :
    d.toNanos = seconds * 1000000000 + nanos := by
  unfold ofParts at h
  split_ifs at h with hfits
  · rw [← Except.ok.inj h, toNanos, Nat.add_mul, Nat.add_assoc, Nat.div_add_mod']
  · exact absurd h.symm ok_ne_abort

theorem ofParts_eq_abort_iff :
    ofParts seconds nanos = abort ↔ 1 <<< 64 ≤ seconds + nanos / 1000000000 := by
  unfold ofParts
  split_ifs with hfits
  · exact iff_of_false ok_ne_abort (Nat.not_le.mpr hfits)
  · exact iff_of_true rfl (Nat.not_lt.mp hfits)

/-- Up to one second of nanoseconds, nothing is carried before the end. -/
theorem add_of_le (h : sum.nanos + nanos ≤ 1000000000) : add sum seconds nanos =
    (fit (sum.seconds + seconds)).bind fun total => ofParts total (sum.nanos + nanos) := by
  have hfit : fit (sum.nanos + nanos) = .ok (sum.nanos + nanos) := fit_of_lt (by omega)
  simp only [add, hfit, bind, Except.bind, if_neg (Nat.not_lt.mpr h), pure, Except.pure]

theorem add_of_lt (h : 1000000000 < sum.nanos + nanos) : add sum seconds nanos =
    (fit (sum.nanos + nanos)).bind fun below =>
      (fit (seconds + below / 1000000000)).bind fun carried =>
        (fit (sum.seconds + carried)).bind fun total => ofParts total (below % 1000000000) := by
  unfold add
  by_cases hfits : sum.nanos + nanos < 1 <<< 64
  · simp only [fit_of_lt hfits, bind, Except.bind, if_pos h]
    cases fit (seconds + (sum.nanos + nanos) / 1000000000) <;> rfl
  · rw [fit, if_neg hfits]
    rfl

/-- A sum is exact. -/
theorem toNanos_of_add (h : add sum seconds nanos = .ok d) :
    d.toNanos = sum.toNanos + seconds * 1000000000 + nanos := by
  rcases Nat.lt_or_ge 1000000000 (sum.nanos + nanos) with hcarry | hnone
  · rw [add_of_lt hcarry] at h
    simp only [bind_fit_eq_iff (ok_ne_overflow d)] at h
    rw [toNanos_of_ofParts h.2.2.2, toNanos]
    omega
  · rw [add_of_le hnone, bind_fit_eq_iff (ok_ne_overflow d)] at h
    rw [toNanos_of_ofParts h.2, toNanos]
    omega

/-- One second of nanoseconds that cannot be carried is where adding aborts. -/
theorem add_eq_abort_iff : add sum seconds nanos = abort ↔
    sum.nanos + nanos = 1000000000 ∧ sum.seconds + seconds + 1 = 1 <<< 64 := by
  rcases Nat.lt_or_ge 1000000000 (sum.nanos + nanos) with hcarry | hnone
  · rw [add_of_lt hcarry]
    simp only [bind_fit_eq_iff abort_ne_overflow, ofParts_eq_abort_iff]
    omega
  · rw [add_of_le hnone, bind_fit_eq_iff abort_ne_overflow, ofParts_eq_abort_iff]
    omega

/-! ## Amounts -/

/-- Adds an amount. -/
def addAmount (sum : Duration) : Grain → Except (Halt Fault) Duration
  | .seconds k => add sum k 0
  | .nanos k => add sum 0 k

theorem toNanos_of_addAmount (h : addAmount sum grain = .ok d) :
    d.toNanos = sum.toNanos + grain.toNanos := by
  cases grain with
  | seconds k => rw [toNanos_of_add h, Grain.toNanos, Nat.add_zero]
  | nanos k => rw [toNanos_of_add h, Grain.toNanos, Nat.zero_mul, Nat.add_zero]

/-- An amount fills a sum up to the second that it cannot hold, by at most one second of nanoseconds. -/
def Grain.FillsUp (sum : Duration) : Grain → Prop
  | .seconds _ => False
  | .nanos k => k ≤ 1000000000 ∧ sum.toNanos + k = tooManyNanos

theorem addAmount_eq_abort_iff : addAmount sum grain = abort ↔ grain.FillsUp sum := by
  have hbelow := sum.nanos_lt
  have hseconds := sum.seconds_lt
  cases grain with
  | seconds k =>
    rw [addAmount, add_eq_abort_iff, Grain.FillsUp, iff_false]
    omega
  | nanos k =>
    simp only [addAmount, add_eq_abort_iff, Grain.FillsUp, toNanos, tooManyNanos]
    omega

namespace Grain

/-- How much is counted. -/
def count : Grain → Nat
  | .seconds k | .nanos k => k

/-- The nanoseconds that are counted as one. -/
def scale : Grain → Nat
  | .seconds _ => 1000000000
  | .nanos _ => 1

/-- So many of what is counted. -/
def recount (k : Nat) : Grain → Grain
  | .seconds _ => .seconds k
  | .nanos _ => .nanos k

theorem toNanos_eq (grain : Grain) : grain.toNanos = grain.count * grain.scale := by
  cases grain with
  | seconds k => rfl
  | nanos k => exact (Nat.mul_one k).symm

theorem toNanos_recount (grain : Grain) (k : Nat) : (grain.recount k).toNanos = k * grain.scale := by
  cases grain with
  | seconds => rfl
  | nanos => exact (Nat.mul_one k).symm

theorem FillsUp.le {k : Nat} (h : (grain.recount k).FillsUp sum) : k ≤ 1000000000 := by
  cases grain with
  | seconds => exact h.elim
  | nanos => exact h.1

end Grain

/-! ## Whole units -/

theorem addWhole_eq : addWhole sum n grain =
    (fit (n * grain.count)).bind fun k => addAmount sum (grain.recount k) := by
  cases grain <;> rfl

theorem toNanos_of_addWhole (h : addWhole sum n grain = .ok d) :
    d.toNanos = sum.toNanos + n * grain.toNanos := by
  rw [addWhole_eq, bind_fit_eq_iff (ok_ne_overflow d)] at h
  rw [toNanos_of_addAmount h.2, grain.toNanos_recount, grain.toNanos_eq, Nat.mul_assoc]

theorem addWhole_eq_abort_iff :
    addWhole sum n grain = abort ↔ (grain.recount (n * grain.count)).FillsUp sum := by
  rw [addWhole_eq, bind_fit_eq_iff abort_ne_overflow, addAmount_eq_abort_iff, and_iff_right_iff_imp]
  exact fun h => Nat.lt_of_le_of_lt h.le (by decide)

/-! ## Fractions of a unit -/

theorem Fraction.of_eq_ok_iff {each k : Nat} : f.of each = .ok k ↔ f.numerator * each < 1 <<< 64 ∧
    f.numerator * each % f.denominator = 0 ∧ f.numerator * each / f.denominator = k := by
  refine (bind_fit_eq_iff (ok_ne_overflow k)).trans (and_congr_right fun _ => ?_)
  split_ifs with hwhole
  · exact ⟨fun h => ⟨hwhole, Except.ok.inj h⟩, fun h => congrArg Except.ok h.2⟩
  · exact iff_of_false nofun fun h => hwhole h.1

theorem Fraction.of_ne_abort {each : Nat} : f.of each ≠ abort := by
  intro h
  have hnext := ((bind_fit_eq_iff abort_ne_overflow).mp h).2
  split_ifs at hnext
  · exact ok_ne_abort hnext
  · exact refuse_ne_abort hnext

theorem addFraction_eq : addFraction sum f grain =
    (f.of grain.count).bind fun k => addAmount sum (grain.recount k) := by
  cases grain <;> rfl

/-- The part of a unit that is added is exact. -/
theorem toNanos_of_fraction {k : Nat} (h : f.of grain.count = .ok k) :
    (grain.recount k).toNanos * f.denominator = f.numerator * grain.toNanos := by
  obtain ⟨-, hwhole, rfl⟩ := Fraction.of_eq_ok_iff.mp h
  rw [grain.toNanos_recount, grain.toNanos_eq, Nat.mul_right_comm,
    Nat.div_mul_cancel (Nat.dvd_of_mod_eq_zero hwhole), Nat.mul_assoc]

theorem exists_of_addFraction (h : addFraction sum f grain = .ok d) :
    ∃ k, f.of grain.count = .ok k ∧ d.toNanos = sum.toNanos + (grain.recount k).toNanos := by
  rw [addFraction_eq] at h
  obtain ⟨k, hk, h⟩ := exists_of_bind_eq_ok h
  exact ⟨k, hk, toNanos_of_addAmount h⟩

theorem addFraction_eq_abort_iff : addFraction sum f grain = abort ↔
    ∃ k, f.of grain.count = .ok k ∧ (grain.recount k).FillsUp sum := by
  rw [addFraction_eq]
  refine bind_eq_error_iff.trans ((or_iff_right Fraction.of_ne_abort).trans ?_)
  exact exists_congr fun k => and_congr_right fun _ => addAmount_eq_abort_iff

/-! ## Terms -/

/-- A unit that is divided is as long as one that is not. -/
theorem TimeUnit.toNanos_of_fine? {u : TimeUnit} (h : u.fine? = some grain) :
    grain.toNanos = u.grain.toNanos := by
  cases u <;> cases h <;> rfl

/-- A number of units comes to an amount of nanoseconds. -/
def ComesTo (n : Nat) (fraction : Option Fraction) (u : TimeUnit) (amount : Nat) : Prop :=
  amount * (fraction.getD .start).denominator =
    (n * (fraction.getD .start).denominator + (fraction.getD .start).numerator) * u.grain.toNanos

theorem comesTo_whole (n : Nat) (u : TimeUnit) : ComesTo n none u (n * u.grain.toNanos) := by
  simp [ComesTo, Fraction.start]

theorem comesTo_part {u : TimeUnit} {part : Nat} (hfine : u.fine? = some grain)
    (h : part * f.denominator = f.numerator * grain.toNanos) :
    ComesTo n (some f) u (n * u.grain.toNanos + part) := by
  rw [TimeUnit.toNanos_of_fine? hfine] at h
  rw [ComesTo, Option.getD_some, Nat.add_mul, h, Nat.add_mul, Nat.mul_right_comm]

/-- A term fills a sum up to the second that it cannot hold, with its whole units or with the part behind
the point. -/
inductive Overfills (sum : Duration) (n : Nat) (fraction : Option Fraction) (u : TimeUnit) : Prop
  | whole (h : (u.grain.recount (n * u.grain.count)).FillsUp sum)
  | part {f : Fraction} {grain : Grain} {mid : Duration} {k : Nat} (hf : fraction = some f)
    (hfine : u.fine? = some grain) (hwhole : addWhole sum n u.grain = .ok mid)
    (hk : f.of grain.count = .ok k) (h : (grain.recount k).FillsUp mid)

variable {fraction : Option Fraction} {name : String}

/-- **A sum with one more term is exact.** -/
theorem toNanos_of_addTerm (h : addTerm sum n fraction name = .ok d) :
    ∃ u amount, TimeUnit.named? name = some u ∧ ComesTo n fraction u amount ∧
      d.toNanos = sum.toNanos + amount := by
  unfold addTerm at h
  split at h
  · exact nomatch h
  next u hu =>
    obtain ⟨mid, hmid, h⟩ := exists_of_bind_eq_ok h
    have hwhole := toNanos_of_addWhole hmid
    refine ⟨u, ?_⟩
    cases fraction with
    | none => exact ⟨_, hu, comesTo_whole n u, by rw [← Except.ok.inj h, hwhole]⟩
    | some f =>
      dsimp only at h
      split at h
      · exact nomatch h
      next grain hfine =>
        obtain ⟨k, hk, hsum⟩ := exists_of_addFraction h
        refine ⟨_, hu, comesTo_part hfine (toNanos_of_fraction hk), ?_⟩
        rw [hsum, hwhole, Nat.add_assoc]

/-- **When adding a term aborts.** -/
theorem addTerm_eq_abort_iff : addTerm sum n fraction name = abort ↔
    ∃ u, TimeUnit.named? name = some u ∧ Overfills sum n fraction u := by
  unfold addTerm
  split
  next hu => simp [hu, refuse_ne_abort]
  next u hu =>
    simp only [hu, Option.some.injEq, exists_eq_left']
    refine bind_eq_error_iff.trans ?_
    constructor
    · rintro (h | ⟨mid, hmid, h⟩)
      · exact .whole (addWhole_eq_abort_iff.mp h)
      · cases fraction with
        | none => exact absurd h ok_ne_abort
        | some f =>
          dsimp only at h
          split at h
          · exact absurd h refuse_ne_abort
          next grain hfine =>
            obtain ⟨k, hk, hfills⟩ := addFraction_eq_abort_iff.mp h
            exact .part rfl hfine hmid hk hfills
    · rintro (h | ⟨rfl, hfine, hwhole, hk, h⟩)
      · exact Or.inl (addWhole_eq_abort_iff.mpr h)
      · refine Or.inr ⟨_, hwhole, ?_⟩
        simp only [hfine]
        exact addFraction_eq_abort_iff.mpr ⟨_, hk, h⟩

/-- A term that overfills a sum comes, with it, to exactly what is too much for a duration: with its whole
units, or with all of it. -/
theorem Overfills.eq_tooManyNanos {u : TimeUnit} (h : Overfills sum n fraction u) :
    ∃ amount, (ComesTo n none u amount ∨ ComesTo n fraction u amount) ∧
      sum.toNanos + amount = tooManyNanos := by
  have hfull : ∀ {grain : Grain} {sum : Duration}, grain.FillsUp sum →
      sum.toNanos + grain.toNanos = tooManyNanos := by
    intro grain sum h
    cases grain with
    | seconds => exact h.elim
    | nanos => exact h.2
  cases h with
  | whole h =>
    refine ⟨n * u.grain.toNanos, Or.inl (comesTo_whole n u), ?_⟩
    rw [← hfull h, Grain.toNanos_recount, u.grain.toNanos_eq, Nat.mul_assoc]
  | part hf hfine hwhole hk h =>
    subst hf
    refine ⟨_, Or.inr (comesTo_part hfine (toNanos_of_fraction hk)), ?_⟩
    rw [← hfull h, toNanos_of_addWhole hwhole, Nat.add_assoc]

end PowerLease.Duration
