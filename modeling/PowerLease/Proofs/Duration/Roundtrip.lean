import Mathlib.Tactic.Linarith
import Mathlib.Tactic.Ring
import PowerLease.Duration.Printer
import PowerLease.Duration.Reader

/-!
# Durations come back from their text

A duration that is written and read again is the same to the nanosecond (`read_render`).

The text is a row of parts with blanks between them. The reader is followed through it part by part: the
digits of a count, the letters of a unit, and the blank or the end behind them, where the part is added to
the sum. What is added is told in nanoseconds (`Part.nanos`), so that it does not matter how the sum is
held; nothing overflows, because the whole sum is the duration that was written.
-/

namespace PowerLease.Duration

/-! ## Amounts -/

/-- An amount in nanoseconds. -/
def Grain.toNanos : Grain → Nat
  | .seconds n => n * 1000000000
  | .nanos n => n

/-- The nanoseconds that are too many for a duration. -/
def tooManyNanos : Nat := (1 <<< 64) * 1000000000

theorem toNanos_lt (d : Duration) : d.toNanos < tooManyNanos := by
  have hseconds := d.seconds_lt
  have hnanos := d.nanos_lt
  simp only [toNanos, tooManyNanos]
  omega

theorem fit_of_lt {n : Nat} (h : n < 1 <<< 64) : fit n = .ok n := if_pos h

theorem exists_ofParts {seconds nanos total : Nat} (htotal : seconds * 1000000000 + nanos = total)
    (hfits : total < tooManyNanos) : ∃ d, ofParts seconds nanos = .ok d ∧ d.toNanos = total := by
  have hseconds : seconds + nanos / 1000000000 < 1 <<< 64 := by
    simp only [tooManyNanos] at hfits
    omega
  rw [ofParts, dif_pos hseconds]
  refine ⟨_, rfl, ?_⟩
  rw [toNanos, Nat.add_mul, Nat.add_assoc, Nat.div_add_mod', htotal]

/-- Adding is exact as long as the sum is a duration. -/
theorem exists_add {sum : Duration} {seconds nanos total : Nat} (hnanos : nanos < 1000000000)
    (htotal : sum.toNanos + seconds * 1000000000 + nanos = total) (hfits : total < tooManyNanos) :
    ∃ d, add sum seconds nanos = .ok d ∧ d.toNanos = total := by
  have hbelow := sum.nanos_lt
  have hseconds : sum.seconds + seconds + (sum.nanos + nanos) / 1000000000 < 1 <<< 64 := by
    simp only [toNanos, tooManyNanos] at htotal hfits
    omega
  have hfirst : fit (sum.nanos + nanos) = .ok (sum.nanos + nanos) := fit_of_lt (by omega)
  rcases Nat.lt_or_ge 1000000000 (sum.nanos + nanos) with hcarry | hnone
  · -- one second is carried
    have hone : (sum.nanos + nanos) / 1000000000 = 1 := by omega
    have hparts : (sum.seconds + (seconds + 1)) * 1000000000 + (sum.nanos + nanos) % 1000000000 =
        total := by
      simp only [toNanos] at htotal
      omega
    obtain ⟨d, hd, hdtotal⟩ := exists_ofParts hparts hfits
    refine ⟨d, ?_, hdtotal⟩
    have hcarried : fit (seconds + 1) = .ok (seconds + 1) := fit_of_lt (by omega)
    have hsum : fit (sum.seconds + (seconds + 1)) = .ok (sum.seconds + (seconds + 1)) :=
      fit_of_lt (by omega)
    simp only [add, bind, Except.bind, hfirst, if_pos hcarry, hone, hcarried, pure, Except.pure,
      hsum, hd]
  · have hparts : (sum.seconds + seconds) * 1000000000 + (sum.nanos + nanos) = total := by
      rw [← htotal, toNanos]
      linarith
    obtain ⟨d, hd, hdtotal⟩ := exists_ofParts hparts hfits
    refine ⟨d, ?_, hdtotal⟩
    have hsum : fit (sum.seconds + seconds) = .ok (sum.seconds + seconds) := fit_of_lt (by omega)
    simp only [add, bind, Except.bind, hfirst, if_neg (Nat.not_lt.mpr hnone), pure, Except.pure,
      hsum, hd]

/-- So is adding some units. -/
theorem exists_addWhole {sum : Duration} {n total : Nat} {grain : Grain}
    (hsmall : ∀ each, grain = .nanos each → n * each < 1000000000)
    (htotal : sum.toNanos + n * grain.toNanos = total) (hfits : total < tooManyNanos) :
    ∃ d, addWhole sum n grain = .ok d ∧ d.toNanos = total := by
  cases grain with
  | seconds each =>
    simp only [Grain.toNanos, ← Nat.mul_assoc] at htotal
    have hle : n * each * 1000000000 ≤ total := htotal ▸ Nat.le_add_left _ _
    have hfit : fit (n * each) = .ok (n * each) :=
      fit_of_lt (Nat.lt_of_mul_lt_mul_right (Nat.lt_of_le_of_lt hle hfits))
    simp only [addWhole, hfit, bind, Except.bind]
    exact exists_add (by decide) (by rw [Nat.add_zero, htotal]) hfits
  | nanos each =>
    simp only [Grain.toNanos] at htotal
    have hbelow := hsmall each rfl
    have hfit : fit (n * each) = .ok (n * each) := fit_of_lt (by omega)
    simp only [addWhole, hfit, bind, Except.bind]
    exact exists_add hbelow (by rw [Nat.zero_mul, Nat.add_zero, htotal]) hfits

/-! ## Parts -/

/-- A label that names a unit, in the singular and in the plural. -/
structure Label.Names (l : Label) (u : TimeUnit) : Prop where
  one : TimeUnit.named? l.name = some u
  many : TimeUnit.named? (l.name ++ l.plural) = some u
  nonempty : l.name.toList ≠ []
  letters : (l.name ++ l.plural).toList.all isUnitLetter = true

/-- The name of a part: its label in the number of its count. -/
def Part.word (p : Part) : String := p.label.name ++ (if p.count > 1 then p.label.plural else "")

/-- What a part amounts to, in nanoseconds. -/
def Part.nanos (p : Part) : Nat :=
  match TimeUnit.named? p.label.name with
  | some u => p.count * u.grain.toNanos
  | none => 0

/-- A part that can be read: its label names a unit, and less than a second is counted in units of
nanoseconds. -/
structure Part.Readable (p : Part) (u : TimeUnit) : Prop where
  label : p.label.Names u
  count : p.count < 1 <<< 64
  small : ∀ each, u.grain = .nanos each → p.count * each < 1000000000

namespace Part

variable {p : Part} {u : TimeUnit}

theorem render_eq (p : Part) : p.render.toList = Nat.toDigits 10 p.count ++ p.word.toList := by
  rw [render, word, String.append_assoc, String.toList_append]
  exact congrArg (· ++ _) Nat.toList_repr

theorem Readable.named (h : p.Readable u) : TimeUnit.named? p.word = some u := by
  unfold word
  split
  · exact h.label.many
  · rw [String.append_empty]
    exact h.label.one

theorem Readable.letters (h : p.Readable u) : ∀ c ∈ p.word.toList, isUnitLetter c = true := by
  intro c hc
  refine List.all_eq_true.mp h.label.letters c ?_
  unfold word at hc
  split at hc
  · exact hc
  · rw [String.append_empty] at hc
    rw [String.toList_append]
    exact List.mem_append_left _ hc

theorem Readable.word_ne_nil (h : p.Readable u) : p.word.toList ≠ [] := by
  rw [word, String.toList_append]
  exact List.append_ne_nil_of_left_ne_nil h.label.nonempty _

/-- A part is added as a term for what it amounts to. -/
theorem Readable.exists_addTerm (h : p.Readable u) {sum : Duration} {total : Nat}
    (htotal : sum.toNanos + p.nanos = total) (hfits : total < tooManyNanos) :
    ∃ d, addTerm sum p.count none p.word = .ok d ∧ d.toNanos = total := by
  rw [nanos, h.label.one] at htotal
  obtain ⟨d, hd, hdtotal⟩ := exists_addWhole h.small htotal hfits
  refine ⟨d, ?_, hdtotal⟩
  rw [addTerm, h.named]
  simp only [hd]
  rfl

end Part

/-! ## Characters -/

theorem digit?_digitChar {n : Nat} (h : n < 10) : digit? n.digitChar = some n := by
  have hall : ∀ n < 10, digit? n.digitChar = some n := by decide
  exact hall n h

theorem not_blank_of_isUnitLetter {c : Char} (h : isUnitLetter c = true) :
    digit? c = none ∧ Text.isBlank c = false := by
  have hcode : 65 ≤ c.toNat ∧ c.toNat ≤ 122 ∨ c.toNat = 181 := by
    simp only [isUnitLetter, Bool.or_eq_true, Bool.and_eq_true, decide_eq_true_eq, beq_iff_eq,
      Char.le_def, UInt32.le_iff_toNat_le] at h
    rcases h with (⟨hlow, hhigh⟩ | ⟨hlow, hhigh⟩) | rfl
    · exact Or.inl ⟨Nat.le_trans (by decide) hlow, hhigh⟩
    · exact Or.inl ⟨hlow, Nat.le_trans hhigh (by decide)⟩
    · exact Or.inr rfl
  constructor
  · refine if_neg ?_
    simp only [Bool.and_eq_true, decide_eq_true_eq, Char.le_def, UInt32.le_iff_toNat_le]
    rintro ⟨-, hhigh⟩
    have hcode' : c.toNat ≤ 57 := hhigh
    omega
  · simp only [Text.isBlank, Bool.or_eq_false_iff, Bool.and_eq_false_iff, beq_eq_false_iff_ne,
      decide_eq_false_iff_not, ne_eq]
    omega

/-! ## Reading one part -/

/-- The digits of a count are read as its whole part. -/
theorem fold_digits {n : Nat} (h : n < 1 <<< 64) (place : Nat) (sum : Duration) (begun : Bool) :
    ∃ place', (Nat.toDigits 10 n).foldlM State.step ⟨place, sum, .gap begun⟩ =
      .ok ⟨place', sum, .whole n⟩ := by
  induction n using Nat.strongRecOn with
  | ind n ih =>
    rw [Nat.toDigits_eq_if (by decide)]
    split
    next hdigit =>
      refine ⟨place + n.digitChar.utf8Size, ?_⟩
      simp only [List.foldlM_cons, List.foldlM_nil, State.step, digit?_digitChar hdigit]
      rfl
    next hmore =>
      obtain ⟨place', hread⟩ := ih (n / 10) (by omega) (by omega)
      have hlast : digit? (n % 10).digitChar = some (n % 10) :=
        digit?_digitChar (Nat.mod_lt n (by decide))
      have hfit : fit (n / 10 * 10 + n % 10) = .ok n := by
        rw [show n / 10 * 10 + n % 10 = n by omega]
        exact fit_of_lt h
      refine ⟨place' + (n % 10).digitChar.utf8Size, ?_⟩
      rw [List.foldlM_append, hread]
      simp only [bind, Except.bind, List.foldlM_cons, List.foldlM_nil, State.step, hlast, hfit,
        pure, Except.pure]

/-- Letters behind a letter belong to the same name. -/
theorem fold_more_letters {letters : List Char} (hletters : ∀ c ∈ letters, isUnitLetter c = true)
    (place : Nat) (sum : Duration) (n : Nat) (f : Option Fraction) (read : List Char) :
    ∃ place', letters.foldlM State.step ⟨place, sum, .unit n f read⟩ =
      .ok ⟨place', sum, .unit n f (letters.reverse ++ read)⟩ := by
  induction letters generalizing place read with
  | nil => exact ⟨place, rfl⟩
  | cons c rest ih =>
    have hletter := hletters c List.mem_cons_self
    obtain ⟨place', hread⟩ :=
      ih (fun d hd => hletters d (List.mem_cons_of_mem c hd)) (place + c.utf8Size) (c :: read)
    refine ⟨place', ?_⟩
    rw [List.foldlM_cons, State.step]
    simp only [(not_blank_of_isUnitLetter hletter).1, hletter, if_true]
    rw [List.reverse_cons, List.append_assoc]
    exact hread

/-- The letters of a name are read as a unit. -/
theorem fold_letters {letters : List Char} (hne : letters ≠ [])
    (hletters : ∀ c ∈ letters, isUnitLetter c = true) (place : Nat) (sum : Duration) (n : Nat) :
    ∃ place', letters.foldlM State.step ⟨place, sum, .whole n⟩ =
      .ok ⟨place', sum, .unit n none letters.reverse⟩ := by
  cases letters with
  | nil => exact absurd rfl hne
  | cons c rest =>
    have hletter := hletters c List.mem_cons_self
    obtain ⟨hdigit, hblank⟩ := not_blank_of_isUnitLetter hletter
    obtain ⟨place', hread⟩ := fold_more_letters (fun d hd => hletters d (List.mem_cons_of_mem c hd))
      (place + c.utf8Size) sum n none [c]
    refine ⟨place', ?_⟩
    rw [List.foldlM_cons, State.step]
    simp only [hdigit, hblank, hletter, if_true, Bool.false_eq_true, if_false]
    rw [List.reverse_cons]
    exact hread

/-- A part is read up to the end of its name. -/
theorem fold_part {p : Part} {u : TimeUnit} (h : p.Readable u) (place : Nat) (sum : Duration)
    (begun : Bool) : ∃ place', p.render.toList.foldlM State.step ⟨place, sum, .gap begun⟩ =
      .ok ⟨place', sum, .unit p.count none p.word.toList.reverse⟩ := by
  obtain ⟨middle, hdigits⟩ := fold_digits h.count place sum begun
  obtain ⟨place', hletters⟩ := fold_letters h.word_ne_nil h.letters middle sum p.count
  refine ⟨place', ?_⟩
  rw [p.render_eq, List.foldlM_append, hdigits]
  exact hletters

/-! ## Reading all parts -/

/-- A blank behind a name ends a part, which is added. -/
theorem step_blank {place n : Nat} {sum d : Duration} {letters : List Char}
    (h : addTerm sum n none (String.ofList letters.reverse) = .ok d) :
    State.step ⟨place, sum, .unit n none letters⟩ ' ' = .ok ⟨place + 1, d, .gap true⟩ := by
  have hdigit : digit? ' ' = none := by decide
  have hletter : isUnitLetter ' ' = false := by decide
  have hblank : Text.isBlank ' ' = true := by decide
  simp only [State.step, hdigit, hletter, hblank, Bool.false_eq_true, if_false, if_true, h]
  rfl

/-- A row of parts with blanks between them is read as the sum of what they amount to. -/
theorem exists_read_parts {ps : List Part} (hne : ps ≠ []) (hread : ∀ p ∈ ps, ∃ u, p.Readable u)
    (place : Nat) {total : Nat} {sum : Duration} (begun : Bool)
    (htotal : sum.toNanos + (ps.map Part.nanos).sum = total) (hfits : total < tooManyNanos) :
    ∃ st d, ([' '].intercalate (ps.map fun p => p.render.toList)).foldlM State.step
      ⟨place, sum, .gap begun⟩ = .ok st ∧ st.finish = .ok d ∧ d.toNanos = total := by
  induction ps generalizing place sum begun with
  | nil => exact absurd rfl hne
  | cons p rest ih =>
    obtain ⟨u, hp⟩ := hread p List.mem_cons_self
    obtain ⟨place', hpart⟩ := fold_part hp place sum begun
    rw [List.map_cons, List.sum_cons] at htotal
    -- what a part is added to is still a duration
    have hle : sum.toNanos + p.nanos ≤ total := by
      rw [← htotal, ← Nat.add_assoc]
      exact Nat.le_add_right _ _
    obtain ⟨d, hd, hdtotal⟩ := hp.exists_addTerm rfl (Nat.lt_of_le_of_lt hle hfits)
    have hword : addTerm sum p.count none (String.ofList p.word.toList.reverse.reverse) = .ok d := by
      rw [List.reverse_reverse, String.ofList_toList]
      exact hd
    cases rest with
    | nil =>
      have hlast : d.toNanos = total := by
        rw [hdtotal, ← htotal]
        rfl
      refine ⟨⟨place', sum, .unit p.count none p.word.toList.reverse⟩, d, ?_, hword, hlast⟩
      rw [List.map_cons, List.map_nil, List.intercalate_singleton]
      exact hpart
    | cons q others =>
      have hrest : d.toNanos + ((q :: others).map Part.nanos).sum = total := by
        rw [hdtotal]
        linarith
      obtain ⟨st, e, hfold, hfinish, hetotal⟩ := ih (List.cons_ne_nil q others)
        (fun r hr => hread r (List.mem_cons_of_mem p hr)) (place' + 1) true hrest
      refine ⟨st, e, ?_, hfinish, hetotal⟩
      rw [List.map_cons, List.map_cons, List.intercalate_cons_cons, List.append_assoc,
        List.foldlM_append, hpart]
      simp only [bind, Except.bind, List.singleton_append, List.foldlM_cons, step_blank hword]
      exact hfold

/-! ## Writing and reading -/

/-- A part of no length amounts to nothing. -/
theorem sum_nanos_filter (ps : List Part) :
    ((ps.filter fun p => p.count != 0).map Part.nanos).sum = (ps.map Part.nanos).sum := by
  induction ps with
  | nil => rfl
  | cons p rest ih =>
    rw [List.filter_cons]
    split
    next => rw [List.map_cons, List.sum_cons, ih, List.map_cons, List.sum_cons]
    next hzero =>
      have hcount : p.count = 0 := by simpa using hzero
      have hnone : p.nanos = 0 := by
        unfold Part.nanos
        split
        · rw [hcount, Nat.zero_mul]
        · rfl
      rw [ih, List.map_cons, List.sum_cons, hnone, Nat.zero_add]

namespace Label

theorem Names.sum_cons {l : Label} {u : TimeUnit} (h : l.Names u) (n : Nat) (ps : List Part) :
    ((⟨n, l⟩ :: ps).map Part.nanos).sum = n * u.grain.toNanos + (ps.map Part.nanos).sum := by
  rw [List.map_cons, List.sum_cons, Part.nanos, h.one]

theorem names_year : year.Names .year := by constructor <;> decide

theorem names_month : month.Names .month := by constructor <;> decide

theorem names_day : day.Names .day := by constructor <;> decide

theorem names_hour : hour.Names .hour := by constructor <;> decide

theorem names_minute : minute.Names .minute := by constructor <;> decide

theorem names_second : second.Names .second := by constructor <;> decide

theorem names_milli : milli.Names .millisecond := by constructor <;> decide

theorem names_micro : micro.Names .microsecond := by constructor <;> decide

theorem names_nano : nano.Names .nanosecond := by constructor <;> decide

end Label

/-- The seconds of a duration, unit by unit. -/
theorem seconds_eq (d : Duration) :
    perYear * (d.seconds / perYear) + (perMonth * (d.seconds % perYear / perMonth) +
      (perDay * (d.seconds % perYear % perMonth / perDay) +
        (perHour * (d.seconds % perYear % perMonth % perDay / perHour) +
          (perMinute * (d.seconds % perYear % perMonth % perDay % perHour / perMinute) +
            d.seconds % perYear % perMonth % perDay % perMinute)))) = d.seconds := by
  have hsecond : d.seconds % perYear % perMonth % perDay % perHour % perMinute =
      d.seconds % perYear % perMonth % perDay % perMinute := Nat.mod_mod_of_dvd _ (by decide)
  rw [← hsecond, Nat.div_add_mod, Nat.div_add_mod, Nat.div_add_mod, Nat.div_add_mod, Nat.div_add_mod]

/-- Its nanoseconds, unit by unit. -/
theorem nanos_eq (d : Duration) :
    1000 * (1000 * (d.nanos / 1000000) + d.nanos / 1000 % 1000) + d.nanos % 1000 = d.nanos := by
  rw [← Nat.div_div_eq_div_mul d.nanos 1000 1000, Nat.div_add_mod, Nat.div_add_mod]

theorem parts_eq (d : Duration) : d.parts =
    [⟨d.seconds / perYear, .year⟩, ⟨d.seconds % perYear / perMonth, .month⟩,
      ⟨d.seconds % perYear % perMonth / perDay, .day⟩,
      ⟨d.seconds % perYear % perMonth % perDay / perHour, .hour⟩,
      ⟨d.seconds % perYear % perMonth % perDay % perHour / perMinute, .minute⟩,
      ⟨d.seconds % perYear % perMonth % perDay % perMinute, .second⟩,
      ⟨d.nanos / 1000000, .milli⟩, ⟨d.nanos / 1000 % 1000, .micro⟩, ⟨d.nanos % 1000, .nano⟩] :=
  rfl

theorem mixed_eq (y mo da h mi s ms us ns : Nat) :
    y * (perYear * 1000000000) + (mo * (perMonth * 1000000000) + (da * (perDay * 1000000000) +
      (h * (perHour * 1000000000) + (mi * (perMinute * 1000000000) + (s * (1 * 1000000000) +
        (ms * 1000000 + (us * 1000 + (ns * 1 + 0)))))))) =
    (perYear * y + (perMonth * mo + (perDay * da + (perHour * h + (perMinute * mi + s))))) *
      1000000000 + (1000 * (1000 * ms + us) + ns) := by
  ring

/-- The parts of a duration amount to it. -/
theorem sum_nanos_parts (d : Duration) : (d.parts.map Part.nanos).sum = d.toNanos := by
  rw [parts_eq, Label.names_year.sum_cons, Label.names_month.sum_cons, Label.names_day.sum_cons,
    Label.names_hour.sum_cons, Label.names_minute.sum_cons, Label.names_second.sum_cons,
    Label.names_milli.sum_cons, Label.names_micro.sum_cons, Label.names_nano.sum_cons]
  exact (mixed_eq ..).trans (by rw [seconds_eq, nanos_eq, toNanos])

theorem readable_parts (d : Duration) : ∀ p ∈ d.parts, ∃ u, p.Readable u := by
  have hseconds := d.seconds_lt
  have hnanos := d.nanos_lt
  simp only [parts_eq, List.forall_mem_cons, perYear, perMonth, perDay, perHour, perMinute]
  refine ⟨⟨_, Label.names_year, ?_, ?_⟩, ⟨_, Label.names_month, ?_, ?_⟩, ⟨_, Label.names_day, ?_, ?_⟩,
    ⟨_, Label.names_hour, ?_, ?_⟩, ⟨_, Label.names_minute, ?_, ?_⟩, ⟨_, Label.names_second, ?_, ?_⟩,
    ⟨_, Label.names_milli, ?_, ?_⟩, ⟨_, Label.names_micro, ?_, ?_⟩, ⟨_, Label.names_nano, ?_, ?_⟩,
    fun _ h => absurd h List.not_mem_nil⟩
  all_goals first
    | (dsimp only; omega)
    | (intro each heach; cases heach <;> (dsimp only; omega))

/-- **A duration comes back from its text as it was.** -/
theorem read_render (d : Duration) : read d.render = .ok d := by
  by_cases hzero : d.isZero = true
  · rw [(isZero_iff d).mp hzero]
    rfl
  have hparts : (d.parts.filter fun p => p.count != 0) ≠ [] := by
    intro hnone
    have hsum := (sum_nanos_filter d.parts).trans (sum_nanos_parts d)
    rw [hnone] at hsum
    exact hzero ((isZero_iff d).mpr (toNanos_injective (hsum.symm.trans rfl)))
  have htotal : zero.toNanos + ((d.parts.filter fun p => p.count != 0).map Part.nanos).sum =
      d.toNanos := by
    rw [sum_nanos_filter, sum_nanos_parts]
    exact Nat.zero_add _
  obtain ⟨st, e, hfold, hfinish, he⟩ := exists_read_parts hparts
    (fun p hp => readable_parts d p (List.mem_filter.mp hp).1) 0 false htotal d.toNanos_lt
  have htext : d.render.toList =
      [' '].intercalate ((d.parts.filter fun p => p.count != 0).map fun p => p.render.toList) := by
    rw [render, if_neg hzero, String.toList_intercalate, List.map_map]
    rfl
  rw [← htext] at hfold
  have hread : (do (← d.render.toList.foldlM State.step State.start).finish) = .ok d := by
    rw [State.start, hfold, ← toNanos_injective he]
    exact hfinish
  -- the one text that is read otherwise has no unit
  by_cases hshort : d.render = "0"
  · rw [hshort] at hread
    exact nomatch hread
  · rw [read, if_neg hshort]
    exact hread

end PowerLease.Duration
