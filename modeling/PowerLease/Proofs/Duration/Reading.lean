import PowerLease.Proofs.Duration.Meaning

/-!
# What is read of a text

The reader is followed both ways. From a text it is known what the reader knows behind each beginning of it
(`Reached`), one step at a time. From a row of terms it is known where the reader gets with it
(`Sums.exists_fold`). Together they say what the reader answers: a duration exactly where the terms add up to
it (`read_eq_ok_iff`), and nothing at all exactly where one of them overfills the sum of those before
(`read_eq_abort_iff`).
-/

namespace PowerLease.Duration

/-! ## What the reader knows -/

section

variable {c : Char} {d : Nat} {l w : List Char}

theorem number_append_digit (h : digit? c = some d) : number (l ++ [c]) = number l * 10 + d := by
  rw [number, numberFrom_append, numberFrom_cons_of_digit h]
  rfl

theorem number_append_none (h : digit? c = none) : number (l ++ [c]) = number l := by
  rw [number, numberFrom_append, numberFrom_cons_of_none h]
  rfl

theorem digitCount_append_digit (h : digit? c = some d) : digitCount (l ++ [c]) = digitCount l + 1 := by
  rw [digitCount_append, digitCount_cons_of_digit h]
  rfl

theorem digitCount_append_none (h : digit? c = none) : digitCount (l ++ [c]) = digitCount l := by
  rw [digitCount_append, digitCount_cons_of_none h]
  rfl

theorem spaced_digit (h : digit? c = some d) : Spaced [c] :=
  List.forall_mem_singleton.mpr (Or.inl (h ▸ rfl))

theorem spaced_blank (h : Text.isBlank c = true) : Spaced [c] :=
  List.forall_mem_singleton.mpr (Or.inr h)

theorem Spaced.append (h : Spaced l) (hc : Spaced [c]) : Spaced (l ++ [c]) :=
  List.forall_mem_append.mpr ⟨h, hc⟩

theorem Whole.append (h : Whole w) (hc : Spaced [c]) : Whole (w ++ [c]) := by
  obtain ⟨first, rest, rfl, hfirst⟩ := h.begins
  exact ⟨h.spaced.append hc, first, rest ++ [c], rfl, hfirst⟩

theorem whole_digit (h : digit? c = some d) : Whole [c] :=
  ⟨spaced_digit h, c, [], rfl, h ▸ rfl⟩

end

/-- Whether the reader stands between terms. -/
def Phase.isGap : Phase → Bool
  | .gap _ => true
  | .whole _ | .fraction _ _ _ | .unit _ _ _ => false

/-- The characters of a term that the reader is in. -/
inductive Begun : List Char → Phase → Prop
  | gap (some : Bool) : Begun [] (.gap some)
  | whole {w : List Char} {n : Nat} (hw : Whole w) (hn : number w = n) (hfits : n < 1 <<< 64) :
    Begun w (.whole n)
  | behind {w l : List Char} {n : Nat} {f : Fraction} (mark : Nat) (hw : Whole w) (hn : number w = n)
    (hfits : n < 1 <<< 64) (hl : Spaced l) (hf : f = ⟨number l, 10 ^ digitCount l⟩)
    (hbehind : f.denominator < 1 <<< 64) : Begun (w ++ '.' :: l) (.fraction n f mark)
  | name {letters : List Char} (t : Term) (hfits : t.Fits) (hletters : t.name = letters.reverse) :
    Begun t.chars (.unit t.count t.fraction? letters)

/-- What is known of a text that has brought the reader into a state: the terms behind it, and the characters
of the one that it is in. -/
structure Reached (text : List Char) (st : State) : Prop where
  split : ∃ before chars, text = before ++ chars ∧ Sums before st.sum ∧ Begun chars st.phase
  blank : ∀ some, st.phase = .gap some → (some = false ↔ Blank text)

theorem begun_digit {c : Char} {d : Nat} (h : digit? c = some d) : Begun [c] (.whole d) := by
  refine .whole (whole_digit h) ?_ (Nat.lt_trans (lt_of_digit? h) (by decide))
  rw [number, numberFrom_cons_of_digit h]
  exact Nat.zero_add d

theorem push_eq_ok {f f' : Fraction} {d : Nat} (h : f.push d = .ok f') :
    f.denominator * 10 < 1 <<< 64 ∧ f' = ⟨f.numerator * 10 + d, f.denominator * 10⟩ := by
  obtain ⟨hdenominator, h⟩ := (bind_fit_eq_iff (ok_ne_overflow f')).mp h
  obtain ⟨-, h⟩ := (bind_fit_eq_iff (ok_ne_overflow f')).mp h
  exact ⟨hdenominator, (Except.ok.inj h).symm⟩

namespace Reached

variable {text : List Char} {c : Char} {place : Nat} {sum : Duration} {st' : State}

theorem start : Reached [] .start where
  split := ⟨[], [], rfl, .blank blank_nil, .gap false⟩
  blank := by
    rintro some hgap
    rw [← Phase.gap.inj hgap]
    exact iff_of_true rfl blank_nil

/-- In a term, it does not matter whether there was one before. -/
theorem of_begun {before chars : List Char} {phase : Phase} (h : Sums before sum) (hb : Begun chars phase)
    (hphase : phase.isGap = false) : Reached (before ++ chars) ⟨place, sum, phase⟩ where
  split := ⟨before, chars, rfl, h, hb⟩
  blank := by
    rintro some rfl
    exact Bool.noConfusion hphase

theorem step_gap {some : Bool} (h : Reached text ⟨place, sum, .gap some⟩)
    (hstep : State.step ⟨place, sum, .gap some⟩ c = .ok st') : Reached (text ++ [c]) st' := by
  obtain ⟨before, chars, rfl, hsums, hbegun⟩ := h.split
  cases hbegun
  rw [List.append_nil] at h ⊢
  simp only [State.step] at hstep
  split at hstep
  next d hd =>
    rw [← Except.ok.inj hstep]
    exact of_begun hsums (begun_digit hd) rfl
  next hd =>
    split at hstep
    next hblank =>
      rw [← Except.ok.inj hstep]
      have hc : Blank [c] := List.forall_mem_singleton.mpr hblank
      refine ⟨⟨before ++ [c], [], (List.append_nil _).symm, hsums.append_blank hc, .gap some⟩, ?_⟩
      rintro some hgap
      rw [h.blank some hgap, Blank, Blank, List.forall_mem_append]
      exact (and_iff_left hc).symm
    next => exact absurd hstep refuse_ne_ok

theorem step_whole {n : Nat} (h : Reached text ⟨place, sum, .whole n⟩)
    (hstep : State.step ⟨place, sum, .whole n⟩ c = .ok st') : Reached (text ++ [c]) st' := by
  obtain ⟨before, w, rfl, hsums, hbegun⟩ := h.split
  cases hbegun with
  | whole hw hn hfits =>
  subst hn
  rw [List.append_assoc]
  simp only [State.step] at hstep
  split at hstep
  next d hd =>
    obtain ⟨hfits', hstep⟩ := (bind_fit_eq_iff (ok_ne_overflow st')).mp hstep
    rw [← Except.ok.inj hstep]
    exact of_begun hsums (.whole (hw.append (spaced_digit hd)) (number_append_digit hd) hfits') rfl
  next hd =>
    split at hstep
    next hblank =>
      rw [← Except.ok.inj hstep]
      exact of_begun hsums (.whole (hw.append (spaced_blank hblank)) (number_append_none hd) hfits) rfl
    next =>
      split at hstep
      next hletter =>
        rw [← Except.ok.inj hstep]
        let t : Term := ⟨w, none, [c], hw, by simp, List.cons_ne_nil c [], List.forall_mem_singleton.mpr hletter⟩
        have hbegun : Begun t.chars (.unit t.count t.fraction? [c]) := .name t ⟨hfits, by simp [t]⟩ rfl
        rw [show w ++ [c] = t.chars by simp [t, Term.chars]]
        exact of_begun hsums hbegun rfl
      next =>
        split at hstep
        next hpoint =>
          rw [← Except.ok.inj hstep, hpoint]
          exact of_begun hsums (.behind place hw rfl hfits (List.forall_mem_nil _) rfl (by decide)) rfl
        next => exact absurd hstep refuse_ne_ok

theorem step_behind {n mark : Nat} {f : Fraction} (h : Reached text ⟨place, sum, .fraction n f mark⟩)
    (hstep : State.step ⟨place, sum, .fraction n f mark⟩ c = .ok st') : Reached (text ++ [c]) st' := by
  obtain ⟨before, chars, rfl, hsums, hbegun⟩ := h.split
  cases hbegun with
  | @behind w l _ _ _ hw hn hfits hl hf hbehind =>
  subst hn hf
  rw [List.append_assoc, List.append_assoc, List.cons_append]
  simp only [State.step] at hstep
  split at hstep
  next d hd =>
    obtain ⟨f, hf, hstep⟩ := exists_of_bind_eq_ok hstep
    obtain ⟨hfits', rfl⟩ := push_eq_ok hf
    rw [← Except.ok.inj hstep]
    refine of_begun hsums (.behind _ hw rfl hfits (hl.append (spaced_digit hd)) ?_ hfits') rfl
    rw [number_append_digit hd, digitCount_append_digit hd, Nat.pow_succ]
  next hd =>
    split at hstep
    next hblank =>
      rw [← Except.ok.inj hstep]
      refine of_begun hsums (.behind _ hw rfl hfits (hl.append (spaced_blank hblank)) ?_ hbehind) rfl
      rw [number_append_none hd, digitCount_append_none hd]
    next =>
      split at hstep
      next hletter =>
        rw [Bool.and_eq_true, bne_iff_ne] at hletter
        rw [← Except.ok.inj hstep]
        have hdigits : digitCount l ≠ 0 := fun hnone => hletter.2 (by rw [hnone, Nat.pow_zero])
        let t : Term := ⟨w, l, [c], hw, fun l' hl' => Option.some.inj hl' ▸ ⟨hl, hdigits⟩, List.cons_ne_nil c [],
          List.forall_mem_singleton.mpr hletter.1⟩
        have hbegun : Begun t.chars (.unit t.count t.fraction? [c]) :=
          .name t ⟨hfits, fun l' hl' => Option.some.inj hl' ▸ hbehind⟩ rfl
        rw [show w ++ '.' :: (l ++ [c]) = t.chars by simp [t, Term.chars]]
        exact of_begun hsums hbegun rfl
      next => exact absurd hstep refuse_ne_ok

theorem step_name {n : Nat} {f : Option Fraction} {letters : List Char}
    (h : Reached text ⟨place, sum, .unit n f letters⟩)
    (hstep : State.step ⟨place, sum, .unit n f letters⟩ c = .ok st') : Reached (text ++ [c]) st' := by
  obtain ⟨before, chars, rfl, hsums, hbegun⟩ := h.split
  cases hbegun with
  | name t hfits hletters =>
  simp only [State.step, ← hletters] at hstep
  split at hstep
  next d hd =>
    obtain ⟨total, hadd, hstep⟩ := exists_of_bind_eq_ok hstep
    rw [← Except.ok.inj hstep]
    have hend : Sums (before ++ t.chars ++ []) total := .term hsums t hfits hadd blank_nil
    rw [List.append_nil] at hend
    exact of_begun hend (begun_digit hd) rfl
  next hd =>
    split at hstep
    next hletter =>
      rw [← Except.ok.inj hstep]
      let t' : Term := ⟨t.whole, t.behind, t.name ++ [c], t.isWhole, t.isBehind, by simp,
        List.forall_mem_append.mpr ⟨t.letters, List.forall_mem_singleton.mpr hletter⟩⟩
      have hbegun : Begun t'.chars (.unit t.count t.fraction? (c :: letters)) :=
        .name t' ⟨hfits.count, hfits.behind⟩ (by simp [t', hletters])
      rw [List.append_assoc, show t.chars ++ [c] = t'.chars by simp [t', Term.chars]]
      exact of_begun hsums hbegun rfl
    next =>
      split at hstep
      next hblank =>
        obtain ⟨total, hadd, hstep⟩ := exists_of_bind_eq_ok hstep
        rw [← Except.ok.inj hstep]
        have hend : Sums (before ++ t.chars ++ [c]) total :=
          .term hsums t hfits hadd (List.forall_mem_singleton.mpr hblank)
        refine ⟨⟨_, [], (List.append_nil _).symm, hend, .gap true⟩, ?_⟩
        rintro some hgap
        rw [← Phase.gap.inj hgap]
        exact iff_of_false Bool.noConfusion fun hall => t.not_blank fun b hb => hall b (by simp [hb])
      next => exact absurd hstep refuse_ne_ok

/-- What is known of a text is known of one character more. -/
theorem step {st : State} (h : Reached text st) (hstep : st.step c = .ok st') : Reached (text ++ [c]) st' := by
  obtain ⟨place, sum, phase⟩ := st
  cases phase with
  | gap => exact h.step_gap hstep
  | whole => exact h.step_whole hstep
  | fraction => exact h.step_behind hstep
  | unit => exact h.step_name hstep

end Reached

theorem reached_of_foldlM {text : List Char} {st : State} (h : text.foldlM State.step .start = .ok st) :
    Reached text st :=
  foldlM_induct_done [] (fun _ _ _ _ => Reached.step) .start h

/-! ## Where a row of terms leads the reader -/

/-- The sum of the terms that a text ends with, if it can end where the reader stands. -/
def State.Gives (st : State) (sum : Duration) : Prop :=
  match st.phase with
  | .gap _ => st.sum = sum
  | .unit n f letters => addTerm st.sum n f (String.ofList letters.reverse) = .ok sum
  | .whole _ | .fraction _ _ _ => False

section

variable {c : Char} {st : State} {sum : Duration} {n place : Nat} {l : List Char}

/-- A digit begins the next term. -/
theorem State.Gives.step_digit (h : st.Gives sum) {d : Nat} (hd : digit? c = some d) :
    ∃ place, st.step c = .ok ⟨place, sum, .whole d⟩ := by
  obtain ⟨place, total, phase⟩ := st
  cases phase with
  | gap => exact ⟨_, by simp only [State.step, hd, ← show total = sum from h]; rfl⟩
  | unit n f letters =>
    have hadd : addTerm total n f (String.ofList letters.reverse) = .ok sum := h
    exact ⟨_, by simp only [State.step, hd, hadd]; rfl⟩
  | whole | fraction => exact h.elim

/-- A blank ends a term, or stands between terms. -/
theorem State.Gives.step_blank (h : st.Gives sum) (hblank : Text.isBlank c = true) :
    ∃ st', st.step c = .ok st' ∧ st'.Gives sum := by
  obtain ⟨hdigit, hletter⟩ := of_isBlank hblank
  obtain ⟨place, total, phase⟩ := st
  cases phase with
  | gap some =>
    refine ⟨⟨place + c.utf8Size, total, .gap some⟩, ?_, h⟩
    simp only [State.step, hdigit, hblank, if_true]
    rfl
  | unit n f letters =>
    have hadd : addTerm total n f (String.ofList letters.reverse) = .ok sum := h
    refine ⟨⟨place + c.utf8Size, sum, .gap true⟩, ?_, rfl⟩
    simp only [State.step, hdigit, hletter, hblank, Bool.false_eq_true, if_false, if_true, hadd]
    rfl
  | whole | fraction => exact h.elim

theorem fold_blank (h : st.Gives sum) (hblank : Blank l) :
    ∃ st', l.foldlM State.step st = .ok st' ∧ st'.Gives sum := by
  induction l generalizing st with
  | nil => exact ⟨st, rfl, h⟩
  | cons c rest ih =>
    obtain ⟨hc, hrest⟩ := List.forall_mem_cons.mp hblank
    obtain ⟨next, hnext, hgives⟩ := h.step_blank hc
    obtain ⟨st', hst', hgives⟩ := ih hgives hrest
    exact ⟨st', by rw [List.foldlM_cons, hnext]; exact hst', hgives⟩

/-- More digits, with blanks among them, are read into the whole part of a number. -/
theorem fold_whole (hl : Spaced l) (hfits : numberFrom n l < 1 <<< 64) (place : Nat) (sum : Duration) :
    ∃ place', l.foldlM State.step ⟨place, sum, .whole n⟩ = .ok ⟨place', sum, .whole (numberFrom n l)⟩ := by
  induction l generalizing n place with
  | nil => exact ⟨place, rfl⟩
  | cons c rest ih =>
    obtain ⟨hc, hrest⟩ := List.forall_mem_cons.mp hl
    cases hd : digit? c with
    | some d =>
      rw [numberFrom_cons_of_digit hd] at hfits ⊢
      obtain ⟨place', hread⟩ := ih hrest hfits (place + c.utf8Size)
      have hfit : fit (n * 10 + d) = .ok (n * 10 + d) :=
        fit_of_lt (Nat.lt_of_le_of_lt le_numberFrom hfits)
      refine ⟨place', ?_⟩
      rw [List.foldlM_cons, State.step]
      simp only [hd, hfit]
      exact hread
    | none =>
      have hblank : Text.isBlank c = true := hc.resolve_left (by simp [hd])
      rw [numberFrom_cons_of_none hd] at hfits ⊢
      obtain ⟨place', hread⟩ := ih hrest hfits (place + c.utf8Size)
      refine ⟨place', ?_⟩
      rw [List.foldlM_cons, State.step]
      simp only [hd, hblank, if_true]
      exact hread

/-- The same digits are read into a fraction. Below one, its numerator fits where its denominator does. -/
theorem fold_behind {f : Fraction} (hl : Spaced l) (hbelow : f.numerator < f.denominator)
    (hfits : f.denominator * 10 ^ digitCount l < 1 <<< 64) (place : Nat) (sum : Duration) (mark : Nat) :
    ∃ place' mark', l.foldlM State.step ⟨place, sum, .fraction n f mark⟩ =
      .ok ⟨place', sum, .fraction n ⟨numberFrom f.numerator l, f.denominator * 10 ^ digitCount l⟩ mark'⟩ := by
  induction l generalizing f place mark with
  | nil => exact ⟨place, mark, by simp [numberFrom, digitCount]; rfl⟩
  | cons c rest ih =>
    obtain ⟨hc, hrest⟩ := List.forall_mem_cons.mp hl
    cases hd : digit? c with
    | some d =>
      have hdigit := lt_of_digit? hd
      have hpow : f.denominator * 10 ^ digitCount (c :: rest) = f.denominator * 10 * 10 ^ digitCount rest := by
        rw [digitCount_cons_of_digit hd, Nat.pow_succ, Nat.mul_comm (10 ^ _), Nat.mul_assoc]
      rw [hpow] at hfits ⊢
      rw [numberFrom_cons_of_digit hd]
      have hdenominator : f.denominator * 10 < 1 <<< 64 :=
        Nat.lt_of_le_of_lt (Nat.le_mul_of_pos_right _ (Nat.pow_pos (by decide))) hfits
      have hpush : f.push d = .ok ⟨f.numerator * 10 + d, f.denominator * 10⟩ := by
        have hnumerator : f.numerator * 10 + d < 1 <<< 64 := by omega
        simp only [Fraction.push, fit_of_lt hdenominator, fit_of_lt hnumerator]
        rfl
      obtain ⟨place', mark', hread⟩ := @ih ⟨f.numerator * 10 + d, f.denominator * 10⟩ hrest
        (by dsimp only; omega) hfits (place + c.utf8Size) (place + c.utf8Size)
      refine ⟨place', mark', ?_⟩
      rw [List.foldlM_cons, State.step]
      simp only [hd, hpush]
      exact hread
    | none =>
      have hblank : Text.isBlank c = true := hc.resolve_left (by simp [hd])
      rw [digitCount_cons_of_none hd] at hfits ⊢
      rw [numberFrom_cons_of_none hd]
      obtain ⟨place', mark', hread⟩ := ih hrest hbelow hfits (place + c.utf8Size) (place + c.utf8Size)
      refine ⟨place', mark', ?_⟩
      rw [List.foldlM_cons, State.step]
      simp only [hd, hblank, if_true]
      exact hread

/-- A unit's name can follow a fraction that has a digit. -/
theorem fold_name {f : Fraction} (hne : l ≠ []) (hletters : ∀ c ∈ l, isUnitLetter c = true)
    (hdigits : f.denominator ≠ 1) (place : Nat) (sum : Duration) (mark : Nat) :
    ∃ place', l.foldlM State.step ⟨place, sum, .fraction n f mark⟩ =
      .ok ⟨place', sum, .unit n (some f) l.reverse⟩ := by
  cases l with
  | nil => exact absurd rfl hne
  | cons c rest =>
    obtain ⟨hletter, hrest⟩ := List.forall_mem_cons.mp hletters
    obtain ⟨hdigit, hblank⟩ := not_blank_of_isUnitLetter hletter
    obtain ⟨place', hread⟩ := fold_more_letters hrest (place + c.utf8Size) sum n (some f) [c]
    refine ⟨place', ?_⟩
    rw [List.foldlM_cons, State.step]
    simp only [hdigit, hblank, hletter, bne_iff_ne.mpr hdigits, Bool.and_self, if_true, Bool.false_eq_true,
      if_false]
    rw [List.reverse_cons]
    exact hread

/-- What is behind the whole part of a term is read up to the end of its name. -/
theorem Term.fold_rest (t : Term) (hfits : t.Fits) (place : Nat) (sum : Duration) :
    ∃ place', ((t.behind.elim [] fun l => '.' :: l) ++ t.name).foldlM State.step ⟨place, sum, .whole t.count⟩ =
      .ok ⟨place', sum, .unit t.count t.fraction? t.name.reverse⟩ := by
  cases hb : t.behind with
  | none =>
    rw [fraction?, hb]
    exact fold_letters t.name_ne_nil t.letters place sum t.count
  | some l =>
    obtain ⟨hl, hdigits⟩ := t.isBehind l hb
    have hden : 1 * 10 ^ digitCount l < 1 <<< 64 := (Nat.one_mul _).symm ▸ hfits.behind l hb
    obtain ⟨q, mark, hbehind⟩ := fold_behind hl (f := .start) (by decide) hden (place + 1) sum place
    have hne : (⟨number l, 1 * 10 ^ digitCount l⟩ : Fraction).denominator ≠ 1 := by
      rw [Nat.one_mul]
      exact Nat.ne_of_gt (Nat.one_lt_pow hdigits (by decide))
    obtain ⟨place', hname⟩ := fold_name t.name_ne_nil t.letters hne q sum mark
    rw [Nat.one_mul] at hname
    refine ⟨place', ?_⟩
    have hpoint : State.step ⟨place, sum, .whole t.count⟩ '.' =
        .ok ⟨place + 1, sum, .fraction t.count .start place⟩ := rfl
    have hdigits : (('.' :: l).foldlM State.step ⟨place, sum, .whole t.count⟩) =
        .ok ⟨q, sum, .fraction t.count ⟨number l, 10 ^ digitCount l⟩ mark⟩ := by
      rw [List.foldlM_cons, hpoint, ← Nat.one_mul (10 ^ digitCount l)]
      exact hbehind
    rw [fraction?, hb, Option.elim_some, foldlM_append_of_ok hdigits]
    exact hname

/-- A term is read up to the end of its name. -/
theorem Term.exists_fold (t : Term) (hfits : t.Fits) (h : st.Gives sum) :
    ∃ place, t.chars.foldlM State.step st = .ok ⟨place, sum, .unit t.count t.fraction? t.name.reverse⟩ := by
  obtain ⟨first, rest, hwhole, hfirst⟩ := t.isWhole.begins
  obtain ⟨d, hd⟩ := Option.isSome_iff_exists.mp hfirst
  have hcount : t.count = numberFrom d rest := by
    rw [Term.count, number, hwhole, numberFrom_cons_of_digit hd, Nat.zero_mul, Nat.zero_add]
  have hspaced : Spaced rest := (List.forall_mem_cons.mp (hwhole ▸ t.isWhole.spaced)).2
  obtain ⟨p, hbegin⟩ := h.step_digit hd
  obtain ⟨q, hrest⟩ := fold_whole hspaced (hcount ▸ hfits.count) p sum
  rw [← hcount] at hrest
  obtain ⟨place, hend⟩ := t.fold_rest hfits q sum
  refine ⟨place, ?_⟩
  rw [Term.chars, hwhole, List.append_assoc, List.cons_append, List.foldlM_cons, hbegin]
  exact (foldlM_append_of_ok hrest).trans hend

/-- A row of terms leads the reader to their sum. -/
theorem Sums.exists_fold (h : Sums l sum) : ∃ st, l.foldlM State.step .start = .ok st ∧ st.Gives sum := by
  induction h with
  | blank hblank => exact fold_blank rfl hblank
  | @term front blanks total d _ t hfits hadd hblanks ih =>
    obtain ⟨st, hfront, hgives⟩ := ih
    obtain ⟨place, hterm⟩ := t.exists_fold hfits hgives
    have hend : State.Gives ⟨place, total, .unit t.count t.fraction? t.name.reverse⟩ d := by
      show addTerm total t.count t.fraction? (String.ofList t.name.reverse.reverse) = .ok d
      rw [List.reverse_reverse]
      exact hadd
    obtain ⟨st', hst', hgives'⟩ := fold_blank hend hblanks
    refine ⟨st', ?_, hgives'⟩
    rw [List.append_assoc, foldlM_append_of_ok hfront, foldlM_append_of_ok hterm]
    exact hst'

end

/-! ## What the reader answers -/

section

variable {text : List Char} {st : State} {sum d : Duration}

/-- A number without a unit is refused. -/
theorem addTerm_nameless (sum : Duration) (n : Nat) (f : Option Fraction) :
    addTerm sum n f "" = refuse (.unknownUnit "" n) := rfl

/-- Where a text can end, its terms are the answer, unless there are none. -/
theorem State.Gives.finish (h : st.Gives sum) (hsome : st.phase ≠ .gap false) : st.finish = .ok sum := by
  obtain ⟨place, total, phase⟩ := st
  cases phase with
  | gap some =>
    cases some with
    | false => exact absurd rfl hsome
    | true => exact congrArg Except.ok h
  | unit => exact h
  | whole | fraction => exact h.elim

theorem Reached.sums_of_finish (h : Reached text st) (hfinish : st.finish = .ok d) :
    Sums text d ∧ ¬Blank text := by
  obtain ⟨before, chars, rfl, hsums, hbegun⟩ := h.split
  obtain ⟨place, total, phase⟩ := st
  cases hbegun with
  | gap some =>
    cases some with
    | false => exact absurd hfinish refuse_ne_ok
    | true =>
      rw [List.append_nil] at h ⊢
      refine ⟨Except.ok.inj hfinish ▸ hsums, fun hblank => ?_⟩
      exact Bool.noConfusion ((h.blank true rfl).mpr hblank)
  | whole => exact absurd hfinish refuse_ne_ok
  | behind =>
    simp only [State.finish, addTerm_nameless] at hfinish
    split at hfinish <;> exact absurd hfinish refuse_ne_ok
  | name t hfits hletters =>
    have hadd : t.add total = .ok d := by
      rw [Term.add, hletters]
      exact hfinish
    refine ⟨?_, fun hall => t.not_blank fun c hc => hall c (List.mem_append_right _ hc)⟩
    have hend : Sums (before ++ t.chars ++ []) d := .term hsums t hfits hadd blank_nil
    rwa [List.append_nil] at hend

theorem push_ne_abort {f : Fraction} {n : Nat} : f.push n ≠ abort := by
  intro h
  obtain ⟨-, h⟩ := (bind_fit_eq_iff abort_ne_overflow).mp h
  exact absurd ((bind_fit_eq_iff abort_ne_overflow).mp h).2 ok_ne_abort

/-- A step aborts only where it adds a term. -/
theorem State.of_step_eq_abort {c : Char} (h : st.step c = abort) : ∃ n f letters,
    st.phase = .unit n f letters ∧ addTerm st.sum n f (String.ofList letters.reverse) = abort ∧
      ((digit? c).isSome = true ∨ Text.isBlank c = true) := by
  obtain ⟨place, total, phase⟩ := st
  cases phase with
  | gap =>
    simp only [State.step] at h
    split at h
    · exact absurd h ok_ne_abort
    · split_ifs at h
      · exact absurd h ok_ne_abort
      · exact absurd h refuse_ne_abort
  | whole =>
    simp only [State.step] at h
    split at h
    · exact absurd ((bind_fit_eq_iff abort_ne_overflow).mp h).2 ok_ne_abort
    · split_ifs at h
      · exact absurd h ok_ne_abort
      · exact absurd h ok_ne_abort
      · exact absurd h ok_ne_abort
      · exact absurd h refuse_ne_abort
  | fraction =>
    simp only [State.step] at h
    split at h
    · rcases bind_eq_error_iff.mp h with hpush | ⟨_, -, hnext⟩
      · exact absurd hpush push_ne_abort
      · exact absurd hnext ok_ne_abort
    · split_ifs at h
      · exact absurd h ok_ne_abort
      · exact absurd h ok_ne_abort
      · exact absurd h refuse_ne_abort
  | unit n f letters =>
    simp only [State.step] at h
    split at h
    next d hd =>
      rcases bind_eq_error_iff.mp h with hadd | ⟨_, -, hnext⟩
      · exact ⟨n, f, letters, rfl, hadd, Or.inl (hd ▸ rfl)⟩
      · exact absurd hnext ok_ne_abort
    next =>
      split_ifs at h with hletter hblank
      · exact absurd h ok_ne_abort
      · rcases bind_eq_error_iff.mp h with hadd | ⟨_, -, hnext⟩
        · exact ⟨n, f, letters, rfl, hadd, Or.inr hblank⟩
        · exact absurd hnext ok_ne_abort
      · exact absurd h refuse_ne_abort

/-- Where a name ends, its term is added. -/
theorem step_eq_abort {c : Char} {place n : Nat} {f : Option Fraction} {letters : List Char}
    (h : addTerm sum n f (String.ofList letters.reverse) = abort)
    (hc : (digit? c).isSome = true ∨ Text.isBlank c = true) :
    State.step ⟨place, sum, .unit n f letters⟩ c = abort := by
  rcases hc with hc | hblank
  · obtain ⟨d, hd⟩ := Option.isSome_iff_exists.mp hc
    simp only [State.step, hd, h]
    rfl
  · obtain ⟨hdigit, hletter⟩ := of_isBlank hblank
    simp only [State.step, hdigit, hletter, hblank, Bool.false_eq_true, if_false, if_true, h]
    rfl

theorem State.of_finish_eq_abort (h : st.finish = abort) : ∃ n f letters,
    st.phase = .unit n f letters ∧ addTerm st.sum n f (String.ofList letters.reverse) = abort := by
  obtain ⟨place, total, phase⟩ := st
  cases phase with
  | gap some =>
    cases some with
    | false => exact absurd h refuse_ne_abort
    | true => exact absurd h ok_ne_abort
  | whole => exact absurd h refuse_ne_abort
  | fraction =>
    simp only [State.finish, addTerm_nameless] at h
    split_ifs at h
    · exact absurd h refuse_ne_abort
    · exact absurd h refuse_ne_abort
  | unit n f letters => exact ⟨n, f, letters, rfl, h⟩

/-- A text that leads to a term that cannot be added is overfull. -/
theorem Reached.overfull (h : Reached text st) {n : Nat} {f : Option Fraction} {letters back : List Char}
    (hphase : st.phase = .unit n f letters)
    (hadd : addTerm st.sum n f (String.ofList letters.reverse) = abort)
    (hback : ∀ c ∈ back.head?, (digit? c).isSome = true ∨ Text.isBlank c = true) : Overfull (text ++ back) := by
  obtain ⟨before, chars, rfl, hsums, hbegun⟩ := h.split
  rw [hphase] at hbegun
  cases hbegun with
  | name t hfits hletters =>
    rw [← hletters] at hadd
    obtain ⟨u, hu, hover⟩ := addTerm_eq_abort_iff.mp hadd
    exact .term hsums t hfits hu hover hback

theorem Overfull.contains_letter (h : Overfull text) : ∃ c ∈ text, isUnitLetter c = true := by
  obtain ⟨-, t, -, -, -, -⟩ := h
  obtain ⟨c, hc⟩ := List.exists_mem_of_ne_nil t.name t.name_ne_nil
  exact ⟨c, by simp [Term.chars, hc], t.letters c hc⟩

end

/-- **What the reader reads.** It answers with a duration exactly where the text is a row of terms that add up
to it, or the text that stands for no time at all. -/
theorem read_eq_ok_iff {text : String} {d : Duration} : read text = .ok d ↔
    text = "0" ∧ d = zero ∨ Sums text.toList d ∧ ¬Blank text.toList := by
  by_cases hzero : text = "0"
  · subst hzero
    constructor
    · exact fun h => Or.inl ⟨rfl, (Except.ok.inj h).symm⟩
    · rintro (⟨-, rfl⟩ | ⟨hsums, -⟩)
      · rfl
      · -- behind a number without unit, no text can end
        obtain ⟨st, hfold, hgives⟩ := hsums.exists_fold
        rw [← Except.ok.inj hfold] at hgives
        exact hgives.elim
  · rw [read, if_neg hzero]
    constructor
    · intro h
      obtain ⟨st, hfold, hfinish⟩ := exists_of_bind_eq_ok h
      exact Or.inr ((reached_of_foldlM hfold).sums_of_finish hfinish)
    · rintro (⟨hno, -⟩ | ⟨hsums, hsome⟩)
      · exact absurd hno hzero
      · obtain ⟨st, hfold, hgives⟩ := hsums.exists_fold
        rw [hfold]
        exact hgives.finish fun hgap => hsome (((reached_of_foldlM hfold).blank false hgap).mp rfl)

/-- **When the reader gives no answer.** It aborts exactly where a term overfills the sum of the terms before
it. -/
theorem read_eq_abort_iff {text : String} : read text = abort ↔ Overfull text.toList := by
  by_cases hzero : text = "0"
  · subst hzero
    refine iff_of_false ok_ne_abort fun h => ?_
    obtain ⟨c, hc, hletter⟩ := h.contains_letter
    rw [List.mem_singleton.mp hc] at hletter
    exact absurd hletter (by decide)
  · rw [read, if_neg hzero]
    constructor
    · intro h
      rcases bind_eq_error_iff.mp h with h | ⟨st, hfold, hfinish⟩
      · obtain ⟨front, c, back, st, hsplit, hreached, hstep⟩ :=
          exists_of_foldlM_eq_error (P := Reached) [] (fun _ _ _ _ => Reached.step) .start h
        obtain ⟨n, f, letters, hphase, hadd, hc⟩ := State.of_step_eq_abort hstep
        rw [hsplit]
        refine hreached.overfull hphase hadd fun b hb => ?_
        rwa [← Option.some.inj hb]
      · obtain ⟨n, f, letters, hphase, hadd⟩ := State.of_finish_eq_abort hfinish
        rw [← List.append_nil text.toList]
        exact (reached_of_foldlM hfold).overfull hphase hadd (by simp)
    · generalize text.toList = l
      intro h
      cases h with
      | @term front back sum u hsums t hfits hu hover hback =>
      obtain ⟨st, hfront, hgives⟩ := hsums.exists_fold
      obtain ⟨place, hterm⟩ := t.exists_fold hfits hgives
      have hadd : addTerm sum t.count t.fraction? (String.ofList t.name.reverse.reverse) = abort := by
        rw [List.reverse_reverse]
        exact addTerm_eq_abort_iff.mpr ⟨_, hu, hover⟩
      rw [List.append_assoc, foldlM_append_of_ok hfront, foldlM_append_of_ok hterm]
      cases back with
      | nil => exact hadd
      | cons c rest =>
        rw [List.foldlM_cons, step_eq_abort hadd (hback c rfl)]
        rfl

/-! ## Durations that have to have a length -/

theorem readPositive_cases (text : String) :
    (Text.trim text = "" ∧ readPositive text = refuse ⟨text, .empty⟩) ∨
    (∃ fault, read (Text.trim text) = refuse fault ∧ readPositive text = refuse ⟨text, .unreadable fault⟩) ∨
    (read (Text.trim text) = abort ∧ readPositive text = abort) ∨
    (read (Text.trim text) = .ok zero ∧ readPositive text = refuse ⟨text, .zero⟩) ∨
    ∃ d, read (Text.trim text) = .ok d ∧ d ≠ zero ∧ readPositive text = .ok d := by
  unfold readPositive
  dsimp only
  by_cases hempty : (Text.trim text).isEmpty = true
  · rw [if_pos hempty]
    exact Or.inl ⟨String.isEmpty_iff.mp hempty, rfl⟩
  · rw [if_neg hempty]
    right
    cases hread : read (Text.trim text) with
    | error halt =>
      cases halt with
      | refused fault => exact Or.inl ⟨fault, rfl, rfl⟩
      | aborted => exact Or.inr (Or.inl ⟨rfl, rfl⟩)
    | ok d =>
      right; right
      by_cases hzero : d.isZero = true
      · refine Or.inl ⟨congrArg Except.ok ((isZero_iff d).mp hzero), ?_⟩
        exact if_pos hzero
      · exact Or.inr ⟨d, rfl, fun he => hzero ((isZero_iff d).mpr he), if_neg hzero⟩

variable {text : String} {d : Duration}

theorem readPositive_eq_abort_iff : readPositive text = abort ↔ Overfull (Text.trim text).toList := by
  rw [← read_eq_abort_iff]
  rcases readPositive_cases text with ⟨hempty, h⟩ | ⟨fault, hread, h⟩ | ⟨hread, h⟩ | ⟨hread, h⟩ |
    ⟨d, hread, -, h⟩
  · rw [h, hempty]
    exact iff_of_false refuse_ne_abort refuse_ne_abort
  · rw [h, hread]
    exact iff_of_false refuse_ne_abort refuse_ne_abort
  · exact iff_of_true h hread
  · rw [h, hread]
    exact iff_of_false refuse_ne_abort ok_ne_abort
  · rw [h, hread]
    exact iff_of_false ok_ne_abort ok_ne_abort

/-- A duration that is accepted is what the text denotes, to the nanosecond. -/
theorem denotes_iff_of_readPositive (h : readPositive text = .ok d) {n : Nat} :
    Denotes (Text.trim text).toList n ↔ n = d.toNanos := by
  rcases readPositive_cases text with ⟨-, h'⟩ | ⟨_, -, h'⟩ | ⟨-, h'⟩ | ⟨-, h'⟩ | ⟨d', hread, hlong, h'⟩
  · exact absurd (h'.symm.trans h) refuse_ne_ok
  · exact absurd (h'.symm.trans h) refuse_ne_ok
  · exact absurd (h.symm.trans h') ok_ne_abort
  · exact absurd (h'.symm.trans h) refuse_ne_ok
  · obtain rfl : d' = d := Except.ok.inj (h'.symm.trans h)
    rcases read_eq_ok_iff.mp hread with ⟨-, hzero⟩ | ⟨hsums, -⟩
    · exact absurd hzero hlong
    · refine ⟨fun hdenotes => hdenotes.unique hsums.denotes, ?_⟩
      rintro rfl
      exact hsums.denotes

/-- Only a text that denotes nothing at all is refused for having no length. -/
theorem readPositive_eq_zero_iff : readPositive text = refuse ⟨text, .zero⟩ ↔
    Text.trim text = "0" ∨ Sums (Text.trim text).toList zero ∧ ¬Blank (Text.trim text).toList := by
  have hiff : readPositive text = refuse ⟨text, .zero⟩ ↔ read (Text.trim text) = .ok zero := by
    rcases readPositive_cases text with ⟨hempty, h⟩ | ⟨fault, hread, h⟩ | ⟨hread, h⟩ | ⟨hread, h⟩ |
      ⟨d, hread, hlong, h⟩
    · rw [h, hempty]
      exact iff_of_false (by simp [refuse]) refuse_ne_ok
    · rw [h, hread]
      exact iff_of_false (by simp [refuse]) refuse_ne_ok
    · rw [h, hread]
      exact iff_of_false refuse_ne_abort.symm ok_ne_abort.symm
    · exact iff_of_true h hread
    · rw [h, hread, Except.ok.injEq]
      exact iff_of_false refuse_ne_ok.symm hlong
  rw [hiff, read_eq_ok_iff, and_iff_left rfl]

end PowerLease.Duration
