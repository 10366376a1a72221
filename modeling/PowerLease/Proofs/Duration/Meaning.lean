import PowerLease.Proofs.Duration.Grammar

/-!
# One text, one meaning

A text denotes one number of nanoseconds at most (`Denotes.unique`). It is taken apart from its end: the blanks
behind the last term, its name, which is all letters, and its number, which begins behind the last letter
before that, and has no letter in it. What is left is a text with one term less.
-/

namespace PowerLease.Duration

/-! ## Runs of characters -/

section

variable {p : Char → Bool} {run run' rest rest' : List Char}

/-- A run at the front of a list ends where the first other character stands. -/
theorem takeWhile_run (hrun : ∀ c ∈ run, p c = true) (hrest : ∀ c ∈ rest.head?, p c = false) :
    (run ++ rest).takeWhile p = run := by
  rw [List.takeWhile_append_of_pos hrun]
  cases rest with
  | nil => exact List.append_nil run
  | cons c l => rw [List.takeWhile_cons_of_neg (by simp [hrest c rfl]), List.append_nil]

/-- The last character of two lists is in the second one, unless that is empty. -/
theorem mem_of_getLast?_append {l l' : List Char} (hne : l' ≠ []) {c : Char} (h : c ∈ (l ++ l').getLast?) :
    c ∈ l' := by
  rw [List.getLast?_append, List.getLast?_eq_some_getLast hne, Option.some_or] at h
  rw [← Option.some.inj h]
  exact List.getLast_mem hne

/-- A list is cut behind the run at its front in one way. -/
theorem front_unique (h : run ++ rest = run' ++ rest') (hrun : ∀ c ∈ run, p c = true)
    (hrun' : ∀ c ∈ run', p c = true) (hrest : ∀ c ∈ rest.head?, p c = false)
    (hrest' : ∀ c ∈ rest'.head?, p c = false) : run = run' ∧ rest = rest' := by
  have hsame : run = run' := by rw [← takeWhile_run hrun hrest, h, takeWhile_run hrun' hrest']
  subst hsame
  exact ⟨rfl, List.append_cancel_left h⟩

/-- A list is cut before the run at its end in one way. -/
theorem back_unique (h : rest ++ run = rest' ++ run') (hrun : ∀ c ∈ run, p c = true)
    (hrun' : ∀ c ∈ run', p c = true) (hrest : ∀ c ∈ rest.getLast?, p c = false)
    (hrest' : ∀ c ∈ rest'.getLast?, p c = false) : rest = rest' ∧ run = run' := by
  have hreverse : run.reverse ++ rest.reverse = run'.reverse ++ rest'.reverse := by
    rw [← List.reverse_append, h, List.reverse_append]
  obtain ⟨hr, hl⟩ := front_unique hreverse (by simpa using hrun) (by simpa using hrun')
    (by simpa using hrest) (by simpa using hrest')
  exact ⟨List.reverse_inj.mp hl, List.reverse_inj.mp hr⟩

end

/-! ## Terms -/

/-- What stands among digits is no letter. -/
theorem not_letter_of_spaced {c : Char} (h : (digit? c).isSome = true ∨ Text.isBlank c = true) :
    isUnitLetter c = false := by
  refine Bool.eq_false_iff.mpr fun hletter => ?_
  obtain ⟨hdigit, hblank⟩ := not_blank_of_isUnitLetter hletter
  rw [hdigit, hblank] at h
  exact h.elim Bool.noConfusion Bool.noConfusion

/-- The point is neither. -/
theorem ne_point_of_spaced {c : Char} (h : (digit? c).isSome = true ∨ Text.isBlank c = true) :
    (c != '.') = true := by
  refine bne_iff_ne.mpr ?_
  rintro rfl
  exact absurd h (by decide)

namespace Term

variable {t t' : Term}

/-- What stands behind the whole part of a number, with the point. -/
def tail (t : Term) : List Char := t.behind.elim [] fun l => '.' :: l

/-- The number of a term, as it is written. -/
def numeral (t : Term) : List Char := t.whole ++ t.tail

theorem chars_eq (t : Term) : t.chars = t.numeral ++ t.name := rfl

theorem tail_eq (t : Term) : t.tail = [] ∧ t.behind = none ∨
    ∃ l, t.tail = '.' :: l ∧ t.behind = some l ∧ Spaced l := by
  unfold tail
  cases hb : t.behind with
  | none => exact Or.inl ⟨rfl, rfl⟩
  | some l => exact Or.inr ⟨l, rfl, rfl, (t.isBehind l hb).1⟩

theorem not_letter_numeral (t : Term) : ∀ c ∈ t.numeral, isUnitLetter c = false := by
  refine List.forall_mem_append.mpr ⟨fun c hc => not_letter_of_spaced (t.isWhole.spaced c hc), ?_⟩
  rcases t.tail_eq with ⟨htail, -⟩ | ⟨l, htail, -, hl⟩
  · rw [htail]
    exact List.forall_mem_nil _
  · rw [htail]
    exact List.forall_mem_cons.mpr ⟨by decide, fun c hc => not_letter_of_spaced (hl c hc)⟩

theorem letter_of_getLast? (t : Term) (front : List Char) :
    ∀ c ∈ (front ++ t.chars).getLast?, isUnitLetter c = true := by
  intro c hc
  rw [t.chars_eq, ← List.append_assoc] at hc
  exact t.letters c (mem_of_getLast?_append t.name_ne_nil hc)

theorem numeral_eq_cons (t : Term) : ∃ c rest, t.numeral = c :: rest ∧ (digit? c).isSome = true := by
  obtain ⟨c, rest, hwhole, hc⟩ := t.isWhole.begins
  exact ⟨c, rest ++ t.tail, by rw [numeral, hwhole, List.cons_append], hc⟩

/-- A number is written in one way, with or without a point. -/
theorem of_numeral_eq (h : t.numeral = t'.numeral) : t.count = t'.count ∧ t.fraction? = t'.fraction? := by
  have hhead : ∀ t : Term, ∀ c ∈ t.tail.head?, (c != '.') = false := by
    intro t c hc
    rcases t.tail_eq with ⟨htail, -⟩ | ⟨l, htail, -, -⟩
    · rw [htail] at hc
      exact absurd hc (by simp)
    · rw [htail] at hc
      rw [← Option.some.inj hc]
      rfl
  obtain ⟨hwhole, htail⟩ := front_unique h (fun c hc => ne_point_of_spaced (t.isWhole.spaced c hc))
    (fun c hc => ne_point_of_spaced (t'.isWhole.spaced c hc)) (hhead t) (hhead t')
  have hbehind : t.behind = t'.behind := by
    rcases t.tail_eq with ⟨hl, hnone⟩ | ⟨l, hl, hsome, -⟩ <;>
      rcases t'.tail_eq with ⟨hl', hnone'⟩ | ⟨l', hl', hsome', -⟩ <;> rw [hl, hl'] at htail
    · rw [hnone, hnone']
    · exact absurd htail.symm (List.cons_ne_nil _ _)
    · exact absurd htail (List.cons_ne_nil _ _)
    · rw [hsome, hsome', List.tail_eq_of_cons_eq htail]
  exact ⟨by rw [count, count, hwhole], by rw [fraction?, fraction?, hbehind]⟩

/-- A term comes to one amount. -/
theorem amount_unique {u : TimeUnit} {amount amount' : Nat} (h : ComesTo t.count t.fraction? u amount)
    (h' : ComesTo t.count t.fraction? u amount') : amount = amount' := by
  have hpos : 0 < (t.fraction?.getD .start).denominator := by
    unfold fraction?
    cases t.behind with
    | none => exact Nat.one_pos
    | some l => exact Nat.pow_pos (by decide)
  exact Nat.eq_of_mul_eq_mul_right hpos (h.trans h'.symm)

end Term

/-! ## Texts -/

/-- A text ends with a letter and blanks, if there is anything but blanks. -/
theorem Denotes.ends {l : List Char} {n : Nat} (h : Denotes l n) : ∃ core blanks, l = core ++ blanks ∧
    Blank blanks ∧ ∀ c ∈ core.getLast?, isUnitLetter c = true := by
  cases h with
  | blank hblanks => exact ⟨[], l, rfl, hblanks, fun c hc => absurd hc (by simp)⟩
  | @term front blanks _ _ _ _ t _ _ hblanks =>
    exact ⟨front ++ t.chars, blanks, rfl, hblanks, t.letter_of_getLast? front⟩

/-- A text of terms is cut before its last term in one way. -/
theorem cut_unique {front front' blanks blanks' : List Char} {n n' : Nat} {t t' : Term}
    (h : front ++ t.chars ++ blanks = front' ++ t'.chars ++ blanks') (hfront : Denotes front n)
    (hfront' : Denotes front' n') (hblanks : Blank blanks) (hblanks' : Blank blanks') :
    front = front' ∧ t.numeral = t'.numeral ∧ t.name = t'.name := by
  have hname : ∀ (l : List Char) (t : Term), ∀ c ∈ (l ++ t.chars).getLast?, Text.isBlank c = false :=
    fun l t c hc => (not_blank_of_isUnitLetter (t.letter_of_getLast? l c hc)).2
  have hnumeral : ∀ (l : List Char) (t : Term), ∀ c ∈ (l ++ t.numeral).getLast?, isUnitLetter c = false := by
    intro l t c hc
    obtain ⟨first, rest, hcons, -⟩ := t.numeral_eq_cons
    exact t.not_letter_numeral c (mem_of_getLast?_append (hcons ▸ List.cons_ne_nil first rest) hc)
  have hdigit : ∀ t : Term, ∀ c ∈ t.numeral.head?, Text.isBlank c = false := by
    intro t c hc
    obtain ⟨first, rest, hcons, hfirst⟩ := t.numeral_eq_cons
    rw [hcons] at hc
    obtain ⟨d, hd⟩ := Option.isSome_iff_exists.mp hfirst
    rw [← Option.some.inj hc]
    exact not_blank_of_digit? hd
  obtain ⟨hterms, -⟩ := back_unique h hblanks hblanks' (hname front t) (hname front' t')
  rw [t.chars_eq, t'.chars_eq, ← List.append_assoc, ← List.append_assoc] at hterms
  obtain ⟨hnumbers, hsame⟩ := back_unique hterms t.letters t'.letters (hnumeral front t) (hnumeral front' t')
  -- where the number begins is told by the blanks behind the letter before it
  obtain ⟨core, gap, rfl, hgap, hcore⟩ := hfront.ends
  obtain ⟨core', gap', rfl, hgap', hcore'⟩ := hfront'.ends
  rw [List.append_assoc, List.append_assoc] at hnumbers
  have hno : ∀ (l : List Char) (t : Term), Blank l → ∀ c ∈ l ++ t.numeral, (!isUnitLetter c) = true := by
    intro l t hl
    refine List.forall_mem_append.mpr ⟨fun c hc => ?_, fun c hc => ?_⟩
    · rw [(of_isBlank (hl c hc)).2, Bool.not_false]
    · rw [t.not_letter_numeral c hc, Bool.not_false]
  obtain ⟨rfl, hbehind⟩ := back_unique hnumbers (hno gap t hgap) (hno gap' t' hgap') (by simpa using hcore)
    (by simpa using hcore')
  obtain ⟨rfl, hnumber⟩ := front_unique hbehind hgap hgap' (hdigit t) (hdigit t')
  exact ⟨rfl, hnumber, hsame⟩

/-- **A text denotes one number of nanoseconds at most.** -/
theorem Denotes.unique {l : List Char} {n n' : Nat} (h : Denotes l n) (h' : Denotes l n') : n = n' := by
  induction h generalizing n' with
  | blank hblanks =>
    cases h' with
    | blank => rfl
    | term _ t => exact absurd (fun c hc => hblanks c (by simp [hc])) t.not_blank
  | @term front blanks total amount u hfront t hu hamount hblanks ih =>
    generalize hl : front ++ t.chars ++ blanks = l at h'
    cases h' with
    | blank hblanks' =>
      subst hl
      exact absurd (fun c hc => hblanks' c (by simp [hc])) t.not_blank
    | @term front' blanks' total' amount' u' hfront' t' hu' hamount' hblanks' =>
      obtain ⟨rfl, hnumeral, hname⟩ := cut_unique hl hfront hfront' hblanks hblanks'
      obtain ⟨hcount, hfraction⟩ := Term.of_numeral_eq hnumeral
      obtain rfl : u = u' := by
        rw [Term.unit?, ← hname] at hu'
        exact Option.some.inj (hu.symm.trans hu')
      rw [← hcount, ← hfraction] at hamount'
      rw [ih hfront', Term.amount_unique hamount hamount']

end PowerLease.Duration
