import PowerLease.Proofs.Duration.Sums

/-!
# The texts that denote durations

A text is a row of terms with blanks around them, and what it denotes is a number of nanoseconds (`Denotes`):
nothing in this is about 64 bits, or about how a text is read. A reader that adds term by term comes to what
the text denotes as long as each sum on the way is a duration (`Sums.denotes`). Where a sum is one second too
much, and filled up by nanoseconds, there is no sum, and no refusal either (`Overfull`).
-/

namespace PowerLease.Duration

/-! ## Numbers -/

theorem digit?_eq_some_iff {c : Char} {d : Nat} :
    digit? c = some d ↔ 48 ≤ c.toNat ∧ c.toNat ≤ 57 ∧ c.toNat - 48 = d := by
  have hrange : ('0' ≤ c && c ≤ '9') = true ↔ 48 ≤ c.toNat ∧ c.toNat ≤ 57 := by
    simp only [Bool.and_eq_true, decide_eq_true_eq, Char.le_def, UInt32.le_iff_toNat_le]
    rfl
  unfold digit?
  split_ifs with h
  · obtain ⟨hlow, hhigh⟩ := hrange.mp h
    simp [hlow, hhigh]
  · exact iff_of_false nofun fun hd => h (hrange.mpr ⟨hd.1, hd.2.1⟩)

theorem lt_of_digit? {c : Char} {d : Nat} (h : digit? c = some d) : d < 10 := by
  obtain ⟨hlow, hhigh, rfl⟩ := digit?_eq_some_iff.mp h
  omega

/-- A digit is no blank. -/
theorem not_blank_of_digit? {c : Char} {d : Nat} (h : digit? c = some d) : Text.isBlank c = false := by
  obtain ⟨hlow, hhigh, -⟩ := digit?_eq_some_iff.mp h
  simp only [Text.isBlank, Bool.or_eq_false_iff, Bool.and_eq_false_iff, beq_eq_false_iff_ne,
    decide_eq_false_iff_not, ne_eq]
  omega

/-- A blank is nothing else. -/
theorem of_isBlank {c : Char} (h : Text.isBlank c = true) : digit? c = none ∧ isUnitLetter c = false := by
  constructor
  · refine Option.eq_none_iff_forall_ne_some.mpr fun d hd => ?_
    rw [not_blank_of_digit? hd] at h
    exact Bool.noConfusion h
  · refine Bool.eq_false_iff.mpr fun hletter => ?_
    rw [(not_blank_of_isUnitLetter hletter).2] at h
    exact Bool.noConfusion h

/-- Blanks, as they can stand between terms. -/
def Blank (l : List Char) : Prop := ∀ c ∈ l, Text.isBlank c = true

theorem blank_nil : Blank [] := List.forall_mem_nil _

/-- Digits, with blanks among them. -/
def Spaced (l : List Char) : Prop := ∀ c ∈ l, (digit? c).isSome = true ∨ Text.isBlank c = true

/-- The number that goes on with some digits. Blanks count for nothing. -/
def numberFrom (n : Nat) (l : List Char) : Nat := (l.filterMap digit?).foldl (fun n d => n * 10 + d) n

/-- The number of some digits. -/
def number (l : List Char) : Nat := numberFrom 0 l

/-- How many digits there are. -/
def digitCount (l : List Char) : Nat := (l.filterMap digit?).length

section

variable {c : Char} {d n : Nat} {l l' : List Char}

theorem numberFrom_cons_of_digit (h : digit? c = some d) :
    numberFrom n (c :: l) = numberFrom (n * 10 + d) l := by
  rw [numberFrom, List.filterMap_cons_some h, List.foldl_cons, numberFrom]

theorem numberFrom_cons_of_none (h : digit? c = none) : numberFrom n (c :: l) = numberFrom n l := by
  rw [numberFrom, List.filterMap_cons_none h, numberFrom]

theorem numberFrom_append : numberFrom n (l ++ l') = numberFrom (numberFrom n l) l' := by
  rw [numberFrom, List.filterMap_append, List.foldl_append, numberFrom, numberFrom]

/-- A number only grows by more digits. -/
theorem le_numberFrom : n ≤ numberFrom n l := by
  induction l generalizing n with
  | nil => exact Nat.le_refl n
  | cons c rest ih =>
    cases hd : digit? c with
    | none =>
      rw [numberFrom_cons_of_none hd]
      exact ih
    | some d =>
      rw [numberFrom_cons_of_digit hd]
      exact Nat.le_trans (by omega) ih

theorem digitCount_append : digitCount (l ++ l') = digitCount l + digitCount l' := by
  rw [digitCount, List.filterMap_append, List.length_append, digitCount, digitCount]

theorem digitCount_cons_of_digit (h : digit? c = some d) : digitCount (c :: l) = digitCount l + 1 := by
  rw [digitCount, List.filterMap_cons_some h, List.length_cons, digitCount]

theorem digitCount_cons_of_none (h : digit? c = none) : digitCount (c :: l) = digitCount l := by
  rw [digitCount, List.filterMap_cons_none h, digitCount]

end

/-! ## Terms -/

/-- A number as it is written: a digit, and more digits with blanks among them. -/
structure Whole (l : List Char) : Prop where
  spaced : Spaced l
  begins : ∃ c rest, l = c :: rest ∧ (digit? c).isSome = true

/-- A term as it is written. -/
structure Term where
  whole : List Char
  /-- What stands behind the point, if there is one. -/
  behind : Option (List Char)
  name : List Char
  isWhole : Whole whole
  isBehind : ∀ l ∈ behind, Spaced l ∧ digitCount l ≠ 0
  name_ne_nil : name ≠ []
  letters : ∀ c ∈ name, isUnitLetter c = true

namespace Term

/-- The characters of a term. -/
def chars (t : Term) : List Char := t.whole ++ (t.behind.elim [] fun l => '.' :: l) ++ t.name

/-- The number before the point. -/
def count (t : Term) : Nat := number t.whole

/-- The digits behind the point, as a fraction. -/
def fraction? (t : Term) : Option Fraction := t.behind.map fun l => ⟨number l, 10 ^ digitCount l⟩

/-- The unit that a term names. -/
def unit? (t : Term) : Option TimeUnit := TimeUnit.named? (String.ofList t.name)

/-- Adds a term to a sum. -/
def add (t : Term) (sum : Duration) : Except (Halt Fault) Duration :=
  addTerm sum t.count t.fraction? (String.ofList t.name)

/-- A term begins with a digit, so it is no blank. -/
theorem not_blank (t : Term) : ¬Blank t.chars := by
  obtain ⟨first, rest, hwhole, hfirst⟩ := t.isWhole.begins
  obtain ⟨d, hd⟩ := Option.isSome_iff_exists.mp hfirst
  intro hblank
  have hno := hblank first (by simp [chars, hwhole])
  rw [not_blank_of_digit? hd] at hno
  exact Bool.noConfusion hno

/-- The numbers of a term fit 64 bits. -/
structure Fits (t : Term) : Prop where
  count : t.count < 1 <<< 64
  behind : ∀ l ∈ t.behind, 10 ^ digitCount l < 1 <<< 64

end Term

/-- A text denotes so many nanoseconds. -/
inductive Denotes : List Char → Nat → Prop
  | blank {blanks : List Char} (h : Blank blanks) : Denotes blanks 0
  | term {front blanks : List Char} {total amount : Nat} {u : TimeUnit} (h : Denotes front total) (t : Term)
    (hu : t.unit? = some u) (hamount : ComesTo t.count t.fraction? u amount) (hblanks : Blank blanks) :
    Denotes (front ++ t.chars ++ blanks) (total + amount)

/-- The terms of a text add up to a duration, and so do those of each beginning of it. -/
inductive Sums : List Char → Duration → Prop
  | blank {blanks : List Char} (h : Blank blanks) : Sums blanks zero
  | term {front blanks : List Char} {sum d : Duration} (h : Sums front sum) (t : Term) (hfits : t.Fits)
    (hadd : t.add sum = .ok d) (hblanks : Blank blanks) : Sums (front ++ t.chars ++ blanks) d

/-- A term of a text overfills the sum of the terms before it. -/
inductive Overfull : List Char → Prop
  | term {front back : List Char} {sum : Duration} {u : TimeUnit} (h : Sums front sum) (t : Term)
    (hfits : t.Fits) (hu : t.unit? = some u) (hover : Overfills sum t.count t.fraction? u)
    (hback : ∀ c ∈ back.head?, (digit? c).isSome = true ∨ Text.isBlank c = true) :
    Overfull (front ++ t.chars ++ back)

/-- Terms add up to what they denote. -/
theorem Sums.denotes {l : List Char} {d : Duration} (h : Sums l d) : Denotes l d.toNanos := by
  induction h with
  | blank hblanks => exact .blank hblanks
  | term _ t _ hadd hblanks ih =>
    obtain ⟨u, amount, hu, hamount, htotal⟩ := toNanos_of_addTerm hadd
    rw [htotal]
    exact .term ih t hu hamount hblanks

/-- An overfull text comes, with a term or the whole units of it, to exactly what is too much for a duration. -/
theorem Overfull.exists_tooManyNanos {l : List Char} (h : Overfull l) :
    ∃ front back total amount u, ∃ t : Term, l = front ++ t.chars ++ back ∧ Denotes front total ∧
      t.unit? = some u ∧ (ComesTo t.count none u amount ∨ ComesTo t.count t.fraction? u amount) ∧
        total + amount = tooManyNanos := by
  cases h with
  | @term front back sum u h t _ hu hover =>
    obtain ⟨amount, hamount, htotal⟩ := hover.eq_tooManyNanos
    exact ⟨front, back, sum.toNanos, amount, u, t, rfl, h.denotes, hu, hamount, htotal⟩

/-- More blanks add nothing. -/
theorem Sums.append_blank {l blanks : List Char} {d : Duration} (h : Sums l d) (hblanks : Blank blanks) :
    Sums (l ++ blanks) d := by
  have hboth : ∀ {front}, Blank front → Blank (front ++ blanks) := fun hfront =>
    List.forall_mem_append.mpr ⟨hfront, hblanks⟩
  cases h with
  | blank hfront => exact .blank (hboth hfront)
  | term h t hfits hadd hfront =>
    rw [List.append_assoc]
    exact .term h t hfits hadd (hboth hfront)

end PowerLease.Duration
