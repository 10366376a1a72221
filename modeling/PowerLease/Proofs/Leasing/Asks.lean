import PowerLease.Leasing
import PowerLease.Proofs.Catalog.History
import PowerLease.Proofs.Duration.Reading

/-!
# Asking for a length

Two requests of the leasing service name a length: that for a lease, and that for more time. From the text and
the clock comes the expiry, or the request is refused before the store is touched. The expiry is the clock plus
the whole seconds of what the text denotes, and the two bounds are those of a timestamp; no sum is taken that
could leave them unseen (`term_cases`).

There is one exception, and it lies in reading the text: an overfull one is neither read nor refused
(`ask_exact`).
-/

namespace PowerLease.Leasing

/-- What the service is asked for with a length. -/
inductive Ask where
  | lease (user email group token : String)
  | extend (token : String)

namespace Ask

/-- The token that is named, or to be given out. -/
def token : Ask → String
  | lease _ _ _ token | extend token => token

/-- Asks the service. -/
def run (text : String) (now : Int) (store : Store) : Ask → Except (Halt LeaseFault) Grant × Store
  | lease user email group token => Leasing.lease user email group text token now store
  | extend token => Leasing.extend token text now store

/-- The transaction that is run for an expiry. -/
def transaction (expiry now : Int) : Ask → Transaction
  | lease user email group token =>
    .openSession { token := tokenDigest token, user, email, group, expiry } now
  | extend token => .extendSession (tokenDigest token) expiry now

end Ask

variable {a : Ask} {text : String} {now expiry : Int} {store : Store} {d : Duration}

/-- A length comes to nothing, or to an expiry that is exactly as far from now, in whole seconds. -/
theorem term_cases (text : String) (now : Int) :
    (∃ refusal, Duration.readPositive text = refuse refusal ∧
      term text now = refuse (.invalidDuration (.refused refusal))) ∨
    (Duration.readPositive text = abort ∧ term text now = abort) ∨
    ∃ d, Duration.readPositive text = .ok d ∧
      ((Timestamp.last < d.seconds ∨ Timestamp.last < now + d.seconds) ∧
          term text now = refuse (.invalidDuration (.tooLong text)) ∨
        (d.seconds ≤ Timestamp.last ∧ now + d.seconds ≤ Timestamp.last) ∧
          term text now = .ok (d, now + d.seconds)) := by
  unfold term
  cases hread : Duration.readPositive text with
  | error halt =>
    cases halt with
    | refused refusal => exact Or.inl ⟨refusal, rfl, rfl⟩
    | aborted => exact Or.inr (Or.inl ⟨rfl, rfl⟩)
  | ok d =>
    refine Or.inr (Or.inr ⟨d, rfl, ?_⟩)
    dsimp only
    by_cases hlong : Timestamp.last < d.seconds
    · exact Or.inl ⟨Or.inl hlong, if_pos hlong⟩
    · rw [if_neg hlong, Timestamp.add?]
      by_cases hfits : now + d.seconds ≤ Timestamp.last
      · rw [if_pos hfits]
        exact Or.inr ⟨⟨Int.not_lt.mp hlong, hfits⟩, rfl⟩
      · rw [if_neg hfits]
        exact Or.inl ⟨Or.inr (Int.not_le.mp hfits), rfl⟩

/-- An expiry is made of what was read. -/
theorem of_term_eq_ok (h : term text now = .ok (d, expiry)) :
    Duration.readPositive text = .ok d ∧ expiry = now + d.seconds := by
  rcases term_cases text now with ⟨_, -, hterm⟩ | ⟨-, hterm⟩ | ⟨d', hread, ⟨-, hterm⟩ | ⟨-, hterm⟩⟩
  · exact absurd (hterm.symm.trans h) refuse_ne_ok
  · exact absurd (h.symm.trans hterm) ok_ne_abort
  · exact absurd (hterm.symm.trans h) refuse_ne_ok
  · obtain ⟨rfl, rfl⟩ := Prod.mk.inj (Except.ok.inj (hterm.symm.trans h))
    exact ⟨hread, rfl⟩

/-- Without an expiry, the store is not touched. -/
theorem run_of_error {halt : Halt LeaseFault} (h : term text now = .error halt) (a : Ask) (store : Store) :
    a.run text now store = (.error halt, store) := by
  cases a with
  | lease user email group token => rw [Ask.run, lease, h]
  | extend token => rw [Ask.run, extend, h]

/-- A request is carried out with a duration and an expiry: these go into the store and into the answer, and
whatever else is refused is not refused for the length. -/
structure Ask.CarriedOut (a : Ask) (d : Duration) (expiry now : Int) (store : Store)
    (done : Except (Halt LeaseFault) Grant × Store) : Prop where
  store : done.2 = (store.run fun c => ((), (a.transaction expiry now).run c)).2
  answer : (∃ group, done.1 = .ok ⟨group, d, expiry⟩) ∨
    ∃ fault, done.1 = refuse fault ∧ ∀ length, fault ≠ .invalidDuration length

theorem openFault_ne (group : String) (fault : StoreFault) (length : LengthFault) :
    openFault group fault ≠ .invalidDuration length := by
  cases fault <;> simp [openFault]

theorem tokenFault_ne (fault : StoreFault) (length : LengthFault) :
    tokenFault fault ≠ .invalidDuration length := by
  cases fault <;> simp [tokenFault]

theorem carriedOut_of_ok (h : term text now = .ok (d, expiry)) (a : Ask) (store : Store) :
    a.CarriedOut d expiry now store (a.run text now store) := by
  cases a with
  | lease user email group token =>
    simp only [Ask.run, lease, h]
    cases hrun : store.attempt (Catalog.openSession ⟨tokenDigest token, user, email, group, expiry⟩ now) with
    | mk answer after =>
    have hstore : after = (store.run fun c =>
        ((), ((Ask.lease user email group token).transaction expiry now).run c)).2 := by
      cases store <;> exact (congrArg Prod.snd hrun).symm
    cases answer with
    | ok => exact ⟨hstore, Or.inl ⟨group, rfl⟩⟩
    | error fault => exact ⟨hstore, Or.inr ⟨_, rfl, openFault_ne group fault⟩⟩
  | extend token =>
    simp only [Ask.run, extend, h]
    cases hrun : store.attempt (Catalog.extendSession (tokenDigest token) expiry now) with
    | mk answer after =>
    have hstore : after =
        (store.run fun c => ((), ((Ask.extend token).transaction expiry now).run c)).2 := by
      cases store <;> exact (congrArg Prod.snd hrun).symm
    cases answer with
    | ok session => exact ⟨hstore, Or.inl ⟨session.group, rfl⟩⟩
    | error fault => exact ⟨hstore, Or.inr ⟨_, rfl, tokenFault_ne fault⟩⟩

theorem Ask.CarriedOut.ne_abort {done : Except (Halt LeaseFault) Grant × Store}
    (h : a.CarriedOut d expiry now store done) : done.1 ≠ abort := by
  rcases h.answer with ⟨group, hok⟩ | ⟨fault, hrefused, -⟩
  · exact hok ▸ ok_ne_abort
  · exact hrefused ▸ refuse_ne_abort

theorem Ask.CarriedOut.ne_invalidDuration {done : Except (Halt LeaseFault) Grant × Store}
    (h : a.CarriedOut d expiry now store done) (length : LengthFault) :
    done.1 ≠ refuse (.invalidDuration length) := by
  rcases h.answer with ⟨group, hok⟩ | ⟨fault, hrefused, hno⟩
  · exact hok ▸ refuse_ne_ok.symm
  · rw [hrefused]
    intro he
    exact hno length (Halt.refused.inj (Except.error.inj he))

/-! ## What is answered -/

theorem run_eq_abort_iff : (a.run text now store).1 = abort ↔ Duration.readPositive text = abort := by
  rcases term_cases text now with ⟨refusal, hread, hterm⟩ | ⟨hread, hterm⟩ |
    ⟨d, hread, ⟨-, hterm⟩ | ⟨-, hterm⟩⟩
  · rw [run_of_error hterm, hread]
    exact iff_of_false refuse_ne_abort refuse_ne_abort
  · rw [run_of_error hterm, hread]
    exact iff_of_true rfl rfl
  · rw [run_of_error hterm, hread]
    exact iff_of_false refuse_ne_abort ok_ne_abort
  · rw [hread]
    exact iff_of_false (carriedOut_of_ok hterm a store).ne_abort ok_ne_abort

/-- A text is refused by a request just as it is refused by the reader. -/
theorem run_eq_refused_iff {refusal : Duration.Refusal} :
    (a.run text now store).1 = refuse (.invalidDuration (.refused refusal)) ↔
      Duration.readPositive text = refuse refusal := by
  rcases term_cases text now with ⟨other, hread, hterm⟩ | ⟨hread, hterm⟩ |
    ⟨d, hread, ⟨-, hterm⟩ | ⟨-, hterm⟩⟩
  · rw [run_of_error hterm, hread]
    simp [refuse]
  · rw [run_of_error hterm, hread]
    exact iff_of_false refuse_ne_abort.symm refuse_ne_abort.symm
  · rw [run_of_error hterm, hread]
    exact iff_of_false (by simp [refuse]) refuse_ne_ok.symm
  · rw [hread]
    exact iff_of_false ((carriedOut_of_ok hterm a store).ne_invalidDuration _) refuse_ne_ok.symm

/-- What was read is refused only for being too long. -/
theorem run_eq_tooLong_iff {long : String} :
    (a.run text now store).1 = refuse (.invalidDuration (.tooLong long)) ↔ long = text ∧
      ∃ d, Duration.readPositive text = .ok d ∧
        (Timestamp.last < d.seconds ∨ Timestamp.last < now + d.seconds) := by
  rcases term_cases text now with ⟨other, hread, hterm⟩ | ⟨hread, hterm⟩ |
    ⟨d, hread, ⟨hlong, hterm⟩ | ⟨⟨hseconds, hend⟩, hterm⟩⟩
  · rw [run_of_error hterm, hread]
    refine iff_of_false (by simp [refuse]) ?_
    rintro ⟨-, d, h, -⟩
    exact refuse_ne_ok h
  · rw [run_of_error hterm, hread]
    refine iff_of_false refuse_ne_abort.symm ?_
    rintro ⟨-, d, h, -⟩
    exact ok_ne_abort h.symm
  · rw [run_of_error hterm, hread]
    simp only [refuse, Except.error.injEq, Halt.refused.injEq, LeaseFault.invalidDuration.injEq,
      LengthFault.tooLong.injEq, Except.ok.injEq, exists_eq_left', and_iff_left hlong]
    exact eq_comm
  · rw [hread]
    refine iff_of_false ((carriedOut_of_ok hterm a store).ne_invalidDuration _) ?_
    rintro ⟨-, d', h, hlong⟩
    obtain rfl := Except.ok.inj h
    exact hlong.elim (Int.not_lt.mpr hseconds) (Int.not_lt.mpr hend)

theorem carriedOut_of_fits (h : Duration.readPositive text = .ok d) (hseconds : d.seconds ≤ Timestamp.last)
    (hend : now + d.seconds ≤ Timestamp.last) (a : Ask) (store : Store) :
    a.CarriedOut d (now + d.seconds) now store (a.run text now store) := by
  refine carriedOut_of_ok ?_ a store
  rcases term_cases text now with ⟨_, hread, -⟩ | ⟨hread, -⟩ | ⟨d', hread, hterm⟩
  · exact absurd (hread.symm.trans h) refuse_ne_ok
  · exact absurd (h.symm.trans hread) ok_ne_abort
  · obtain rfl := Except.ok.inj (hread.symm.trans h)
    rcases hterm with ⟨hlong, -⟩ | ⟨-, hterm⟩
    · exact (hlong.elim (Int.not_lt.mpr hseconds) (Int.not_lt.mpr hend)).elim
    · exact hterm

/-- **The arithmetic of a lease is exact, and total but for overfull texts.** A request with such a text
aborts. Any other one is refused for its length exactly if the text is no duration of some length, or its whole
seconds, or the clock plus these, are no timestamp. Otherwise it is carried out with the clock plus the whole
seconds of what the text denotes. -/
theorem ask_exact (a : Ask) (text : String) (now : Int) (store : Store) :
    ((a.run text now store).1 = abort ↔ Duration.Overfull (Text.trim text).toList) ∧
    ((∃ length, (a.run text now store).1 = refuse (.invalidDuration length)) ↔
      (∃ refusal, Duration.readPositive text = refuse refusal) ∨
      ∃ d, Duration.readPositive text = .ok d ∧
        (Timestamp.last < d.seconds ∨ Timestamp.last < now + d.seconds)) ∧
    ∀ d, Duration.readPositive text = .ok d →
      (∀ n, Duration.Denotes (Text.trim text).toList n ↔ n = d.toNanos) ∧
      (d.seconds ≤ Timestamp.last → now + d.seconds ≤ Timestamp.last →
        a.CarriedOut d (now + d.seconds) now store (a.run text now store)) := by
  refine ⟨run_eq_abort_iff.trans Duration.readPositive_eq_abort_iff, ⟨?_, ?_⟩, fun d hread =>
    ⟨fun n => Duration.denotes_iff_of_readPositive hread, fun hseconds hend =>
      carriedOut_of_fits hread hseconds hend a store⟩⟩
  · rintro ⟨length, h⟩
    cases length with
    | refused refusal => exact Or.inl ⟨refusal, run_eq_refused_iff.mp h⟩
    | tooLong long => exact Or.inr (run_eq_tooLong_iff.mp h).2
  · rintro (⟨refusal, hread⟩ | hlong)
    · exact ⟨_, run_eq_refused_iff.mpr hread⟩
    · exact ⟨_, run_eq_tooLong_iff.mpr ⟨rfl, hlong⟩⟩

/-- A catalog with a group that nobody has leased. -/
def vacant : Catalog := (Transaction.sync [⟨"i-1", "web", "QA", .off⟩] 0).run .empty

/-- Two hours and a quarter of a second, written in three terms, end after two hours. -/
theorem ask_exact_quarterSecond :
    let d : Duration := ⟨7200, 250000000, by decide, by decide⟩
    Duration.readPositive "1.5h 30m 250ms" = .ok d ∧
      (Ask.lease "u1" "u1@example.com" "QA" "t1").CarriedOut d 7300 100 (.opened vacant)
        ((Ask.lease "u1" "u1@example.com" "QA" "t1").run "1.5h 30m 250ms" 100 (.opened vacant)) := by
  intro d
  have hread : Duration.readPositive "1.5h 30m 250ms" = .ok d := by decide +kernel
  exact ⟨hread, ((ask_exact _ "1.5h 30m 250ms" 100 _).2.2 d hread).2 (by decide) (by decide)⟩

/-- All the seconds that there are, and one more in milliseconds: the sum is not refused, and there is no
answer. -/
theorem aborts_overfull : ¬∀ (a : Ask) (text : String) (now : Int) (store : Store),
    0 ≤ now → (a.run text now store).1 ≠ abort := fun h =>
  h (.extend "t1") "18446744073709551615s 1000ms" 0 .closed (by decide) (by decide +kernel)

end PowerLease.Leasing
