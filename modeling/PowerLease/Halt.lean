/-!
# Refusing and aborting

A computation that does not end with a value ends in one of two ways. It *refuses*, with a reason
that its caller sees and can act on, or it *aborts*: no caller sees anything, and the worker that
ran it is over. What it had written before that stays written.
-/

namespace PowerLease

/-- How a computation ends without a value. -/
inductive Halt (ε : Type) where
  /-- It refuses, with a reason. -/
  | refused (reason : ε)
  /-- It ends the worker that ran it. -/
  | aborted
deriving DecidableEq, Repr

namespace Halt

/-- Gives the reason another form; an abort stays one. -/
def map {ε δ : Type} (f : ε → δ) : Halt ε → Halt δ
  | refused reason => refused (f reason)
  | aborted => aborted

end Halt

/-- Refuses with a reason. -/
def refuse {ε α : Type} (reason : ε) : Except (Halt ε) α := .error (.refused reason)

/-- Aborts. -/
def abort {ε α : Type} : Except (Halt ε) α := .error .aborted

theorem ok_ne_abort {ε α : Type} {a : α} : (.ok a : Except (Halt ε) α) ≠ abort := by simp [abort]

theorem refuse_ne_ok {ε α : Type} {reason : ε} {a : α} : (refuse reason : Except (Halt ε) α) ≠ .ok a := by
  simp [refuse]

theorem refuse_ne_abort {ε α : Type} {reason : ε} : (refuse reason : Except (Halt ε) α) ≠ abort := by
  simp [refuse, abort]

/-- What is computed in two steps is computed only if both of them give a value. -/
theorem exists_of_bind_eq_ok {ε α β : Type} {first : Except ε α} {next : α → Except ε β} {b : β}
    (h : first.bind next = .ok b) : ∃ a, first = .ok a ∧ next a = .ok b := by
  cases first with
  | error e => exact nomatch h
  | ok a => exact ⟨a, rfl, h⟩

/-- What is computed in two steps fails where one of them does. -/
theorem bind_eq_error_iff {ε α β : Type} {first : Except ε α} {next : α → Except ε β} {e : ε} :
    first.bind next = .error e ↔ first = .error e ∨ ∃ a, first = .ok a ∧ next a = .error e := by
  cases first <;> simp [Except.bind]

/-- What is made of a value is made only if there is one. -/
theorem exists_of_map_eq_ok {ε α β : Type} {first : Except ε α} {f : α → β} {b : β}
    (h : first.map f = .ok b) : ∃ a, first = .ok a ∧ f a = b := by
  cases first with
  | error e => exact nomatch h
  | ok a => exact ⟨a, rfl, Except.ok.inj h⟩

/-- Another form of the reasons changes no value. -/
theorem eq_ok_of_mapError_eq_ok {ε δ α : Type} {first : Except ε α} {f : ε → δ} {a : α}
    (h : first.mapError f = .ok a) : first = .ok a := by
  cases first with
  | error e => exact nomatch h
  | ok b => exact congrArg Except.ok (Except.ok.inj h)

section

variable {ε α β : Type} {step : β → α → Except ε β} {as : List α} {b c : β}

/-- A computation goes on from where its first part got to. -/
theorem foldlM_append_of_ok {more : List α} (h : as.foldlM step b = .ok c) :
    (as ++ more).foldlM step b = more.foldlM step c := by
  rw [List.foldlM_append, h]
  rfl

/-- What each step of a computation preserves, of what it has been through as well, holds at its end. -/
theorem foldlM_induct_done {P : List α → β → Prop} (done : List α)
    (hstep : ∀ done b a c, P done b → step b a = .ok c → P (done ++ [a]) c) (hb : P done b)
    (h : as.foldlM step b = .ok c) : P (done ++ as) c := by
  induction as generalizing b done with
  | nil => rwa [← Except.ok.inj h, List.append_nil]
  | cons a as ih =>
    obtain ⟨next, hnext, h⟩ := exists_of_bind_eq_ok h
    rw [List.append_cons]
    exact ih _ (hstep done b a next hb hnext) h

/-- What each step of a computation preserves holds at its end. -/
theorem foldlM_induct {P : β → Prop} (hstep : ∀ b a c, P b → step b a = .ok c → P c) (hb : P b)
    (h : as.foldlM step b = .ok c) : P c :=
  foldlM_induct_done (P := fun _ => P) [] (fun _ => hstep) hb h

/-- A computation that fails does so at one of its steps, and came there by the steps before. -/
theorem exists_of_foldlM_eq_error {P : List α → β → Prop} {e : ε} (done : List α)
    (hstep : ∀ done b a c, P done b → step b a = .ok c → P (done ++ [a]) c) (hb : P done b)
    (h : as.foldlM step b = .error e) :
    ∃ front a back c, as = front ++ a :: back ∧ P (done ++ front) c ∧ step c a = .error e := by
  induction as generalizing b done with
  | nil => exact nomatch h
  | cons a as ih =>
    rcases bind_eq_error_iff.mp h with h | ⟨next, hnext, h⟩
    · exact ⟨[], a, as, b, rfl, by rwa [List.append_nil], h⟩
    · obtain ⟨front, a', back, c, rfl, hc, he⟩ := ih _ (hstep done b a next hb hnext) h
      refine ⟨a :: front, a', back, c, rfl, ?_, he⟩
      rwa [List.append_cons]

end

end PowerLease
