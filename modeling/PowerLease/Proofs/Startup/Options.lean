import PowerLease.CommandLine

/-!
# What the command line lets through

Whatever options the command line and the environment give, and in whichever way they are written, their
values are tested: in arguments that are accepted no path is empty and every duration has some length
(`proper_read`). Arguments are only ever changed by `Arguments.set`, so it is enough that this preserves
the property, and that all that is done with arguments goes through it.
-/

namespace PowerLease.CommandLine

/-- Arguments whose values have passed their tests. -/
structure Arguments.Proper (a : Arguments) : Prop where
  path : ∀ p, some p ∈ [a.config, a.database, a.fixture] → p ≠ ""
  duration : ∀ d, some d ∈ [a.scrapeInterval, a.internalClock, a.warningWindow] → d.isZero = false

theorem ne_empty_of_pathValue {v p : String} (h : pathValue v = .ok p) : p ≠ "" := by
  unfold pathValue at h
  split at h
  · exact nomatch h
  · next hempty =>
    obtain rfl := Except.ok.inj h
    simpa using hempty

theorem isZero_of_durationValue {v : String} {d : Duration} (h : durationValue v = .ok d) :
    d.isZero = false := by
  unfold durationValue at h
  split at h
  · next hread =>
    obtain rfl := Except.ok.inj h
    exact Duration.isZero_of_readPositive hread
  · exact nomatch h

variable {environment : List (String × String)} {a b : Arguments} {st after : State} {key : Key}
  {v : String}

/-- **A value that is taken over has passed its test.** -/
theorem proper_set (ha : a.Proper) (h : a.set key v = .ok b) : b.Proper := by
  obtain ⟨hpath, hduration⟩ := ha
  cases key with
  | provider | tagKey | logLevel =>
    obtain rfl := Except.ok.inj h
    exact ⟨hpath, hduration⟩
  | config | database | fixture =>
    obtain ⟨p, hp, h⟩ := exists_of_bind_eq_ok h
    obtain rfl := Except.ok.inj h
    have hempty := ne_empty_of_pathValue hp
    refine ⟨?_, hduration⟩
    simp only [List.mem_cons, List.not_mem_nil, or_false, Option.some.injEq] at hpath ⊢
    grind
  | scrapeInterval | internalClock | warningWindow =>
    obtain ⟨d, hd, h⟩ := exists_of_bind_eq_ok h
    obtain rfl := Except.ok.inj h
    have hzero := isZero_of_durationValue hd
    refine ⟨hpath, ?_⟩
    simp only [List.mem_cons, List.not_mem_nil, or_false, Option.some.injEq] at hduration ⊢
    grind

theorem proper_accept (hst : st.arguments.Proper) (h : st.accept key v = .ok after) :
    after.arguments.Proper := by
  unfold State.accept at h
  split at h
  · exact nomatch h
  · obtain ⟨a, ha, h⟩ := exists_of_bind_eq_ok h
    obtain rfl := Except.ok.inj h
    exact proper_set hst ha

theorem proper_settle (hst : st.arguments.Proper) (h : st.settle = .ok after) :
    after.arguments.Proper := by
  unfold State.settle at h
  split at h
  · exact Except.ok.inj h ▸ hst
  · exact nomatch h
  · exact proper_accept hst h

theorem proper_takeLong {name : String} {attached : Option String} (hst : st.arguments.Proper)
    (h : st.takeLong name attached = .ok after) : after.arguments.Proper := by
  unfold State.takeLong at h
  split at h
  · obtain ⟨settled, hsettled, h⟩ := exists_of_bind_eq_ok h
    have hproper := proper_settle hst hsettled
    split at h
    · exact proper_accept hproper h
    · exact Except.ok.inj h ▸ hproper
  · split at h
    · split at h
      · exact nomatch h
      · obtain ⟨settled, hsettled, h⟩ := exists_of_bind_eq_ok h
        have hproper := proper_settle hst hsettled
        -- of the switches, only one leads on
        split at h
        · exact nomatch h
        · split at h
          · exact nomatch h
          · split at h
            · exact nomatch h
            · obtain rfl := Except.ok.inj h
              exact ⟨hproper.path, hproper.duration⟩
    · exact nomatch h

theorem takeShort_ne_ok (names : List Char) : st.takeShort names ≠ .ok after := by
  intro h
  unfold State.takeShort at h
  split at h
  · obtain ⟨_, _, h⟩ := exists_of_bind_eq_ok h
    exact nomatch h
  · obtain ⟨_, _, h⟩ := exists_of_bind_eq_ok h
    exact nomatch h
  · exact nomatch h

theorem proper_take {argument : String} (hst : st.arguments.Proper) (h : st.take argument = .ok after) :
    after.arguments.Proper := by
  unfold State.take at h
  split at h
  · exact nomatch h
  · split at h
    · exact Except.ok.inj h ▸ hst
    · exact proper_takeLong hst h
    · exact absurd h (takeShort_ne_ok _)
    · split at h
      · exact Except.ok.inj h ▸ hst
      · exact nomatch h

theorem proper_lookUp (hst : st.arguments.Proper) (h : st.lookUp environment key = .ok after) :
    after.arguments.Proper := by
  unfold State.lookUp at h
  split at h
  · exact Except.ok.inj h ▸ hst
  · split at h
    · exact Except.ok.inj h ▸ hst
    · exact proper_accept hst h

/-- **Arguments that are accepted have passed their tests.** -/
theorem proper_read {arguments : List String} (h : read arguments environment = .ok a) : a.Proper := by
  obtain ⟨taken, htaken, h⟩ := exists_of_bind_eq_ok h
  obtain ⟨settled, hsettled, h⟩ := exists_of_bind_eq_ok h
  obtain ⟨lookedUp, hlookedUp, h⟩ := exists_of_bind_eq_ok h
  obtain rfl := Except.ok.inj h
  have hstart : Arguments.Proper {} := ⟨by simp, by simp⟩
  have htakenProper : taken.arguments.Proper :=
    foldlM_induct (P := fun st => st.arguments.Proper) (fun _ _ _ => proper_take) hstart htaken
  exact foldlM_induct (P := fun st => st.arguments.Proper) (fun _ _ _ => proper_lookUp)
    (proper_settle htakenProper hsettled) hlookedUp

end PowerLease.CommandLine
