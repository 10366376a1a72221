import PowerLease.Proofs.Interleaving.Tenancy
import PowerLease.Proofs.Interleaving.Undisturbed
import PowerLease.Proofs.Lifecycle.Quiet
import PowerLease.Proofs.Lifecycle.Tally

/-!
# What is due in a tick

What a tick is to do to a session can be told from the catalog in front of it (`Lifecycle.Due`), and what it
has done from the row that the session was and the row that is left of it (`Act.made`). In a tick that comes
to its end the two are the same (`Lifecycle.made_fate_iff`).

A stage reads a catalog that the stages before it have changed. Still, it reads those sessions to which it
is due to do something (`Lifecycle.toEnd_eq` and the others), as far as the stages before it have brought
them.
-/

namespace PowerLease

/-- Whether something was done to a session, told from the row that it was and the row that is left of it,
if one is. An end is an end also where the row is deleted at once, and has an announcement of its own. -/
def Act.made (before : Session) (after : Option Session) : Act → Bool
  | opened => false
  | extended => after.any fun s => s.expiry != before.expiry
  | ended => !before.ended && after.all Session.ended
  | warned => !before.warned && after.any Session.warned
  | announced =>
    (before.unannounced || !before.ended && after.all Session.ended) &&
      after.all fun s => !s.unannounced
  | toldOff => !before.offTold && after.all Session.offTold
  | toldReady => !before.readyTold && after.any Session.readyTold
  | deleted => after.isNone

namespace Lifecycle

/-- What a tick is to do to a session that it finds in a catalog. -/
def Due (window : Duration) (now : Int) (c : Catalog) (s : Session) : Act → Prop
  | .opened | .extended => False
  | .ended => s.ended = false ∧ s.expiry < now
  | .warned =>
    s.ended = false ∧ now ≤ s.expiry ∧ s.expiry < threshold window now ∧ s.warned = false
  | .announced => s.unannounced = true ∨ s.ended = false ∧ s.expiry < now
  | .toldOff =>
    s.offTold = false ∧ (s.ended = true ∨ s.expiry < now) ∧
      ∀ v ∈ c.servers, v.group = s.group → v.state = .off
  | .deleted =>
    (s.ended = true ∨ s.expiry < now) ∧ ∀ v ∈ c.servers, v.group = s.group → v.state = .off
  | .toldReady =>
    s.ended = false ∧ now ≤ s.expiry ∧ s.readyTold = false ∧ (∃ v ∈ c.servers, v.group = s.group) ∧
      ∀ v ∈ c.servers, v.group = s.group → v.state = .on

variable {c : Catalog} {s : Session} {window : Duration} {now : Int} {a : Act}

/-- **What a tick that comes to its end does to a session is what is due.** -/
theorem made_fate_iff : a.made s (fate window now c s) = true ↔ Due window now c s a := by
  have hon : c.allSeen s.group .on = true ↔ ∀ v ∈ c.servers, v.group = s.group → v.state = .on :=
    Catalog.allSeen_iff
  have hgroup : c.hasGroup s.group = true ↔ ∃ v ∈ c.servers, v.group = s.group :=
    Catalog.hasGroup_iff
  cases hfate : fate window now c s with
  | none =>
    -- it is deleted, so it was over and its servers were off
    obtain ⟨hover, hall⟩ := fate_eq_none_iff.mp hfate
    cases a <;> grind [Act.made, Due]
  | some s' =>
    have hnot : ¬((s.ended = true ∨ s.expiry < now) ∧
        ∀ v ∈ c.servers, v.group = s.group → v.state = .off) := by
      rw [← fate_eq_none_iff, hfate]
      exact nofun
    obtain ⟨hover, -, rfl⟩ | ⟨hlive, hnow, rfl⟩ := fate_cases hfate
    · cases a <;> grind [Act.made, Due, Session.end, Session.announce]
    · cases a <;> grind [Act.made, Due]

/-- Whether a tick that comes to its end does something to a session. -/
def does (window : Duration) (now : Int) (c : Catalog) (a : Act) (s : Session) : Bool :=
  a.made s (fate window now c s)

theorem does_iff : does window now c a s = true ↔ Due window now c s a := made_fate_iff

/-! ## What the stages read -/

theorem toEnd_eq : toEnd now c = c.activeSessions.filter (does window now c .ended) := by
  refine List.filter_congr fun s hs => ?_
  have hlive := (mem_activeSessions.mp hs).2
  rw [Bool.eq_iff_iff, does_iff, isExpired_iff]
  exact ⟨fun hover => ⟨hlive, hover⟩, And.right⟩

theorem toWarn_eq : toWarn window now c = c.activeSessions.filter (does window now c .warned) := by
  refine List.filter_congr fun s hs => ?_
  have hlive := (mem_activeSessions.mp hs).2
  rw [Bool.eq_iff_iff, does_iff, isAging_iff]
  exact ⟨fun haging => ⟨hlive, haging⟩, And.right⟩

section

variable (hc : c.Consistent) (h : (tick window now c).aborted = false)
include hc h

theorem sessionsToAnnounce_expired : (expired window now c).sessionsToAnnounce =
    (c.sessions.filter (does window now c .announced)).map (endOrWarn window now) := by
  have hrows : (expired window now c).sessions = c.sessions.map (endOrWarn window now) :=
    sessions_expireAndWarn (p := { catalog := c }) hc (not_aborted_of_tick h).1
  rw [Catalog.sessionsToAnnounce, hrows, List.filter_map]
  refine congrArg _ (List.filter_congr fun s _ => ?_)
  rw [Bool.eq_iff_iff, does_iff, Function.comp_apply, endOrWarn]
  grind [Due, Session.end, Session.warn, isExpired_iff]

theorem sessionsToClean_announced : (announced window now c).sessionsToClean =
    (c.sessions.filter (does window now c .deleted)).map fun s => (endOrWarn window now s).announce := by
  have hrows : (announced window now c).sessions =
      c.sessions.map fun s => (endOrWarn window now s).announce := (announced_tick hc h).2
  rw [Catalog.sessionsToClean, hrows, List.filter_map]
  refine congrArg _ (List.filter_congr fun s hs => ?_)
  refine (toClean_announced hc h hs).trans ?_
  rw [Bool.eq_iff_iff, does_iff, Bool.and_eq_true, Bool.or_eq_true, isExpired_iff,
    Catalog.allSeen_iff]
  rfl

theorem sessionsReady_cleaned : (cleaned window now c).sessionsReady =
    (c.sessions.filter (does window now c .toldReady)).map fun s =>
      (endOrWarn window now s).announce := by
  have hrows := sessions_cleaned hc h
  have hgroup : ∀ g, (cleaned window now c).hasGroup g = c.hasGroup g := fun _ =>
    (continues_cleaned hc window now).hasGroup_eq
  rw [Catalog.sessionsReady, show (cleaned window now c).sessions = _ from hrows, List.filter_filter,
    List.filter_map]
  refine congrArg _ (List.filter_congr fun s hs => ?_)
  rw [Function.comp_apply, toClean_announced hc h hs, Bool.eq_iff_iff, does_iff]
  cases hover : s.ended || isExpired now s with
  | true =>
    have hended : (endOrWarn window now s).announce.ended = true := ended_endOrWarn.trans hover
    have hlate : ¬(s.ended = false ∧ now ≤ s.expiry) := fun hlive =>
      Bool.false_ne_true ((isOver_iff.mpr hlive).symm.trans hover)
    simp only [hended, Due]
    grind
  | false =>
    obtain ⟨hlive, hnow⟩ := isOver_iff.mp hover
    have hsettled : (cleaned window now c).isSettled s.group .on = c.allSeen s.group .on :=
      isSettled_cleaned hc h hs hover
    have hon : c.allSeen s.group .on = true ↔ ∀ v ∈ c.servers, v.group = s.group → v.state = .on :=
      Catalog.allSeen_iff
    simp only [announce_endOrWarn_of_live hover, hgroup, hsettled, Due, hlive, hnow]
    simp [Catalog.hasGroup_iff, hon, and_assoc]

end

/-! ## What the report counts -/

/-- In whatever order the live sessions are read, as many of them are picked. -/
theorem length_filter_activeSessions {pick : Session → Bool}
    (hlive : ∀ s, pick s = true → s.ended = false) :
    (c.activeSessions.filter pick).length = c.sessions.countP pick := by
  rw [← List.countP_eq_length_filter, Catalog.activeSessions, (List.mergeSort_perm _ _).countP_eq,
    List.countP_filter]
  refine List.countP_congr fun s _ => ?_
  simp only [Bool.and_eq_true, Bool.not_eq_true']
  exact ⟨And.left, fun hpick => ⟨hpick, hlive s hpick⟩⟩

/-- A holder is told that the servers are off on the deletion, if not before. -/
theorem does_toldOff : does window now c .toldOff s = (does window now c .deleted s && !s.offTold) := by
  rw [Bool.eq_iff_iff, Bool.and_eq_true, does_iff, does_iff, Bool.not_eq_true', and_comm]
  rfl

theorem offTold_endOrWarn : (endOrWarn window now s).offTold = s.offTold := by
  unfold endOrWarn
  split_ifs <;> rfl

/-- **The report of a tick that comes to its end counts what was done.** -/
theorem count_eq_does (hc : c.Consistent) (h : (tick window now c).aborted = false) (a : Act) :
    (tick window now c).report.count a = c.sessions.countP (does window now c a) := by
  have hended : (toEnd now c).length = c.sessions.countP (does window now c .ended) := by
    rw [toEnd_eq]
    exact length_filter_activeSessions fun s hs => (does_iff.mp hs).1
  have hwarned : (toWarn window now c).length = c.sessions.countP (does window now c .warned) := by
    rw [toWarn_eq]
    exact length_filter_activeSessions fun s hs => (does_iff.mp hs).1
  have hoff : (announced window now c).sessionsToClean.countP (fun r => !r.offTold) =
      c.sessions.countP (does window now c .toldOff) := by
    have htold : ∀ s, (endOrWarn window now s).announce.offTold = s.offTold := fun _ =>
      offTold_endOrWarn
    rw [sessionsToClean_announced hc h, List.countP_map, List.countP_filter]
    refine List.countP_congr fun s _ => ?_
    rw [Function.comp_apply, htold, does_toldOff, Bool.and_comm]
  have hnever : ∀ a, (∀ s, ¬Due window now c s a) → c.sessions.countP (does window now c a) = 0 :=
    fun a hdue => List.countP_eq_zero.mpr fun s _ hs => hdue s (does_iff.mp hs)
  rw [count_tick hc h, sessionsToAnnounce_expired hc h, sessionsReady_cleaned hc h]
  unfold cleanupCounts
  cases a with
  | opened => simp [hnever .opened fun _ => id]
  | extended => simp [hnever .extended fun _ => id]
  | ended => simp [hended]
  | warned => simp [hwarned]
  | announced | toldReady => simp [List.countP_eq_length_filter]
  | toldOff => simp [hoff]
  | deleted =>
    rw [sessionsToClean_announced hc h]
    simp [List.countP_eq_length_filter]

end Lifecycle
end PowerLease
