import Mathlib.Data.List.Nodup
import PowerLease.Cloud.Simulated
import PowerLease.Proofs.Catalog.Texts

/-!
# Machines of the simulated cloud

Machines stand in the order of their ids, whatever is done to the cloud (`Ordered`), so an id is one
machine. A machine that is told to start or to stop is on its way until the next report, and shows
neither where it was nor where it is going; what it showed before can still be told (`Machine.lastSeen`).
-/

namespace PowerLease

/-- Where the way to a target begins. -/
def Target.opposite : Target → Target
  | .on => .off
  | .off => .on

theorem Target.state_ne_transitioning (t : Target) : t.state ≠ .transitioning := by
  cases t <;> exact PowerState.noConfusion

/-- What is on no way is at a target or where the way to it begins. -/
theorem Target.seen_cases {state : PowerState} (h : state ≠ .transitioning) (t : Target) :
    state = t.state ∨ state = t.opposite.state := by
  cases state with
  | transitioning => exact absurd rfl h
  | on | off => cases t <;> simp [Target.state, Target.opposite]

theorem Target.opposite_ne (t : Target) : t.opposite.state ≠ t.state := by
  cases t <;> exact PowerState.noConfusion

namespace Machine

variable {m : Machine}

/-! ## A single machine -/

/-- Whether a machine is on, or on its way there. -/
def isRunning (m : Machine) : Bool :=
  m.shown.state == .on || m.shown.state == .transitioning && m.settlesTo == some .on

theorem isRunning_iff : m.isRunning = true ↔
    m.shown.state = .on ∨ m.shown.state = .transitioning ∧ m.settlesTo = some .on := by
  simp [isRunning]

/-- A machine that is on or off, and on no way. -/
structure IsStill (m : Machine) : Prop where
  arrived : m.settlesTo = none
  seen : m.shown.state ≠ .transitioning

/-- What the last report showed of a machine: where its way begins, if it is on one. -/
def lastSeen (m : Machine) : PowerState :=
  match m.settlesTo with
  | none => m.shown.state
  | some t => t.opposite.state

/-- A machine that shows that it is on its way as long as it is. -/
def IsCoherent (m : Machine) : Prop := m.shown.state = .transitioning ↔ m.settlesTo ≠ none

theorem id_settle (m : Machine) : m.settle.id = m.id := by
  unfold settle
  split <;> rfl

theorem group_settle (m : Machine) : m.settle.shown.group = m.shown.group := by
  unfold settle
  split <;> rfl

theorem id_send (source target : Target) (m : Machine) : (m.send source target).id = m.id := by
  unfold send
  split <;> rfl

theorem group_send (source target : Target) (m : Machine) :
    (m.send source target).shown.group = m.shown.group := by
  unfold send
  split <;> rfl

/-- A machine that was sent on its way is not sent again. -/
theorem send_send (source target : Target) (m : Machine) :
    (m.send source target).send source target = m.send source target := by
  by_cases h : m.shown.state = source.state
  · have hmoving : (m.send source target).shown.state = .transitioning := by
      rw [send, if_pos h]
    exact if_neg (hmoving ▸ source.state_ne_transitioning.symm)
  · have hsame : m.send source target = m := if_neg h
    rw [hsame, hsame]

theorem settle_of_still (h : m.IsStill) : m.settle = m := by
  unfold settle
  rw [h.arrived]

/-- Where every way has an end, a report finds all machines still. -/
theorem isStill_settle (h : m.shown.state = .transitioning → m.settlesTo ≠ none) :
    m.settle.IsStill := by
  unfold settle
  split
  next t _ =>
    exact ⟨rfl, t.state_ne_transitioning⟩
  next hnone => exact ⟨hnone, fun hmoving => h hmoving hnone⟩

/-- A machine that is sent on its way is there after the next report. -/
theorem state_settle_send {source target : Target} (h : m.shown.state = source.state) :
    (m.send source target).settle.shown.state = target.state := by
  rw [send, if_pos h]
  rfl

theorem IsStill.isCoherent (h : m.IsStill) : m.IsCoherent :=
  ⟨fun hmoving => absurd hmoving h.seen, fun hon => absurd h.arrived hon⟩

theorem isCoherent_send {source target : Target} (h : m.IsCoherent) :
    (m.send source target).IsCoherent := by
  unfold send
  split
  · exact ⟨fun _ => Option.some_ne_none _, fun _ => rfl⟩
  · exact h

theorem lastSeen_of_still (h : m.IsStill) : m.lastSeen = m.shown.state := by
  rw [lastSeen, h.arrived]

theorem IsCoherent.arrived (h : m.IsCoherent) (hseen : m.shown.state ≠ .transitioning) :
    m.settlesTo = none := by
  by_contra hmoving
  exact hseen (h.mpr hmoving)

/-- Being sent on its way does not change what the last report showed of a machine. -/
theorem lastSeen_send (h : m.IsCoherent) (t : Target) :
    (m.send t.opposite t).lastSeen = m.lastSeen := by
  unfold send
  split
  next hseen =>
    have hnone : m.settlesTo = none :=
      h.arrived (hseen ▸ t.opposite.state_ne_transitioning)
    rw [lastSeen, lastSeen, hnone]
    exact hseen.symm
  next => rfl

/-- A machine that runs although it was last seen off is coming up. -/
theorem settlesTo_of_running (h : m.IsCoherent) (hrun : m.isRunning = true)
    (hseen : m.lastSeen = .off) : m.settlesTo = some .on := by
  rcases isRunning_iff.mp hrun with hon | ⟨-, hgoing⟩
  · have hnone : m.settlesTo = none := h.arrived (hon ▸ PowerState.noConfusion)
    rw [lastSeen, hnone, hon] at hseen
    exact PowerState.noConfusion hseen
  · exact hgoing

theorem isRunning_settle (h : m.IsCoherent) (hrun : m.settle.isRunning = true) :
    m.isRunning = true := by
  unfold settle at hrun
  split at hrun
  next t ht =>
    have hmoving : m.shown.state = .transitioning := h.mpr (ht ▸ Option.some_ne_none t)
    cases t with
    | on => exact isRunning_iff.mpr (Or.inr ⟨hmoving, ht⟩)
    | off => simp [isRunning, Target.state] at hrun
  next => exact hrun

end Machine

namespace SimulatedCloud

variable {c : SimulatedCloud} {m n : Machine} {l : List Machine}

/-! ## The order of the machines -/

/-- The machines stand in the order of their ids, one for each. -/
def Ordered (c : SimulatedCloud) : Prop := c.machines.Pairwise fun a b => a.id < b.id

theorem mem_place (h : n ∈ place m l) : n = m ∨ n ∈ l := by
  induction l with
  | nil => exact Or.inl (List.mem_singleton.mp h)
  | cons k rest ih =>
    rw [place] at h
    split at h
    · exact List.mem_cons.mp h
    split at h
    · exact (List.mem_cons.mp h).imp_right (List.mem_cons_of_mem k)
    · rcases List.mem_cons.mp h with rfl | h
      · exact Or.inr List.mem_cons_self
      · exact (ih h).imp_right (List.mem_cons_of_mem k)

/-- A machine is put in its place, and the one that had its id is gone. -/
theorem mem_place_iff (h : l.Pairwise fun a b => a.id < b.id) :
    n ∈ place m l ↔ n = m ∨ n ∈ l ∧ n.id ≠ m.id := by
  induction l with
  | nil => simp [place]
  | cons k rest ih =>
    obtain ⟨hk, hrest⟩ := List.pairwise_cons.mp h
    rw [place]
    split
    next hlt =>
      -- all that is there has a later id
      have hlater : ∀ x ∈ k :: rest, x.id ≠ m.id := by
        intro x hx
        rcases List.mem_cons.mp hx with rfl | hx
        · exact (String.ne_of_lt hlt).symm
        · exact (String.ne_of_lt (String.lt_trans hlt (hk x hx))).symm
      rw [List.mem_cons]
      exact or_congr_right (iff_self_and.mpr (hlater n))
    next hnot =>
      split
      next heq =>
        have hothers : ∀ x ∈ rest, x.id ≠ m.id :=
          fun x hx => heq ▸ (String.ne_of_lt (hk x hx)).symm
        rw [List.mem_cons, List.mem_cons]
        refine or_congr_right ⟨fun hn => ⟨Or.inr hn, hothers n hn⟩, ?_⟩
        rintro ⟨rfl | hn, hne⟩
        · exact absurd heq.symm hne
        · exact hn
      next hne =>
        rw [List.mem_cons, ih hrest, List.mem_cons]
        constructor
        · rintro (rfl | rfl | ⟨hn, hid⟩)
          · exact Or.inr ⟨Or.inl rfl, fun hid => hne hid.symm⟩
          · exact Or.inl rfl
          · exact Or.inr ⟨Or.inr hn, hid⟩
        · rintro (rfl | ⟨rfl | hn, hid⟩)
          · exact Or.inr (Or.inl rfl)
          · exact Or.inl rfl
          · exact Or.inr (Or.inr ⟨hn, hid⟩)

/-- The ids of the machines are a set, to which a machine adds its own. -/
theorem ids_place (m : Machine) (l : List Machine) :
    (place m l).map Machine.id = Catalog.insertText m.id (l.map Machine.id) := by
  induction l with
  | nil => rfl
  | cons n rest ih =>
    rw [place, List.map_cons, Catalog.insertText]
    split
    next => rfl
    next =>
      split
      next heq => rw [List.map_cons, heq]
      next => rw [List.map_cons, ih]

theorem pairwise_place (h : l.Pairwise fun a b => a.id < b.id) :
    (place m l).Pairwise fun a b => a.id < b.id := by
  rw [← List.pairwise_map (R := (· < ·)), ids_place]
  exact Catalog.pairwise_insertText (List.pairwise_map.mpr h)

theorem Ordered.nodup (h : c.Ordered) : (c.machines.map Machine.id).Nodup :=
  List.pairwise_map.mpr (List.Pairwise.imp String.ne_of_lt h)

theorem Ordered.map (h : c.Ordered) {f : Machine → Machine} (hf : ∀ m, (f m).id = m.id) :
    Ordered { c with machines := c.machines.map f } := by
  refine List.pairwise_map.mpr (List.Pairwise.imp (fun {a b} hab => ?_) h)
  rw [hf, hf]
  exact hab

theorem Ordered.put (h : c.Ordered) (i : Instance) : (c.put i).Ordered := pairwise_place h

theorem Ordered.remove (h : c.Ordered) (id : String) : (c.remove id).2.Ordered :=
  List.Pairwise.filter _ h

theorem obeys_eq_true_iff {ids : List String} :
    c.obeys ids m = true ↔ m.id ∈ ids ∧ m.id ∉ c.failing := by
  simp [obeys]

/-- An order does not change the id of a machine. -/
theorem id_ordered (c : SimulatedCloud) (source target : Target) (ids : List String) (m : Machine) :
    (if c.obeys ids m then m.send source target else m).id = m.id := by
  split
  · exact m.id_send source target
  · rfl

theorem Ordered.transition (h : c.Ordered) (source target : Target) (ids : List String) :
    (c.transition source target ids).Ordered :=
  h.map (c.id_ordered source target ids)

theorem Ordered.scrape (h : c.Ordered) : c.scrape.2.Ordered := by
  unfold SimulatedCloud.scrape
  split
  · exact h
  · exact h.map Machine.id_settle

/-- The cloud shows the state of the machine of an id. -/
theorem Ordered.stateOf (h : c.Ordered) (hm : m ∈ c.machines) :
    c.stateOf m.id = some m.shown.state := by
  unfold SimulatedCloud.stateOf
  cases hf : c.machines.find? fun n => n.id == m.id with
  | none => exact absurd (List.find?_eq_none.mp hf m hm) (by simp)
  | some n =>
    have hid : n.id = m.id := by simpa using List.find?_some hf
    rw [List.inj_on_of_nodup_map h.nodup (List.mem_of_find?_eq_some hf) hm hid]
    rfl

/-- What holds of the cloud without machines and is kept by adding one holds of any new cloud. -/
theorem ofInstances_induct {P : SimulatedCloud → Prop} (hempty : P empty)
    (instances : List Instance) (hput : ∀ c, ∀ i ∈ instances, P c → P (c.put i)) :
    P (ofInstances instances) :=
  List.foldlRecOn (motive := P) _ _ hempty fun c hc i hi => hput c i hi hc

theorem ordered_ofInstances (instances : List Instance) : (ofInstances instances).Ordered :=
  ofInstances_induct List.Pairwise.nil instances fun _ i _ hc => hc.put i

/-- A new cloud has only the machines that it is made of, and none of them is on its way. -/
theorem mem_ofInstances {instances : List Instance} (hm : m ∈ (ofInstances instances).machines) :
    m.shown ∈ instances ∧ m.settlesTo = none := by
  have hall : ∀ m ∈ (ofInstances instances).machines, m.shown ∈ instances ∧ m.settlesTo = none := by
    refine ofInstances_induct (P := fun c => ∀ m ∈ c.machines, m.shown ∈ instances ∧
      m.settlesTo = none) (fun m hm => absurd hm List.not_mem_nil) instances fun c i hi hc m hm => ?_
    rcases mem_place hm with rfl | hm
    · exact ⟨hi, rfl⟩
    · exact hc m hm
  exact hall m hm

theorem failing_ofInstances (instances : List Instance) : (ofInstances instances).failing = [] :=
  ofInstances_induct (P := fun c => c.failing = []) rfl instances fun _ _ _ hc => hc

theorem unavailable_ofInstances (instances : List Instance) :
    (ofInstances instances).unavailable = false :=
  ofInstances_induct (P := fun c => c.unavailable = false) rfl instances fun _ _ _ hc => hc

end SimulatedCloud
end PowerLease
