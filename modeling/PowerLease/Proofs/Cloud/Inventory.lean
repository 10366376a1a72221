import Mathlib.Data.Finset.Sort
import PowerLease.Proofs.Cloud.Simulated
import PowerLease.Proofs.Installation.Reached

/-!
# The inventory of the simulated cloud

The simulated cloud has its machines in a list. An inventory has them under keys, in an ordered map, and is
changed under one key after another: a machine that is put goes under the id it is put with, an order looks
for each of its ids in turn, and nothing says what id a machine has that is found under a key.

Whatever is done to both, the inventory holds the cloud (`Inventory.Holds`): under each key is the machine of
this id, and going through the keys in order is going through the machines.
-/

namespace PowerLease

/-- The cloud after one change after another. -/
def CloudChange.runAll (changes : List CloudChange) (c : SimulatedCloud) : SimulatedCloud :=
  changes.foldl (fun c change => change.run c) c

/-- Machines under keys. -/
structure Inventory where
  entries : Std.TreeMap String Machine
  /-- The keys under which nothing starts or stops. -/
  failing : Finset String
  unavailable : Bool

namespace Inventory

/-- The inventory of some instances. Of several with one id the last is kept. -/
def ofInstances (instances : List Instance) : Inventory :=
  ⟨.ofList (instances.map fun i => (i.id, Machine.mk i none)), ∅, false⟩

/-- Sends what is under a key from one target to another. Keys that are failing or unknown, and machines that
are elsewhere, are passed over. -/
def send (source target : Target) (v : Inventory) (key : String) : Inventory :=
  if key ∈ v.failing then v
  else { v with entries := v.entries.modify key (Machine.send source target) }

/-- The inventory after a change. -/
def run : CloudChange → Inventory → Inventory
  | .put i, v => { v with entries := v.entries.insert i.id ⟨i, none⟩ }
  | .remove id, v => { v with entries := v.entries.erase id }
  | .setFailing id fails, v =>
    { v with failing := if fails then insert id v.failing else v.failing.erase id }
  | .setUnavailable refuses, v => { v with unavailable := refuses }
  | .scrape, v =>
    if v.unavailable then v else { v with entries := v.entries.map fun _ => Machine.settle }
  | .start ids, v => ids.foldl (send .off .on) v
  | .stop ids, v => ids.foldl (send .on .off) v

/-- The inventory after one change after another. -/
def runAll (changes : List CloudChange) (v : Inventory) : Inventory :=
  changes.foldl (fun v change => run change v) v

/-! ## Orders -/

variable {v : Inventory} {c : SimulatedCloud} {source target : Target}

theorem getElem?_send (key other : String) :
    (v.send source target key).entries[other]? = v.entries[other]?.map fun m =>
      if key = other ∧ other ∉ v.failing then m.send source target else m := by
  unfold send
  split
  next hfails =>
    have hnot : ¬(key = other ∧ other ∉ v.failing) := fun ⟨heq, hworks⟩ => hworks (heq ▸ hfails)
    simp only [if_neg hnot, Option.map_id']
  next hworks =>
    rw [Std.TreeMap.getElem?_modify]
    by_cases heq : key = other
    · subst heq
      simp [hworks]
    · simp [heq]

theorem failing_send (key : String) : (v.send source target key).failing = v.failing := by
  unfold send
  split <;> rfl

theorem unavailable_send (key : String) :
    (v.send source target key).unavailable = v.unavailable := by
  unfold send
  split <;> rfl

/-- An order is about a set of keys: it makes no difference in which order they come, and how often. -/
theorem getElem?_foldl_send (ids : List String) (v : Inventory) (key : String) :
    (ids.foldl (send source target) v).entries[key]? = v.entries[key]?.map fun m =>
      if key ∈ ids ∧ key ∉ v.failing then m.send source target else m := by
  induction ids generalizing v with
  | nil => simp
  | cons id rest ih =>
    rw [List.foldl_cons, ih, getElem?_send, Option.map_map, failing_send]
    congr 1
    funext m
    by_cases hworks : key ∈ v.failing
    · simp [hworks]
    · by_cases hid : id = key
      · subst hid
        -- the id may come again, but the machine is on its way then
        simp [hworks, Machine.send_send]
      · simp [hworks, hid, Ne.symm hid]

theorem failing_foldl_send (ids : List String) (v : Inventory) :
    (ids.foldl (send source target) v).failing = v.failing :=
  List.foldlRecOn (motive := fun w : Inventory => w.failing = v.failing) _ _ rfl
    fun _ h id _ => (failing_send id).trans h

theorem unavailable_foldl_send (ids : List String) (v : Inventory) :
    (ids.foldl (send source target) v).unavailable = v.unavailable :=
  List.foldlRecOn (motive := fun w : Inventory => w.unavailable = v.unavailable) _ _ rfl
    fun _ h id _ => (unavailable_send id).trans h

/-! ## Holding a cloud -/

theorem pairwise_toList (v : Inventory) : v.entries.toList.Pairwise fun a b => a.1 < b.1 :=
  Std.TreeMap.ordered_keys_toList.imp compare_lt_iff_lt.mp

/-- The machines of a cloud, each with its id. -/
def byId (c : SimulatedCloud) : List (String × Machine) := c.machines.map fun m => (m.id, m)

theorem mem_byId {key : String} {m : Machine} : (key, m) ∈ byId c ↔ m ∈ c.machines ∧ m.id = key := by
  rw [byId, List.mem_map]
  constructor
  · rintro ⟨n, hn, heq⟩
    obtain ⟨hid, rfl⟩ := Prod.mk.inj heq
    exact ⟨hn, hid⟩
  · rintro ⟨hm, rfl⟩
    exact ⟨m, hm, rfl⟩

/-- Two lists in the order of their keys are the same if they have the same entries. -/
theorem toList_eq_byId (hc : c.Ordered)
    (h : ∀ key m, v.entries[key]? = some m ↔ m ∈ c.machines ∧ m.id = key) :
    v.entries.toList = byId c := by
  have hmachines : (byId c).Pairwise fun a b => a.1 < b.1 := List.pairwise_map.mpr hc
  have hnodup : ∀ l : List (String × Machine), (l.Pairwise fun a b => a.1 < b.1) → l.Nodup :=
    fun l hl => hl.imp fun hlt heq => String.ne_of_lt hlt (congrArg Prod.fst heq)
  have hperm : v.entries.toList.Perm (byId c) := by
    refine (List.perm_ext_iff_of_nodup (hnodup _ v.pairwise_toList) (hnodup _ hmachines)).mpr ?_
    rintro ⟨key, m⟩
    rw [Std.TreeMap.mem_toList_iff_getElem?_eq_some, h, mem_byId]
  refine hperm.eq_of_pairwise ?_ v.pairwise_toList hmachines
  exact fun a b _ _ hab hba => absurd (String.lt_trans hab hba) (String.lt_irrefl _)

/-- An inventory holds a cloud: its entries are the machines, each under its id. -/
structure Holds (v : Inventory) (c : SimulatedCloud) : Prop where
  entries : v.entries.toList = byId c
  failing : ∀ id, id ∈ v.failing ↔ id ∈ c.failing
  unavailable : v.unavailable = c.unavailable

namespace Holds

theorem ordered (h : v.Holds c) : c.Ordered := by
  have hentries := v.pairwise_toList
  rw [h.entries, byId, List.pairwise_map] at hentries
  exact hentries

theorem getElem?_iff (h : v.Holds c) {key : String} {m : Machine} :
    v.entries[key]? = some m ↔ m ∈ c.machines ∧ m.id = key := by
  rw [← Std.TreeMap.mem_toList_iff_getElem?_eq_some, h.entries, mem_byId]

theorem put (h : v.Holds c) (i : Instance) : (run (.put i) v).Holds (c.put i) where
  entries := by
    refine toList_eq_byId (h.ordered.put i) fun key m => ?_
    have hplace : m ∈ (c.put i).machines ↔ m = ⟨i, none⟩ ∨ m ∈ c.machines ∧ m.id ≠ i.id :=
      SimulatedCloud.mem_place_iff h.ordered
    have hinsert : (run (.put i) v).entries[key]? =
        if i.id = key then some ⟨i, none⟩ else v.entries[key]? := by
      simp [run, Std.TreeMap.getElem?_insert]
    rw [hinsert, hplace]
    split
    next heq =>
      constructor
      · rintro ⟨⟩
        exact ⟨Or.inl rfl, heq⟩
      · rintro ⟨rfl | ⟨-, hne⟩, hid⟩
        · rfl
        · exact absurd (hid.trans heq.symm) hne
    next hne =>
      rw [h.getElem?_iff]
      constructor
      · rintro ⟨hm, hid⟩
        exact ⟨Or.inr ⟨hm, fun heq => hne (heq.symm.trans hid)⟩, hid⟩
      · rintro ⟨rfl | ⟨hm, -⟩, hid⟩
        · exact absurd hid hne
        · exact ⟨hm, hid⟩
  failing := h.failing
  unavailable := h.unavailable

theorem remove (h : v.Holds c) (id : String) : (run (.remove id) v).Holds (c.remove id).2 where
  entries := by
    refine toList_eq_byId (h.ordered.remove id) fun key m => ?_
    have hkept : m ∈ (c.remove id).2.machines ↔ m ∈ c.machines ∧ m.id ≠ id := by
      simp [SimulatedCloud.remove]
    have herase : (run (.remove id) v).entries[key]? =
        if id = key then none else v.entries[key]? := by
      simp [run, Std.TreeMap.getElem?_erase]
    rw [herase, hkept]
    split
    next heq =>
      refine iff_of_false (Option.some_ne_none m).symm ?_
      rintro ⟨⟨-, hne⟩, hid⟩
      exact hne (hid.trans heq.symm)
    next hne =>
      rw [h.getElem?_iff]
      constructor
      · rintro ⟨hm, hid⟩
        exact ⟨⟨hm, fun heq => hne (heq.symm.trans hid)⟩, hid⟩
      · rintro ⟨⟨hm, -⟩, hid⟩
        exact ⟨hm, hid⟩
  failing := h.failing
  unavailable := h.unavailable

/-- What is done to each machine is done to each entry, if it keeps the ids. -/
theorem map (h : v.Holds c) {f : Machine → Machine} (hf : ∀ m, (f m).id = m.id) {w : Inventory}
    (hentries : ∀ key : String, w.entries[key]? = v.entries[key]?.map f) (hfailing : w.failing = v.failing)
    (hunavailable : w.unavailable = v.unavailable) :
    w.Holds { c with machines := c.machines.map f } where
  entries := by
    refine toList_eq_byId (h.ordered.map hf) fun key m => ?_
    rw [hentries, Option.map_eq_some_iff, List.mem_map]
    constructor
    · rintro ⟨n, hn, rfl⟩
      obtain ⟨hmem, hid⟩ := h.getElem?_iff.mp hn
      exact ⟨⟨n, hmem, rfl⟩, (hf n).trans hid⟩
    · rintro ⟨⟨n, hmem, rfl⟩, hid⟩
      exact ⟨n, h.getElem?_iff.mpr ⟨hmem, (hf n).symm.trans hid⟩, rfl⟩
  failing id := by rw [hfailing, h.failing]
  unavailable := hunavailable.trans h.unavailable

theorem transition (h : v.Holds c) (source target : Target) (ids : List String) :
    (ids.foldl (send source target) v).Holds (c.transition source target ids) := by
  refine h.map (c.id_ordered source target ids) (fun key => ?_) (failing_foldl_send ids v)
    (unavailable_foldl_send ids v)
  rw [getElem?_foldl_send]
  refine Option.map_congr fun m hm => ?_
  -- the machine is asked for its id, the entry for its key
  obtain ⟨-, rfl⟩ := h.getElem?_iff.mp hm
  simp only [SimulatedCloud.obeys_eq_true_iff, h.failing]

theorem scrape (h : v.Holds c) : (run .scrape v).Holds c.scrape.2 := by
  rw [run, h.unavailable]
  unfold SimulatedCloud.scrape
  split
  · exact h
  · exact h.map Machine.id_settle (fun key => Std.TreeMap.getElem?_map) rfl
      h.unavailable.symm

theorem setFailing (h : v.Holds c) (id : String) (fails : Bool) :
    (run (.setFailing id fails) v).Holds (c.setFailing id fails) where
  entries := h.entries
  failing other := by
    cases fails with
    | true =>
      by_cases heq : other = id <;> simp [run, SimulatedCloud.setFailing, h.failing, heq]
    | false => simp [run, SimulatedCloud.setFailing, h.failing, and_comm]
  unavailable := h.unavailable

theorem run (h : v.Holds c) (change : CloudChange) : (run change v).Holds (change.run c) := by
  cases change with
  | put i => exact h.put i
  | remove id => exact h.remove id
  | setFailing id fails => exact h.setFailing id fails
  | setUnavailable refuses => exact ⟨h.entries, h.failing, rfl⟩
  | scrape => exact h.scrape
  | start ids => exact h.transition .off .on ids
  | stop ids => exact h.transition .on .off ids

theorem runAll (h : v.Holds c) (changes : List CloudChange) :
    (runAll changes v).Holds (CloudChange.runAll changes c) := by
  induction changes generalizing v c with
  | nil => exact h
  | cons change rest ih => exact ih (h.run change)

end Holds

/-- A new inventory holds the new cloud of the same instances, also if they repeat ids. -/
theorem holds_ofInstances (instances : List Instance) :
    (ofInstances instances).Holds (.ofInstances instances) := by
  have hempty : Holds ⟨∅, ∅, false⟩ .empty := ⟨rfl, by simp [SimulatedCloud.empty], rfl⟩
  -- the instances that are yet to come are put into any inventory that holds the cloud so far
  have hall : ∀ (v : Inventory) (c : SimulatedCloud), v.Holds c →
      Holds { v with entries := v.entries.insertMany (instances.map fun i => (i.id, Machine.mk i none)) }
        (instances.foldl (fun c i => c.put i) c) := by
    induction instances with
    | nil =>
      intro v c h
      rw [List.map_nil, Std.TreeMap.insertMany_nil]
      exact h
    | cons i rest ih =>
      intro v c h
      rw [List.map_cons, Std.TreeMap.insertMany_cons]
      exact ih _ _ (h.put i)
  rw [ofInstances, Std.TreeMap.ofList_eq_insertMany_empty]
  exact hall _ _ hempty

end Inventory
end PowerLease
