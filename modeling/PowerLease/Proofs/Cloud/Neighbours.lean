import PowerLease.Proofs.Catalog.Texts
import PowerLease.Proofs.Cloud.Simulated
import PowerLease.Proofs.Installation.Orders
import PowerLease.Rehearsal.Script

/-!
# Neighbours

An order to start or to stop servers is about a set of ids, and what becomes of one of them makes no
difference to the others.

A client of EC2 or of Azure is asked about one machine at a time, and may answer as it likes. It is attended to
here: the calls are written down with their answers. They are the same whatever the answers are
(`attempts_forEachId`).

The simulated cloud does at once what the others do call by call. An order changes exactly the machines that it
reaches (`SimulatedCloud.Reaches`), and leaves none that it would reach again. Until the next report no order
makes one (`SimulatedCloud.Spent`).
-/

namespace PowerLease

/-- The order that sends the servers of some ids to a target. A set is gone through in ascending order. -/
def Order.toward (t : Target) (ids : Finset String) : Order :=
  match t with
  | .on => .start (ids.sort (· ≤ ·))
  | .off => .stop (ids.sort (· ≤ ·))

/-! ## Calls about single machines -/

section

variable {κ γ : Type}

/-- A call about a single machine, and what it was answered. -/
structure PowerCall (κ : Type) where
  /-- Where the machine is to go. -/
  target : Target
  /-- What the client knows the machine by. -/
  subject : κ
  answer : Except ProviderFault Unit

/-- What a call asks for. -/
def PowerCall.request (call : PowerCall κ) : Target × κ := (call.target, call.subject)

/-- A client, and the calls about single machines that were made to it. It answers as it would with nobody
attending. -/
structure Attended (κ γ : Type) where
  client : γ
  calls : List (PowerCall κ)

/-- Makes a call to an attended client. -/
def Attended.call (t : Target) (f : κ → γ → Except ProviderFault Unit × γ) (subject : κ)
    (w : Attended κ γ) : Except ProviderFault Unit × Attended κ γ :=
  let (answer, client) := f subject w.client
  (answer, ⟨client, w.calls ++ [⟨t, subject, answer⟩]⟩)

instance [Ec2Client γ] : Ec2Client (Attended String γ) where
  describe tagKey w :=
    let (described, client) := Ec2Client.describe tagKey w.client
    (described, { w with client })
  start := Attended.call .on Ec2Client.start
  stop := Attended.call .off Ec2Client.stop

instance [AzureClient γ] : AzureClient (Attended VmAddress γ) where
  list w := let (listed, client) := AzureClient.list w.client; (listed, { w with client })
  statuses address w :=
    let (codes, client) := AzureClient.statuses address w.client
    (codes, { w with client })
  start := Attended.call .on AzureClient.start
  deallocate := Attended.call .off AzureClient.deallocate

/-- Makes a call about the subject of an id. About an id without subject none is made. -/
def callFor (subject? : String → Except ProviderFault κ)
    (f : κ → γ → Except ProviderFault Unit × γ) (id : String) (client : γ) :
    Except ProviderFault Unit × γ :=
  match subject? id with
  | .ok subject => f subject client
  | .error fault => (.error fault, client)

/-- Subjects are called about, each once and one after another, and all is well whatever the answers are.
Nobody but the one who attends to the client sees a difference. -/
structure Attempts (t : Target) (subjects : List κ) (run : Except ProviderFault Unit × γ)
    (attended : Except ProviderFault Unit × Attended κ γ) : Prop where
  ok : run.1 = .ok ()
  requests : attended.2.calls.map PowerCall.request = subjects.map fun subject => (t, subject)
  unseen : run = (attended.1, attended.2.client)

/-- Going through ids, exactly those that have a subject are called about. By induction on the ids: a call
leaves another client behind, but the ids that are left are the same. -/
theorem forEachId_attended (subject? : String → Except ProviderFault κ) (t : Target)
    (f : κ → γ → Except ProviderFault Unit × γ) (ids : List String) (w : Attended κ γ) :
    ∃ (calls : List (PowerCall κ)) (client : γ),
      calls.map PowerCall.request =
        (ids.filterMap fun id => (subject? id).toOption).map (fun subject => (t, subject)) ∧
      forEachId (callFor subject? (Attended.call t f)) ids w = (.ok (), ⟨client, w.calls ++ calls⟩) ∧
      forEachId (callFor subject? f) ids w.client = (.ok (), client) := by
  induction ids generalizing w with
  | nil => exact ⟨[], w.client, rfl, by simp [forEachId], rfl⟩
  | cons id rest ih =>
    cases hid : subject? id with
    | error fault =>
      obtain ⟨calls, client, hrequests, hattended, hrun⟩ := ih w
      refine ⟨calls, client, ?_, ?_, ?_⟩
      · rw [hrequests, List.filterMap_cons_none (by rw [hid]; rfl)]
      · simp only [forEachId, callFor, hid]
        exact hattended
      · simp only [forEachId, callFor, hid]
        exact hrun
    | ok subject =>
      obtain ⟨calls, client, hrequests, hattended, hrun⟩ := ih (Attended.call t f subject w).2
      refine ⟨⟨t, subject, (f subject w.client).1⟩ :: calls, client, ?_, ?_, ?_⟩
      · rw [List.map_cons, hrequests, List.filterMap_cons_some (by rw [hid]; rfl)]
        rfl
      · have hcalls : (Attended.call t f subject w).2.calls =
            w.calls ++ [⟨t, subject, (f subject w.client).1⟩] := rfl
        rw [hcalls, List.append_assoc] at hattended
        simp only [forEachId, callFor, hid]
        exact hattended
      · simp only [forEachId, callFor, hid]
        exact hrun

theorem attempts_forEachId (subject? : String → Except ProviderFault κ) (t : Target)
    (f : κ → γ → Except ProviderFault Unit × γ) (ids : List String) (client : γ) :
    Attempts t (ids.filterMap fun id => (subject? id).toOption)
      (forEachId (callFor subject? f) ids client)
      (forEachId (callFor subject? (Attended.call t f)) ids ⟨client, []⟩) := by
  obtain ⟨calls, client', hrequests, hattended, hrun⟩ :=
    forEachId_attended subject? t f ids ⟨client, []⟩
  rw [hattended]
  refine ⟨?_, ?_, ?_⟩
  · rw [hrun]
  · rw [List.nil_append]
    exact hrequests
  · exact hrun

end

namespace Ec2

variable {γ : Type} [Ec2Client γ]

/-- EC2 with its client attended to from now on. -/
def attended (e : Ec2 γ) : Ec2 (Attended String γ) := ⟨⟨e.client, []⟩, e.tagKey⟩

/-- EC2 has every id called about. -/
theorem attempts_toward (t : Target) (ids : Finset String) (e : Ec2 γ) :
    Attempts t (ids.sort (· ≤ ·)) (((Order.toward t ids).give e).map id Ec2.client)
      (((Order.toward t ids).give e.attended).map id Ec2.client) := by
  -- an id is the subject of its calls
  have hsubjects : (ids.sort (· ≤ ·)).filterMap
      (fun id => (Except.ok id : Except ProviderFault String).toOption) = ids.sort (· ≤ ·) :=
    List.filterMap_some
  cases t with
  | on =>
    have h := attempts_forEachId .ok .on Ec2Client.start (ids.sort (· ≤ ·)) e.client
    rw [hsubjects] at h
    exact h
  | off =>
    have h := attempts_forEachId .ok .off Ec2Client.stop (ids.sort (· ≤ ·)) e.client
    rw [hsubjects] at h
    exact h

theorem tagKey_give (order : Order) (e : Ec2 γ) : (order.give e).2.tagKey = e.tagKey := by
  cases order <;> rfl

end Ec2

namespace Azure

variable {γ : Type}

/-- The address of an id is the subject of its calls. -/
theorem callAbout_eq (call : VmAddress → γ → Except ProviderFault Unit × γ) :
    callAbout call = callFor VmAddress.ofId call := by
  funext id client
  unfold callAbout callFor
  cases VmAddress.ofId id <;> rfl

variable [AzureClient γ]

/-- Azure with its client attended to from now on. -/
def attended (a : Azure γ) : Azure (Attended VmAddress γ) := ⟨⟨a.client, []⟩, a.tagKey⟩

/-- The addresses of ids, without those ids that have none. -/
def addresses (ids : Finset String) : List VmAddress :=
  (ids.sort (· ≤ ·)).filterMap fun id => (VmAddress.ofId id).toOption

/-- Azure has every id called about that has an address. -/
theorem attempts_toward (t : Target) (ids : Finset String) (a : Azure γ) :
    Attempts t (addresses ids) (((Order.toward t ids).give a).map id Azure.client)
      (((Order.toward t ids).give a.attended).map id Azure.client) := by
  cases t with
  | on =>
    have h := attempts_forEachId VmAddress.ofId .on AzureClient.start (ids.sort (· ≤ ·)) a.client
    rw [← callAbout_eq, ← callAbout_eq] at h
    exact h
  | off =>
    have h := attempts_forEachId VmAddress.ofId .off AzureClient.deallocate (ids.sort (· ≤ ·)) a.client
    rw [← callAbout_eq, ← callAbout_eq] at h
    exact h

theorem tagKey_give (order : Order) (a : Azure γ) : (order.give a).2.tagKey = a.tagKey := by
  cases order <;> rfl

end Azure

/-! ## A machine of the simulated cloud -/

namespace Machine

variable {failing : List String} {t t' : Target} {ids ids' : Finset String} {m : Machine}

/-- An order toward a target reaches a machine: it is about it, the machine does not fail, and it is where the
way to the target begins. -/
structure IsReached (failing : List String) (t : Target) (ids : Finset String) (m : Machine) : Prop where
  meant : m.id ∈ ids
  works : m.id ∉ failing
  seen : m.shown.state = t.opposite.state

instance : Decidable (IsReached failing t ids m) :=
  decidable_of_iff (m.id ∈ ids ∧ m.id ∉ failing ∧ m.shown.state = t.opposite.state)
    ⟨fun ⟨hmeant, hworks, hseen⟩ => ⟨hmeant, hworks, hseen⟩,
      fun h => ⟨h.meant, h.works, h.seen⟩⟩

/-- A machine on its way to a target. -/
def enRoute (t : Target) (m : Machine) : Machine :=
  { shown := { m.shown with state := .transitioning }, settlesTo := some t }

/-- A machine after an order. -/
def heed (failing : List String) (t : Target) (ids : Finset String) (m : Machine) : Machine :=
  if m.IsReached failing t ids then m.enRoute t else m

theorem heed_of_reached (h : m.IsReached failing t ids) : m.heed failing t ids = m.enRoute t := if_pos h

theorem heed_of_not_reached (h : ¬m.IsReached failing t ids) : m.heed failing t ids = m := if_neg h

/-- No order reaches a machine that is on its way. -/
theorem not_isReached_enRoute (t t' : Target) : ¬(m.enRoute t).IsReached failing t' ids :=
  fun h => t'.opposite.state_ne_transitioning h.seen.symm

/-- An order reaches a machine no more once it was given. -/
theorem not_isReached_heed : ¬(m.heed failing t ids).IsReached failing t ids := by
  by_cases h : m.IsReached failing t ids
  · rw [heed_of_reached h]
    exact not_isReached_enRoute t t
  · rw [heed_of_not_reached h]
    exact h

/-- An order that does not reach a machine does not reach it after another one either. -/
theorem not_isReached_heed_of_not (h : ¬m.IsReached failing t ids) :
    ¬(m.heed failing t' ids').IsReached failing t ids := by
  by_cases h' : m.IsReached failing t' ids'
  · rw [heed_of_reached h']
    exact not_isReached_enRoute t' t
  · rw [heed_of_not_reached h']
    exact h

/-- Two orders that both reach a machine send it to the same target. -/
theorem IsReached.target_eq (h : m.IsReached failing t ids) (h' : m.IsReached failing t' ids') :
    t = t' := by
  have hopposite : t.opposite.state = t'.opposite.state := h.seen.symm.trans h'.seen
  cases t <;> cases t' <;> simp [Target.opposite, Target.state] at hopposite ⊢

/-- It does not matter which of two orders a machine gets first. -/
theorem heed_comm (m : Machine) : (m.heed failing t ids).heed failing t' ids' =
    (m.heed failing t' ids').heed failing t ids := by
  by_cases h : m.IsReached failing t ids
  · by_cases h' : m.IsReached failing t' ids'
    · -- the one that comes first sends it on its way, and it is the same way
      obtain rfl := h.target_eq h'
      rw [heed_of_reached h, heed_of_reached h', heed_of_not_reached (not_isReached_enRoute t t),
        heed_of_not_reached (not_isReached_enRoute t t)]
    · rw [heed_of_not_reached h', heed_of_not_reached (not_isReached_heed_of_not h')]
  · rw [heed_of_not_reached h, heed_of_not_reached (not_isReached_heed_of_not h)]

/-- An order about one more id is that about the id and then that about the others. -/
theorem heed_insert (id : String) (m : Machine) : m.heed failing t (insert id ids) =
    (m.heed failing t {id}).heed failing t ids := by
  by_cases hthis : m.IsReached failing t {id}
  · -- the machine is on its way when the order about the others comes
    have hboth : m.IsReached failing t (insert id ids) :=
      ⟨Finset.mem_insert.mpr (.inl (Finset.mem_singleton.mp hthis.meant)), hthis.works, hthis.seen⟩
    rw [heed_of_reached hthis, heed_of_reached hboth,
      heed_of_not_reached (not_isReached_enRoute t t)]
  · -- a machine of this id that is not reached now is not reached among the others either
    rw [heed_of_not_reached hthis]
    have hiff : m.IsReached failing t (insert id ids) ↔ m.IsReached failing t ids := by
      refine ⟨fun h => ⟨?_, h.works, h.seen⟩, fun h => ⟨?_, h.works, h.seen⟩⟩
      · refine (Finset.mem_insert.mp h.meant).resolve_left fun hid => hthis ?_
        exact ⟨Finset.mem_singleton.mpr hid, h.works, h.seen⟩
      · exact Finset.mem_insert_of_mem h.meant
    unfold heed
    simp only [hiff]

end Machine

/-! ## The simulated cloud -/

namespace SimulatedCloud

variable {t t' : Target} {ids ids' : Finset String} {c : SimulatedCloud}

/-- The cloud after an order. -/
def afterOrder (t : Target) (ids : Finset String) (c : SimulatedCloud) : SimulatedCloud :=
  { c with machines := c.machines.map (Machine.heed c.failing t ids) }

/-- The order is carried out at once, and each machine is as if the order were about it alone. -/
theorem give_toward (t : Target) (ids : Finset String) (c : SimulatedCloud) :
    (Order.toward t ids).give c = (.ok (), c.afterOrder t ids) := by
  have hmachine : ∀ m : Machine, (if c.obeys (ids.sort (· ≤ ·)) m then m.send t.opposite t else m) =
      m.heed c.failing t ids := by
    intro m
    have hobeys : c.obeys (ids.sort (· ≤ ·)) m = true ↔ m.id ∈ ids ∧ m.id ∉ c.failing := by
      rw [obeys_eq_true_iff, Finset.mem_sort]
    by_cases h : m.IsReached c.failing t ids
    · rw [Machine.heed_of_reached h, if_pos (hobeys.mpr ⟨h.meant, h.works⟩), Machine.send,
        if_pos h.seen]
      rfl
    · rw [Machine.heed_of_not_reached h]
      split
      next hobey =>
        obtain ⟨hmeant, hworks⟩ := hobeys.mp hobey
        exact if_neg fun hseen => h ⟨hmeant, hworks, hseen⟩
      next => rfl
  have htransition : c.transition t.opposite t (ids.sort (· ≤ ·)) = c.afterOrder t ids := by
    simp only [transition, afterOrder, hmachine]
  rw [← htransition]
  cases t <;> rfl

/-- The cloud after several orders. -/
def afterOrders (orders : List (Target × Finset String)) (c : SimulatedCloud) : SimulatedCloud :=
  orders.foldl (fun c order => c.afterOrder order.1 order.2) c

/-- An order reaches no machine any more. -/
def Spent (t : Target) (ids : Finset String) (c : SimulatedCloud) : Prop :=
  ∀ m ∈ c.machines, ¬m.IsReached c.failing t ids

theorem spent_afterOrder : (c.afterOrder t ids).Spent t ids := by
  intro m hm
  obtain ⟨n, -, rfl⟩ := List.mem_map.mp hm
  exact Machine.not_isReached_heed

theorem Spent.afterOrder (h : c.Spent t ids) : (c.afterOrder t' ids').Spent t ids := by
  intro m hm
  obtain ⟨n, hn, rfl⟩ := List.mem_map.mp hm
  exact Machine.not_isReached_heed_of_not (h n hn)

theorem Spent.afterOrders (h : c.Spent t ids) (orders : List (Target × Finset String)) :
    (c.afterOrders orders).Spent t ids := by
  induction orders generalizing c with
  | nil => exact h
  | cons order rest ih => exact ih h.afterOrder

theorem Spent.afterOrder_eq (h : c.Spent t ids) : c.afterOrder t ids = c := by
  have hmachines : c.machines.map (Machine.heed c.failing t ids) = c.machines := by
    refine (List.map_congr_left fun m hm => ?_).trans (List.map_id c.machines)
    exact Machine.heed_of_not_reached (h m hm)
  rw [SimulatedCloud.afterOrder, hmachines]

theorem afterOrder_comm (t t' : Target) (ids ids' : Finset String) (c : SimulatedCloud) :
    (c.afterOrder t ids).afterOrder t' ids' = (c.afterOrder t' ids').afterOrder t ids := by
  simp only [afterOrder, List.map_map]
  congr 1
  exact List.map_congr_left fun m _ => Machine.heed_comm m

/-- An order may as well be given for one id after another, in any order and for some more than once. -/
theorem foldl_afterOrder_singleton (t : Target) (l : List String) (c : SimulatedCloud) :
    l.foldl (fun c id => c.afterOrder t {id}) c = c.afterOrder t l.toFinset := by
  induction l generalizing c with
  | nil =>
    have hspent : c.Spent t ∅ := fun m _ h => Finset.notMem_empty m.id h.meant
    exact hspent.afterOrder_eq.symm
  | cons id rest ih =>
    rw [List.foldl_cons, ih, List.toFinset_cons]
    simp only [afterOrder, List.map_map]
    congr 1
    exact List.map_congr_left fun m _ => (Machine.heed_insert id m).symm

/-- What an order does to the simulated cloud, and what it does if it is given otherwise. -/
structure Heeds (t : Target) (ids : Finset String) (c c' : SimulatedCloud) : Prop where
  ok : (Order.toward t ids).give c = (.ok (), c')
  /-- The machines that the order reaches are on their way to the target, and the others as they were. -/
  machines : List.Forall₂
    (fun m m' : Machine => (m.IsReached c.failing t ids → m' = m.enRoute t) ∧
      (¬m.IsReached c.failing t ids → m' = m)) c.machines c'.machines
  failing : c'.failing = c.failing
  unavailable : c'.unavailable = c.unavailable
  oneByOne : ∀ l : List String, l.toFinset = ids →
    l.foldl (fun c id => ((Order.toward t {id}).give c).2) c = c'
  /-- Given again, it changes nothing, whatever else was ordered since. -/
  again : ∀ orders : List (Target × Finset String),
    let d := orders.foldl (fun c order => ((Order.toward order.1 order.2).give c).2) c'
    (Order.toward t ids).give d = (.ok (), d)
  /-- It does not matter which of two orders comes first, even where both are about the same machine. -/
  comm : ∀ (t' : Target) (ids' : Finset String),
    ((Order.toward t' ids').give c').2 =
      ((Order.toward t ids).give ((Order.toward t' ids').give c).2).2

theorem heeds_afterOrder (t : Target) (ids : Finset String) (c : SimulatedCloud) :
    Heeds t ids c (c.afterOrder t ids) where
  ok := give_toward t ids c
  machines := by
    refine List.forall₂_map_right_iff.mpr (List.forall₂_same.mpr fun m _ => ?_)
    exact ⟨Machine.heed_of_reached, Machine.heed_of_not_reached⟩
  failing := rfl
  unavailable := rfl
  oneByOne := by
    rintro l rfl
    simp only [give_toward]
    exact foldl_afterOrder_singleton t l c
  again := by
    intro orders d
    have hspent : Spent t ids d := by
      simp only [d, give_toward]
      exact spent_afterOrder.afterOrders orders
    rw [give_toward, hspent.afterOrder_eq]
  comm t' ids' := by
    simp only [give_toward]
    exact afterOrder_comm t t' ids ids' c

end SimulatedCloud

/-- **A machine that fails does its neighbours no harm.** EC2 and Azure have each id of a set called about
once, in ascending order and whatever was answered before, and answer that all is well; Azure passes over the
ids that have no address. The simulated cloud answers that all is well, and sends exactly the machines on their
way that are meant, that work, and that are where the way begins. -/
theorem spares_neighbours {γ δ : Type} [Ec2Client γ] [AzureClient δ] (t : Target)
    (ids : Finset String) (e : Ec2 γ) (a : Azure δ) (c : SimulatedCloud) :
    let order := Order.toward t ids
    (Attempts t (ids.sort (· ≤ ·)) ((order.give e).map id Ec2.client)
        ((order.give e.attended).map id Ec2.client) ∧ (order.give e).2.tagKey = e.tagKey) ∧
      (Attempts t (Azure.addresses ids) ((order.give a).map id Azure.client)
        ((order.give a.attended).map id Azure.client) ∧ (order.give a).2.tagKey = a.tagKey) ∧
      ∃ c', SimulatedCloud.Heeds t ids c c' := by
  intro order
  refine ⟨⟨e.attempts_toward t ids, e.tagKey_give order⟩,
    ⟨a.attempts_toward t ids, a.tagKey_give order⟩, ?_⟩
  exact ⟨c.afterOrder t ids, c.heeds_afterOrder t ids⟩

open Rehearsal in
/-- The first of two machines cannot be started. The second is started all the same. -/
theorem spares_neighbours_refusedStart :
    let e : Ec2 ScriptedEc2 := ⟨{ script := { failing := ["i-1"] } }, "ez2boot"⟩
    let order := Order.toward .on ["i-2", "i-1"].toFinset
    (order.give e).1 = .ok () ∧
      (order.give e.attended).2.client.calls.map (fun call => (call.subject, call.answer)) =
        [("i-1", .error (.api "start i-1 refused")), ("i-2", .ok ())] := by
  intro e order
  have hids : ["i-2", "i-1"].toFinset.sort (· ≤ ·) = ["i-1", "i-2"] := by
    rw [Catalog.sort_toFinset]
    decide
  obtain ⟨⟨hattempts, -⟩, -⟩ := spares_neighbours .on ["i-2", "i-1"].toFinset e
    (⟨{}, "ez2boot"⟩ : Azure ScriptedAzure) .empty
  refine ⟨hattempts.ok, ?_⟩
  simp only [order, Order.toward, hids]
  rfl

end PowerLease
