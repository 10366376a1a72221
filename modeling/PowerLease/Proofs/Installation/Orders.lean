import PowerLease.Proofs.Installation.Managing
import PowerLease.Rehearsal.Script

/-!
# What the provider is told

The orders that managing gives to a provider, of which nothing is known: it may refuse any order, and
do what it likes with those that it takes. What it is told is seen by watching it: a watched provider
answers as it would unwatched, and every order is written down with its answer.

The catalog selects servers by what is seen and what is wanted of them. In a consistent catalog these are
the servers of leased and of released groups (`Catalog.wants_idsPending`). Which orders are given depends on
the catalog alone, and what managing answers depends on the answers to them alone (`manage_orders`).
-/

namespace PowerLease

variable {σ ν : Type} {c : Catalog}

/-! ## Watching a provider -/

/-- What a provider is told. -/
inductive Order where
  | start (ids : List String)
  | stop (ids : List String)
deriving DecidableEq, Repr

namespace Order

/-- Whom an order is about. -/
def ids : Order → List String
  | start ids | stop ids => ids

/-- Gives an order to a provider. -/
def give [Provider σ] : Order → σ → Except ProviderFault Unit × σ
  | start ids => Provider.start ids
  | stop ids => Provider.stop ids

/-- The orders to start and to stop servers. There is none that is about nobody. -/
def due (toStart toStop : List String) : List Order :=
  [start toStart, stop toStop].filter fun order => !order.ids.isEmpty

end Order

/-- An order, and what it was answered. -/
structure Call where
  order : Order
  answer : Except ProviderFault Unit

/-- A provider, and the orders that it was given. -/
structure Watched (σ : Type) where
  cloud : σ
  calls : List Call

/-- Gives an order to a watched provider. -/
def Watched.tell [Provider σ] (order : Order) (w : Watched σ) :
    Except ProviderFault Unit × Watched σ :=
  let (answer, cloud) := order.give w.cloud
  (answer, ⟨cloud, w.calls ++ [⟨order, answer⟩]⟩)

instance [Provider σ] : Provider (Watched σ) where
  name w := Provider.name w.cloud
  scrape w := let (reported, cloud) := Provider.scrape w.cloud; (reported, { w with cloud })
  start ids := Watched.tell (.start ids)
  stop ids := Watched.tell (.stop ids)

namespace Call

/-- The fault in an answer. -/
def fault? (call : Call) : Option ProviderFault :=
  match call.answer with
  | .ok _ => none
  | .error fault => some fault

theorem fault?_eq_none_iff {call : Call} : call.fault? = none ↔ call.answer = .ok () := by
  obtain ⟨order, answer⟩ := call
  cases answer <;> simp [fault?]

/-- What calls come to: the first fault in their answers, or else a value. -/
def outcome {α : Type} (value : α) (calls : List Call) : Except ProviderFault α :=
  match calls.findSome? fault? with
  | none => .ok value
  | some fault => .error fault

variable {α : Type} {value : α} {calls before after : List Call} {order : Order}
  {fault : ProviderFault}

theorem outcome_eq_ok_iff (value : α) :
    outcome value calls = .ok value ↔ ∀ call ∈ calls, call.answer = .ok () := by
  simp only [← fault?_eq_none_iff, ← List.findSome?_eq_none_iff, outcome]
  cases calls.findSome? fault? <;> simp

theorem outcome_of_first_fault (h : ∀ call ∈ before, call.answer = .ok ()) :
    outcome value (before ++ ⟨order, .error fault⟩ :: after) = .error fault := by
  have hbefore : before.findSome? fault? = none :=
    List.findSome?_eq_none_iff.mpr fun call hcall => fault?_eq_none_iff.mpr (h call hcall)
  rw [outcome, List.findSome?_append, hbefore]
  rfl

/-- What calls and further calls come to: the first fault in either, or else both values. -/
theorem outcome_append {β γ : Type} (f : α → β → γ) (b : β) (calls' : List Call) :
    outcome (f value b) (calls ++ calls') =
      match outcome value calls, outcome b calls' with
      | .ok a, .ok b => .ok (f a b)
      | .error fault, _ => .error fault
      | .ok _, .error fault => .error fault := by
  unfold outcome
  rw [List.findSome?_append]
  cases calls.findSome? fault? <;> cases calls'.findSome? fault? <;> rfl

end Call

/-! ## Handing ids over -/

open Reconciler

/-- Handing ids over to a provider is one order, or none if there are no ids. Whether the provider is
watched makes no difference to it. -/
theorem handOver_watched [Provider σ] (order : List String → Order) (hids : ∀ l, (order l).ids = l)
    (ids : List String) (w : Watched σ) :
    ∃ (calls : List Call) (cloud : σ),
      calls.map Call.order = [order ids].filter (fun order => !order.ids.isEmpty) ∧
      handOver (fun ids => Watched.tell (order ids)) ids w =
        (Call.outcome ids calls, ⟨cloud, w.calls ++ calls⟩) ∧
      handOver (fun ids => (order ids).give) ids w.cloud = (Call.outcome ids calls, cloud) := by
  cases ids with
  | nil =>
    refine ⟨[], w.cloud, ?_, ?_, rfl⟩
    · simp [hids]
    · rw [handOver, List.append_nil]
      rfl
  | cons id rest =>
    cases hgive : (order (id :: rest)).give w.cloud with
    | mk answer cloud =>
      refine ⟨[⟨order (id :: rest), answer⟩], cloud, ?_, ?_, ?_⟩
      · simp [hids]
      · simp only [handOver, Watched.tell, hgive]
        cases answer <;> rfl
      · simp only [handOver, hgive]
        cases answer <;> rfl

/-- Managing gives the orders that are due, whatever the answers, and is the same if nobody watches. -/
theorem manage_watched [Provider σ] (c : Catalog) (w : Watched σ) (network : ν) :
    ∃ (calls : List Call) (cloud : σ),
      calls.map Call.order = Order.due (c.idsPending .off .on) (c.idsPending .on .off) ∧
      Installation.manage ⟨w, .opened c, network⟩ =
        ((Call.outcome ⟨c.idsPending .off .on, c.idsPending .on .off⟩ calls).mapError .provider,
          ⟨⟨cloud, w.calls ++ calls⟩, .opened c, network⟩) ∧
      Installation.manage ⟨w.cloud, .opened c, network⟩ =
        ((Call.outcome ⟨c.idsPending .off .on, c.idsPending .on .off⟩ calls).mapError .provider,
          ⟨cloud, .opened c, network⟩) := by
  obtain ⟨starts, mid, hstarts, hstart, hstart'⟩ :=
    handOver_watched Order.start (fun _ => rfl) (c.idsPending .off .on) w
  obtain ⟨stops, cloud, hstops, hstop, hstop'⟩ :=
    handOver_watched Order.stop (fun _ => rfl) (c.idsPending .on .off) ⟨mid, w.calls ++ starts⟩
  replace hstart : handOver Provider.start (c.idsPending .off .on) w = _ := hstart
  replace hstart' : handOver Provider.start (c.idsPending .off .on) w.cloud = _ := hstart'
  replace hstop : handOver Provider.stop (c.idsPending .on .off)
    (⟨mid, w.calls ++ starts⟩ : Watched σ) = _ := hstop
  replace hstop' : handOver Provider.stop (c.idsPending .on .off) mid = _ := hstop'
  refine ⟨starts ++ stops, cloud, ?_, ?_, ?_⟩
  · rw [List.map_append, hstarts, hstops]
    exact (List.filter_append ..).symm
  · simp only [Installation.manage, Reconciler.manage, Store.ask, hstart, hstop,
      Call.outcome_append ManageReport.mk, List.append_assoc]
    cases Call.outcome (c.idsPending .off .on) starts <;>
      cases Call.outcome (c.idsPending .on .off) stops <;> rfl
  · simp only [Installation.manage, Reconciler.manage, Store.ask, hstart', hstop',
      Call.outcome_append ManageReport.mk]
    cases Call.outcome (c.idsPending .off .on) starts <;>
      cases Call.outcome (c.idsPending .on .off) stops <;> rfl

/-! ## Whom the orders are about -/

namespace Catalog

/-- Two lists of ids are those of the servers to start and to stop: of the servers that are off in a
group with a live session, and of those that are on in a group with an ended one. -/
structure Wants (c : Catalog) (toStart toStop : List String) : Prop where
  mem_start_iff : ∀ id, id ∈ toStart ↔ ∃ v ∈ c.servers, v.id = id ∧ v.state = .off ∧
    ∃ s ∈ c.sessions, s.group = v.group ∧ s.ended = false
  mem_stop_iff : ∀ id, id ∈ toStop ↔ ∃ v ∈ c.servers, v.id = id ∧ v.state = .on ∧
    ∃ s ∈ c.sessions, s.group = v.group ∧ s.ended = true
  start_ascending : toStart.Pairwise (· < ·)
  stop_ascending : toStop.Pairwise (· < ·)
  disjoint : toStart.Disjoint toStop
  /-- Servers that are between on and off are left alone, and so are those of groups that nobody
  leased. -/
  leased : ∀ v ∈ c.servers, v.id ∈ toStart ++ toStop →
    v.state ≠ .transitioning ∧ ∃ s ∈ c.sessions, s.group = v.group

theorem ascending_idsPending (hids : (c.servers.map Server.id).Nodup) (state : PowerState)
    (target : Target) : (c.idsPending state target).Pairwise (· < ·) := by
  have hsorted : (c.idsPending state target).Pairwise (· ≤ ·) := by
    refine (List.pairwise_mergeSort (fun a b d => ?_) (fun a b => ?_) _).imp of_decide_eq_true
    · simpa only [decide_eq_true_eq] using String.le_trans
    · simpa only [Bool.or_eq_true, decide_eq_true_eq] using String.le_total a b
  have hdistinct : (c.idsPending state target).Nodup := by
    refine (List.mergeSort_perm _ _).nodup_iff.mpr ?_
    exact hids.sublist (List.filter_sublist.map _)
  exact hsorted.imp₂ (fun _ _ => Std.lt_of_le_of_ne) hdistinct

section

variable (hc : c.Consistent) {state : PowerState} {t : Target}
include hc

/-- What is wanted of a server is told by the session of its group. -/
theorem mem_idsPending_iff_session {id : String} : id ∈ c.idsPending state t ↔
    ∃ v ∈ c.servers, v.id = id ∧ v.state = state ∧
      ∃ s ∈ c.sessions, s.group = v.group ∧ s.target = t := by
  rw [mem_idsPending]
  refine exists_congr fun v => and_congr_right fun hv => and_congr_right fun _ =>
    and_congr_right fun _ => ⟨hc.exists_session hv, ?_⟩
  rintro ⟨s, hs, hg, rfl⟩
  exact hc.target_of_session hv hs hg

/-- A server is found by its id, so what is known of an id is known of its server. -/
theorem seen_of_mem_idsPending {v : Server} (hv : v ∈ c.servers) (hid : v.id ∈ c.idsPending state t) :
    v.state = state ∧ ∃ s ∈ c.sessions, s.group = v.group := by
  obtain ⟨w, hw, hwid, hstate, s, hs, hg, -⟩ := (mem_idsPending_iff_session hc).mp hid
  rw [← hc.server_eq_of_id hw hv hwid]
  exact ⟨hstate, s, hs, hg⟩

/-- The servers that are selected by what is seen and what is wanted of them are those of leased and of
released groups. -/
theorem wants_idsPending : c.Wants (c.idsPending .off .on) (c.idsPending .on .off) where
  mem_start_iff id := by
    have hlive : ∀ s : Session, s.target = .on ↔ s.ended = false := fun s => by
      cases hs : s.ended <;> simp [Session.target, hs]
    simp only [mem_idsPending_iff_session hc, hlive]
  mem_stop_iff id := by
    have hended : ∀ s : Session, s.target = .off ↔ s.ended = true := fun s => by
      cases hs : s.ended <;> simp [Session.target, hs]
    simp only [mem_idsPending_iff_session hc, hended]
  start_ascending := ascending_idsPending hc.serverIds .off .on
  stop_ascending := ascending_idsPending hc.serverIds .on .off
  disjoint := by
    intro id hstart hstop
    obtain ⟨v, hv, rfl, hoff, -⟩ := mem_idsPending.mp hstart
    have hon := (seen_of_mem_idsPending hc hv hstop).1
    exact absurd (hoff.symm.trans hon) (by decide)
  leased v hv hid := by
    rcases List.mem_append.mp hid with hid | hid
    · obtain ⟨hoff, hsession⟩ := seen_of_mem_idsPending hc hv hid
      exact ⟨fun hmoving => absurd (hoff.symm.trans hmoving) (by decide), hsession⟩
    · obtain ⟨hon, hsession⟩ := seen_of_mem_idsPending hc hv hid
      exact ⟨fun hmoving => absurd (hon.symm.trans hmoving) (by decide), hsession⟩

end

end Catalog

/-! ## A managing step -/

namespace Installation

/-- The installation with its provider watched from now on. -/
def watched (i : Installation σ ν) : Installation (Watched σ) ν := ⟨⟨i.cloud, []⟩, i.store, i.network⟩

/-- The installation with nobody watching its provider. -/
def unwatched (i : Installation (Watched σ) ν) : Installation σ ν :=
  ⟨i.cloud.cloud, i.store, i.network⟩

/-- The calls of a managing step. -/
def managingCalls [Provider σ] (i : Installation σ ν) : List Call := i.watched.manage.2.cloud.calls

/-- A managing step orders the servers of one list to be started and those of another to be stopped. -/
structure Orders [Provider σ] (i : Installation σ ν) (toStart toStop : List String) : Prop where
  /-- It makes no difference to the step that its calls are written down. -/
  unseen : i.manage = (i.watched.manage.1, i.watched.manage.2.unwatched)
  /-- The orders are the same whatever the answers. -/
  orders : i.managingCalls.map Call.order = Order.due toStart toStop
  ok_iff : i.manage.1 = .ok ⟨toStart, toStop⟩ ↔ ∀ call ∈ i.managingCalls, call.answer = .ok ()
  first_fault : ∀ before order fault after,
    i.managingCalls = before ++ ⟨order, .error fault⟩ :: after →
    (∀ call ∈ before, call.answer = .ok ()) → i.manage.1 = .error (.provider fault)
  store : i.manage.2.store = i.store

theorem orders_idsPending [Provider σ] (c : Catalog) (cloud : σ) (network : ν) :
    (Installation.mk cloud (.opened c) network).Orders (c.idsPending .off .on)
      (c.idsPending .on .off) := by
  obtain ⟨calls, cloud', horders, hwatched, hmanage⟩ := manage_watched c ⟨cloud, []⟩ network
  set i := Installation.mk cloud (.opened c) network
  have hstep : i.watched.manage = _ := hwatched
  have hplain : i.manage = _ := hmanage
  have hcalls : i.managingCalls = calls := by
    rw [managingCalls, hstep]
    rfl
  refine ⟨?_, ?_, ?_, ?_, ?_⟩
  · rw [hplain, hstep]
    rfl
  · rw [hcalls, horders]
  · rw [hcalls, hplain, ← Call.outcome_eq_ok_iff (ManageReport.mk _ _)]
    cases Call.outcome _ calls <;> simp [Except.mapError]
  · intro before order fault after hsplit hbefore
    rw [hplain, ← hcalls, hsplit, Call.outcome_of_first_fault hbefore]
    rfl
  · rw [hplain]

end Installation

/-- **Managing gives exactly the orders that the leases ask for.** In any history of a catalog, and
whatever the provider does, managing has it start the servers that are off in a group with a live session
and then stop those that are on in a group with an ended one: each in one order, or in none if there are
no such servers, and the second also if the first was refused. It answers with the two lists if no order
was refused, and otherwise with the first refusal. It leaves the catalog as it is, so managing again gives
the same orders. -/
theorem manage_orders [Provider σ] {past : List Catalog} (h : Catalog.History (c :: past)) (cloud : σ)
    (network : ν) :
    let i : Installation σ ν := ⟨cloud, .opened c, network⟩
    let toStart := c.idsPending .off .on
    let toStop := c.idsPending .on .off
    c.Wants toStart toStop ∧ i.Orders toStart toStop ∧ i.manage.2.Orders toStart toStop := by
  intro i toStart toStop
  refine ⟨Catalog.wants_idsPending h.consistent, Installation.orders_idsPending c cloud network, ?_⟩
  obtain ⟨calls, cloud', -, -, hmanage⟩ := manage_watched c ⟨cloud, []⟩ network
  have hplain : i.manage = _ := hmanage
  rw [hplain]
  exact Installation.orders_idsPending c cloud' network

/-- A catalog with a group that is leased, one that was released, and one that never was leased. -/
def handover : Catalog :=
  (Transaction.openSession ⟨"digest", "u1", "u1@example.com", "alpha", 3600⟩ 20).run <|
    (Transaction.endSession "beta" 10).run <|
    (Transaction.openSession ⟨"digest", "u1", "u1@example.com", "beta", 3600⟩ 0).run <|
    (Transaction.sync [⟨"i-1", "web", "alpha", .off⟩, ⟨"i-2", "db", "alpha", .off⟩,
      ⟨"i-3", "mail", "alpha", .transitioning⟩, ⟨"i-4", "web", "beta", .on⟩,
      ⟨"i-5", "web", "gamma", .off⟩] 0).run .empty

open Rehearsal in
/-- The provider refuses to start anything. -/
theorem manage_orders_refusedStart :
    let cloud : ScriptedCloud := { script := { startFault := some (.unavailable "throttled") } }
    let i : Installation ScriptedCloud Unit := ⟨cloud, .opened handover, ()⟩
    i.managingCalls.map Call.order = [.start ["i-1", "i-2"], .stop ["i-4"]] ∧
      i.manage.1 = .error (.provider (.unavailable "throttled")) := by
  intro cloud i
  have h : ∃ past, Catalog.History (handover :: past) :=
    ⟨_, .next _ (.next _ (.next _ (.next _ .start nofun) nofun) nofun) nofun⟩
  obtain ⟨past, h⟩ := h
  obtain ⟨-, horders, -⟩ := manage_orders h cloud ()
  have hstart : handover.idsPending .off .on = ["i-1", "i-2"] := by
    rw [Catalog.idsPending, List.mergeSort_of_pairwise (by decide)]
    decide
  have hstop : handover.idsPending .on .off = ["i-4"] := by
    rw [Catalog.idsPending, List.mergeSort_of_pairwise (by decide)]
    decide
  rw [hstart, hstop] at horders
  have hcalls : i.managingCalls = [⟨.start ["i-1", "i-2"], .error (.unavailable "throttled")⟩,
      ⟨.stop ["i-4"], .ok ()⟩] := by
    simp only [Installation.managingCalls, Installation.manage, Reconciler.manage,
      Installation.watched, i, Store.ask, hstart, hstop]
    rfl
  refine ⟨horders.orders, horders.first_fault [] _ _ _ hcalls fun call hcall => ?_⟩
  exact absurd hcall List.not_mem_nil

end PowerLease
