import PowerLease.Proofs.Cloud.Inventory

/-!
# How the machines of the simulated cloud move

A machine leaves the state that it shows in three ways, and in no other (`Moves`): an instance is put in its
place, an order reaches it where the way begins, or a report finds that it is going somewhere.

This takes two things that hold whatever was done to the cloud. An id is one machine (`Ordered`), so a change
meets only the machine that it is about. And a machine that is going somewhere shows that it is on its way
(`Honest`), so a report moves it for good: after the report no machine is going anywhere, and the next report
is the same one.
-/

namespace PowerLease

namespace Machine

variable {m : Machine}

/-- A machine that is going somewhere shows that it is on its way. -/
def IsHonest (m : Machine) : Prop := ∀ t, m.settlesTo = some t → m.shown.state = .transitioning

theorem isHonest_of_arrived (h : m.settlesTo = none) : m.IsHonest := by
  intro t ht
  rw [h] at ht
  exact nomatch ht

theorem isHonest_send {source target : Target} (h : m.IsHonest) :
    (m.send source target).IsHonest := by
  unfold send
  split
  · exact fun _ _ => rfl
  · exact h

/-- Where a machine will be at the next report. -/
def nextState (m : Machine) : PowerState := (m.settlesTo.map Target.state).getD m.shown.state

/-- What the next report says of a machine. -/
def nextShown (m : Machine) : Instance := { m.shown with state := m.nextState }

theorem settle_eq (m : Machine) : m.settle = ⟨m.nextShown, none⟩ := by
  obtain ⟨shown, settlesTo⟩ := m
  cases settlesTo <;> rfl

theorem nextState_of_some {t : Target} (h : m.settlesTo = some t) : m.nextState = t.state := by
  rw [nextState, h]
  rfl

/-- Where an honest machine is going it is not yet. -/
theorem nextState_ne_iff (h : m.IsHonest) :
    m.nextState ≠ m.shown.state ↔ ∃ t, m.settlesTo = some t := by
  cases hgoing : m.settlesTo with
  | none => simp [nextState, hgoing]
  | some t =>
    refine iff_of_true ?_ ⟨t, rfl⟩
    rw [nextState_of_some hgoing, h t hgoing]
    exact t.state_ne_transitioning

end Machine

namespace SimulatedCloud

variable {c : SimulatedCloud} {m : Machine}

/-! ## Machines that show that they are on their way -/

/-- All machines that are going somewhere show that they are on their way. -/
def Honest (c : SimulatedCloud) : Prop := ∀ m ∈ c.machines, m.IsHonest

theorem Honest.put (h : c.Honest) (i : Instance) : (c.put i).Honest := by
  intro m hm
  rcases mem_place hm with rfl | hm
  · exact Machine.isHonest_of_arrived rfl
  · exact h m hm

theorem Honest.map (h : c.Honest) {f : Machine → Machine}
    (hf : ∀ m : Machine, m.IsHonest → (f m).IsHonest) :
    Honest { c with machines := c.machines.map f } := by
  intro m hm
  obtain ⟨n, hn, rfl⟩ := List.mem_map.mp hm
  exact hf n (h n hn)

theorem Honest.transition (h : c.Honest) (source target : Target) (ids : List String) :
    (c.transition source target ids).Honest := by
  refine h.map fun m hm => ?_
  split
  · exact Machine.isHonest_send hm
  · exact hm

theorem Honest.run (h : c.Honest) (change : CloudChange) : (change.run c).Honest := by
  cases change with
  | put i => exact h.put i
  | remove id => exact fun m hm => h m (List.mem_of_mem_filter hm)
  | setFailing | setUnavailable => exact h
  | scrape =>
    simp only [CloudChange.run, SimulatedCloud.scrape]
    split
    · exact h
    · refine h.map fun m _ => ?_
      rw [m.settle_eq]
      exact Machine.isHonest_of_arrived rfl
  | start ids => exact h.transition .off .on ids
  | stop ids => exact h.transition .on .off ids

theorem honest_runAll (instances : List Instance) (changes : List CloudChange) :
    (CloudChange.runAll changes (.ofInstances instances)).Honest := by
  refine List.foldlRecOn (motive := Honest) changes _ ?_ fun c h change _ => h.run change
  exact fun m hm => Machine.isHonest_of_arrived (mem_ofInstances hm).2

/-! ## What a machine shows after a change -/

theorem stateOf_put (h : c.Ordered) (hm : m ∈ c.machines) (i : Instance) :
    (c.put i).stateOf m.id = some (if i.id = m.id then i.state else m.shown.state) := by
  have hput := h.put i
  split
  next heq =>
    have hplaced : (⟨i, none⟩ : Machine) ∈ (c.put i).machines :=
      (mem_place_iff h).mpr (Or.inl rfl)
    rw [← heq]
    exact hput.stateOf hplaced
  next hne =>
    have hkept : m ∈ (c.put i).machines :=
      (mem_place_iff h).mpr (Or.inr ⟨hm, fun heq => hne heq.symm⟩)
    exact hput.stateOf hkept

theorem stateOf_remove (h : c.Ordered) (hm : m ∈ c.machines) (id : String) :
    (c.remove id).2.stateOf m.id = if id = m.id then none else some m.shown.state := by
  split
  next heq => simp [stateOf, remove, heq, List.find?_eq_none]
  next hne =>
    refine (h.remove id).stateOf (List.mem_filter.mpr ⟨hm, ?_⟩)
    simpa using fun heq => hne heq.symm

theorem stateOf_map (h : c.Ordered) (hm : m ∈ c.machines) {f : Machine → Machine}
    (hf : ∀ m, (f m).id = m.id) :
    stateOf m.id { c with machines := c.machines.map f } = some (f m).shown.state := by
  have hstate := (h.map hf).stateOf (List.mem_map_of_mem hm)
  rw [hf] at hstate
  exact hstate

theorem stateOf_transition (h : c.Ordered) (hm : m ∈ c.machines) (source target : Target)
    (ids : List String) : (c.transition source target ids).stateOf m.id =
      some (if (m.id ∈ ids ∧ m.id ∉ c.failing) ∧ m.shown.state = source.state then .transitioning
        else m.shown.state) := by
  refine (stateOf_map h hm (c.id_ordered source target ids)).trans (congrArg some ?_)
  simp only [← obeys_eq_true_iff, ite_and]
  split
  · rw [Machine.send]
    split <;> rfl
  · rfl

/-! ## Reports -/

/-- A report of a cloud, and the cloud that it leaves. -/
structure Reports (c : SimulatedCloud) (report : List Instance) (c' : SimulatedCloud) : Prop where
  /-- Each machine is reported, where it was going. -/
  each : report = c.machines.map Machine.nextShown
  /-- No id is reported twice. -/
  ascending : report.Pairwise fun i j => i.id < j.id
  /-- The machines are as reported, and none is going anywhere. -/
  left : c' = { c with machines := report.map fun i => ⟨i, none⟩ }
  /-- The next report is the same, and changes nothing. -/
  again : c'.scrape = (.ok report, c')

theorem report_settled (c : SimulatedCloud) : c.settled.report = c.machines.map Machine.nextShown := by
  simp only [report, settled, List.map_map]
  exact List.map_congr_left fun m _ => congrArg Machine.shown m.settle_eq

theorem settled_eq (c : SimulatedCloud) :
    c.settled = { c with machines := c.settled.report.map fun i => ⟨i, none⟩ } := by
  rw [report_settled, List.map_map, settled]
  congr 1
  exact List.map_congr_left fun m _ => m.settle_eq

theorem settled_settled (c : SimulatedCloud) : c.settled.settled = c.settled := by
  simp only [settled, List.map_map]
  congr 1
  refine List.map_congr_left fun m _ => ?_
  rw [Function.comp_apply, m.settle_eq]
  rfl

theorem Ordered.exists_report (h : c.Ordered) (havailable : c.unavailable = false) :
    ∃ report c', c.scrape = (.ok report, c') ∧ Reports c report c' := by
  refine ⟨c.settled.report, c.settled, scrape_of_available havailable, c.report_settled, ?_,
    c.settled_eq, ?_⟩
  · rw [report_settled]
    exact List.pairwise_map.mpr h
  · have hagain : c.settled.scrape = _ := scrape_of_available havailable
    rw [settled_settled] at hagain
    exact hagain

theorem scrape_of_unavailable (h : c.unavailable = true) :
    c.scrape = (.error (.unavailable "simulated outage"), c) := if_pos h

theorem stateOf_scrape (h : c.Ordered) (hm : m ∈ c.machines) : c.scrape.2.stateOf m.id =
    some (if c.unavailable = false then m.nextState else m.shown.state) := by
  split
  next havailable =>
    rw [scrape_of_available havailable]
    refine (stateOf_map h hm Machine.id_settle).trans ?_
    rw [m.settle_eq]
    rfl
  next hrefuses =>
    rw [scrape_of_unavailable (Bool.eq_true_of_not_eq_false hrefuses)]
    exact h.stateOf hm

/-! ## What moves a machine -/

/-- A change moves a machine to another state than the one that it shows. -/
inductive Moves (c : SimulatedCloud) (m : Machine) : CloudChange → PowerState → Prop
  /-- An instance is put in its place. -/
  | put {i : Instance} (hid : i.id = m.id) (hother : i.state ≠ m.shown.state) :
    Moves c m (.put i) i.state
  | start {ids : List String} (hmeant : m.id ∈ ids) (hworks : m.id ∉ c.failing)
    (hoff : m.shown.state = .off) : Moves c m (.start ids) .transitioning
  | stop {ids : List String} (hmeant : m.id ∈ ids) (hworks : m.id ∉ c.failing)
    (hon : m.shown.state = .on) : Moves c m (.stop ids) .transitioning
  /-- A report finds it where it was going. -/
  | settle {t : Target} (havailable : c.unavailable = false) (hgoing : m.settlesTo = some t) :
    Moves c m .scrape t.state

/-- What comes to be in one case only differs from what was exactly in this case. -/
theorem some_ite_and_ne_iff {α : Type} {p : Prop} [Decidable p] {x y s : α} :
    some (if p then x else y) = some s ∧ s ≠ y ↔ p ∧ x ≠ y ∧ s = x := by
  split
  next hp =>
    constructor
    · rintro ⟨⟨⟩, hne⟩
      exact ⟨hp, hne, rfl⟩
    · rintro ⟨-, hne, rfl⟩
      exact ⟨rfl, hne⟩
  next hp =>
    refine iff_of_false ?_ fun h => hp h.1
    rintro ⟨⟨⟩, hne⟩
    exact hne rfl

/-- The machines that show another state after an order are those that it reaches. -/
theorem sends_iff (h : c.Ordered) (hm : m ∈ c.machines) {source target : Target} {ids : List String}
    {s : PowerState} :
    (c.transition source target ids).stateOf m.id = some s ∧ s ≠ m.shown.state ↔
      ((m.id ∈ ids ∧ m.id ∉ c.failing) ∧ m.shown.state = source.state) ∧ s = .transitioning := by
  rw [stateOf_transition h hm, some_ite_and_ne_iff]
  refine and_congr_right fun ⟨_, hseen⟩ => and_iff_right ?_
  rw [hseen]
  exact source.state_ne_transitioning.symm

theorem moves_iff (h : c.Ordered) (hhonest : c.Honest) (hm : m ∈ c.machines) (change : CloudChange)
    (s : PowerState) :
    (change.run c).stateOf m.id = some s ∧ s ≠ m.shown.state ↔ Moves c m change s := by
  -- a change that leaves the machines moves none of them
  have hsame : ¬(c.stateOf m.id = some s ∧ s ≠ m.shown.state) := by
    rw [h.stateOf hm]
    exact fun ⟨hs, hne⟩ => hne (Option.some.inj hs).symm
  cases change with
  | put i =>
    rw [CloudChange.run, stateOf_put h hm, some_ite_and_ne_iff]
    constructor
    · rintro ⟨hid, hother, rfl⟩
      exact .put hid hother
    · rintro ⟨hid, hother⟩
      exact ⟨hid, hother, rfl⟩
  | remove id =>
    refine iff_of_false ?_ nofun
    rw [CloudChange.run, stateOf_remove h hm]
    split
    · exact fun ⟨hs, _⟩ => nomatch hs
    · rw [← h.stateOf hm]
      exact hsame
  | setFailing | setUnavailable => exact iff_of_false hsame nofun
  | scrape =>
    rw [CloudChange.run, stateOf_scrape h hm, some_ite_and_ne_iff,
      Machine.nextState_ne_iff (hhonest m hm)]
    constructor
    · rintro ⟨havailable, ⟨t, hgoing⟩, rfl⟩
      rw [Machine.nextState_of_some hgoing]
      exact .settle havailable hgoing
    · intro hmoves
      cases hmoves with
      | settle havailable hgoing =>
        exact ⟨havailable, ⟨_, hgoing⟩, (Machine.nextState_of_some hgoing).symm⟩
  | start ids =>
    rw [CloudChange.run, sends_iff h hm]
    constructor
    · rintro ⟨⟨⟨hmeant, hworks⟩, hoff⟩, rfl⟩
      exact .start hmeant hworks hoff
    · intro hmoves
      cases hmoves with
      | start hmeant hworks hoff => exact ⟨⟨⟨hmeant, hworks⟩, hoff⟩, rfl⟩
  | stop ids =>
    rw [CloudChange.run, sends_iff h hm]
    constructor
    · rintro ⟨⟨⟨hmeant, hworks⟩, hon⟩, rfl⟩
      exact .stop hmeant hworks hon
    · intro hmoves
      cases hmoves with
      | stop hmeant hworks hon => exact ⟨⟨⟨hmeant, hworks⟩, hon⟩, rfl⟩

/-- **Machines move as they are told, and reports let them arrive.** Whatever instances a cloud is made of, and
whatever was done to it since:
* each machine is found under its own id, and under no other;
* a machine that is going somewhere shows that it is on its way, and will be on or off;
* what it shows changes if an instance is put in its place, if it is started while off or stopped while on, or
  if a report finds it where it was going, and not otherwise;
* a report names each machine once, in the order of the ids, and leaves none that is going anywhere, so that
  the next report is the same;
* a report that is refused changes nothing. -/
theorem moves_as_told (instances : List Instance) (changes : List CloudChange) :
    let c := CloudChange.runAll changes (.ofInstances instances)
    (Inventory.runAll changes (.ofInstances instances)).Holds c ∧
      (∀ m ∈ c.machines, ∀ t, m.settlesTo = some t →
        m.shown.state = .transitioning ∧ (t.state = .on ∨ t.state = .off)) ∧
      (∀ m ∈ c.machines, ∀ change s,
        (change.run c).stateOf m.id = some s ∧ s ≠ m.shown.state ↔ Moves c m change s) ∧
      (c.unavailable = false → ∃ report c', c.scrape = (.ok report, c') ∧ Reports c report c') ∧
      (c.unavailable = true → c.scrape = (.error (.unavailable "simulated outage"), c)) := by
  intro c
  have hholds : (Inventory.runAll changes (.ofInstances instances)).Holds c :=
    (Inventory.holds_ofInstances instances).runAll changes
  have hhonest : c.Honest := honest_runAll instances changes
  refine ⟨hholds, fun m hm t ht => ⟨hhonest m hm t ht, ?_⟩, fun m hm change s => ?_,
    hholds.ordered.exists_report, scrape_of_unavailable⟩
  · cases t with
    | on => exact Or.inl rfl
    | off => exact Or.inr rfl
  · exact moves_iff hholds.ordered hhonest hm change s

/-- Three instances, of which the last takes the place of the second. -/
def webAndDatabase : List Instance :=
  [⟨"i-2", "db", "QA", .on⟩, ⟨"i-1", "web", "QA", .on⟩, ⟨"i-1", "web", "QA", .off⟩]

/-- The web server is started and the database fails to stop. Then a machine joins that is on a way of its own,
which leads nowhere. -/
def startedAndJoined : List CloudChange :=
  [.setFailing "i-2" true, .start ["i-1", "i-9"], .stop ["i-2"],
    .put ⟨"i-3", "log", "dev", .transitioning⟩]

/-- The next report moves the web server only, unless it is refused. -/
theorem moves_as_told_started :
    let c := CloudChange.runAll startedAndJoined (.ofInstances webAndDatabase)
    let d := CloudChange.runAll (startedAndJoined ++ [.setUnavailable true]) (.ofInstances webAndDatabase)
    let web : Machine := ⟨⟨"i-1", "web", "QA", .transitioning⟩, some .on⟩
    let report : List Instance :=
      [⟨"i-1", "web", "QA", .on⟩, ⟨"i-2", "db", "QA", .on⟩, ⟨"i-3", "log", "dev", .transitioning⟩]
    (web ∈ c.machines ∧ (CloudChange.scrape.run c).stateOf "i-1" = some .on) ∧
      (c.unavailable = false ∧ ∃ c', c.scrape = (.ok report, c') ∧ c'.scrape = (.ok report, c')) ∧
      d.unavailable = true ∧ d.scrape = (.error (.unavailable "simulated outage"), d) := by
  intro c d web report
  obtain ⟨-, -, hmoves, hreports, -⟩ := moves_as_told webAndDatabase startedAndJoined
  obtain ⟨-, -, -, -, hrefused⟩ :=
    moves_as_told webAndDatabase (startedAndJoined ++ [.setUnavailable true])
  have hweb : web ∈ c.machines := by decide
  have hnext : c.machines.map Machine.nextShown = report := by decide
  have hsettles : Moves c web .scrape Target.on.state := .settle rfl rfl
  obtain ⟨report', c', hscrape, hreport⟩ := hreports rfl
  obtain rfl : report' = report := hreport.each.trans hnext
  exact ⟨⟨hweb, ((hmoves web hweb .scrape .on).mpr hsettles).1⟩,
    ⟨rfl, c', hscrape, hreport.again⟩, rfl, hrefused rfl⟩

end SimulatedCloud
end PowerLease
