import PowerLease.Cloud.Azure
import PowerLease.Proofs.Catalog.Takeover
import PowerLease.Proofs.Installation.Overtaking
import PowerLease.Proofs.Interleaving.Cleanup
import PowerLease.Rehearsal.Script

/-!
# Machines that can be read

A subscription lists its machines in one call, and tells the state of each in a call of its own. A call that
fails makes its machine be passed over, and nothing else: the others are reported whatever happens to it
(`reportAll_inquired`). So a report says as much as its readings do, and the catalog is told by them. A
machine that could be read keeps its row. If it does not show off, it also keeps the session of its group,
through everything that happens before the next report (`keeps_readings`).

Nothing of this can be said of a machine that could not be read. To the catalog it is as if it were not
listed (`forgets_unread`).
-/

namespace PowerLease

namespace Azure

variable {γ : Type} [AzureClient γ] {tagKey : String} {vm : AzureVm}

/-! ## Asking about machines -/

/-- What a client was asked about a machine, and what it answered. -/
structure Inquiry where
  address : VmAddress
  answer : Except ProviderFault (List String)

/-- A client, and what it was asked about machines. It answers as it would with nobody listening. -/
structure Inquired (γ : Type) where
  client : γ
  inquiries : List Inquiry

instance : AzureClient (Inquired γ) where
  list w := let (listed, client) := AzureClient.list w.client; (listed, { w with client })
  statuses a w :=
    let (answer, client) := AzureClient.statuses a w.client
    (answer, ⟨client, w.inquiries ++ [⟨a, answer⟩]⟩)
  start a w := let (result, client) := AzureClient.start a w.client; (result, { w with client })
  deallocate a w := let (result, client) := AzureClient.deallocate a w.client; (result, { w with client })

/-- A machine under control: it carries the tag, and it can be asked about. -/
structure Controlled where
  vm : AzureVm
  group : String
  address : VmAddress

/-- A listed machine, if it is under control. -/
def Controlled.of? (tagKey : String) (vm : AzureVm) : Option Controlled :=
  match vm.tags.value? tagKey, VmAddress.ofId vm.id with
  | some group, .ok address => some ⟨vm, group, address⟩
  | _, _ => none

theorem Controlled.of?_eq_some_iff {m : Controlled} : of? tagKey vm = some m ↔
    m.vm = vm ∧ vm.tags.value? tagKey = some m.group ∧ VmAddress.ofId vm.id = .ok m.address := by
  obtain ⟨vm', group, address⟩ := m
  unfold of?
  split
  next g a hgroup haddress => simp [hgroup, haddress, eq_comm]
  next hnot =>
    simp only [reduceCtorEq, false_iff]
    rintro ⟨-, hgroup, haddress⟩
    exact hnot _ _ hgroup haddress

/-- A machine under control, and what was answered about it. -/
structure Reading extends Controlled where
  answer : Except ProviderFault (List String)

namespace Reading

/-- What the client was asked for a reading. -/
def inquiry (r : Reading) : Inquiry := ⟨r.address, r.answer⟩

/-- What a machine of some codes is reported as. -/
def shown (r : Reading) (codes : List String) : Instance :=
  { id := r.vm.id, name := r.address.vmName, group := r.group, state := powerState (powerCode codes) }

/-- What is reported of a reading. Of one that failed, nothing is. -/
def instance? (r : Reading) : Option Instance := r.answer.toOption.map r.shown

theorem instance?_eq_some_iff {r : Reading} {i : Instance} :
    r.instance? = some i ↔ ∃ codes, r.answer = .ok codes ∧ r.shown codes = i := by
  unfold instance?
  cases r.answer <;> simp [Except.toOption]

theorem mem_report {readings : List Reading} {r : Reading} {codes : List String} (hr : r ∈ readings)
    (h : r.answer = .ok codes) : r.shown codes ∈ readings.filterMap instance? :=
  List.mem_filterMap.mpr ⟨r, hr, instance?_eq_some_iff.mpr ⟨codes, h, rfl⟩⟩

end Reading

/-- A machine that is not under control is neither asked about nor reported. -/
theorem reportAll_of_none (h : Controlled.of? tagKey vm = none) (rest : List AzureVm) (client : γ) :
    reportAll tagKey (vm :: rest) client = reportAll tagKey rest client := by
  have hskip : report? tagKey vm client = (none, client) := by
    unfold report?
    split
    next group address hgroup haddress =>
      rw [Controlled.of?, hgroup, haddress] at h
      exact nomatch h
    next => rfl
  simp only [reportAll, hskip]
  rfl

/-- The reading of a machine under control. -/
def readingOf (m : Controlled) (client : γ) : Reading :=
  { m with answer := (AzureClient.statuses m.address client).1 }

/-- A machine under control is asked about in one call, which decides whether it is reported. -/
theorem reportAll_of_some {m : Controlled} (h : Controlled.of? tagKey vm = some m) (rest : List AzureVm)
    (client : γ) : reportAll tagKey (vm :: rest) client =
      ((readingOf m client).instance?.toList ++
          (reportAll tagKey rest (AzureClient.statuses m.address client).2).1,
        (reportAll tagKey rest (AzureClient.statuses m.address client).2).2) := by
  obtain ⟨hvm, hgroup, haddress⟩ := Controlled.of?_eq_some_iff.mp h
  have hask : report? tagKey vm client =
      ((readingOf m client).instance?, (AzureClient.statuses m.address client).2) := by
    simp only [report?, hgroup, haddress, readingOf, Reading.instance?]
    cases (AzureClient.statuses m.address client).1 with
    | ok codes => simp [Reading.shown, Except.toOption, hvm]
    | error fault => rfl
  simp only [reportAll, hask]

/-- Every machine under control is asked about once, in the order of the list, and the report is made of the
answers. Whether the client is listened to makes no difference to it. -/
theorem reportAll_inquired (tagKey : String) (vms : List AzureVm) (w : Inquired γ) :
    ∃ (readings : List Reading) (client : γ),
      readings.map Reading.toControlled = vms.filterMap (Controlled.of? tagKey) ∧
      reportAll tagKey vms w =
        (readings.filterMap Reading.instance?, ⟨client, w.inquiries ++ readings.map Reading.inquiry⟩) ∧
      reportAll tagKey vms w.client = (readings.filterMap Reading.instance?, client) := by
  induction vms generalizing w with
  | nil => exact ⟨[], w.client, rfl, by simp [reportAll], rfl⟩
  | cons vm rest ih =>
    cases hvm : Controlled.of? tagKey vm with
    | none =>
      obtain ⟨readings, client, hcontrolled, hlistened, hreport⟩ := ih w
      refine ⟨readings, client, ?_, ?_, ?_⟩
      · rw [hcontrolled, List.filterMap_cons_none hvm]
      · rw [reportAll_of_none hvm, hlistened]
      · rw [reportAll_of_none hvm, hreport]
    | some m =>
      obtain ⟨readings, client, hcontrolled, hlistened, hreport⟩ :=
        ih (AzureClient.statuses m.address w).2
      have hlisten : (AzureClient.statuses m.address w).2 =
          ⟨(AzureClient.statuses m.address w.client).2, w.inquiries ++ [(readingOf m w.client).inquiry]⟩ :=
        rfl
      have hsplit : (readingOf m w.client :: readings).filterMap Reading.instance? =
          (readingOf m w.client).instance?.toList ++ readings.filterMap Reading.instance? := by
        rw [List.filterMap_cons]
        cases (readingOf m w.client).instance? <;> rfl
      refine ⟨readingOf m w.client :: readings, client, ?_, ?_, ?_⟩
      · rw [List.map_cons, hcontrolled, List.filterMap_cons_some hvm]
        rfl
      · rw [reportAll_of_some hvm, hlistened, hsplit, hlisten, List.append_assoc]
        rfl
      · rw [hlisten] at hreport
        rw [reportAll_of_some hvm, hreport, hsplit]

/-! ## A scrape -/

/-- What a scrape asks about machines. -/
def inquiries (a : Azure γ) : List Inquiry :=
  (scrape (⟨⟨a.client, []⟩, a.tagKey⟩ : Azure (Inquired γ))).2.client.inquiries

/-- A scrape of some machines comes to some readings. -/
structure Reads (a : Azure γ) (vms : List AzureVm) (readings : List Reading) : Prop where
  /-- One reading for each machine under control, in the order of the list. -/
  controlled : readings.map Reading.toControlled = vms.filterMap (Controlled.of? a.tagKey)
  /-- The client is asked for these and nothing else. -/
  asked : a.inquiries = readings.map Reading.inquiry
  /-- Whichever of them fail, there is a report, and it consists of the others. -/
  report : (scrape a).1 = .ok (readings.filterMap Reading.instance?)

theorem exists_reads {a : Azure γ} {vms : List AzureVm} (h : (AzureClient.list a.client).1 = .ok vms) :
    ∃ readings, a.Reads vms readings := by
  obtain ⟨readings, client, hmachines, hlistened, hreport⟩ :=
    reportAll_inquired a.tagKey vms ⟨(AzureClient.list a.client).2, []⟩
  refine ⟨readings, hmachines, ?_, ?_⟩
  · simp only [inquiries, scrape, AzureClient.list, h]
    exact (congrArg (fun done : List Instance × Inquired γ => done.2.inquiries) hlistened).trans
      (List.nil_append _)
  · simp only [scrape, h]
    exact congrArg (fun done : List Instance × γ => Except.ok done.1) hreport

/-- If the machines cannot be listed, there is no report, and nothing is asked about any of them. -/
theorem scrape_of_error {a : Azure γ} {fault : ProviderFault}
    (h : (AzureClient.list a.client).1 = .error fault) :
    (scrape a).1 = .error fault ∧ a.inquiries = [] := by
  constructor
  · simp only [scrape, h]
  · simp only [inquiries, scrape, AzureClient.list, h]

/-- The readings are of all machines that carry the tag and have an address, and of no others. -/
theorem Reads.exists_iff {a : Azure γ} {vms : List AzureVm} {readings : List Reading}
    (h : a.Reads vms readings) {vm : AzureVm} : (∃ r ∈ readings, r.vm = vm) ↔
      vm ∈ vms ∧ (vm.tags.value? a.tagKey).isSome = true ∧ ∃ address, VmAddress.ofId vm.id = .ok address := by
  have hmem : (∃ r ∈ readings, r.vm = vm) ↔
      ∃ m ∈ vms.filterMap (Controlled.of? a.tagKey), m.vm = vm := by
    rw [← h.controlled]
    simp
  rw [hmem]
  constructor
  · rintro ⟨m, hm, rfl⟩
    obtain ⟨vm, hvm, hof⟩ := List.mem_filterMap.mp hm
    obtain ⟨rfl, hgroup, haddress⟩ := Controlled.of?_eq_some_iff.mp hof
    exact ⟨hvm, hgroup ▸ rfl, m.address, haddress⟩
  · rintro ⟨hvm, hgroup, address, haddress⟩
    obtain ⟨group, hgroup⟩ := Option.isSome_iff_exists.mp hgroup
    have hof : Controlled.of? a.tagKey vm = some ⟨vm, group, address⟩ :=
      Controlled.of?_eq_some_iff.mpr ⟨rfl, hgroup, haddress⟩
    exact ⟨_, List.mem_filterMap.mpr ⟨vm, hvm, hof⟩, rfl⟩

end Azure

/-! ## Sessions that are held -/

section

variable {σ ν : Type} {c c' : Catalog} {s : Session} {r : Routine}

/-- No routine deletes the session of a group that is not seen off. -/
theorem Routine.Changes.exists_session (h : r.Changes c c') (hc : c.Consistent) (hs : s ∈ c.sessions)
    (hon : c.allSeen s.group .off = false) : ∃ s' ∈ c'.sessions, s.SameLease s' := by
  rcases h.kept_or_deleted hc hs with hkept | ⟨window, now, rfl, -, hfate⟩
  · exact hkept
  · have hoff : c.allSeen s.group .off = true :=
      Catalog.allSeen_iff.mpr (Lifecycle.fate_eq_none_iff.mp hfate).2
    rw [hon] at hoff
    exact Bool.noConfusion hoff

/-- A group that is not seen off keeps its session until the next report. -/
theorem Routine.exists_session_runAll [Provider σ] (hc : c.Consistent) (hs : s ∈ c.sessions)
    (hon : c.allSeen s.group .off = false) {i : Installation σ ν} (hi : i.store = .opened c)
    {routines : List Routine} (hnone : ∀ r ∈ routines, ∀ now, r ≠ .scrape now) :
    ∃ c', (runAll routines i).store = .opened c' ∧ ∃ s' ∈ c'.sessions, s.SameLease s' := by
  induction routines generalizing c s i with
  | nil => exact ⟨c, hi, s, hs, .refl s⟩
  | cons r rest ih =>
    obtain ⟨hr, hrest⟩ := List.forall_mem_cons.mp hnone
    obtain ⟨d, hd, hchanges⟩ := r.run_changes hi
    obtain ⟨t, ht, hst⟩ := hchanges.exists_session hc hs hon
    have hseen : d.allSeen t.group .off = false := by
      rw [← hon, ← hst.group, Bool.eq_iff_iff, Catalog.allSeen_iff_shown, Catalog.allSeen_iff_shown,
        (hchanges.reaches hr).shown]
    obtain ⟨c', hstore, s', hs', hts⟩ := ih (hchanges.consistent hc) ht hseen hd hrest
    exact ⟨c', hstore, s', hs', hst.trans hts⟩

end

/-! ## What is kept of the machines that could be read -/

namespace Azure

variable {γ ν : Type} [AzureClient γ] {c : Catalog}

/-- What an installation keeps of the machines that could be read, after a scrape at some time. -/
structure Keeps (readings : List Reading) (now : Int) (c : Catalog) (i : Installation (Azure γ) ν)
    (c' : Catalog) : Prop where
  store : i.store = .opened c'
  /-- Nothing is written but servers, and a server that was there before keeps its past. -/
  spares : Catalog.Spares now c c'
  /-- No machine that could be read is missing. If it was listed more than once, it shows what was read of
  it last. -/
  rows : ∀ r ∈ readings, ∀ codes, r.answer = .ok codes → ∃ w ∈ c'.servers, w.id = r.vm.id ∧
    lastOf w.id (readings.filterMap Reading.instance?) = some w.shown
  /-- Unless all machines of a group that could be read are off, its session outlasts all that is done before
  the next report. -/
  sessions : ∀ s ∈ c.sessions, ¬ReportsOff s.group (readings.filterMap Reading.instance?) →
    ∀ routines : List Routine, (∀ r ∈ routines, ∀ now, r ≠ .scrape now) →
      ∃ d, (Routine.runAll routines i).store = .opened d ∧ ∃ s' ∈ d.sessions, s.SameLease s'

theorem Reads.keeps {a : Azure γ} {vms : List AzureVm} {readings : List Reading} (h : a.Reads vms readings)
    (hc : c.Consistent) (network : ν) (now : Int) :
    Keeps readings now c ((⟨a, .opened c, network⟩ : Installation (Azure γ) ν).scrape now).2
      (c.sync (readings.filterMap Reading.instance?) now).2 := by
  have hscrape : (Provider.scrape a).1 = .ok (readings.filterMap Reading.instance?) := h.report
  have hstore := Operation.store_scrape (i := ⟨a, .opened c, network⟩) rfl now
  rw [hscrape] at hstore
  refine ⟨hstore, hc.spares_sync _ now, fun r hr codes hcodes => ?_, ?_⟩
  · obtain ⟨w, hw, hid⟩ : ∃ w ∈ (c.sync (readings.filterMap Reading.instance?) now).2.servers,
        w.id = (r.shown codes).id :=
      Catalog.exists_server_of_mem_report (Reading.mem_report hr hcodes)
    exact ⟨w, hw, hid, Catalog.lastOf_of_mem_sync hc.serverIds hw⟩
  · intro s hs hon routines hnone
    refine Routine.exists_session_runAll (hc.sync _ now) (s := s) hs ?_ hstore hnone
    rw [← Bool.not_eq_true, Catalog.allSeen_sync hc.serverIds]
    exact hon

/-- **A machine that can be read is not forgotten, whichever others cannot.** There is a report whenever the
machines can be listed. Each of them that carries the tag and has an address is asked about once, in the order
of the list, and the report consists of those whose call succeeded. They keep their rows, and a group of which
one does not show off keeps its session. -/
theorem keeps_readings {past : List Catalog} (h : Catalog.History (c :: past)) (a : Azure γ) (network : ν)
    (now : Int) :
    (∀ fault, (AzureClient.list a.client).1 = .error fault →
      (scrape a).1 = .error fault ∧ a.inquiries = [] ∧
        ((⟨a, .opened c, network⟩ : Installation (Azure γ) ν).scrape now).2.store = .opened c) ∧
    ∀ vms, (AzureClient.list a.client).1 = .ok vms → ∃ readings, a.Reads vms readings ∧
      (∀ vm, (∃ r ∈ readings, r.vm = vm) ↔ vm ∈ vms ∧ (vm.tags.value? a.tagKey).isSome = true ∧
        ∃ address, VmAddress.ofId vm.id = .ok address) ∧
      ∃ c', Keeps readings now c
        ((⟨a, .opened c, network⟩ : Installation (Azure γ) ν).scrape now).2 c' := by
  constructor
  · intro fault hlist
    obtain ⟨hscrape, hnothing⟩ := scrape_of_error hlist
    refine ⟨hscrape, hnothing, (Operation.store_scrape rfl now).trans ?_⟩
    rw [show (Provider.scrape a).1 = _ from hscrape]
  · intro vms hlist
    obtain ⟨readings, hreads⟩ := exists_reads hlist
    exact ⟨readings, hreads, fun _ => hreads.exists_iff, _, hreads.keeps h.consistent network now⟩

/-- The resource id of a machine of a lab. -/
def labId (name : String) : String :=
  s!"/subscriptions/sub-1/resourceGroups/lab-rg/providers/Microsoft.Compute/virtualMachines/{name}"

open Rehearsal in
/-- A lab of two machines in one group. The state of some is told, and the others cannot be asked about. -/
def lab (codes : List (String × List String)) : Azure ScriptedAzure :=
  ⟨{ machines := [⟨labId "vm-a", [("ez2boot", "qa")]⟩, ⟨labId "vm-b", [("ez2boot", "qa")]⟩], codes }, "ez2boot"⟩

/-- The catalog of the lab after its lease was given back. Both machines were seen running. -/
def releasedLab : Catalog :=
  (Transaction.endSession "qa" 20).run <|
    (Transaction.openSession ⟨"digest", "u1", "u1@example.com", "qa", 3600⟩ 10).run <|
    (Transaction.sync [⟨labId "vm-a", "vm-a", "qa", .on⟩, ⟨labId "vm-b", "vm-b", "qa", .on⟩] 0).run .empty

theorem history_releasedLab : ∃ past, Catalog.History (releasedLab :: past) :=
  ⟨_, .next _ (.next _ (.next _ .start nofun) nofun) nofun⟩

/-- Where one machine is still seen running, the session outlasts the ticks that follow. -/
theorem keeps_readings_lab :
    let i : Installation (Azure Rehearsal.ScriptedAzure) Unit :=
      ⟨lab [("vm-b", ["PowerState/running"])], .opened releasedLab, ()⟩
    ∃ d, (Routine.runAll [.tick (.ofSeconds 900) 40, .manage, .tick (.ofSeconds 900) 50]
      (i.scrape 30).2).store = .opened d ∧ ∃ s' ∈ d.sessions, s'.group = "qa" := by
  intro i
  obtain ⟨past, h⟩ := history_releasedLab
  obtain ⟨-, hkeeps⟩ := keeps_readings h (lab [("vm-b", ["PowerState/running"])]) () 30
  obtain ⟨readings, hreads, -, c', hkept⟩ := hkeeps _ rfl
  have hreport : readings.filterMap Reading.instance? = [⟨labId "vm-b", "vm-b", "qa", .on⟩] :=
    Except.ok.inj (hreads.report.symm.trans (by decide +kernel))
  obtain ⟨s, hs, hgroup⟩ : ∃ s ∈ releasedLab.sessions, s.group = "qa" := by decide
  have hon : ¬ReportsOff s.group (readings.filterMap Reading.instance?) := by
    rw [hreport, hgroup]
    exact fun hoff => nomatch hoff _ List.mem_cons_self (by decide) rfl
  obtain ⟨d, hd, s', hs', hsame⟩ := hkept.sessions s hs hon
    [.tick (.ofSeconds 900) 40, .manage, .tick (.ofSeconds 900) 50] (by simp)
  exact ⟨d, hd, s', hs', hsame.group.symm.trans hgroup⟩

/-- A machine that cannot be asked about is left out of the report, although it is listed and carries the tag.
If this happens to both machines of the lab, both rows are deleted, and the next tick takes the group for one
that is off: it deletes the session. -/
theorem forgets_unread :
    (¬∀ (a : Azure Rehearsal.ScriptedAzure) (vms : List AzureVm) (report : List Instance),
      (AzureClient.list a.client).1 = .ok vms →
      (∀ vm ∈ vms, ∃ address, VmAddress.ofId vm.id = .ok address) →
      (scrape a).1 = .ok report →
      ∀ vm ∈ vms, (vm.tags.value? a.tagKey).isSome = true → ∃ i ∈ report, i.id = vm.id) ∧
    ∃ d, (Routine.runAll [.scrape 30, .tick (.ofSeconds 900) 40]
        (⟨lab [], .opened releasedLab, ()⟩ : Installation (Azure Rehearsal.ScriptedAzure) Unit)).store =
          .opened d ∧
      d.servers = [] ∧ d.sessions = [] := by
  constructor
  · intro h
    have haddress : ∀ vm ∈ (lab []).client.machines, ∃ address, VmAddress.ofId vm.id = .ok address := by
      intro vm hvm
      rcases List.mem_cons.mp hvm with rfl | hvm
      · exact ⟨⟨"lab-rg", "vm-a"⟩, by decide +kernel⟩
      · rw [List.mem_singleton.mp hvm]
        exact ⟨⟨"lab-rg", "vm-b"⟩, by decide +kernel⟩
    obtain ⟨i, hi, -⟩ := h (lab []) (lab []).client.machines [] rfl haddress (by decide +kernel) _
      List.mem_cons_self (by decide)
    exact absurd hi List.not_mem_nil
  · exact ⟨_, rfl, by decide +kernel, by decide +kernel⟩

end Azure
end PowerLease
