import Mathlib.Data.List.Basic
import PowerLease.Cloud.Azure

/-!
# Addresses in resource ids

A resource id is a path. The address of a machine is read off two places in it, and nothing else of the path
is looked at: every text with eight slashes has an address (`VmAddress.ofId_eq_ok_iff`). The id of a machine is
of a fixed form, which has exactly eight, so its address is the one that it was made of
(`VmAddress.Names.ofId`), and within a subscription no other machine has that.

What is no id of a machine is refused only if it is too short (`VmAddress.ofId_exact`). The longer path of a
machine in a scale set has an address too, which is not its own (`VmAddress.accepts_nested`).
-/

namespace PowerLease

/-! ## The parts of a path -/

theorem pathParts_cons_slash (path : List Char) : pathParts ('/' :: path) = [] :: pathParts path := by
  simp [pathParts]

theorem pathParts_ne_nil (path : List Char) : pathParts path ≠ [] := by
  cases path with
  | nil => exact List.cons_ne_nil _ _
  | cons c rest =>
    rw [pathParts, List.foldr_cons]
    split
    · exact List.cons_ne_nil _ _
    · split <;> exact List.cons_ne_nil _ _

theorem pathParts_cons_of_ne {c : Char} (h : c ≠ '/') (path : List Char) :
    pathParts (c :: path) = (pathParts path).modifyHead (List.cons c) := by
  have hne := pathParts_ne_nil path
  rw [pathParts, List.foldr_cons, if_neg h, ← pathParts]
  cases hparts : pathParts path with
  | nil => exact absurd hparts hne
  | cons part rest => rfl

theorem pathParts_eq_splitOn (path : List Char) : pathParts path = path.splitOn '/' := by
  induction path with
  | nil => rfl
  | cons c rest ih =>
    rw [List.splitOn_cons_eq_if_modifyHead, ← ih]
    by_cases hc : c = '/'
    · subst hc
      rw [pathParts_cons_slash, if_pos (by simp)]
    · rw [pathParts_cons_of_ne hc, if_neg (by simpa using hc)]

/-- A path has one part more than it has slashes. -/
theorem length_pathParts (path : List Char) : (pathParts path).length = path.count '/' + 1 := by
  induction path with
  | nil => rfl
  | cons c rest ih =>
    by_cases hc : c = '/'
    · subst hc
      rw [pathParts_cons_slash, List.length_cons, ih, List.count_cons_self]
    · rw [pathParts_cons_of_ne hc, List.length_modifyHead, ih, List.count_cons_of_ne hc]

theorem slash_notMem_of_mem_pathParts {path part : List Char} (h : part ∈ pathParts path) :
    '/' ∉ part := by
  induction path generalizing part with
  | nil => simp_all [pathParts]
  | cons c rest ih =>
    by_cases hc : c = '/'
    · subst hc
      rw [pathParts_cons_slash] at h
      rcases List.mem_cons.mp h with rfl | h
      · exact List.not_mem_nil
      · exact ih h
    · rw [pathParts_cons_of_ne hc] at h
      cases hparts : pathParts rest with
      | nil => exact absurd hparts (pathParts_ne_nil rest)
      | cons first others =>
        rw [hparts] at h ih
        rcases List.mem_cons.mp h with rfl | h
        · -- the character before it is no slash either
          simpa [Ne.symm hc] using ih List.mem_cons_self
        · exact ih (List.mem_cons_of_mem _ h)

/-- The parts of a path are what it is put together of, with slashes between them. -/
theorem pathParts_eq_iff {path : List Char} {parts : List (List Char)} : pathParts path = parts ↔
    parts ≠ [] ∧ (∀ part ∈ parts, '/' ∉ part) ∧ ['/'].intercalate parts = path := by
  constructor
  · rintro rfl
    refine ⟨pathParts_ne_nil path, fun _ => slash_notMem_of_mem_pathParts, ?_⟩
    rw [pathParts_eq_splitOn]
    exact List.intercalate_splitOn '/'
  · rintro ⟨hne, hfree, rfl⟩
    rw [pathParts_eq_splitOn]
    exact List.splitOn_intercalate '/' hfree hne

/-! ## Addresses -/

/-- A text that says something and stands between two slashes. -/
def IsSegment (s : String) : Prop := s ≠ "" ∧ '/' ∉ s.toList

namespace VmAddress

variable {a b : VmAddress} {id other subscription : String} {fault : ProviderFault}

/-- The resource id of a machine. -/
def idIn (subscription : String) (a : VmAddress) : String :=
  "/".intercalate ["", "subscriptions", subscription, "resourceGroups", a.resourceGroup, "providers",
    "Microsoft.Compute", "virtualMachines", a.vmName]

example : idIn "sub-1" ⟨"lab-rg", "vm-a"⟩ =
    "/subscriptions/sub-1/resourceGroups/lab-rg/providers/Microsoft.Compute/virtualMachines/vm-a" := by
  decide

/-- An address names the machine of an id. -/
structure Names (a : VmAddress) (subscription id : String) : Prop where
  id_eq : id = a.idIn subscription
  subscription : IsSegment subscription
  resourceGroup : IsSegment a.resourceGroup
  vmName : IsSegment a.vmName

/-- A text that has eight slashes has an address, and one that has fewer is refused. -/
theorem ofId_cases (id : String) :
    (∃ resourceGroup vmName, (pathParts id.toList)[4]? = some resourceGroup ∧
        (pathParts id.toList)[8]? = some vmName ∧
        ofId id = .ok ⟨String.ofList resourceGroup, String.ofList vmName⟩) ∨
      id.toList.count '/' < 8 ∧ ofId id = .error (.invalidInstance s!"invalid VM id: {id}") := by
  unfold ofId
  split
  next p₀ p₁ p₂ p₃ p₄ p₅ p₆ p₇ p₈ rest hparts =>
    rw [hparts]
    exact Or.inl ⟨p₄, p₈, rfl, rfl, rfl⟩
  next hshort =>
    refine Or.inr ⟨?_, rfl⟩
    have hlength := length_pathParts id.toList
    by_contra hlong
    match hparts : pathParts id.toList with
    | p₀ :: p₁ :: p₂ :: p₃ :: p₄ :: p₅ :: p₆ :: p₇ :: p₈ :: rest =>
      exact hshort _ _ _ _ _ _ _ _ _ _ hparts
    | [] | [_] | [_, _] | [_, _, _] | [_, _, _, _] | [_, _, _, _, _] | [_, _, _, _, _, _]
    | [_, _, _, _, _, _, _] | [_, _, _, _, _, _, _, _] =>
      simp only [hparts, List.length_cons, List.length_nil] at hlength
      omega

/-- Two parts of the path are the address, whatever else it consists of. -/
theorem ofId_eq_ok_iff : ofId id = .ok a ↔
    (pathParts id.toList)[4]? = some a.resourceGroup.toList ∧
      (pathParts id.toList)[8]? = some a.vmName.toList := by
  rcases ofId_cases id with ⟨resourceGroup, vmName, hfourth, heighth, hok⟩ | ⟨hshort, herror⟩
  · rw [hok, hfourth, heighth]
    constructor
    · rintro h
      obtain rfl := Except.ok.inj h
      simp
    · rintro ⟨hgroup, hname⟩
      rw [Option.some.inj hgroup, Option.some.inj hname, String.ofList_toList, String.ofList_toList]
  · have hlength := length_pathParts id.toList
    rw [herror, List.getElem?_eq_none (i := 8) (by omega)]
    simp

theorem ofId_eq_error_iff : ofId id = .error fault ↔
    id.toList.count '/' < 8 ∧ fault = .invalidInstance s!"invalid VM id: {id}" := by
  rcases ofId_cases id with ⟨resourceGroup, vmName, -, heighth, hok⟩ | ⟨hshort, herror⟩
  · have hlength := length_pathParts id.toList
    have hlong : 8 < (pathParts id.toList).length := (List.getElem?_eq_some_iff.mp heighth).1
    rw [hok]
    refine iff_of_false (by simp) fun h => ?_
    omega
  · rw [herror]
    simp [hshort, eq_comm]

/-! ## Ids of machines -/

/-- The parts of the id of a machine. -/
theorem Names.pathParts (h : a.Names subscription id) : PowerLease.pathParts id.toList =
    [[], "subscriptions".toList, subscription.toList, "resourceGroups".toList,
      a.resourceGroup.toList, "providers".toList, "Microsoft.Compute".toList,
      "virtualMachines".toList, a.vmName.toList] := by
  refine pathParts_eq_iff.mpr ⟨List.cons_ne_nil _ _, ?_, ?_⟩
  · simp only [List.forall_mem_cons]
    exact ⟨List.not_mem_nil, by decide, h.subscription.2, by decide, h.resourceGroup.2, by decide,
      by decide, by decide, h.vmName.2, fun _ => nofun⟩
  · rw [h.id_eq, idIn, String.toList_intercalate]
    rfl

/-- The address in the id of a machine is its own. -/
theorem Names.ofId (h : a.Names subscription id) : ofId id = .ok a := by
  rw [ofId_eq_ok_iff, h.pathParts]
  exact ⟨rfl, rfl⟩

theorem Names.count_slash (h : a.Names subscription id) : id.toList.count '/' = 8 := by
  have hlength := length_pathParts id.toList
  rw [h.pathParts] at hlength
  exact (Nat.succ.inj hlength).symm

/-- Within a subscription an address is that of one machine. -/
theorem Names.id_unique (h : a.Names subscription id) (h' : b.Names subscription other)
    (heq : VmAddress.ofId other = VmAddress.ofId id) : other = id := by
  rw [h.ofId, h'.ofId] at heq
  rw [h.id_eq, h'.id_eq, Except.ok.inj heq]

/-- What is read off a text is what the ids of machines say: those have the address that they were made of, and
nothing else has one. -/
def Exact (id : String) : Prop := ∀ a, ofId id = .ok a ↔ ∃ subscription, a.Names subscription id

theorem exact_iff : Exact id ↔
    id.toList.count '/' < 8 ∨ ∃ subscription a, Names a subscription id := by
  constructor
  · intro h
    by_cases hshort : id.toList.count '/' < 8
    · exact Or.inl hshort
    · rcases ofId_cases id with ⟨resourceGroup, vmName, -, -, hok⟩ | ⟨hlt, -⟩
      · obtain ⟨subscription, hnames⟩ := (h _).mp hok
        exact Or.inr ⟨subscription, _, hnames⟩
      · exact absurd hlt hshort
  · rintro (hshort | ⟨subscription, b, hb⟩) a
    · refine iff_of_false ?_ ?_
      · rw [ofId_eq_error_iff.mpr ⟨hshort, rfl⟩]
        exact nofun
      · rintro ⟨subscription, hnames⟩
        exact Nat.ne_of_lt hshort hnames.count_slash
    · rw [hb.ofId]
      constructor
      · intro h
        obtain rfl := Except.ok.inj h
        exact ⟨subscription, hb⟩
      · rintro ⟨subscription', ha⟩
        exact hb.ofId.symm.trans ha.ofId

/-- **A text has an address exactly if it has eight slashes**: two of the parts between them, whatever the
others are. Any other text is refused by its own name. The id of a machine has the address that it was made
of, and two ids of one subscription that have the same are the same. So what is read off a text is exact if
that is too short to be read or the id of a machine, and for no other text. -/
theorem ofId_exact (id : String) :
    (∀ a, ofId id = .ok a ↔ ∃ parts : List (List Char),
      (∀ part ∈ parts, '/' ∉ part) ∧ ['/'].intercalate parts = id.toList ∧
        parts[4]? = some a.resourceGroup.toList ∧ parts[8]? = some a.vmName.toList) ∧
      (∀ fault, ofId id = .error fault ↔
        id.toList.count '/' < 8 ∧ fault = .invalidInstance s!"invalid VM id: {id}") ∧
      (∀ subscription a, Names a subscription id → ofId id = .ok a ∧
        ∀ other b, Names b subscription other → ofId other = ofId id → other = id) ∧
      (Exact id ↔ id.toList.count '/' < 8 ∨ ∃ subscription a, Names a subscription id) := by
  refine ⟨fun a => ?_, fun fault => ofId_eq_error_iff, fun subscription a h =>
    ⟨h.ofId, fun other b h' heq => h.id_unique h' heq⟩, exact_iff⟩
  rw [ofId_eq_ok_iff]
  constructor
  · rintro ⟨hgroup, hname⟩
    obtain ⟨-, hfree, hjoined⟩ := pathParts_eq_iff.mp (rfl : PowerLease.pathParts id.toList = _)
    exact ⟨_, hfree, hjoined, hgroup, hname⟩
  · rintro ⟨parts, hfree, hjoined, hgroup, hname⟩
    have hne : parts ≠ [] := by
      rintro rfl
      exact nomatch hgroup
    rw [pathParts_eq_iff.mpr ⟨hne, hfree, hjoined⟩]
    exact ⟨hgroup, hname⟩

/-- The id of a machine of a lab. -/
def labMachine : String :=
  "/subscriptions/sub-1/resourceGroups/lab-rg/providers/Microsoft.Compute/virtualMachines/vm-a"

theorem names_labMachine : Names ⟨"lab-rg", "vm-a"⟩ "sub-1" labMachine :=
  ⟨by decide, ⟨by decide, by decide⟩, ⟨by decide, by decide⟩, ⟨by decide, by decide⟩⟩

/-- The id of the machine is read as it was made. -/
theorem ofId_exact_lab : ofId labMachine = .ok ⟨"lab-rg", "vm-a"⟩ ∧ Exact labMachine := by
  obtain ⟨-, -, hnames, hexact⟩ := ofId_exact labMachine
  exact ⟨(hnames "sub-1" _ names_labMachine).1, hexact.mpr (Or.inr ⟨"sub-1", _, names_labMachine⟩)⟩

/-- The id of a machine of a scale set. -/
def pooled (machine : String) : String :=
  "/subscriptions/sub-1/resourceGroups/lab-rg/providers/Microsoft.Compute/virtualMachineScaleSets/pool" ++
    "/virtualMachines/" ++ machine

/-- The machines of a scale set have ids of another form, which are read all the same. All of them have the
address of one machine, that of a machine with the name of the set. -/
theorem accepts_nested : ¬Exact (pooled "0") ∧ pooled "0" ≠ pooled "1" ∧
    ofId (pooled "0") = .ok ⟨"lab-rg", "pool"⟩ ∧ ofId (pooled "1") = .ok ⟨"lab-rg", "pool"⟩ := by
  have hread : ofId (pooled "0") = .ok ⟨"lab-rg", "pool"⟩ := by decide +kernel
  refine ⟨fun h => ?_, by decide, hread, by decide +kernel⟩
  obtain ⟨subscription, hnames⟩ := (h _).mp hread
  have hcount : (pooled "0").toList.count '/' = 10 := by decide +kernel
  exact absurd (hcount.symm.trans hnames.count_slash) (by decide)

end VmAddress
end PowerLease
