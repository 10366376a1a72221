import PowerLease.Cloud.Provider

/-!
# Azure

The virtual machines of a subscription that carry a tag are under control, and the value of the tag
is their group. A machine is known by its resource id, a path whose fifth part (the first is empty)
is its resource group and whose ninth part is its name; calls about it need these two.

The state of each machine is asked for in a call of its own. A machine whose call fails is left out
of the report.
-/

namespace PowerLease

/-- A virtual machine as it is listed. -/
structure AzureVm where
  id : String
  tags : Tags
deriving DecidableEq, Repr

/-- A machine as calls name it. -/
structure VmAddress where
  resourceGroup : String
  vmName : String
deriving DecidableEq, Repr

/-- What a client of Azure can do. -/
class AzureClient (γ : Type) where
  /-- All machines of the subscription. -/
  list : γ → Except ProviderFault (List AzureVm) × γ
  /-- The codes of a machine, such as `PowerState/running`. -/
  statuses : VmAddress → γ → Except ProviderFault (List String) × γ
  start : VmAddress → γ → Except ProviderFault Unit × γ
  deallocate : VmAddress → γ → Except ProviderFault Unit × γ

/-- Azure through a client. -/
structure Azure (γ : Type) where
  client : γ
  /-- The name of the tag that names the group. -/
  tagKey : String

/-! ## Addresses and states -/

/-- The parts of a path between its slashes. There is always at least one. -/
def pathParts (path : List Char) : List (List Char) :=
  path.foldr
    (fun c parts =>
      if c = '/' then [] :: parts
      else
        match parts with
        | part :: rest => (c :: part) :: rest
        | [] => [[c]])
    [[]]

/-- The address in a resource id, which needs at least nine parts. -/
def VmAddress.ofId (id : String) : Except ProviderFault VmAddress :=
  match pathParts id.toList with
  | _ :: _ :: _ :: _ :: resourceGroup :: _ :: _ :: _ :: vmName :: _ =>
    .ok ⟨String.ofList resourceGroup, String.ofList vmName⟩
  | _ => .error (.invalidInstance s!"invalid VM id: {id}")

namespace Azure

/-- The rest of a text behind its beginning, if it begins so. -/
def after? : List Char → List Char → Option (List Char)
  | [], s => some s
  | _ :: _, [] => none
  | b :: bs, c :: cs => if b = c then after? bs cs else none

/-- The power state among the codes of a machine: what the first code that tells it says. -/
def powerCode (codes : List String) : String :=
  ((codes.findSome? fun code => after? "PowerState/".toList code.toList).map String.ofList).getD
    "unknown"

/-- The state that a code stands for. Whatever does not run, or is not on its way, is off. -/
def powerState (code : String) : PowerState :=
  if code = "running" then .on
  else if code = "starting" ∨ code = "stopping" ∨ code = "deallocating" then .transitioning
  else .off

variable {γ : Type} [AzureClient γ]

/-- What is reported of a machine. A machine without group, one whose id has no address and one
whose state cannot be asked for are left out; only the last of these is asked for at all. -/
def report? (tagKey : String) (vm : AzureVm) (client : γ) : Option Instance × γ :=
  match vm.tags.value? tagKey, VmAddress.ofId vm.id with
  | some group, .ok address =>
    let (codes, client) := AzureClient.statuses address client
    match codes with
    | .ok codes =>
      (some { id := vm.id, name := address.vmName, group, state := powerState (powerCode codes) },
       client)
    | .error _ => (none, client)
  | _, _ => (none, client)

/-- Reports machines one after another. -/
def reportAll (tagKey : String) : List AzureVm → γ → List Instance × γ
  | [], client => ([], client)
  | vm :: rest, client =>
    let (first, client) := report? tagKey vm client
    let (others, client) := reportAll tagKey rest client
    (first.toList ++ others, client)

/-- Reports the machines that have a group. -/
def scrape (a : Azure γ) : Except ProviderFault (List Instance) × Azure γ :=
  let (listed, client) := AzureClient.list a.client
  match listed with
  | .error fault => (.error fault, { a with client })
  | .ok vms =>
    let (instances, client) := reportAll a.tagKey vms client
    (.ok instances, { a with client })

/-- Makes a call about the machine of an id. An id without address is not called about. -/
def callAbout (call : VmAddress → γ → Except ProviderFault Unit × γ) (id : String) (client : γ) :
    Except ProviderFault Unit × γ :=
  match VmAddress.ofId id with
  | .ok address => call address client
  | .error fault => (.error fault, client)

instance : Provider (Azure γ) where
  name _ := "azure"
  scrape := scrape
  start ids a :=
    let (result, client) := forEachId (callAbout AzureClient.start) ids a.client
    (result, { a with client })
  stop ids a :=
    let (result, client) := forEachId (callAbout AzureClient.deallocate) ids a.client
    (result, { a with client })

end Azure
end PowerLease
