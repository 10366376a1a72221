import PowerLease.Rehearsal.Script

/-!
# The cloud of a rehearsal

One of the clouds with which the program can be rehearsed, and the changes that can be made to it
from outside.
-/

namespace PowerLease.Rehearsal

/-- A cloud with which the program can be rehearsed. -/
inductive Cloud where
  | simulated (cloud : SimulatedCloud)
  | scripted (cloud : ScriptedCloud)
  | ec2 (cloud : Ec2 ScriptedEc2)
  | azure (cloud : Azure ScriptedAzure)

namespace Cloud

/-- The cloud of a kind, with nothing in it. -/
def ofKind (kind tagKey : String) : Cloud :=
  if kind = "scripted" then .scripted {}
  else if kind = "aws" then .ec2 { client := {}, tagKey }
  else if kind = "azure" then .azure { client := {}, tagKey }
  else .simulated .empty

/-! ## As a provider -/

/-- The name of the provider. -/
def name : Cloud → String
  | simulated c => Provider.name c
  | scripted c => Provider.name c
  | ec2 c => Provider.name c
  | azure c => Provider.name c

/-- A call to the provider. -/
def call {α : Type} (f : {σ : Type} → [Provider σ] → σ → α × σ) : Cloud → α × Cloud
  | simulated c => let (a, c) := f c; (a, simulated c)
  | scripted c => let (a, c) := f c; (a, scripted c)
  | ec2 c => let (a, c) := f c; (a, ec2 c)
  | azure c => let (a, c) := f c; (a, azure c)

instance : Provider Cloud where
  name := name
  scrape := call Provider.scrape
  start ids := call (Provider.start ids)
  stop ids := call (Provider.stop ids)

/-! ## Calls that were written down -/

/-- The script, unless the cloud is simulated. -/
def script? : Cloud → Option Script
  | simulated _ => none
  | scripted c => some c.script
  | ec2 c => some c.client.script
  | azure c => some c.client.script

/-- Changes the script. -/
def mapScript (f : Script → Script) : Cloud → Cloud
  | simulated c => simulated c
  | scripted c => scripted { c with script := f c.script }
  | ec2 c => ec2 { c with client := { c.client with script := f c.client.script } }
  | azure c => azure { c with client := { c.client with script := f c.client.script } }

/-- The calls that were written down, which are then forgotten. A simulated cloud writes none
down. -/
def takeCalls (c : Cloud) : Option (List String) × Cloud :=
  (c.script?.map Script.calls, c.mapScript fun s => { s with calls := [] })

/-! ## Changes from outside -/

/-- What is replaced in a cloud. -/
structure Change where
  instances : Option (List Instance) := none
  ec2 : Option (List Ec2Instance) := none
  machines : Option (List AzureVm) := none
  codes : Option (List (String × List String)) := none
  failing : Option (List String) := none
  scrapeFault : Option (Option ProviderFault) := none
  startFault : Option (Option ProviderFault) := none
  stopFault : Option (Option ProviderFault) := none

/-- Replaces parts of a script. -/
def Change.script (d : Change) (s : Script) : Script :=
  { s with
    failing := d.failing.getD s.failing
    scrapeFault := d.scrapeFault.getD s.scrapeFault
    startFault := d.startFault.getD s.startFault
    stopFault := d.stopFault.getD s.stopFault }

/-- Replaces parts of a cloud. Those that it does not have are passed over. -/
def change (d : Change) (c : Cloud) : Cloud :=
  match c.mapScript d.script with
  | simulated c => simulated (d.instances.elim c .ofInstances)
  | scripted c => scripted { c with instances := d.instances.getD c.instances }
  | ec2 c =>
    ec2 { c with client := { c.client with instances := d.ec2.getD c.client.instances } }
  | azure c =>
    azure
      { c with
        client :=
          { c.client with
            machines := d.machines.getD c.client.machines
            codes := d.codes.getD c.client.codes } }

/-- Changes a simulated cloud; other clouds have none of what is changed. -/
def onSimulated {α : Type} (default : α) (f : SimulatedCloud → α × SimulatedCloud) :
    Cloud → α × Cloud
  | simulated c => let (a, c) := f c; (a, simulated c)
  | other => (default, other)

end Cloud
end PowerLease.Rehearsal
