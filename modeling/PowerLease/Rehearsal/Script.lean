import PowerLease.Cloud.Aws
import PowerLease.Cloud.Azure
import PowerLease.Cloud.Simulated
import PowerLease.Text.Quoted

/-!
# Scripted clouds

Clouds and clients that do as they are told and write down which calls were made. Nothing in them
changes by itself: an instance that was started is shown as it was before, until the script says
otherwise.
-/

namespace PowerLease.Rehearsal

/-- What calls answer, and which were made. -/
structure Script where
  /-- What asking for a report answers, if it fails. -/
  scrapeFault : Option ProviderFault := none
  startFault : Option ProviderFault := none
  stopFault : Option ProviderFault := none
  /-- Who neither starts nor stops. -/
  failing : List String := []
  /-- The calls, in their order. -/
  calls : List String := []
deriving DecidableEq, Repr

namespace Script

/-- Writes a call down. -/
def record (call : String) (s : Script) : Script := { s with calls := s.calls ++ [call] }

/-- An answer that is a fault if there is one. -/
def answer : Option ProviderFault → Except ProviderFault Unit
  | some fault => .error fault
  | none => .ok ()

/-- Makes a call about one machine. -/
def callAbout (fault : Option ProviderFault) (call machine : String) (s : Script) :
    Except ProviderFault Unit × Script :=
  match fault with
  | some fault => (.error fault, s)
  | none =>
    if s.failing.contains machine then
      (.error (.api s!"{call} refused"), s.record s!"{call} refused")
    else (.ok (), s.record call)

end Script

/-! ## A cloud -/

/-- A cloud that does as it is told. -/
structure ScriptedCloud where
  script : Script := {}
  instances : List Instance := []
deriving DecidableEq, Repr

instance : Provider ScriptedCloud where
  name _ := "scripted"
  scrape c := ((Script.answer c.script.scrapeFault).map fun _ => c.instances, c)
  start ids c :=
    (Script.answer c.script.startFault,
     { c with script := c.script.record s!"start {Text.quotedSet ids}" })
  stop ids c :=
    (Script.answer c.script.stopFault,
     { c with script := c.script.record s!"stop {Text.quotedSet ids}" })

/-! ## Clients -/

/-- A client of EC2 that does as it is told. -/
structure ScriptedEc2 where
  script : Script := {}
  instances : List Ec2Instance := []
deriving DecidableEq, Repr

instance : Ec2Client ScriptedEc2 where
  describe tag c :=
    let script := c.script.record s!"describe {tag}"
    ((Script.answer script.scrapeFault).map fun _ => c.instances, { c with script })
  start id c :=
    let (result, script) := c.script.callAbout c.script.startFault s!"start {id}" id
    (result, { c with script })
  stop id c :=
    let (result, script) := c.script.callAbout c.script.stopFault s!"stop {id}" id
    (result, { c with script })

/-- A client of Azure that does as it is told. -/
structure ScriptedAzure where
  script : Script := {}
  machines : List AzureVm := []
  /-- The codes of machines, by their names. -/
  codes : List (String × List String) := []
deriving DecidableEq, Repr

/-- A machine as calls write it down. -/
def machineName (a : VmAddress) : String := s!"{a.resourceGroup}/{a.vmName}"

instance : AzureClient ScriptedAzure where
  list c := ((Script.answer c.script.scrapeFault).map fun _ => c.machines, c)
  statuses a c :=
    let c := { c with script := c.script.record s!"statuses {machineName a}" }
    match c.codes.find? fun entry => entry.1 == a.vmName with
    | some entry => (.ok entry.2, c)
    | none => (.error (.api s!"no codes of {machineName a}"), c)
  start a c :=
    let (result, script) :=
      c.script.callAbout c.script.startFault s!"start {machineName a}" a.vmName
    (result, { c with script })
  deallocate a c :=
    let (result, script) :=
      c.script.callAbout c.script.stopFault s!"deallocate {machineName a}" a.vmName
    (result, { c with script })

end PowerLease.Rehearsal
