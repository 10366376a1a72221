import PowerLease.Cloud.Provider

/-!
# A simulated cloud

Machines that exist only here, for trying the program out. Starting a machine that is off, or
stopping one that is on, puts it on its way; the next report shows it where it was going. Single
machines can be made to fail, which leaves them as they are, and the whole cloud can be made
unavailable, which refuses every report.

The machines stand in the order of their ids, one for each id.
-/

namespace PowerLease

/-- A machine of the simulated cloud. -/
structure Machine where
  /-- What the cloud reports of it. -/
  shown : Instance
  /-- Where it will be at the next report, if it is on its way. -/
  settlesTo : Option Target
deriving DecidableEq, Repr

/-- A cloud that exists only here. -/
structure SimulatedCloud where
  /-- In the order of their ids. -/
  machines : List Machine
  /-- The ids whose machines neither start nor stop. -/
  failing : List String
  /-- Whether reports are refused. -/
  unavailable : Bool
deriving DecidableEq, Repr

namespace Machine

/-- The id of a machine. -/
def id (m : Machine) : String := m.shown.id

/-- A machine that has arrived where it was going. -/
def settle (m : Machine) : Machine :=
  match m.settlesTo with
  | some t => { shown := { m.shown with state := t.state }, settlesTo := none }
  | none => m

/-- A machine on its way to a target, if it is where such a way begins. -/
def send (source target : Target) (m : Machine) : Machine :=
  if m.shown.state = source.state then
    { shown := { m.shown with state := .transitioning }, settlesTo := some target }
  else m

end Machine

namespace SimulatedCloud

/-- The cloud without machines. -/
def empty : SimulatedCloud := ⟨[], [], false⟩

/-- Puts a machine in its place, for the one that has its id if there is one. -/
def place (m : Machine) : List Machine → List Machine
  | [] => [m]
  | n :: rest =>
    if m.id < n.id then m :: n :: rest
    else if m.id = n.id then m :: rest
    else n :: place m rest

/-- Adds an instance, or replaces the one of its id. -/
def put (i : Instance) (c : SimulatedCloud) : SimulatedCloud :=
  { c with machines := place ⟨i, none⟩ c.machines }

/-- The cloud of some instances. Of several with one id the last counts. -/
def ofInstances (instances : List Instance) : SimulatedCloud :=
  instances.foldl (fun c i => c.put i) empty

/-- Removes the machine of an id, and says whether there was one. -/
def remove (id : String) (c : SimulatedCloud) : Bool × SimulatedCloud :=
  (c.machines.any fun m => m.id == id,
   { c with machines := c.machines.filter fun m => m.id != id })

/-- Makes the machine of an id fail, or work again. -/
def setFailing (id : String) (fails : Bool) (c : SimulatedCloud) : SimulatedCloud :=
  let others := c.failing.filter fun other => other != id
  { c with failing := if fails then id :: others else others }

/-- Refuses reports, or gives them again. -/
def setUnavailable (refuses : Bool) (c : SimulatedCloud) : SimulatedCloud :=
  { c with unavailable := refuses }

/-- The state of the machine of an id, which this does not settle. -/
def stateOf (id : String) (c : SimulatedCloud) : Option PowerState :=
  (c.machines.find? fun m => m.id == id).map fun m => m.shown.state

/-- Whether a machine does as it is told. -/
def obeys (c : SimulatedCloud) (ids : List String) (m : Machine) : Bool :=
  ids.contains m.id && !c.failing.contains m.id

/-- Sends machines from one target to another. Ids that are failing, unknown or elsewhere are passed
over. -/
def transition (source target : Target) (ids : List String) (c : SimulatedCloud) :
    SimulatedCloud :=
  { c with machines := c.machines.map fun m => if c.obeys ids m then m.send source target else m }

/-- Reports all machines, each where it was going. -/
def scrape (c : SimulatedCloud) : Except ProviderFault (List Instance) × SimulatedCloud :=
  if c.unavailable then (.error (.unavailable "simulated outage"), c)
  else
    let settled := c.machines.map Machine.settle
    (.ok (settled.map Machine.shown), { c with machines := settled })

instance : Provider SimulatedCloud where
  name _ := "memory"
  scrape := scrape
  start ids c := (.ok (), c.transition .off .on ids)
  stop ids c := (.ok (), c.transition .on .off ids)

end SimulatedCloud
end PowerLease
