import PowerLease.Cloud.Provider

/-!
# Amazon EC2

The instances that carry a tag are under control, and the value of the tag is their group. Calls go
through a client, of which only three are needed.
-/

namespace PowerLease

/-- An instance as the client describes it. -/
structure Ec2Instance where
  id : String
  /-- The name of its state, such as `running`. -/
  state : String
  tags : Tags
deriving DecidableEq, Repr

/-- What a client of EC2 can do. -/
class Ec2Client (γ : Type) where
  /-- The instances that carry a tag. -/
  describe : String → γ → Except ProviderFault (List Ec2Instance) × γ
  start : String → γ → Except ProviderFault Unit × γ
  stop : String → γ → Except ProviderFault Unit × γ

/-- EC2 through a client. -/
structure Ec2 (γ : Type) where
  client : γ
  /-- The name of the tag that names the group. -/
  tagKey : String

namespace Ec2

/-- The state that a name stands for. Whatever does not run, or is not on its way, is off. -/
def powerState (name : String) : PowerState :=
  if name = "running" then .on
  else if name = "pending" ∨ name = "stopping" then .transitioning
  else .off

/-- What is reported of an instance; nothing, if it has no group. Its name is a tag too. -/
def report? (tagKey : String) (i : Ec2Instance) : Option Instance :=
  (i.tags.value? tagKey).map fun group =>
    { id := i.id, name := (i.tags.value? "Name").getD i.id, group, state := powerState i.state }

variable {γ : Type} [Ec2Client γ]

/-- Reports the instances that have a group. -/
def scrape (e : Ec2 γ) : Except ProviderFault (List Instance) × Ec2 γ :=
  let (described, client) := Ec2Client.describe e.tagKey e.client
  (described.map fun instances => instances.filterMap (report? e.tagKey), { e with client })

instance : Provider (Ec2 γ) where
  name _ := "aws"
  scrape := scrape
  start ids e :=
    let (result, client) := forEachId Ec2Client.start ids e.client
    (result, { e with client })
  stop ids e :=
    let (result, client) := forEachId Ec2Client.stop ids e.client
    (result, { e with client })

end Ec2
end PowerLease
