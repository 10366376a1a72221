import PowerLease.Cloud.Simulated
import PowerLease.Json.Decode

/-!
# Fixtures

A fixture is a file in JSON that lists the instances with which the simulated cloud begins.
-/

namespace PowerLease.Fixture

/-- An instance in a fixture. -/
def instance? : Json.Decoder Instance := fun v => do
  let (id, name, group, state, ()) ←
    Json.record "struct ScrapedInstance"
      (Json.field "unique_id" Json.string
        (Json.field "name" Json.string
          (Json.field "server_group" Json.string
            (Json.field "state" (Json.oneOf (PowerState.all.map fun s => (s.name, s))) .done)))) v
  pure { id, name, group, state }

/-- The instances of a fixture. -/
def read (text : String) : Except (Halt Json.Fault) (List Instance) :=
  Json.decodeText (Json.array instance?) text

/-- The fault of a file that cannot be read. -/
def unreadable (path reason : String) : ProviderFault :=
  .unavailable s!"Failed to read fixture {path}: {reason}"

/-- The fault of a file that is no fixture. -/
def malformed (path : String) (fault : Json.Fault) : ProviderFault :=
  .invalidInstance s!"Failed to parse fixture {path}: {fault.message}"

/-- The simulated cloud of a fixture. -/
def load (path text : String) : Except (Halt ProviderFault) SimulatedCloud :=
  match read text with
  | .ok instances => .ok (.ofInstances instances)
  | .error halt => .error (halt.map (malformed path))

end PowerLease.Fixture
