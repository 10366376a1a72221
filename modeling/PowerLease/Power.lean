/-!
# Power

Two small vocabularies that must not be mixed up: what a server was last *seen* to be, and what a
lease *wants* it to be. A server can be seen on its way from one to the other; nobody can want it
there.
-/

namespace PowerLease

/-- What a server was last seen to be. -/
inductive PowerState where
  | on
  | off
  /-- On its way from one to the other. -/
  | transitioning
deriving DecidableEq, Repr

/-- What is wanted of a server. -/
inductive Target where
  | on
  | off
deriving DecidableEq, Repr

namespace PowerState

/-- The name of a state, as it is stored and shown. -/
def name : PowerState → String
  | on => "on"
  | off => "off"
  | transitioning => "transitioning"

/-- All states. -/
def all : List PowerState := [on, off, transitioning]

/-- The state of a name. -/
def named? (s : String) : Option PowerState := all.find? fun p => p.name == s

/-- Every state is found under its name, and under no other. -/
theorem named?_eq_some_iff {s : String} {p : PowerState} : named? s = some p ↔ s = p.name := by
  constructor
  · intro h
    have hp := List.find?_some h
    simpa using (beq_iff_eq.mp hp).symm
  · rintro rfl
    cases p <;> decide

/-- The wording for a text that names no state. -/
def unknown (s : String) : String := s!"unknown server state: {s}"

end PowerState

/-- The state in which a target is reached. -/
def Target.state : Target → PowerState
  | .on => .on
  | .off => .off

end PowerLease
