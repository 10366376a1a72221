import PowerLease.Catalog.Queue
import PowerLease.Catalog.Store
import PowerLease.Notify.Email
import PowerLease.Notify.Teams
import PowerLease.Notify.Telegram

/-!
# The registry of channels

The channels that users can choose from, in the order of their types, one for each type. A user's
choice is judged by its channel before it is stored.
-/

namespace PowerLease

/-- The channels that can be chosen. -/
structure Registry (ν : Type) where
  /-- In the order of their types. -/
  channels : List (Channel ν)

namespace Registry

variable {ν : Type}

/-- The registry without channels. -/
def empty : Registry ν := ⟨[]⟩

/-- Puts a channel in its place, for the one of its type if there is one. -/
def place (c : Channel ν) : List (Channel ν) → List (Channel ν)
  | [] => [c]
  | d :: rest =>
    if c.type < d.type then c :: d :: rest
    else if c.type = d.type then c :: rest
    else d :: place c rest

/-- Adds a channel, or replaces the one of its type. -/
def register (c : Channel ν) (r : Registry ν) : Registry ν := ⟨place c r.channels⟩

/-- The registry of some channels. -/
def ofChannels (cs : List (Channel ν)) : Registry ν := cs.foldl (fun r c => r.register c) empty

/-- The channel of a type. -/
def find? (type : String) (r : Registry ν) : Option (Channel ν) :=
  r.channels.find? fun c => c.type == type

/-- The types, and the names that are shown for them. -/
def labels (r : Registry ν) : List (String × String) := r.channels.map fun c => (c.type, c.label)

/-- Judges a config for a channel. -/
def validate (type config : String) (r : Registry ν) : Except (Halt ChannelFault) Unit :=
  match r.find? type with
  | none => refuse (.unsupported type)
  | some c => c.validate config

/-- The channels of a network. -/
def standard [Network ν] : Registry ν :=
  ofChannels [Email.channel, Telegram.channel Telegram.service, Teams.channel]

/-- Stores the channel that a user chooses, if the channel accepts its config. -/
def choose (choice : Setting) (r : Registry ν) (store : Store) :
    Except (Halt ChannelFault) Unit × Store :=
  match r.validate choice.channel choice.config with
  | .error halt => (.error halt, store)
  | .ok () =>
    match store.run fun c => ((), c.setSetting choice) with
    | (.error fault, store) => (refuse (.store fault), store)
    | (.ok (), store) => (.ok (), store)

end Registry
end PowerLease
