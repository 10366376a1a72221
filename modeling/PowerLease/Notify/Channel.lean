import PowerLease.Catalog.Basic
import PowerLease.Halt
import PowerLease.Json.Decode
import PowerLease.Mail.Address
import PowerLease.Url

/-!
# Channels

A channel brings notices to users. Each user has a config for it, a text in JSON that the channel
understands. A config is *validated* when a user sets it and *read* again at each delivery; a
delivery asks for less than the validation does.

What a channel reaches, a network or a stand-in for one, has a state `ν` that a delivery may change.
-/

namespace PowerLease

/-- Why a config is none. -/
inductive ConfigFault where
  | json (fault : Json.Fault)
  /-- A field is blank. -/
  | missing (field : String)
  | url (field : String) (fault : UrlFault)
  | address (field : String) (fault : AddressFault)
deriving DecidableEq, Repr

/-- The wording of a fault. -/
def ConfigFault.message : ConfigFault → String
  | .json fault => fault.message
  | .missing field => s!"{field} is missing"
  | .url field fault => s!"{field}: {fault.message}"
  | .address field fault => s!"{field}: {fault.message}"

/-- Why a channel does not do what it is asked for. -/
inductive ChannelFault where
  | invalidConfig (fault : ConfigFault)
  /-- Nobody answered a request. -/
  | request
  /-- A request was answered with a status that is no success. -/
  | api (status : Nat) (body : String)
  /-- A relay did not take a message. -/
  | smtp
  /-- There is no channel of this type. -/
  | unsupported (type : String)
  | store (fault : StoreFault)
deriving DecidableEq, Repr

/-- The wording of a fault. The store words its own, and so does whatever carries a delivery. -/
def ChannelFault.message : ChannelFault → Option String
  | .invalidConfig fault => some s!"Invalid channel config: {fault.message}"
  | .api status body => some s!"API error (status {status}): {body}"
  | .unsupported type => some s!"Unsupported channel type: {type}"
  | .request | .smtp | .store _ => none

/-- A notice on its way to its recipient. -/
structure Delivery where
  title : String
  message : String
  /-- The config of the recipient. -/
  config : String
  /-- The time of the clock, in seconds since the start of 1970. -/
  now : Int
deriving DecidableEq, Repr

/-- A channel that reaches a `ν`. -/
structure Channel (ν : Type) where
  /-- The name under which users choose it. -/
  type : String
  /-- The name that is shown. -/
  label : String
  /-- Judges a config. -/
  validate : String → Except (Halt ChannelFault) Unit
  /-- Delivers a notice. -/
  send : Delivery → ν → Except (Halt ChannelFault) Unit × ν

namespace Channel

/-- Reads a config. -/
def readConfig {α : Type} (decode : Json.Decoder α) (config : String) :
    Except (Halt ChannelFault) α :=
  (Json.decodeText decode config).mapError fun halt =>
    halt.map fun fault => .invalidConfig (.json fault)

/-- Refuses a blank field. -/
def require (field value : String) : Except (Halt ChannelFault) Unit :=
  if Text.isBlankText value then refuse (.invalidConfig (.missing field)) else .ok ()

end Channel
end PowerLease
