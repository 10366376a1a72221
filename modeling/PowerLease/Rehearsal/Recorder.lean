import PowerLease.Notify.Registry

/-!
# Recording channels

Channels that write down what they were to deliver, and deliver or fail as they are told. They judge
configs as the real ones do; there is one more of them, which accepts every config.
-/

namespace PowerLease.Rehearsal

/-- A delivery that was tried. -/
structure Attempt where
  /-- The type of the channel. -/
  type : String
  delivery : Delivery
  delivered : Bool
deriving DecidableEq, Repr

/-- What recording channels reach. -/
structure Recorder where
  /-- In their order. -/
  attempts : List Attempt := []
  /-- The types that fail, and how. -/
  faults : List (String × ChannelFault) := []
deriving DecidableEq, Repr

namespace Recorder

/-- How a delivery fails to which nobody listens. -/
def unavailable : ChannelFault := .api 503 "unavailable"

/-- How a delivery over a channel of a type fails, if it does. A recipient can ask for it, too. -/
def fault? (type : String) (d : Delivery) (r : Recorder) : Option ChannelFault :=
  if d.config = "fail" then some unavailable
  else (r.faults.find? fun f => f.1 == type).map Prod.snd

/-- Tries a delivery. -/
def send (type : String) (d : Delivery) (r : Recorder) :
    Except (Halt ChannelFault) Unit × Recorder :=
  match r.fault? type d with
  | some fault => (refuse fault, { r with attempts := r.attempts ++ [⟨type, d, false⟩] })
  | none => (.ok (), { r with attempts := r.attempts ++ [⟨type, d, true⟩] })

/-- Makes a type fail, or deliver again. -/
def setFault (type : String) (fault : Option ChannelFault) (r : Recorder) : Recorder :=
  let others := r.faults.filter fun f => f.1 != type
  { r with faults := (fault.map fun f => (type, f)).toList ++ others }

/-- The attempts, which are then forgotten. -/
def takeAttempts (r : Recorder) : List Attempt × Recorder := (r.attempts, { r with attempts := [] })

/-- A recording channel. -/
def channel (type : String) (validate : String → Except (Halt ChannelFault) Unit) :
    Channel Recorder :=
  { type, label := "Recorder", validate, send := send type }

/-- All recording channels. -/
def registry : Registry Recorder :=
  .ofChannels
    [channel "email" Email.validate, channel "telegram" Telegram.validate,
      channel "teams" Teams.validate, channel "inbox" fun _ => .ok ()]

end Recorder
end PowerLease.Rehearsal
