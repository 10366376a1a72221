import PowerLease.Json.Value
import PowerLease.Mail.Message
import PowerLease.Notify.Channel
import PowerLease.Url

/-!
# The network

Channels reach others in two ways: they post a value to a web address, and they hand a message to a
mail relay. Posting is never tried for a text that is no address of the web: it needs a scheme of the
web and a host.
-/

namespace PowerLease

/-- The answer to a request. -/
structure HttpReply where
  status : Nat
  body : String
deriving DecidableEq, Repr

/-- Whether an answer tells of success. -/
def HttpReply.isSuccess (r : HttpReply) : Bool := 200 ≤ r.status && r.status < 300

/-- A message that is handed to a relay. -/
structure Submission where
  host : String
  /-- The number behind the host. -/
  gate : Nat
  /-- The name and the password with which the relay is asked. -/
  credentials : Option (String × String)
  message : Mail.Message
deriving DecidableEq, Repr

/-- What a network offers. -/
class Network (ν : Type) where
  /-- Posts a value to an address of the web. There may be no answer. -/
  post : String → Json.Value → ν → Option HttpReply × ν
  /-- Hands a message to a relay, and says whether it was taken. -/
  submit : Submission → ν → Bool × ν

/-- A network in which nobody can be reached. -/
inductive Offline where
  | offline
deriving DecidableEq, Repr

instance : Network Offline where
  post _ _ network := (none, network)
  submit _ network := (false, network)

namespace Network

variable {ν : Type} [Network ν]

/-- Whether a URL is an address of the web. -/
def isWeb (u : Url) : Bool := (u.scheme == "http" || u.scheme == "https") && u.host.isSome

/-- Posts a value, and refuses unless the answer tells of success. -/
def postJson (address : String) (body : Json.Value) (network : ν) :
    Except (Halt ChannelFault) Unit × ν :=
  if (Url.read address).toOption.any isWeb then
    match post address body network with
    | (none, network) => (refuse .request, network)
    | (some reply, network) =>
      (if reply.isSuccess then .ok () else refuse (.api reply.status reply.body), network)
  else (refuse .request, network)

end Network
end PowerLease
