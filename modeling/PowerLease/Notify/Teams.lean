import PowerLease.Notify.Network

/-!
# Teams

A webhook takes cards for a conversation. The card of a notice has its title in bold above its
message.
-/

namespace PowerLease

/-- The config of a conversation. -/
structure Teams where
  /-- The address to which cards are posted. -/
  webhook : String
deriving DecidableEq, Repr

namespace Teams

/-- A config in JSON. -/
def decoder : Json.Decoder Teams := fun v => do
  let (webhook, ()) ←
    Json.record "struct TeamsConfig" (Json.field "webhook" Json.string .done) v
  pure { webhook }

/-- Judges a config. The webhook has to be a URL, but any one will do. -/
def validate (config : String) : Except (Halt ChannelFault) Unit := do
  let t ← Channel.readConfig decoder config
  Channel.require "webhook" t.webhook
  match Url.read t.webhook with
  | .ok _ => pure ()
  | .error fault => refuse (.invalidConfig (.url "webhook" fault))

/-- A block of text in a card. -/
def block (text : String) (emphasis : List (String × Json.Value)) : Json.Value :=
  .record
    ([("type", .text "TextBlock"), ("text", .text text)] ++ emphasis ++ [("wrap", .bool true)])

/-- The card of a notice. -/
def card (title message : String) : Json.Value :=
  .record
    [("type", .text "AdaptiveCard"), ("version", .text "1.4"),
      ("body", .list [block title [("weight", .text "Bolder")], block message []])]

/-- Delivers a notice. -/
def send {ν : Type} [Network ν] (d : Delivery) (network : ν) :
    Except (Halt ChannelFault) Unit × ν :=
  match Channel.readConfig decoder d.config with
  | .error halt => (.error halt, network)
  | .ok t => Network.postJson t.webhook (card d.title d.message) network

/-- The channel. -/
def channel {ν : Type} [Network ν] : Channel ν :=
  { type := "teams", label := "Teams", validate, send }

end Teams
end PowerLease
