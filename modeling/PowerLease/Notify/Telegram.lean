import PowerLease.Notify.Network

/-!
# Telegram

A bot posts messages into a chat. Its token is part of the address to which they are posted; a notice
is posted without its title.
-/

namespace PowerLease

/-- The config of a chat. -/
structure Telegram where
  /-- The token of the bot. -/
  token : String
  chat : String
deriving DecidableEq, Repr

namespace Telegram

/-- A config in JSON. -/
def decoder : Json.Decoder Telegram := fun v => do
  let (token, chat, ()) ←
    Json.record "struct TelegramConfig"
      (Json.field "token" Json.string (Json.field "chat_id" Json.string .done)) v
  pure { token, chat }

/-- Judges a config. -/
def validate (config : String) : Except (Halt ChannelFault) Unit := do
  let t ← Channel.readConfig decoder config
  Channel.require "token" t.token
  Channel.require "chat_id" t.chat

/-- What is posted into a chat. -/
def payload (chat message : String) : Json.Value :=
  .record [("chat_id", .text chat), ("text", .text message)]

/-- The address of the service. -/
def service : String := "https://api.telegram.org"

/-- The address for messages, under that of a service. Slashes at the end of that do not count. -/
def address (base token : String) : String :=
  let base := String.ofList (base.toList.reverse.dropWhile (· == '/')).reverse
  s!"{base}/bot{token}/sendMessage"

/-- Delivers a notice. -/
def send {ν : Type} [Network ν] (base : String) (d : Delivery) (network : ν) :
    Except (Halt ChannelFault) Unit × ν :=
  match Channel.readConfig decoder d.config with
  | .error halt => (.error halt, network)
  | .ok t => Network.postJson (address base t.token) (payload t.chat d.message) network

/-- The channel, at a service. -/
def channel {ν : Type} [Network ν] (base : String) : Channel ν :=
  { type := "telegram", label := "Telegram", validate, send := send base }

end Telegram
end PowerLease
