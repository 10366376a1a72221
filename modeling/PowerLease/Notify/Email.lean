import PowerLease.Decimal.Bounded
import PowerLease.Notify.Network

/-!
# Email

Notices are mailed over a relay, with or without a name and a password. The number behind the relay's
host is written as a number or as a text.
-/

namespace PowerLease

/-- The config of a mailbox and its relay. -/
structure Email where
  host : String
  /-- The number behind the host. -/
  gate : Nat
  /-- The recipient. -/
  «to» : String
  /-- The sender. -/
  sender : String
  /-- Whether the relay is asked with a name and a password. -/
  auth : Bool
  user : String
  password : String
deriving DecidableEq, Repr

namespace Email

/-! ## Configs -/

/-- The largest number behind a host. -/
def lastGate : Nat := 65535

/-- How deep a value may be nested in a config. -/
def nestingLimit : Nat := 126

/-- A number behind a host, from the text of it. -/
def gateOfText (s : String) : Except (Halt Json.Fault) Nat :=
  match Decimal.readUpTo lastGate (Text.trimmed s.toList) with
  | .ok n => .ok n
  | .error fault => refuse (.refused fault.message)

/-- A number behind a host. The whole value is read before it is known what it has to be. -/
def gate? : Json.Decoder Nat := fun v =>
  if !Json.isKeepable nestingLimit v then refuse .malformed
  else
    match v with
    | .string (some s) => gateOfText s
    | .number n =>
      match n.quantity with
      | .integer k =>
        if 0 ≤ k ∧ k ≤ lastGate then .ok k.toNat else refuse (.noForm "Port")
      | _ => refuse (.noForm "Port")
    | _ => refuse (.noForm "Port")

/-- A config in JSON. -/
def decoder : Json.Decoder Email := fun v => do
  let (host, gate, «to», sender, auth, user, password, ()) ←
    Json.record "struct EmailConfig"
      (Json.field "host" Json.string
        (Json.field "port" gate?
          (Json.field "to" Json.string
            (Json.field "from" Json.string
              (Json.fieldOr "auth" Json.bool false
                (Json.fieldOr "user" Json.string ""
                  (Json.fieldOr "password" Json.string "" .done))))))) v
  pure { host, gate, «to», sender, auth, user, password }

/-- Reads a config. -/
def read (config : String) : Except (Halt Json.Fault) Email := Json.decodeText decoder config

/-! ## Addresses -/

/-- The mailbox in a field. -/
def mailbox (field value : String) : Except (Halt ChannelFault) Mailbox :=
  match Mailbox.read value with
  | .ok m => .ok m
  | .error fault => refuse (.invalidConfig (.address field fault))

/-- Judges a config that is read. -/
def check (e : Email) : Except (Halt ChannelFault) Unit := do
  Channel.require "host" e.host
  if e.gate = 0 then refuse (.invalidConfig (.missing "port"))
  Channel.require "to" e.to
  Channel.require "from" e.sender
  if e.auth then
    Channel.require "user" e.user
    Channel.require "password" e.password
  let _ ← mailbox "to" e.to
  let _ ← mailbox "from" e.sender

/-- Judges a config. -/
def validate (config : String) : Except (Halt ChannelFault) Unit := do
  check (← Channel.readConfig decoder config)

/-! ## Delivery -/

/-- The message of a notice. It cannot be dated by a clock whose time cannot be written. -/
def letter (e : Email) (title body : String) (now : Int) :
    Except (Halt ChannelFault) Mail.Message := do
  let sender ← mailbox "from" e.sender
  let recipient ← mailbox "to" e.to
  match Calendar.messageDate? now with
  | some date => pure { sender, recipient, subject := title, body, date }
  | none => abort

/-- Delivers a notice. -/
def send {ν : Type} [Network ν] (d : Delivery) (network : ν) :
    Except (Halt ChannelFault) Unit × ν :=
  let prepared := do
    let e ← Channel.readConfig decoder d.config
    let message ← letter e d.title d.message d.now
    pure (e, message)
  match prepared with
  | .error halt => (.error halt, network)
  | .ok (e, message) =>
    let credentials := if e.auth then some (e.user, e.password) else none
    let (taken, network) :=
      Network.submit { host := e.host, gate := e.gate, credentials, message } network
    (if taken then .ok () else refuse .smtp, network)

/-- The channel. -/
def channel {ν : Type} [Network ν] : Channel ν :=
  { type := "email", label := "Email", validate, send }

end Email
end PowerLease
