import PowerLease.Catalog.Sync

/-!
# Providers

A provider owns the real servers. It can be asked for all of them at once, and it can be told to
start or to stop some. Starting and stopping pass over the servers that fail one by one; a fault
means that nothing could be tried.

A provider has a state, which every call may change, so each call returns the provider after it.
-/

namespace PowerLease

/-- Why a provider does not do what it is asked for. -/
inductive ProviderFault where
  /-- The provider refused a call, or failed in it. -/
  | api (message : String)
  /-- What the provider says of an instance makes no sense. -/
  | invalidInstance (message : String)
  /-- The provider cannot be reached, or is not set up. -/
  | unavailable (message : String)
deriving DecidableEq, Repr

/-- The wording of a fault. -/
def ProviderFault.message : ProviderFault → String
  | .api message => s!"Provider API error: {message}"
  | .invalidInstance message => s!"Invalid instance: {message}"
  | .unavailable message => s!"Provider unavailable: {message}"

/-- What every provider offers. Ids to start or to stop come in ascending order, each once. -/
class Provider (σ : Type) where
  /-- The name of the provider. -/
  name : σ → String
  /-- All instances that are under its control. -/
  scrape : σ → Except ProviderFault (List Instance) × σ
  /-- Starts instances. -/
  start : List String → σ → Except ProviderFault Unit × σ
  /-- Stops instances. -/
  stop : List String → σ → Except ProviderFault Unit × σ

/-- Tags of an instance, by their names. -/
abbrev Tags := List (String × String)

/-- The value of a tag. -/
def Tags.value? (tags : Tags) (name : String) : Option String :=
  (tags.find? fun t => t.1 == name).map Prod.snd

/-- Makes a call for one id after another. What a call answers makes no difference to the next. -/
def forEachId {γ : Type} (call : String → γ → Except ProviderFault Unit × γ) :
    List String → γ → Except ProviderFault Unit × γ
  | [], client => (.ok (), client)
  | id :: rest, client => forEachId call rest (call id client).2

end PowerLease
