import PowerLease.Duration.Printer
import PowerLease.Duration.Reader
import PowerLease.Json.Decode
import PowerLease.Json.Printer

/-!
# Settings

How the program is set up: which provider it looks after, how often its workers run, and where the
catalog is kept. Settings are read from and written to a file in JSON. Everything in that file has a
default, and durations are written as text; unlike on the command line they may be of no length, and
blanks around them count.
-/

namespace PowerLease

/-- Which provider is looked after, and how its instances are picked. -/
structure ProviderSettings where
  /-- The name of the provider. -/
  kind : String := "memory"
  /-- The tag that puts an instance under control, and whose value names its group. -/
  tagKey : String := "ez2boot"
  awsRegion : String := "ap-southeast-2"
  azureSubscription : Option String := none
  /-- The file that holds the instances of the simulated cloud. -/
  fixture : Option String := none
deriving DecidableEq, Repr

/-- How often the workers run. -/
structure WorkerSettings where
  /-- Between two reports of the provider. -/
  scrapeInterval : Duration := .ofSeconds 30
  /-- Between two turns of each of the other workers. -/
  internalClock : Duration := .ofSeconds 10
  /-- How long before its expiry a session is warned. -/
  warningWindow : Duration := .ofSeconds 900
  /-- Whether the first report is asked for at once. -/
  scrapeOnStart : Bool := true
deriving DecidableEq

/-- How the program is set up. -/
structure Settings where
  provider : ProviderSettings := {}
  workers : WorkerSettings := {}
  /-- The file that holds the catalog. -/
  database : Option String := none
deriving DecidableEq

namespace Settings

/-! ## Reading -/

/-- A duration in a file. -/
def duration : Json.Decoder Duration := Json.parsed Duration.read Duration.Fault.message

/-- The part about the provider. -/
def provider? : Json.Decoder ProviderSettings := fun v => do
  let standard : ProviderSettings := {}
  let (kind, tagKey, awsRegion, azureSubscription, fixture, ()) ←
    Json.record "struct ProviderConfig"
      (Json.fieldOr "kind" Json.string standard.kind
        (Json.fieldOr "tag_key" Json.string standard.tagKey
          (Json.fieldOr "aws_region" Json.string standard.awsRegion
            (Json.fieldOr "azure_subscription_id" (Json.optional Json.string)
              standard.azureSubscription
              (Json.fieldOr "fixture_path" (Json.optional Json.path) standard.fixture .done))))) v
  pure { kind, tagKey, awsRegion, azureSubscription, fixture }

/-- The part about the workers. -/
def workers? : Json.Decoder WorkerSettings := fun v => do
  let standard : WorkerSettings := {}
  let (scrapeInterval, internalClock, warningWindow, scrapeOnStart, ()) ←
    Json.record "struct WorkerConfig"
      (Json.fieldOr "scrape_interval" duration standard.scrapeInterval
        (Json.fieldOr "internal_clock" duration standard.internalClock
          (Json.fieldOr "warning_window" duration standard.warningWindow
            (Json.fieldOr "scrape_on_start" Json.bool standard.scrapeOnStart .done)))) v
  pure { scrapeInterval, internalClock, warningWindow, scrapeOnStart }

/-- Settings as a whole. -/
def decoder : Json.Decoder Settings := fun v => do
  let (provider, workers, database, ()) ←
    Json.record "struct Config"
      (Json.fieldOr "provider" provider? {}
        (Json.fieldOr "workers" workers? {}
          (Json.fieldOr "database_path" (Json.optional Json.path) none .done))) v
  pure { provider, workers, database }

/-- Reads settings from the text of a file. -/
def read (text : String) : Except (Halt Json.Fault) Settings := Json.decodeText decoder text

/-! ## Writing -/

/-- A duration in a file. -/
def ofDuration (d : Duration) : Json.Value := .text d.render

/-- Settings as a value in JSON. -/
def toJson (s : Settings) : Json.Value :=
  .record
    [("provider", .record
      [("kind", .text s.provider.kind), ("tag_key", .text s.provider.tagKey),
        ("aws_region", .text s.provider.awsRegion),
        ("azure_subscription_id", .optional .text s.provider.azureSubscription),
        ("fixture_path", .optional .text s.provider.fixture)]),
      ("workers", .record
        [("scrape_interval", ofDuration s.workers.scrapeInterval),
          ("internal_clock", ofDuration s.workers.internalClock),
          ("warning_window", ofDuration s.workers.warningWindow),
          ("scrape_on_start", .bool s.workers.scrapeOnStart)]),
      ("database_path", .optional .text s.database)]

/-- The text of a file that holds the settings. -/
def render (s : Settings) : String := s.toJson.render

/-- Whether settings come back from their file as they were written. -/
def survives (s : Settings) : Except (Halt Json.Fault) Bool :=
  (read s.render).map fun again => again.render == s.render

end Settings
end PowerLease
