import PowerLease.Cloud.Fixture
import PowerLease.CommandLine
import PowerLease.Settings

/-!
# Starting

What happens before the workers run: the command line and the environment are read, the settings are
loaded and overruled by what was read, and the provider is made ready. Files are reached through a
function from their paths to their contents.
-/

namespace PowerLease.Startup

/-- The files that can be read. -/
abbrev Files := String → Option String

/-- The reason that is given for a file that is not there. -/
def missing : String := "No such file or directory (os error 2)"

/-! ## Settings -/

/-- Why settings cannot be loaded. -/
inductive SettingsFault where
  | unreadable (path reason : String)
  | malformed (path : String) (fault : Json.Fault)
deriving DecidableEq, Repr

/-- The wording of a fault. -/
def SettingsFault.message : SettingsFault → String
  | .unreadable path reason => s!"Configuration error: Failed to read config file {path}: {reason}"
  | .malformed path fault =>
    s!"Configuration error: Failed to parse config file {path}: {fault.message}"

/-- Reads the settings of a file. -/
def readSettings (path text : String) : Except (Halt SettingsFault) Settings :=
  match Settings.read text with
  | .ok s => .ok s
  | .error halt => .error (halt.map (.malformed path))

/-- The file of the settings of a user. -/
def userSettings (home : String) : String := s!"{home}/.config/ez2boot/settings.json"

/-- The file of the catalog of a user. -/
def userDatabase (home : String) : String := s!"{home}/.ez2boot/ez2boot.db"

/-- The file that settings are loaded from: the one that is asked for, or else that of the user. -/
def settingsFile (home : String) (asked : Option String) : String := asked.getD (userSettings home)

/-- Loads settings. A file that is asked for has to be there; that of the user need not be. -/
def loadSettings (files : Files) (home : String) (asked : Option String) :
    Except (Halt SettingsFault) Settings :=
  match asked with
  | some path =>
    match files path with
    | some text => readSettings path text
    | none => refuse (.unreadable path missing)
  | none =>
    match files (userSettings home) with
    | some text => readSettings (userSettings home) text
    | none => .ok {}

/-- Settings as the command line overrules them. -/
def overrule (a : CommandLine.Arguments) (s : Settings) : Settings :=
  { database := a.database.or s.database
    provider :=
      { s.provider with
        kind := a.provider.getD s.provider.kind
        tagKey := a.tagKey.getD s.provider.tagKey
        fixture := a.fixture.or s.provider.fixture }
    workers :=
      { s.workers with
        scrapeInterval := a.scrapeInterval.getD s.workers.scrapeInterval
        internalClock := a.internalClock.getD s.workers.internalClock
        warningWindow := a.warningWindow.getD s.workers.warningWindow } }

/-! ## Providers -/

/-- Why there is no provider. -/
inductive LaunchFault where
  /-- The provider needs a client that this program does not have. -/
  | noClient (kind : String)
  | unknownKind (kind : String)
  | provider (fault : ProviderFault)
deriving DecidableEq, Repr

/-- The wording of a fault. -/
def LaunchFault.message : LaunchFault → String
  | .noClient kind =>
    s!"Provider '{kind}' needs an SDK binding implementing its client trait; "
      ++ "only 'memory' is available in this binary"
  | .unknownKind kind => s!"Unknown provider '{kind}'"
  | .provider fault => fault.message

/-- The simulated cloud of a fixture, if there is one, or else one without machines. -/
def simulated (files : Files) : Option String → Except (Halt LaunchFault) SimulatedCloud
  | none => .ok .empty
  | some path =>
    match files path with
    | none => refuse (.provider (Fixture.unreadable path missing))
    | some text =>
      match Fixture.load path text with
      | .ok cloud => .ok cloud
      | .error halt => .error (halt.map .provider)

/-- Makes the provider of some settings ready. -/
def launch (files : Files) (s : ProviderSettings) : Except (Halt LaunchFault) SimulatedCloud :=
  if s.kind = "memory" then simulated files s.fixture
  else if s.kind = "aws" ∨ s.kind = "azure" then refuse (.noClient s.kind)
  else refuse (.unknownKind s.kind)

/-! ## A whole start -/

/-- Why the program does not start. -/
inductive Fault where
  | usage (refusal : CommandLine.Refusal)
  | settings (fault : SettingsFault)
deriving DecidableEq, Repr

/-- What is known when the workers are about to run. -/
structure Plan where
  arguments : CommandLine.Arguments
  settings : Settings
  database : String

/-- Reads the command line and the environment, and loads and overrules the settings. -/
def plan (files : Files) (home : String) (arguments : List String)
    (environment : List (String × String)) : Except (Halt Fault) Plan := do
  let arguments ← (CommandLine.read arguments environment).mapError fun halt => halt.map .usage
  let loaded ←
    (loadSettings files home arguments.config).mapError fun halt => halt.map .settings
  let settings := overrule arguments loaded
  pure { arguments, settings, database := settings.database.getD (userDatabase home) }

/-- The filter of log lines: the level for the program's own parts, and warnings of the store. -/
def logFilter (target level : String) : String :=
  s!"{target}={level},ez2boot_core={level},sqlx=warn"

end PowerLease.Startup
