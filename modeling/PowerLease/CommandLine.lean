import PowerLease.Duration.Reader

/-!
# The command line

Options have a long name, and a value that follows behind an equals sign or as the next argument.
Each may come once. What the command line does not give is looked up in the environment, where each
option has a variable. Besides there is one switch, and the two requests for help and the version.

Arguments are taken one after another. An option waits for its value, and it is *settled*, which
tests the value and whether it came before, only when the next option, switch or request is read, or
the arguments are over. So a name that is not known is reported even where the option before it has
a wrong value.
-/

namespace PowerLease.CommandLine

/-- What the command line and the environment say. -/
structure Arguments where
  /-- The file of the settings. -/
  config : Option String := none
  database : Option String := none
  provider : Option String := none
  tagKey : Option String := none
  fixture : Option String := none
  scrapeInterval : Option Duration := none
  internalClock : Option Duration := none
  warningWindow : Option Duration := none
  logLevel : String := "info"
  logJson : Bool := false
deriving DecidableEq

/-- Why arguments are not accepted, or what is asked for in place of a run. -/
inductive Refusal where
  /-- An option has no value, or an empty one where a path is needed. -/
  | invalidValue
  /-- An option comes twice. -/
  | argumentConflict
  /-- A switch has a value. -/
  | tooManyValues
  | unknownArgument
  /-- A value is no duration. -/
  | valueValidation (refusal : Duration.Refusal)
  | displayHelp
  | displayVersion
deriving DecidableEq, Repr

/-- An option. -/
inductive Key where
  | config | database | provider | tagKey | fixture
  | scrapeInterval | internalClock | warningWindow | logLevel
deriving DecidableEq, Repr

namespace Key

/-- All options, in the order in which the environment is searched for them. -/
def all : List Key :=
  [config, database, provider, tagKey, fixture, scrapeInterval, internalClock, warningWindow,
    logLevel]

/-- The long name of an option. -/
def name : Key → String
  | config => "config"
  | database => "db-path"
  | provider => "provider"
  | tagKey => "tag-key"
  | fixture => "fixture"
  | scrapeInterval => "scrape-interval"
  | internalClock => "internal-clock"
  | warningWindow => "warning-window"
  | logLevel => "log-level"

/-- The name of an option in the environment. -/
def environmentName : Key → String
  | config => "EZ2BOOT_CONFIG"
  | database => "EZ2BOOT_DB_PATH"
  | provider => "EZ2BOOT_PROVIDER"
  | tagKey => "EZ2BOOT_TAG_KEY"
  | fixture => "EZ2BOOT_FIXTURE"
  | scrapeInterval => "EZ2BOOT_SCRAPE_INTERVAL"
  | internalClock => "EZ2BOOT_INTERNAL_CLOCK"
  | warningWindow => "EZ2BOOT_WARNING_WINDOW"
  | logLevel => "EZ2BOOT_LOG_LEVEL"

end Key

/-! ## Values -/

/-- A value that names a file, which must not be empty. -/
def pathValue (v : String) : Except (Halt Refusal) String :=
  if v.isEmpty then refuse .invalidValue else .ok v

/-- A value that is a duration. -/
def durationValue (v : String) : Except (Halt Refusal) Duration :=
  match Duration.readPositive v with
  | .ok d => .ok d
  | .error halt => .error (halt.map .valueValidation)

/-- Tests the value of an option, and takes it over. -/
def Arguments.set (a : Arguments) (key : Key) (v : String) : Except (Halt Refusal) Arguments :=
  match key with
  | .config => do return { a with config := some (← pathValue v) }
  | .database => do return { a with database := some (← pathValue v) }
  | .provider => .ok { a with provider := some v }
  | .tagKey => .ok { a with tagKey := some v }
  | .fixture => do return { a with fixture := some (← pathValue v) }
  | .scrapeInterval => do return { a with scrapeInterval := some (← durationValue v) }
  | .internalClock => do return { a with internalClock := some (← durationValue v) }
  | .warningWindow => do return { a with warningWindow := some (← durationValue v) }
  | .logLevel => .ok { a with logLevel := v }

/-! ## Arguments -/

/-- What an argument is by its form. -/
inductive Form where
  /-- Two dashes alone, behind which nothing is an option. -/
  | separator
  /-- A long name, and what stands behind its equals sign. -/
  | long (name : String) (attached : Option String)
  /-- Short names. -/
  | short (names : List Char)
  /-- Anything else, a single dash among it. -/
  | plain (text : String)
deriving DecidableEq, Repr

/-- A long name before its equals sign, and what stands behind that. -/
def splitName (s : List Char) : String × Option String :=
  match s.dropWhile (· != '=') with
  | [] => (String.ofList s, none)
  | _ :: rest => (String.ofList (s.takeWhile (· != '=')), some (String.ofList rest))

/-- The form of an argument. -/
def form (argument : String) : Form :=
  match argument.toList with
  | ['-', '-'] => .separator
  | '-' :: '-' :: rest => let (name, attached) := splitName rest; .long name attached
  | '-' :: c :: rest => .short (c :: rest)
  | _ => .plain argument

/-- What the reader knows after some arguments. -/
structure State where
  arguments : Arguments := {}
  /-- The options that are settled. -/
  settled : List Key := []
  /-- The option that is not settled yet, and its value if that was read. -/
  pending : Option (Key × Option String) := none
  /-- Whether nothing is an option any more. -/
  plainOnly : Bool := false

/-- Settles an option. -/
def State.accept (st : State) (key : Key) (v : String) : Except (Halt Refusal) State := do
  if st.settled.contains key then refuse .argumentConflict
  let arguments ← st.arguments.set key v
  pure { st with arguments, settled := key :: st.settled, pending := none }

/-- Settles the option that waits for that. -/
def State.settle (st : State) : Except (Halt Refusal) State :=
  match st.pending with
  | none => .ok st
  | some (_, none) => refuse .invalidValue
  | some (key, some v) => st.accept key v

/-- Takes a long name. -/
def State.takeLong (st : State) (name : String) (attached : Option String) :
    Except (Halt Refusal) State :=
  match Key.all.find? fun key => key.name == name with
  | some key => do
    let st ← st.settle
    match attached with
    | some v => st.accept key v
    | none => pure { st with pending := some (key, none) }
  | none =>
    if ["log-json", "help", "version"].contains name then
      if attached.isSome then refuse .tooManyValues
      else do
        let st ← st.settle
        if name = "help" then refuse .displayHelp
        else if name = "version" then refuse .displayVersion
        else if st.arguments.logJson then refuse .argumentConflict
        else pure { st with arguments := { st.arguments with logJson := true } }
    else refuse .unknownArgument

/-- Takes short names, of which the first decides. -/
def State.takeShort (st : State) (names : List Char) : Except (Halt Refusal) State :=
  match names with
  | 'h' :: _ => do discard st.settle; refuse .displayHelp
  | 'V' :: _ => do discard st.settle; refuse .displayVersion
  | _ => refuse .unknownArgument

/-- Takes an argument. -/
def State.take (st : State) (argument : String) : Except (Halt Refusal) State :=
  if st.plainOnly then refuse .unknownArgument
  else
    match form argument with
    | .separator => .ok { st with plainOnly := true }
    | .long name attached => st.takeLong name attached
    | .short names => st.takeShort names
    | .plain text =>
      match st.pending with
      | some (key, none) => .ok { st with pending := some (key, some text) }
      | _ => refuse .unknownArgument

/-- Looks an option up in the environment, unless it is settled. -/
def State.lookUp (environment : List (String × String)) (st : State) (key : Key) :
    Except (Halt Refusal) State :=
  if st.settled.contains key then .ok st
  else
    match environment.find? fun entry => entry.1 == key.environmentName with
    | none => .ok st
    | some (_, v) => st.accept key v

/-- Reads arguments in an environment. -/
def read (arguments : List String) (environment : List (String × String)) :
    Except (Halt Refusal) Arguments := do
  let st ← arguments.foldlM State.take {}
  let st ← st.settle
  let st ← Key.all.foldlM (State.lookUp environment) st
  pure st.arguments

end PowerLease.CommandLine
