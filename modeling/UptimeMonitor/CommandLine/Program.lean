import UptimeMonitor.CommandLine.Arguments
import UptimeMonitor.Config.Environment
import UptimeMonitor.Config.EnvFile
import UptimeMonitor.Json.Writer
import UptimeMonitor.Script.Validation
import UptimeMonitor.Seed.Basic

/-!
# The program

What a run of the program does, up to the point from which it sweeps without end. Files are read
by given actions, so that the same program runs on real files and on given texts.

- `Surroundings`: files and the environment.
- `ProgramOutcome`: how a run ends, with its `exitCode`, `stdout` and `stderr`.
- `Program.run`: the outcome of a command line.
-/

namespace UptimeMonitor

/-- The version of the program. -/
def programVersion : String := "0.1.0"

/-- What a program finds around it: files by their paths, the file of variables that is in force
where it runs, and the environment. -/
structure Surroundings (m : Type → Type) where
  readFile : String → m (Option String)
  variablesFile : m (Option String)
  environment : List (String × String)

/-- How a run of the program ends. A failure has a reason, and may have printed something before. A
run that serves does not end, nor does one whose only sweep is never over. -/
inductive ProgramOutcome where
  | success (printed : String)
  | failure (printed : String) (reason : String)
  | usage (error : UsageError)
  | serving (config : Config) (settings : SweepSettings) (world : World)
  | sweeping

namespace ProgramOutcome

/-- The exit code. -/
def exitCode : ProgramOutcome → Nat
  | success _ => 0
  | failure _ _ => 1
  | usage _ => 2
  | serving _ _ _ => 0
  | sweeping => 0

/-- What was printed to standard output. -/
def stdout : ProgramOutcome → String
  | success printed => printed
  | _ => ""

/-- What was printed to standard error, the reason of a failure aside. -/
def stderr : ProgramOutcome → String
  | failure printed _ => printed
  | usage error => error.message ++ "\n"
  | _ => ""

end ProgramOutcome

namespace Program

/-- The answer to a request for help. -/
def helpText : String := "\n".intercalate [
  "Usage: pulsewatch [OPTIONS]",
  "",
  "Options:",
  "  -c, --config <CONFIG>    Path to the configuration file",
  "  -s, --seed <SEED>        TOML file with monitors, channels and subscriptions to load at " ++
    "startup",
  "      --once               Run a single sweep, print the summary as JSON and exit",
  "      --validate <SCRIPT>  Validate a script document and exit",
  "  -h, --help               Print help",
  "  -V, --version            Print version",
  ""]

/-- Checks a script. -/
def validate (source : Option String) : ProgramOutcome :=
  match source with
  | none => .failure "" "the script cannot be read"
  | some source =>
    match Script.parse source with
    | .ok script => .success s!"Script is valid ({script.steps.length} step(s)).\n"
    | .error e => .failure (e.message ++ "\n") e.message

/-- Makes one sweep and prints its summary, or goes on to sweep at regular times. The name of the
agent has to fit a header field. -/
def start (once : Bool) (config : Config) (key : SealKey) (w : World) : ProgramOutcome :=
  let settings := config.sweepSettings key
  -- found when the client is made, before anything is sent
  if !Http.isHeaderValue config.userAgent then .failure "" "the user agent is not a header value"
  else if once then
    let (_, summary) := sweep settings w
    if summary.over then .success (summary.toJson.prettyText ++ "\n") else .sweeping
  else .serving config settings w

/-- Fills the store from the seed file, if there is one to be read, and starts. -/
def startSeeded (once : Bool) (config : Config) (key : SealKey)
    (seed : Option (Option String)) (w : World) : ProgramOutcome :=
  match seed with
  | none => start once config key w
  | some contents =>
    match Seed.load key w contents with
    | (w, .ok _) => start once config key w
    | (_, .error e) => .failure "" e.message

/-- Runs with the settings of the configuration file and the environment. -/
def runConfigured [Monad m] (around : Surroundings m) (a : Arguments) (w : World) :
    m ProgramOutcome := do
  let environment := match ← around.variablesFile with
    | some contents => EnvFile.extend around.environment contents
    | none => around.environment
  let file ← match a.config with
    | some path => do pure (some (path, ← around.readFile path))
    | none => pure none
  match Config.load file environment with
  | .error e =>
    return .failure s!"Failed to load server configuration: {e.message}\n" e.message
  | .ok config =>
    match SealKey.ofHex config.encryptionKey with
    | .error e => return .failure "" e.message
    | .ok key =>
      -- the option counts before the setting
      let seed ← match a.seed <|> config.seedFile with
        | some path => do pure (some (← around.readFile path))
        | none => pure none
      return startSeeded a.once config key seed w

/-- The outcome of a command line. A request for the version comes before everything else, also
before the check of the other arguments. -/
def run [Monad m] (around : Surroundings m) (w : World) (arguments : List String) :
    m ProgramOutcome := do
  if arguments.contains "--version" then
    return .success s!"pulsewatch version: {programVersion}\n"
  match Invocation.ofArguments arguments with
  | .error e => return .usage e
  | .ok .help => return .success helpText
  | .ok .version => return .success s!"pulsewatch {programVersion}\n"
  | .ok (.run a) =>
    match a.validate with
    | some path => return validate (← around.readFile path)
    | none => runConfigured around a w

end Program

end UptimeMonitor
