import UptimeMonitor.Config.Basic
import UptimeMonitor.Decimal.Integer
import UptimeMonitor.Text.LetterCase

/-!
# Settings from the environment

- `EnvironmentError`: why the environment cannot be used, with its `message`.
- `ConfigLayer.ofEnvironment`: the layer of environment variables.
- `Config.load`: all settings from a configuration file and the environment.
-/

namespace UptimeMonitor

/-- Why the environment cannot be used: a value is not an integer, or two variables differ only in
letter case. -/
inductive EnvironmentError where
  | notInteger (fault : Decimal.IntegerFault) (name value : String)
  | repeated (setting : String)
deriving DecidableEq, Repr

/-- The wording of an error. -/
def EnvironmentError.message : EnvironmentError → String
  | notInteger fault name value =>
    s!"{fault.message} while parsing value '{value}' provided by {name}"
  | repeated setting => s!"duplicate field `{setting}`"

namespace ConfigLayer

/-- A setting that has to be new. -/
def once (setting : String) (current : Option α) (read : Except EnvironmentError α) :
    Except EnvironmentError (Option α) :=
  if current.isSome then .error (.repeated setting) else read.map some

/-- An integer of a range from a variable. -/
def integerOf (low high : Int) (name value : String) : Except EnvironmentError Int :=
  (Decimal.integerBetween low high value).mapError fun fault => .notInteger fault name value

/-- An integer of 64 bits without a sign from a variable. -/
def word64Of (name value : String) : Except EnvironmentError Nat :=
  (integerOf 0 0xFFFFFFFFFFFFFFFF name value).map Int.toNat

/-- An integer of 64 bits with a sign from a variable. -/
def int64Of (name value : String) : Except EnvironmentError Int :=
  integerOf (-0x8000000000000000) 0x7FFFFFFFFFFFFFFF name value

/-- The layer with one more variable, whose name is taken without regard to letter case. Variables
that are no settings are passed over. -/
def addVariable (l : ConfigLayer) (entry : String × String) :
    Except EnvironmentError ConfigLayer := do
  let (name, value) := entry
  match Text.lower name with
  | "notification_encryption_key" =>
    return { l with
      encryptionKey := ← once "notification_encryption_key" l.encryptionKey (.ok value) }
  | "vapid_subject" =>
    return { l with vapidSubject := ← once "vapid_subject" l.vapidSubject (.ok value) }
  | "user_agent" => return { l with userAgent := ← once "user_agent" l.userAgent (.ok value) }
  | "sweep_interval_seconds" =>
    return { l with
      sweepIntervalSeconds :=
        ← once "sweep_interval_seconds" l.sweepIntervalSeconds (word64Of name value) }
  | "sweep_concurrency" =>
    return { l with
      sweepConcurrency := ← once "sweep_concurrency" l.sweepConcurrency (word64Of name value) }
  | "check_retention_days" =>
    return { l with
      checkRetentionDays :=
        ← once "check_retention_days" l.checkRetentionDays (int64Of name value) }
  | "rollup_retention_days" =>
    return { l with
      rollupRetentionDays :=
        ← once "rollup_retention_days" l.rollupRetentionDays (int64Of name value) }
  | "log_dir" => return { l with logDir := ← once "log_dir" l.logDir (.ok value) }
  | "seed_file" => return { l with seedFile := ← once "seed_file" l.seedFile (.ok value) }
  | _ => return l

/-- The layer of environment variables. -/
def ofEnvironment (environment : List (String × String)) :
    Except EnvironmentError ConfigLayer :=
  environment.foldlM addVariable {}

end ConfigLayer

/-- Why there are no settings. -/
inductive ConfigError where
  | file (path : String)
  | environment (error : EnvironmentError)
deriving DecidableEq, Repr

/-- The wording of an error. -/
def ConfigError.message : ConfigError → String
  | file path => s!"Failed to parse TOML from config file at {Text.shown path}"
  | environment error => s!"Failed to load config from environment: {error.message}"

/-- The layer of a configuration file, empty if there is no file at the path. -/
def ConfigLayer.ofFile (path : String) (contents : Option String) :
    Except ConfigError ConfigLayer :=
  match contents with
  | none => .ok {}
  | some contents =>
    match ofToml? contents with
    | some layer => .ok layer
    | none => .error (.file path)

/-- All settings: the environment over the configuration file, if a path of one is given, over the
defaults. The file is read first. -/
def Config.load (file : Option (String × Option String)) (environment : List (String × String)) :
    Except ConfigError Config := do
  -- an error of the file is reported before one of the environment
  let lower ← match file with
    | some (path, contents) => ConfigLayer.ofFile path contents
    | none => pure {}
  let upper ← (ConfigLayer.ofEnvironment environment).mapError .environment
  return (upper.orElse lower).toConfig

end UptimeMonitor
