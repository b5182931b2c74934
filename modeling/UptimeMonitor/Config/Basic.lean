import UptimeMonitor.Notify.Dispatch
import UptimeMonitor.Sweep.Basic
import UptimeMonitor.Toml.Reader

/-!
# Settings of the program

Settings come in layers: the environment over the configuration file over the defaults.

- `Config`: all settings.
- `ConfigLayer`: the settings that one source gives.
- `ConfigLayer.orElse`: one layer on top of another.
- `ConfigLayer.ofToml?`: the layer of a configuration file.
- `Config.sweepSettings`: what the settings mean for sweeps.
-/

namespace UptimeMonitor

/-- All settings. -/
structure Config where
  encryptionKey : String := "000102030405060708090a0b0c0d0e0f101112131415161718191a1b1c1d1e1f"
  vapidSubject : String := "mailto:admin@localhost"
  userAgent : String := defaultAgent
  sweepIntervalSeconds : Nat := 60
  sweepConcurrency : Nat := 8
  checkRetentionDays : Int := 7
  rollupRetentionDays : Int := 365
  logDir : String := "logs"
  seedFile : Option String := none
deriving DecidableEq, Repr

/-- The settings that one source gives. -/
structure ConfigLayer where
  encryptionKey : Option String := none
  vapidSubject : Option String := none
  userAgent : Option String := none
  sweepIntervalSeconds : Option Nat := none
  sweepConcurrency : Option Nat := none
  checkRetentionDays : Option Int := none
  rollupRetentionDays : Option Int := none
  logDir : Option String := none
  seedFile : Option String := none
deriving DecidableEq, Repr

namespace ConfigLayer

/-- One layer on top of another, whose settings show where the upper one gives none. -/
def orElse (upper lower : ConfigLayer) : ConfigLayer where
  encryptionKey := upper.encryptionKey <|> lower.encryptionKey
  vapidSubject := upper.vapidSubject <|> lower.vapidSubject
  userAgent := upper.userAgent <|> lower.userAgent
  sweepIntervalSeconds := upper.sweepIntervalSeconds <|> lower.sweepIntervalSeconds
  sweepConcurrency := upper.sweepConcurrency <|> lower.sweepConcurrency
  checkRetentionDays := upper.checkRetentionDays <|> lower.checkRetentionDays
  rollupRetentionDays := upper.rollupRetentionDays <|> lower.rollupRetentionDays
  logDir := upper.logDir <|> lower.logDir
  seedFile := upper.seedFile <|> lower.seedFile

/-- The layer on top of the defaults. -/
def toConfig (l : ConfigLayer) : Config :=
  let base : Config := {}
  { encryptionKey := l.encryptionKey.getD base.encryptionKey
    vapidSubject := l.vapidSubject.getD base.vapidSubject
    userAgent := l.userAgent.getD base.userAgent
    sweepIntervalSeconds := l.sweepIntervalSeconds.getD base.sweepIntervalSeconds
    sweepConcurrency := l.sweepConcurrency.getD base.sweepConcurrency
    checkRetentionDays := l.checkRetentionDays.getD base.checkRetentionDays
    rollupRetentionDays := l.rollupRetentionDays.getD base.rollupRetentionDays
    logDir := l.logDir.getD base.logDir
    seedFile := l.seedFile }

@[simp] theorem orElse_empty (l : ConfigLayer) : l.orElse {} = l := by
  simp [orElse]

@[simp] theorem empty_orElse (l : ConfigLayer) : orElse {} l = l := by
  simp [orElse]

@[simp] theorem toConfig_empty : toConfig {} = {} := rfl

/-- The settings as fields of a table; other entries are passed over. -/
def layout : Layout where
  name := "Config"
  fields := [
    .of "notification_encryption_key" .omittable Decode.text,
    .of "vapid_subject" .omittable Decode.text,
    .of "user_agent" .omittable Decode.text,
    .of "sweep_interval_seconds" .omittable Decode.word64,
    .of "sweep_concurrency" .omittable Decode.word64,
    .of "check_retention_days" .omittable Decode.int64,
    .of "rollup_retention_days" .omittable Decode.int64,
    .of "log_dir" .omittable Decode.text,
    .of "seed_file" .omittable Decode.text]

/-- The layer in a table. -/
def decode (d : Draft) : Except DecodeFault ConfigLayer := do
  let r ← Record.read layout d
  let setting {α : Type} (name : String) (decode : Decoder α) : Except DecodeFault (Option α) :=
    r.fieldD name (fun d => (decode d).map some) none
  return {
    encryptionKey := ← setting "notification_encryption_key" Decode.text
    vapidSubject := ← setting "vapid_subject" Decode.text
    userAgent := ← setting "user_agent" Decode.text
    sweepIntervalSeconds := ← setting "sweep_interval_seconds" Decode.word64
    sweepConcurrency := ← setting "sweep_concurrency" Decode.word64
    checkRetentionDays := ← setting "check_retention_days" Decode.int64
    rollupRetentionDays := ← setting "rollup_retention_days" Decode.int64
    logDir := ← setting "log_dir" Decode.text
    seedFile := ← setting "seed_file" Decode.text }

/-- The layer of a configuration file. -/
def ofToml? (contents : String) : Option ConfigLayer :=
  (Toml.parse? contents).bind fun d => (decode d).toOption

end ConfigLayer

/-- What the settings mean for sweeps. -/
def Config.sweepSettings (c : Config) (key : SealKey) : SweepSettings where
  agent := c.userAgent
  dispatch := ⟨key, c.vapidSubject⟩
  checkRetentionDays := c.checkRetentionDays
  rollupRetentionDays := c.rollupRetentionDays

end UptimeMonitor
