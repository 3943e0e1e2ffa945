import LocaleStaging.Settings.Expansion
import LocaleStaging.Span
import LocaleStaging.Staging.Record
import LocaleStaging.Storage.IoFault
import LocaleStaging.Toml.Value

namespace LocaleStaging

structure Settings where
  stagingDirectory : Option Path
  retentionDays : UInt64
  filter : String
deriving DecidableEq

namespace Settings

def default : Settings := ⟨none, defaultRetentionDays, "info"⟩

def retention (settings : Settings) : Span := Span.ofDays settings.retentionDays

def directory? (settings : Settings) (environment : Environment) : Option Path :=
  match settings.stagingDirectory with
  | some directory => some directory
  | none => environment.defaultStagingDirectory?

inductive Error where
  | unreadable (cause : IoFault) (path : Path)
  | invalid (fault : Toml.Fault)
  | expansion (error : LookupError)
deriving DecidableEq, Repr

namespace Error

def message : Error → String
  | unreadable _ path => "failed to read configuration file at " ++ path.quoted
  | invalid fault => fault.message
  | expansion error => error.message

def causes : Error → List String
  | unreadable cause path => [message (unreadable cause path), cause.message]
  | invalid fault => [fault.message]
  | expansion error => error.causes

end Error
end Settings
end LocaleStaging
