import LocaleStaging.Settings.Basic
import LocaleStaging.Toml.Writer

namespace LocaleStaging.Settings

def writePair (key : String) (value : List Char) : List Char :=
  key.toList ++ " = ".toList ++ value ++ ['\n']

def writeSection (name : String) (pairs : List (List Char)) : List Char :=
  '[' :: name.toList ++ "]\n".toList ++ pairs.flatten

def writeDirectory : Option Path → Option (List (List Char))
  | none => some []
  | some directory =>
    (Utf8.decode? directory.octets).map fun text => [writePair "dir" (Toml.writeText text)]

def write? (settings : Settings) : Option String :=
  (writeDirectory settings.stagingDirectory).map fun directory =>
    let days := writePair "retention_days" (toString settings.retentionDays.toNat).toList
    let filter := writePair "filter" (Toml.writeText settings.filter)
    String.ofList (writeSection "staging" (directory ++ [days]) ++
      '\n' :: writeSection "logging" [filter])

end LocaleStaging.Settings
