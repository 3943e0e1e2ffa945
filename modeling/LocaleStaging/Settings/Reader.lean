import LocaleStaging.Settings.Basic
import LocaleStaging.Storage.FileSystem
import LocaleStaging.Toml.Reader

namespace LocaleStaging.Settings

open Toml (Value Entries)

/-- Checks the numbers in a value that is not used. -/
def checkUnused : Value → Except Toml.Fault Unit
  | .integer value => if -2 ^ 127 ≤ value ∧ value < 2 ^ 128 then .ok () else .error .outOfRange
  | .decimal value => if value.overflows then .error .outOfRange else .ok ()
  | .text _ => .ok ()
  | .boolean _ => .ok ()
  | .moment _ => .ok ()
  | .list elements => checkList elements
  | .tables elements => checkTables elements
  | .table _ entries => checkEntries entries
where
  checkList : List Value → Except Toml.Fault Unit
    | [] => .ok ()
    | value :: rest =>
      match checkUnused value with
      | .error fault => .error fault
      | .ok () => checkList rest
  checkEntries : List (String × Value) → Except Toml.Fault Unit
    | [] => .ok ()
    | (_, value) :: rest =>
      match checkUnused value with
      | .error fault => .error fault
      | .ok () => checkEntries rest
  checkTables : List (List (String × Value)) → Except Toml.Fault Unit
    | [] => .ok ()
    | entries :: rest =>
      match checkEntries entries with
      | .error fault => .error fault
      | .ok () => checkTables rest

def textOf : Value → Except Toml.Fault String
  | .text value => .ok value
  | _ => .error .wrongType

def daysOf : Value → Except Toml.Fault UInt64
  | .integer value =>
    if 0 ≤ value ∧ value < UInt64.size then .ok (UInt64.ofNat value.toNat) else .error .outOfRange
  | _ => .error .wrongType

def setStaging (settings : Settings) (key : String) (value : Value) :
    Except Toml.Fault Settings :=
  if key = "dir" then
    (textOf value).map fun text => { settings with stagingDirectory := some (.ofString text) }
  else if key = "retention_days" then
    (daysOf value).map fun days => { settings with retentionDays := days }
  else (checkUnused value).map fun () => settings

def setLogging (settings : Settings) (key : String) (value : Value) :
    Except Toml.Fault Settings :=
  if key = "filter" then (textOf value).map fun text => { settings with filter := text }
  else (checkUnused value).map fun () => settings

/-- Takes a section: a table, a list of its settings in the order of `keys`, or a point in time,
which has no settings in it. -/
def setSection (set : Settings → String → Value → Except Toml.Fault Settings)
    (keys : List String) (settings : Settings) (value : Value) : Except Toml.Fault Settings :=
  match value with
  | .table _ entries => entries.foldlM (fun settings entry => set settings entry.1 entry.2) settings
  | .list elements =>
    (keys.zip elements).foldlM (fun settings entry => set settings entry.1 entry.2) settings
  | .tables elements =>
    (keys.zip (elements.map (Value.table .header))).foldlM
      (fun settings entry => set settings entry.1 entry.2) settings
  | .moment _ => .ok settings
  | _ => .error .wrongType

def setEntry (settings : Settings) (entry : String × Value) : Except Toml.Fault Settings :=
  if entry.1 = "staging" then setSection setStaging ["dir", "retention_days"] settings entry.2
  else if entry.1 = "logging" then setSection setLogging ["filter"] settings entry.2
  else (checkUnused entry.2).map fun () => settings

def ofEntries (entries : Entries) : Except Toml.Fault Settings :=
  entries.foldlM setEntry .default

def expandDirectory (environment : Environment) (settings : Settings) :
    Except LookupError Settings :=
  match settings.stagingDirectory with
  | none => .ok settings
  | some directory =>
    (Expansion.expand environment (Utf8.decodeLossy directory.octets)).map fun expanded =>
      { settings with stagingDirectory := some (.ofString expanded) }

def parse (environment : Environment) (text : String) : Except Error Settings :=
  match Toml.read text with
  | .error fault => .error (.invalid fault)
  | .ok entries =>
    match ofEntries entries with
    | .error fault => .error (.invalid fault)
    | .ok settings => (expandDirectory environment settings).mapError .expansion

/-- Loads settings from a file. Without the file all settings have their default. -/
def load {φ : Type} [FileSystem φ] (environment : Environment) (files : φ) (path : Path) :
    Except Error Settings :=
  match FileSystem.readFile files path with
  | .error .notFound => .ok .default
  | .error cause => .error (.unreadable cause path)
  | .ok content =>
    match Utf8.decode? content with
    | none => .error (.unreadable .notText path)
    | some text => parse environment text

end LocaleStaging.Settings
