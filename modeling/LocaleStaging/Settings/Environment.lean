import LocaleStaging.SortedMap
import LocaleStaging.Storage.Path

namespace LocaleStaging

structure Environment where
  bindings : SortedMap Bytes Bytes
deriving DecidableEq

inductive VariableFault where
  | notFound
  | notText (value : Bytes)
deriving DecidableEq, Repr

def VariableFault.message : VariableFault → String
  | notFound => "environment variable not found"
  | notText value => "environment variable was not valid unicode: " ++ Quoted.octets value

namespace Environment

def equals : UInt8 := '='.toUInt8

def entryOf? (entry : Bytes) : Option (Bytes × Bytes) :=
  match entry.dropWhile (· != equals) with
  | [] => none
  | _ :: value => some (entry.takeWhile (· != equals), value)

/-- The variables in a block of octets, with the octet zero behind each. The first of some with the
same name counts. -/
def ofBlock (octets : Bytes) : Environment :=
  ⟨SortedMap.ofList ((segments 0 octets).filterMap entryOf?).reverse⟩

/-- The value of a variable. Variables are held as names and values with an equals sign between, and
a variable is found by what stands before an equals sign. -/
def get? (environment : Environment) (name : Bytes) : Option Bytes :=
  if name.isEmpty then none
  else environment.bindings.toList.findSome? fun (key, value) =>
    let entry := key ++ equals :: value
    if (name ++ [equals]).isPrefixOf entry then some (entry.drop (name.length + 1)) else none

def text (environment : Environment) (name : String) : Except VariableFault String :=
  match environment.get? (Utf8.encode name) with
  | none => .error .notFound
  | some value =>
    match Utf8.decode? value with
    | none => .error (.notText value)
    | some text => .ok text

def home? (environment : Environment) : Option Path :=
  match environment.get? (Utf8.encode "HOME") with
  | none => none
  | some value => if value.isEmpty then none else some ⟨value⟩

/-- The directory that a variable names, if it names one from the root on, or else one inside the
home directory. -/
def baseDirectory? (environment : Environment) (name inHome : String) : Option Path :=
  let named := (environment.get? (Utf8.encode name)).map Path.mk
  match named.filter Path.isAbsolute with
  | some path => some path
  | none => environment.home?.map fun home => home.join (Utf8.encode inHome)

def dataDirectory? (environment : Environment) : Option Path :=
  environment.baseDirectory? "XDG_DATA_HOME" ".local/share"

def configDirectory? (environment : Environment) : Option Path :=
  environment.baseDirectory? "XDG_CONFIG_HOME" ".config"

def defaultStagingDirectory? (environment : Environment) : Option Path :=
  environment.dataDirectory?.map fun directory => directory.join (Utf8.encode "app_locales")

def defaultSettingsPath? (environment : Environment) : Option Path :=
  environment.configDirectory?.map fun directory =>
    (directory.join (Utf8.encode "locale-backup")).join (Utf8.encode "config.toml")

def noHomeMessage : String := "cannot determine absolute path to user's home directory"

end Environment
end LocaleStaging
