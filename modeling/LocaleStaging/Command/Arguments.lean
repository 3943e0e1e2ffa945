import LocaleStaging.Command.Basic
import LocaleStaging.Text.Numeral

/-!
Arguments of the program. They are read from left to right, and the first one that asks for the
version or for help, or that cannot be taken, ends the reading. A value that is an argument of its
own is only taken when another value or an option follows, or when all arguments are read.

The options for the settings and for the staging directory can stand before and after the name of
the command. They are kept apart, so that each can be given once at either place, and the one behind
the name counts.
-/

namespace LocaleStaging.Arguments

inductive Key where
  | settings
  | directory
  | user
  | file
deriving DecidableEq, Repr

def Key.name : Key → String
  | settings => "config"
  | directory => "staging-dir"
  | user => "user"
  | file => "file"

inductive Verb where
  | list
  | sweep
  | drop
  | decode
  | help
deriving DecidableEq, Repr

namespace Verb

def name : Verb → String
  | list => "list"
  | sweep => "sweep"
  | drop => "drop"
  | decode => "decode"
  | help => "help"

def all : List Verb := [list, sweep, drop, decode, help]

def ofName? (name : Bytes) : Option Verb := all.find? fun verb => Utf8.encode verb.name = name

def operand? : Verb → Option Key
  | drop => some .user
  | decode => some .file
  | _ => none

end Verb

inductive Misuse where
  | unknownOption (name : Bytes)
  | missingValue (key : Key)
  | surplusValue (name : Bytes)
  | badValue (key : Key) (value : Bytes)
  | repeated (key : Key)
  | unknownCommand (name : Bytes)
  | missingCommand
  | missingOperand (key : Key)
  | surplusArgument (value : Bytes)
deriving DecidableEq, Repr

def Misuse.message : Misuse → String
  | unknownOption name => "unknown option " ++ Quoted.octets name
  | missingValue key => key.name ++ " is given no value"
  | surplusValue name => "option " ++ Quoted.octets name ++ " takes no value"
  | badValue key value => "bad value " ++ Quoted.octets value ++ " for " ++ key.name
  | repeated key => key.name ++ " is given twice"
  | unknownCommand name => "unknown command " ++ Quoted.octets name
  | missingCommand => "no command is given"
  | missingOperand key => "no " ++ key.name ++ " is given"
  | surplusArgument value => "surplus argument " ++ Quoted.octets value

inductive Stop where
  | version
  | help (topic : Option Verb)
  | misuse (misuse : Misuse)
deriving DecidableEq, Repr

structure Values where
  settings : Option Path := none
  directory : Option Path := none
  user : Option UserId := none
  file : Option Path := none
deriving DecidableEq, Repr

def readPath (value : Bytes) : Option Path := if value.isEmpty then none else some ⟨value⟩

/-- The user that a value is. It can have a sign, as long as it is in the range of users. -/
def readUser (value : Bytes) : Option UserId := do
  let number ← Numeral.int64? (← Utf8.decode? value).toList
  if 0 ≤ number.toInt ∧ number.toInt < UInt32.size then some (UInt32.ofNat number.toInt.toNat) else none

def setOnce {α : Type} (given : Option α) (key : Key) (value : Bytes) (read : Bytes → Option α) :
    Except Misuse (Option α) :=
  if given.isSome then .error (.repeated key)
  else
    match read value with
    | none => .error (.badValue key value)
    | some taken => .ok (some taken)

def Values.has (values : Values) : Key → Bool
  | .settings => values.settings.isSome
  | .directory => values.directory.isSome
  | .user => values.user.isSome
  | .file => values.file.isSome

def Values.set (values : Values) (key : Key) (value : Bytes) : Except Misuse Values :=
  match key with
  | .settings => (setOnce values.settings key value readPath).map ({ values with settings := · })
  | .directory => (setOnce values.directory key value readPath).map ({ values with directory := · })
  | .user => (setOnce values.user key value readUser).map ({ values with user := · })
  | .file => (setOnce values.file key value readPath).map ({ values with file := · })

inductive Action where
  | take (key : Key) (name : String)
  | help
  | version
deriving DecidableEq, Repr

structure OptionName where
  letter : Char
  name : String
  action : Action
  description : String

def optionsAt (verb : Option Verb) : List OptionName :=
  let settings :=
    ⟨'c', "config", .take .settings "path", "Path to configuration file"⟩
  let directory :=
    ⟨'s', "staging-dir", .take .directory "path",
      "Path to staging directory, overrides configuration file"⟩
  let user := ⟨'u', "user", .take .user "user_id", "Only show staged data of this user"⟩
  let help := ⟨'h', "help", .help, "Print help"⟩
  match verb with
  | none => [settings, directory, help, ⟨'V', "version", .version, "Print version"⟩]
  | some .list => [settings, user, directory, help]
  | some .help => []
  | some _ => [settings, directory, help]

structure Pending where
  key : Key
  value : Option Bytes
deriving DecidableEq, Repr

structure Place where
  values : Values := {}
  pending : Option Pending := none
deriving DecidableEq, Repr

namespace Place

def settle (place : Place) : Except Stop Values :=
  match place.pending with
  | none => .ok place.values
  | some ⟨key, none⟩ => .error (.misuse (.missingValue key))
  | some ⟨key, some value⟩ => (place.values.set key value).mapError .misuse

def set (place : Place) (key : Key) (value : Bytes) : Except Stop Place := do
  let values ← place.settle
  return { values := ← (values.set key value).mapError .misuse }

def await (place : Place) (key : Key) (value : Option Bytes) : Except Stop Place := do
  return { values := ← place.settle, pending := some ⟨key, value⟩ }

end Place

structure Reading where
  outer : Place := {}
  verb : Option Verb := none
  inner : Place := {}
  topic : Option Verb := none
  closed : Bool := false
deriving DecidableEq, Repr

namespace Reading

def update (reading : Reading) (inner : Except Stop Place) : Except Stop Reading :=
  inner.map ({ reading with inner := · })

def takeVerb (reading : Reading) (argument : Bytes) : Except Stop Reading :=
  match Verb.ofName? argument with
  | none => .error (.misuse (.unknownCommand argument))
  | some verb =>
    if reading.closed then .error (.misuse (.unknownCommand argument))
    else .ok { reading with outer := reading.inner, verb := some verb, inner := {} }

def takeTopic (reading : Reading) (argument : Bytes) : Except Stop Reading :=
  match reading.topic, Verb.ofName? argument with
  | none, some verb => .ok { reading with topic := some verb }
  | _, _ => .error (.misuse (.unknownCommand argument))

def takeOperand (reading : Reading) (argument : Bytes) : Except Stop Reading :=
  match reading.verb with
  | none => reading.takeVerb argument
  | some .help => reading.takeTopic argument
  | some verb =>
    match verb.operand? with
    | none => .error (.misuse (.surplusArgument argument))
    | some key => do
      let place ← reading.inner.await key (some argument)
      if place.values.has key then .error (.misuse (.surplusArgument argument))
      else return { reading with inner := place }

def takeOption (reading : Reading) (option : Option OptionName) (argument : Bytes)
    (attached : Option Bytes) : Except Stop Reading :=
  match option.map OptionName.action, attached with
  | none, _ => .error (.misuse (.unknownOption argument))
  | some (.take key _), some value => reading.update (reading.inner.set key value)
  | some (.take key _), none => reading.update (reading.inner.await key none)
  | some .help, _ => do
    let _ ← reading.inner.settle
    .error (.help reading.verb)
  | some .version, _ => do
    let _ ← reading.inner.settle
    .error .version

def dash : UInt8 := '-'.toUInt8

def equals : UInt8 := '='.toUInt8

def takeNamed (reading : Reading) (argument : Bytes) : Except Stop Reading :=
  let name := argument.takeWhile (· != equals)
  let option := (optionsAt reading.verb).find? fun option => Utf8.encode option.name = name
  match argument.dropWhile (· != equals), option.map OptionName.action with
  | [], _ => reading.takeOption option name none
  | _ :: value, some (.take _ _) => reading.takeOption option name (some value)
  | _, some _ => .error (.misuse (.surplusValue name))
  | _, none => .error (.misuse (.unknownOption name))

/-- Takes an option that is given by its letter. A value follows at once, or after an equals
sign. -/
def takeLettered (reading : Reading) (letter : UInt8) (rest : Bytes) : Except Stop Reading :=
  let option := (optionsAt reading.verb).find? fun option => option.letter.toUInt8 = letter
  let attached :=
    match rest with
    | [] => none
    | first :: value => if first = equals then some value else some rest
  reading.takeOption option [letter] attached

def isOption (argument : Bytes) : Bool :=
  match argument with
  | first :: _ :: _ => first = dash
  | _ => false

def takeDashed (reading : Reading) (argument : Bytes) : Except Stop Reading :=
  match argument.drop 1 with
  | second :: rest =>
    if second ≠ dash then reading.takeLettered second rest
    else if rest.isEmpty then .ok { reading with closed := true }
    else reading.takeNamed rest
  | [] => reading.takeOperand argument

def step (reading : Reading) (argument : Bytes) : Except Stop Reading :=
  match reading.inner.pending with
  | some ⟨key, none⟩ =>
    if isOption argument then .error (.misuse (.missingValue key))
    else .ok { reading with inner := { reading.inner with pending := some ⟨key, some argument⟩ } }
  | _ =>
    if isOption argument ∧ !reading.closed ∧ reading.verb ≠ some .help then
      reading.takeDashed argument
    else reading.takeOperand argument

def need {α : Type} (given : Option α) (key : Key) : Except Stop α :=
  match given with
  | none => .error (.misuse (.missingOperand key))
  | some value => .ok value

def command (reading : Reading) (values : Values) : Except Stop Command :=
  match reading.verb with
  | none => .error (.misuse .missingCommand)
  | some .list => .ok (.list values.user)
  | some .sweep => .ok .sweep
  | some .drop => (need values.user .user).map .drop
  | some .decode => (need values.file .file).map .decode
  | some .help => .error (.help reading.topic)

/-- What is asked for when all arguments are read. What is given behind the name of the command is
looked at first. -/
def finish (reading : Reading) : Except Stop Call := do
  let inner ← reading.inner.settle
  let command ← reading.command inner
  let outer ← reading.outer.settle
  return {
    settings := inner.settings.or outer.settings
    directory := inner.directory.or outer.directory
    command }

end Reading

def read (arguments : List Bytes) : Except Stop Call :=
  match arguments.foldlM Reading.step {} with
  | .error stop => .error stop
  | .ok reading => reading.finish

end LocaleStaging.Arguments
