import LocaleStaging.Command.Basic
import LocaleStaging.Command.Failure
import LocaleStaging.Settings.Reader
import LocaleStaging.Staging.Table

/-!
Carrying out commands. Only `list` leaves malformed stage files in place: it looks at the entries of
the staging directory, where the commands that change records load the table of all of them. The
loading removes each entry that holds no record.
-/

namespace LocaleStaging

namespace Command

variable {φ : Type} [FileSystem φ]

def settingsOf (environment : Environment) (call : Call) (files : φ) : Except Failure Settings :=
  match call.settings.or environment.defaultSettingsPath? with
  | none => .error .noHome
  | some path =>
    match Settings.load environment files path with
    | .error error => .error (.noSettings path error)
    | .ok settings =>
      .ok { settings with stagingDirectory := call.directory.or settings.stagingDirectory }

def createdText (created : Int64) : String :=
  "created " ++ toString created.toInt ++ " ms since epoch"

def packageLine (package : String × String) : String := package.1 ++ " = " ++ package.2

def recordLines (user : UserId) (record : StagedRecord) : List String :=
  ("user " ++ toString user ++ " (" ++ createdText record.created ++ ")") ::
    record.pending.toList.map fun package => "  " ++ packageLine package

def documentLines (document : Document) : List String :=
  document.created.toList.map createdText ++ document.preferences.toList.map packageLine

/-- Shows the record in an entry, if it is one of those wanted, and tells whether it did. Why there
is no record is put out. -/
def showEntry (wanted : Option UserId) (entry : StageEntry) : Work φ Bool := do
  match ← entry.inspect with
  | .error reason =>
    Work.note (.discardedOnLoad entry.path reason)
    return false
  | .ok (user, record) =>
    if wanted.all (· == user) then
      Work.printAll (recordLines user record)
      return true
    else return false

def showEntries (wanted : Option UserId) : List StageEntry → Work φ Bool
  | [] => return false
  | entry :: rest => do
    let first ← showEntry wanted entry
    let others ← showEntries wanted rest
    return first || others

def runList (directory : Path) (wanted : Option UserId) : Work φ (Except Failure Unit) := do
  match ← StageStore.openAt directory with
  | .error error => return .error (.store error)
  | .ok store =>
    match ← store.entries with
    | .error error => return .error (.store error)
    | .ok entries =>
      if !(← showEntries wanted entries) then Work.note (.noStagedData directory)
      return .ok ()

def runSweep (directory : Path) (retention : Span) (now : Int64) :
    Work φ (Except Failure Unit) := do
  match ← StagedTable.openAt directory retention with
  | .error error => return .error (.store error)
  | .ok table =>
    let (users, _) ← table.sweep now
    if users.isEmpty then Work.note (.nothingExpired retention)
    Work.printAll (users.map fun user => "swept staged data of user " ++ toString user)
    return .ok ()

def runDrop (directory : Path) (retention : Span) (user : UserId) :
    Work φ (Except Failure Unit) := do
  match ← StagedTable.openAt directory retention with
  | .error error => return .error (.store error)
  | .ok table =>
    match ← table.remove user with
    | (none, _) => Work.note (.noRecord user)
    | (some record, _) =>
      Work.print ("dropped " ++ toString record.pending.size ++ " staged package(s) of user " ++
        toString user)
    return .ok ()

def runDecode (file : Path) : Work φ (Except Failure Unit) := do
  match ← Work.look fun files => FileSystem.readFile files file with
  | .error cause => return .error (.unreadable file cause)
  | .ok content =>
    match Document.decode content with
    | .error fault => return .error (.undecodable file fault)
    | .ok document =>
      Work.printAll (documentLines document)
      return .ok ()

def run (directory : Option Path) (retention : Span) (now : Int64) (command : Command) :
    Work φ (Except Failure Unit) :=
  match command, directory with
  | decode file, _ => runDecode file
  | _, none => return .error .noHome
  | list wanted, some directory => runList directory wanted
  | sweep, some directory => runSweep directory retention now
  | drop user, some directory => runDrop directory retention user

end Command
end LocaleStaging
