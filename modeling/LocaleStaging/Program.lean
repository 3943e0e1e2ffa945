import LocaleStaging.Command.Help
import LocaleStaging.Command.Run
import LocaleStaging.Log.Line

namespace LocaleStaging

structure Ending (φ : Type) where
  code : Nat
  output : String
  complaint : String
  files : φ

namespace Program

def versionLine : String := "locale-backup 0.1.0\n"

variable {φ : Type} [FileSystem φ]

/-- The paths that a call looks at. The staging directory is among them if the settings that name it
can be read. -/
def pathsOf (environment : Environment) (call : Call) (files : φ) : List Path :=
  let settings := (Command.settingsOf environment call files).toOption
  let file := match call.command with
    | .decode file => some file
    | _ => none
  (call.settings.or environment.defaultSettingsPath?).toList ++
    (settings.bind (·.directory? environment)).toList ++ file.toList

def perform (environment : Environment) (settings : Except Failure Settings) (now : Int64)
    (call : Call) : Work φ Bool := do
  let ended ← match settings with
    | .error failure => pure (Except.error failure)
    | .ok settings =>
      Command.run (settings.directory? environment) settings.retention now call.command
  match ended with
  | .ok () => return true
  | .error failure =>
    Work.note (.failed failure.causes)
    return false

/-- Runs a call. Without a filter nothing is done. -/
def runCall (environment : Environment) (now : Int64) (call : Call) (files : φ) : Ending φ :=
  let settings := Command.settingsOf environment call files
  match Filter.choose? environment (settings.toOption.getD .default).filter with
  | none => ⟨101, "", "the log filter is divided within a character\n", files⟩
  | some filter =>
    let (done, workspace) := (perform environment settings now call).run ⟨files, []⟩
    let output := writeOutput environment.wantsColor filter workspace.output
    ⟨if done then 0 else 1, output, "", workspace.files⟩

def run (environment : Environment) (now : Int64) (arguments : List Bytes) (files : φ) :
    Ending φ :=
  match Arguments.read arguments with
  | .ok call => runCall environment now call files
  | .error .version => ⟨0, versionLine, "", files⟩
  | .error (.help topic) => ⟨0, Help.text topic, "", files⟩
  | .error (.misuse misuse) => ⟨2, "", misuse.message ++ "\n\n" ++ Help.text none, files⟩

end Program
end LocaleStaging
