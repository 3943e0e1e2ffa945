import LocaleStaging.Command.Arguments

namespace LocaleStaging.Help

open Arguments

structure Entry where
  word : String
  description : String

def describe : Verb → String
  | .list => "Show staged restore data, leaves malformed stage files in place"
  | .sweep => "Discard staged data older than the retention period"
  | .drop => "Discard staged data of a user"
  | .decode => "Show content of a backup payload or stage file"
  | .help => "Print this message or the help of the given subcommand(s)"

def usage : Option Verb → String
  | none => "\n  locale-backup [options] <command>"
  | some .list => "locale-backup list [options]"
  | some .sweep => "locale-backup sweep [options]"
  | some .drop => "locale-backup drop [options] <user_id>"
  | some .decode => "locale-backup decode [options] <file>"
  | some .help => "locale-backup help [COMMAND]..."

def operands : Option Verb → List Entry
  | some .drop => [⟨"<user_id>", "User whose staged data to discard"⟩]
  | some .decode => [⟨"<file>", "File holding locale XML"⟩]
  | some .help => [⟨"[COMMAND]...", "Print help for the subcommand(s)"⟩]
  | _ => []

def optionEntry (option : OptionName) : Entry :=
  let value := match option.action with
    | .take _ name => " <" ++ name ++ ">"
    | _ => ""
  ⟨"-" ++ option.letter.toString ++ ", --" ++ option.name ++ value, option.description⟩

def block? (heading : String) (entries : List Entry) : Option String :=
  let width := (entries.map (·.word.length)).foldl max 0
  let line (entry : Entry) : String :=
    "  " ++ entry.word ++ "".pushn ' ' (width - entry.word.length) ++ "  " ++
      entry.description ++ "\n"
  if entries.isEmpty then none
  else some (heading ++ ":\n" ++ String.join (entries.map line))

def text (topic : Option Verb) : String :=
  let commands := if topic.isNone then Verb.all.map fun verb => ⟨verb.name, describe verb⟩ else []
  let blocks :=
    [(topic.map fun verb => describe verb ++ "\n"), some ("Usage: " ++ usage topic ++ "\n"),
      block? "Commands" commands, block? "Arguments" (operands topic),
      block? "Options" ((optionsAt topic).map optionEntry)]
  "\n".intercalate (blocks.filterMap id)

end LocaleStaging.Help
