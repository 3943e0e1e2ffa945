import LocaleStaging.Log.Filter
import LocaleStaging.Text.Quoted

namespace LocaleStaging

def levelWidth : Nat := 5

def Level.column (level : Level) : List Char :=
  let name := level.name.toList.map Char.toUpper
  List.replicate (levelWidth - name.length) ' ' ++ name

def Level.color : Level → String
  | error => "31"
  | warn => "33"
  | info => "32"
  | debug => "34"
  | trace => "35"

def Level.shown (colored : Bool) (level : Level) : List Char :=
  if colored then
    "\x1b[".toList ++ level.color.toList ++ 'm' :: level.column ++ "\x1b[0m".toList
  else level.column

def plainVariable : String := "NO_COLOR"

/-- Whether levels stand in color. An empty text asks for nothing. -/
def Environment.wantsColor (environment : Environment) : Bool :=
  match environment.text plainVariable with
  | .ok text => text.isEmpty
  | .error _ => true

/-- A character of a notice. What a terminal would take for a command is escaped, except for the
ends of lines. -/
def Notice.showChar (c : Char) : List Char :=
  if c = '\x07' ∨ c = '\x08' ∨ c = '\x0c' ∨ c = '\x1b' ∨ c = '\x7f' then
    ['\\', 'x', Quoted.hexDigit (c.toNat / 16), Quoted.hexDigit (c.toNat % 16)]
  else if 0x80 ≤ c.toNat ∧ c.toNat ≤ 0x9F then Quoted.codePoint c
  else [c]

def Notice.line (colored : Bool) (notice : Notice) : List Char :=
  notice.level.shown colored ++ ' ' :: (notice.message StoreError.details).toList.flatMap showChar

/-- The text of what is put out, if the filter lets it through. Results are never held back. -/
def Emission.text (colored : Bool) (filter : Filter) : Emission → List Char
  | notice shown => if filter.shows shown then shown.line colored ++ ['\n'] else []
  | line text => text.toList ++ ['\n']

def writeOutput (colored : Bool) (filter : Filter) (output : List Emission) : String :=
  String.ofList (output.flatMap (Emission.text colored filter))

end LocaleStaging
