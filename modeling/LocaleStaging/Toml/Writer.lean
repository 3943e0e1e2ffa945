import LocaleStaging.Toml.Text

/-!
Writing texts in quotes. Of five forms the first is taken that can hold a text, so that as little
as possible is escaped: between double quotes, between single quotes, both between three quotes for
texts with several lines, and double quotes with escapes for all else.
-/

namespace LocaleStaging.Toml

inductive Form where
  | escaped
  | literal
  | escapedLines
  | literalLines
deriving DecidableEq, Repr

def isControl (c : Char) : Bool := isForbidden c && c != '\n'

def longestRun (quote : Char) (current : Nat) : List Char → Nat
  | [] => current
  | c :: rest =>
    if c = quote then longestRun quote (current + 1) rest
    else max current (longestRun quote 0 rest)

def Form.of (text : List Char) : Form :=
  let controls := text.any isControl
  let lines := text.contains '\n'
  let escapes := text.contains '\\'
  if !controls ∧ !lines ∧ !escapes ∧ !text.contains '"' then .escaped
  else if !controls ∧ !lines ∧ !text.contains '\'' then .literal
  else if !controls ∧ !escapes ∧ longestRun '"' 0 text ≤ 2 then .escapedLines
  else if !controls ∧ longestRun '\'' 0 text ≤ 2 then .literalLines
  else if lines then .escapedLines
  else .escaped

def capitalDigit (value : Nat) : Char := (Nat.digitChar value).toUpper

def escapeChar (c : Char) : List Char :=
  if c = '\x08' then ['\\', 'b']
  else if c = '\t' then ['\\', 't']
  else if c = '\x0c' then ['\\', 'f']
  else if c = '\r' then ['\\', 'r']
  else if c = '\\' then ['\\', '\\']
  else if isForbidden c ∧ c ≠ '\n' then
    ['\\', 'u', '0', '0', capitalDigit (c.toNat / 16), capitalDigit (c.toNat % 16)]
  else [c]

def escape (text : List Char) : List Char :=
  text.flatMap fun c =>
    if c = '"' then ['\\', '"'] else if c = '\n' then ['\\', 'n'] else escapeChar c

/-- The text between three double quotes. Of quotes in a row every third one is escaped. -/
def escapeLines (quotes : Nat) : List Char → List Char
  | [] => []
  | c :: rest =>
    if c = '"' then
      if quotes = 2 then '\\' :: '"' :: escapeLines 0 rest
      else '"' :: escapeLines (quotes + 1) rest
    else escapeChar c ++ escapeLines 0 rest

def leadingLineEnd (text : List Char) : List Char := if text.contains '\n' then ['\n'] else []

def writeText (value : String) : List Char :=
  let text := value.toList
  let double := "\"\"\"".toList
  let single := "'''".toList
  match Form.of text with
  | .escaped => '"' :: escape text ++ ['"']
  | .literal => '\'' :: text ++ ['\'']
  | .escapedLines => double ++ leadingLineEnd text ++ escapeLines 0 text ++ double
  | .literalLines => single ++ leadingLineEnd text ++ text ++ single

end LocaleStaging.Toml
