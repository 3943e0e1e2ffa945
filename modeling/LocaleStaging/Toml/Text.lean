import LocaleStaging.Text.Numeral
import LocaleStaging.Toml.Value

namespace LocaleStaging.Toml

abbrev TextRead := Except Fault (List Char × List Char)

def prepend (c : Char) : TextRead → TextRead
  | .ok (text, rest) => .ok (c :: text, rest)
  | .error fault => .error fault

def isForbidden (c : Char) : Bool := (c.toNat < 0x20 && c != '\t') || c.toNat == 0x7F

def isSpacing (c : Char) : Bool := c == ' ' || c == '\t'

/-- The end of a text between three quotes. Two quotes more belong to the text. -/
def closing (quote : Char) (rest : List Char) : List Char × List Char :=
  let extra := (rest.take 2).takeWhile (· == quote)
  (extra, rest.drop extra.length)

/-- A line end at the start of a text between three quotes does not belong to it. -/
def dropFirstLineEnd (text : List Char) : List Char :=
  match text with
  | '\n' :: rest => rest
  | '\r' :: '\n' :: rest => rest
  | _ => text

inductive EscapeState where
  | plain
  | begun
  | code (missing value : Nat)
  | skipping (ended : Bool)
deriving DecidableEq, Repr

def shortEscape? (c : Char) : Option Char :=
  match c with
  | 'b' => some '\x08'
  | 't' => some '\t'
  | 'n' => some '\n'
  | 'f' => some '\x0c'
  | 'r' => some '\r'
  | 'e' => some '\x1b'
  | '"' => some '"'
  | '\\' => some '\\'
  | _ => none

def codeLength? (c : Char) : Option Nat :=
  match c with
  | 'x' => some 2
  | 'u' => some 4
  | 'U' => some 8
  | _ => none

def takePlain (lines : Bool) (quote c : Char) (rest : List Char)
    (next : EscapeState → TextRead) (escapes : Bool) : TextRead :=
  if c = quote then
    if !lines then .ok ([], rest)
    else if rest.take 2 = [quote, quote] then .ok (closing quote (rest.drop 2))
    else prepend c (next .plain)
  else if escapes ∧ c = '\\' then next .begun
  else if lines ∧ (c = '\n' ∨ c = '\r' ∧ rest.head? = some '\n') then prepend c (next .plain)
  else if isForbidden c then .error .unexpectedText
  else prepend c (next .plain)

def readEscaped (lines : Bool) (state : EscapeState) : List Char → TextRead
  | [] => .error .unclosedText
  | c :: rest =>
    let next (state : EscapeState) := readEscaped lines state rest
    match state with
    | .plain => takePlain lines '"' c rest next true
    | .begun =>
      match shortEscape? c, codeLength? c with
      | some escaped, _ => prepend escaped (next .plain)
      | none, some length => next (.code length 0)
      | none, none =>
        if lines ∧ (isSpacing c ∨ c = '\r' ∧ rest.head? = some '\n') then
          next (.skipping false)
        else if lines ∧ c = '\n' then next (.skipping true)
        else .error .invalidEscape
    | .code missing value =>
      match Numeral.digit? 16 c with
      | none => .error .invalidEscape
      | some digit =>
        let value := value * 16 + digit
        if 1 < missing then next (.code (missing - 1) value)
        else if value.isValidChar then prepend (Char.ofNat value) (next .plain)
        else .error .invalidEscape
    | .skipping ended =>
      if c = '\n' then next (.skipping true)
      else if isSpacing c ∨ c = '\r' ∧ rest.head? = some '\n' then next (.skipping ended)
      else if ended then takePlain lines '"' c rest next true
      else .error .invalidEscape

def readLiteral (lines : Bool) : List Char → TextRead
  | [] => .error .unclosedText
  | c :: rest => takePlain lines '\'' c rest (fun _ => readLiteral lines rest) false

def readText? (input : List Char) : Option (TextRead) :=
  match input with
  | '"' :: '"' :: '"' :: rest => some (readEscaped true .plain (dropFirstLineEnd rest))
  | '"' :: rest => some (readEscaped false .plain rest)
  | '\'' :: '\'' :: '\'' :: rest => some (readLiteral true (dropFirstLineEnd rest))
  | '\'' :: rest => some (readLiteral false rest)
  | _ => none

end LocaleStaging.Toml
