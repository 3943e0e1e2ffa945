import LocaleStaging.Toml.Scalar
import LocaleStaging.Toml.Table
import LocaleStaging.Toml.Text

namespace LocaleStaging.Toml

/-- How deep lists and tables between braces can be nested, and how many keys a path can have. -/
def depthLimit : Nat := 80

def skipSpacing (text : List Char) : List Char := text.dropWhile isSpacing

def skipComment : List Char → Except Fault (List Char)
  | [] => .ok []
  | '\n' :: rest => .ok ('\n' :: rest)
  | '\r' :: '\n' :: rest => .ok ('\r' :: '\n' :: rest)
  | c :: rest => if isForbidden c then .error .unexpectedText else skipComment rest

def endLine (text : List Char) : Except Fault (List Char) := do
  let rest ← match skipSpacing text with
    | '#' :: comment => skipComment comment
    | rest => .ok rest
  match rest with
  | [] => return []
  | '\n' :: rest => return rest
  | '\r' :: '\n' :: rest => return rest
  | _ => .error .unexpectedText

def skipLines (inComment : Bool) : List Char → Except Fault (List Char)
  | [] => .ok []
  | c :: rest =>
    if c = '\n' then skipLines false rest
    else if c = '\r' ∧ rest.head? = some '\n' then skipLines inComment rest
    else if inComment then
      if isForbidden c then .error .unexpectedText else skipLines true rest
    else if isSpacing c then skipLines false rest
    else if c = '#' then skipLines true rest
    else .ok (c :: rest)

def isBareKey (c : Char) : Bool := c.isAlphanum || c == '_' || c == '-'

def readKey (text : List Char) : Except Fault (String × List Char) :=
  match text with
  | '"' :: '"' :: '"' :: _ => .error .unexpectedText
  | '\'' :: '\'' :: '\'' :: _ => .error .unexpectedText
  | '"' :: rest => (readEscaped false .plain rest).map fun (key, rest) => (String.ofList key, rest)
  | '\'' :: rest => (readLiteral false rest).map fun (key, rest) => (String.ofList key, rest)
  | _ =>
    let key := text.takeWhile isBareKey
    if key.isEmpty then .error .unexpectedText
    else .ok (String.ofList key, text.dropWhile isBareKey)

def readKeys : Nat → List Char → Except Fault (List String × List Char)
  | 0, _ => .error .tooDeep
  | limit + 1, text => do
    let (key, rest) ← readKey (skipSpacing text)
    match skipSpacing rest with
    | '.' :: rest =>
      let (keys, rest) ← readKeys limit rest
      return (key :: keys, rest)
    | rest => return ([key], rest)

def isScalar (c : Char) : Bool := !" \t\r\n,]\x7d#".toList.contains c

/-- Splits off a value without quotes or brackets. A date and a time can have a space between. -/
def takeScalar (text : List Char) : List Char × List Char :=
  let run := text.takeWhile isScalar
  let rest := text.dropWhile isScalar
  match date? run, rest with
  | some (_, []), ' ' :: next =>
    if (next.head?.any Char.isDigit) then
      (run ++ ' ' :: next.takeWhile isScalar, next.dropWhile isScalar)
    else (run, rest)
  | _, _ => (run, rest)

def readPlain (text : List Char) : Except Fault (Value × List Char) :=
  match readText? text with
  | some reading => reading.map fun (value, rest) => (.text (String.ofList value), rest)
  | none =>
    let (run, rest) := takeScalar text
    (scalar run).map fun value => (value, rest)

def readElements (element : List Char → Except Fault (Value × List Char)) :
    Nat → List Char → Except Fault (List Value × List Char)
  | 0, _ => .error .unclosedText
  | limit + 1, text => do
    match ← skipLines false text with
    | ']' :: rest => return ([], rest)
    | rest =>
      let (value, rest) ← element rest
      match ← skipLines false rest with
      | ',' :: rest =>
        let (values, rest) ← readElements element limit rest
        return (value :: values, rest)
      | ']' :: rest => return ([value], rest)
      | _ => .error .unexpectedText

def readPair (skip : List Char → Except Fault (List Char))
    (element : List Char → Except Fault (Value × List Char)) (text : List Char) :
    Except Fault ((List String × Value) × List Char) := do
  let (keys, rest) ← readKeys depthLimit text
  match ← skip rest with
  | '=' :: rest =>
    let (value, rest) ← element (← skip rest)
    return ((keys, value), rest)
  | _ => .error .unexpectedText

def readPairs (element : List Char → Except Fault (Value × List Char)) :
    Nat → List Char → Except Fault (List (List String × Value) × List Char)
  | 0, _ => .error .unclosedText
  | limit + 1, text => do
    match ← skipLines false text with
    | '\x7d' :: rest => return ([], rest)
    | rest =>
      let (pair, rest) ← readPair (skipLines false) element rest
      match ← skipLines false rest with
      | ',' :: rest =>
        let (pairs, rest) ← readPairs element limit rest
        return (pair :: pairs, rest)
      | '\x7d' :: rest => return ([pair], rest)
      | _ => .error .unexpectedText

def readValue : Nat → List Char → Except Fault (Value × List Char)
  | depth, '[' :: rest =>
    match depth with
    | 0 => .error .tooDeep
    | depth + 1 => do
      let (values, rest) ← readElements (readValue depth) (rest.length + 1) rest
      return (.list values, rest)
  | depth, '\x7b' :: rest =>
    match depth with
    | 0 => .error .tooDeep
    | depth + 1 => do
      let (pairs, rest) ← readPairs (readValue depth) (rest.length + 1) rest
      return (← ofPairs pairs, rest)
  | _, text => readPlain text

def readStatement (text : List Char) : Except Fault (Statement × List Char) := do
  match text with
  | '[' :: '[' :: rest =>
    match ← readKeys depthLimit rest with
    | (keys, ']' :: ']' :: rest) => return (.element keys, rest)
    | _ => .error .unexpectedText
  | '[' :: rest =>
    match ← readKeys depthLimit rest with
    | (keys, ']' :: rest) => return (.header keys, rest)
    | _ => .error .unexpectedText
  | _ =>
    let skip (rest : List Char) : Except Fault (List Char) := .ok (skipSpacing rest)
    let ((keys, value), rest) ← readPair skip (readValue depthLimit) text
    return (.pair keys value, rest)

def readStatements : Nat → List Char → Except Fault (List Statement)
  | 0, _ => .error .unexpectedText
  | limit + 1, text =>
    match skipSpacing text with
    | [] => .ok []
    | '#' :: rest => do readStatements limit (← endLine ('#' :: rest))
    | '\n' :: rest => readStatements limit rest
    | '\r' :: '\n' :: rest => readStatements limit rest
    | text => do
      let (statement, rest) ← readStatement text
      let statements ← readStatements limit (← endLine rest)
      return statement :: statements

/-- Reads a document. A byte order mark at its start is passed over. -/
def read (document : String) : Except Fault Entries := do
  let text := match document.toList with
    | '\uFEFF' :: rest => rest
    | text => text
  build (← readStatements (text.length + 1) text)

end LocaleStaging.Toml
