import LocaleStaging.Settings.Environment
import LocaleStaging.Text.Alphanumeric

namespace LocaleStaging

structure LookupError where
  name : String
  cause : VariableFault
deriving DecidableEq, Repr

namespace LookupError

def message (error : LookupError) : String :=
  "error looking key '" ++ error.name ++ "' up: " ++ error.cause.message

def causes (error : LookupError) : List String := [error.message, error.cause.message]

end LookupError

namespace Expansion

inductive Part where
  | plain (text : List Char)
  | named (name : List Char) (fallback : Option (List Char))
deriving DecidableEq, Repr

def isNameChar (c : Char) : Bool := isAlphanumeric c || c == '_'

def splitFallback : List Char → Option (List Char × List Char)
  | [] => none
  | ':' :: '-' :: rest => some ([], rest)
  | c :: rest => (splitFallback rest).map fun (name, fallback) => (c :: name, fallback)

/-- The variable that stands between braces. A fallback needs a name before it. -/
def ofBraces (inner : List Char) : Part :=
  match splitFallback inner with
  | some (first :: name, fallback) => .named (first :: name) (some fallback)
  | _ => .named inner none

def takePart (text : List Char) : Part × List Char :=
  match text with
  | '\x7b' :: rest =>
    match rest.dropWhile (· != '\x7d') with
    | _ :: after => (ofBraces (rest.takeWhile (· != '\x7d')), after)
    | [] => (.plain ['$', '\x7b'], rest)
  | '$' :: rest => (.plain ['$'], rest)
  | _ =>
    let name := text.takeWhile isNameChar
    if name.isEmpty then (.plain ['$'], text)
    else (.named name none, text.dropWhile isNameChar)

theorem length_takePart (text : List Char) : (takePart text).2.length ≤ text.length := by
  have shorter (test : Char → Bool) (list : List Char) :
      (list.dropWhile test).length ≤ list.length := (List.dropWhile_sublist test).length_le
  unfold takePart
  split
  next rest =>
    split
    next after split =>
      have := shorter (· != '\x7d') rest
      simp_all
      omega
    next => simp
  next => simp
  next =>
    dsimp only
    split
    · simp
    · exact shorter isNameChar text

def parts (text : List Char) : List Part :=
  match text with
  | [] => []
  | c :: rest =>
    if c = '$' then
      let taken := takePart rest
      taken.1 :: parts taken.2
    else .plain [c] :: parts rest
termination_by text.length
decreasing_by
  · have := length_takePart rest
    simp
    omega
  · simp

def Part.expand (environment : Environment) : Part → Except LookupError (List Char)
  | plain text => .ok text
  | named name fallback =>
    match environment.text (String.ofList name), fallback with
    | .ok value, _ => .ok value.toList
    | .error _, some fallback => .ok fallback
    | .error cause, none => .error ⟨String.ofList name, cause⟩

def expandParts (environment : Environment) : List Part → Except LookupError (List Char)
  | [] => .ok []
  | part :: rest =>
    match part.expand environment with
    | .error error => .error error
    | .ok text => (expandParts environment rest).map (text ++ ·)

def expandTilde (environment : Environment) (text : List Char) : List Char :=
  match text with
  | '~' :: rest =>
    if rest.isEmpty ∨ rest.head? = some '/' then
      match environment.home?.bind fun home => Utf8.decode? home.octets with
      | some home => home.toList ++ rest
      | none => text
    else text
  | _ => text

def expand (environment : Environment) (text : String) : Except LookupError String :=
  match expandParts environment (parts text.toList) with
  | .error error => .error error
  | .ok expanded =>
    if text.toList.head? = some '~' ∨ expanded.head? ≠ some '~' then
      .ok (String.ofList (expandTilde environment expanded))
    else .ok (String.ofList expanded)

end Expansion
end LocaleStaging
