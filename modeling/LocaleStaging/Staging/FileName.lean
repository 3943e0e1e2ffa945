import LocaleStaging.Text.Numeral
import LocaleStaging.User

namespace LocaleStaging.StageFile

def nameStart : List Char := "staged_locales_".toList

def nameEnd : List Char := ".xml".toList

def name (user : UserId) : String :=
  String.ofList (nameStart ++ Nat.toDigits 10 user.toNat ++ nameEnd)

inductive NameFault where
  | unrecognized
  | invalidUser
deriving DecidableEq, Repr

def NameFault.message : NameFault → String
  | unrecognized => "Unrecognized file"
  | invalidUser => "Could not parse user id from file name"

def stripStart {α : Type} [BEq α] (start list : List α) : Option (List α) :=
  if start.isPrefixOf list then some (list.drop start.length) else none

def stripEnd {α : Type} [BEq α] (ending list : List α) : Option (List α) :=
  if ending.isSuffixOf list then some (list.take (list.length - ending.length)) else none

def digits? (name : List Char) : Option (List Char) := do
  let digits ← stripEnd nameEnd (← stripStart nameStart name)
  if digits ≠ [] ∧ digits.all Char.isDigit then some digits else none

def userOfName (name : String) : Except NameFault UserId :=
  match digits? name.toList with
  | none => .error .unrecognized
  | some digits =>
    match Numeral.read 10 (UInt32.size - 1) digits with
    | .error _ => .error .invalidUser
    | .ok user => .ok (UInt32.ofNat user)

end LocaleStaging.StageFile
