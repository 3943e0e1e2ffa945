namespace LocaleStaging.Numeral

inductive Fault where
  | empty
  | invalidDigit
  | tooLarge
deriving DecidableEq, Repr

def Fault.message : Fault → String
  | empty => "cannot parse integer from empty string"
  | invalidDigit => "invalid digit found in string"
  | tooLarge => "number too large to fit in target type"

def digit? (radix : Nat) (c : Char) : Option Nat :=
  let value :=
    if '0' ≤ c ∧ c ≤ '9' then c.toNat - '0'.toNat
    else if 'a' ≤ c ∧ c ≤ 'z' then c.toNat - 'a'.toNat + 10
    else if 'A' ≤ c ∧ c ≤ 'Z' then c.toNat - 'A'.toNat + 10
    else radix
  if value < radix then some value else none

def readFrom (radix limit value : Nat) : List Char → Except Fault Nat
  | [] => .ok value
  | c :: rest =>
    match digit? radix c with
    | none => .error .invalidDigit
    | some digit =>
      if limit < value * radix + digit then .error .tooLarge
      else readFrom radix limit (value * radix + digit) rest

def read (radix limit : Nat) (text : List Char) : Except Fault Nat :=
  if text.isEmpty then .error .empty else readFrom radix limit 0 text

/-- Reads a decimal number up to a limit. A plus sign before it is allowed. -/
def readDecimal (limit : Nat) (text : List Char) : Except Fault Nat :=
  match text with
  | '+' :: digits => if digits.isEmpty then .error .invalidDigit else read 10 limit digits
  | _ => read 10 limit text

def int64? (text : List Char) : Option Int64 :=
  match text with
  | '-' :: digits => (read 10 0x8000000000000000 digits).toOption.map fun value => Int64.ofInt (-value)
  | _ => (readDecimal 0x7FFFFFFFFFFFFFFF text).toOption.map fun value => Int64.ofNat value

def dropSign (text : List Char) : List Char :=
  match text with
  | '+' :: rest => rest
  | '-' :: rest => rest
  | _ => text

def isExponent : List Char → Bool
  | [] => true
  | mark :: text =>
    let digits := dropSign text
    (mark == 'e' || mark == 'E') && !digits.isEmpty && digits.all Char.isDigit

def isDecimal (text : List Char) : Bool :=
  let body := dropSign text
  let rest := body.dropWhile Char.isDigit
  let (places, rest) := match rest with
    | '.' :: rest => (rest.takeWhile Char.isDigit, rest.dropWhile Char.isDigit)
    | _ => ([], rest)
  ["inf", "infinity", "nan"].contains (String.ofList (body.map Char.toLower)) ||
    (body.head?.any Char.isDigit || !places.isEmpty) && isExponent rest

end LocaleStaging.Numeral
