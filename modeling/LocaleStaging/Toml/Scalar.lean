import LocaleStaging.Text.Numeral
import LocaleStaging.Text.Segments
import LocaleStaging.Toml.Value

namespace LocaleStaging.Toml

/-- Digits without the underscores between them. An underscore stands between two digits. -/
def ungroup (isDigit : Char → Bool) (text : List Char) : Option (List Char) :=
  let groups := segments '_' text
  if groups.all fun group => !group.isEmpty && group.all isDigit then some groups.flatten else none

def digitsValue (radix : Nat) (digits : List Char) : Nat :=
  digits.foldl (fun value c => value * radix + (Numeral.digit? radix c).getD 0) 0

def isDigitOf (radix : Nat) (c : Char) : Bool := (Numeral.digit? radix c).isSome

def takeSign (text : List Char) : Option Bool × List Char :=
  match text with
  | '+' :: rest => (some false, rest)
  | '-' :: rest => (some true, rest)
  | _ => (none, text)

/-- Decimal digits, of which the first is zero only if it is the only one. -/
def wholeDigits? (text : List Char) : Option (List Char) :=
  match ungroup Char.isDigit text with
  | some ('0' :: _ :: _) => none
  | digits => digits

def integer? (text : List Char) : Option Int :=
  match text with
  | '0' :: 'x' :: digits => (ungroup (isDigitOf 16) digits).map fun digits => digitsValue 16 digits
  | '0' :: 'o' :: digits => (ungroup (isDigitOf 8) digits).map fun digits => digitsValue 8 digits
  | '0' :: 'b' :: digits => (ungroup (isDigitOf 2) digits).map fun digits => digitsValue 2 digits
  | _ =>
    let (sign, digits) := takeSign text
    (wholeDigits? digits).map fun digits =>
      if sign = some true then -(digitsValue 10 digits : Int) else digitsValue 10 digits

def splitOnce (test : Char → Bool) (text : List Char) : List Char × Option (List Char) :=
  match text.dropWhile fun c => !test c with
  | [] => (text, none)
  | _ :: rest => (text.takeWhile fun c => !test c, some rest)

def exponent? (text : List Char) : Option Int :=
  let (sign, digits) := takeSign text
  (ungroup Char.isDigit digits).map fun digits =>
    if sign = some true then -(digitsValue 10 digits : Int) else digitsValue 10 digits

def decimal? (text : List Char) : Option Decimal :=
  let (sign, body) := takeSign text
  let negative := sign == some true
  if body = "inf".toList then some (.infinite negative)
  else if body = "nan".toList then some .notANumber
  else do
    let (mantissa, exponent) := splitOnce (fun c => c == 'e' || c == 'E') body
    let (whole, fraction) := splitOnce (· == '.') mantissa
    if exponent.isNone ∧ fraction.isNone then none
    let power ← match exponent with
      | none => some 0
      | some digits => exponent? digits
    let places ← match fraction with
      | none => some []
      | some digits => ungroup Char.isDigit digits
    let digits := (← wholeDigits? whole) ++ places
    return .finite negative (digitsValue 10 digits) (power - places.length)

def Decimal.overflows : Decimal → Bool
  | finite _ digits exponent =>
    let size := (Nat.toDigits 10 digits).length + exponent
    if digits = 0 ∨ size < 300 then false
    else if 320 < size then true
    else
      let bound := Nat.pow 2 1024 - Nat.pow 2 970
      if 0 ≤ exponent then bound ≤ digits * Nat.pow 10 exponent.toNat
      else bound * Nat.pow 10 (-exponent).toNat ≤ digits
  | _ => false

def fixed? (width : Nat) (text : List Char) : Option (Nat × List Char) :=
  let digits := text.take width
  if digits.length = width ∧ digits.all Char.isDigit then
    some (digitsValue 10 digits, text.drop width)
  else none

def expect? (c : Char) (text : List Char) : Option (List Char) :=
  match text with
  | first :: rest => if first = c then some rest else none
  | [] => none

def daysIn (year month : Nat) : Nat :=
  if month = 2 then
    if year % 4 = 0 ∧ (year % 100 ≠ 0 ∨ year % 400 = 0) then 29 else 28
  else if month = 4 ∨ month = 6 ∨ month = 9 ∨ month = 11 then 30
  else 31

def date? (text : List Char) : Option (Date × List Char) := do
  let (year, rest) ← fixed? 4 text
  let (month, rest) ← fixed? 2 (← expect? '-' rest)
  let (day, rest) ← fixed? 2 (← expect? '-' rest)
  if 1 ≤ month ∧ month ≤ 12 ∧ 1 ≤ day ∧ day ≤ daysIn year month then
    return (⟨year, month, day⟩, rest)
  else none

def seconds? (text : List Char) : Option (Nat × List Char × List Char) :=
  match text with
  | ':' :: rest => do
    let (second, rest) ← fixed? 2 rest
    match rest with
    | '.' :: rest =>
      let fraction := rest.takeWhile Char.isDigit
      if fraction.isEmpty then none
      else return (second, fraction, rest.dropWhile Char.isDigit)
    | _ => return (second, [], rest)
  | _ => some (0, [], text)

def clock? (text : List Char) : Option (Clock × List Char) := do
  let (hour, rest) ← fixed? 2 text
  let (minute, rest) ← fixed? 2 (← expect? ':' rest)
  let (second, fraction, rest) ← seconds? rest
  if hour ≤ 23 ∧ minute ≤ 59 ∧ second ≤ 60 then
    return (⟨hour, minute, second, fraction⟩, rest)
  else none

def offset? (text : List Char) : Option Int :=
  if text = ['Z'] ∨ text = ['z'] then some 0
  else do
    let (sign, rest) := takeSign text
    let negative ← sign
    let (hours, rest) ← fixed? 2 rest
    let (minutes, rest) ← fixed? 2 (← expect? ':' rest)
    let total : Int := hours * 60 + minutes
    if rest.isEmpty ∧ hours ≤ 23 ∧ minutes ≤ 59 then
      return if negative then -total else total
    else none

def moment? (text : List Char) : Option Moment :=
  match date? text with
  | some (date, []) => some ⟨some date, none, none⟩
  | some (date, separator :: rest) => do
    if separator ≠ 'T' ∧ separator ≠ 't' ∧ separator ≠ ' ' then none
    let (clock, rest) ← clock? rest
    if rest.isEmpty then return ⟨some date, some clock, none⟩
    return ⟨some date, some clock, some (← offset? rest)⟩
  | none => do
    let (clock, rest) ← clock? text
    if rest.isEmpty then return ⟨none, some clock, none⟩ else none

def scalar (text : List Char) : Except Fault Value :=
  if text = "true".toList then .ok (.boolean true)
  else if text = "false".toList then .ok (.boolean false)
  else
    match integer? text, decimal? text, moment? text with
    | some value, _, _ => .ok (.integer value)
    | none, some value, _ => .ok (.decimal value)
    | none, none, some value => .ok (.moment value)
    | none, none, none => .error .invalidValue

end LocaleStaging.Toml
