namespace LocaleStaging.Toml

inductive Fault where
  | unexpectedText
  | unclosedText
  | invalidEscape
  | invalidValue
  | duplicateKey
  | tooDeep
  | wrongType
  | outOfRange
deriving DecidableEq, Repr

def Fault.message : Fault → String
  | unexpectedText => "TOML parse error: unexpected text"
  | unclosedText => "TOML parse error: text without an end"
  | invalidEscape => "TOML parse error: invalid escape"
  | invalidValue => "TOML parse error: invalid value"
  | duplicateKey => "TOML parse error: duplicate key"
  | tooDeep => "TOML parse error: nested too deeply"
  | wrongType => "TOML parse error: value of another type expected"
  | outOfRange => "TOML parse error: number out of range"

structure Date where
  year : Nat
  month : Nat
  day : Nat
deriving DecidableEq, Repr

structure Clock where
  hour : Nat
  minute : Nat
  second : Nat
  fraction : List Char
deriving DecidableEq, Repr

structure Moment where
  date : Option Date
  clock : Option Clock
  /-- Minutes ahead of universal time. -/
  offset : Option Int
deriving DecidableEq, Repr

inductive Decimal where
  | infinite (negative : Bool)
  | notANumber
  | finite (negative : Bool) (digits : Nat) (exponent : Int)
deriving DecidableEq, Repr

inductive TableKind where
  /-- By a header of its own, or as the table of the whole document. -/
  | header
  /-- By the header of a table inside it. -/
  | implied
  | dotted
  | braces
deriving DecidableEq, Repr

inductive Value where
  | text (value : String)
  | integer (value : Int)
  | decimal (value : Decimal)
  | boolean (value : Bool)
  | moment (value : Moment)
  | list (elements : List Value)
  | tables (elements : List (List (String × Value)))
  | table (kind : TableKind) (entries : List (String × Value))

abbrev Entries := List (String × Value)

end LocaleStaging.Toml
