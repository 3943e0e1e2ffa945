import LocaleStaging.Markup.Reference
import LocaleStaging.Markup.Tag

namespace LocaleStaging.Markup

structure Attribute where
  key : Bytes
  value : Bytes
deriving DecidableEq, Repr

abbrev Attributes := List (Except AttributeFault Attribute)

/-- Where a reader of attributes stands. Octets already seen are kept, the last one first. -/
inductive AttributeState where
  | between
  | key (start : Nat) (seen : Bytes)
  | equals (start : Nat) (key : Bytes)
  | quote (key : Bytes)
  | value (key : Bytes) (mark : UInt8) (seen : Bytes)
  | failed
deriving DecidableEq, Repr

abbrev Keys := List (Bytes × Nat)

structure AttributeStep where
  found : Attributes
  next : AttributeState
  keys : Keys

/-- Takes the equals sign after a key. A key may occur once. -/
def takeKey (keys : Keys) (start : Nat) (key : Bytes) : AttributeStep :=
  match keys.find? fun earlier => earlier.1 == key with
  | some earlier => ⟨[.error (.duplicated start earlier.2)], .failed, keys⟩
  | none => ⟨[], .quote key, keys ++ [(key, start)]⟩

def stepAttribute (keys : Keys) (position : Nat) (state : AttributeState) (octet : UInt8) :
    AttributeStep :=
  match state with
  | .between => ⟨[], if isSpace octet then .between else .key position [octet], keys⟩
  | .key start seen =>
    if octet = '='.toUInt8 then takeKey keys start seen.reverse
    else if isSpace octet then ⟨[], .equals start seen.reverse, keys⟩
    else ⟨[], .key start (octet :: seen), keys⟩
  | .equals start key =>
    if octet = '='.toUInt8 then takeKey keys start key
    else if isSpace octet then ⟨[], state, keys⟩
    else ⟨[.error (.expectedEquals position)], .failed, keys⟩
  | .quote key =>
    if isSpace octet then ⟨[], state, keys⟩
    else if octet = '"'.toUInt8 ∨ octet = '\''.toUInt8 then ⟨[], .value key octet [], keys⟩
    else ⟨[.error (.unquotedValue position)], .failed, keys⟩
  | .value key mark seen =>
    if octet = mark then ⟨[.ok ⟨key, seen.reverse⟩], .between, keys⟩
    else ⟨[], .value key mark (octet :: seen), keys⟩
  | .failed => ⟨[], .failed, keys⟩

def endAttributes (position : Nat) : AttributeState → Attributes
  | .between => []
  | .key _ _ => [.error (.expectedEquals position)]
  | .equals _ _ => [.error (.expectedEquals position)]
  | .quote _ => [.error (.expectedValue position)]
  | .value _ mark _ => [.error (.missingQuote position (Char.ofNat mark.toNat))]
  | .failed => []

def attributesFrom (keys : Keys) (position : Nat) (state : AttributeState) : Bytes → Attributes
  | [] => endAttributes position state
  | octet :: rest =>
    let taken := stepAttribute keys position state octet
    taken.found ++ attributesFrom taken.keys (position + 1) taken.next rest

def nameOf (content : Bytes) : Bytes := content.takeWhile fun octet => !isSpace octet

def attributesOf (content : Bytes) : Attributes :=
  let name := nameOf content
  attributesFrom [] name.length .between (content.drop name.length)

def readValue (value : Bytes) : Except Fault String :=
  match Utf8.decode value with
  | .error fault => .error (.encoding fault)
  | .ok text =>
    match unescape text.toList with
    | .error fault => .error (.reference fault)
    | .ok resolved => .ok (String.ofList resolved)

/-- The text of the first attribute with a key. Attributes after it are not looked at. -/
def findValue (key : Bytes) : Attributes → Except Fault (Option String)
  | [] => .ok none
  | .error fault :: _ => .error (.attributes fault)
  | .ok found :: rest =>
    if found.key = key then (readValue found.value).map some else findValue key rest

end LocaleStaging.Markup
