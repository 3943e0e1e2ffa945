import LocaleStaging.Log.Notice
import LocaleStaging.Log.Pattern
import LocaleStaging.Settings.Environment
import LocaleStaging.Text.Segments

/-!
Filters: which notices are shown. A filter is written as directives between commas, such as
`warn,locale_backup=debug`. Each directive limits the level of the notices that it covers. Of those
that cover a notice the most specific one decides, and a notice that none covers is not shown.

White space around a directive is passed over when the directive is divided into its parts, yet the
parts are cut out of the text with its white space, at places that are counted without it.
-/

namespace LocaleStaging

structure FieldPattern where
  name : List Char
  value : Option (List Char)
deriving DecidableEq, Repr

inductive FilterFault where
  | malformed
  | cutCharacter
deriving DecidableEq, Repr

def splitAt (octets : Nat) (text : List Char) : Except FilterFault (List Char × List Char) :=
  match octets, text with
  | 0, text => .ok ([], text)
  | _ + 1, [] => .error .cutCharacter
  | octets + 1, c :: rest =>
    if c.utf8Size ≤ octets + 1 then
      (splitAt (octets + 1 - c.utf8Size) rest).map fun (part, rest) => (c :: part, rest)
    else .error .cutCharacter

/-- The part of a text between two places, which are counted in octets. -/
def cut (text : List Char) (start stop : Nat) : Except FilterFault (List Char) := do
  let (_, rest) ← splitAt start text
  let (part, _) ← splitAt (stop - start) rest
  return part

structure Directive where
  target : Option (List Char) := none
  activity : Option (List Char) := none
  field : Option FieldPattern := none
  limit : Option Level := some .trace
deriving DecidableEq, Repr

namespace Directive

def readLimit (text : List Char) : Option (Option Level) :=
  match Numeral.readDecimal (UInt64.size - 1) text with
  | .ok rank =>
    if rank = 0 then some none else (Level.all.find? fun level => level.rank = rank).map some
  | .error _ =>
    let name := String.ofList (text.map Char.toLower)
    if name = "off" then some none else (Level.all.find? fun level => level.name = name).map some

/-- Reads a limit. Without any text all levels are shown. -/
def readLimitPart (text : List Char) : Except FilterFault (Option Level) :=
  if text.isEmpty then .ok (some .trace)
  else
    match readLimit text with
    | some limit => .ok limit
    | none => .error .malformed

def readField (text : List Char) : Except FilterFault FieldPattern :=
  match segments '=' text with
  | name :: value :: _ =>
    if Numeral.isDecimal value || Pattern.isWellFormed value then .ok ⟨name, some value⟩
    else .error .malformed
  | _ => if text.isEmpty then .error .malformed else .ok ⟨text, none⟩

def isTargetStart (c : Char) : Bool := isAlphanumeric c || c == '-' || c == ':' || c == '_'

inductive Part where
  | start
  | word
  | activity (start : Nat)
  | field (start : Nat)
  | fieldEnd
  | activityEnd
  | limit (start : Nat)
deriving DecidableEq, Repr

def step (text : List Char) (place : Nat) (c : Char) (directive : Directive) :
    Part → Except FilterFault (Directive × Part)
  | .start =>
    if c = '[' then .ok (directive, .activity (place + 1))
    else if isTargetStart c then .ok (directive, .word)
    else .error .malformed
  | .word =>
    if c = '=' ∨ c = '[' then do
      let target ← cut text 0 place
      return ({ directive with target := some target },
        if c = '=' then .limit (place + 1) else .activity (place + 1))
    else .ok (directive, .word)
  | .activity start =>
    if c = ']' then do
      return ({ directive with activity := some (← cut text start place) }, .activityEnd)
    else if c = '\x7b' then do
      let name ← cut text start place
      return ({ directive with activity := if name.isEmpty then none else some name },
        .field (place + 1))
    else .ok (directive, .activity start)
  | .field start =>
    if c = '\x7d' then do
      return ({ directive with field := some (← readField (← cut text start place)) }, .fieldEnd)
    else .ok (directive, .field start)
  | .fieldEnd => if c = ']' then .ok (directive, .activityEnd) else .error .malformed
  | .activityEnd => if c = '=' then .ok (directive, .limit (place + 1)) else .error .malformed
  | .limit start => .ok (directive, .limit start)

/-- What a directive says when its text ends in some part of it. A word that is no level is a
target. -/
def finish (text : List Char) (directive : Directive) : Part → Except FilterFault Directive
  | .word =>
    match readLimit text with
    | some limit => .ok { limit }
    | none => .ok { target := some text }
  | .limit start => do
    let (_, rest) ← splitAt start text
    return { directive with limit := ← readLimitPart rest }
  | .activityEnd => .ok directive
  | _ => .error .malformed

def readFrom (text : List Char) (place : Nat) (directive : Directive) (part : Part) :
    List Char → Except FilterFault Directive
  | [] => finish text directive part
  | c :: rest => do
    let (directive, part) ← step text place c directive part
    readFrom text (place + c.utf8Size) directive part rest

def read (text : List Char) : Except FilterFault Directive := readFrom text 0 {} .start (trim text)

/-- Whether a pattern is met by every notice. The only value that notices carry is their message. -/
def FieldPattern.isMet (pattern : FieldPattern) : Bool :=
  pattern == ⟨"message".toList, none⟩

/-- Whether a directive is about notices with some target. Notices are put out in no activity. -/
def covers (directive : Directive) (target : List Char) : Bool :=
  directive.activity.isNone && directive.field.all FieldPattern.isMet &&
    directive.target.all fun start => start.isPrefixOf target

def weight (directive : Directive) : Nat :=
  2 * (directive.target.elim 0 fun start => start.length + 1) +
    (if directive.field.isSome then 1 else 0)

end Directive

structure Filter where
  directives : List Directive
deriving DecidableEq, Repr

namespace Filter

def upTo (level : Level) : Filter := ⟨[{ limit := some level }]⟩

def read (text : String) : Except FilterFault Filter :=
  let written := (segments ',' text.toList).filter fun segment => !segment.isEmpty
  (written.mapM Directive.read).map Filter.mk

/-- The more specific one of two directives, and the later one if both are as specific. -/
def nearer (earlier : Option Directive) (later : Directive) : Option Directive :=
  match earlier with
  | none => some later
  | some directive => if later.weight < directive.weight then earlier else some later

def nearest (filter : Filter) (target : String) : Option Directive :=
  (filter.directives.filter fun directive => directive.covers target.toList).foldl nearer none

def shows (filter : Filter) (notice : Notice) : Bool :=
  match filter.nearest notice.target with
  | none => false
  | some directive => directive.limit.any fun limit => notice.level.rank ≤ limit.rank

def variableName : String := "RUST_LOG"

/-- The filter that a text gives, or the other one if it is malformed. There is none if a part of
the text would begin or end within a character. -/
def readOr (text : String) (other : Option Filter) : Option Filter :=
  match read text with
  | .ok filter => some filter
  | .error .malformed => other
  | .error .cutCharacter => none

/-- The filter in the environment, or else the one in the settings, or else one that shows
informative notices. -/
def choose? (environment : Environment) (setting : String) : Option Filter :=
  let inSettings := readOr setting (some (upTo .info))
  match environment.text variableName with
  | .ok text => readOr text inSettings
  | .error _ => inSettings

end Filter
end LocaleStaging
