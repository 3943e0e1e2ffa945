import LocaleStaging.Text.Alphanumeric
import LocaleStaging.Text.Blank
import LocaleStaging.Text.Numeral

/-!
Regular expressions for the values that a notice carries: which texts are well formed. The classes
of characters that a database of Unicode would define are not there, nor is the folding of their
case, so what needs one of these is not well formed. A part in which Unicode is switched off can
match ASCII text only.
-/

namespace LocaleStaging.Pattern

def depthLimit : Nat := 250

structure Mode where
  unicode : Bool := true
  ignoresCase : Bool := false
  spaced : Bool := false
deriving DecidableEq, Repr

namespace Mode

def admits (mode : Mode) (inClass : Bool) (c : Char) : Bool :=
  if mode.unicode then !mode.ignoresCase else !inClass || c.toNat ≤ 0x7F

def admitsClass (mode : Mode) (negated : Bool) : Bool := mode.unicode || !negated

def admitsNamed (mode : Mode) (negated : Bool) : Bool :=
  if mode.unicode then !mode.ignoresCase else !negated

def set (mode : Mode) (flag : Char) (value : Bool) : Mode :=
  match flag with
  | 'u' => { mode with unicode := value }
  | 'i' => { mode with ignoresCase := value }
  | 'x' => { mode with spaced := value }
  | _ => mode

end Mode

def skipSpaces (inComment : Bool) : List Char → List Char
  | [] => []
  | c :: rest =>
    if inComment then skipSpaces (c != '\n') rest
    else if isBlank c then skipSpaces false rest
    else if c = '#' then skipSpaces true rest
    else c :: rest

def Mode.skip (mode : Mode) (text : List Char) : List Char :=
  if mode.spaced then skipSpaces false text else text

def Mode.peek (mode : Mode) (text : List Char) : Option Char :=
  if mode.spaced then
    let rest := match text.dropWhile isBlank with
      | '#' :: comment => comment.dropWhile isBlank
      | rest => rest
    rest.head?.or text.head?
  else text.head?

/-! ## Single characters -/

inductive Atom where
  | char (c : Char)
  | octet (c : Char)
  | named (negated : Bool)
  | textEdge
  | wordEdge
deriving DecidableEq, Repr

def Atom.char? : Atom → Option Char
  | char c => some c
  | octet c => some c
  | _ => none

def Atom.isAllowed (mode : Mode) (inClass : Bool) : Atom → Bool
  | char c => mode.admits inClass c
  | octet c => mode.admits inClass c && (mode.unicode || c.toNat ≤ 0x7F)
  | named negated => !mode.unicode && !negated
  | textEdge => !inClass
  | wordEdge => !inClass && !mode.unicode

def control? (letter : Char) : Option Char :=
  match letter with
  | 'a' => some '\x07'
  | 'f' => some '\x0c'
  | 'n' => some '\n'
  | 'r' => some '\r'
  | 't' => some '\t'
  | 'v' => some '\x0b'
  | _ => none

def codeLength? (letter : Char) : Option Nat :=
  match letter with
  | 'x' => some 2
  | 'u' => some 4
  | 'U' => some 8
  | _ => none

def readCode (mode : Mode) : Nat → Nat → List Char → Option (Char × List Char)
  | 0, value, text => if value.isValidChar then some (Char.ofNat value, text) else none
  | _ + 1, _, [] => none
  | missing + 1, value, c :: rest => do
    let digit ← Numeral.digit? 16 c
    readCode mode missing (value * 16 + digit) (mode.skip rest)

def readEscape (mode : Mode) : List Char → Option (Atom × List Char)
  | [] => none
  | c :: rest =>
    match codeLength? c, control? c with
    | some length, _ =>
      (readCode mode length 0 (mode.skip rest)).map fun (code, rest) =>
        (if c = 'x' then .octet code else .char code, rest)
    | none, some control => some (.char control, rest)
    | none, none =>
      if "dsw".toList.contains c then some (.named false, rest)
      else if "DSW".toList.contains c then some (.named true, rest)
      else if "Az".toList.contains c then some (.textEdge, rest)
      else if "bB<>".toList.contains c then some (.wordEdge, rest)
      else if c.toNat ≤ 0x7F ∧ !c.isAlphanum then some (.char c, rest)
      else none

/-! ## Nesting -/

def joinDepth : List Nat → Nat
  | [] => 0
  | [depth] => depth
  | depth :: depths => depths.foldl max depth + 1

/-! ## Classes in brackets -/

structure OpenClass where
  elements : List Nat := []
  left : Option Nat := none
deriving Repr

namespace OpenClass

def add (current : OpenClass) (depth : Nat) : OpenClass :=
  { current with elements := depth :: current.elements }

def depth (current : OpenClass) : Nat :=
  joinDepth (joinDepth current.elements :: current.left.toList)

def operate (current : OpenClass) : OpenClass := { left := some current.depth }

end OpenClass

def readDashes (mode : Mode) : Nat → OpenClass → List Char → OpenClass × List Char
  | limit + 1, current, '-' :: rest => readDashes mode limit (current.add 0) (mode.skip rest)
  | _, current, text => (current, text)

/-- Reads the start of a class, behind its bracket. A bracket that would close the class at once
stands for itself. -/
def openClass (mode : Mode) (text : List Char) : Option (OpenClass × List Char) :=
  let text := mode.skip text
  let (negated, text) := match text with
    | '^' :: rest => (true, mode.skip rest)
    | _ => (false, text)
  let (current, text) := readDashes mode text.length {} text
  let (current, text) := match current.elements, text with
    | [], ']' :: rest => (current.add 0, mode.skip rest)
    | _, _ => (current, text)
  if mode.admitsClass negated ∧ (current.elements.isEmpty ∨ mode.admits true '-') then
    some (current, text)
  else none

def classNames : List String :=
  ["alnum", "alpha", "ascii", "blank", "cntrl", "digit", "graph", "lower", "print", "punct",
   "space", "upper", "word", "xdigit"]

def readNamed? (text : List Char) : Option (Bool × List Char) :=
  let (negated, text) := match text with
    | '^' :: rest => (true, rest)
    | _ => (false, text)
  match text.dropWhile (· != ':') with
  | ':' :: ']' :: rest =>
    if classNames.contains (String.ofList (text.takeWhile (· != ':'))) then some (negated, rest)
    else none
  | _ => none

def readElement (mode : Mode) : List Char → Option (Atom × List Char)
  | [] => none
  | '\\' :: rest => readEscape mode rest
  | c :: rest => some (.char c, rest)

def readRange (mode : Mode) (text : List Char) : Option (List Char) := do
  let (first, rest) ← readElement mode text
  if !first.isAllowed mode true then none
  match mode.skip rest with
  | [] => none
  | '-' :: next =>
    if [some ']', some '-'].contains (mode.peek next) then return '-' :: next
    else
      let (last, rest) ← readElement mode (mode.skip next)
      if last.isAllowed mode true ∧ (← first.char?) ≤ (← last.char?) then return rest
      else none
  | rest => return rest

def readClass (mode : Mode) :
    Nat → OpenClass → List OpenClass → List Char → Option (Nat × List Char)
  | 0, _, _, _ => none
  | limit + 1, current, outer, text =>
    match mode.skip text with
    | [] => none
    | '&' :: '&' :: rest => readClass mode limit current.operate outer rest
    | '-' :: '-' :: rest => readClass mode limit current.operate outer rest
    | '~' :: '~' :: rest => readClass mode limit current.operate outer rest
    | ']' :: rest =>
      match outer with
      | [] => some (current.depth + 1, rest)
      | around :: outer => readClass mode limit (around.add (current.depth + 1)) outer rest
    | '[' :: rest =>
      match rest.head?, readNamed? rest.tail with
      | some ':', some (negated, rest) =>
        if mode.admitsNamed negated then readClass mode limit (current.add 0) outer rest else none
      | _, _ => do
        let (inner, rest) ← openClass mode rest
        readClass mode limit inner (current :: outer) rest
    | text => do
      let rest ← readRange mode text
      readClass mode limit (current.add 0) outer rest

/-! ## Groups -/

def flagLetters : List Char := "imsUuRx".toList

/-- Reads flags, given those that were read, the last one first. The second part of the answer tells
whether they are set for a group. -/
def readFlags (mode : Mode) (read : List Char) : List Char → Option (Mode × Bool × List Char)
  | [] => none
  | c :: rest =>
    if c = ':' then if read.head? = some '-' then none else some (mode, true, rest)
    else if c = ')' then
      if read.isEmpty ∨ read.head? = some '-' then none else some (mode, false, rest)
    else if read.contains c then none
    else if c = '-' then readFlags mode (c :: read) rest
    else if flagLetters.contains c then
      readFlags (mode.set c (!read.contains '-')) (c :: read) rest
    else none

def isGroupName (name : List Char) : Bool :=
  let inName (c : Char) : Bool := c == '_' || c == '.' || c == '[' || c == ']' || isAlphanumeric c
  match name with
  | [] => false
  | first :: rest => (first == '_' || isAlphabetic first) && rest.all inName

inductive Opening where
  | group (mode : Mode) (name : Option (List Char))
  | flags (mode : Mode)
deriving Repr

def readName (mode : Mode) (text : List Char) : Option (Opening × List Char) :=
  let name := text.takeWhile (· != '>')
  match text.dropWhile (· != '>') with
  | _ :: rest => if isGroupName name then some (.group mode (some name), rest) else none
  | [] => none

def readOpening (mode : Mode) (text : List Char) : Option (Opening × List Char) :=
  match mode.skip text with
  | '?' :: 'P' :: '<' :: rest => readName mode rest
  | '?' :: '<' :: rest => readName mode rest
  | '?' :: rest =>
    (readFlags mode [] rest).map fun (inner, isGroup, rest) =>
      (if isGroup then .group inner none else .flags inner, rest)
  | rest => some (.group mode none, rest)

structure Item where
  depth : Nat
  repeatable : Bool := true
deriving Repr

/-- A group whose end was not reached. The whole pattern is one, too. -/
structure OpenGroup where
  mode : Mode := {}
  /-- The items since the last bar, the last one first. -/
  items : List Item := []
  /-- How deep the alternatives before that bar are nested. -/
  branches : List Nat := []
deriving Repr

namespace OpenGroup

def add (current : OpenGroup) (depth : Nat) : OpenGroup :=
  { current with items := { depth } :: current.items }

def branchDepth (current : OpenGroup) : Nat := joinDepth (current.items.map (·.depth))

def depth (current : OpenGroup) : Nat := joinDepth (current.branchDepth :: current.branches)

def branch (current : OpenGroup) : OpenGroup :=
  { current with items := [], branches := current.branchDepth :: current.branches }

def setMode (current : OpenGroup) (mode : Mode) : OpenGroup :=
  { current with mode, items := { depth := 0, repeatable := false } :: current.items }

def repeatLast? (current : OpenGroup) : Option OpenGroup :=
  match current.items with
  | [] => none
  | last :: items =>
    if last.repeatable then some { current with items := { depth := last.depth + 1 } :: items }
    else none

end OpenGroup

structure Reading where
  current : OpenGroup := {}
  outer : List OpenGroup := []
  names : List (List Char) := []
deriving Repr

namespace Reading

def add (reading : Reading) (depth : Nat) : Reading :=
  { reading with current := reading.current.add depth }

/-- Goes on behind the start of a group. No two groups have the same name. -/
def enter (reading : Reading) : Opening → Option Reading
  | .flags mode => some { reading with current := reading.current.setMode mode }
  | .group mode name =>
    if name.any reading.names.contains then none
    else
      some
        { current := { mode }
          outer := reading.current :: reading.outer
          names := name.toList ++ reading.names }

def leave (reading : Reading) : Option Reading :=
  match reading.outer with
  | [] => none
  | around :: outer =>
    some { reading with current := around.add (reading.current.depth + 1), outer }

def step (reading : Reading) (c : Char) (rest : List Char) : Option (Reading × List Char) :=
  let mode := reading.current.mode
  match c with
  | '(' => do
    let (opening, rest) ← readOpening mode rest
    return (← reading.enter opening, rest)
  | ')' => reading.leave.map fun reading => (reading, rest)
  | '|' => some ({ reading with current := reading.current.branch }, rest)
  | '[' => do
    let (first, rest) ← openClass mode rest
    let (depth, rest) ← readClass mode (rest.length + 1) first [] rest
    return (reading.add depth, rest)
  | '\x7b' => none
  | '\\' => do
    let (atom, rest) ← readEscape mode rest
    if atom.isAllowed mode false then return (reading.add 0, rest) else none
  | '.' => if mode.unicode then some (reading.add 0, rest) else none
  | _ =>
    if c = '?' ∨ c = '*' ∨ c = '+' then do
      let current ← reading.current.repeatLast?
      return ({ reading with current }, if rest.head? = some '?' then rest.tail else rest)
    else if c = '^' ∨ c = '$' ∨ mode.admits false c then some (reading.add 0, rest)
    else none

def finish (reading : Reading) : Nat → List Char → Bool
  | 0, _ => false
  | limit + 1, text =>
    match reading.current.mode.skip text with
    | [] => reading.outer.isEmpty && reading.current.depth ≤ depthLimit
    | c :: rest =>
      match reading.step c rest with
      | none => false
      | some (reading, rest) => reading.finish limit rest

end Reading

def isWellFormed (text : List Char) : Bool := Reading.finish {} (text.length + 1) text

end LocaleStaging.Pattern
