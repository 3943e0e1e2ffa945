import LocaleStaging.Markup.Fault

/-!
The tags of a document. Text between markup, comments, character data, processing instructions and
the document type are passed over. Octets are taken one at a time, and the first fault ends the
reading, so what a document begins with is read the same whatever follows.
-/

namespace LocaleStaging.Markup

def isSpace (octet : UInt8) : Bool :=
  octet = ' '.toUInt8 || octet = '\t'.toUInt8 || octet = '\n'.toUInt8 || octet = '\r'.toUInt8

inductive Tag where
  | opening (content : Bytes)
  /-- Is an element of its own. The slash at the end is not part of the content. -/
  | selfClosing (content : Bytes)
  /-- Closes an element. White space after the name is not part of it. -/
  | closing (name : Bytes)
deriving DecidableEq, Repr

/-- Octets without the white space at their end, unless they are all white space. -/
def cutSpaceAtEnd (octets : Bytes) : Bytes :=
  if octets.all isSpace then octets else (octets.reverse.dropWhile isSpace).reverse

def Tag.ofContent (content : Bytes) : Tag :=
  match content with
  | [] => .opening []
  | first :: rest =>
    if first = '/'.toUInt8 then .closing (cutSpaceAtEnd rest)
    else if content.getLast? = some '/'.toUInt8 then .selfClosing content.dropLast
    else .opening content

inductive Aside where
  | instruction
  | comment
  | data
  | doctype
deriving DecidableEq, Repr

/-- Whether a bracket closes markup, given the octets from after the opening bracket up to it, the
last one first. -/
def Aside.closes (aside : Aside) (seen : Bytes) : Bool :=
  match aside with
  | instruction => seen.take 1 == ['?'.toUInt8]
  | comment => seen.take 2 == ['-'.toUInt8, '-'.toUInt8] && 5 ≤ seen.length
  | data => seen.take 2 == [']'.toUInt8, ']'.toUInt8]
  | doctype => seen.count '<'.toUInt8 == seen.count '>'.toUInt8

def Aside.unclosed : Aside → Fault
  | instruction => .malformed .unclosedInstruction
  | comment => .malformed .unclosedComment
  | data => .malformed .unclosedData
  | doctype => .malformed .unclosedDoctype

def upper (octet : UInt8) : UInt8 :=
  if 'a'.toUInt8 ≤ octet ∧ octet ≤ 'z'.toUInt8 then octet - 32 else octet

/-- What is wrong with closed markup, if anything: each kind has its own beginning, and a document
type has a name. -/
def Aside.fault? (aside : Aside) (content : Bytes) : Option Fault :=
  match aside with
  | instruction => if content.length ≤ 1 then some aside.unclosed else none
  | comment => if (Utf8.encode "!--").isPrefixOf content then none else some aside.unclosed
  | data => if (Utf8.encode "![CDATA[").isPrefixOf content then none else some aside.unclosed
  | doctype =>
    if (Utf8.encode "!DOCTYPE").isPrefixOf (content.map upper) then
      if (content.drop 8).all isSpace then some (.nesting .missingDoctypeName) else none
    else some aside.unclosed

/-- Where a reader of markup stands. Octets already seen are kept, the last one first. -/
inductive State where
  | text
  | opened
  | declared
  | tag (quote : Option UInt8) (seen : Bytes)
  | aside (kind : Aside) (seen : Bytes)
  | failed
deriving DecidableEq, Repr

abbrev Tags := List (Except Fault Tag)

def stepTag (quote : Option UInt8) (seen : Bytes) (octet : UInt8) : Tags × State :=
  match quote with
  | some mark => ([], .tag (if octet = mark then none else quote) (octet :: seen))
  | none =>
    if octet = '>'.toUInt8 then ([.ok (Tag.ofContent seen.reverse)], .text)
    else if octet = '"'.toUInt8 ∨ octet = '\''.toUInt8 then ([], .tag (some octet) (octet :: seen))
    else ([], .tag none (octet :: seen))

def stepAside (kind : Aside) (seen : Bytes) (octet : UInt8) : Tags × State :=
  if octet = '>'.toUInt8 ∧ kind.closes seen then
    match kind.fault? seen.reverse with
    | some fault => ([.error fault], .failed)
    | none => ([], .text)
  else ([], .aside kind (octet :: seen))

def stepDeclared (octet : UInt8) : Tags × State :=
  let seen := [octet, '!'.toUInt8]
  if octet = '['.toUInt8 then ([], .aside .data seen)
  else if octet = '-'.toUInt8 then ([], .aside .comment seen)
  else if octet = 'D'.toUInt8 ∨ octet = 'd'.toUInt8 then ([], .aside .doctype seen)
  else ([.error (.malformed .unknownMarkup)], .failed)

def step (state : State) (octet : UInt8) : Tags × State :=
  match state with
  | .text => ([], if octet = '<'.toUInt8 then .opened else .text)
  | .opened =>
    if octet = '!'.toUInt8 then ([], .declared)
    else if octet = '?'.toUInt8 then ([], .aside .instruction [octet])
    else stepTag none [] octet
  | .declared => stepDeclared octet
  | .tag quote seen => stepTag quote seen octet
  | .aside kind seen => stepAside kind seen octet
  | .failed => ([], .failed)

def atEnd : State → Tags
  | .text => []
  | .opened => [.error (.malformed .unclosedTag)]
  | .declared => [.error (.malformed .unknownMarkup)]
  | .tag _ _ => [.error (.malformed .unclosedTag)]
  | .aside kind _ => [.error kind.unclosed]
  | .failed => []

def tagsFrom (state : State) : Bytes → Tags
  | [] => atEnd state
  | octet :: rest =>
    let (tags, next) := step state octet
    tags ++ tagsFrom next rest

def byteOrderMark : Bytes := [0xEF, 0xBB, 0xBF]

/-- The tags of a document. A byte order mark at its start is passed over. -/
def tags (document : Bytes) : Tags :=
  tagsFrom .text (if byteOrderMark.isPrefixOf document then document.drop 3 else document)

end LocaleStaging.Markup
