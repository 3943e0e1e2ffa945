import LocaleStaging.Document.Basic
import LocaleStaging.Markup.Attribute
import LocaleStaging.Text.Blank

/-!
Reading locale documents. Only the root element and its direct children named `package` count.
Children of other names, deeper elements, and packages with an empty name or empty tags are passed
over, and a time that is no number counts as no time. Nothing after the end of the root is read.
-/

namespace LocaleStaging.Document

open Markup (Tag Tags)

def nameText (name : Bytes) : String := (Utf8.decode? name).getD ""

def readCreated (content : Bytes) : Except Fault (Option Int64) :=
  match Markup.findValue (Utf8.encode createdKey) (Markup.attributesOf content) with
  | .error fault => .error (.markup fault)
  | .ok value => .ok <| value.bind fun text => Numeral.int64? (trim text.toList)

def readRoot (content : Bytes) : Except Fault Document :=
  let name := Markup.nameOf content
  if name = Utf8.encode rootName then (readCreated content).map fun created => ⟨created, ∅⟩
  else .error (.unexpectedRoot (Utf8.decodeLossy name))

/-- Reads the content of a tag of a package. An attribute that is missing counts as empty. -/
def readPackage (content : Bytes) : Except Markup.Fault (String × String) := do
  let attributes := Markup.attributesOf content
  let name ← Markup.findValue (Utf8.encode nameKey) attributes
  let tags ← Markup.findValue (Utf8.encode tagsKey) attributes
  return (name.getD "", tags.getD "")

/-- Adds a package, unless its name or its tags are empty. -/
def addPackage (document : Document) (package : String × String) : Document :=
  if package.1 = "" ∨ package.2 = "" then document
  else { document with preferences := document.preferences.insert package.1 package.2 }

def readElement (document : Document) (outer : List Bytes) (content : Bytes) :
    Except Fault Document :=
  if outer.length = 1 ∧ Markup.nameOf content = Utf8.encode packageName then
    match readPackage content with
    | .error fault => .error (.markup fault)
    | .ok package => .ok (addPackage document package)
  else .ok document

def close (opened : List Bytes) (name : Bytes) : Except Fault (List Bytes) :=
  match opened with
  | [] => .error (.markup (.nesting (.unmatchedEnd (nameText name))))
  | innermost :: outer =>
    if innermost = name then .ok outer
    else .error (.markup (.nesting (.mismatchedEnd (nameText innermost) (nameText name))))

def readBody (document : Document) (opened : List Bytes) : Tags → Except Fault Document
  | [] => .ok document
  | .error fault :: _ => .error (.markup fault)
  | .ok (.opening content) :: rest =>
    match readElement document opened content with
    | .error fault => .error fault
    | .ok document => readBody document (Markup.nameOf content :: opened) rest
  | .ok (.selfClosing content) :: rest =>
    match readElement document opened content with
    | .error fault => .error fault
    | .ok document => readBody document opened rest
  | .ok (.closing name) :: rest =>
    match close opened name with
    | .error fault => .error fault
    | .ok [] => .ok document
    | .ok opened => readBody document opened rest

def ofTags : Tags → Except Fault Document
  | [] => .error .missingRoot
  | .error fault :: _ => .error (.markup fault)
  | .ok (.opening content) :: rest =>
    match readRoot content with
    | .error fault => .error fault
    | .ok document => readBody document [Markup.nameOf content] rest
  | .ok (.selfClosing content) :: _ => readRoot content
  | .ok (.closing name) :: _ =>
    .error (.markup (.nesting (.unmatchedEnd (nameText name))))

def decode (octets : Bytes) : Except Fault Document := ofTags (Markup.tags octets)

end LocaleStaging.Document
