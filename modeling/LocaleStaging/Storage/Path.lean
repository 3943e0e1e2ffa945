import LocaleStaging.Text.Quoted
import LocaleStaging.Text.Segments

namespace LocaleStaging

structure Path where
  octets : Bytes
deriving DecidableEq, Repr

namespace Path

def slash : UInt8 := '/'.toUInt8

def dot : Bytes := ['.'.toUInt8]

def dotDot : Bytes := ['.'.toUInt8, '.'.toUInt8]

def ofString (text : String) : Path := ⟨Utf8.encode text⟩

def isAbsolute (path : Path) : Bool := path.octets.head? == some slash

def endsInSlash (path : Path) : Bool := path.octets.getLast? == some slash

def names (path : Path) : List Bytes := (segments slash path.octets).filter fun name => !name.isEmpty

def join (directory : Path) (name : Bytes) : Path :=
  if name.head? = some slash then ⟨name⟩
  else if directory.octets.isEmpty ∨ directory.endsInSlash then ⟨directory.octets ++ name⟩
  else ⟨directory.octets ++ slash :: name⟩

def quoted (path : Path) : String := Quoted.octets path.octets

def isTrivial (segment : Bytes) : Bool := segment.isEmpty || segment == dot

def cutTrivial (path : List Bytes) : List Bytes := (path.reverse.dropWhile isTrivial).reverse

/-- How many octets at the start of a path are no name: a slash, or a dot for the directory that a
relative path starts in. -/
def headLength (path : Path) : Nat :=
  if path.isAbsolute ∨ (segments slash path.octets).head? = some dot then 1 else 0

def parent? (path : Path) : Option Path :=
  let head := path.octets.take path.headLength
  match cutTrivial (segments slash (path.octets.drop path.headLength)) with
  | [] => if head = dot then some ⟨[]⟩ else none
  | first :: rest =>
    some ⟨head ++ [slash].intercalate (cutTrivial (first :: rest).dropLast)⟩

def ancestorsUpTo : Nat → Path → List Path
  | 0, _ => []
  | limit + 1, path =>
    match path.parent? with
    | none => []
    | some parent => path :: ancestorsUpTo limit parent

/-- A path and those of the directories around it, innermost first, without the one that a relative
path starts in and without the root. -/
def ancestors (path : Path) : List Path := ancestorsUpTo (path.octets.length + 1) path

def withName (path : Path) (name : Bytes) : Path :=
  match path.parent? with
  | none => path.join name
  | some parent => parent.join name

end Path
end LocaleStaging
