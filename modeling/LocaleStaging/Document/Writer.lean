import LocaleStaging.Document.Basic
import LocaleStaging.Markup.Reference

namespace LocaleStaging.Document

def writeAttribute (key : String) (value : String) : List Char :=
  ' ' :: key.toList ++ "=\"".toList ++ Markup.escape value.toList ++ "\"".toList

def writePackage (package : String × String) : List Char :=
  '<' :: packageName.toList ++ writeAttribute nameKey package.1 ++
    writeAttribute tagsKey package.2 ++ "/>".toList

def writeCreated : Option Int64 → List Char
  | none => []
  | some created => writeAttribute createdKey (toString created.toInt)

def declaration : List Char := "<?xml version=\"1.0\" encoding=\"UTF-8\" standalone=\"yes\"?>".toList

def write (document : Document) : List Char :=
  declaration ++ '<' :: rootName.toList ++ writeCreated document.created ++ ['>'] ++
    document.preferences.toList.flatMap writePackage ++ "</".toList ++ rootName.toList ++ ['>']

/-- The octets of a document, none at all if it holds no preferences. -/
def encode (document : Document) : Bytes :=
  if document.preferences.isEmpty then [] else Utf8.encodeChars (write document)

end LocaleStaging.Document
