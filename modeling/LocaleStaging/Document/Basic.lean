import LocaleStaging.Markup.Fault
import LocaleStaging.Preferences

namespace LocaleStaging

structure Document where
  /-- Time of creation in milliseconds since the epoch, if the document gives one. -/
  created : Option Int64
  preferences : Preferences
deriving DecidableEq

namespace Document

def rootName : String := "locales"

def packageName : String := "package"

def nameKey : String := "name"

def tagsKey : String := "locales"

def createdKey : String := "creationTimeMillis"

inductive Fault where
  | markup (fault : Markup.Fault)
  | missingRoot
  | unexpectedRoot (name : String)
deriving DecidableEq, Repr

def Fault.message : Fault → String
  | markup fault => fault.message
  | missingRoot => "document has no root element, expected <locales>"
  | unexpectedRoot name => "unexpected root element <" ++ name ++ ">, expected <locales>"

def Fault.causes : Fault → List String
  | markup fault => fault.causes
  | fault => [fault.message]

end Document
end LocaleStaging
