import LocaleStaging.Text.Numeral
import LocaleStaging.Text.Utf8

namespace LocaleStaging.Markup

inductive SyntaxFault where
  | unknownMarkup
  | unclosedTag
  | unclosedInstruction
  | unclosedComment
  | unclosedData
  | unclosedDoctype
deriving DecidableEq, Repr

def SyntaxFault.message : SyntaxFault → String
  | unknownMarkup => "unknown or missed symbol in markup"
  | unclosedTag => "tag not closed: `>` not found before end of input"
  | unclosedInstruction =>
    "processing instruction or xml declaration not closed: `?>` not found before end of input"
  | unclosedComment => "comment not closed: `-->` not found before end of input"
  | unclosedData => "CDATA not closed: `]]>` not found before end of input"
  | unclosedDoctype => "DOCTYPE not closed: `>` not found before end of input"

inductive NestingFault where
  | missingDoctypeName
  | unmatchedEnd (found : String)
  | mismatchedEnd (expected found : String)
deriving DecidableEq, Repr

def NestingFault.message : NestingFault → String
  | missingDoctypeName => "`<!DOCTYPE>` declaration does not contain a name of a document type"
  | unmatchedEnd found => "close tag `</" ++ found ++ ">` does not match any open tag"
  | mismatchedEnd expected found =>
    "expected `</" ++ expected ++ ">`, but `</" ++ found ++ ">` was found"

/-- An attribute that cannot be read. Positions count the octets of a tag from its name on. -/
inductive AttributeFault where
  | expectedEquals (position : Nat)
  | expectedValue (position : Nat)
  | unquotedValue (position : Nat)
  | missingQuote (position : Nat) (quote : Char)
  | duplicated (position previous : Nat)
deriving DecidableEq, Repr

def AttributeFault.message : AttributeFault → String
  | expectedEquals position =>
    "position " ++ toString position ++
      ": attribute key must be directly followed by `=` or space"
  | expectedValue position =>
    "position " ++ toString position ++ ": `=` must be followed by an attribute value"
  | unquotedValue position =>
    "position " ++ toString position ++ ": attribute value must be enclosed in `\"` or `'`"
  | missingQuote position quote =>
    "position " ++ toString position ++ ": missing closing quote `" ++ toString quote ++
      "` in attribute value"
  | duplicated position previous =>
    "position " ++ toString position ++ ": duplicated attribute, previous declaration at position " ++
      toString previous

inductive NumberFault where
  | unexpectedSign
  | notANumber (fault : Numeral.Fault)
  | zero
  | notACharacter (code : Nat)
deriving DecidableEq, Repr

def NumberFault.message : NumberFault → String
  | unexpectedSign => "unexpected number sign"
  | notANumber fault => fault.message
  | zero => "0x0 character is not permitted in XML"
  | notACharacter code => "`" ++ toString code ++ "` is not a valid codepoint"

/-- A reference that cannot be resolved. Positions count the octets of the value it stands in. -/
inductive ReferenceFault where
  | unterminated (start stop : Nat)
  | unrecognized (start stop : Nat) (name : String)
  | number (fault : NumberFault)
deriving DecidableEq, Repr

def ReferenceFault.message : ReferenceFault → String
  | unterminated start stop =>
    "Error while escaping character at range " ++ toString start ++ ".." ++ toString stop ++
      ": Cannot find ';' after '&'"
  | unrecognized start stop name =>
    "at " ++ toString start ++ ".." ++ toString stop ++ ": unrecognized entity `" ++ name ++ "`"
  | number fault => "invalid character reference: " ++ fault.message

inductive Fault where
  | malformed (fault : SyntaxFault)
  | nesting (fault : NestingFault)
  | attributes (fault : AttributeFault)
  | encoding (fault : Utf8.Fault)
  | reference (fault : ReferenceFault)
deriving DecidableEq, Repr

def Fault.message : Fault → String
  | malformed fault => "syntax error: " ++ fault.message
  | nesting fault => "ill-formed document: " ++ fault.message
  | attributes fault => "error while parsing attribute: " ++ fault.message
  | encoding fault => "cannot decode input using UTF-8: " ++ fault.message
  | reference fault => fault.message

def Fault.causes (fault : Fault) : List String :=
  fault.message :: match fault with
    | malformed inner => [inner.message]
    | nesting inner => [inner.message]
    | attributes inner => [inner.message]
    | encoding inner => [fault.message, inner.message]
    | reference (.number (.notANumber inner)) => [fault.message, inner.message, inner.message]
    | reference (.number inner) => [fault.message, inner.message]
    | reference _ => [fault.message]

end LocaleStaging.Markup
