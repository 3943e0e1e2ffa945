import LocaleStaging.Text.Extending
import LocaleStaging.Text.Unprintable
import LocaleStaging.Text.Utf8

namespace LocaleStaging.Quoted

def hexDigit (value : Nat) : Char :=
  if value < 10 then Char.ofNat ('0'.toNat + value) else Char.ofNat ('a'.toNat + (value - 10))

def hex (value : Nat) : List Char := (Nat.toDigits 16 value)

def codePoint (c : Char) : List Char := ['\\', 'u', '\x7b'] ++ hex c.toNat ++ ['\x7d']

def char (c : Char) : List Char :=
  if c = '"' then ['\\', '"']
  else if c = '\\' then ['\\', '\\']
  else if c = '\n' then ['\\', 'n']
  else if c = '\r' then ['\\', 'r']
  else if c = '\t' then ['\\', 't']
  else if c = '\x00' then ['\\', '0']
  else if isExtending c ∨ isUnprintable c then codePoint c
  else [c]

def octet (value : UInt8) : List Char :=
  ['\\', 'x', (hexDigit (value.toNat / 16)).toUpper, (hexDigit (value.toNat % 16)).toUpper]

def piece : Utf8.Piece → List Char
  | .char c => char c
  | .broken octets => octets.flatMap octet
  | .cut octets => octets.flatMap octet

def quote (pieces : List Utf8.Piece) : String :=
  String.ofList ('"' :: pieces.flatMap piece ++ ['"'])

def text (value : String) : String := quote (value.toList.map .char)

def octets (value : Bytes) : String := quote (Utf8.pieces value)

end LocaleStaging.Quoted
