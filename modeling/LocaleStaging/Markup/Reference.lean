import LocaleStaging.Markup.Fault

namespace LocaleStaging.Markup

def escapeChar (c : Char) : List Char :=
  if c = '<' then "&lt;".toList
  else if c = '>' then "&gt;".toList
  else if c = '&' then "&amp;".toList
  else if c = '\'' then "&apos;".toList
  else if c = '"' then "&quot;".toList
  else [c]

def escape (text : List Char) : List Char := text.flatMap escapeChar

def octetCount (text : List Char) : Nat := text.foldr (fun c count => c.utf8Size + count) 0

def ofNumber (digits : List Char) (radix : Nat) : Except NumberFault Char :=
  if digits.head? = some '+' ∨ digits.head? = some '-' then .error .unexpectedSign
  else
    match Numeral.read radix (UInt32.size - 1) digits with
    | .error fault => .error (.notANumber fault)
    | .ok code =>
      if code = 0 then .error .zero
      else if code.isValidChar then .ok (Char.ofNat code)
      else .error (.notACharacter code)

/-- The character that a reference stands for. `start` and `stop` say where its name stands. -/
def resolve (start stop : Nat) (name : List Char) : Except ReferenceFault Char :=
  match name with
  | '#' :: 'x' :: digits => (ofNumber digits 16).mapError .number
  | '#' :: digits => (ofNumber digits 10).mapError .number
  | _ =>
    if name = "lt".toList then .ok '<'
    else if name = "gt".toList then .ok '>'
    else if name = "amp".toList then .ok '&'
    else if name = "apos".toList then .ok '\''
    else if name = "quot".toList then .ok '"'
    else .error (.unrecognized start stop (String.ofList name))

structure OpenReference where
  start : Nat
  name : List Char

/-- Resolves the references of a value from some position on. `size` is the number of octets of
the whole value. -/
def unescapeFrom (size : Nat) (current : Option OpenReference) (position : Nat) :
    List Char → Except ReferenceFault (List Char)
  | [] =>
    match current with
    | none => .ok []
    | some reference => .error (.unterminated reference.start size)
  | c :: rest =>
    let next := position + c.utf8Size
    match current with
    | none =>
      if c = '&' then unescapeFrom size (some ⟨position, []⟩) next rest
      else (unescapeFrom size none next rest).map (c :: ·)
    | some reference =>
      if c = '&' then .error (.unterminated reference.start size)
      else if c = ';' then
        match resolve (reference.start + 1) position reference.name.reverse with
        | .error fault => .error fault
        | .ok resolved => (unescapeFrom size none next rest).map (resolved :: ·)
      else unescapeFrom size (some ⟨reference.start, c :: reference.name⟩) next rest

def unescape (value : List Char) : Except ReferenceFault (List Char) :=
  unescapeFrom (octetCount value) none 0 value

end LocaleStaging.Markup
