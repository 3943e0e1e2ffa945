/-!
UTF-8. Octets are split into pieces: characters, octets that begin no character, and a character
that the end of the input cuts short. Reading a text, replacing what is broken, and quoting octets
for display are all read off this one splitting. Main statement: the octets of a text split into
its characters (`Utf8.pieces_encodeChars`), so reading them gives the text back
(`Utf8.decode_encode`).
-/

namespace LocaleStaging

abbrev Bytes := List UInt8

namespace Utf8

def encodeChars (text : List Char) : Bytes := text.flatMap String.utf8EncodeChar

def encode (text : String) : Bytes := encodeChars text.toList

inductive Piece where
  | char (c : Char)
  /-- Octets that can begin a character, before one that cannot go on with it, or a lone octet
  that begins none. -/
  | broken (octets : Bytes)
  /-- Octets that begin a character, at the end of the input. -/
  | cut (octets : Bytes)
deriving DecidableEq

/-- A character of which some octets are still missing. The next one lies between `low` and
`high`, and later ones between 80 and BF. -/
structure Pending where
  octets : Bytes
  value : Nat
  missing : Nat
  low : UInt8
  high : UInt8

def begin (octet : UInt8) : List Piece × Option Pending :=
  if octet < 0x80 then ([.char (Char.ofNat octet.toNat)], none)
  else if octet < 0xC2 then ([.broken [octet]], none)
  else if octet < 0xE0 then ([], some ⟨[octet], octet.toNat - 0xC0, 1, 0x80, 0xBF⟩)
  else if octet < 0xF0 then
    ([], some ⟨[octet], octet.toNat - 0xE0, 2,
      if octet = 0xE0 then 0xA0 else 0x80, if octet = 0xED then 0x9F else 0xBF⟩)
  else if octet < 0xF5 then
    ([], some ⟨[octet], octet.toNat - 0xF0, 3,
      if octet = 0xF0 then 0x90 else 0x80, if octet = 0xF4 then 0x8F else 0xBF⟩)
  else ([.broken [octet]], none)

def step (pending : Option Pending) (octet : UInt8) : List Piece × Option Pending :=
  match pending with
  | none => begin octet
  | some part =>
    if part.low ≤ octet ∧ octet ≤ part.high then
      let value := part.value * 64 + (octet.toNat - 0x80)
      if part.missing ≤ 1 then ([.char (Char.ofNat value)], none)
      else ([], some ⟨part.octets ++ [octet], value, part.missing - 1, 0x80, 0xBF⟩)
    else
      let (pieces, next) := begin octet
      (.broken part.octets :: pieces, next)

def piecesFrom (pending : Option Pending) : Bytes → List Piece
  | [] =>
    match pending with
    | none => []
    | some part => [.cut part.octets]
  | octet :: rest =>
    let (pieces, next) := step pending octet
    pieces ++ piecesFrom next rest

def pieces (octets : Bytes) : List Piece := piecesFrom none octets

/-- Why octets are no text: where the first fault stands, and how many octets it spans, or nothing
if the input ends there inside a character. -/
structure Fault where
  start : Nat
  length : Option Nat
deriving DecidableEq, Repr

def Fault.message (fault : Fault) : String :=
  match fault.length with
  | some length =>
    "invalid utf-8 sequence of " ++ toString length ++ " bytes from index " ++ toString fault.start
  | none => "incomplete utf-8 byte sequence from index " ++ toString fault.start

def joinPieces (start : Nat) : List Piece → Except Fault (List Char)
  | [] => .ok []
  | .char c :: rest =>
    match joinPieces (start + c.utf8Size) rest with
    | .ok text => .ok (c :: text)
    | .error fault => .error fault
  | .broken octets :: _ => .error ⟨start, some octets.length⟩
  | .cut _ :: _ => .error ⟨start, none⟩

def decode (octets : Bytes) : Except Fault String :=
  (joinPieces 0 (pieces octets)).map String.ofList

def decode? (octets : Bytes) : Option String := (decode octets).toOption

/-- Reads octets as a text in which each piece that is no character is U+FFFD. -/
def decodeLossy (octets : Bytes) : String :=
  String.ofList <| (pieces octets).map fun
    | .char c => c
    | _ => '\uFFFD'

/-! ## Octets of a text -/

theorem toNat_ofNat {n : Nat} (small : n < 256) : (UInt8.ofNat n).toNat = n :=
  Nat.mod_eq_of_lt small

theorem piecesFrom_some {part : Pending} {octet : UInt8} (rest : Bytes)
    (low : part.low.toNat ≤ octet.toNat) (high : octet.toNat ≤ part.high.toNat) :
    piecesFrom (some part) (octet :: rest) =
      if part.missing ≤ 1 then
        .char (Char.ofNat (part.value * 64 + (octet.toNat - 0x80))) :: piecesFrom none rest
      else piecesFrom (some ⟨part.octets ++ [octet], part.value * 64 + (octet.toNat - 0x80),
        part.missing - 1, 0x80, 0xBF⟩) rest := by
  have fits : part.low ≤ octet ∧ octet ≤ part.high := ⟨low, high⟩
  simp only [piecesFrom, step, fits, and_self, if_true]
  split <;> simp

theorem begin_two {n : Nat} (low : 0xC2 ≤ n) (high : n < 0xE0) :
    begin (UInt8.ofNat n) = ([], some ⟨[UInt8.ofNat n], n - 0xC0, 1, 0x80, 0xBF⟩) := by
  have value := toNat_ofNat (n := n) (by omega)
  simp only [begin, UInt8.lt_iff_toNat_lt, value]
  simp [show ¬ n < 128 by omega, show ¬ n < 194 by omega, high]

theorem begin_three {n : Nat} (low : 0xE0 ≤ n) (high : n < 0xF0) :
    begin (UInt8.ofNat n) = ([], some ⟨[UInt8.ofNat n], n - 0xE0, 2,
      if n = 0xE0 then 0xA0 else 0x80, if n = 0xED then 0x9F else 0xBF⟩) := by
  have value := toNat_ofNat (n := n) (by omega)
  simp only [begin, UInt8.lt_iff_toNat_lt, ← UInt8.toNat_inj, value]
  simp [show ¬ n < 128 by omega, show ¬ n < 194 by omega, show ¬ n < 224 by omega, high]

theorem begin_four {n : Nat} (low : 0xF0 ≤ n) (high : n < 0xF5) :
    begin (UInt8.ofNat n) = ([], some ⟨[UInt8.ofNat n], n - 0xF0, 3,
      if n = 0xF0 then 0x90 else 0x80, if n = 0xF4 then 0x8F else 0xBF⟩) := by
  have value := toNat_ofNat (n := n) (by omega)
  simp only [begin, UInt8.lt_iff_toNat_lt, ← UInt8.toNat_inj, value]
  simp [show ¬ n < 128 by omega, show ¬ n < 194 by omega, show ¬ n < 224 by omega,
    show ¬ n < 240 by omega, high]

theorem ofNat_toNat_eq {c : Char} {n : Nat} (same : n = c.toNat) : Char.ofNat n = c := by
  rw [same, Char.ofNat_toNat]

theorem piecesFrom_encodeChar (c : Char) (rest : Bytes) :
    piecesFrom none (String.utf8EncodeChar c ++ rest) = .char c :: piecesFrom none rest := by
  have valid : c.toNat < 0xD800 ∨ 0xDFFF < c.toNat ∧ c.toNat < 0x110000 := c.valid
  have value : c.val.toNat = c.toNat := rfl
  simp only [String.utf8EncodeChar, value]
  generalize size : c.toNat = n at *
  have back {m : Nat} (same : m = n) : Char.ofNat m = c := ofNat_toNat_eq (same.trans size.symm)
  split
  next short =>
    have octet := toNat_ofNat (n := n) (by omega)
    simp [piecesFrom, step, begin, UInt8.lt_iff_toNat_lt, octet, show n < 128 by omega, back rfl]
  split
  next =>
    have first := begin_two (n := n / 64 % 0x20 + 0xC0) (by omega) (by omega)
    have second := toNat_ofNat (n := n % 64 + 0x80) (by omega)
    rw [List.cons_append, piecesFrom]
    simp only [step, first, List.nil_append, List.cons_append]
    rw [piecesFrom_some _ (by rw [second]; simp) (by rw [second]; simp; omega)]
    simp only [second, Nat.le_refl, if_true]
    rw [back (by omega)]
  split
  next =>
    have first := begin_three (n := n / 4096 % 0x10 + 0xE0) (by omega) (by omega)
    have second := toNat_ofNat (n := n / 64 % 64 + 0x80) (by omega)
    have third := toNat_ofNat (n := n % 64 + 0x80) (by omega)
    rw [List.cons_append, piecesFrom]
    simp only [step, first, List.nil_append, List.cons_append]
    rw [piecesFrom_some _
      (by
        rw [second]
        dsimp only
        split
        · simp
          omega
        · simp)
      (by rw [second]; dsimp only; split <;> simp <;> omega)]
    simp only [second, Nat.reduceLeDiff, if_false]
    rw [piecesFrom_some _ (by rw [third]; simp) (by rw [third]; simp; omega)]
    simp only [third, Nat.reduceSub, Nat.le_refl, if_true]
    rw [back (by omega)]
  next =>
    have first := begin_four (n := n / 262144 % 0x08 + 0xF0) (by omega) (by omega)
    have second := toNat_ofNat (n := n / 4096 % 64 + 0x80) (by omega)
    have third := toNat_ofNat (n := n / 64 % 64 + 0x80) (by omega)
    have fourth := toNat_ofNat (n := n % 64 + 0x80) (by omega)
    rw [List.cons_append, piecesFrom]
    simp only [step, first, List.nil_append, List.cons_append]
    rw [piecesFrom_some _
      (by
        rw [second]
        dsimp only
        split
        · simp
          omega
        · simp)
      (by rw [second]; dsimp only; split <;> simp <;> omega)]
    simp only [second, Nat.reduceLeDiff, if_false]
    rw [piecesFrom_some _ (by rw [third]; simp) (by rw [third]; simp; omega)]
    simp only [third, Nat.reduceSub, Nat.reduceLeDiff, if_false]
    rw [piecesFrom_some _ (by rw [fourth]; simp) (by rw [fourth]; simp; omega)]
    simp only [fourth, Nat.reduceSub, Nat.le_refl, if_true]
    rw [back (by omega)]

theorem pieces_encodeChars (text : List Char) : pieces (encodeChars text) = text.map .char := by
  induction text with
  | nil => rfl
  | cons c rest ih =>
    simp only [pieces, encodeChars, List.flatMap_cons, List.map_cons] at ih ⊢
    rw [piecesFrom_encodeChar, ih]

theorem joinPieces_map_char (start : Nat) (text : List Char) :
    joinPieces start (text.map .char) = .ok text := by
  induction text generalizing start with
  | nil => rfl
  | cons c rest ih => simp [joinPieces, ih]

theorem decode_encode (text : String) : decode (encode text) = .ok text := by
  simp [decode, encode, pieces_encodeChars, joinPieces_map_char, Except.map]

end Utf8
end LocaleStaging
