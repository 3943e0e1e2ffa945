import LocaleStaging.Text.Utf8
import Mathlib.Algebra.Group.Nat.Defs

namespace LocaleStaging.Utf8

theorem encodeChars_append (first second : List Char) :
    encodeChars (first ++ second) = encodeChars first ++ encodeChars second :=
  List.flatMap_append

theorem encodeChars_cons (c : Char) (rest : List Char) :
    encodeChars (c :: rest) = String.utf8EncodeChar c ++ encodeChars rest := rfl

theorem utf8EncodeChar_of_ascii {c : Char} (ascii : c.toNat < 128) :
    String.utf8EncodeChar c = [c.toUInt8] := by
  have value : c.val.toNat = c.toNat := rfl
  simp only [String.utf8EncodeChar, value]
  rw [if_pos (by omega)]
  rfl

theorem encodeChars_cons_of_ascii {c : Char} (ascii : c.toNat < 128) (rest : List Char) :
    encodeChars (c :: rest) = c.toUInt8 :: encodeChars rest := by
  rw [encodeChars_cons, utf8EncodeChar_of_ascii ascii]
  rfl

theorem toNat_toUInt8 {c : Char} (ascii : c.toNat < 128) : c.toUInt8.toNat = c.toNat :=
  Nat.mod_eq_of_lt (Nat.lt_trans ascii (by decide))

theorem le_of_mem_utf8EncodeChar {c : Char} (wide : 128 ≤ c.toNat) {octet : UInt8}
    (member : octet ∈ String.utf8EncodeChar c) : 128 ≤ octet.toNat := by
  have value : c.val.toNat = c.toNat := rfl
  have valid : c.toNat < 0x110000 := by
    have : c.toNat < 0xD800 ∨ 0xDFFF < c.toNat ∧ c.toNat < 0x110000 := c.valid
    omega
  simp only [String.utf8EncodeChar, value] at member
  generalize c.toNat = n at *
  split at member
  next => omega
  split at member
  next =>
    simp only [List.mem_cons, List.not_mem_nil, or_false] at member
    rcases member with rfl | rfl <;> rw [toNat_ofNat (by omega)] <;> omega
  split at member
  next =>
    simp only [List.mem_cons, List.not_mem_nil, or_false] at member
    rcases member with rfl | rfl | rfl <;> rw [toNat_ofNat (by omega)] <;> omega
  next =>
    simp only [List.mem_cons, List.not_mem_nil, or_false] at member
    rcases member with rfl | rfl | rfl | rfl <;> rw [toNat_ofNat (by omega)] <;> omega

theorem length_encodeChars_of_ascii {text : List Char} (ascii : ∀ c ∈ text, c.toNat < 128) :
    (encodeChars text).length = text.length := by
  induction text with
  | nil => rfl
  | cons c text ih =>
      rw [encodeChars_cons_of_ascii (ascii c List.mem_cons_self), List.length_cons, List.length_cons,
        ih fun other member => ascii other (List.mem_cons_of_mem c member)]

theorem encode_injective {first second : String} (same : encode first = encode second) :
    first = second := by
  have back := decode_encode first
  rw [same, decode_encode second] at back
  exact (Except.ok.inj back).symm

theorem mem_of_mem_encodeChars {c : Char} (ascii : c.toNat < 128) {text : List Char}
    (member : c.toUInt8 ∈ encodeChars text) : c ∈ text := by
  obtain ⟨other, listed, coded⟩ := List.mem_flatMap.1 member
  have value := toNat_toUInt8 ascii
  by_cases narrow : other.toNat < 128
  · rw [utf8EncodeChar_of_ascii narrow, List.mem_singleton] at coded
    rw [coded, toNat_toUInt8 narrow] at value
    rwa [← Char.toNat_inj.1 value]
  · have := le_of_mem_utf8EncodeChar (by omega) coded
    omega

/-! ## Octets of pieces -/

def Piece.octets : Piece → Bytes
  | char c => String.utf8EncodeChar c
  | broken octets => octets
  | cut octets => octets

def continuation (value : Nat) : Nat → Bytes
  | 0 => []
  | count + 1 => UInt8.ofNat (value / 64 ^ count % 64 + 0x80) :: continuation value count

/-- Octets begin each character whose value begins with that of the octets and goes on as it may. -/
structure Pending.Begins (part : Pending) : Prop where
  missing : 1 ≤ part.missing
  low : 0x80 ≤ part.low.toNat
  high : part.high.toNat ≤ 0xBF
  completed : ∀ value, value / 64 ^ part.missing = part.value →
    part.low.toNat ≤ value / 64 ^ (part.missing - 1) % 64 + 0x80 →
    value / 64 ^ (part.missing - 1) % 64 + 0x80 ≤ part.high.toNat →
      String.utf8EncodeChar (Char.ofNat value) = part.octets ++ continuation value part.missing

def held : Option Pending → Bytes
  | none => []
  | some part => part.octets

theorem val_ofNat {value : Nat} (valid : value < 0xD800 ∨ 0xDFFF < value ∧ value < 0x110000) :
    (Char.ofNat value).val.toNat = value := by
  have isValid : value.isValidChar := valid
  rw [Char.ofNat, dif_pos isValid]
  rfl

theorem begins_two {octet : UInt8} (low : 0xC2 ≤ octet.toNat) (high : octet.toNat < 0xE0) :
    Pending.Begins ⟨[octet], octet.toNat - 0xC0, 1, 0x80, 0xBF⟩ := by
  refine ⟨Nat.le_refl 1, Nat.le_refl 0x80, Nat.le_refl 0xBF, ?_⟩
  intro value begun _ _
  simp only [Nat.pow_one] at begun
  have code := @val_ofNat value (by omega)
  have first : UInt8.ofNat (value / 64 % 0x20 + 0xC0) = octet := by
    rw [show value / 64 % 0x20 + 0xC0 = octet.toNat by omega, UInt8.ofNat_toNat]
  simp only [String.utf8EncodeChar, code]
  rw [if_neg (by omega), if_pos (by omega), first]
  simp [continuation]

theorem begins_three {octet : UInt8} (low : 0xE0 ≤ octet.toNat) (high : octet.toNat < 0xF0) :
    Pending.Begins ⟨[octet], octet.toNat - 0xE0, 2, if octet = 0xE0 then 0xA0 else 0x80,
      if octet = 0xED then 0x9F else 0xBF⟩ := by
  refine ⟨Nat.le_succ 1, ?_, ?_, ?_⟩
  · dsimp only
    split <;> simp
  · dsimp only
    split <;> simp
  intro value begun least most
  simp only [Nat.reduceSub, Nat.reducePow] at begun least most
  have long : 0x800 ≤ value := by
    split at least
    next first =>
      subst first
      simp at begun least
      omega
    next first =>
      have other : octet.toNat ≠ 0xE0 := fun same => first (UInt8.toNat_inj.1 same)
      omega
  have valid : value < 0xD800 ∨ 0xDFFF < value ∧ value < 0x110000 := by
    split at most
    next first =>
      subst first
      simp at begun most
      omega
    next first =>
      have other : octet.toNat ≠ 0xED := fun same => first (UInt8.toNat_inj.1 same)
      omega
  have first : UInt8.ofNat (value / 4096 % 0x10 + 0xE0) = octet := by
    rw [show value / 4096 % 0x10 + 0xE0 = octet.toNat by omega, UInt8.ofNat_toNat]
  simp only [String.utf8EncodeChar, val_ofNat valid]
  rw [if_neg (by omega), if_neg (by omega), if_pos (by omega), first]
  simp [continuation]

theorem begins_four {octet : UInt8} (low : 0xF0 ≤ octet.toNat) (high : octet.toNat < 0xF5) :
    Pending.Begins ⟨[octet], octet.toNat - 0xF0, 3, if octet = 0xF0 then 0x90 else 0x80,
      if octet = 0xF4 then 0x8F else 0xBF⟩ := by
  refine ⟨Nat.le_of_ble_eq_true rfl, ?_, ?_, ?_⟩
  · dsimp only
    split <;> simp
  · dsimp only
    split <;> simp
  intro value begun least most
  simp only [Nat.reduceSub, Nat.reducePow] at begun least most
  have long : 0x10000 ≤ value := by
    split at least
    next first =>
      subst first
      simp at begun least
      omega
    next first =>
      have other : octet.toNat ≠ 0xF0 := fun same => first (UInt8.toNat_inj.1 same)
      omega
  have valid : value < 0x110000 := by
    split at most
    next first =>
      subst first
      simp at begun most
      omega
    next first =>
      have other : octet.toNat ≠ 0xF4 := fun same => first (UInt8.toNat_inj.1 same)
      omega
  have first : UInt8.ofNat (value / 262144 % 0x08 + 0xF0) = octet := by
    rw [show value / 262144 % 0x08 + 0xF0 = octet.toNat by omega, UInt8.ofNat_toNat]
  simp only [String.utf8EncodeChar, val_ofNat (.inr ⟨by omega, valid⟩)]
  rw [if_neg (by omega), if_neg (by omega), if_neg (by omega), first]
  simp [continuation]

theorem octets_begin (octet : UInt8) :
    (begin octet).1.flatMap Piece.octets ++ held (begin octet).2 = [octet] ∧
      ∀ part, (begin octet).2 = some part → part.Begins := by
  simp only [begin, UInt8.lt_iff_toNat_lt]
  split
  next short =>
    have code := @val_ofNat octet.toNat (by simp at short; omega)
    have written : String.utf8EncodeChar (Char.ofNat octet.toNat) = [octet] := by
      simp only [String.utf8EncodeChar, code]
      rw [if_pos (by simp at short; omega)]
      simp
    simp [Piece.octets, held, written]
  split
  next => simp [Piece.octets, held]
  split
  next long short =>
    refine ⟨rfl, ?_⟩
    rintro part ⟨⟩
    exact begins_two (by simpa using long) short
  split
  next long short =>
    refine ⟨rfl, ?_⟩
    rintro part ⟨⟩
    exact begins_three (by simpa using long) short
  split
  next long short =>
    refine ⟨rfl, ?_⟩
    rintro part ⟨⟩
    exact begins_four (by simpa using long) short
  next => simp [Piece.octets, held]

theorem octets_step {pending : Option Pending} (begun : ∀ part, pending = some part → part.Begins)
    (octet : UInt8) :
    (step pending octet).1.flatMap Piece.octets ++ held (step pending octet).2 =
        held pending ++ [octet] ∧
      ∀ part, (step pending octet).2 = some part → part.Begins := by
  cases pending with
  | none => exact octets_begin octet
  | some part =>
      obtain ⟨missing, low, high, completed⟩ := begun part rfl
      simp only [step]
      split
      next fits =>
        obtain ⟨least, most⟩ : part.low.toNat ≤ octet.toNat ∧ octet.toNat ≤ part.high.toNat := fits
        split
        next last =>
          have one : part.missing = 1 := by omega
          have lastOctet : continuation (part.value * 64 + (octet.toNat - 0x80)) 1 = [octet] := by
            have rest : (part.value * 64 + (octet.toNat - 0x80)) % 64 + 0x80 = octet.toNat := by omega
            simp only [continuation, Nat.pow_zero, Nat.div_one, rest, UInt8.ofNat_toNat]
          have written := completed (part.value * 64 + (octet.toNat - 0x80))
          rw [one, lastOctet] at written
          simp only [Nat.pow_one, Nat.sub_self, Nat.pow_zero, Nat.div_one] at written
          specialize written (by omega) (by omega) (by omega)
          simp [Piece.octets, held, written]
        next more =>
          obtain ⟨count, missing⟩ : ∃ count, part.missing = count + 2 :=
            ⟨part.missing - 2, by omega⟩
          refine ⟨rfl, ?_⟩
          rintro next ⟨⟩
          refine ⟨by simp [missing], Nat.le_refl 0x80, Nat.le_refl 0xBF, ?_⟩
          intro value begun _ _
          -- The octet is the first of those that were missing.
          simp only [missing, Nat.add_succ_sub_one] at begun completed ⊢
          have split : value / 64 ^ (count + 2) = value / 64 ^ (count + 1) / 64 := by
            rw [Nat.div_div_eq_div_mul, ← Nat.pow_succ]
          have octet_eq : value / 64 ^ (count + 1) % 64 + 0x80 = octet.toNat := by omega
          have written := completed value (by omega) (by omega) (by omega)
          rw [written, continuation, octet_eq, UInt8.ofNat_toNat, List.append_assoc]
          rfl
      next =>
        obtain ⟨kept, begins⟩ := octets_begin octet
        refine ⟨?_, begins⟩
        rw [List.flatMap_cons, List.append_assoc, kept]
        rfl

theorem octets_piecesFrom {pending : Option Pending}
    (begun : ∀ part, pending = some part → part.Begins) (octets : Bytes) :
    (piecesFrom pending octets).flatMap Piece.octets = held pending ++ octets := by
  induction octets generalizing pending with
  | nil => cases pending <;> simp [piecesFrom, held, Piece.octets]
  | cons octet octets ih =>
      obtain ⟨kept, begins⟩ := octets_step begun octet
      rw [piecesFrom, List.flatMap_append, ih begins, ← List.append_assoc, kept, List.append_assoc]
      rfl

theorem octets_pieces (octets : Bytes) : (pieces octets).flatMap Piece.octets = octets :=
  octets_piecesFrom (fun _ none => by cases none) octets

theorem eq_map_char_of_joinPieces {pieces : List Piece} {start : Nat} {text : List Char}
    (joined : joinPieces start pieces = .ok text) : pieces = text.map .char := by
  induction pieces generalizing start text with
  | nil =>
      cases joined
      rfl
  | cons piece pieces ih =>
      cases piece with
      | char c =>
          simp only [joinPieces] at joined
          split at joined
          next rest more =>
            cases joined
            rw [ih more, List.map_cons]
          next => cases joined
      | broken octets => cases joined
      | cut octets => cases joined

theorem encode_of_decode {octets : Bytes} {text : String} (decoded : decode octets = .ok text) :
    encode text = octets := by
  unfold decode at decoded
  cases joined : joinPieces 0 (pieces octets) with
  | error fault => simp [joined, Except.map] at decoded
  | ok chars =>
      simp only [joined, Except.map, Except.ok.injEq] at decoded
      subst decoded
      have kept := octets_pieces octets
      rw [eq_map_char_of_joinPieces joined, List.flatMap_map] at kept
      rw [encode, String.toList_ofList]
      exact kept

theorem decode?_eq_some_iff {octets : Bytes} {text : String} :
    decode? octets = some text ↔ octets = encode text := by
  constructor
  · intro decoded
    unfold decode? at decoded
    cases read : decode octets with
    | error fault => simp [read, Except.toOption] at decoded
    | ok other =>
        rw [read] at decoded
        cases decoded
        exact (encode_of_decode read).symm
  · rintro rfl
    rw [decode?, decode_encode]
    rfl

end LocaleStaging.Utf8
