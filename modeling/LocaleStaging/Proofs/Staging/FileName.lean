import LocaleStaging.Proofs.Storage.FileTree
import LocaleStaging.Proofs.Text.Numeral
import LocaleStaging.Proofs.Text.Octet
import LocaleStaging.Storage.StageStore

namespace LocaleStaging.StageFile

section Strip
variable {α : Type} [BEq α] [LawfulBEq α]

theorem stripStart_append (start rest : List α) : stripStart start (start ++ rest) = some rest := by
  rw [stripStart, if_pos (List.isPrefixOf_iff_prefix.2 (List.prefix_append start rest)),
    List.drop_left]

theorem stripEnd_append (start ending : List α) : stripEnd ending (start ++ ending) = some start := by
  rw [stripEnd, if_pos (List.isSuffixOf_iff_suffix.2 (List.suffix_append start ending)),
    List.length_append, Nat.add_sub_cancel, List.take_left]

end Strip

theorem digits?_append {digits : List Char} (filled : digits ≠ []) (all : ∀ c ∈ digits, c.isDigit) :
    digits? (nameStart ++ digits ++ nameEnd) = some digits := by
  have every : digits.all Char.isDigit = true := List.all_eq_true.2 all
  rw [digits?, List.append_assoc, stripStart_append]
  simp only [Option.bind_eq_bind, Option.bind_some, stripEnd_append]
  rw [if_pos ⟨filled, every⟩]

theorem isDigit_of_mem {user : UserId} {c : Char} (member : c ∈ Nat.toDigits 10 user.toNat) :
    c.isDigit :=
  Nat.isDigit_of_mem_toDigits (by decide) (by decide) member

theorem userOfName_name (user : UserId) : userOfName (name user) = .ok user := by
  have digits : digits? (name user).toList = some (Nat.toDigits 10 user.toNat) := by
    rw [name, String.toList_ofList]
    exact digits?_append Nat.toDigits_ne_nil fun c member => isDigit_of_mem member
  have within : user.toNat ≤ UInt32.size - 1 := Nat.le_pred_of_lt user.toNat_lt_size
  rw [userOfName, digits]
  simp only [Numeral.read_toDigits within, UInt32.ofNat_toNat]

theorem userOfOctets_name (user : UserId) :
    StageStore.userOfOctets (Utf8.encode (name user)) = .ok user := by
  rw [StageStore.userOfOctets, Utf8.decode?, Utf8.decode_encode]
  exact userOfName_name user

theorem octets_injective {first second : UserId}
    (same : Utf8.encode (name first) = Utf8.encode (name second)) : first = second := by
  have user := userOfOctets_name first
  rw [same, userOfOctets_name second] at user
  exact (Except.ok.inj user).symm

theorem temporary_injective {first second : UserId}
    (same : Utf8.encode (name first ++ ".tmp") = Utf8.encode (name second ++ ".tmp")) :
    first = second := by
  have texts := congrArg String.toList (Utf8.encode_injective same)
  rw [String.toList_append, String.toList_append, List.append_cancel_right_eq] at texts
  exact octets_injective (congrArg Utf8.encode (String.toList_inj.1 texts))

/-! ## Names that a file can have -/

def characters (user : UserId) (ending : List Char) : List Char :=
  nameStart ++ (Nat.toDigits 10 user.toNat ++ (nameEnd ++ ending))

def isNameCharacter (c : Char) : Bool := c.isAlphanum || c == '_' || c == '.'

theorem ascii_of_isNameCharacter {c : Char} (named : isNameCharacter c) : c.toNat < 128 := by
  have kinds : ((c.isUpper || c.isLower) || c.isDigit) || c == '_' || c == '.' := named
  simp only [Bool.or_eq_true, beq_iff_eq] at kinds
  rcases kinds with (((upper | lower) | digit) | rfl) | rfl
  · have last : c.toNat ≤ 90 := (of_decide_eq_true upper).2
    omega
  · have last : c.toNat ≤ 122 := of_decide_eq_true (Bool.and_eq_true_iff.1 lower).2
    omega
  · have last : c.toNat ≤ 57 := of_decide_eq_true (Bool.and_eq_true_iff.1 digit).2
    omega
  · decide
  · decide

theorem isNameCharacter_of_mem {user : UserId} {ending : List Char} {c : Char}
    (ordinary : ending.all isNameCharacter) (member : c ∈ characters user ending) :
    isNameCharacter c := by
  rcases List.mem_append.1 member with member | member
  · exact List.all_eq_true.1 (show nameStart.all isNameCharacter from rfl) c member
  rcases List.mem_append.1 member with member | member
  · have digit := isDigit_of_mem member
    simp [isNameCharacter, Char.isAlphanum, digit]
  rcases List.mem_append.1 member with member | member
  · exact List.all_eq_true.1 (show nameEnd.all isNameCharacter from rfl) c member
  · exact List.all_eq_true.1 ordinary c member

theorem length_octets (user : UserId) {ending : List Char} (ordinary : ending.all isNameCharacter) :
    15 ≤ (Utf8.encodeChars (characters user ending)).length ∧
      (Utf8.encodeChars (characters user ending)).length ≤ 29 + ending.length := by
  have within : user.toNat < 10 ^ 10 := Nat.lt_trans user.toNat_lt (by decide)
  have digits : (Nat.toDigits 10 user.toNat).length ≤ 10 :=
    (Nat.length_toDigits_le_iff (by decide) (by decide)).2 within
  have start : nameStart.length = 15 := rfl
  have stop : nameEnd.length = 4 := rfl
  rw [Utf8.length_encodeChars_of_ascii fun c member =>
    ascii_of_isNameCharacter (isNameCharacter_of_mem ordinary member)]
  simp only [characters, List.length_append]
  omega

theorem isFileName_octets {user : UserId} {ending : List Char}
    (ordinary : ending.all isNameCharacter) (short : ending.length ≤ 4) :
    FileTree.IsFileName (Utf8.encodeChars (characters user ending)) := by
  obtain ⟨long, within⟩ := length_octets user ordinary
  have other {c : Char} (ascii : c.toNat < 128) (foreign : isNameCharacter c = false) :
      c.toUInt8 ∉ Utf8.encodeChars (characters user ending) := by
    intro member
    have named := isNameCharacter_of_mem ordinary (Utf8.mem_of_mem_encodeChars ascii member)
    rw [foreign] at named
    cases named
  have longer {octets : Bytes} (less : octets.length < 15) :
      Utf8.encodeChars (characters user ending) ≠ octets := by
    rintro rfl
    omega
  exact {
    ne_empty := longer (by decide)
    no_slash := other (by decide) rfl
    ne_dot := longer (by decide)
    ne_dotDot := longer (by decide)
    no_zero := other (c := '\x00') (by decide) rfl
    short := by
      have limit : FileTree.nameLimit = 255 := rfl
      omega }

theorem encode_name (user : UserId) :
    Utf8.encode (name user) = Utf8.encodeChars (characters user []) := by
  rw [Utf8.encode, name, String.toList_ofList, characters, List.append_nil, List.append_assoc]

theorem encode_temporary (user : UserId) :
    Utf8.encode (name user ++ ".tmp") = Utf8.encodeChars (characters user ".tmp".toList) := by
  rw [Utf8.encode, String.toList_append, name, String.toList_ofList, characters, List.append_assoc,
    List.append_assoc]

theorem isFileName_name (user : UserId) : FileTree.IsFileName (Utf8.encode (name user)) := by
  rw [encode_name]
  exact isFileName_octets rfl (by decide)

theorem isFileName_temporary (user : UserId) :
    FileTree.IsFileName (Utf8.encode (name user ++ ".tmp")) := by
  rw [encode_temporary]
  exact isFileName_octets rfl (by decide)

theorem length_name_le (user : UserId) : (Utf8.encode (name user)).length ≤ 33 := by
  rw [encode_name]
  exact Nat.le_trans (length_octets user rfl).2 (by decide)

theorem length_temporary_le (user : UserId) :
    (Utf8.encode (name user ++ ".tmp")).length ≤ 33 := by
  rw [encode_temporary]
  exact (length_octets user rfl).2

theorem temporary_ne_of_nameEnd (user : UserId) (start : List Char) :
    Utf8.encode (name user ++ ".tmp") ≠ Utf8.encode (String.ofList (start ++ nameEnd)) := by
  intro same
  have texts := congrArg String.toList (Utf8.encode_injective same)
  have left : (name user ++ ".tmp").toList.getLast? = some 'p' := by
    rw [String.toList_append, List.getLast?_append]
    rfl
  have right : (String.ofList (start ++ nameEnd)).toList.getLast? = some 'l' := by
    rw [String.toList_ofList, List.getLast?_append]
    rfl
  rw [texts, right] at left
  cases left

theorem temporary_ne_name (user other : UserId) :
    Utf8.encode (name user ++ ".tmp") ≠ Utf8.encode (name other) :=
  temporary_ne_of_nameEnd user (nameStart ++ Nat.toDigits 10 other.toNat)

end LocaleStaging.StageFile
