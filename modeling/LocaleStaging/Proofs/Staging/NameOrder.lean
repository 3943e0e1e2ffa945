import LocaleStaging.Proofs.Staging.NameForm

/-!
# The names that belong to a user

A name belongs to a user if the number in it is that of the user, whatever zeros stand before it
(`userOfOctets_eq_ok_iff`). The name that the store writes has no such zeros. It comes after all other
names of its user (`compare_octetsWithZeros_of_ne_zero`), except that the one of user zero comes before
them (`compare_octetsWithZeros_zero`).
-/

namespace LocaleStaging.StageFile

/-! ## The names of a user -/

def nameWithZeros (zeros : Nat) (user : UserId) : List Char :=
  nameStart ++ (List.replicate zeros '0' ++ Nat.toDigits 10 user.toNat) ++ nameEnd

theorem userOfName_eq_ok_iff_zeros {name : String} {user : UserId} :
    userOfName name = .ok user ↔ ∃ zeros, name.toList = nameWithZeros zeros user := by
  rw [userOfName_eq_ok_iff]
  constructor
  · rintro ⟨digits, spells, value⟩
    obtain ⟨named, filled, all⟩ := spells_iff.1 spells
    obtain ⟨zeros, split⟩ := Numeral.exists_zeros filled all
    rw [value] at split
    exact ⟨zeros, by rw [named, split, nameWithZeros]⟩
  · rintro ⟨zeros, named⟩
    refine ⟨_, spells_iff.2 ⟨named, by simp [Nat.toDigits_ne_nil], ?_⟩, ?_⟩
    · intro c member
      rcases List.mem_append.1 member with zero | digit
      · rw [List.eq_of_mem_replicate zero]
        rfl
      · exact isDigit_of_mem digit
    · rw [Nat.ofDigitChars_append, Nat.ofDigitChars_replicate_zero, Nat.mul_zero,
        Nat.ofDigitChars_ten_toDigits]

def octetsWithZeros (zeros : Nat) (user : UserId) : Bytes :=
  Utf8.encodeChars (nameWithZeros zeros user)

theorem octetsWithZeros_zero (user : UserId) :
    octetsWithZeros 0 user = Utf8.encode (name user) := by
  rw [octetsWithZeros, nameWithZeros, Utf8.encode, name, String.toList_ofList]
  rfl

theorem userOfOctets_eq_ok_iff {octets : Bytes} {user : UserId} :
    StageStore.userOfOctets octets = .ok user ↔ ∃ zeros, octets = octetsWithZeros zeros user := by
  constructor
  · intro owned
    unfold StageStore.userOfOctets at owned
    split at owned
    next => cases owned
    next text read =>
      obtain ⟨zeros, named⟩ := userOfName_eq_ok_iff_zeros.1 owned
      refine ⟨zeros, ?_⟩
      rw [Utf8.decode?_eq_some_iff.1 read, Utf8.encode, named, octetsWithZeros]
  · rintro ⟨zeros, rfl⟩
    have read : Utf8.decode? (octetsWithZeros zeros user) =
        some (String.ofList (nameWithZeros zeros user)) := by
      rw [Utf8.decode?_eq_some_iff, Utf8.encode, String.toList_ofList, octetsWithZeros]
    simp only [StageStore.userOfOctets, read]
    exact userOfName_eq_ok_iff_zeros.2 ⟨zeros, String.toList_ofList⟩

theorem temporary_ne_octetsWithZeros (user other : UserId) (zeros : Nat) :
    Utf8.encode (name user ++ ".tmp") ≠ octetsWithZeros zeros other := by
  have written : octetsWithZeros zeros other = Utf8.encode (String.ofList
      (nameStart ++ (List.replicate zeros '0' ++ Nat.toDigits 10 other.toNat) ++ nameEnd)) := by
    rw [Utf8.encode, String.toList_ofList, octetsWithZeros, nameWithZeros]
  rw [written]
  exact temporary_ne_of_nameEnd user _

/-! ## The order of names -/

theorem compare_append_left (start first second : Bytes) :
    compare (start ++ first) (start ++ second) = compare first second := by
  induction start with
  | nil => rfl
  | cons octet start ih => simp [List.compare_cons_cons, ih]

theorem octetsWithZeros_eq (zeros : Nat) (user : UserId) :
    octetsWithZeros zeros user = Utf8.encodeChars nameStart ++
      Utf8.encodeChars (List.replicate zeros '0' ++ Nat.toDigits 10 user.toNat ++ nameEnd) := by
  rw [octetsWithZeros, nameWithZeros, List.append_assoc, Utf8.encodeChars_append]

theorem compare_octetsWithZeros_of_ne_zero {user : UserId} (other : user ≠ 0) (zeros : Nat) :
    compare (octetsWithZeros (zeros + 1) user) (octetsWithZeros 0 user) = .lt := by
  have positive : 0 < user.toNat := by
    apply Nat.pos_of_ne_zero
    exact fun same => other (UInt32.toNat_inj.1 same)
  obtain ⟨first, rest, written, digit, no_zero⟩ := Numeral.exists_toDigits_of_pos positive
  have range : '0' ≤ first ∧ first ≤ '9' := by simpa [Char.isDigit, Char.le_def] using digit
  have low : 48 ≤ first.toNat := range.1
  have high : first.toNat ≤ 57 := range.2
  have apart : first.toNat ≠ 48 := fun same => no_zero (Char.toNat_inj.1 same)
  have below : compare '0'.toUInt8 first.toUInt8 = .lt := by
    have less : '0'.toUInt8 < first.toUInt8 := by
      rw [UInt8.lt_iff_toNat_lt, Utf8.toNat_toUInt8 (c := first) (by omega)]
      exact Nat.lt_of_le_of_ne low (Ne.symm apart)
    exact if_pos less
  rw [octetsWithZeros_eq, octetsWithZeros_eq, compare_append_left, written, List.replicate_succ,
    List.cons_append, List.cons_append, Utf8.encodeChars_cons_of_ascii (by decide)]
  simp only [List.replicate_zero, List.nil_append, List.cons_append]
  rw [Utf8.encodeChars_cons_of_ascii (by omega), List.compare_cons_cons, below]
  rfl

theorem compare_octetsWithZeros_zero (zeros : Nat) :
    compare (octetsWithZeros (zeros + 1) 0) (octetsWithZeros 0 0) = .gt := by
  have digits : List.replicate (zeros + 1) '0' ++ Nat.toDigits 10 (0 : UserId).toNat =
      '0' :: '0' :: List.replicate zeros '0' := by
    show List.replicate (zeros + 1) '0' ++ List.replicate 1 '0' = _
    rw [List.replicate_append_replicate]
    rfl
  rw [octetsWithZeros_eq, octetsWithZeros_eq, compare_append_left, digits]
  rfl

theorem octetsWithZeros_succ_ne (zeros : Nat) (user : UserId) :
    octetsWithZeros (zeros + 1) user ≠ octetsWithZeros 0 user := by
  intro same
  by_cases zero : user = 0
  · have order := compare_octetsWithZeros_zero zeros
    rw [← zero, same] at order
    simp at order
  · have order := compare_octetsWithZeros_of_ne_zero zero zeros
    rw [same] at order
    simp at order

end LocaleStaging.StageFile
