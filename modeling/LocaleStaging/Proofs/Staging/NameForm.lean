import LocaleStaging.Proofs.Storage.StageStore

namespace LocaleStaging.StageFile

structure Spells (text : String) (digits : List Char) : Prop where
  made : text = "staged_locales_" ++ String.ofList digits ++ ".xml"
  filled : digits ≠ []
  numeric : ∀ c ∈ digits, c.isDigit

/-! ## The digits in a name -/

theorem stripStart_eq_some_iff {α : Type} [BEq α] [LawfulBEq α] {start list rest : List α} :
    stripStart start list = some rest ↔ list = start ++ rest := by
  constructor
  · intro stripped
    unfold stripStart at stripped
    split at stripped
    next starts =>
      cases stripped
      obtain ⟨rest, rfl⟩ := List.isPrefixOf_iff_prefix.1 starts
      rw [List.drop_left]
    next => cases stripped
  · rintro rfl
    exact stripStart_append start rest

theorem stripEnd_eq_some_iff {α : Type} [BEq α] [LawfulBEq α] {ending list start : List α} :
    stripEnd ending list = some start ↔ list = start ++ ending := by
  constructor
  · intro stripped
    unfold stripEnd at stripped
    split at stripped
    next ends =>
      cases stripped
      obtain ⟨start, rfl⟩ := List.isSuffixOf_iff_suffix.1 ends
      rw [List.length_append, Nat.add_sub_cancel, List.take_left]
    next => cases stripped
  · rintro rfl
    exact stripEnd_append start ending

theorem digits?_eq_some_iff {name digits : List Char} :
    digits? name = some digits ↔
      name = nameStart ++ digits ++ nameEnd ∧ digits ≠ [] ∧ ∀ c ∈ digits, c.isDigit := by
  constructor
  · intro found
    simp only [digits?, Option.bind_eq_bind, Option.bind_eq_some_iff, stripStart_eq_some_iff,
      stripEnd_eq_some_iff] at found
    obtain ⟨_, rfl, middle, rfl, kept⟩ := found
    split at kept
    next made =>
      cases kept
      exact ⟨(List.append_assoc _ _ _).symm, made.1, List.all_eq_true.1 made.2⟩
    next => cases kept
  · rintro ⟨rfl, filled, all⟩
    exact digits?_append filled all

section Names
variable {text : String} {digits : List Char} {user : UserId}

theorem spells_iff : Spells text digits ↔
    text.toList = nameStart ++ digits ++ nameEnd ∧ digits ≠ [] ∧ ∀ c ∈ digits, c.isDigit := by
  have written : ("staged_locales_" ++ String.ofList digits ++ ".xml").toList =
      nameStart ++ digits ++ nameEnd := by
    have middle : (String.ofList digits).toList = digits := String.toList_ofList
    rw [String.toList_append, String.toList_append, middle]
    rfl
  rw [← written, String.toList_inj]
  exact ⟨fun ⟨made, filled, numeric⟩ => ⟨made, filled, numeric⟩,
    fun ⟨made, filled, numeric⟩ => ⟨made, filled, numeric⟩⟩

theorem digits?_toList_eq_some_iff : digits? text.toList = some digits ↔ Spells text digits :=
  digits?_eq_some_iff.trans spells_iff.symm

theorem Spells.unique {others : List Char} (spells : Spells text digits) (other : Spells text others) :
    digits = others := by
  have found := digits?_toList_eq_some_iff.2 spells
  rw [digits?_toList_eq_some_iff.2 other] at found
  exact (Option.some.inj found).symm

/-! ## What is read from a name -/

theorem Spells.userOfName_eq (spells : Spells text digits) :
    userOfName text =
      if Nat.ofDigitChars 10 digits 0 ≤ 2 ^ 32 - 1 then
        .ok (UInt32.ofNat (Nat.ofDigitChars 10 digits 0))
      else .error .invalidUser := by
  have limit : UInt32.size - 1 = 2 ^ 32 - 1 := rfl
  rw [userOfName, digits?_toList_eq_some_iff.2 spells]
  simp only [Numeral.read_digits spells.filled spells.numeric, limit]
  by_cases within : Nat.ofDigitChars 10 digits 0 ≤ 2 ^ 32 - 1
  · simp only [if_pos within]
  · simp only [if_neg within]

theorem userOfName_eq_unrecognized_iff :
    userOfName text = .error .unrecognized ↔ ¬∃ digits, Spells text digits := by
  constructor
  · rintro unread ⟨digits, spells⟩
    rw [spells.userOfName_eq] at unread
    split at unread <;> cases unread
  · intro none
    cases found : digits? text.toList with
    | none => rw [userOfName, found]
    | some digits => exact absurd ⟨digits, digits?_toList_eq_some_iff.1 found⟩ none

theorem exists_spells (recognized : userOfName text ≠ .error .unrecognized) :
    ∃ digits, Spells text digits := by
  by_contra none
  exact recognized (userOfName_eq_unrecognized_iff.2 none)

theorem userOfName_eq_ok_iff : userOfName text = .ok user ↔
    ∃ digits, Spells text digits ∧ Nat.ofDigitChars 10 digits 0 = user.toNat := by
  constructor
  · intro owned
    have recognized : userOfName text ≠ .error .unrecognized := by simp [owned]
    obtain ⟨digits, spells⟩ := exists_spells recognized
    refine ⟨digits, spells, ?_⟩
    rw [spells.userOfName_eq] at owned
    split at owned
    next within =>
      cases owned
      rw [UInt32.toNat_ofNat_of_lt' (Nat.lt_of_le_pred (by decide) within)]
    next => cases owned
  · rintro ⟨digits, spells, value⟩
    have within : user.toNat ≤ 2 ^ 32 - 1 := Nat.le_pred_of_lt user.toNat_lt_size
    rw [spells.userOfName_eq, value, if_pos within, UInt32.ofNat_toNat]

theorem userOfName_eq_invalidUser_iff : userOfName text = .error .invalidUser ↔
    ∃ digits, Spells text digits ∧ 2 ^ 32 - 1 < Nat.ofDigitChars 10 digits 0 := by
  constructor
  · intro refused
    have recognized : userOfName text ≠ .error .unrecognized := by simp [refused]
    obtain ⟨digits, spells⟩ := exists_spells recognized
    refine ⟨digits, spells, Nat.lt_of_not_le fun within => ?_⟩
    rw [spells.userOfName_eq, if_pos within] at refused
    cases refused
  · rintro ⟨digits, spells, beyond⟩
    rw [spells.userOfName_eq, if_neg (Nat.not_le_of_lt beyond)]

/-! ## The name that is written -/

theorem spells_name (user : UserId) : Spells (name user) (Nat.toDigits 10 user.toNat) := by
  rw [spells_iff, name, String.toList_ofList]
  exact ⟨rfl, Nat.toDigits_ne_nil, fun c member => isDigit_of_mem member⟩

theorem eq_name_iff : text = name user ↔
    userOfName text = .ok user ∧ ∃ digits, Spells text digits ∧ Numeral.Plain digits := by
  constructor
  · rintro rfl
    exact ⟨userOfName_name user, _, spells_name user, Numeral.plain_toDigits user.toNat⟩
  · rintro ⟨owned, digits, spells, plain⟩
    obtain ⟨others, other, value⟩ := userOfName_eq_ok_iff.1 owned
    obtain rfl := spells.unique other
    -- Without zeros to spare the value of the digits leaves no choice of them.
    have written := Numeral.eq_toDigits_of_plain spells.filled spells.numeric plain
    rw [value] at written
    rw [spells.made, written, (spells_name user).made]

theorem name_inj {first second : UserId} : name first = name second ↔ first = second :=
  ⟨fun same => octets_injective (congrArg Utf8.encode same), congrArg name⟩

theorem userOfName_temporary (user : UserId) :
    userOfName (name user ++ ".tmp") = .error .unrecognized := by
  apply userOfName_eq_unrecognized_iff.2
  rintro ⟨digits, spells⟩
  have ends : name user ++ ".tmp" = String.ofList (nameStart ++ digits ++ nameEnd) := by
    rw [spells.made, String.ofList_append, String.ofList_append]
    rfl
  exact temporary_ne_of_nameEnd user _ (congrArg Utf8.encode ends)

end Names

/-- A name says what its form tells: the user whose number its digits are, whatever zeros stand before
it; that there is no such user, if the number has more than 32 bits; or nothing, for a name of another form.
The one name of a user without zeros that could be left out is the one that the store writes, and what is
written beside it for a while has a name that says nothing. -/
theorem names_exact :
    (∀ text user, userOfName text = .ok user ↔
      ∃ digits, Spells text digits ∧ Nat.ofDigitChars 10 digits 0 = user.toNat) ∧
    (∀ text, userOfName text = .error .invalidUser ↔
      ∃ digits, Spells text digits ∧ 2 ^ 32 - 1 < Nat.ofDigitChars 10 digits 0) ∧
    (∀ text, userOfName text = .error .unrecognized ↔ ¬∃ digits, Spells text digits) ∧
    (∀ text user, text = name user ↔
      userOfName text = .ok user ∧ ∃ digits, Spells text digits ∧ Numeral.Plain digits) ∧
    (∀ user, userOfName (name user) = .ok user) ∧
    (∀ first second, name first = name second ↔ first = second) ∧
    ∀ (store : StageStore) (user : UserId),
      (store.temporaryPathFor user).names.getLast? = some (Utf8.encode (name user ++ ".tmp")) ∧
        userOfName (name user ++ ".tmp") = .error .unrecognized := by
  refine ⟨fun _ _ => userOfName_eq_ok_iff, fun _ => userOfName_eq_invalidUser_iff,
    fun _ => userOfName_eq_unrecognized_iff, fun _ _ => eq_name_iff, userOfName_name,
    fun _ _ => name_inj, ?_⟩
  intro store user
  obtain ⟨before, ends, _⟩ := store.exists_ends_temporaryPathFor user
  rw [ends.names, List.getLast?_concat]
  exact ⟨rfl, userOfName_temporary user⟩

end LocaleStaging.StageFile
