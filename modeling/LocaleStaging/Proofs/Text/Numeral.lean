import LocaleStaging.Proofs.Text.Trimming
import LocaleStaging.Text.Numeral

namespace LocaleStaging.Numeral

theorem digit?_of_isDigit {c : Char} (digit : c.isDigit) : digit? 10 c = some (c.toNat - '0'.toNat) := by
  have range : '0' ≤ c ∧ c ≤ '9' := by simpa [Char.isDigit, Char.le_def] using digit
  have low : 48 ≤ c.toNat := range.1
  have high : c.toNat ≤ 57 := range.2
  have code : '0'.toNat = 48 := rfl
  simp only [digit?, range, and_self, if_true]
  rw [if_pos (by omega)]

theorem le_ofDigitChars (digits : List Char) (value : Nat) :
    value ≤ Nat.ofDigitChars 10 digits value := by
  induction digits generalizing value with
  | nil => exact Nat.le_refl value
  | cons c digits ih =>
      rw [Nat.ofDigitChars_cons]
      have := ih (10 * value + (c.toNat - '0'.toNat))
      omega

theorem readFrom_digits {digits : List Char} (all : ∀ c ∈ digits, c.isDigit) {limit value : Nat}
    (within : value ≤ limit) :
    readFrom 10 limit value digits =
      if Nat.ofDigitChars 10 digits value ≤ limit then .ok (Nat.ofDigitChars 10 digits value)
      else .error .tooLarge := by
  induction digits generalizing value with
  | nil => simp [readFrom, within]
  | cons c digits ih =>
      have later := fun other member => all other (List.mem_cons_of_mem c member)
      have grows := le_ofDigitChars digits (10 * value + (c.toNat - '0'.toNat))
      simp only [readFrom, digit?_of_isDigit (all c List.mem_cons_self), Nat.mul_comm value 10]
      rw [Nat.ofDigitChars_cons]
      split
      next beyond => rw [if_neg (by omega)]
      next => exact ih later (by omega)

theorem read_digits {digits : List Char} (filled : digits ≠ []) (all : ∀ c ∈ digits, c.isDigit)
    (limit : Nat) :
    read 10 limit digits =
      if Nat.ofDigitChars 10 digits 0 ≤ limit then .ok (Nat.ofDigitChars 10 digits 0)
      else .error .tooLarge := by
  rw [read, if_neg (by simpa using filled)]
  exact readFrom_digits all (Nat.zero_le limit)

theorem read_toDigits {value limit : Nat} (within : value ≤ limit) :
    read 10 limit (Nat.toDigits 10 value) = .ok value := by
  have all : ∀ c ∈ Nat.toDigits 10 value, c.isDigit :=
    fun c member => Nat.isDigit_of_mem_toDigits (by decide) (by decide) member
  rw [read_digits Nat.toDigits_ne_nil all, Nat.ofDigitChars_ten_toDigits, if_pos within]

/-! ## Zeros before a number -/

theorem toDigits_of_isDigit {c : Char} (digit : c.isDigit) :
    c.toNat - '0'.toNat < 10 ∧ Nat.toDigits 10 (c.toNat - '0'.toNat) = [c] := by
  have range : '0' ≤ c ∧ c ≤ '9' := by simpa [Char.isDigit, Char.le_def] using digit
  have low : 48 ≤ c.toNat := range.1
  have high : c.toNat ≤ 57 := range.2
  have code : '0'.toNat = 48 := rfl
  have small : c.toNat - '0'.toNat < 10 := by omega
  refine ⟨small, ?_⟩
  rw [Nat.toDigits_of_lt_base small, List.cons.injEq, ← Char.toNat_inj,
    Nat.toNat_digitChar_of_lt_ten small]
  exact ⟨by omega, rfl⟩

theorem toDigits_ofDigitChars {digits : List Char} (all : ∀ c ∈ digits, c.isDigit) {start : Nat}
    (positive : 0 < start) :
    Nat.toDigits 10 (Nat.ofDigitChars 10 digits start) = Nat.toDigits 10 start ++ digits := by
  induction digits generalizing start with
  | nil => rw [Nat.ofDigitChars_nil, List.append_nil]
  | cons c digits ih =>
      obtain ⟨small, single⟩ := toDigits_of_isDigit (all c List.mem_cons_self)
      rw [Nat.ofDigitChars_cons, ih (fun other member => all other (List.mem_cons_of_mem c member))
        (by omega), ← Nat.toDigits_append_toDigits (by decide) positive small, single,
        List.append_assoc]
      rfl

theorem exists_zeros {digits : List Char} (filled : digits ≠ []) (all : ∀ c ∈ digits, c.isDigit) :
    ∃ zeros, digits =
      List.replicate zeros '0' ++ Nat.toDigits 10 (Nat.ofDigitChars 10 digits 0) := by
  induction digits with
  | nil => exact absurd rfl filled
  | cons c digits ih =>
      obtain ⟨small, single⟩ := toDigits_of_isDigit (all c List.mem_cons_self)
      have later := fun other member => all other (List.mem_cons_of_mem c member)
      rw [Nat.ofDigitChars_cons, Nat.mul_zero, Nat.zero_add]
      rcases Nat.eq_zero_or_pos (c.toNat - '0'.toNat) with zero | positive
      · rw [zero] at single ⊢
        have same : c = '0' := (List.cons.inj single).1.symm
        subst same
        by_cases bare : digits = []
        · subst bare
          exact ⟨0, rfl⟩
        · obtain ⟨zeros, split⟩ := ih bare later
          refine ⟨zeros + 1, ?_⟩
          rw [List.replicate_succ, List.cons_append, ← split]
      · refine ⟨0, ?_⟩
        rw [toDigits_ofDigitChars later positive, single]
        rfl

theorem exists_toDigits_of_pos {value : Nat} (positive : 0 < value) :
    ∃ first rest, Nat.toDigits 10 value = first :: rest ∧ first.isDigit ∧ first ≠ '0' := by
  have all : ∀ c ∈ Nat.toDigits 10 value, c.isDigit :=
    fun c member => Nat.isDigit_of_mem_toDigits (by decide) (by decide) member
  have back : Nat.ofDigitChars 10 (Nat.toDigits 10 value) 0 = value := Nat.ofDigitChars_ten_toDigits
  obtain ⟨first, rest, written⟩ := List.exists_cons_of_ne_nil (Nat.toDigits_ne_nil (n := value) (b := 10))
  rw [written] at all back
  refine ⟨first, rest, written, all first List.mem_cons_self, ?_⟩
  rintro rfl
  have value_rest : Nat.ofDigitChars 10 rest 0 = value := back
  by_cases bare : rest = []
  · subst bare
    rw [Nat.ofDigitChars_nil] at value_rest
    omega
  · -- The rest is the number again, behind zeros, and so it is not shorter than the whole.
    obtain ⟨zeros, split⟩ :=
      exists_zeros bare fun c member => all c (List.mem_cons_of_mem _ member)
    have longer := congrArg List.length split
    rw [value_rest, written, List.length_append, List.length_cons] at longer
    omega

def Plain (digits : List Char) : Prop := digits = ['0'] ∨ digits.head? ≠ some '0'

theorem plain_toDigits (value : Nat) : Plain (Nat.toDigits 10 value) := by
  rcases Nat.eq_zero_or_pos value with rfl | positive
  · exact .inl rfl
  · obtain ⟨first, rest, written, _, no_zero⟩ := exists_toDigits_of_pos positive
    rw [Plain, written, List.head?_cons]
    exact .inr fun same => no_zero (Option.some.inj same)

theorem eq_toDigits_of_plain {digits : List Char} (filled : digits ≠ []) (all : ∀ c ∈ digits, c.isDigit)
    (plain : Plain digits) : digits = Nat.toDigits 10 (Nat.ofDigitChars 10 digits 0) := by
  obtain ⟨zeros, split⟩ := exists_zeros filled all
  cases zeros with
  | zero => exact split
  | succ zeros =>
      rcases plain with single | other
      · -- A zero before the digits of a number is not the only digit.
        have longer := congrArg List.length split
        have digit := List.length_pos_iff.2
          (Nat.toDigits_ne_nil (n := Nat.ofDigitChars 10 digits 0) (b := 10))
        rw [List.length_append, List.length_replicate, single, List.length_singleton] at longer
        rw [single] at digit
        omega
      · exact absurd (congrArg List.head? split) other

/-! ## Numbers of 64 bits -/

theorem readDecimal_toDigits {value limit : Nat} (within : value ≤ limit) :
    readDecimal limit (Nat.toDigits 10 value) = .ok value := by
  have back := read_toDigits within
  unfold readDecimal
  split
  next digits written =>
    have member : '+' ∈ Nat.toDigits 10 value := written ▸ List.mem_cons_self
    exact absurd (Nat.isDigit_of_mem_toDigits (by decide) (by decide) member) (by decide)
  next => exact back

theorem not_isBlank_of_isDigit {c : Char} (digit : c.isDigit) : isBlank c = false := by
  have range : '0' ≤ c ∧ c ≤ '9' := by simpa [Char.isDigit, Char.le_def] using digit
  have low : 48 ≤ c.toNat := range.1
  have high : c.toNat ≤ 57 := range.2
  simp only [isBlank, inRanges, blankRanges, List.any_cons, List.any_nil, Bool.or_false,
    Bool.or_eq_false_iff, Bool.and_eq_false_iff, decide_eq_false_iff_not, Nat.not_le]
  omega

theorem int64?_toString (value : Int64) :
    int64? (trim (toString value.toInt).toList) = some value := by
  have sharp (n : Nat) : ∀ c ∈ Nat.toDigits 10 n, isBlank c = false := fun c member =>
    not_isBlank_of_isDigit (Nat.isDigit_of_mem_toDigits (by decide) (by decide) member)
  have low : -2 ^ 63 ≤ value.toInt := Int64.le_toInt value
  have high : value.toInt < 2 ^ 63 := Int64.toInt_lt value
  have back : Int64.ofInt value.toInt = value := Int64.ofInt_toInt value
  generalize value.toInt = number at *
  cases number with
  | ofNat n =>
      have written : (toString (Int.ofNat n)).toList = Nat.toDigits 10 n := Nat.toList_repr
      have read : readDecimal 0x7FFFFFFFFFFFFFFF (Nat.toDigits 10 n) = .ok n :=
        readDecimal_toDigits (by simp only [Int.ofNat_eq_natCast] at high; omega)
      rw [written, trim_of_not_isBlank (sharp n)]
      unfold int64?
      split
      next digits signed =>
        have member : '-' ∈ Nat.toDigits 10 n := signed ▸ List.mem_cons_self
        exact absurd (Nat.isDigit_of_mem_toDigits (by decide) (by decide) member) (by decide)
      next =>
        rw [read, ← back]
        rfl
  | negSucc n =>
      have written : (toString (Int.negSucc n)).toList = '-' :: Nat.toDigits 10 (n + 1) := by
        show ("-" ++ (n + 1).repr).toList = _
        rw [String.toList_append, Nat.toList_repr]
        rfl
      have read : read 10 0x8000000000000000 (Nat.toDigits 10 (n + 1)) = .ok (n + 1) :=
        read_toDigits (by omega)
      have blanks : ∀ c ∈ '-' :: Nat.toDigits 10 (n + 1), isBlank c = false := by
        intro c member
        rcases List.mem_cons.1 member with rfl | member
        · decide
        · exact sharp (n + 1) c member
      rw [written, trim_of_not_isBlank blanks]
      simp only [int64?, read, Except.toOption]
      rw [← back]
      rfl

end LocaleStaging.Numeral
