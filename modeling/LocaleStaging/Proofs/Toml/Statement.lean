import LocaleStaging.Proofs.Text.Numeral
import LocaleStaging.Proofs.Toml.Text
import LocaleStaging.Toml.Reader

namespace LocaleStaging.Toml

/-! ## Numbers -/

section Digits
variable {digits : List Char}

theorem ungroup_of_digits (filled : digits ≠ []) (all : ∀ c ∈ digits, c.isDigit) :
    ungroup Char.isDigit digits = some digits := by
  have free : '_' ∉ digits := fun member => absurd (all '_' member) (by decide)
  have whole : segments '_' digits = [digits] := by
    rw [segments_eq_splitOn, List.splitOn_eq_singleton free]
  simpa [ungroup, whole, filled] using all

theorem foldl_digit? (all : ∀ c ∈ digits, c.isDigit) (value : Nat) :
    digits.foldl (fun value c => value * 10 + (Numeral.digit? 10 c).getD 0) value =
      Nat.ofDigitChars 10 digits value := by
  induction digits generalizing value with
  | nil => rfl
  | cons c digits ih =>
      obtain ⟨digit, others⟩ := List.forall_mem_cons.1 all
      rw [List.foldl_cons, ih others, Numeral.digit?_of_isDigit digit, Nat.ofDigitChars_cons]
      simp [Nat.mul_comm]

theorem takeSign_of_digits (all : ∀ c ∈ digits, c.isDigit) : takeSign digits = (none, digits) := by
  unfold takeSign
  split
  next => exact absurd (all '+' List.mem_cons_self) (by decide)
  next => exact absurd (all '-' List.mem_cons_self) (by decide)
  next => rfl

end Digits

theorem isDigit_toDigits (value : Nat) : ∀ c ∈ Nat.toDigits 10 value, c.isDigit :=
  fun _ member => Nat.isDigit_of_mem_toDigits (by decide) (by decide) member

theorem wholeDigits?_toDigits (value : Nat) :
    wholeDigits? (Nat.toDigits 10 value) = some (Nat.toDigits 10 value) := by
  rw [wholeDigits?, ungroup_of_digits Nat.toDigits_ne_nil (isDigit_toDigits value)]
  split
  next second others same =>
    rcases Nat.eq_zero_or_pos value with rfl | positive
    · simp at same
    · obtain ⟨first, rest, written, -, no_zero⟩ := Numeral.exists_toDigits_of_pos positive
      rw [written] at same
      simp at same
      exact absurd same.1 no_zero
  next => rfl

theorem integer?_toDigits (value : Nat) : integer? (Nat.toDigits 10 value) = some (value : Int) := by
  have all := isDigit_toDigits value
  have second {first letter : Char} {others : List Char}
      (same : Nat.toDigits 10 value = first :: letter :: others) : letter.isDigit :=
    all letter (same ▸ List.mem_cons_of_mem _ List.mem_cons_self)
  unfold integer?
  split
  next same => exact absurd (second same) (by decide)
  next same => exact absurd (second same) (by decide)
  next same => exact absurd (second same) (by decide)
  next =>
    rw [takeSign_of_digits all]
    simp only
    rw [wholeDigits?_toDigits]
    simp [digitsValue, foldl_digit? all]

theorem scalar_toDigits (value : Nat) :
    scalar (Nat.toDigits 10 value) = .ok (.integer value) := by
  have all := isDigit_toDigits value
  have no_word (word : List Char) (letter : Char) (member : letter ∈ word)
      (other : letter.isDigit = false) : Nat.toDigits 10 value ≠ word := by
    rintro rfl
    rw [all letter member] at other
    cases other
  have no_truth := no_word "true".toList 't' (by decide) rfl
  have no_falsehood := no_word "false".toList 'f' (by decide) rfl
  simp only [scalar, no_truth, no_falsehood, if_false, integer?_toDigits]

/-! ## Spacing -/

theorem skipSpacing_space (text : List Char) : skipSpacing (' ' :: text) = skipSpacing text := rfl

theorem skipSpacing_cons {c : Char} (solid : isSpacing c = false) (text : List Char) :
    skipSpacing (c :: text) = c :: text := by
  rw [skipSpacing, List.dropWhile_cons, solid, if_neg Bool.false_ne_true]

theorem skipSpacing_of_head? {text : List Char} (no_space : text.head? ≠ some ' ')
    (no_tab : text.head? ≠ some '\t') : skipSpacing text = text := by
  cases text with
  | nil => rfl
  | cons c text => exact skipSpacing_cons (by simpa [isSpacing] using And.intro no_space no_tab) text

/-! ## Values -/

structure ValueRead (written : List Char) (value : Value) : Prop where
  start : ∀ rest, skipSpacing (written ++ rest) = written ++ rest
  read : ∀ depth rest, readValue depth (written ++ '\n' :: rest) = .ok (value, '\n' :: rest)

theorem readValue_of_head? {text : List Char} (no_list : text.head? ≠ some '[')
    (no_table : text.head? ≠ some '\x7b') (depth : Nat) : readValue depth text = readPlain text := by
  unfold readValue
  split
  next => exact absurd rfl no_list
  next => exact absurd rfl no_table
  next => rfl

theorem readText?_of_head? {text : List Char} (no_double : text.head? ≠ some '"')
    (no_single : text.head? ≠ some '\'') : readText? text = none := by
  unfold readText?
  split
  next => exact absurd rfl no_double
  next => exact absurd rfl no_double
  next => exact absurd rfl no_single
  next => exact absurd rfl no_single
  next => rfl

theorem head?_writeText_ne (value : String) (rest : List Char) {c : Char} (no_double : c ≠ '"')
    (no_single : c ≠ '\'') : (writeText value ++ rest).head? ≠ some c := by
  simp only [writeText]
  cases Form.of value.toList <;> simp [no_double.symm, no_single.symm]

theorem valueRead_writeText (value : String) : ValueRead (writeText value) (.text value) where
  start rest := skipSpacing_of_head? (head?_writeText_ne value rest (by decide) (by decide))
    (head?_writeText_ne value rest (by decide) (by decide))
  read depth rest := by
    have read := @readText?_writeText value ('\n' :: rest) (by simp) (by simp)
    rw [readValue_of_head? (head?_writeText_ne value _ (by decide) (by decide))
      (head?_writeText_ne value _ (by decide) (by decide)), readPlain, read]
    simp [Except.map]

theorem isScalar_of_isDigit {c : Char} (digit : c.isDigit) : isScalar c := by
  have ends : " \t\r\n,]\x7d#".toList.all (!·.isDigit) := by decide
  rw [isScalar, Bool.not_eq_true', List.contains_eq_mem, decide_eq_false_iff_not]
  intro member
  have other := List.all_eq_true.1 ends c member
  rw [digit] at other
  cases other

theorem takeScalar_digits {digits : List Char} (all : ∀ c ∈ digits, c.isDigit) (rest : List Char) :
    takeScalar (digits ++ '\n' :: rest) = (digits, '\n' :: rest) := by
  have inside : ∀ c ∈ digits, isScalar c := fun c member => isScalar_of_isDigit (all c member)
  have run : (digits ++ '\n' :: rest).takeWhile isScalar = digits := by
    rw [List.takeWhile_append_of_pos inside]
    simp [isScalar]
  have after : (digits ++ '\n' :: rest).dropWhile isScalar = '\n' :: rest := by
    rw [List.dropWhile_append_of_pos inside]
    rfl
  simp only [takeScalar, run, after]
  split
  next same => cases same
  next => rfl

theorem head?_toDigits_ne (value : Nat) (rest : List Char) {c : Char} (other : c.isDigit = false) :
    (Nat.toDigits 10 value ++ rest).head? ≠ some c := by
  obtain ⟨first, others, written⟩ :=
    List.exists_cons_of_ne_nil (Nat.toDigits_ne_nil (n := value) (b := 10))
  have digit : first.isDigit := isDigit_toDigits value first (written ▸ List.mem_cons_self)
  rw [written]
  rintro ⟨⟩
  rw [other] at digit
  cases digit

theorem valueRead_toDigits (value : Nat) : ValueRead (Nat.toDigits 10 value) (.integer value) where
  start rest := skipSpacing_of_head? (head?_toDigits_ne value rest (by decide))
    (head?_toDigits_ne value rest (by decide))
  read depth rest := by
    rw [readValue_of_head? (head?_toDigits_ne value _ (by decide)) (head?_toDigits_ne value _ (by decide)),
      readPlain, readText?_of_head? (head?_toDigits_ne value _ (by decide))
        (head?_toDigits_ne value _ (by decide))]
    simp only
    rw [takeScalar_digits (isDigit_toDigits value)]
    simp [scalar_toDigits, Except.map]

/-! ## Keys -/

structure IsBare (key : String) : Prop where
  filled : key.toList ≠ []
  bare : ∀ c ∈ key.toList, isBareKey c

instance (key : String) : Decidable (IsBare key) :=
  decidable_of_iff (key.toList ≠ [] ∧ key.toList.all isBareKey)
    ⟨fun ⟨filled, bare⟩ => ⟨filled, List.all_eq_true.1 bare⟩,
      fun ⟨filled, bare⟩ => ⟨filled, List.all_eq_true.2 bare⟩⟩

section Keys
variable {key : String} (bare : IsBare key) (rest : List Char)
include bare

theorem IsBare.head?_ne {c : Char} (other : isBareKey c = false) :
    (key.toList ++ rest).head? ≠ some c := by
  obtain ⟨first, others, written⟩ := List.exists_cons_of_ne_nil bare.filled
  have inside : isBareKey first := bare.bare first (written ▸ List.mem_cons_self)
  rw [written]
  rintro ⟨⟩
  rw [other] at inside
  cases inside

theorem IsBare.skipSpacing : skipSpacing (key.toList ++ rest) = key.toList ++ rest :=
  skipSpacing_of_head? (bare.head?_ne rest (by decide)) (bare.head?_ne rest (by decide))

theorem readKey_bare {c : Char} (ended : isBareKey c = false) :
    readKey (key.toList ++ c :: rest) = .ok (key, c :: rest) := by
  have run : (key.toList ++ c :: rest).takeWhile isBareKey = key.toList := by
    rw [List.takeWhile_append_of_pos bare.bare]
    simp [ended]
  have after : (key.toList ++ c :: rest).dropWhile isBareKey = c :: rest := by
    rw [List.dropWhile_append_of_pos bare.bare]
    simp [ended]
  have no_double := bare.head?_ne (c :: rest) (c := '"') (by decide)
  have no_single := bare.head?_ne (c :: rest) (c := '\'') (by decide)
  unfold readKey
  split
  next same => exact absurd (by rw [same]; rfl) no_double
  next same => exact absurd (by rw [same]; rfl) no_single
  next same => exact absurd (by rw [same]; rfl) no_double
  next same => exact absurd (by rw [same]; rfl) no_single
  next =>
    simp only [run, after]
    simp [bare.filled]

theorem readKeys_bare {c : Char} (ended : isBareKey c = false) {after : List Char}
    (spaced : skipSpacing (c :: rest) = after) (single : after.head? ≠ some '.') (limit : Nat) :
    readKeys (limit + 1) (key.toList ++ c :: rest) = .ok ([key], after) := by
  rw [readKeys, bare.skipSpacing, readKey_bare bare rest ended]
  simp only [bind, Except.bind, spaced]
  split
  next => exact absurd rfl single
  next => rfl

/-! ## Lines -/

theorem readStatement_header :
    readStatement ('[' :: key.toList ++ ']' :: rest) = .ok (.header [key], rest) := by
  have no_element := bare.head?_ne (']' :: rest) (c := '[') (by decide)
  unfold readStatement
  split
  next same =>
    rw [List.cons_append, List.cons.injEq] at same
    exact absurd (by rw [same.2]; rfl) no_element
  next same =>
    rw [List.cons_append, List.cons.injEq] at same
    rw [← same.2, depthLimit, readKeys_bare bare rest (by decide) (skipSpacing_cons rfl rest) (by simp)]
    rfl
  next other => exact absurd rfl (other _)

theorem readStatement_pair {written : List Char} {value : Value} (read : ValueRead written value) :
    readStatement (key.toList ++ " = ".toList ++ written ++ '\n' :: rest) =
      .ok (.pair [key] value, '\n' :: rest) := by
  have arranged : key.toList ++ " = ".toList ++ written ++ '\n' :: rest =
      key.toList ++ ' ' :: '=' :: ' ' :: (written ++ '\n' :: rest) := by
    simp
  rw [arranged]
  have no_header := bare.head?_ne (' ' :: '=' :: ' ' :: (written ++ '\n' :: rest)) (c := '[') (by decide)
  unfold readStatement
  split
  next same => exact absurd (by rw [same]; rfl) no_header
  next same => exact absurd (by rw [same]; rfl) no_header
  next =>
    simp only [readPair, depthLimit]
    have equals : skipSpacing (' ' :: '=' :: ' ' :: (written ++ '\n' :: rest)) =
        '=' :: ' ' :: (written ++ '\n' :: rest) :=
      (skipSpacing_space _).trans (skipSpacing_cons rfl _)
    rw [readKeys_bare bare _ (by decide) equals (by simp)]
    simp only [bind, Except.bind, skipSpacing_cons (c := '=') rfl, skipSpacing_space, read.start]
    rw [read.read]
    rfl

end Keys

/-- A text is read as some statements, given more steps than it has characters. -/
def Reads (text : List Char) (statements : List Statement) : Prop :=
  ∀ limit, text.length < limit → readStatements limit text = .ok statements

theorem Reads.nil : Reads [] [] := by
  intro limit enough
  cases limit with
  | zero => cases enough
  | succ limit => rfl

theorem Reads.blank {text : List Char} {statements : List Statement} (reads : Reads text statements) :
    Reads ('\n' :: text) statements := by
  intro limit enough
  cases limit with
  | zero => cases enough
  | succ limit => exact reads limit (Nat.lt_of_succ_lt_succ enough)

theorem endLine_lineEnd (rest : List Char) : endLine ('\n' :: rest) = .ok rest := rfl

theorem Reads.line {text rest : List Char} {statement : Statement} {statements : List Statement}
    (start : ∀ c ∈ [' ', '\t', '#', '\n', '\r'], text.head? ≠ some c) (filled : text ≠ [])
    (read : readStatement text = .ok (statement, '\n' :: rest)) (shorter : rest.length < text.length)
    (reads : Reads rest statements) : Reads text (statement :: statements) := by
  intro limit enough
  cases limit with
  | zero => cases enough
  | succ limit =>
      have solid : skipSpacing text = text :=
        skipSpacing_of_head? (start ' ' (by decide)) (start '\t' (by decide))
      unfold readStatements
      rw [solid]
      split
      next => exact absurd rfl filled
      next => exact absurd rfl (start '#' (by decide))
      next => exact absurd rfl (start '\n' (by decide))
      next => exact absurd rfl (start '\r' (by decide))
      next =>
        rw [read]
        simp only [bind, Except.bind, endLine_lineEnd]
        rw [reads limit (by omega)]
        rfl

theorem Reads.header {key : String} (bare : IsBare key) {rest : List Char} {statements : List Statement}
    (reads : Reads rest statements) :
    Reads ('[' :: key.toList ++ ']' :: '\n' :: rest) (.header [key] :: statements) := by
  refine .line ?_ nofun (readStatement_header bare ('\n' :: rest)) ?_ reads
  · simp
  · simp
    omega

theorem Reads.pair {key : String} (bare : IsBare key) {written : List Char} {value : Value}
    (read : ValueRead written value) {rest : List Char} {statements : List Statement}
    (reads : Reads rest statements) :
    Reads (key.toList ++ " = ".toList ++ written ++ '\n' :: rest) (.pair [key] value :: statements) := by
  refine .line ?_ ?_ (readStatement_pair bare rest read) ?_ reads
  · have others : [' ', '\t', '#', '\n', '\r'].all (!isBareKey ·) := by decide
    intro c member
    rw [List.append_assoc, List.append_assoc]
    exact bare.head?_ne _ (by simpa using List.all_eq_true.1 others c member)
  · simp
  · simp
    omega

theorem read_of_reads {text : List Char} {statements : List Statement} (reads : Reads text statements)
    (unmarked : text.head? ≠ some '\uFEFF') : read (String.ofList text) = build statements := by
  rw [read, String.toList_ofList]
  split
  next => exact absurd rfl unmarked
  next =>
    rw [reads _ (Nat.lt_succ_self _)]
    rfl

end LocaleStaging.Toml
