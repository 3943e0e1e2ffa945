import LocaleStaging.Toml.Writer

namespace LocaleStaging.Toml

/-! ## Single characters -/

theorem prepend_ok (c : Char) (text rest : List Char) :
    prepend c (.ok (text, rest)) = .ok (c :: text, rest) := rfl

theorem toNat_of_isForbidden {c : Char} (forbidden : isForbidden c) : c.toNat < 0x20 ∨ c.toNat = 0x7F := by
  simp only [isForbidden, Bool.or_eq_true, Bool.and_eq_true, decide_eq_true_eq, beq_iff_eq] at forbidden
  exact forbidden.imp And.left id

theorem isForbidden_of_isControl {c : Char} (allowed : isControl c = false) (no_line_end : c ≠ '\n') :
    isForbidden c = false := by
  simpa [isControl, no_line_end] using allowed

theorem digit?_capitalDigit {value : Nat} (small : value < 16) :
    Numeral.digit? 16 (capitalDigit value) = some value := by
  revert value
  decide

section Escapes
variable (lines : Bool) (rest : List Char)

theorem readEscaped_plain {c : Char} (no_quote : c ≠ '"') (no_backslash : c ≠ '\\')
    (allowed : isForbidden c = false ∨ lines = true ∧ c = '\n') :
    readEscaped lines .plain (c :: rest) = prepend c (readEscaped lines .plain rest) := by
  rw [readEscaped]
  simp only [takePlain, no_quote, no_backslash, if_false, and_false]
  rcases allowed with allowed | ⟨rfl, rfl⟩
  · simp only [allowed, Bool.false_eq_true, if_false, ite_self]
  · simp

theorem readEscaped_short {letter c : Char} (short : shortEscape? letter = some c) :
    readEscaped lines .plain ('\\' :: letter :: rest) = prepend c (readEscaped lines .plain rest) := by
  rw [readEscaped]
  simp only [takePlain, Char.reduceEq, if_false, true_and, if_true]
  rw [readEscaped]
  simp only [short]

theorem readEscaped_digit {digit missing value : Nat} (small : digit < 16) (more : 1 < missing) :
    readEscaped lines (.code missing value) (capitalDigit digit :: rest) =
      readEscaped lines (.code (missing - 1) (value * 16 + digit)) rest := by
  rw [readEscaped]
  simp only [digit?_capitalDigit small, more, if_true]

theorem readEscaped_lastDigit {digit value : Nat} {c : Char} (small : digit < 16)
    (code : value * 16 + digit = c.toNat) :
    readEscaped lines (.code 1 value) (capitalDigit digit :: rest) =
      prepend c (readEscaped lines .plain rest) := by
  have valid : (value * 16 + digit).isValidChar := code ▸ c.valid
  rw [readEscaped]
  simp only [digit?_capitalDigit small, Nat.lt_irrefl, if_false, valid, if_true]
  rw [code, Char.ofNat_toNat]

theorem readEscaped_code {c : Char} (forbidden : isForbidden c) :
    readEscaped lines .plain
        ('\\' :: 'u' :: '0' :: '0' :: capitalDigit (c.toNat / 16) :: capitalDigit (c.toNat % 16) :: rest) =
      prepend c (readEscaped lines .plain rest) := by
  have bound := toNat_of_isForbidden forbidden
  have zero : capitalDigit 0 = '0' := by decide
  have no_short : shortEscape? 'u' = none := rfl
  have long : codeLength? 'u' = some 4 := rfl
  have begun (text : List Char) : readEscaped lines .plain ('\\' :: 'u' :: text) =
      readEscaped lines (.code 4 0) text := by
    rw [readEscaped]
    simp only [takePlain, Char.reduceEq, if_false, true_and, if_true]
    rw [readEscaped]
    simp only [no_short, long]
  rw [begun, ← zero, readEscaped_digit lines _ (by decide) (by decide),
    readEscaped_digit lines _ (by decide) (by decide),
    readEscaped_digit lines _ (by omega) (by decide),
    readEscaped_lastDigit lines _ (c := c) (by omega) (by omega)]

theorem readEscaped_escapeChar {c : Char} (no_quote : c ≠ '"') (ended : c = '\n' → lines = true) :
    readEscaped lines .plain (escapeChar c ++ rest) = prepend c (readEscaped lines .plain rest) := by
  unfold escapeChar
  split
  next same => exact readEscaped_short lines rest (by rw [same]; rfl)
  split
  next same => exact readEscaped_short lines rest (by rw [same]; rfl)
  split
  next same => exact readEscaped_short lines rest (by rw [same]; rfl)
  split
  next same => exact readEscaped_short lines rest (by rw [same]; rfl)
  split
  next same => exact readEscaped_short lines rest (by rw [same]; rfl)
  next no_backslash =>
    split
    next control => exact readEscaped_code lines rest control.1
    next allowed =>
      refine readEscaped_plain lines rest no_quote no_backslash ?_
      by_cases line_end : c = '\n'
      · exact .inr ⟨ended line_end, line_end⟩
      · exact .inl (by simpa [line_end] using allowed)

end Escapes

theorem escapeChar_cases (c : Char) :
    escapeChar c = [c] ∧ (isForbidden c = false ∨ c = '\n') ∨ ∃ escaped, escapeChar c = '\\' :: escaped := by
  unfold escapeChar
  grind

theorem head?_escapeChar_ne {c : Char} (no_quote : c ≠ '"') (rest : List Char) :
    (escapeChar c ++ rest).head? ≠ some '"' := by
  rcases escapeChar_cases c with ⟨plain, -⟩ | ⟨escaped, written⟩
  · simp [plain, no_quote]
  · simp [written]

/-! ## Texts of one line -/

theorem readEscaped_escape (text rest : List Char) :
    readEscaped false .plain (escape text ++ '"' :: rest) = .ok (text, rest) := by
  induction text with
  | nil => rfl
  | cons c text ih =>
      have split : escape (c :: text) ++ '"' :: rest =
          (if c = '"' then ['\\', '"'] else if c = '\n' then ['\\', 'n'] else escapeChar c) ++
            (escape text ++ '"' :: rest) := by
        simp [escape]
      rw [split, ← prepend_ok, ← ih]
      split
      next same => exact readEscaped_short false _ (by rw [same]; rfl)
      split
      next same => exact readEscaped_short false _ (by rw [same]; rfl)
      next no_quote no_line_end =>
        exact readEscaped_escapeChar false _ no_quote fun same => absurd same no_line_end

theorem readLiteral_line {text : List Char} (bare : '\'' ∉ text)
    (allowed : ∀ c ∈ text, isForbidden c = false) (rest : List Char) :
    readLiteral false (text ++ '\'' :: rest) = .ok (text, rest) := by
  induction text with
  | nil => rfl
  | cons c text ih =>
      obtain ⟨no_quote, bare⟩ := not_or.1 (mt List.mem_cons.2 bare)
      obtain ⟨here, allowed⟩ := List.forall_mem_cons.1 allowed
      rw [← prepend_ok, ← ih bare allowed, List.cons_append, readLiteral]
      simp [takePlain, Ne.symm no_quote, here]

/-! ## Texts of several lines -/

/-- A quote in a text between three quotes. It belongs to the end of the text if nothing or one more
quote follows it, and else it is read like any character. -/
theorem takePlain_quote {quote : Char} {written : List Char} (alone : written.take 2 ≠ [quote, quote])
    {rest : List Char} (ends : rest.head? ≠ some quote) (next : EscapeState → TextRead)
    (escapes : Bool) :
    takePlain true quote quote (written ++ quote :: quote :: quote :: rest) next escapes =
      if written = [] ∨ written = [quote] then .ok (quote :: written, rest)
      else prepend quote (next .plain) := by
  unfold takePlain closing
  match written with
  | [] => cases rest <;> simp_all
  | [c] =>
      by_cases same : c = quote
      · subst same
        cases rest <;> simp_all
      · simp [same]
  | first :: second :: written =>
      simp only [List.take_succ_cons, List.take_zero] at alone
      simp [alone]

theorem takePlain_end {quote : Char} {rest : List Char} (ends : rest.head? ≠ some quote)
    (next : EscapeState → TextRead) (escapes : Bool) :
    takePlain true quote quote (quote :: quote :: rest) next escapes = .ok ([], rest) := by
  unfold takePlain closing
  cases rest <;> simp_all

/-! ### Escaped -/

theorem quote_of_head?_escapeLines {quotes : Nat} {text : List Char}
    (first : (escapeLines quotes text).head? = some '"') :
    ∃ rest, text = '"' :: rest ∧ quotes ≠ 2 ∧
      escapeLines quotes text = '"' :: escapeLines (quotes + 1) rest := by
  cases text with
  | nil => cases first
  | cons c text =>
      rw [escapeLines] at first
      split at first
      next same =>
        subst same
        split at first
        next => cases first
        next few => exact ⟨text, rfl, few, by simp [escapeLines, few]⟩
      next other => exact absurd first (head?_escapeChar_ne other _)

theorem eq_nil_of_escapeLines {quotes : Nat} {text : List Char} (bare : escapeLines quotes text = []) :
    text = [] := by
  cases text with
  | nil => rfl
  | cons c text =>
      rw [escapeLines] at bare
      split at bare
      next => split at bare <;> cases bare
      next =>
        rcases escapeChar_cases c with ⟨plain, -⟩ | ⟨escaped, written⟩
        · simp [plain] at bare
        · simp [written] at bare

theorem escapeLines_eq_self {quotes : Nat} {text : List Char}
    (short : escapeLines quotes text = [] ∨ escapeLines quotes text = ['"']) :
    escapeLines quotes text = text := by
  rcases short with bare | single
  · rw [bare, eq_nil_of_escapeLines bare]
  · obtain ⟨rest, rfl, -, written⟩ := quote_of_head?_escapeLines (congrArg List.head? single)
    rw [single, List.cons.injEq] at written
    rw [single, eq_nil_of_escapeLines written.2.symm]

theorem take_escapeLines {quotes : Nat} (seen : 0 < quotes) (few : quotes ≤ 2) (text : List Char) :
    (escapeLines quotes text).take 2 ≠ ['"', '"'] := by
  intro both
  have first : (escapeLines quotes text).head? = some '"' := by
    simpa [List.head?_take] using congrArg List.head? both
  obtain ⟨rest, -, one, written⟩ := quote_of_head?_escapeLines first
  rw [written, List.take_succ_cons, List.cons.injEq] at both
  have second : (escapeLines (quotes + 1) rest).head? = some '"' := by
    simpa [List.head?_take] using congrArg List.head? both.2
  obtain ⟨-, -, two, -⟩ := quote_of_head?_escapeLines second
  omega

theorem readEscaped_escapeLines {quotes : Nat} (few : quotes ≤ 2) (text : List Char)
    {rest : List Char} (ends : rest.head? ≠ some '"') :
    readEscaped true .plain (escapeLines quotes text ++ '"' :: '"' :: '"' :: rest) =
      .ok (text, rest) := by
  induction text generalizing quotes with
  | nil => exact takePlain_end ends (readEscaped true · _) true
  | cons c text ih =>
      rw [escapeLines]
      split
      next same =>
        subst same
        split
        next =>
          rw [List.cons_append, List.cons_append, readEscaped_short true _ rfl, ih (Nat.zero_le 2),
            prepend_ok]
        next other =>
          have alone := take_escapeLines (Nat.succ_pos quotes) (by omega) text
          rw [List.cons_append, readEscaped, takePlain_quote alone ends, ih (by omega), prepend_ok]
          split
          next short => rw [escapeLines_eq_self short]
          next => rfl
      next no_quote =>
        rw [List.append_assoc, readEscaped_escapeChar true _ no_quote fun _ => rfl,
          ih (Nat.zero_le 2), prepend_ok]

/-! ### As it stands -/

theorem le_longestRun (quote : Char) (current : Nat) (text : List Char) :
    current ≤ longestRun quote current text := by
  induction text generalizing current with
  | nil => exact Nat.le_refl current
  | cons c text ih =>
      rw [longestRun]
      split
      next => exact Nat.le_of_succ_le (ih (current + 1))
      next => exact Nat.le_max_left _ _

theorem readLiteral_lines {text : List Char} {current : Nat}
    (few : longestRun '\'' current text ≤ 2) (allowed : ∀ c ∈ text, isControl c = false)
    {rest : List Char} (ends : rest.head? ≠ some '\'') :
    readLiteral true (text ++ '\'' :: '\'' :: '\'' :: rest) = .ok (text, rest) := by
  induction text generalizing current with
  | nil => exact takePlain_end ends (fun _ => readLiteral true _) false
  | cons c text ih =>
      obtain ⟨here, others⟩ := List.forall_mem_cons.1 allowed
      rw [longestRun] at few
      split at few
      next same =>
        subst same
        have alone : text.take 2 ≠ ['\'', '\''] := by
          intro both
          obtain ⟨later, rfl⟩ : ∃ later, text = '\'' :: '\'' :: later :=
            ⟨text.drop 2, by rw [← List.take_append_drop 2 text, both]; rfl⟩
          have long := le_longestRun '\'' (current + 1 + 1 + 1) later
          simp only [longestRun, if_true] at few
          omega
        rw [List.cons_append, readLiteral, takePlain_quote alone ends, ih few others, prepend_ok,
          ite_self]
      next other =>
        rw [List.cons_append, readLiteral, ih (Nat.le_trans (Nat.le_max_right _ _) few) others]
        simp only [takePlain, other, if_false, Bool.false_eq_true, false_and, true_and]
        split
        next => rfl
        next ordinary =>
          have plain := isForbidden_of_isControl here fun same => ordinary (.inl same)
          simp [plain, prepend_ok]

/-! ## Texts in any form -/

theorem dropFirstLineEnd_leadingLineEnd {text written : List Char}
    (start : '\n' ∉ text → written.head? ≠ some '\n' ∧ written.head? ≠ some '\r') :
    dropFirstLineEnd (leadingLineEnd text ++ written) = written := by
  rw [leadingLineEnd]
  split
  next => rfl
  next one_line =>
    obtain ⟨no_line_end, no_return⟩ := start (by simpa using one_line)
    rw [List.nil_append]
    unfold dropFirstLineEnd
    split
    next => exact absurd rfl no_line_end
    next => exact absurd rfl no_return
    next => rfl

theorem start_escapeLines {text : List Char} (one_line : '\n' ∉ text) (rest : List Char) :
    (escapeLines 0 text ++ '"' :: rest).head? ≠ some '\n' ∧
      (escapeLines 0 text ++ '"' :: rest).head? ≠ some '\r' := by
  cases text with
  | nil => simp [escapeLines]
  | cons c text =>
      have no_line_end : c ≠ '\n' := fun same => one_line (same ▸ List.mem_cons_self)
      rw [escapeLines]
      split
      next => simp
      next =>
        rcases escapeChar_cases c with ⟨plain, allowed⟩ | ⟨escaped, written⟩
        · have no_return : c ≠ '\r' := by
            rintro rfl
            simp [isForbidden] at allowed
          simp [plain, no_line_end, no_return]
        · simp [written]

theorem start_literal {text : List Char} (allowed : ∀ c ∈ text, isControl c = false)
    (one_line : '\n' ∉ text) (rest : List Char) :
    (text ++ '\'' :: rest).head? ≠ some '\n' ∧ (text ++ '\'' :: rest).head? ≠ some '\r' := by
  cases text with
  | nil => simp
  | cons c text =>
      have no_line_end : c ≠ '\n' := fun same => one_line (same ▸ List.mem_cons_self)
      have no_return : c ≠ '\r' := by
        rintro rfl
        exact absurd (allowed '\r' List.mem_cons_self) (by decide)
      simp [no_line_end, no_return]

theorem Form.of_literal {text : List Char} (taken : Form.of text = .literal) :
    '\'' ∉ text ∧ ∀ c ∈ text, isForbidden c = false := by
  simp only [Form.of] at taken
  split at taken
  next => cases taken
  split at taken
  next held =>
    simp only [Bool.not_eq_true', List.any_eq_false, List.contains_eq_mem, decide_eq_false_iff_not,
      Bool.not_eq_true] at held
    obtain ⟨allowed, one_line, bare⟩ := held
    refine ⟨bare, fun c member => isForbidden_of_isControl (allowed c member) ?_⟩
    exact fun same => one_line (same ▸ member)
  next => split at taken <;> grind

theorem Form.of_literalLines {text : List Char} (taken : Form.of text = .literalLines) :
    longestRun '\'' 0 text ≤ 2 ∧ ∀ c ∈ text, isControl c = false := by
  simp only [Form.of] at taken
  split at taken
  next => cases taken
  split at taken
  next => cases taken
  split at taken
  next => cases taken
  split at taken
  next held =>
    simp only [Bool.not_eq_true', List.any_eq_false, Bool.not_eq_true] at held
    exact ⟨held.2, held.1⟩
  next => split at taken <;> cases taken

theorem readText?_escaped {written : List Char} (alone : written.take 2 ≠ ['"', '"']) :
    readText? ('"' :: written) = some (readEscaped false .plain written) := by
  unfold readText?
  split
  next same =>
    cases same
    simp at alone
  next same =>
    cases same
    rfl
  next same => cases same
  next same => cases same
  next => simp_all

theorem readText?_literal {written : List Char} (alone : written.take 2 ≠ ['\'', '\'']) :
    readText? ('\'' :: written) = some (readLiteral false written) := by
  unfold readText?
  split
  next same => cases same
  next same => cases same
  next same =>
    cases same
    simp at alone
  next same =>
    cases same
    rfl
  next => simp_all

theorem take_escape {text rest : List Char} (ends : rest.head? ≠ some '"') :
    (escape text ++ '"' :: rest).take 2 ≠ ['"', '"'] := by
  cases text with
  | nil => cases rest <;> simp_all [escape]
  | cons c text =>
      intro both
      have first : (escape (c :: text) ++ '"' :: rest).head? = some '"' := by
        simpa [List.head?_take] using congrArg List.head? both
      rw [escape, List.flatMap_cons, List.append_assoc] at first
      split at first
      next => cases first
      split at first
      next => cases first
      next no_quote _ => exact head?_escapeChar_ne no_quote _ first

theorem take_literal {text rest : List Char} (bare : '\'' ∉ text) (ends : rest.head? ≠ some '\'') :
    (text ++ '\'' :: rest).take 2 ≠ ['\'', '\''] := by
  cases text with
  | nil => cases rest <;> simp_all
  | cons c text => simp_all [eq_comm]

theorem readText?_writeText (value : String) {rest : List Char} (no_double : rest.head? ≠ some '"')
    (no_single : rest.head? ≠ some '\'') :
    readText? (writeText value ++ rest) = some (.ok (value.toList, rest)) := by
  simp only [writeText]
  cases taken : Form.of value.toList with
  | escaped =>
      simp only [List.cons_append, List.append_assoc, List.nil_append]
      rw [readText?_escaped (take_escape no_double), readEscaped_escape]
  | literal =>
      obtain ⟨bare, allowed⟩ := Form.of_literal taken
      simp only [List.cons_append, List.append_assoc, List.nil_append]
      rw [readText?_literal (take_literal bare no_single), readLiteral_line bare allowed]
  | escapedLines =>
      have whole : "\"\"\"".toList ++ leadingLineEnd value.toList ++ escapeLines 0 value.toList ++
          "\"\"\"".toList ++ rest = '"' :: '"' :: '"' :: (leadingLineEnd value.toList ++
            (escapeLines 0 value.toList ++ '"' :: '"' :: '"' :: rest)) := by
        simp
      have body := dropFirstLineEnd_leadingLineEnd fun one_line =>
        @start_escapeLines value.toList one_line ('"' :: '"' :: rest)
      rw [whole]
      simp only [readText?]
      rw [body, readEscaped_escapeLines (Nat.zero_le 2) _ no_double]
  | literalLines =>
      obtain ⟨few, allowed⟩ := Form.of_literalLines taken
      have whole : "'''".toList ++ leadingLineEnd value.toList ++ value.toList ++
          "'''".toList ++ rest = '\'' :: '\'' :: '\'' :: (leadingLineEnd value.toList ++
            (value.toList ++ '\'' :: '\'' :: '\'' :: rest)) := by
        simp
      have body := dropFirstLineEnd_leadingLineEnd fun one_line =>
        start_literal allowed one_line ('\'' :: '\'' :: rest)
      rw [whole]
      simp only [readText?]
      rw [body, readLiteral_lines few allowed no_single]

end LocaleStaging.Toml
