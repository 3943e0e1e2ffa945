import LocaleStaging.Markup.Reference

namespace LocaleStaging.Markup

def delimiters : List Char := ['<', '>', '\'', '"']

theorem escapeChar_cases (c : Char) :
    (escapeChar c = [c] ∧ c ≠ '&' ∧ c ∉ delimiters) ∨
    ∃ name : List Char, escapeChar c = '&' :: name ++ [';'] ∧ (∀ letter ∈ name, letter.isAlpha) ∧
      ∀ start stop, resolve start stop name = .ok c := by
  unfold escapeChar
  split
  next less => exact .inr ⟨['l', 't'], rfl, List.all_eq_true.1 rfl, fun _ _ => less ▸ rfl⟩
  split
  next greater => exact .inr ⟨['g', 't'], rfl, List.all_eq_true.1 rfl, fun _ _ => greater ▸ rfl⟩
  split
  next ampersand => exact .inr ⟨['a', 'm', 'p'], rfl, List.all_eq_true.1 rfl, fun _ _ => ampersand ▸ rfl⟩
  split
  next apostrophe =>
    exact .inr ⟨['a', 'p', 'o', 's'], rfl, List.all_eq_true.1 rfl, fun _ _ => apostrophe ▸ rfl⟩
  split
  next quote => exact .inr ⟨['q', 'u', 'o', 't'], rfl, List.all_eq_true.1 rfl, fun _ _ => quote ▸ rfl⟩
  next less greater ampersand apostrophe quote =>
    refine .inl ⟨rfl, ampersand, ?_⟩
    simp [delimiters, less, greater, apostrophe, quote]

theorem escape_cons (c : Char) (rest : List Char) : escape (c :: rest) = escapeChar c ++ escape rest :=
  List.flatMap_cons

theorem not_mem_escape {c : Char} (delimiter : c ∈ delimiters) (text : List Char) :
    c ∉ escape text := by
  intro member
  obtain ⟨written, -, found⟩ := List.mem_flatMap.1 member
  rcases escapeChar_cases written with ⟨plain, -, free⟩ | ⟨name, reference, letters, -⟩
  · rw [plain, List.mem_singleton] at found
    exact free (found ▸ delimiter)
  · have none_is_letter : c.isAlpha = false ∧ c ≠ '&' ∧ c ≠ ';' := by
      simp only [delimiters, List.mem_cons, List.not_mem_nil, or_false] at delimiter
      rcases delimiter with rfl | rfl | rfl | rfl <;> decide
    obtain ⟨no_letter, open', close⟩ := none_is_letter
    rw [reference] at found
    simp only [List.cons_append, List.mem_cons, List.mem_append, List.not_mem_nil, or_false, open',
      close, false_or] at found
    rw [letters c found] at no_letter
    cases no_letter

/-! ## Reading references -/

theorem unescapeFrom_name {name : List Char} (letters : ∀ letter ∈ name, letter.isAlpha)
    (size start : Nat) (seen : List Char) (position : Nat) (rest : List Char) :
    unescapeFrom size (some ⟨start, seen⟩) position (name ++ rest) =
      unescapeFrom size (some ⟨start, name.reverse ++ seen⟩) (position + octetCount name) rest := by
  induction name generalizing seen position with
  | nil => simp [octetCount]
  | cons c name ih =>
      have letter : c.isAlpha := letters c List.mem_cons_self
      have no_ampersand : c ≠ '&' := by
        rintro rfl
        contradiction
      have no_semicolon : c ≠ ';' := by
        rintro rfl
        contradiction
      rw [List.cons_append, unescapeFrom]
      simp only [no_ampersand, no_semicolon, if_false]
      rw [ih fun other member => letters other (List.mem_cons_of_mem c member)]
      simp [octetCount, Nat.add_assoc]

theorem unescapeFrom_escapeChar (c : Char) (size position : Nat) (rest : List Char) :
    ∃ next, unescapeFrom size none position (escapeChar c ++ rest) =
      (unescapeFrom size none next rest).map (c :: ·) := by
  rcases escapeChar_cases c with ⟨plain, no_ampersand, -⟩ | ⟨name, reference, letters, resolved⟩
  · refine ⟨position + c.utf8Size, ?_⟩
    rw [plain, List.singleton_append, unescapeFrom]
    simp [no_ampersand]
  · refine ⟨position + '&'.utf8Size + octetCount name + ';'.utf8Size, ?_⟩
    rw [reference, List.cons_append, List.cons_append, List.append_assoc, List.singleton_append,
      unescapeFrom]
    simp only [if_true]
    rw [unescapeFrom_name letters, unescapeFrom]
    simp [resolved]

theorem unescapeFrom_escape (size position : Nat) (text : List Char) :
    unescapeFrom size none position (escape text) = .ok text := by
  induction text generalizing position with
  | nil => rfl
  | cons c text ih =>
      rw [escape_cons]
      obtain ⟨next, read⟩ := unescapeFrom_escapeChar c size position (escape text)
      rw [read, ih next]
      rfl

theorem unescape_escape (text : List Char) : unescape (escape text) = .ok text :=
  unescapeFrom_escape _ _ text

end LocaleStaging.Markup
