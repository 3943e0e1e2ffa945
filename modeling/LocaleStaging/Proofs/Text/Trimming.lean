import LocaleStaging.Text.Blank

namespace LocaleStaging

structure Trimmed (text : List Char) : Prop where
  start : ∀ c, text.head? = some c → isBlank c = false
  stop : ∀ c, text.getLast? = some c → isBlank c = false

structure TrimsTo (text core : List Char) : Prop where
  around : ∃ before after, text = before ++ core ++ after ∧
    (∀ c ∈ before, isBlank c) ∧ ∀ c ∈ after, isBlank c
  trimmed : Trimmed core

/-! ## One end -/

theorem trimStart_append {before : List Char} (blank : ∀ c ∈ before, isBlank c) (text : List Char) :
    trimStart (before ++ text) = trimStart text :=
  List.dropWhile_append_of_pos blank

theorem exists_trimStart (text : List Char) :
    ∃ before, text = before ++ trimStart text ∧ ∀ c ∈ before, isBlank c :=
  ⟨text.takeWhile isBlank, List.takeWhile_append_dropWhile.symm,
    List.all_eq_true.1 List.all_takeWhile⟩

theorem trimEnd_eq (text : List Char) : trimEnd text = (trimStart text.reverse).reverse := rfl

theorem trimEnd_append_blank {after : List Char} (blank : ∀ c ∈ after, isBlank c) (text : List Char) :
    trimEnd (text ++ after) = trimEnd text := by
  have reversed : ∀ c ∈ after.reverse, isBlank c := fun c member => blank c (List.mem_reverse.1 member)
  rw [trimEnd_eq, List.reverse_append, trimStart_append reversed, ← trimEnd_eq]

theorem exists_trimEnd (text : List Char) :
    ∃ after, text = trimEnd text ++ after ∧ ∀ c ∈ after, isBlank c := by
  obtain ⟨before, split, blank⟩ := exists_trimStart text.reverse
  refine ⟨before.reverse, ?_, fun c member => blank c (List.mem_reverse.1 member)⟩
  rw [trimEnd_eq, ← List.reverse_append, ← split, List.reverse_reverse]

theorem trimEnd_eq_self_iff {text : List Char} :
    trimEnd text = text ↔ ∀ c, text.getLast? = some c → isBlank c = false := by
  rw [trimEnd_eq, List.reverse_eq_iff, trimStart_eq_self_iff, List.head?_reverse]

/-! ## Both ends -/

theorem trim_eq_self_iff {text : List Char} : trim text = text ↔ Trimmed text := by
  constructor
  · intro same
    constructor
    · rw [← trimStart_eq_self_iff, ← same]
      exact trimStart_trim text
    · rw [← trimEnd_eq_self_iff, ← same]
      exact trimEnd_trimEnd (trimStart text)
  · rintro ⟨start, stop⟩
    rw [trim, trimStart_eq_self_iff.2 start, trimEnd_eq_self_iff.2 stop]

theorem trimsTo_trim (text : List Char) : TrimsTo text (trim text) := by
  obtain ⟨before, split, blank⟩ := exists_trimStart text
  obtain ⟨after, split_rest, blank_after⟩ := exists_trimEnd (trimStart text)
  refine ⟨⟨before, after, ?_, blank, blank_after⟩, trim_eq_self_iff.1 (trim_trim text)⟩
  rw [List.append_assoc, trim, ← split_rest, ← split]

theorem trim_eq_iff {text core : List Char} : trim text = core ↔ TrimsTo text core := by
  constructor
  · rintro rfl
    exact trimsTo_trim text
  · rintro ⟨⟨before, after, rfl, blank, blank_after⟩, trimmed⟩
    rw [List.append_assoc, trim, trimStart_append blank]
    cases core with
    | nil =>
        -- Nothing stands between the ends, so all white space is taken from the first of them.
        have none := trimStart_append blank_after []
        rw [List.append_nil] at none
        rw [List.nil_append, none]
        rfl
    | cons c rest =>
        have start : trimStart (c :: rest ++ after) = c :: rest ++ after :=
          trimStart_eq_self_iff.2 trimmed.start
        rw [start, trimEnd_append_blank blank_after, trimEnd_eq_self_iff.2 trimmed.stop]

theorem trim_eq_nil_iff {text : List Char} : trim text = [] ↔ ∀ c ∈ text, isBlank c := by
  rw [trim_eq_iff]
  constructor
  · rintro ⟨⟨before, after, rfl, blank, blank_after⟩, _⟩
    rw [List.append_nil, List.forall_mem_append]
    exact ⟨blank, blank_after⟩
  · intro blank
    exact ⟨⟨text, [], by simp, blank, by simp⟩, ⟨by simp, by simp⟩⟩

theorem trim_of_not_isBlank {text : List Char} (sharp : ∀ c ∈ text, isBlank c = false) :
    trim text = text := by
  apply trim_eq_self_iff.2
  constructor
  · intro c first
    exact sharp c (List.mem_of_mem_head? first)
  · intro c last
    exact sharp c (List.mem_of_getLast? last)

end LocaleStaging
