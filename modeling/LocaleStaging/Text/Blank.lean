import LocaleStaging.Text.Ranges

namespace LocaleStaging

def blankRanges : List (Nat × Nat) :=
  [(0x9, 0xD), (0x20, 0x20), (0x85, 0x85), (0xA0, 0xA0), (0x1680, 0x1680), (0x2000, 0x200A),
   (0x2028, 0x2029), (0x202F, 0x202F), (0x205F, 0x205F), (0x3000, 0x3000)]

def isBlank (c : Char) : Bool := inRanges blankRanges c

def trimStart (text : List Char) : List Char := text.dropWhile isBlank

def trimEnd (text : List Char) : List Char := (text.reverse.dropWhile isBlank).reverse

def trim (text : List Char) : List Char := trimEnd (trimStart text)

theorem dropWhile_idem {α : Type} (test : α → Bool) (list : List α) :
    (list.dropWhile test).dropWhile test = list.dropWhile test := by
  induction list with
  | nil => rfl
  | cons head rest ih =>
    by_cases passes : test head = true
    · simp [passes, ih]
    · simp [passes]

theorem trimEnd_trimEnd (text : List Char) : trimEnd (trimEnd text) = trimEnd text := by
  simp [trimEnd, dropWhile_idem]

theorem trimEnd_append (text : List Char) : ∃ blanks, text = trimEnd text ++ blanks := by
  refine ⟨(text.reverse.takeWhile isBlank).reverse, ?_⟩
  rw [trimEnd, ← List.reverse_append, List.takeWhile_append_dropWhile, List.reverse_reverse]

theorem trimStart_eq_self_iff {text : List Char} :
    trimStart text = text ↔ ∀ c, text.head? = some c → isBlank c = false := by
  cases text with
  | nil => simp [trimStart]
  | cons head rest =>
    simp only [trimStart, List.dropWhile_cons, List.head?_cons, Option.some.injEq, forall_eq']
    cases blank : isBlank head with
    | false => simp
    | true =>
      simp only [if_true, Bool.true_eq_false, iff_false]
      intro same
      have shorter := congrArg List.length same
      have bound := (List.dropWhile_sublist (l := rest) isBlank).length_le
      simp at shorter
      omega

theorem trimStart_trimStart (text : List Char) : trimStart (trimStart text) = trimStart text :=
  dropWhile_idem isBlank text

theorem trimStart_trim (text : List Char) : trimStart (trim text) = trim text := by
  rw [trimStart_eq_self_iff]
  intro c first
  obtain ⟨blanks, split⟩ := trimEnd_append (trimStart text)
  refine trimStart_eq_self_iff.1 (trimStart_trimStart text) c ?_
  rw [split, List.head?_append, show trimEnd (trimStart text) = trim text from rfl, first]
  rfl

theorem trim_trim (text : List Char) : trim (trim text) = trim text := by
  conv => lhs; rw [trim, trimStart_trim]
  exact trimEnd_trimEnd _

end LocaleStaging
