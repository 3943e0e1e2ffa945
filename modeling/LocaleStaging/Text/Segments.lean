namespace LocaleStaging

variable {α : Type} [DecidableEq α]

def consFirst (head : α) : List (List α) → List (List α)
  | [] => [[head]]
  | first :: rest => (head :: first) :: rest

def segments (separator : α) : List α → List (List α)
  | [] => [[]]
  | head :: rest =>
    if head = separator then [] :: segments separator rest
    else consFirst head (segments separator rest)

theorem segments_eq_splitOn (separator : α) (list : List α) :
    segments separator list = list.splitOn separator := by
  induction list with
  | nil => rfl
  | cons head rest ih =>
      rw [segments, List.splitOn_cons_eq_if_modifyHead, ih]
      by_cases same : head = separator
      · rw [if_pos same, if_pos (beq_iff_eq.2 same)]
      · rw [if_neg same, if_neg (mt beq_iff_eq.1 same)]
        cases later : rest.splitOn separator with
        | nil => exact absurd later (List.splitOn_ne_nil separator rest)
        | cons first others => rfl

theorem not_mem_of_mem_segments {separator : α} {list segment : List α}
    (member : segment ∈ segments separator list) : separator ∉ segment := by
  induction list generalizing segment with
  | nil => simp_all [segments]
  | cons head rest ih =>
    simp only [segments] at member
    split at member
    next => grind
    next other =>
      cases later : segments separator rest with
      | nil => grind [consFirst]
      | cons first others => grind [consFirst]

end LocaleStaging
