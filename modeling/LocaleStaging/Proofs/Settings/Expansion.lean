import LocaleStaging.Settings.Expansion

namespace LocaleStaging.Expansion

theorem parts_of_free {text : List Char} (free : '$' ∉ text) :
    parts text = text.map fun c => .plain [c] := by
  induction text with
  | nil => rw [parts, List.map_nil]
  | cons c text ih =>
      obtain ⟨no_dollar, free⟩ := not_or.1 (mt List.mem_cons.2 free)
      rw [parts, if_neg (Ne.symm no_dollar), ih free, List.map_cons]

theorem expandParts_chars (environment : Environment) (text : List Char) :
    expandParts environment (text.map fun c => .plain [c]) = .ok text := by
  induction text with
  | nil => rfl
  | cons c text ih =>
      rw [List.map_cons, expandParts]
      simp only [Part.expand, ih]
      rfl

theorem expand_of_free (environment : Environment) {text : String} (free : '$' ∉ text.toList) :
    expand environment text = .ok (String.ofList (expandTilde environment text.toList)) := by
  rw [expand, parts_of_free free, expandParts_chars]
  simp only [Decidable.em, if_true]

def BeginsAtHome (text : List Char) : Prop := text = ['~'] ∨ ∃ rest, text = '~' :: '/' :: rest

theorem expandTilde_of_not_beginsAtHome (environment : Environment) {text : List Char}
    (away : ¬ BeginsAtHome text) : expandTilde environment text = text := by
  unfold expandTilde
  split
  next rest =>
    rw [if_neg]
    rintro (alone | first)
    · exact away (.inl (by rw [List.isEmpty_iff.1 alone]))
    · cases rest with
      | nil => cases first
      | cons c rest =>
          cases first
          exact away (.inr ⟨rest, rfl⟩)
  next => rfl

structure Settled (text : String) : Prop where
  free : '$' ∉ text.toList
  away : ¬ BeginsAtHome text.toList

theorem expand_of_settled (environment : Environment) {text : String} (settled : Settled text) :
    expand environment text = .ok text := by
  rw [expand_of_free environment settled.free, expandTilde_of_not_beginsAtHome environment settled.away,
    String.ofList_toList]

end LocaleStaging.Expansion
