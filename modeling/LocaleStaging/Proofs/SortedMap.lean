import LocaleStaging.SortedMap
import Mathlib.Data.List.Induction
import Mathlib.Data.List.Nodup

namespace LocaleStaging.SortedMap

variable {κ α : Type} [Ord κ]

theorem ext_entries {left right : SortedMap κ α} (same : left.entries = right.entries) :
    left = right := by
  cases left
  cases right
  cases same
  rfl

theorem isEmpty_iff {map : SortedMap κ α} : map.isEmpty = true ↔ map = empty := by
  constructor
  · intro bare
    exact ext_entries (List.isEmpty_iff.1 bare)
  · rintro rfl
    rfl

/-! ## Look-up and the listing -/

section Lawful
variable [Std.LawfulEqOrd κ]

theorem get?_eq_some_iff [Std.TransOrd κ] {map : SortedMap κ α} {key : κ} {value : α} :
    map.get? key = some value ↔ (key, value) ∈ map.entries := by
  obtain ⟨entries, increasing⟩ := map
  simp only [get?]
  induction entries with
  | nil => simp
  | cons head rest ih =>
      obtain ⟨first, later⟩ := List.pairwise_cons.1 increasing
      rw [List.find?_cons]
      cases order : compare key head.1 with
      | eq =>
          have same : key = head.1 := Std.LawfulEqOrd.eq_of_compare order
          have absent : (key, value) ∉ rest := by
            intro member
            have below : compare head.1 key = .lt := first _ member
            rw [← same] at below
            simp at below
          simp only [beq_self_eq_true, Option.map_some, Option.some.injEq, List.mem_cons, absent,
            or_false]
          constructor
          · rintro rfl
            rw [same]
          · intro listed
            rw [← listed]
      | lt =>
          have other : key ≠ head.1 := by
            rintro rfl
            simp at order
          have apart : (key, value) ≠ head := fun equal => other (congrArg Prod.fst equal)
          simpa [apart] using ih later
      | gt =>
          have other : key ≠ head.1 := by
            rintro rfl
            simp at order
          have apart : (key, value) ≠ head := fun equal => other (congrArg Prod.fst equal)
          simpa [apart] using ih later

theorem get?_eq_none_iff [Std.TransOrd κ] {map : SortedMap κ α} {key : κ} :
    map.get? key = none ↔ key ∉ map.keys := by
  rw [Option.eq_none_iff_forall_ne_some]
  simp only [ne_eq, get?_eq_some_iff, keys, List.mem_map, Prod.exists, exists_and_right,
    exists_eq_right, not_exists]

theorem get?_insert_of_ne [Std.TransOrd κ] (map : SortedMap κ α) {key query : κ} (value : α)
    (other : query ≠ key) : (map.insert key value).get? query = map.get? query := by
  rw [get?_insert, if_neg]
  exact fun equal => other (Std.LawfulEqOrd.eq_of_compare equal)

theorem get?_erase_of_ne [Std.TransOrd κ] (map : SortedMap κ α) {key query : κ}
    (other : query ≠ key) : (map.erase key).get? query = map.get? query := by
  rw [get?_erase, if_neg]
  exact fun equal => other (Std.LawfulEqOrd.eq_of_compare equal)

@[simp] theorem get?_erase_self [Std.TransOrd κ] (map : SortedMap κ α) (key : κ) :
    (map.erase key).get? key = none := by
  simp [get?_erase]

omit [Std.LawfulEqOrd κ] in
theorem get?_of_erase [Std.TransOrd κ] {map : SortedMap κ α} {key query : κ} {value : α}
    (found : (map.erase key).get? query = some value) : map.get? query = some value := by
  rw [get?_erase] at found
  split at found
  next => cases found
  next => exact found

theorem get?_cons [DecidableEq κ] {entry : κ × α} {rest : List (κ × α)}
    (increasing : Increasing (entry :: rest)) (key : κ) :
    get? ⟨entry :: rest, increasing⟩ key =
      if key = entry.1 then some entry.2
      else get? ⟨rest, (List.pairwise_cons.1 increasing).2⟩ key := by
  simp only [get?, List.find?_cons]
  by_cases same : key = entry.1
  · simp [same]
  · have apart : (compare key entry.1 == .eq) = false :=
      beq_eq_false_iff_ne.2 fun equal => same (Std.LawfulEqOrd.eq_of_compare equal)
    rw [apart, if_neg same]

theorem get?_head [Std.TransOrd κ] {entry : κ × α} {rest : List (κ × α)}
    (increasing : Increasing (entry :: rest)) :
    get? ⟨rest, (List.pairwise_cons.1 increasing).2⟩ entry.1 = none := by
  rw [Option.eq_none_iff_forall_ne_some]
  intro value bound
  have below := (List.pairwise_cons.1 increasing).1 _ (get?_eq_some_iff.1 bound)
  simp at below

theorem get?_filter [Std.TransOrd κ] (map : SortedMap κ α) (keep : κ → α → Bool) (key : κ) :
    (map.filter keep).get? key = (map.get? key).filter (keep key) := by
  ext value
  rw [get?_eq_some_iff, Option.filter_eq_some_iff, get?_eq_some_iff]
  exact List.mem_filter

theorem nodup_of_increasing {entries : List (κ × α)} (increasing : Increasing entries) :
    entries.Nodup := by
  refine List.Pairwise.imp ?_ increasing
  rintro earlier later below rfl
  simp at below

theorem nodup_keys (map : SortedMap κ α) : map.keys.Nodup := by
  refine List.Pairwise.map Prod.fst ?_ map.increasing
  intro earlier later below same
  simp [same] at below

theorem ext_get? [Std.TransOrd κ] {left right : SortedMap κ α}
    (same : ∀ key, left.get? key = right.get? key) : left = right := by
  apply ext_entries
  have members : ∀ entry, entry ∈ left.entries ↔ entry ∈ right.entries := by
    rintro ⟨key, value⟩
    rw [← get?_eq_some_iff, ← get?_eq_some_iff, same key]
  have permuted : left.entries.Perm right.entries :=
    (List.perm_ext_iff_of_nodup (nodup_of_increasing left.increasing)
      (nodup_of_increasing right.increasing)).2 members
  refine List.Perm.eq_of_pairwise ?_ left.increasing right.increasing permuted
  intro earlier later _ _ below above
  exact absurd above (Std.OrientedCmp.not_lt_of_lt below)

theorem erase_comm [Std.TransOrd κ] (map : SortedMap κ α) (first second : κ) :
    (map.erase first).erase second = (map.erase second).erase first := by
  apply ext_get?
  intro key
  simp only [get?_erase]
  split <;> simp

/-! ## Binding one pair after the other -/

omit [Std.LawfulEqOrd κ] in
theorem ofList_concat [Std.TransOrd κ] (pairs : List (κ × α)) (key : κ) (value : α) :
    ofList (pairs ++ [(key, value)]) = (ofList pairs).insert key value := by
  rw [ofList, List.foldl_append]
  rfl

theorem mem_ofList_iff [Std.TransOrd κ] {pairs : List (κ × α)}
    (distinct : (pairs.map Prod.fst).Nodup) (pair : κ × α) :
    pair ∈ (ofList pairs).toList ↔ pair ∈ pairs := by
  obtain ⟨key, value⟩ := pair
  rw [toList, ← get?_eq_some_iff]
  induction pairs using List.reverseRecOn with
  | nil => simp [ofList, empty, get?]
  | append_singleton pairs last ih =>
      rw [List.map_append, List.nodup_append] at distinct
      obtain ⟨before, _, apart⟩ := distinct
      have absent (other : α) : (last.1, other) ∉ pairs := fun member =>
        apart last.1 (List.mem_map.2 ⟨(last.1, other), member, rfl⟩) last.1 (by simp) rfl
      rw [ofList_concat, List.mem_append, List.mem_singleton]
      by_cases same : key = last.1
      · subst same
        rw [get?_insert_self]
        simp only [absent, false_or, Option.some.injEq]
        exact ⟨fun equal => by rw [← equal], fun equal => (congrArg Prod.snd equal).symm⟩
      · rw [get?_insert_of_ne _ _ same, ih before]
        constructor
        · exact .inl
        · intro member
          refine member.resolve_right ?_
          intro equal
          exact same (congrArg Prod.fst equal)

theorem ofList_perm_iff [Std.TransOrd κ] {pairs : List (κ × α)} :
    pairs.Perm (ofList pairs).toList ↔ (pairs.map Prod.fst).Nodup := by
  constructor
  · intro permuted
    exact (permuted.map Prod.fst).nodup_iff.2 (nodup_keys (ofList pairs))
  · intro distinct
    apply (List.perm_ext_iff_of_nodup (List.Nodup.of_map _ distinct)
      (nodup_of_increasing (ofList pairs).increasing)).2
    exact fun pair => (mem_ofList_iff distinct pair).symm

end Lawful

/-! ## Binding keys in order -/

theorem insertEntry_of_last [Std.OrientedOrd κ] (key : κ) (value : α) {entries : List (κ × α)}
    (last : ∀ entry ∈ entries, compare entry.1 key = .lt) :
    insertEntry key value entries = entries ++ [(key, value)] := by
  induction entries with
  | nil => rfl
  | cons head rest ih =>
      have above : compare key head.1 = .gt :=
        Std.OrientedCmp.gt_of_lt (last head List.mem_cons_self)
      simp only [insertEntry, above, List.cons_append]
      rw [ih fun entry member => last entry (List.mem_cons_of_mem head member)]

theorem entries_insert_of_last [Std.TransOrd κ] {map : SortedMap κ α} {key : κ} (value : α)
    (last : ∀ entry ∈ map.entries, compare entry.1 key = .lt) :
    (map.insert key value).entries = map.entries ++ [(key, value)] :=
  insertEntry_of_last key value last

end LocaleStaging.SortedMap
