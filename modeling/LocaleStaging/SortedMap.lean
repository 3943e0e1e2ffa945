namespace LocaleStaging

def Increasing {κ α : Type} [Ord κ] (entries : List (κ × α)) : Prop :=
  entries.Pairwise fun earlier later => compare earlier.1 later.1 = .lt

instance {κ α : Type} [Ord κ] (entries : List (κ × α)) : Decidable (Increasing entries) :=
  inferInstanceAs (Decidable (List.Pairwise _ entries))

structure SortedMap (κ α : Type) [Ord κ] where
  entries : List (κ × α)
  increasing : Increasing entries
deriving DecidableEq

namespace SortedMap

section Entries
variable {κ α : Type} [Ord κ]

def insertEntry (key : κ) (value : α) : List (κ × α) → List (κ × α)
  | [] => [(key, value)]
  | entry :: rest =>
    match compare key entry.1 with
    | .lt => (key, value) :: entry :: rest
    | .eq => (key, value) :: rest
    | .gt => entry :: insertEntry key value rest

theorem mem_insertEntry {key : κ} {value : α} {entries : List (κ × α)} {entry : κ × α}
    (member : entry ∈ insertEntry key value entries) : entry = (key, value) ∨ entry ∈ entries := by
  induction entries with
  | nil => simpa [insertEntry] using member
  | cons head rest ih =>
    simp only [insertEntry] at member
    split at member <;> grind

theorem increasing_insertEntry [Std.TransOrd κ] (key : κ) (value : α) {entries : List (κ × α)}
    (increasing : Increasing entries) : Increasing (insertEntry key value entries) := by
  induction entries with
  | nil => simp [Increasing, insertEntry]
  | cons head rest ih =>
    obtain ⟨first, later⟩ := List.pairwise_cons.1 increasing
    simp only [insertEntry]
    split
    next below =>
      refine List.pairwise_cons.2 ⟨fun entry member => ?_, increasing⟩
      rcases List.mem_cons.1 member with rfl | member
      · exact below
      · exact Std.TransCmp.lt_trans below (first entry member)
    next same =>
      exact List.pairwise_cons.2
        ⟨fun entry member => Std.TransCmp.lt_of_eq_of_lt same (first entry member), later⟩
    next above =>
      refine List.pairwise_cons.2 ⟨fun entry member => ?_, ih later⟩
      rcases mem_insertEntry member with rfl | member
      · exact Std.OrientedCmp.lt_of_gt above
      · exact first entry member

theorem increasing_filter (keep : κ × α → Bool) {entries : List (κ × α)}
    (increasing : Increasing entries) : Increasing (entries.filter keep) :=
  List.Pairwise.filter keep increasing

end Entries

variable {κ α : Type} [Ord κ]

def empty : SortedMap κ α := ⟨[], List.Pairwise.nil⟩

instance : EmptyCollection (SortedMap κ α) := ⟨empty⟩

instance : Inhabited (SortedMap κ α) := ⟨empty⟩

def toList (map : SortedMap κ α) : List (κ × α) := map.entries

def keys (map : SortedMap κ α) : List κ := map.entries.map Prod.fst

def size (map : SortedMap κ α) : Nat := map.entries.length

def isEmpty (map : SortedMap κ α) : Bool := map.entries.isEmpty

def get? (map : SortedMap κ α) (key : κ) : Option α :=
  (map.entries.find? fun entry => compare key entry.1 == .eq).map Prod.snd

def contains (map : SortedMap κ α) (key : κ) : Bool := (map.get? key).isSome

def filter (map : SortedMap κ α) (keep : κ → α → Bool) : SortedMap κ α :=
  ⟨map.entries.filter fun entry => keep entry.1 entry.2, increasing_filter _ map.increasing⟩

def erase (map : SortedMap κ α) (key : κ) : SortedMap κ α :=
  map.filter fun bound _ => compare key bound != .eq

def insert [Std.TransOrd κ] (map : SortedMap κ α) (key : κ) (value : α) : SortedMap κ α :=
  ⟨insertEntry key value map.entries, increasing_insertEntry key value map.increasing⟩

/-- Binds each pair in turn, so a later pair wins over an earlier one with the same key. -/
def ofList [Std.TransOrd κ] (pairs : List (κ × α)) : SortedMap κ α :=
  pairs.foldl (fun map pair => map.insert pair.1 pair.2) empty

/-! ## Look-up -/

section Lookup
variable [Std.TransOrd κ]

theorem find?_insertEntry (key query : κ) (value : α) {entries : List (κ × α)}
    (increasing : Increasing entries) :
    ((insertEntry key value entries).find? fun entry => compare query entry.1 == .eq) =
      if compare query key = .eq then some (key, value)
      else entries.find? fun entry => compare query entry.1 == .eq := by
  induction entries with
  | nil => by_cases same : compare query key = .eq <;> simp [insertEntry, same]
  | cons head rest ih =>
    have later := (List.pairwise_cons.1 increasing).2
    simp only [insertEntry]
    split
    next below => by_cases same : compare query key = .eq <;> simp [List.find?_cons, same]
    next equal =>
      have shift : compare query head.1 = compare query key :=
        (Std.TransCmp.congr_right equal).symm
      by_cases same : compare query key = .eq <;> simp [same, shift]
    next above =>
      by_cases same : compare query key = .eq
      · have shift : compare query head.1 = .gt := (Std.TransCmp.congr_left same).trans above
        simp [shift, ih later, same]
      · simp [List.find?_cons, ih later, same]

theorem get?_insert (map : SortedMap κ α) (key query : κ) (value : α) :
    (map.insert key value).get? query =
      if compare query key = .eq then some value else map.get? query := by
  simp only [get?, insert, find?_insertEntry key query value map.increasing]
  split <;> rfl

@[simp] theorem get?_insert_self (map : SortedMap κ α) (key : κ) (value : α) :
    (map.insert key value).get? key = some value := by
  simp [get?_insert]

theorem get?_erase (map : SortedMap κ α) (key query : κ) :
    (map.erase key).get? query = if compare query key = .eq then none else map.get? query := by
  simp only [get?, erase, filter, List.find?_filter]
  split
  next same =>
    rw [List.find?_eq_none.2]
    · rfl
    · intro entry _
      rw [Std.TransCmp.congr_left same]
      cases compare key entry.1 <;> simp
  next other =>
    congr 2
    funext entry
    cases equal : compare query entry.1 with
    | eq =>
      have : compare key entry.1 ≠ .eq := fun same =>
        other (Std.TransCmp.eq_trans equal (Std.OrientedCmp.eq_symm same))
      simp [this]
    | lt => simp
    | gt => simp

end Lookup

end SortedMap
end LocaleStaging
