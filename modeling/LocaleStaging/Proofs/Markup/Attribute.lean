import LocaleStaging.Markup.Attribute
import LocaleStaging.Proofs.Markup.Reference
import LocaleStaging.Proofs.Text.Octet

namespace LocaleStaging.Markup

def isOrdinary (octet : UInt8) : Bool := octet ≠ '='.toUInt8 ∧ isSpace octet = false

structure IsKey (key : Bytes) : Prop where
  ne_empty : key ≠ []
  ordinary : key.all isOrdinary

theorem attributesFrom_cons (keys : Keys) (position : Nat) (state : AttributeState) (octet : UInt8)
    (rest : Bytes) :
    attributesFrom keys position state (octet :: rest) =
      (stepAttribute keys position state octet).found ++
        attributesFrom (stepAttribute keys position state octet).keys (position + 1)
          (stepAttribute keys position state octet).next rest := rfl

theorem attributesFrom_key {chunk : Bytes} (ordinary : chunk.all isOrdinary) (keys : Keys)
    (position start : Nat) (seen rest : Bytes) :
    attributesFrom keys position (.key start seen) (chunk ++ rest) =
      attributesFrom keys (position + chunk.length) (.key start (chunk.reverse ++ seen)) rest := by
  induction chunk generalizing position seen with
  | nil => rfl
  | cons octet chunk ih =>
      obtain ⟨here, later⟩ := Bool.and_eq_true_iff.1 ordinary
      obtain ⟨no_equals, no_space⟩ := of_decide_eq_true here
      rw [List.cons_append, attributesFrom_cons]
      simp only [stepAttribute, no_equals, no_space, if_false, List.nil_append, Bool.false_eq_true]
      rw [ih later]
      simp [Nat.add_assoc, Nat.add_comm 1]

theorem attributesFrom_value {mark : UInt8} {value : Bytes} (free : mark ∉ value) (keys : Keys)
    (position : Nat) (key seen rest : Bytes) :
    attributesFrom keys position (.value key mark seen) (value ++ rest) =
      attributesFrom keys (position + value.length) (.value key mark (value.reverse ++ seen))
        rest := by
  induction value generalizing position seen with
  | nil => rfl
  | cons octet value ih =>
      have other : octet ≠ mark := fun same => free (same ▸ List.mem_cons_self)
      rw [List.cons_append, attributesFrom_cons]
      simp only [stepAttribute, other, if_false, List.nil_append]
      rw [ih fun member => free (List.mem_cons_of_mem octet member)]
      simp [Nat.add_assoc, Nat.add_comm 1]

theorem attributesFrom_spaces {state : AttributeState}
    (waits : ∀ keys position octet, isSpace octet →
      stepAttribute keys position state octet = ⟨[], state, keys⟩)
    {spaces : Bytes} (all : spaces.all isSpace) (keys : Keys) (position : Nat) (rest : Bytes) :
    attributesFrom keys position state (spaces ++ rest) =
      attributesFrom keys (position + spaces.length) state rest := by
  induction spaces generalizing position with
  | nil => rfl
  | cons octet spaces ih =>
      obtain ⟨here, later⟩ := Bool.and_eq_true_iff.1 all
      rw [List.cons_append, attributesFrom_cons, waits keys position octet here]
      simp only [List.nil_append]
      rw [ih later, List.length_cons]
      simp [Nat.add_assoc, Nat.add_comm 1]

theorem attributesFrom_equals {before : Bytes} (spaces : before.all isSpace) (keys : Keys)
    (position start : Nat) (seen rest : Bytes) :
    ∃ next, attributesFrom keys position (.key start seen) (before ++ '='.toUInt8 :: rest) =
      (takeKey keys start seen.reverse).found ++ attributesFrom
        (takeKey keys start seen.reverse).keys next (takeKey keys start seen.reverse).next rest := by
  cases before with
  | nil => exact ⟨position + 1, rfl⟩
  | cons octet before =>
      obtain ⟨here, later⟩ := Bool.and_eq_true_iff.1 spaces
      have not_equals (other : UInt8) (space : isSpace other) : other ≠ '='.toUInt8 := by
        rintro rfl
        cases space
      have waits (keys : Keys) (position : Nat) (other : UInt8) (space : isSpace other) :
          stepAttribute keys position (.equals start seen.reverse) other =
            ⟨[], .equals start seen.reverse, keys⟩ := by
        simp [stepAttribute, not_equals other space, space]
      have entered : stepAttribute keys position (.key start seen) octet =
          ⟨[], .equals start seen.reverse, keys⟩ := by
        simp [stepAttribute, not_equals octet here, here]
      refine ⟨position + 1 + before.length + 1, ?_⟩
      rw [List.cons_append, attributesFrom_cons, entered]
      simp only [List.nil_append]
      rw [attributesFrom_spaces waits later, attributesFrom_cons]
      simp [stepAttribute]

/-- Octets that are an attribute: white space, a key, an equals sign that may stand between white
space, and a value between two marks of one kind. -/
structure IsAttribute (gap key before after value : Bytes) (mark : UInt8) : Prop where
  isKey : IsKey key
  gap_spaces : gap.all isSpace
  before_spaces : before.all isSpace
  after_spaces : after.all isSpace
  quotes : mark = '"'.toUInt8 ∨ mark = '\''.toUInt8
  free : mark ∉ value

theorem IsAttribute.of_plain {key value : Bytes} (isKey : IsKey key) (free : '"'.toUInt8 ∉ value) :
    IsAttribute [' '.toUInt8] key [] [] value '"'.toUInt8 :=
  ⟨isKey, rfl, rfl, rfl, .inl rfl, free⟩

theorem attributesFrom_attribute {gap key before after value : Bytes} {mark : UInt8}
    (isAttribute : IsAttribute gap key before after value mark) {keys : Keys}
    (fresh : key ∉ keys.map Prod.fst) (position : Nat) (rest : Bytes) :
    ∃ next, attributesFrom keys position .between
        (gap ++ (key ++ (before ++ '='.toUInt8 :: (after ++ mark :: (value ++ mark :: rest))))) =
      .ok ⟨key, value⟩ ::
        attributesFrom (keys ++ [(key, position + gap.length)]) next .between rest := by
  obtain ⟨isKey, gap_spaces, before_spaces, after_spaces, quotes, free⟩ := isAttribute
  obtain ⟨first, key, rfl⟩ := List.exists_cons_of_ne_nil isKey.ne_empty
  obtain ⟨here, ordinary⟩ := Bool.and_eq_true_iff.1 isKey.ordinary
  have no_space : isSpace first = false := (of_decide_eq_true here).2
  have unseen : (keys.find? fun earlier => earlier.1 == first :: key) = none := by
    rw [List.find?_eq_none]
    intro earlier listed same
    exact fresh (List.mem_map.2 ⟨earlier, listed, eq_of_beq same⟩)
  have between (keys : Keys) (position : Nat) (octet : UInt8) (space : isSpace octet) :
      stepAttribute keys position .between octet = ⟨[], .between, keys⟩ := by
    simp [stepAttribute, space]
  have entered : stepAttribute keys (position + gap.length) .between first =
      ⟨[], .key (position + gap.length) [first], keys⟩ := by
    simp [stepAttribute, no_space]
  have taken : takeKey keys (position + gap.length) (key.reverse ++ [first]).reverse =
      ⟨[], .quote (first :: key), keys ++ [(first :: key, position + gap.length)]⟩ := by
    simp [takeKey, unseen]
  have waits (keys : Keys) (position : Nat) (octet : UInt8) (space : isSpace octet) :
      stepAttribute keys position (.quote (first :: key)) octet =
        ⟨[], .quote (first :: key), keys⟩ := by
    simp [stepAttribute, space]
  have no_mark : isSpace mark = false := by
    rcases quotes with rfl | rfl <;> decide
  have opened (keys : Keys) (position : Nat) :
      stepAttribute keys position (.quote (first :: key)) mark =
        ⟨[], .value (first :: key) mark [], keys⟩ := by
    simp [stepAttribute, no_mark, quotes]
  obtain ⟨equals, split⟩ := attributesFrom_equals before_spaces keys
    (position + gap.length + 1 + key.length) (position + gap.length) (key.reverse ++ [first])
    (after ++ mark :: (value ++ mark :: rest))
  refine ⟨equals + after.length + 1 + value.length + 1, ?_⟩
  rw [attributesFrom_spaces between gap_spaces, List.cons_append, attributesFrom_cons, entered]
  simp only [List.nil_append]
  rw [attributesFrom_key ordinary, split, taken]
  simp only [List.nil_append]
  rw [attributesFrom_spaces waits after_spaces, attributesFrom_cons, opened]
  simp only [List.nil_append]
  rw [attributesFrom_value free, attributesFrom_cons]
  simp [stepAttribute]

theorem nameOf_append {name : Bytes} (bare : name.all fun octet => !isSpace octet) {rest : Bytes}
    (apart : ∀ octet, rest.head? = some octet → isSpace octet = true) :
    nameOf (name ++ rest) = name := by
  induction name with
  | nil =>
      cases rest with
      | nil => rfl
      | cons octet rest => simp [nameOf, apart octet rfl]
  | cons octet name ih =>
      obtain ⟨here, later⟩ := Bool.and_eq_true_iff.1 bare
      have no_space : isSpace octet = false := by simpa using here
      have read := ih later
      simp only [nameOf] at read ⊢
      simp [no_space, read]

theorem attributesOf_append {name : Bytes} (bare : name.all fun octet => !isSpace octet)
    {rest : Bytes} (apart : ∀ octet, rest.head? = some octet → isSpace octet = true) :
    attributesOf (name ++ rest) = attributesFrom [] name.length .between rest := by
  have whole : nameOf (name ++ rest) = name := nameOf_append bare apart
  simp only [attributesOf, whole, List.drop_left]

/-! ## Values -/

theorem quote_not_mem_escape (text : List Char) :
    '"'.toUInt8 ∉ Utf8.encodeChars (escape text) := fun member =>
  not_mem_escape (by decide) text (Utf8.mem_of_mem_encodeChars (by decide) member)

theorem readValue_escape (text : String) :
    readValue (Utf8.encodeChars (escape text.toList)) = .ok text := by
  have decoded := Utf8.decode_encode (String.ofList (escape text.toList))
  rw [Utf8.encode, String.toList_ofList] at decoded
  simp [readValue, decoded, unescape_escape]

end LocaleStaging.Markup
