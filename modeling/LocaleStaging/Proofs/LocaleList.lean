import LocaleStaging.LocaleList
import LocaleStaging.Proofs.Text.Trimming
import Mathlib.Data.List.Forall2

namespace LocaleStaging

theorem forall_mem_segments_iff {α : Type} [DecidableEq α] {separator : α} {list : List α}
    {test : α → Prop} : (∀ segment ∈ segments separator list, ∀ c ∈ segment, test c) ↔
      ∀ c ∈ list, c = separator ∨ test c := by
  induction list with
  | nil => simp [segments]
  | cons head rest ih =>
      rw [segments, List.forall_mem_cons, ← ih]
      split
      next same => simp [same]
      next other =>
        cases later : segments separator rest with
        | nil =>
            rw [segments_eq_splitOn] at later
            exact absurd later (List.splitOn_ne_nil separator rest)
        | cons first others => simp [consFirst, other, and_assoc]

namespace LocaleList

theorem eq_empty_of_isEmpty {list : LocaleList} (bare : list.isEmpty = true) : list = .empty := by
  obtain ⟨tags, isTag⟩ := list
  obtain rfl : tags = [] := List.isEmpty_iff.1 bare
  rfl

theorem isEmpty_eq_false_iff {list : LocaleList} : list.isEmpty = false ↔ list ≠ .empty := by
  constructor
  · rintro filled rfl
    cases filled
  · intro filled
    cases bare : list.isEmpty with
    | false => rfl
    | true => exact absurd (eq_empty_of_isEmpty bare) filled

theorem toList_toTags (list : LocaleList) :
    list.toTags.toList = [','].intercalate (list.tags.map String.toList) :=
  String.toList_intercalate

theorem segments_toTags {list : LocaleList} (filled : list ≠ .empty) :
    segments ',' list.toTags.toList = list.tags.map String.toList := by
  rw [segments_eq_splitOn, toList_toTags]
  apply List.splitOn_intercalate
  · intro chars listed
    obtain ⟨tag, member, rfl⟩ := List.mem_map.1 listed
    exact (list.isTag tag member).no_comma
  · intro none
    have bare : list.isEmpty = true := List.isEmpty_iff.2 (List.map_eq_nil_iff.1 none)
    exact filled (eq_empty_of_isEmpty bare)

theorem tagsOf_toTags (list : LocaleList) :
    tagsOf list.toTags.toList = list.tags.map String.toList := by
  by_cases bare : list = .empty
  · subst bare
    rfl
  · rw [tagsOf, segments_toTags bare, List.map_map]
    have trimmed : list.tags.map (trim ∘ String.toList) = list.tags.map String.toList :=
      List.map_congr_left fun tag member => (list.isTag tag member).trimmed
    rw [trimmed, List.filter_eq_self]
    intro chars listed
    obtain ⟨tag, member, rfl⟩ := List.mem_map.1 listed
    simpa using (list.isTag tag member).ne_empty

theorem ofTags_toTags (list : LocaleList) : ofTags list.toTags = list := by
  obtain ⟨tags, isTag⟩ := list
  have read := tagsOf_toTags ⟨tags, isTag⟩
  have back : (tags.map String.toList).map String.ofList = tags := by
    rw [List.map_map]
    exact (List.map_congr_left fun tag _ => String.ofList_toList).trans (List.map_id tags)
  simp only [ofTags, read, back]

theorem toTags_ne_empty {list : LocaleList} (filled : list ≠ .empty) : list.toTags ≠ "" := by
  intro blank
  apply filled
  rw [← ofTags_toTags list, blank]
  rfl

theorem isEmpty_ofTags_iff {text : String} :
    (ofTags text).isEmpty = true ↔ ∀ c ∈ text.toList, c = ',' ∨ isBlank c := by
  have none : (ofTags text).isEmpty = true ↔
      ∀ segment ∈ segments ',' text.toList, trim segment = [] := by
    simp [isEmpty, ofTags, tagsOf]
  rw [none, ← forall_mem_segments_iff]
  exact forall₂_congr fun segment _ => trim_eq_nil_iff

/-! ## The tags of a text -/

theorem tagsOf_eq (text : List Char) :
    tagsOf text = ((text.splitOn ',').filter fun segment => !segment.all isBlank).map trim := by
  have bare (segment : List Char) : (trim segment).isEmpty = segment.all isBlank := by
    rw [Bool.eq_iff_iff, List.isEmpty_iff, trim_eq_nil_iff, List.all_eq_true]
  simp only [tagsOf, segments_eq_splitOn, List.filter_map, Function.comp_def, bare]

theorem trimsTo_tagsOf (text : List Char) :
    List.Forall₂ TrimsTo ((text.splitOn ',').filter fun segment => !segment.all isBlank)
      (tagsOf text) := by
  rw [tagsOf_eq, List.forall₂_map_right_iff, List.forall₂_same]
  exact fun segment _ => trimsTo_trim segment

theorem toList_tags_ofTags (text : String) :
    (ofTags text).tags.map String.toList = tagsOf text.toList := by
  simp [ofTags]

theorem tagsOf_append_comma (first second : List Char) :
    tagsOf (first ++ ',' :: second) = tagsOf first ++ tagsOf second := by
  simp only [tagsOf, segments_eq_splitOn, List.splitOn_append_cons_self, List.map_append,
    List.filter_append]

theorem tags_ofTags_append_comma (first second : String) :
    (ofTags (first ++ "," ++ second)).tags = (ofTags first).tags ++ (ofTags second).tags := by
  have text : (first ++ "," ++ second).toList = first.toList ++ ',' :: second.toList := by
    rw [String.toList_append, String.toList_append, List.append_assoc]
    rfl
  simp only [ofTags, text, tagsOf_append_comma, List.map_append]

theorem toTags_eq_empty_iff {list : LocaleList} : list.toTags = "" ↔ list.isEmpty = true := by
  constructor
  · intro blank
    by_contra filled
    exact toTags_ne_empty (isEmpty_eq_false_iff.1 (Bool.eq_false_iff.2 filled)) blank
  · intro bare
    rw [eq_empty_of_isEmpty bare]
    rfl

/-- The tags of a text can all stand as tags, and are what the segments between its commas are trimmed to,
in their order and without the blank ones. Every list is read back from the text that it is written as, which
is empty only for the empty list. Two texts with a comma between them have the tags of both. -/
theorem text_normalForm :
    (∀ text, (∀ tag ∈ (ofTags text).tags, tag.toList ≠ [] ∧ ',' ∉ tag.toList ∧ Trimmed tag.toList) ∧
      List.Forall₂ TrimsTo ((text.toList.splitOn ',').filter fun segment => !segment.all isBlank)
        ((ofTags text).tags.map String.toList)) ∧
    (∀ list : LocaleList, ofTags list.toTags = list ∧ (list.toTags = "" ↔ list.isEmpty = true)) ∧
    (∀ first second,
      (ofTags (first ++ "," ++ second)).tags = (ofTags first).tags ++ (ofTags second).tags) ∧
    ∀ text, (ofTags (ofTags text).toTags).toTags = (ofTags text).toTags := by
  refine ⟨?_, fun list => ⟨ofTags_toTags list, toTags_eq_empty_iff⟩, tags_ofTags_append_comma, ?_⟩
  · intro text
    constructor
    · intro tag member
      obtain ⟨filled, no_comma, trimmed⟩ := (ofTags text).isTag tag member
      exact ⟨filled, no_comma, trim_eq_self_iff.1 trimmed⟩
    · rw [toList_tags_ofTags]
      exact trimsTo_tagsOf text.toList
  · intro text
    rw [ofTags_toTags]

def wideBlanks : String := "\u3000de-DE\u00a0, \u2003,,ja JP\u0085"

theorem text_normalForm_wideBlanks :
    (ofTags wideBlanks).tags = ["de-DE", "ja JP"] ∧
      "ja JP".toList ≠ [] ∧ ',' ∉ "ja JP".toList ∧ Trimmed "ja JP".toList := by
  have tags : (ofTags wideBlanks).tags = ["de-DE", "ja JP"] := by decide +kernel
  have member : "ja JP" ∈ (ofTags wideBlanks).tags := by simp [tags]
  exact ⟨tags, (text_normalForm.1 wideBlanks).1 "ja JP" member⟩

end LocaleList
end LocaleStaging
