import LocaleStaging.Text.Blank
import LocaleStaging.Text.Segments

namespace LocaleStaging

/-- A text that can stand as a tag: not empty, no comma, no white space at its ends. -/
structure IsTag (tag : String) : Prop where
  ne_empty : tag.toList ≠ []
  no_comma : ',' ∉ tag.toList
  trimmed : trim tag.toList = tag.toList

structure LocaleList where
  tags : List String
  isTag : ∀ tag ∈ tags, IsTag tag
deriving DecidableEq

namespace LocaleList

def empty : LocaleList := ⟨[], by simp⟩

instance : Inhabited LocaleList := ⟨empty⟩

def tagsOf (text : List Char) : List (List Char) :=
  ((segments ',' text).map trim).filter fun tag => !tag.isEmpty

theorem mem_trim_of_mem {c : Char} {text : List Char} (member : c ∈ trim text) : c ∈ text := by
  obtain ⟨blanks, split⟩ := trimEnd_append (trimStart text)
  refine (List.dropWhile_sublist isBlank).subset (?_ : c ∈ trimStart text)
  rw [split]
  exact List.mem_append_left _ member

/-- Reads tags between commas. Blank segments are left out. -/
def ofTags (text : String) : LocaleList where
  tags := (tagsOf text.toList).map String.ofList
  isTag := by
    intro tag listed
    obtain ⟨chars, kept, rfl⟩ := List.mem_map.1 listed
    obtain ⟨trimmed, filled⟩ := List.mem_filter.1 kept
    obtain ⟨segment, cut, rfl⟩ := List.mem_map.1 trimmed
    refine ⟨?_, ?_, ?_⟩
    · simpa using filled
    · rw [String.toList_ofList]
      exact fun comma => not_mem_of_mem_segments cut (mem_trim_of_mem comma)
    · rw [String.toList_ofList, trim_trim]

def toTags (list : LocaleList) : String := ",".intercalate list.tags

def size (list : LocaleList) : Nat := list.tags.length

def isEmpty (list : LocaleList) : Bool := list.tags.isEmpty

instance : ToString LocaleList := ⟨toTags⟩

end LocaleList
end LocaleStaging
