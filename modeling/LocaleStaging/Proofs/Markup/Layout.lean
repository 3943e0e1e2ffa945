import LocaleStaging.Proofs.Markup.Attribute
import LocaleStaging.Proofs.Markup.Tag
import LocaleStaging.Text.Ranges

namespace LocaleStaging.Markup

/-! ## Names and white space -/

def nameStarts : List (Nat × Nat) :=
  [(0x3A, 0x3A), (0x41, 0x5A), (0x5F, 0x5F), (0x61, 0x7A), (0xC0, 0xD6), (0xD8, 0xF6), (0xF8, 0x2FF),
    (0x370, 0x37D), (0x37F, 0x1FFF), (0x200C, 0x200D), (0x2070, 0x218F), (0x2C00, 0x2FEF),
    (0x3001, 0xD7FF), (0xF900, 0xFDCF), (0xFDF0, 0xFFFD), (0x10000, 0xEFFFF)]

def nameOthers : List (Nat × Nat) :=
  [(0x2D, 0x2E), (0x30, 0x39), (0xB7, 0xB7), (0x300, 0x36F), (0x203F, 0x2040)]

def isNameCharacter (c : Char) : Bool := inRanges nameStarts c || inRanges nameOthers c

structure Name where
  first : Char
  others : List Char
  starts : inRanges nameStarts first
  continues : others.all isNameCharacter

def Name.text (name : Name) : String := String.ofList (name.first :: name.others)

def Name.octets (name : Name) : Bytes := Utf8.encode name.text

inductive Blank where
  | space
  | tab
  | lineFeed
  | carriageReturn

def Blank.octet : Blank → UInt8
  | space => ' '.toUInt8
  | tab => '\t'.toUInt8
  | lineFeed => '\n'.toUInt8
  | carriageReturn => '\r'.toUInt8

def blankOctets (blanks : List Blank) : Bytes := blanks.map Blank.octet

theorem Blank.isSpace_octet (blank : Blank) : isSpace blank.octet := by
  cases blank <;> decide

theorem all_isSpace_blankOctets (blanks : List Blank) : (blankOctets blanks).all isSpace := by
  induction blanks with
  | nil => rfl
  | cons blank blanks ih =>
      simp only [blankOctets, List.map_cons, List.all_cons, blank.isSpace_octet, Bool.true_and]
      exact ih

theorem not_mem_blankOctets {octet : UInt8} (foreign : isSpace octet = false) (blanks : List Blank) :
    octet ∉ blankOctets blanks := by
  intro member
  rw [List.all_eq_true.1 (all_isSpace_blankOctets blanks) octet member] at foreign
  cases foreign

namespace Name
variable (name : Name)

theorem not_mem_octets {c : Char} (ascii : c.toNat < 128) (foreign : isNameCharacter c = false) :
    c.toUInt8 ∉ name.octets := by
  intro member
  have within := Utf8.mem_of_mem_encodeChars ascii member
  rw [text, String.toList_ofList] at within
  have named : isNameCharacter c := by
    rcases List.mem_cons.1 within with rfl | other
    · simp [isNameCharacter, name.starts]
    · exact List.all_eq_true.1 name.continues c other
  rw [foreign] at named
  cases named

theorem octets_ne_nil : name.octets ≠ [] := by
  rw [octets, Utf8.encode, text, String.toList_ofList, Utf8.encodeChars_cons]
  simp [String.utf8EncodeChar_ne_nil]

theorem head?_octets_ne {c : Char} (ascii : c.toNat < 128) (foreign : isNameCharacter c = false) :
    name.octets.head? ≠ some c.toUInt8 :=
  fun first => name.not_mem_octets ascii foreign (List.mem_of_head? first)

theorem all_not_isSpace_octets : name.octets.all fun octet => !isSpace octet := by
  rw [List.all_eq_true]
  intro octet member
  simp only [isSpace, Bool.not_eq_true', Bool.or_eq_false_iff, decide_eq_false_iff_not]
  refine ⟨⟨⟨?_, ?_⟩, ?_⟩, ?_⟩
  · rintro rfl
    exact name.not_mem_octets (by decide) (by decide) member
  · rintro rfl
    exact name.not_mem_octets (by decide) (by decide) member
  · rintro rfl
    exact name.not_mem_octets (by decide) (by decide) member
  · rintro rfl
    exact name.not_mem_octets (by decide) (by decide) member

theorem isKey_octets : IsKey name.octets := by
  refine ⟨name.octets_ne_nil, List.all_eq_true.2 ?_⟩
  intro octet member
  have no_space : isSpace octet = false := by
    simpa using List.all_eq_true.1 name.all_not_isSpace_octets octet member
  have no_equals : octet ≠ '='.toUInt8 := by
    rintro rfl
    exact name.not_mem_octets (by decide) (by decide) member
  exact decide_eq_true ⟨no_equals, no_space⟩

theorem enclosed_octets : Enclosed name.octets := by
  apply Enclosed.of_plain
  · exact name.not_mem_octets (by decide) (by decide)
  · exact name.not_mem_octets (by decide) (by decide)
  · exact name.not_mem_octets (by decide) (by decide)

end Name

theorem enclosed_blankOctets (blanks : List Blank) : Enclosed (blankOctets blanks) := by
  apply Enclosed.of_plain
  · exact not_mem_blankOctets (by decide) blanks
  · exact not_mem_blankOctets (by decide) blanks
  · exact not_mem_blankOctets (by decide) blanks

/-! ## Tags -/

inductive Quote where
  | single
  | double

def Quote.octet : Quote → UInt8
  | single => '\''.toUInt8
  | double => '"'.toUInt8

theorem Quote.quotes (quote : Quote) :
    quote.octet = '"'.toUInt8 ∨ quote.octet = '\''.toUInt8 := by
  cases quote with
  | single => exact .inr rfl
  | double => exact .inl rfl

def escapedOctets (value : String) : Bytes := Utf8.encodeChars (escape value.toList)

theorem Quote.not_mem_escapedOctets (quote : Quote) (value : String) :
    quote.octet ∉ escapedOctets value := by
  intro member
  cases quote with
  | single =>
      exact not_mem_escape (by decide) value.toList (Utf8.mem_of_mem_encodeChars (by decide) member)
  | double => exact quote_not_mem_escape value.toList member

structure WrittenAttribute where
  name : Name
  value : String
  gap : Blank
  moreGap : List Blank
  beforeEquals : List Blank
  afterEquals : List Blank
  quote : Quote

namespace WrittenAttribute
variable (entry : WrittenAttribute)

def octets : Bytes :=
  blankOctets (entry.gap :: entry.moreGap) ++ (entry.name.octets ++
    (blankOctets entry.beforeEquals ++ '='.toUInt8 :: (blankOctets entry.afterEquals ++
      entry.quote.octet :: (escapedOctets entry.value ++ [entry.quote.octet]))))

theorem isAttribute : IsAttribute (blankOctets (entry.gap :: entry.moreGap))
    entry.name.octets (blankOctets entry.beforeEquals) (blankOctets entry.afterEquals)
    (escapedOctets entry.value) entry.quote.octet where
  isKey := entry.name.isKey_octets
  gap_spaces := all_isSpace_blankOctets _
  before_spaces := all_isSpace_blankOctets _
  after_spaces := all_isSpace_blankOctets _
  quotes := entry.quote.quotes
  free := entry.quote.not_mem_escapedOctets entry.value

theorem attributesFrom_octets {keys : Keys} (fresh : entry.name.octets ∉ keys.map Prod.fst)
    (position : Nat) (rest : Bytes) :
    ∃ start next, attributesFrom keys position .between (entry.octets ++ rest) =
      .ok ⟨entry.name.octets, escapedOctets entry.value⟩ ::
        attributesFrom (keys ++ [(entry.name.octets, start)]) next .between rest := by
  obtain ⟨next, found⟩ := attributesFrom_attribute entry.isAttribute fresh position rest
  refine ⟨_, next, Eq.trans ?_ found⟩
  simp [octets]

theorem enclosed_octets : Enclosed entry.octets := by
  have quoted := Enclosed.of_quoted entry.quote.quotes
    (entry.quote.not_mem_escapedOctets entry.value)
  have equals : Enclosed ['='.toUInt8] := by decide
  have after := (enclosed_blankOctets entry.afterEquals).append quoted
  have before := (enclosed_blankOctets entry.beforeEquals).append (equals.append after)
  exact (enclosed_blankOctets _).append (entry.name.enclosed_octets.append before)

theorem last_octets : ∃ before, entry.octets = before ++ [entry.quote.octet] := by
  refine ⟨blankOctets (entry.gap :: entry.moreGap) ++ (entry.name.octets ++
    (blankOctets entry.beforeEquals ++ '='.toUInt8 :: (blankOctets entry.afterEquals ++
      entry.quote.octet :: escapedOctets entry.value))), ?_⟩
  simp [octets]

end WrittenAttribute

structure StartTag where
  name : Name
  attributes : List WrittenAttribute
  distinct : (attributes.map fun entry => entry.name.text).Nodup
  blanks : List Blank

def valueIn (attributes : List WrittenAttribute) (key : String) : Option String :=
  (attributes.find? fun entry => entry.name.text = key).map WrittenAttribute.value

theorem findValue_attributes {attributes : List WrittenAttribute}
    (distinct : (attributes.map fun entry => entry.name.text).Nodup) {keys : Keys}
    (fresh : ∀ entry ∈ attributes, entry.name.octets ∉ keys.map Prod.fst) (position : Nat)
    (blanks : List Blank) (key : String) :
    findValue (Utf8.encode key) (attributesFrom keys position .between
        (attributes.flatMap WrittenAttribute.octets ++ blankOctets blanks)) =
      .ok (valueIn attributes key) := by
  induction attributes generalizing keys position with
  | nil =>
      have waits (keys : Keys) (position : Nat) (octet : UInt8) (space : isSpace octet) :
          stepAttribute keys position .between octet = ⟨[], .between, keys⟩ := by
        simp [stepAttribute, space]
      have passed := attributesFrom_spaces waits (all_isSpace_blankOctets blanks) keys position []
      rw [List.flatMap_nil, List.nil_append, ← List.append_nil (blankOctets blanks), passed]
      rfl
  | cons entry attributes ih =>
      obtain ⟨other, later⟩ := List.nodup_cons.1 distinct
      obtain ⟨start, next, found⟩ := entry.attributesFrom_octets
        (fresh entry List.mem_cons_self) position
        (attributes.flatMap WrittenAttribute.octets ++ blankOctets blanks)
      rw [List.flatMap_cons, List.append_assoc, found, findValue]
      by_cases same : entry.name.text = key
      · subst same
        have read : readValue (escapedOctets entry.value) = .ok entry.value :=
          readValue_escape entry.value
        have named : entry.name.octets = Utf8.encode entry.name.text := rfl
        simp only [named, if_true, read]
        simp [valueIn, Except.map]
      · have apart : entry.name.octets ≠ Utf8.encode key :=
          fun equal => same (Utf8.encode_injective equal)
        have unseen : ∀ following ∈ attributes, following.name.octets ∉
            (keys ++ [(entry.name.octets, start)]).map Prod.fst := by
          intro following listed known
          rw [List.map_append, List.mem_append] at known
          rcases known with earlier | here
          · exact fresh following (List.mem_cons_of_mem entry listed) earlier
          · have equal := Utf8.encode_injective (List.mem_singleton.1 here)
            exact other (List.mem_map.2 ⟨following, listed, equal⟩)
        rw [if_neg apart, ih later unseen]
        simp [valueIn, same]

namespace StartTag
variable (tag : StartTag)

def layout : Bytes := tag.attributes.flatMap WrittenAttribute.octets ++ blankOctets tag.blanks

def octets : Bytes := tag.name.octets ++ tag.layout

def value? (key : String) : Option String := valueIn tag.attributes key

theorem isSpace_of_head?_layout {octet : UInt8} (first : tag.layout.head? = some octet) :
    isSpace octet = true := by
  obtain ⟨name, attributes, distinct, blanks⟩ := tag
  cases attributes with
  | nil =>
      have member : octet ∈ blankOctets blanks := List.mem_of_head? first
      exact List.all_eq_true.1 (all_isSpace_blankOctets blanks) octet member
  | cons entry attributes =>
      obtain rfl : entry.gap.octet = octet := by
        simpa [layout, WrittenAttribute.octets, blankOctets] using first
      exact entry.gap.isSpace_octet

theorem nameOf_octets : nameOf tag.octets = tag.name.octets :=
  nameOf_append tag.name.all_not_isSpace_octets fun _ => tag.isSpace_of_head?_layout

theorem findValue_octets (key : String) :
    findValue (Utf8.encode key) (attributesOf tag.octets) = .ok (tag.value? key) := by
  rw [octets, attributesOf_append tag.name.all_not_isSpace_octets
    fun _ => tag.isSpace_of_head?_layout]
  exact findValue_attributes tag.distinct (by simp) _ tag.blanks key

theorem octets_ne_nil : tag.octets ≠ [] :=
  fun bare => tag.name.octets_ne_nil (List.append_eq_nil_iff.1 bare).1

theorem enclosed_octets : Enclosed tag.octets := by
  have attributes : Enclosed (tag.attributes.flatMap WrittenAttribute.octets) := by
    generalize tag.attributes = attributes
    induction attributes with
    | nil => rfl
    | cons entry attributes ih => exact entry.enclosed_octets.append ih
  exact tag.name.enclosed_octets.append (attributes.append (enclosed_blankOctets tag.blanks))

theorem head?_octets_append_ne {c : Char} (ascii : c.toNat < 128)
    (foreign : isNameCharacter c = false) (rest : Bytes) :
    (tag.octets ++ rest).head? ≠ some c.toUInt8 := by
  have other := tag.name.head?_octets_ne ascii foreign
  obtain ⟨first, following, written⟩ := List.exists_cons_of_ne_nil tag.name.octets_ne_nil
  rw [written] at other
  rw [octets, written]
  exact other

theorem getLast?_octets_ne : tag.octets.getLast? ≠ some '/'.toUInt8 := by
  intro slash
  rcases List.eq_nil_or_concat tag.blanks with none | ⟨blanks, last, some'⟩
  · rcases List.eq_nil_or_concat tag.attributes with bare | ⟨attributes, last, listed⟩
    · have member : '/'.toUInt8 ∈ tag.name.octets :=
        List.mem_of_getLast? (by simpa [octets, layout, none, bare, blankOctets] using slash)
      exact tag.name.not_mem_octets (by decide) (by decide) member
    · obtain ⟨before, written⟩ := last.last_octets
      have mark : last.quote.octet = '/'.toUInt8 := by
        simpa [octets, layout, none, listed, blankOctets, written] using slash
      rcases last.quote.quotes with double | single
      · exact absurd (double.symm.trans mark) (by decide)
      · exact absurd (single.symm.trans mark) (by decide)
  · have space : last.octet = '/'.toUInt8 := by
      simpa [octets, layout, some', blankOctets] using slash
    exact absurd (space ▸ last.isSpace_octet) (by decide)

theorem tagsFrom_opening (rest : Bytes) :
    tagsFrom .text ('<'.toUInt8 :: (tag.octets ++ '>'.toUInt8 :: rest)) =
      .ok (.opening tag.octets) :: tagsFrom .text rest := by
  have first {c : Char} (ascii : c.toNat < 128) (foreign : isNameCharacter c = false) :
      tag.octets.head? ≠ some c.toUInt8 := by
    have other := tag.head?_octets_append_ne ascii foreign []
    rwa [List.append_nil] at other
  have opening : Tag.ofContent tag.octets = .opening tag.octets :=
    ofContent_opening (first (by decide) (by decide)) tag.getLast?_octets_ne
  rw [← opening, ← tagsFrom_tag tag.enclosed_octets (first (by decide) (by decide))
    (first (by decide) (by decide))]
  rfl

theorem tagsFrom_selfClosing (rest : Bytes) :
    tagsFrom .text ('<'.toUInt8 :: (tag.octets ++ '/'.toUInt8 :: '>'.toUInt8 :: rest)) =
      .ok (.selfClosing tag.octets) :: tagsFrom .text rest := by
  have first {c : Char} (ascii : c.toNat < 128) (foreign : isNameCharacter c = false) (more : Bytes) :
      (tag.octets ++ more).head? ≠ some c.toUInt8 := tag.head?_octets_append_ne ascii foreign more
  have slash : tag.octets.head? ≠ some '/'.toUInt8 := by
    have other := first (c := '/') (by decide) (by decide) []
    rwa [List.append_nil] at other
  have closes : Tag.ofContent (tag.octets ++ ['/'.toUInt8]) = .selfClosing tag.octets :=
    ofContent_selfClosing tag.octets_ne_nil slash
  have enclosed : Enclosed (tag.octets ++ ['/'.toUInt8]) := tag.enclosed_octets.append (by decide)
  rw [← closes, ← tagsFrom_tag enclosed (first (by decide) (by decide) _)
    (first (by decide) (by decide) _)]
  simp

end StartTag

def endOctets (name : Name) (blanks : List Blank) : Bytes :=
  '/'.toUInt8 :: (name.octets ++ blankOctets blanks)

theorem cutSpaceAtEnd_append {octets spaces : Bytes} (filled : octets ≠ [])
    (bare : octets.all fun octet => !isSpace octet) (all : spaces.all isSpace) :
    cutSpaceAtEnd (octets ++ spaces) = octets := by
  obtain ⟨before, last, rfl⟩ := (List.eq_nil_or_concat octets).resolve_left filled
  have sharp : isSpace last = false := by
    simpa using List.all_eq_true.1 bare last (by simp)
  have some' : ((before ++ [last]) ++ spaces).all isSpace = false := by
    simp [sharp]
  have turned : ∀ octet ∈ spaces.reverse, isSpace octet := by
    intro octet member
    exact List.all_eq_true.1 all octet (List.mem_reverse.1 member)
  rw [List.concat_eq_append, cutSpaceAtEnd, some']
  simp only [Bool.false_eq_true, if_false]
  rw [List.reverse_append, List.dropWhile_append_of_pos turned, List.reverse_concat,
    List.dropWhile_cons_of_neg (by simp [sharp])]
  simp

theorem tagsFrom_closing (name : Name) (blanks : List Blank) (rest : Bytes) :
    tagsFrom .text ('<'.toUInt8 :: (endOctets name blanks ++ '>'.toUInt8 :: rest)) =
      .ok (.closing name.octets) :: tagsFrom .text rest := by
  have slash : Enclosed ['/'.toUInt8] := by decide
  have enclosed : Enclosed (endOctets name blanks) :=
    slash.append (name.enclosed_octets.append (enclosed_blankOctets blanks))
  have closes : Tag.ofContent (endOctets name blanks) = .closing name.octets := by
    simp only [endOctets, Tag.ofContent, if_true]
    rw [cutSpaceAtEnd_append name.octets_ne_nil name.all_not_isSpace_octets
      (all_isSpace_blankOctets blanks)]
  have first : (endOctets name blanks).head? = some '/'.toUInt8 := rfl
  rw [← closes, ← tagsFrom_tag enclosed (by rw [first]; decide) (by rw [first]; decide)]
  rfl

end LocaleStaging.Markup
