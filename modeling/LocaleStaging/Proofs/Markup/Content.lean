import LocaleStaging.Proofs.Markup.Layout

namespace LocaleStaging.Markup

structure Passed (ending : Bytes) where
  octets : Bytes
  free : ¬ending ++ ['>'.toUInt8] <:+: octets

def Passed.plain {ending : Bytes} (octets : Bytes) (free : '>'.toUInt8 ∉ octets) : Passed ending :=
  ⟨octets, not_infix_of_not_mem free⟩

/-- What stands between the tags of an element: text, comments, character data, instructions and
elements, in any order. Each is followed by the rest of the content. -/
inductive Content where
  | done
  | text (octets : Bytes) (free : '<'.toUInt8 ∉ octets) (rest : Content)
  | comment (passed : Passed (Utf8.encode "--")) (rest : Content)
  | data (passed : Passed (Utf8.encode "]]")) (rest : Content)
  | instruction (target : Name) (passed : Passed ['?'.toUInt8]) (rest : Content)
  | emptyElement (tag : StartTag) (rest : Content)
  | element (tag : StartTag) (inside : Content) (endBlanks : List Blank) (rest : Content)

def asideOctets (lead : Bytes) {ending : Bytes} (passed : Passed ending) : Bytes :=
  '<'.toUInt8 :: (lead ++ (passed.octets ++ (ending ++ ['>'.toUInt8])))

theorem tagsFrom_asideOctets {kind : Aside} {lead ending : Bytes} (frame : Frame kind lead ending)
    (passed : Passed ending) (rest : Bytes) :
    tagsFrom .text (asideOctets lead passed ++ rest) = tagsFrom .text rest := by
  rw [← tagsFrom_aside frame passed.free rest]
  simp [asideOctets]

theorem Name.frame (target : Name) :
    Frame .instruction ('?'.toUInt8 :: target.octets) ['?'.toUInt8] :=
  frame_instruction target.octets_ne_nil (target.not_mem_octets (by decide) (by decide))
    (target.not_mem_octets (by decide) (by decide))

namespace Content

def octets : Content → Bytes
  | done => []
  | text octets _ rest => octets ++ rest.octets
  | comment passed rest => asideOctets (Utf8.encode "!--") passed ++ rest.octets
  | data passed rest => asideOctets (Utf8.encode "![CDATA[") passed ++ rest.octets
  | instruction target passed rest =>
    asideOctets ('?'.toUInt8 :: target.octets) passed ++ rest.octets
  | emptyElement tag rest =>
    '<'.toUInt8 :: (tag.octets ++ '/'.toUInt8 :: '>'.toUInt8 :: rest.octets)
  | element tag inside endBlanks rest =>
    '<'.toUInt8 :: (tag.octets ++ '>'.toUInt8 :: (inside.octets ++
      '<'.toUInt8 :: (endOctets tag.name endBlanks ++ '>'.toUInt8 :: rest.octets)))

def tags : Content → List Tag
  | done => []
  | text _ _ rest => rest.tags
  | comment _ rest => rest.tags
  | data _ rest => rest.tags
  | instruction _ _ rest => rest.tags
  | emptyElement tag rest => .selfClosing tag.octets :: rest.tags
  | element tag inside _ rest =>
    .opening tag.octets :: (inside.tags ++ .closing tag.name.octets :: rest.tags)

def children : Content → List StartTag
  | done => []
  | text _ _ rest => rest.children
  | comment _ rest => rest.children
  | data _ rest => rest.children
  | instruction _ _ rest => rest.children
  | emptyElement tag rest => tag :: rest.children
  | element tag _ _ rest => tag :: rest.children

end Content

theorem tagsFrom_content (content : Content) (rest : Bytes) :
    tagsFrom .text (content.octets ++ rest) = content.tags.map .ok ++ tagsFrom .text rest := by
  induction content generalizing rest with
  | done => rfl
  | text octets free following ih =>
      rw [Content.octets, List.append_assoc, tagsFrom_text free]
      exact ih rest
  | comment passed following ih =>
      rw [Content.octets, List.append_assoc, tagsFrom_asideOctets frame_comment]
      exact ih rest
  | data passed following ih =>
      rw [Content.octets, List.append_assoc, tagsFrom_asideOctets frame_data]
      exact ih rest
  | instruction target passed following ih =>
      rw [Content.octets, List.append_assoc, tagsFrom_asideOctets target.frame]
      exact ih rest
  | emptyElement tag following ih =>
      have found := tag.tagsFrom_selfClosing (following.octets ++ rest)
      rw [ih] at found
      simpa [Content.octets, Content.tags] using found
  | element tag inside endBlanks following inner outer =>
      have closing := tagsFrom_closing tag.name endBlanks (following.octets ++ rest)
      rw [outer] at closing
      have opening := tag.tagsFrom_opening (inside.octets ++ '<'.toUInt8 ::
        (endOctets tag.name endBlanks ++ '>'.toUInt8 :: (following.octets ++ rest)))
      rw [inner, closing] at opening
      simpa [Content.octets, Content.tags] using opening

/-! ## Before the first element -/

structure Doctype where
  gap : Blank
  moreGap : List Blank
  name : Name
  inside : Bytes

namespace Doctype
variable (doctype : Doctype)

def lead : Bytes :=
  Utf8.encode "!DOCTYPE" ++ (blankOctets (doctype.gap :: doctype.moreGap) ++ doctype.name.octets)

def octets : Bytes := '<'.toUInt8 :: (doctype.lead ++ (doctype.inside ++ ['>'.toUInt8]))

/-- Whether the brackets match, in the sense that the first closing bracket without an opening one
ends the document type: from there on, no element is begun. -/
def Matched : Prop :=
  ∃ left : Content, afterBracket 0 (doctype.inside ++ ['>'.toUInt8]) = some left.octets ∧
    left.tags = []

theorem sound_lead (content : Bytes) : Aside.doctype.fault? (doctype.lead ++ content) = none := by
  have word : (Utf8.encode "!DOCTYPE").map upper = Utf8.encode "!DOCTYPE" := by decide
  have begins : (Utf8.encode "!DOCTYPE").isPrefixOf ((doctype.lead ++ content).map upper) := by
    simp only [lead, List.append_assoc, List.map_append, word]
    exact List.isPrefixOf_iff_prefix.2 (List.prefix_append _ _)
  have length : (Utf8.encode "!DOCTYPE").length = 8 := by decide
  have dropped : (doctype.lead ++ content).drop 8 =
      blankOctets (doctype.gap :: doctype.moreGap) ++ (doctype.name.octets ++ content) := by
    rw [lead, List.append_assoc, List.append_assoc, ← length, List.drop_left]
  have named : ((doctype.lead ++ content).drop 8).all isSpace = false := by
    obtain ⟨first, following, written⟩ := List.exists_cons_of_ne_nil doctype.name.octets_ne_nil
    have sharp : isSpace first = false := by
      simpa using List.all_eq_true.1 doctype.name.all_not_isSpace_octets first (by simp [written])
    rw [dropped, written]
    simp [sharp]
  rw [Aside.fault?, if_pos begins, named]
  rfl

theorem not_mem_lead {c : Char} (ascii : c.toNat < 128) (foreign : isNameCharacter c = false)
    (no_space : isSpace c.toUInt8 = false) (no_word : c.toUInt8 ∉ Utf8.encode "!DOCTYPE") :
    c.toUInt8 ∉ doctype.lead := by
  simp only [lead, List.mem_append, not_or]
  exact ⟨no_word, not_mem_blankOctets no_space _, doctype.name.not_mem_octets ascii foreign⟩

end Doctype

theorem tagsFrom_doctype_octets (doctype : Doctype) (rest : Bytes) :
    tagsFrom .text (doctype.octets ++ rest) =
      match afterBracket 0 (doctype.inside ++ '>'.toUInt8 :: rest) with
      | none => [.error (.malformed .unclosedDoctype)]
      | some left => tagsFrom .text left := by
  have no_greater : '>'.toUInt8 ∉ doctype.lead :=
    doctype.not_mem_lead (by decide) (by decide) (by decide) (by decide)
  have no_less : '<'.toUInt8 ∉ doctype.lead :=
    doctype.not_mem_lead (by decide) (by decide) (by decide) (by decide)
  obtain ⟨name, split⟩ : ∃ name, doctype.lead = '!'.toUInt8 :: 'D'.toUInt8 :: name :=
    ⟨Utf8.encode "OCTYPE" ++ (blankOctets (doctype.gap :: doctype.moreGap) ++ doctype.name.octets),
      rfl⟩
  have entered (following : Bytes) :
      tagsFrom .text ('<'.toUInt8 :: (doctype.lead ++ following)) =
        tagsFrom (.aside .doctype doctype.lead.reverse) following := by
    have unclosed : ∀ before after, name = before ++ '>'.toUInt8 :: after →
        Aside.doctype.closes (before.reverse ++ ['D'.toUInt8, '!'.toUInt8]) = false := by
      rintro before after rfl
      exact absurd (split ▸ by simp) no_greater
    have declared : tagsFrom .text ('<'.toUInt8 :: '!'.toUInt8 :: 'D'.toUInt8 :: (name ++ following)) =
        tagsFrom (.aside .doctype ['D'.toUInt8, '!'.toUInt8]) (name ++ following) := rfl
    have within := tagsFrom_aside_within unclosed following
    rw [← declared] at within
    rw [split]
    simpa using within
  have opened : doctype.lead.reverse.count '<'.toUInt8 = doctype.lead.reverse.count '>'.toUInt8 + 0 := by
    rw [List.count_reverse, List.count_reverse, List.count_eq_zero.2 no_less,
      List.count_eq_zero.2 no_greater]
  rw [Doctype.octets, List.cons_append, List.append_assoc, entered, List.append_assoc,
    List.singleton_append]
  exact tagsFrom_doctype doctype.sound_lead (by simp) opened

theorem Doctype.Matched.tagsFrom_octets {doctype : Doctype} (matched : doctype.Matched) (rest : Bytes) :
    tagsFrom .text (doctype.octets ++ rest) = tagsFrom .text rest := by
  obtain ⟨left, closed, bare⟩ := matched
  have whole := afterBracket_append closed rest
  rw [List.append_assoc, List.singleton_append] at whole
  rw [tagsFrom_doctype_octets, whole]
  simp only [tagsFrom_content, bare]
  rfl

/-- What can stand before the first element. A declaration is an instruction. -/
inductive Misc where
  | blank (given : Blank)
  | comment (passed : Passed (Utf8.encode "--"))
  | instruction (target : Name) (passed : Passed ['?'.toUInt8])
  | doctype (given : Doctype)

namespace Misc

def octets : Misc → Bytes
  | blank given => [given.octet]
  | comment passed => asideOctets (Utf8.encode "!--") passed
  | instruction target passed => asideOctets ('?'.toUInt8 :: target.octets) passed
  | doctype given => given.octets

def Matched : Misc → Prop
  | doctype given => given.Matched
  | _ => True

theorem tagsFrom_octets {part : Misc} (matched : part.Matched) (rest : Bytes) :
    tagsFrom .text (part.octets ++ rest) = tagsFrom .text rest := by
  cases part with
  | blank given => exact tagsFrom_text (not_mem_blankOctets (by decide) [given]) rest
  | comment passed => exact tagsFrom_asideOctets frame_comment passed rest
  | instruction target passed => exact tagsFrom_asideOctets target.frame passed rest
  | doctype given => exact Doctype.Matched.tagsFrom_octets matched rest

theorem head?_octets (part : Misc) :
    part.octets.head? = some '<'.toUInt8 ∨ ∃ blank : Blank, part.octets.head? = some blank.octet := by
  cases part with
  | blank given => exact .inr ⟨given, rfl⟩
  | comment passed => exact .inl rfl
  | instruction target passed => exact .inl rfl
  | doctype given => exact .inl rfl

end Misc

def prologOctets (prolog : List Misc) : Bytes := prolog.flatMap Misc.octets

theorem tagsFrom_prolog {prolog : List Misc} (matched : ∀ part ∈ prolog, part.Matched)
    (rest : Bytes) : tagsFrom .text (prologOctets prolog ++ rest) = tagsFrom .text rest := by
  induction prolog with
  | nil => rfl
  | cons part prolog ih =>
      have passed := Misc.tagsFrom_octets (matched part List.mem_cons_self)
        (prologOctets prolog ++ rest)
      rw [ih fun other listed => matched other (List.mem_cons_of_mem part listed)] at passed
      rw [← passed]
      simp [prologOctets]

theorem tags_of_prolog (prolog : List Misc) (rest : Bytes) :
    tags (prologOctets prolog ++ '<'.toUInt8 :: rest) =
      tagsFrom .text (prologOctets prolog ++ '<'.toUInt8 :: rest) := by
  have marked (octet : UInt8) (following : Bytes) (other : octet ≠ 0xEF) :
      byteOrderMark.isPrefixOf (octet :: following) = false := by
    simp [byteOrderMark, List.isPrefixOf, Ne.symm other]
  have unmarked : byteOrderMark.isPrefixOf (prologOctets prolog ++ '<'.toUInt8 :: rest) = false := by
    cases prolog with
    | nil => exact marked _ rest (by decide)
    | cons part prolog =>
        have first := part.head?_octets
        cases written : part.octets with
        | nil => simp [written] at first
        | cons octet following =>
            have other : octet ≠ 0xEF := by
              rw [written] at first
              rintro rfl
              rcases first with less | ⟨blank, space⟩
              · exact absurd (Option.some.inj less) (by decide)
              · have isSpace := blank.isSpace_octet
                rw [← Option.some.inj space] at isSpace
                exact absurd isSpace (by decide)
            simp only [prologOctets, List.flatMap_cons, written, List.cons_append]
            exact marked octet _ other
  rw [tags, unmarked]
  rfl

end LocaleStaging.Markup
