import LocaleStaging.Document.Reader
import LocaleStaging.Proofs.Markup.Content

/-!
# The meaning of a document

A locale document can be written in any layout: as an element named `locales` with whatever elements
inside it, behind whatever may stand before an element. Its meaning is the time in the tag of that
element, and the packages among the elements directly inside it. Reading gives that meaning
(`decode_written`): elements of other names and those inside others do not count, and neither does what
stands behind the end.
-/

namespace LocaleStaging.Document

open Markup (Blank Content Misc Name StartTag WrittenAttribute)

structure Written where
  prolog : List Misc
  root : StartTag
  named : root.name.text = rootName
  body : Option (Content × List Blank)

namespace Written
variable (written : Written)

def bodyOctets : Bytes :=
  match written.body with
  | none => ['/'.toUInt8, '>'.toUInt8]
  | some (content, blanks) =>
    '>'.toUInt8 :: (content.octets ++
      '<'.toUInt8 :: (Markup.endOctets written.root.name blanks ++ ['>'.toUInt8]))

def octets : Bytes :=
  Markup.prologOctets written.prolog ++
    '<'.toUInt8 :: (written.root.octets ++ written.bodyOctets)

def children : List StartTag :=
  match written.body with
  | none => []
  | some (content, _) => content.children

end Written

def package? (tag : StartTag) : Option (String × String) :=
  if tag.name.text = packageName then
    match tag.value? nameKey, tag.value? tagsKey with
    | some name, some tags => if name = "" ∨ tags = "" then none else some (name, tags)
    | _, _ => none
  else none

/-- The time and the packages of a document. A package that is there again counts with its last
tags. -/
def Written.meaning (written : Written) : Document where
  created := (written.root.value? createdKey).bind fun text => Numeral.int64? (trim text.toList)
  preferences := SortedMap.ofList (written.children.filterMap package?)

/-! ## Reading elements -/

theorem nameOf_eq_iff (tag : StartTag) (name : String) :
    Markup.nameOf tag.octets = Utf8.encode name ↔ tag.name.text = name := by
  rw [tag.nameOf_octets]
  exact ⟨Utf8.encode_injective, fun same => same ▸ rfl⟩

theorem readRoot_octets {tag : StartTag} (named : tag.name.text = rootName) :
    readRoot tag.octets =
      .ok ⟨(tag.value? createdKey).bind fun text => Numeral.int64? (trim text.toList), ∅⟩ := by
  rw [readRoot, if_pos ((nameOf_eq_iff tag rootName).2 named), readCreated, tag.findValue_octets]
  rfl

def withElement (document : Document) (tag : StartTag) : Document :=
  match package? tag with
  | none => document
  | some package =>
    { document with preferences := document.preferences.insert package.1 package.2 }

theorem readPackage_octets (tag : StartTag) :
    readPackage tag.octets = .ok ((tag.value? nameKey).getD "", (tag.value? tagsKey).getD "") := by
  simp only [readPackage, tag.findValue_octets]
  rfl

theorem addPackage_eq {tag : StartTag} (named : tag.name.text = packageName) (document : Document) :
    addPackage document ((tag.value? nameKey).getD "", (tag.value? tagsKey).getD "") =
      withElement document tag := by
  simp only [addPackage, withElement, package?, named, if_true]
  cases tag.value? nameKey with
  | none => simp
  | some name =>
      cases tag.value? tagsKey with
      | none => simp
      | some tags =>
          by_cases blank : name = "" ∨ tags = ""
          · simp [blank]
          · simp [blank]

theorem readElement_child (document : Document) (root : Bytes) (tag : StartTag) :
    readElement document [root] tag.octets = .ok (withElement document tag) := by
  by_cases named : tag.name.text = packageName
  · rw [readElement, if_pos ⟨rfl, (nameOf_eq_iff tag packageName).2 named⟩, readPackage_octets]
    exact congrArg _ (addPackage_eq named document)
  · rw [readElement, if_neg fun both => named ((nameOf_eq_iff tag packageName).1 both.2)]
    simp [withElement, package?, named]

theorem readElement_deeper {outer : List Bytes} (deeper : 2 ≤ outer.length) (document : Document)
    (content : Bytes) : readElement document outer content = .ok document :=
  if_neg fun both => by omega

/-! ## Reading content -/

theorem readBody_end (document : Document) {outer : List Bytes} (inside : outer ≠ []) (name : Bytes)
    (rest : Markup.Tags) :
    readBody document (name :: outer) (.ok (.closing name) :: rest) =
      readBody document outer rest := by
  obtain ⟨innermost, outer, rfl⟩ := List.exists_cons_of_ne_nil inside
  simp [readBody, close]

theorem readBody_last (document : Document) (name : Bytes) (rest : Markup.Tags) :
    readBody document [name] (.ok (.closing name) :: rest) = .ok document := by
  simp [readBody, close]

theorem readBody_deeper (content : Content) {outer : List Bytes} (deeper : 2 ≤ outer.length)
    (document : Document) (rest : Markup.Tags) :
    readBody document outer (content.tags.map .ok ++ rest) = readBody document outer rest := by
  have inside : outer ≠ [] := by
    rintro rfl
    contradiction
  induction content generalizing outer rest with
  | done => rfl
  | text octets free following ih => exact ih deeper rest inside
  | comment passed following ih => exact ih deeper rest inside
  | data passed following ih => exact ih deeper rest inside
  | instruction target passed following ih => exact ih deeper rest inside
  | emptyElement tag following ih =>
      simp only [Content.tags, List.map_cons, List.cons_append, readBody,
        readElement_deeper deeper document tag.octets]
      exact ih deeper rest inside
  | element tag children endBlanks following inner later =>
      have deepest : 2 ≤ (Markup.nameOf tag.octets :: outer).length := Nat.le_succ_of_le deeper
      simp only [Content.tags, List.map_cons, List.map_append, List.cons_append, List.append_assoc,
        readBody, readElement_deeper deeper document tag.octets]
      rw [inner deepest _ (List.cons_ne_nil _ _), tag.nameOf_octets, readBody_end document inside]
      exact later deeper rest inside

theorem readBody_content (content : Content) (document : Document) (root : Bytes)
    (rest : Markup.Tags) :
    readBody document [root] (content.tags.map .ok ++ rest) =
      readBody (content.children.foldl withElement document) [root] rest := by
  induction content generalizing document rest with
  | done => rfl
  | text octets free following ih => exact ih document rest
  | comment passed following ih => exact ih document rest
  | data passed following ih => exact ih document rest
  | instruction target passed following ih => exact ih document rest
  | emptyElement tag following ih =>
      simp only [Content.tags, List.map_cons, List.cons_append, readBody, readElement_child]
      exact ih (withElement document tag) rest
  | element tag children endBlanks following inner later =>
      have deeper : 2 ≤ [Markup.nameOf tag.octets, root].length := Nat.le_refl 2
      simp only [Content.tags, List.map_cons, List.map_append, List.cons_append, List.append_assoc,
        readBody, readElement_child]
      rw [readBody_deeper children deeper, tag.nameOf_octets,
        readBody_end _ (List.cons_ne_nil root [])]
      exact later (withElement document tag) rest

theorem foldl_withElement (tags : List StartTag) (document : Document) :
    tags.foldl withElement document =
      ⟨document.created, (tags.filterMap package?).foldl
        (fun preferences package => preferences.insert package.1 package.2)
        document.preferences⟩ := by
  induction tags generalizing document with
  | nil => rfl
  | cons tag tags ih =>
      rw [List.foldl_cons, ih, withElement]
      cases found : package? tag with
      | none => rw [List.filterMap_cons_none found]
      | some package => rw [List.filterMap_cons_some found, List.foldl_cons]

/-! ## Reading documents -/

theorem tags_octets {written : Written} (matched : ∀ part ∈ written.prolog, part.Matched)
    (trailing : Bytes) :
    Markup.tags (written.octets ++ trailing) =
      Markup.tagsFrom .text
        ('<'.toUInt8 :: (written.root.octets ++ (written.bodyOctets ++ trailing))) := by
  have split : written.octets ++ trailing = Markup.prologOctets written.prolog ++
      '<'.toUInt8 :: (written.root.octets ++ (written.bodyOctets ++ trailing)) := by
    simp [Written.octets]
  rw [split, Markup.tags_of_prolog, Markup.tagsFrom_prolog matched]

theorem decode_written {written : Written} (matched : ∀ part ∈ written.prolog, part.Matched)
    (trailing : Bytes) : decode (written.octets ++ trailing) = .ok written.meaning := by
  obtain ⟨prolog, root, named, body⟩ := written
  have opened := readRoot_octets named
  rw [decode, tags_octets matched]
  cases body with
  | none =>
      have found := root.tagsFrom_selfClosing trailing
      simp only [Written.bodyOctets, List.cons_append, List.nil_append]
      rw [found, ofTags, opened]
      rfl
  | some body =>
      obtain ⟨content, blanks⟩ := body
      have first := root.tagsFrom_opening (content.octets ++ '<'.toUInt8 ::
        (Markup.endOctets root.name blanks ++ '>'.toUInt8 :: trailing))
      have last := Markup.tagsFrom_closing root.name blanks trailing
      rw [Markup.tagsFrom_content, last] at first
      simp only [Written.bodyOctets, List.cons_append, List.append_assoc, List.nil_append]
      rw [first, ofTags, opened, root.nameOf_octets]
      simp only
      rw [readBody_content, foldl_withElement, readBody_last]
      rfl

def localesName : Name := ⟨'l', "ocales".toList, by decide, by decide⟩

def createdName : Name := ⟨'c', "reationTimeMillis".toList, by decide, by decide⟩

def elementName : Name := ⟨'p', "ackage".toList, by decide, by decide⟩

def attributeName : Name := ⟨'n', "ame".toList, by decide, by decide⟩

theorem attributeName_ne : attributeName.text ≠ localesName.text := by decide

def plainAttribute (name : Name) (value : String) : WrittenAttribute :=
  ⟨name, value, .space, [], [], [], .double⟩

def rootWith (created : String) : StartTag :=
  ⟨localesName, [plainAttribute createdName created], by simp, []⟩

def packageWith (name tags : String) : StartTag :=
  ⟨elementName, [plainAttribute attributeName name, plainAttribute localesName tags],
    by simp [plainAttribute, attributeName_ne], []⟩

def nestedPackages : Written where
  prolog := [
    .instruction ⟨'x', "ml".toList, by decide, by decide⟩
      (.plain (Utf8.encode " version='1.0'") (by decide)),
    .blank .lineFeed, .comment (.plain (Utf8.encode " <locales ") (by decide)),
    .doctype ⟨.space, [], localesName, Utf8.encode " [<!ELEMENT locales ANY>]"⟩]
  root := rootWith " 12 "
  named := rfl
  body := some (.emptyElement (packageWith "a" "b") (.text (Utf8.encode "a > b") (by decide)
    (.element
      ⟨elementName, [⟨localesName, "<'\"&", .tab, [.space], [.space], [.lineFeed], .single⟩,
        plainAttribute attributeName "a"], by simp [plainAttribute, attributeName_ne.symm], [.space]⟩
      (.data (.plain (Utf8.encode "</package") (by decide))
        (.emptyElement (packageWith "c" "d") .done))
      [.space] (.emptyElement (packageWith "e" "") .done))), [])

theorem decode_written_nestedPackages :
    (∀ part ∈ nestedPackages.prolog, part.Matched) ∧
      nestedPackages.meaning = ⟨some 12, SortedMap.ofList [("a", "<'\"&")]⟩ ∧
      decode (nestedPackages.octets ++ Utf8.encode "</locales><") = .ok nestedPackages.meaning := by
  have matched : ∀ part ∈ nestedPackages.prolog, part.Matched := by
    simp only [nestedPackages, List.forall_mem_cons]
    exact ⟨trivial, trivial, trivial, ⟨.done, by decide, rfl⟩, by simp⟩
  exact ⟨matched, by decide +kernel, decode_written matched _⟩

theorem decode_unclosed (doctype : Markup.Doctype) {rest : Bytes}
    (unclosed : Markup.afterBracket 0 (doctype.inside ++ '>'.toUInt8 :: rest) = none) :
    decode (doctype.octets ++ rest) = .error (.markup (.malformed .unclosedDoctype)) := by
  have unmarked : Markup.byteOrderMark.isPrefixOf (doctype.octets ++ rest) = false := rfl
  rw [decode, Markup.tags, unmarked]
  simp only [Bool.false_eq_true, if_false]
  rw [Markup.tagsFrom_doctype_octets, unclosed]
  rfl

def quotedBracket : Markup.Doctype := ⟨.space, [], localesName, Utf8.encode " SYSTEM \"a<b\""⟩

def afterQuotedBracket : Written where
  prolog := [.doctype quotedBracket]
  root := rootWith "5"
  named := rfl
  body := some (.emptyElement (packageWith "a" "b") .done, [])

theorem decode_afterQuotedBracket :
    afterQuotedBracket.octets = Utf8.encode ("<!DOCTYPE locales SYSTEM \"a<b\">" ++
      "<locales creationTimeMillis=\"5\"><package name=\"a\" locales=\"b\"/></locales>") ∧
    afterQuotedBracket.meaning = ⟨some 5, SortedMap.ofList [("a", "b")]⟩ ∧
    decode afterQuotedBracket.octets = .error (.markup (.malformed .unclosedDoctype)) := by
  have split : afterQuotedBracket.octets = quotedBracket.octets ++
      '<'.toUInt8 :: (afterQuotedBracket.root.octets ++ afterQuotedBracket.bodyOctets) := by
    decide +kernel
  refine ⟨by decide +kernel, by decide +kernel, ?_⟩
  rw [split]
  exact decode_unclosed quotedBracket (by decide +kernel)

end LocaleStaging.Document
