import LocaleStaging.Proofs.Document.RoundTrip

namespace LocaleStaging.Document

open Markup (Tags)

def firstPackages (document : Document) (count : Nat) : Document where
  created := document.created
  preferences := ⟨document.preferences.entries.take count, document.preferences.increasing.take⟩

def withoutEnd (document : Document) : Bytes :=
  Utf8.encodeChars declaration ++ (Utf8.encodeChars (rootTag document.created) ++
    Utf8.encodeChars (document.preferences.toList.flatMap writePackage))

theorem encodeChars_write (document : Document) :
    Utf8.encodeChars (write document) = document.withoutEnd ++ Utf8.encodeChars rootEnd := by
  simp only [write_eq, withoutEnd, Utf8.encodeChars_append, List.append_assoc]

theorem withoutEnd_firstPackages (document : Document) (count : Nat) :
    (document.firstPackages count).withoutEnd ++
        (Utf8.encodeChars ((document.preferences.toList.drop count).flatMap writePackage) ++
          Utf8.encodeChars rootEnd) =
      Utf8.encodeChars (write document) := by
  have packages : (document.firstPackages count).preferences.toList.flatMap writePackage ++
      (document.preferences.toList.drop count).flatMap writePackage =
        document.preferences.toList.flatMap writePackage := by
    rw [← List.flatMap_append]
    exact congrArg (List.flatMap writePackage) (List.take_append_drop count _)
  rw [encodeChars_write, withoutEnd, withoutEnd, ← packages, Utf8.encodeChars_append]
  simp only [List.append_assoc]
  rfl

theorem tags_of_prefix {document : Document} {octets : Bytes}
    (start : octets <+: Utf8.encodeChars (write document)) :
    Markup.tags octets = Markup.tagsFrom .text octets := by
  have unmarked : ¬Markup.byteOrderMark.isPrefixOf octets := by
    rw [List.isPrefixOf_iff_prefix]
    intro marked
    have whole := List.isPrefixOf_iff_prefix.2 (marked.trans start)
    rw [unmarked_write] at whole
    cases whole
  rw [Markup.tags, if_neg unmarked]

/-! ## Cuts between elements -/

theorem decode_withoutEnd (document : Document) :
    decode document.withoutEnd = .ok document.withoutBlanks := by
  have start : document.withoutEnd <+: Utf8.encodeChars (write document) := by
    rw [encodeChars_write]
    exact List.prefix_append _ _
  have packages := tagsFrom_packages document.preferences.toList []
  rw [List.append_nil] at packages
  rw [decode, tags_of_prefix start, withoutEnd, tagsFrom_declaration, tagsFrom_root, packages, ofTags,
    readRoot_rootContent]
  simp only [nameOf_rootContent]
  rw [readBody_packages, ← foldl_addPackage_entries]
  rfl

/-! ## Cuts inside an element -/

theorem prefix_append_cases {cut first second : Bytes} (start : cut <+: first ++ second) :
    (cut <+: first ∧ cut ≠ first) ∨ ∃ more, cut = first ++ more ∧ more <+: second := by
  by_cases longer : first <+: cut
  · obtain ⟨more, rfl⟩ := longer
    exact .inr ⟨more, rfl, (List.prefix_append_right_inj first).1 start⟩
  · rcases List.prefix_or_prefix_of_prefix start (List.prefix_append first second) with shorter | same
    · exact .inl ⟨shorter, fun same => longer (same ▸ List.prefix_rfl)⟩
    · exact absurd same longer

theorem tagsFrom_cut_declaration {cut : Bytes} (start : cut <+: Utf8.encodeChars declaration)
    (filled : cut ≠ []) (short : cut ≠ Utf8.encodeChars declaration) :
    ∃ fault, Markup.tagsFrom .text cut = [.error fault] := by
  have written : Utf8.encodeChars declaration = '<'.toUInt8 :: '?'.toUInt8 ::
      Utf8.encode "xml version=\"1.0\" encoding=\"UTF-8\" standalone=\"yes\"?" ++ ['>'.toUInt8] := by
    decide
  rw [written] at start short
  exact Markup.tagsFrom_cut_instruction (by decide) start filled short

theorem tagsFrom_cut_root {created : Option Int64} {cut : Bytes}
    (start : cut <+: Utf8.encodeChars (rootTag created)) (filled : cut ≠ [])
    (short : cut ≠ Utf8.encodeChars (rootTag created)) :
    ∃ fault, Markup.tagsFrom .text cut = [.error fault] := by
  have first := head?_rootContent created
  rw [encodeChars_rootTag] at start short
  exact ⟨_, Markup.tagsFrom_cut (enclosed_rootContent created) (by rw [first]; decide)
    (by rw [first]; decide) start filled short⟩

theorem tagsFrom_cut_package {package : String × String} {cut : Bytes}
    (start : cut <+: Utf8.encodeChars (writePackage package)) (filled : cut ≠ [])
    (short : cut ≠ Utf8.encodeChars (writePackage package)) :
    ∃ fault, Markup.tagsFrom .text cut = [.error fault] := by
  have first := head?_packageInside package
  rw [encodeChars_writePackage] at start short
  exact ⟨_, Markup.tagsFrom_cut (enclosed_packageInside package) (by rw [first]; decide)
    (by rw [first]; decide) start filled short⟩

theorem tagsFrom_cut_end {cut : Bytes} (start : cut <+: Utf8.encodeChars rootEnd)
    (filled : cut ≠ []) (short : cut ≠ Utf8.encodeChars rootEnd) :
    ∃ fault, Markup.tagsFrom .text cut = [.error fault] := by
  have written : Utf8.encodeChars rootEnd =
      '<'.toUInt8 :: Utf8.encode "/locales" ++ ['>'.toUInt8] := by decide
  rw [written] at start short
  exact ⟨_, Markup.tagsFrom_cut (by decide) (by decide) (by decide) start filled short⟩

theorem readBody_cut {packages : List (String × String)} {cut : Bytes}
    (start : cut <+: Utf8.encodeChars (packages.flatMap writePackage) ++ Utf8.encodeChars rootEnd)
    (short : cut ≠ Utf8.encodeChars (packages.flatMap writePackage) ++ Utf8.encodeChars rootEnd)
    (document : Document) :
    (∃ count, cut = Utf8.encodeChars ((packages.take count).flatMap writePackage)) ∨
      ∃ fault, readBody document [Utf8.encode rootName] (Markup.tagsFrom .text cut) =
        .error fault := by
  induction packages generalizing cut document with
  | nil =>
      by_cases bare : cut = []
      · exact .inl ⟨0, bare⟩
      · obtain ⟨fault, refused⟩ := tagsFrom_cut_end start bare short
        exact .inr ⟨.markup fault, by rw [refused, readBody]⟩
  | cons package packages ih =>
      rw [List.flatMap_cons, Utf8.encodeChars_append, List.append_assoc] at start short
      rcases prefix_append_cases start with ⟨inside, cut_inside⟩ | ⟨more, rfl, later⟩
      · by_cases bare : cut = []
        · exact .inl ⟨0, bare⟩
        · obtain ⟨fault, refused⟩ := tagsFrom_cut_package inside bare cut_inside
          exact .inr ⟨.markup fault, by rw [refused, readBody]⟩
      · have short_later := fun same => short (congrArg (Utf8.encodeChars (writePackage package) ++ ·) same)
        rcases ih later short_later (addPackage document package) with ⟨count, rfl⟩ | ⟨fault, refused⟩
        · left
          refine ⟨count + 1, ?_⟩
          rw [List.take_succ_cons, List.flatMap_cons, Utf8.encodeChars_append]
        · right
          refine ⟨fault, ?_⟩
          have read := readBody_packages document [package] (Markup.tagsFrom .text more)
          rw [List.map_singleton, List.singleton_append, ← tagsFrom_package] at read
          exact read.trans refused

theorem decode_cut {document : Document} {octets : Bytes}
    (start : octets <+: Utf8.encodeChars (write document))
    (short : octets ≠ Utf8.encodeChars (write document)) :
    (∃ count, octets = (document.firstPackages count).withoutEnd) ∨
      ∃ fault, decode octets = .error fault := by
  rw [decode, tags_of_prefix start]
  rw [encodeChars_write, withoutEnd, List.append_assoc, List.append_assoc] at start short
  rcases prefix_append_cases start with ⟨inside, cut⟩ | ⟨more, rfl, later⟩
  · right
    by_cases bare : octets = []
    · exact ⟨.missingRoot, by rw [bare]; rfl⟩
    · obtain ⟨fault, refused⟩ := tagsFrom_cut_declaration inside bare cut
      exact ⟨.markup fault, by rw [refused, ofTags]⟩
  rw [tagsFrom_declaration]
  rcases prefix_append_cases later with ⟨inside, cut⟩ | ⟨body, rfl, last⟩
  · right
    by_cases bare : more = []
    · exact ⟨.missingRoot, by rw [bare]; rfl⟩
    · obtain ⟨fault, refused⟩ := tagsFrom_cut_root inside bare cut
      exact ⟨.markup fault, by rw [refused, ofTags]⟩
  have short_body : body ≠ _ := fun same => short (by rw [same])
  rcases readBody_cut last short_body ⟨document.created, ∅⟩ with ⟨count, rfl⟩ | ⟨fault, refused⟩
  · exact .inl ⟨count, rfl⟩
  · right
    refine ⟨fault, ?_⟩
    rw [tagsFrom_root, ofTags, readRoot_rootContent]
    simpa only [nameOf_rootContent] using refused

/-! ## Which cuts are refused -/

/-- A document that was cut short is refused, unless the cut is right behind the tag of the root or of
a package. Then it is read as the document of the packages before the cut. -/
theorem decode_cut_iff {document : Document} (listed : document.preferences.isEmpty = false) :
    (∀ octets, octets <+: encode document → octets ≠ encode document →
      ((∃ fault, decode octets = .error fault) ↔
        ∀ count, octets ≠ (document.firstPackages count).withoutEnd)) ∧
    ∀ count, (document.firstPackages count).withoutEnd <+: encode document ∧
      (document.firstPackages count).withoutEnd ≠ encode document ∧
      decode (document.firstPackages count).withoutEnd =
        .ok (document.firstPackages count).withoutBlanks := by
  have written : encode document = Utf8.encodeChars (write document) := by
    rw [encode, listed]
    rfl
  rw [written]
  constructor
  · intro octets start short
    constructor
    · rintro ⟨fault, refused⟩ count rfl
      rw [decode_withoutEnd] at refused
      cases refused
    · intro apart
      rcases decode_cut start short with ⟨count, same⟩ | refused
      · exact absurd same (apart count)
      · exact refused
  · intro count
    have missing := withoutEnd_firstPackages document count
    refine ⟨⟨_, missing⟩, ?_, decode_withoutEnd _⟩
    intro same
    rw [← same, List.append_right_eq_self, List.append_eq_nil_iff] at missing
    exact absurd missing.2 (by decide)

def twoPackages : Document := ⟨some 5, SortedMap.ofList [("a", "b"), ("c", "d")]⟩

theorem decode_cut_iff_twoPackages :
    twoPackages.preferences.isEmpty = false ∧
      (∃ octets, octets <+: encode twoPackages ∧ octets ≠ encode twoPackages ∧
        decode octets = .ok ⟨some 5, SortedMap.ofList [("a", "b")]⟩) ∧
      (encode twoPackages).take 85 <+: encode twoPackages ∧
      (encode twoPackages).take 85 ≠ encode twoPackages ∧
      ∃ fault, decode ((encode twoPackages).take 85) = .error fault := by
  have listed : twoPackages.preferences.isEmpty = false := by decide
  obtain ⟨refused, accepted⟩ := decode_cut_iff listed
  have start := List.take_prefix 85 (encode twoPackages)
  have short : (encode twoPackages).take 85 ≠ encode twoPackages := by decide
  have inside : ∀ count,
      (encode twoPackages).take 85 ≠ (twoPackages.firstPackages count).withoutEnd := by
    intro count same
    have lengths := congrArg List.length same
    have cut : ((encode twoPackages).take 85).length = 85 := by decide
    have opened : (Utf8.encodeChars declaration).length +
        (Utf8.encodeChars (rootTag (some 5))).length = 87 := by decide
    rw [cut, withoutEnd, List.length_append, List.length_append, ← Nat.add_assoc] at lengths
    exact absurd (lengths.trans (congrArg (· + _) opened)) (by omega)
  exact ⟨listed, ⟨_, accepted 1⟩, start, short, (refused _ start short).2 inside⟩

end LocaleStaging.Document
