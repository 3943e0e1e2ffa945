import LocaleStaging.Document.Reader
import LocaleStaging.Document.Writer
import LocaleStaging.Proofs.Markup.Attribute
import LocaleStaging.Proofs.Markup.Tag
import LocaleStaging.Proofs.SortedMap
import LocaleStaging.Proofs.Text.Numeral

namespace LocaleStaging.Document

open Markup (Tag Tags Enclosed IsKey IsAttribute)

def isFilled (package : String × String) : Bool := package.1 ≠ "" ∧ package.2 ≠ ""

def Filled (document : Document) : Prop :=
  ∀ package ∈ document.preferences.entries, isFilled package

def withoutBlanks (document : Document) : Document :=
  { document with preferences := document.preferences.filter fun name tags => isFilled (name, tags) }

theorem withoutBlanks_of_filled {document : Document} (filled : document.Filled) :
    document.withoutBlanks = document := by
  obtain ⟨created, preferences⟩ := document
  have kept : preferences.filter (fun name tags => isFilled (name, tags)) = preferences := by
    apply SortedMap.ext_entries
    exact List.filter_eq_self.2 filled
  simp only [withoutBlanks, kept]

/-! ## The tags of a written document -/

theorem encodeChars_writeAttribute (key value : String) :
    Utf8.encodeChars (writeAttribute key value) =
      ' '.toUInt8 :: Utf8.encode key ++ '='.toUInt8 :: '"'.toUInt8 ::
        Utf8.encodeChars (Markup.escape value.toList) ++ ['"'.toUInt8] := by
  simp only [writeAttribute, Utf8.encode, List.cons_append, List.append_assoc]
  rw [Utf8.encodeChars_cons_of_ascii (by decide)]
  simp only [Utf8.encodeChars_append]
  rfl

def rootTag (created : Option Int64) : List Char :=
  '<' :: rootName.toList ++ writeCreated created ++ ['>']

def rootEnd : List Char := "</".toList ++ rootName.toList ++ ['>']

theorem write_eq (document : Document) :
    write document = declaration ++ (rootTag document.created ++
      (document.preferences.toList.flatMap writePackage ++ rootEnd)) := by
  simp only [write, rootTag, rootEnd, List.append_assoc, List.cons_append]

def rootContent (created : Option Int64) : Bytes :=
  Utf8.encode rootName ++ Utf8.encodeChars (writeCreated created)

def packageContent (package : String × String) : Bytes :=
  Utf8.encode packageName ++ Utf8.encodeChars (writeAttribute nameKey package.1) ++
    Utf8.encodeChars (writeAttribute tagsKey package.2)

theorem tagsFrom_declaration (rest : Bytes) :
    Markup.tagsFrom .text (Utf8.encodeChars declaration ++ rest) = Markup.tagsFrom .text rest := by
  let content := Utf8.encode " version=\"1.0\" encoding=\"UTF-8\" standalone=\"yes\""
  have written : Utf8.encodeChars declaration = '<'.toUInt8 :: ('?'.toUInt8 :: Utf8.encode "xml" ++
      (content ++ ['?'.toUInt8, '>'.toUInt8])) := by decide
  have frame := @Markup.frame_instruction (Utf8.encode "xml") (by decide) (by decide) (by decide)
  have free : '>'.toUInt8 ∉ content := by decide
  have passed := Markup.tagsFrom_aside frame (Markup.not_infix_of_not_mem free) rest
  rw [written]
  simpa using passed

theorem enclosed_writeAttribute {key : String} (plain : Enclosed (Utf8.encode key))
    (value : String) : Enclosed (Utf8.encodeChars (writeAttribute key value)) := by
  have space : Enclosed [' '.toUInt8] := by decide
  have equals : Enclosed ['='.toUInt8] := by decide
  have quoted := Enclosed.of_quoted (.inl rfl) (Markup.quote_not_mem_escape value.toList)
  have whole := ((space.append plain).append equals).append quoted
  rw [encodeChars_writeAttribute]
  simpa using whole

theorem encodeChars_rootTag (created : Option Int64) :
    Utf8.encodeChars (rootTag created) = '<'.toUInt8 :: rootContent created ++ ['>'.toUInt8] := by
  rw [rootTag, List.cons_append, List.cons_append, Utf8.encodeChars_cons_of_ascii (by decide),
    Utf8.encodeChars_append, Utf8.encodeChars_append]
  rfl

theorem enclosed_rootContent (created : Option Int64) : Enclosed (rootContent created) := by
  apply Enclosed.append
  · decide
  · cases created with
    | none => rfl
    | some created => exact enclosed_writeAttribute (by decide) _

theorem head?_rootContent (created : Option Int64) :
    (rootContent created).head? = some 'l'.toUInt8 := rfl

theorem tagsFrom_root (created : Option Int64) (rest : Bytes) :
    Markup.tagsFrom .text (Utf8.encodeChars (rootTag created) ++ rest) =
      .ok (.opening (rootContent created)) :: Markup.tagsFrom .text rest := by
  have first := head?_rootContent created
  have last : (rootContent created).getLast? ≠ some '/'.toUInt8 := by
    cases created with
    | none => decide
    | some created =>
        rw [rootContent, writeCreated, encodeChars_writeAttribute, ← List.append_assoc,
          List.getLast?_concat]
        decide
  have opening : Tag.ofContent (rootContent created) = .opening (rootContent created) :=
    Markup.ofContent_opening (by rw [first]; decide) last
  rw [encodeChars_rootTag, List.append_assoc, List.singleton_append,
    Markup.tagsFrom_tag (enclosed_rootContent created) (by rw [first]; decide)
      (by rw [first]; decide), opening]

def packageInside (package : String × String) : Bytes := packageContent package ++ ['/'.toUInt8]

theorem encodeChars_writePackage (package : String × String) :
    Utf8.encodeChars (writePackage package) =
      '<'.toUInt8 :: packageInside package ++ ['>'.toUInt8] := by
  simp only [writePackage, List.cons_append]
  rw [Utf8.encodeChars_cons_of_ascii (by decide)]
  simp only [Utf8.encodeChars_append, packageInside, packageContent, Utf8.encode, List.append_assoc]
  rfl

theorem enclosed_packageInside (package : String × String) : Enclosed (packageInside package) := by
  apply Enclosed.append
  · apply Enclosed.append
    · apply Enclosed.append
      · decide
      · exact enclosed_writeAttribute (by decide) _
    · exact enclosed_writeAttribute (by decide) _
  · decide

theorem head?_packageContent (package : String × String) :
    (packageContent package).head? = some 'p'.toUInt8 := rfl

theorem head?_packageInside (package : String × String) :
    (packageInside package).head? = some 'p'.toUInt8 := by
  rw [packageInside, List.head?_append, head?_packageContent]
  rfl

theorem tagsFrom_package (package : String × String) (rest : Bytes) :
    Markup.tagsFrom .text (Utf8.encodeChars (writePackage package) ++ rest) =
      .ok (.selfClosing (packageContent package)) :: Markup.tagsFrom .text rest := by
  have first := head?_packageContent package
  have first_inside := head?_packageInside package
  have filled : packageContent package ≠ [] := by
    intro bare
    rw [bare] at first
    cases first
  rw [encodeChars_writePackage, List.append_assoc, List.singleton_append,
    Markup.tagsFrom_tag (enclosed_packageInside package) (by rw [first_inside]; decide)
      (by rw [first_inside]; decide), packageInside,
    Markup.ofContent_selfClosing filled (by rw [first]; decide)]

theorem tagsFrom_packages (packages : List (String × String)) (rest : Bytes) :
    Markup.tagsFrom .text (Utf8.encodeChars (packages.flatMap writePackage) ++ rest) =
      packages.map (fun package => .ok (.selfClosing (packageContent package))) ++
        Markup.tagsFrom .text rest := by
  induction packages with
  | nil => rfl
  | cons package packages ih =>
      rw [List.flatMap_cons, Utf8.encodeChars_append, List.append_assoc, tagsFrom_package, ih]
      rfl

theorem unmarked_write (document : Document) :
    Markup.byteOrderMark.isPrefixOf (Utf8.encodeChars (write document)) = false := by
  rw [write_eq]
  rfl

theorem tags_write (document : Document) :
    Markup.tags (Utf8.encodeChars (write document)) =
      .ok (.opening (rootContent document.created)) ::
        document.preferences.toList.map (fun package => .ok (.selfClosing (packageContent package))) ++
          [.ok (.closing (Utf8.encode rootName))] := by
  have ending : Markup.tagsFrom .text (Utf8.encodeChars rootEnd) =
      [.ok (.closing (Utf8.encode rootName))] := rfl
  rw [Markup.tags, unmarked_write, write_eq, Utf8.encodeChars_append, Utf8.encodeChars_append,
    Utf8.encodeChars_append]
  simp only [Bool.false_eq_true, if_false]
  rw [tagsFrom_declaration, tagsFrom_root, tagsFrom_packages, ending]
  rfl

/-! ## Reading the tags -/

theorem findValue_first {key : Bytes} (text : String) (rest : Markup.Attributes) :
    Markup.findValue key (.ok ⟨key, Utf8.encodeChars (Markup.escape text.toList)⟩ :: rest) =
      .ok (some text) := by
  simp only [Markup.findValue, if_true, Markup.readValue_escape]
  rfl

theorem findValue_next {key : Bytes} {found : Markup.Attribute} (other : found.key ≠ key)
    (rest : Markup.Attributes) :
    Markup.findValue key (.ok found :: rest) = Markup.findValue key rest := by
  simp only [Markup.findValue, other, if_false]

theorem attributesFrom_writeAttribute (key : String) (keys : Markup.Keys)
    (isKey : IsKey (Utf8.encode key)) (fresh : Utf8.encode key ∉ keys.map Prod.fst) (value : String)
    (position : Nat) (rest : Bytes) :
    ∃ next, Markup.attributesFrom keys position .between
        (Utf8.encodeChars (writeAttribute key value) ++ rest) =
      .ok ⟨Utf8.encode key, Utf8.encodeChars (Markup.escape value.toList)⟩ ::
        Markup.attributesFrom (keys ++ [(Utf8.encode key, position + 1)]) next .between rest := by
  obtain ⟨next, found⟩ := Markup.attributesFrom_attribute
    (IsAttribute.of_plain isKey (Markup.quote_not_mem_escape value.toList)) fresh position rest
  refine ⟨next, ?_⟩
  rw [encodeChars_writeAttribute]
  simpa only [List.cons_append, List.append_assoc, List.nil_append, List.length_singleton] using found

theorem isSpace_of_head?_writeAttribute {key value : String} {rest : Bytes} {octet : UInt8}
    (first : (Utf8.encodeChars (writeAttribute key value) ++ rest).head? = some octet) :
    Markup.isSpace octet = true := by
  rw [encodeChars_writeAttribute] at first
  cases first
  rfl

theorem isSpace_of_head?_writeCreated {created : Option Int64} {octet : UInt8}
    (first : (Utf8.encodeChars (writeCreated created)).head? = some octet) :
    Markup.isSpace octet = true := by
  cases created with
  | none => cases first
  | some created =>
      rw [writeCreated, ← List.append_nil (Utf8.encodeChars _)] at first
      exact isSpace_of_head?_writeAttribute first

theorem nameOf_rootContent (created : Option Int64) :
    Markup.nameOf (rootContent created) = Utf8.encode rootName :=
  Markup.nameOf_append (by decide) fun _ => isSpace_of_head?_writeCreated

theorem nameOf_packageContent (package : String × String) :
    Markup.nameOf (packageContent package) = Utf8.encode packageName := by
  rw [packageContent, List.append_assoc]
  exact Markup.nameOf_append (by decide) fun _ => isSpace_of_head?_writeAttribute

theorem readRoot_rootContent (created : Option Int64) :
    readRoot (rootContent created) = .ok ⟨created, ∅⟩ := by
  have read : readCreated (rootContent created) = .ok created := by
    rw [readCreated, rootContent,
      Markup.attributesOf_append (by decide) fun _ => isSpace_of_head?_writeCreated]
    cases created with
    | none => rfl
    | some created =>
        obtain ⟨next, found⟩ := attributesFrom_writeAttribute createdKey []
          ⟨by decide, by decide⟩ (by simp) (toString created.toInt)
          (Utf8.encode rootName).length []
        rw [writeCreated, ← List.append_nil (Utf8.encodeChars _), found, findValue_first]
        simp only [Option.bind_some, Numeral.int64?_toString]
  simp only [readRoot, nameOf_rootContent, if_true, read]
  rfl

theorem readPackage_packageContent (package : String × String) :
    readPackage (packageContent package) = .ok package := by
  obtain ⟨next, name⟩ := attributesFrom_writeAttribute nameKey [] ⟨by decide, by decide⟩
    (by simp) package.1 (Utf8.encode packageName).length
    (Utf8.encodeChars (writeAttribute tagsKey package.2))
  obtain ⟨last, tags⟩ := attributesFrom_writeAttribute tagsKey
    [(Utf8.encode nameKey, (Utf8.encode packageName).length + 1)] ⟨by decide, by decide⟩
    (by decide) package.2
    next []
  have attributes : Markup.attributesOf (packageContent package) =
      .ok ⟨Utf8.encode nameKey, Utf8.encodeChars (Markup.escape package.1.toList)⟩ ::
        .ok ⟨Utf8.encode tagsKey, Utf8.encodeChars (Markup.escape package.2.toList)⟩ :: [] := by
    rw [packageContent, List.append_assoc,
      Markup.attributesOf_append (by decide) fun _ => isSpace_of_head?_writeAttribute, name,
      List.nil_append, ← List.append_nil (Utf8.encodeChars (writeAttribute tagsKey _)), tags]
    rfl
  have apart : Utf8.encode nameKey ≠ Utf8.encode tagsKey := by decide
  rw [readPackage, attributes, findValue_first, findValue_next apart, findValue_first]
  rfl

theorem readBody_packages (document : Document) (packages : List (String × String)) (rest : Tags) :
    readBody document [Utf8.encode rootName]
        (packages.map (fun package => .ok (.selfClosing (packageContent package))) ++ rest) =
      readBody (packages.foldl addPackage document) [Utf8.encode rootName] rest := by
  induction packages generalizing document with
  | nil => rfl
  | cons package packages ih =>
      have read : readElement document [Utf8.encode rootName] (packageContent package) =
          .ok (addPackage document package) := by
        simp [readElement, nameOf_packageContent, readPackage_packageContent]
      rw [List.map_cons, List.cons_append, readBody, read]
      exact ih (addPackage document package)

/-! ## The packages that are kept -/

theorem foldl_addPackage {packages : List (String × String)} (increasing : Increasing packages)
    (document : Document) (ordered : ∀ earlier ∈ document.preferences.entries,
      ∀ later ∈ packages, compare earlier.1 later.1 = .lt) :
    (packages.foldl addPackage document).created = document.created ∧
      (packages.foldl addPackage document).preferences.entries =
        document.preferences.entries ++ packages.filter isFilled := by
  induction packages generalizing document with
  | nil => simp
  | cons package packages ih =>
      obtain ⟨first, later⟩ := List.pairwise_cons.1 increasing
      -- Packages come in the order of their names, so each one is listed behind those before it.
      have last : ∀ entry ∈ document.preferences.entries, compare entry.1 package.1 = .lt :=
        fun entry member => ordered entry member package List.mem_cons_self
      by_cases blank : package.1 = "" ∨ package.2 = ""
      · have dropped : isFilled package = false := by
          rcases blank with nameless | tagless
          · simp [isFilled, nameless]
          · simp [isFilled, tagless]
        have same : addPackage document package = document := if_pos blank
        rw [List.foldl_cons, same, List.filter_cons_of_neg (by simp [dropped])]
        exact ih later document fun earlier member other listed =>
          ordered earlier member other (List.mem_cons_of_mem package listed)
      · have kept : isFilled package = true := by simpa [isFilled] using blank
        have added : (addPackage document package).preferences.entries =
            document.preferences.entries ++ [package] := by
          rw [addPackage, if_neg blank]
          exact SortedMap.entries_insert_of_last package.2 last
        have time : (addPackage document package).created = document.created := by
          rw [addPackage, if_neg blank]
        have above : ∀ earlier ∈ (addPackage document package).preferences.entries,
            ∀ other ∈ packages, compare earlier.1 other.1 = .lt := by
          intro earlier member other listed
          rw [added] at member
          rcases List.mem_append.1 member with member | member
          · exact ordered earlier member other (List.mem_cons_of_mem package listed)
          · rw [List.mem_singleton.1 member]
            exact first other listed
        obtain ⟨sameTime, entries⟩ := ih later (addPackage document package) above
        rw [List.foldl_cons, sameTime, entries, added, List.filter_cons_of_pos kept]
        exact ⟨time, by simp⟩

theorem foldl_addPackage_entries (created : Option Int64) (preferences : Preferences) :
    preferences.toList.foldl addPackage ⟨created, ∅⟩ =
      withoutBlanks ⟨created, preferences⟩ := by
  obtain ⟨time, entries⟩ := foldl_addPackage preferences.increasing ⟨created, ∅⟩
    (fun earlier member => absurd member List.not_mem_nil)
  have same : (preferences.toList.foldl addPackage ⟨created, ∅⟩).preferences =
      preferences.filter fun name tags => isFilled (name, tags) :=
    SortedMap.ext_entries entries
  rw [withoutBlanks, ← same, ← time]
  rfl

theorem decode_encode_eq {document : Document} (listed : document.preferences.isEmpty = false) :
    decode (encode document) = .ok document.withoutBlanks := by
  have ending (read : Document) : readBody read [Utf8.encode rootName]
      [.ok (.closing (Utf8.encode rootName))] = .ok read := by
    simp [readBody, close]
  rw [decode, encode, listed]
  simp only [Bool.false_eq_true, if_false]
  rw [tags_write, List.cons_append, ofTags, readRoot_rootContent]
  simp only [nameOf_rootContent]
  rw [readBody_packages, ending, foldl_addPackage_entries]

/-! ## Reading gives no blanks -/

theorem filled_addPackage {document : Document} (filled : document.Filled)
    (package : String × String) : (addPackage document package).Filled := by
  by_cases blank : package.1 = "" ∨ package.2 = ""
  · rwa [addPackage, if_pos blank]
  · rw [addPackage, if_neg blank]
    intro entry member
    rcases SortedMap.mem_insertEntry member with rfl | member
    · simpa [isFilled] using blank
    · exact filled entry member

theorem filled_readElement {document read : Document} (filled : document.Filled)
    {outer : List Bytes} {content : Bytes} (done : readElement document outer content = .ok read) :
    read.Filled := by
  unfold readElement at done
  split at done
  next =>
    split at done
    next => cases done
    next package _ =>
      cases done
      exact filled_addPackage filled package
  next =>
    cases done
    exact filled

theorem filled_readBody {tags : Tags} {document read : Document} {opened : List Bytes}
    (filled : document.Filled) (done : readBody document opened tags = .ok read) : read.Filled := by
  fun_induction readBody document opened tags with
  | case1 document opened =>
      cases done
      exact filled
  | case2 document opened fault rest => cases done
  | case3 document opened content rest fault refused => cases done
  | case4 document opened content rest next accepted ih =>
      exact ih (filled_readElement filled accepted) done
  | case5 document opened content rest fault refused => cases done
  | case6 document opened content rest next accepted ih =>
      exact ih (filled_readElement filled accepted) done
  | case7 document opened name rest fault refused => cases done
  | case8 document opened name rest closed =>
      cases done
      exact filled
  | case9 document opened name rest outer inside closed ih => exact ih filled done

theorem filled_readRoot {content : Bytes} {read : Document} (done : readRoot content = .ok read) :
    read.Filled := by
  simp only [readRoot] at done
  split at done
  next =>
    cases time : readCreated content with
    | error fault => simp [time, Except.map] at done
    | ok created =>
        simp only [time, Except.map, Except.ok.injEq] at done
        subst done
        exact fun package member => absurd member List.not_mem_nil
  next => cases done

theorem filled_of_decode {octets : Bytes} {document : Document} (done : decode octets = .ok document) :
    document.Filled := by
  unfold decode ofTags at done
  split at done
  next => cases done
  next => cases done
  next =>
    split at done
    next => cases done
    next root opened => exact filled_readBody (filled_readRoot opened) done
  next => exact filled_readRoot done
  next => cases done

/-- Writing a document and reading it gives it back, without the packages that have an empty name or
empty tags. Reading never gives such packages, so what was read is given back as it is. -/
theorem encode_roundTrip :
    (∀ document : Document, document.preferences.isEmpty = false →
      decode (encode document) = .ok document.withoutBlanks) ∧
    (∀ document : Document, document.preferences.isEmpty = false → document.Filled →
      decode (encode document) = .ok document) ∧
    (∀ octets document, decode octets = .ok document →
      document.Filled ∧
        (document.preferences.isEmpty = false → decode (encode document) = .ok document)) := by
  have whole : ∀ document : Document, document.preferences.isEmpty = false → document.Filled →
      decode (encode document) = .ok document := by
    intro document listed filled
    rw [decode_encode_eq listed, withoutBlanks_of_filled filled]
  refine ⟨fun document listed => decode_encode_eq listed, whole, ?_⟩
  intro octets document done
  have filled := filled_of_decode done
  exact ⟨filled, fun listed => whole document listed filled⟩

def markupInTexts : Document :=
  ⟨some Int64.minValue, SortedMap.ofList [("</locales>", ""), ("a&amp;b", "\"<x>\",'&'\n")]⟩

theorem encode_roundTrip_markupInTexts :
    markupInTexts.preferences.isEmpty = false ∧ markupInTexts.withoutBlanks.Filled ∧
      markupInTexts.withoutBlanks.preferences.isEmpty = false ∧
      decode (encode markupInTexts) = .ok markupInTexts.withoutBlanks ∧
      decode (encode markupInTexts.withoutBlanks) = .ok markupInTexts.withoutBlanks := by
  have listed : markupInTexts.preferences.isEmpty = false := by decide
  have kept : markupInTexts.withoutBlanks.preferences.isEmpty = false := by decide
  have read := encode_roundTrip.1 markupInTexts listed
  have filled := (encode_roundTrip.2.2 _ _ read).1
  exact ⟨listed, filled, kept, read, encode_roundTrip.2.1 _ kept filled⟩

end LocaleStaging.Document
