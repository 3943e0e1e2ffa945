import LocaleStaging.Storage.Path

namespace LocaleStaging.Path

structure IsName (name : Bytes) : Prop where
  ne_empty : name ≠ []
  no_slash : slash ∉ name
  ne_dot : name ≠ dot
  ne_dotDot : name ≠ dotDot

theorem not_isTrivial_of_isName {name : Bytes} (isName : IsName name) : isTrivial name = false := by
  simp [isTrivial, isName.ne_empty, isName.ne_dot]

/-! ## Names -/

theorem names_append_slash (first second : Bytes) :
    names ⟨first ++ slash :: second⟩ = names ⟨first⟩ ++ names ⟨second⟩ := by
  simp only [names, segments_eq_splitOn, List.splitOn_append_cons_self, List.filter_append]

theorem names_slashes_append (count : Nat) (octets : Bytes) :
    names ⟨List.replicate count slash ++ octets⟩ = names ⟨octets⟩ := by
  induction count with
  | zero => rfl
  | succ count ih =>
      rw [List.replicate_succ, List.cons_append]
      exact (names_append_slash [] _).trans ih

theorem names_of_isName {name : Bytes} (isName : IsName name) : names ⟨name⟩ = [name] := by
  simp [names, segments_eq_splitOn, List.splitOn_eq_singleton isName.no_slash, isName.ne_empty]

theorem octets_join {directory : Path} {name : Bytes} (isName : IsName name)
    (filled : directory.octets ≠ []) :
    ∃ start, (directory.join name).octets = start ++ slash :: name ∧
      (directory.octets = start ∨ directory.octets = start ++ [slash]) := by
  have no_slash : name.head? ≠ some slash := by
    intro first
    exact isName.no_slash (List.mem_of_head? first)
  by_cases ended : directory.endsInSlash = true
  · have last : directory.octets.getLast? = some slash := by simpa [endsInSlash] using ended
    obtain ⟨start, split⟩ := List.getLast?_eq_some_iff.1 last
    refine ⟨start, ?_, .inr split⟩
    rw [join, if_neg no_slash, if_pos (.inr ended), split]
    simp
  · refine ⟨directory.octets, ?_, .inl rfl⟩
    rw [join, if_neg no_slash, if_neg]
    simp [filled, ended]

theorem names_of_start {directory : Path} {start : Bytes}
    (split : directory.octets = start ∨ directory.octets = start ++ [slash]) :
    directory.names = names ⟨start⟩ := by
  obtain ⟨octets⟩ := directory
  rcases split with rfl | rfl
  · rfl
  · rw [names_append_slash]
    simp [names, segments]

theorem join_of_bare {directory : Path} {name : Bytes} (isName : IsName name)
    (bare : directory.octets = []) : directory.join name = ⟨name⟩ := by
  have no_slash : name.head? ≠ some slash := by
    intro first
    exact isName.no_slash (List.mem_of_head? first)
  rw [join, if_neg no_slash, if_pos (.inl (List.isEmpty_iff.2 bare)), bare, List.nil_append]

theorem names_join (directory : Path) {name : Bytes} (isName : IsName name) :
    (directory.join name).names = directory.names ++ [name] := by
  by_cases bare : directory.octets = []
  · have nameless : directory.names = [] := by
      rw [names, bare]
      rfl
    rw [join_of_bare isName bare, names_of_isName isName, nameless, List.nil_append]
  · obtain ⟨start, octets, split⟩ := octets_join isName bare
    have path : directory.join name = ⟨start ++ slash :: name⟩ := congrArg Path.mk octets
    rw [path, names_append_slash, names_of_isName isName, names_of_start split]

theorem prefix_join {directory : Path} {name : Bytes} (isName : IsName name) :
    directory.octets <+: (directory.join name).octets := by
  by_cases bare : directory.octets = []
  · rw [bare]
    exact List.nil_prefix
  · obtain ⟨start, octets, split⟩ := octets_join isName bare
    rw [octets]
    rcases split with split | split
    · rw [split]
      exact List.prefix_append start _
    · rw [split]
      exact ⟨name, by simp⟩

theorem mem_join {directory : Path} {name : Bytes} (isName : IsName name) {octet : UInt8}
    (member : octet ∈ (directory.join name).octets) :
    octet ∈ directory.octets ∨ octet = slash ∨ octet ∈ name := by
  by_cases bare : directory.octets = []
  · rw [join_of_bare isName bare] at member
    exact .inr (.inr member)
  · obtain ⟨start, octets, split⟩ := octets_join isName bare
    rw [octets] at member
    rcases split with split | split <;> grind

theorem length_join (directory : Path) {name : Bytes} (isName : IsName name) :
    (directory.join name).octets.length ≤ directory.octets.length + 1 + name.length := by
  by_cases bare : directory.octets = []
  · rw [join_of_bare isName bare]
    exact Nat.le_add_left _ _
  · obtain ⟨start, octets, split⟩ := octets_join isName bare
    rw [octets]
    rcases split with split | split <;> grind

theorem le_length_join (directory : Path) {name : Bytes} (isName : IsName name) :
    directory.octets.length + name.length ≤ (directory.join name).octets.length := by
  by_cases bare : directory.octets = []
  · rw [join_of_bare isName bare, bare]
    exact Nat.le_of_eq (Nat.zero_add _)
  · obtain ⟨start, octets, split⟩ := octets_join isName bare
    rw [octets]
    rcases split with split | split <;> grind

theorem not_endsInSlash_join {directory : Path} {name : Bytes} (isName : IsName name) :
    (directory.join name).endsInSlash = false := by
  have last : (directory.join name).octets.getLast? = name.getLast? := by
    by_cases bare : directory.octets = []
    · rw [join_of_bare isName bare]
    · obtain ⟨start, octets, split⟩ := octets_join isName bare
      obtain ⟨first, rest, rfl⟩ := List.exists_cons_of_ne_nil isName.ne_empty
      rw [octets, List.getLast?_append, List.getLast?_cons_cons,
        List.getLast?_eq_some_getLast (by simp)]
      rfl
  rw [endsInSlash, last, beq_eq_false_iff_ne]
  intro same
  exact isName.no_slash (List.mem_of_getLast? same)

theorem isAbsolute_of_start {first second : Path} (filled : first.octets ≠ [])
    (start : first.octets <+: second.octets) : first.isAbsolute = second.isAbsolute := by
  obtain ⟨rest, split⟩ := start
  obtain ⟨octet, octets, whole⟩ := List.exists_cons_of_ne_nil filled
  simp only [isAbsolute, ← split, whole, List.cons_append, List.head?_cons]

theorem isAbsolute_join {directory : Path} {name : Bytes} (isName : IsName name) :
    (directory.join name).isAbsolute = directory.isAbsolute := by
  by_cases bare : directory.octets = []
  · have relative : name.head? ≠ some slash := by
      intro first
      exact isName.no_slash (List.mem_of_head? first)
    rw [join_of_bare isName bare, isAbsolute, isAbsolute, bare, beq_eq_false_iff_ne.2 relative]
    rfl
  · exact (isAbsolute_of_start bare (prefix_join isName)).symm

/-! ## The parent of a path -/

theorem cutTrivial_concat (segments : List Bytes) {last : Bytes} (kept : isTrivial last = false) :
    cutTrivial (segments ++ [last]) = segments ++ [last] := by
  simp [cutTrivial, kept]

theorem cutTrivial_cons (first : Bytes) (segments : List Bytes) (kept : isTrivial first = false) :
    ∃ others, cutTrivial (first :: segments) = first :: others := by
  have split : (segments.reverse ++ [first]).dropWhile isTrivial =
      segments.reverse.dropWhile isTrivial ++ [first] := by
    rw [List.dropWhile_append]
    split
    next bare => simp [kept, List.isEmpty_iff.1 bare]
    next => rfl
  exact ⟨_, by rw [cutTrivial, List.reverse_cons, split, List.reverse_append]; rfl⟩

theorem cutTrivial_append (segments : List Bytes) :
    ∃ trivials, segments = cutTrivial segments ++ trivials ∧ ∀ segment ∈ trivials,
      isTrivial segment = true := by
  refine ⟨(segments.reverse.takeWhile isTrivial).reverse, ?_, ?_⟩
  · rw [cutTrivial, ← List.reverse_append, List.takeWhile_append_dropWhile, List.reverse_reverse]
  · intro segment member
    exact List.all_eq_true.1 List.all_takeWhile segment (List.mem_reverse.1 member)

theorem filter_trivials {trivials : List Bytes}
    (trivial : ∀ segment ∈ trivials, isTrivial segment = true) :
    ∃ count, trivials.filter (fun name => !name.isEmpty) = List.replicate count dot := by
  induction trivials with
  | nil => exact ⟨0, rfl⟩
  | cons segment trivials ih =>
      obtain ⟨count, same⟩ := ih fun other member => trivial other (List.mem_cons_of_mem _ member)
      have here := trivial segment List.mem_cons_self
      rcases Bool.or_eq_true_iff.1 here with bare | dotted
      · exact ⟨count, by rw [List.filter_cons_of_neg (by simpa using bare), same]⟩
      · obtain rfl : segment = dot := eq_of_beq dotted
        exact ⟨count + 1, by rw [List.filter_cons_of_pos (by decide), same]; rfl⟩

theorem intercalate_append {before after : List Bytes} (filled : after ≠ []) (start : before ≠ []) :
    [slash].intercalate (before ++ after) =
      [slash].intercalate before ++ slash :: [slash].intercalate after := by
  induction before with
  | nil => exact absurd rfl start
  | cons first before ih =>
      cases before with
      | nil =>
          rw [List.singleton_append, List.intercalate_cons_of_ne_nil filled,
            List.intercalate_singleton, List.append_assoc]
          rfl
      | cons second before =>
          have later := ih (by simp)
          rw [List.cons_append, List.intercalate_cons_of_ne_nil (by simp), later,
            List.intercalate_cons_cons]
          simp

theorem prefix_intercalate {shorter longer : List Bytes} (start : shorter <+: longer) :
    [slash].intercalate shorter <+: [slash].intercalate longer := by
  obtain ⟨after, rfl⟩ := start
  by_cases bare : shorter = []
  · subst bare
    exact List.nil_prefix
  · by_cases last : after = []
    · subst last
      exact ⟨[], by rw [List.append_nil, List.append_nil]⟩
    · rw [intercalate_append last bare]
      exact List.prefix_append _ _

theorem names_intercalate {parts : List Bytes} (free : ∀ part ∈ parts, slash ∉ part) :
    names ⟨[slash].intercalate parts⟩ = parts.filter fun name => !name.isEmpty := by
  by_cases filled : parts = []
  · subst filled
    rfl
  · simp only [names, segments_eq_splitOn, List.splitOn_intercalate slash free filled]

theorem parent?_of_segments {path : Path} {name : Bytes} {before : List Bytes}
    (isName : IsName name)
    (cut : segments slash (path.octets.drop path.headLength) = before ++ [name]) :
    path.parent? = some
      ⟨path.octets.take path.headLength ++ [slash].intercalate (cutTrivial before)⟩ := by
  have kept := cutTrivial_concat before (not_isTrivial_of_isName isName)
  obtain ⟨first, rest, whole⟩ : ∃ first rest, before ++ [name] = first :: rest :=
    List.exists_cons_of_ne_nil (by simp)
  have start : before = (first :: rest).dropLast := by rw [← whole, List.dropLast_concat]
  rw [parent?, cut, kept, whole, start]

structure Division (directory path : Path) (name head : Bytes) (before headNames : List Bytes) :
    Prop where
  taken : path.octets.take path.headLength = head
  cut : segments slash (path.octets.drop path.headLength) = before ++ [name]
  free : ∀ part ∈ before, slash ∉ part
  inside : head ++ [slash].intercalate before <+: directory.octets
  filled : head = [] → ∃ first others, before = first :: others ∧ isTrivial first = false
  names_head : ∀ shorter, shorter <+: before →
    names ⟨head ++ [slash].intercalate shorter⟩ =
      headNames ++ shorter.filter fun name => !name.isEmpty
  names_directory : directory.names = headNames ++ before.filter fun name => !name.isEmpty

structure Parts (directory path : Path) (name first : Bytes) (others : List Bytes) : Prop where
  cut : segments slash path.octets = first :: (others ++ [name])
  free : ∀ part ∈ first :: others, slash ∉ part
  inside : [slash].intercalate (first :: others) <+: directory.octets
  names_directory : directory.names = (first :: others).filter fun name => !name.isEmpty

theorem exists_parts {directory : Path} {name : Bytes} (isName : IsName name)
    (filled : directory.octets ≠ []) :
    ∃ first others, Parts directory (directory.join name) name first others := by
  obtain ⟨start, octets, split⟩ := octets_join isName filled
  obtain ⟨first, others, parts⟩ := List.exists_cons_of_ne_nil (List.splitOn_ne_nil slash start)
  have joined : [slash].intercalate (first :: others) = start := by
    rw [← parts, List.intercalate_splitOn]
  have free : ∀ part ∈ first :: others, slash ∉ part := by
    intro part member
    rw [← parts, ← segments_eq_splitOn] at member
    exact not_mem_of_mem_segments member
  refine ⟨first, others, ?_, free, ?_, ?_⟩
  · rw [octets, segments_eq_splitOn, List.splitOn_append_cons_self, parts,
      List.splitOn_eq_singleton isName.no_slash]
    rfl
  · rw [joined]
    rcases split with split | split
    · exact ⟨[], by rw [List.append_nil, split]⟩
    · exact ⟨[slash], split.symm⟩
  · rw [names_of_start split, ← joined, names_intercalate free]

theorem Parts.octets {directory path : Path} {name first : Bytes} {others : List Bytes}
    (parts : Parts directory path name first others) :
    path.octets = [slash].intercalate (first :: (others ++ [name])) := by
  rw [← parts.cut, segments_eq_splitOn, List.intercalate_splitOn]

theorem Parts.division_of_isAbsolute {directory path : Path} {name first : Bytes}
    {others : List Bytes} (parts : Parts directory path name first others)
    (rooted : slash ∈ directory.octets.head?) (absolute : path.isAbsolute = true) :
    Division directory path name [slash] others [] := by
  have length : path.headLength = 1 := if_pos (.inl absolute)
  obtain ⟨rest, whole⟩ : ∃ rest, path.octets = slash :: rest :=
    List.head?_eq_some_iff.1 (by simpa [isAbsolute] using absolute)
  have cut := parts.cut
  rw [whole, segments, if_pos rfl, List.cons.injEq] at cut
  obtain ⟨rfl, later⟩ := cut
  have free := fun part member => parts.free part (List.mem_cons_of_mem [] member)
  refine ⟨?_, ?_, free, ?_, by simp, ?_, parts.names_directory⟩
  · rw [length, whole]
    rfl
  · rw [length, whole]
    exact later
  · by_cases bare : others = []
    · subst bare
      obtain ⟨octets, same⟩ := List.head?_eq_some_iff.1 rooted
      exact ⟨octets, same.symm⟩
    · have inside := parts.inside
      rwa [List.intercalate_cons_of_ne_nil bare] at inside
  · intro shorter start
    have free_shorter := fun part member => free part (start.subset member)
    exact (names_append_slash [] _).trans (names_intercalate free_shorter)

theorem Parts.division_of_dot {directory path : Path} {name : Bytes} {others : List Bytes}
    (isName : IsName name) (parts : Parts directory path name dot others) :
    Division directory path name dot ([] :: others) [dot] := by
  -- The dot is the head, also when a slash and nothing else follows it.
  have length : path.headLength = 1 := if_pos (.inr (by rw [parts.cut]; rfl))
  have dotted (after : List Bytes) :
      dot ++ [slash].intercalate ([] :: after) = [slash].intercalate (dot :: after) :=
    List.intercalate_cons_cons_left.symm
  have whole : path.octets = dot ++ [slash].intercalate ([] :: (others ++ [name])) := by
    rw [dotted, parts.octets]
  have free : ∀ part ∈ [] :: others, slash ∉ part := by
    intro part member
    rcases List.mem_cons.1 member with rfl | member
    · exact List.not_mem_nil
    · exact parts.free part (List.mem_cons_of_mem dot member)
  refine ⟨?_, ?_, free, ?_, by simp [dot], ?_, parts.names_directory⟩
  · rw [length, whole]
    rfl
  · have free_all : ∀ part ∈ [] :: (others ++ [name]), slash ∉ part := by
      intro part member
      rcases List.mem_append.1 (show part ∈ ([] :: others) ++ [name] from member) with member | member
      · exact free part member
      · rw [List.mem_singleton.1 member]
        exact isName.no_slash
    rw [length, whole, segments_eq_splitOn]
    exact List.splitOn_intercalate slash free_all (by simp)
  · rw [dotted]
    exact parts.inside
  · intro shorter start
    cases shorter with
    | nil => rfl
    | cons bare shorter =>
        obtain ⟨rfl, later⟩ := List.cons_prefix_cons.1 start
        have free_shorter : ∀ part ∈ dot :: shorter, slash ∉ part := by
          intro part member
          rcases List.mem_cons.1 member with rfl | member
          · exact parts.free dot List.mem_cons_self
          · exact parts.free part (List.mem_cons_of_mem dot (later.subset member))
        rw [dotted, names_intercalate free_shorter]
        rfl

theorem Parts.division_of_name {directory path : Path} {name first : Bytes} {others : List Bytes}
    (parts : Parts directory path name first others) (relative : path.isAbsolute ≠ true)
    (undotted : first ≠ dot) : Division directory path name [] (first :: others) [] := by
  have length : path.headLength = 0 := by
    rw [headLength, if_neg]
    rw [parts.cut]
    simp [relative, undotted]
  have kept : first ≠ [] := by
    rintro rfl
    apply relative
    rw [isAbsolute, parts.octets]
    cases others <;> rfl
  refine ⟨?_, ?_, parts.free, parts.inside, ?_, ?_, parts.names_directory⟩
  · rw [length]
    rfl
  · rw [length]
    exact parts.cut
  · intro _
    exact ⟨first, others, rfl, by simp [isTrivial, kept, undotted]⟩
  · intro shorter start
    exact names_intercalate fun part member => parts.free part (start.subset member)

theorem exists_division {directory : Path} {name : Bytes} (isName : IsName name)
    (filled : directory.octets ≠ []) :
    ∃ head before headNames,
      Division directory (directory.join name) name head before headNames := by
  obtain ⟨first, others, parts⟩ := exists_parts isName filled
  by_cases absolute : (directory.join name).isAbsolute = true
  · have rooted : slash ∈ directory.octets.head? := by
      rw [isAbsolute_join isName] at absolute
      simpa [isAbsolute] using absolute
    exact ⟨_, _, _, parts.division_of_isAbsolute rooted absolute⟩
  · by_cases dotted : first = dot
    · subst dotted
      exact ⟨_, _, _, parts.division_of_dot isName⟩
    · exact ⟨_, _, _, parts.division_of_name absolute dotted⟩

theorem parent?_join_of_filled {directory : Path} {name : Bytes} (isName : IsName name)
    (filled : directory.octets ≠ []) :
    ∃ parent count, (directory.join name).parent? = some parent ∧ parent.octets ≠ [] ∧
      parent.octets <+: directory.octets ∧
      directory.names = parent.names ++ List.replicate count dot := by
  obtain ⟨head, before, headNames, division⟩ := exists_division isName filled
  obtain ⟨trivials, cut, trivial⟩ := cutTrivial_append before
  obtain ⟨count, dots⟩ := filter_trivials trivial
  have shorter : cutTrivial before <+: before := ⟨trivials, cut.symm⟩
  refine ⟨⟨head ++ [slash].intercalate (cutTrivial before)⟩, count, ?_, ?_, ?_, ?_⟩
  · rw [parent?_of_segments isName division.cut, division.taken]
  · intro bare
    obtain ⟨headless, rest⟩ := List.append_eq_nil_iff.1 bare
    obtain ⟨first, others, rfl, kept⟩ := division.filled headless
    obtain ⟨later, same⟩ := cutTrivial_cons first others kept
    have nameless : first ≠ [] := by
      rintro rfl
      cases kept
    rw [same] at rest
    cases later with
    | nil => exact nameless (by simpa using rest)
    | cons second later => simp [List.intercalate_cons_cons] at rest
  · exact ((List.prefix_append_right_inj head).2 (prefix_intercalate shorter)).trans division.inside
  · rw [division.names_head _ shorter, division.names_directory, List.append_assoc, ← dots,
      ← List.filter_append, ← cut]

theorem parent?_of_isName {name : Bytes} (isName : IsName name) :
    parent? ⟨name⟩ = some ⟨[]⟩ := by
  have cut := List.splitOn_eq_singleton isName.no_slash
  have length : headLength ⟨name⟩ = 0 := by
    rw [headLength, if_neg]
    rw [isAbsolute, segments_eq_splitOn, cut]
    have relative : name.head? ≠ some slash := by
      intro first
      exact isName.no_slash (List.mem_of_head? first)
    simp [relative, isName.ne_dot]
  have cut_all : segments slash (name.drop (headLength ⟨name⟩)) = [] ++ [name] := by
    rw [length, segments_eq_splitOn]
    exact cut
  rw [@parent?_of_segments ⟨name⟩ name [] isName cut_all, length]
  rfl

theorem parent?_join (directory : Path) {name : Bytes} (isName : IsName name) :
    ∃ parent count, (directory.join name).parent? = some parent ∧
      parent.isAbsolute = directory.isAbsolute ∧ parent.octets <+: directory.octets ∧
      directory.names = parent.names ++ List.replicate count dot := by
  by_cases bare : directory.octets = []
  · obtain ⟨octets⟩ := directory
    obtain rfl : octets = [] := bare
    exact ⟨⟨[]⟩, 0, by rw [join_of_bare isName rfl, parent?_of_isName isName], rfl, List.nil_prefix,
      (List.append_nil _).symm⟩
  · obtain ⟨parent, count, found, filled, start, names⟩ := parent?_join_of_filled isName bare
    exact ⟨parent, count, found, isAbsolute_of_start filled start, start, names⟩

theorem length_withName_join (directory : Path) {name other : Bytes} (isName : IsName name)
    (isName_other : IsName other) :
    ((directory.join name).withName other).octets.length ≤
      directory.octets.length + 1 + other.length := by
  obtain ⟨parent, count, found, absolute, start, names⟩ := parent?_join directory isName
  have shorter := start.length_le
  have length := length_join parent isName_other
  simp only [withName, found]
  omega

end LocaleStaging.Path
