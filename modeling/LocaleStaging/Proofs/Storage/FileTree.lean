import LocaleStaging.Proofs.SortedMap
import LocaleStaging.Proofs.Storage.Path
import LocaleStaging.Storage.FileTree
import Mathlib.Data.List.Nodup

namespace LocaleStaging.FileTree

open LocaleStaging.Path (IsName slash dot dotDot)

structure IsFileName (name : Bytes) : Prop extends IsName name where
  no_zero : 0 ∉ name
  short : name.length ≤ nameLimit

/-! ## What stands where -/

theorem node?_of_ne_nil (tree : FileTree) {location : Location} (deep : location ≠ []) :
    tree.node? location = tree.nodes.get? location := by
  rw [node?, if_neg]
  simpa using deep

theorem node?_put (tree : FileTree) {location : Location} (deep : location ≠ []) (node : Node)
    (other : Location) :
    (tree.put location node).node? other =
      if other = location then some node else tree.node? other := by
  by_cases same : other = location
  · subst same
    rw [if_pos rfl, node?_of_ne_nil _ deep, put, SortedMap.get?_insert_self]
  · rw [if_neg same]
    cases other with
    | nil => rfl
    | cons name other =>
        rw [node?_of_ne_nil _ (List.cons_ne_nil name other),
          node?_of_ne_nil _ (List.cons_ne_nil name other)]
        exact SortedMap.get?_insert_of_ne tree.nodes node same

theorem node?_drop (tree : FileTree) {location : Location} (deep : location ≠ [])
    (other : Location) :
    (tree.drop location).node? other = if other = location then none else tree.node? other := by
  by_cases same : other = location
  · subst same
    rw [if_pos rfl, node?_of_ne_nil _ deep, drop, SortedMap.get?_erase_self]
  · rw [if_neg same]
    cases other with
    | nil => rfl
    | cons name other =>
        rw [node?_of_ne_nil _ (List.cons_ne_nil name other),
          node?_of_ne_nil _ (List.cons_ne_nil name other)]
        exact SortedMap.get?_erase_of_ne tree.nodes same

theorem drop_of_node?_eq_none {tree : FileTree} {location : Location}
    (absent : tree.node? location = none) : tree.drop location = tree := by
  have deep : location ≠ [] := by
    rintro rfl
    cases absent
  rw [node?_of_ne_nil _ deep] at absent
  obtain ⟨nodes, working⟩ := tree
  have same : nodes.erase location = nodes := by
    apply SortedMap.ext_get?
    intro other
    by_cases here : other = location
    · subst here
      rw [SortedMap.get?_erase_self]
      exact absent.symm
    · exact SortedMap.get?_erase_of_ne nodes here
  rw [drop, same]

theorem drop_put (tree : FileTree) (location : Location) (node : Node) :
    (tree.put location node).drop location = tree.drop location := by
  have same : (tree.nodes.insert location node).erase location = tree.nodes.erase location := by
    apply SortedMap.ext_get?
    intro other
    by_cases here : other = location
    · subst here
      rw [SortedMap.get?_erase_self, SortedMap.get?_erase_self]
    · rw [SortedMap.get?_erase_of_ne _ here, SortedMap.get?_erase_of_ne _ here,
        SortedMap.get?_insert_of_ne _ _ here]
  rw [drop, put, same]
  rfl

theorem drop_comm (tree : FileTree) (first second : Location) :
    (tree.drop first).drop second = (tree.drop second).drop first := by
  rw [drop, drop, drop, drop, SortedMap.erase_comm]

structure Keeps (before after : FileTree) : Prop where
  working : after.working = before.working
  directory : ∀ location, before.node? location = some .directory →
    after.node? location = some .directory

theorem Keeps.trans {first second third : FileTree} (left : Keeps first second)
    (right : Keeps second third) : Keeps first third :=
  ⟨right.working.trans left.working, fun location directory =>
    right.directory location (left.directory location directory)⟩

theorem keeps_put {tree : FileTree} {location : Location} (free : tree.node? location ≠ some .directory)
    (node : Node) : Keeps tree (tree.put location node) := by
  refine ⟨rfl, ?_⟩
  intro other directory
  have deep : location ≠ [] := by
    rintro rfl
    exact free rfl
  rw [node?_put _ deep, if_neg]
  · exact directory
  · rintro rfl
    exact free directory

theorem keeps_drop {tree : FileTree} {location : Location}
    (free : tree.node? location ≠ some .directory) : Keeps tree (tree.drop location) := by
  refine ⟨rfl, ?_⟩
  intro other directory
  have deep : location ≠ [] := by
    rintro rfl
    exact free rfl
  rw [node?_drop _ deep, if_neg]
  · exact directory
  · rintro rfl
    exact free directory

/-! ## Looking up paths -/

theorem walk_append (tree : FileTree) (location : Location) (first second : List Bytes) :
    tree.walk location (first ++ second) =
      match tree.walk location first with
      | .error fault => .error fault
      | .ok next => tree.walk next second := by
  induction first generalizing location with
  | nil => rfl
  | cons name first ih =>
      rw [List.cons_append, walk, walk]
      cases tree.enter location name with
      | error fault => rfl
      | ok next => exact ih next

theorem walk_append_ok {tree : FileTree} {location found : Location} {first second : List Bytes}
    (walked : tree.walk location (first ++ second) = .ok found) :
    ∃ next, tree.walk location first = .ok next ∧ tree.walk next second = .ok found := by
  rw [walk_append] at walked
  cases start : tree.walk location first with
  | error fault => simp [start] at walked
  | ok next =>
      rw [start] at walked
      exact ⟨next, rfl, walked⟩

theorem enter_dot_ok {tree : FileTree} {location next : Location}
    (entered : tree.enter location dot = .ok next) :
    next = location ∧ tree.node? location = some .directory := by
  unfold enter at entered
  split at entered
  next => cases entered
  next => cases entered
  next directory =>
    rw [if_pos rfl] at entered
    cases entered
    exact ⟨rfl, directory⟩

theorem enter_dot {tree : FileTree} {location : Location}
    (directory : tree.node? location = some .directory) : tree.enter location dot = .ok location := by
  rw [enter, directory]
  rfl

theorem enter_isFileName {tree : FileTree} {location : Location} {name : Bytes}
    (directory : tree.node? location = some .directory) (isFileName : IsFileName name) :
    tree.enter location name = .ok (location ++ [name]) := by
  rw [enter, directory]
  simp only [isFileName.ne_dot, isFileName.ne_dotDot, if_false]
  rw [if_neg (Nat.not_lt.2 isFileName.short)]

theorem enter_of_not_directory {tree : FileTree} {location : Location}
    (closed : tree.node? location ≠ some .directory) :
    ∃ fault, ∀ name, tree.enter location name = .error fault := by
  cases there : tree.node? location with
  | none => exact ⟨.notFound, fun name => by rw [enter, there]⟩
  | some node =>
      cases node with
      | directory => exact absurd there closed
      | file content => exact ⟨.notADirectory, fun name => by rw [enter, there]⟩

theorem walk_singleton (tree : FileTree) (location : Location) (name : Bytes) :
    tree.walk location [name] = tree.enter location name := by
  rw [walk]
  cases tree.enter location name <;> rfl

theorem walk_dots {tree : FileTree} {location found : Location} {count : Nat}
    (walked : tree.walk location (List.replicate count dot) = .ok found) : found = location := by
  induction count with
  | zero =>
      cases walked
      rfl
  | succ count ih =>
      rw [List.replicate_succ, walk] at walked
      cases entered : tree.enter location dot with
      | error fault => simp [entered] at walked
      | ok next =>
          obtain ⟨rfl, directory⟩ := enter_dot_ok entered
          rw [entered] at walked
          exact ih walked

theorem walk_dots_of_directory {tree : FileTree} {location : Location}
    (directory : tree.node? location = some .directory) (count : Nat) :
    tree.walk location (List.replicate count dot) = .ok location := by
  induction count with
  | zero => rfl
  | succ count ih =>
      rw [List.replicate_succ, walk, enter_dot directory]
      exact ih

theorem enter_of_keeps {before after : FileTree} (keeps : Keeps before after)
    {location found : Location} {name : Bytes} (entered : before.enter location name = .ok found) :
    after.enter location name = .ok found := by
  unfold enter at entered ⊢
  split at entered
  next => cases entered
  next => cases entered
  next directory =>
    rw [keeps.directory location directory]
    exact entered

theorem walk_of_keeps {before after : FileTree} (keeps : Keeps before after)
    {location found : Location} {names : List Bytes}
    (walked : before.walk location names = .ok found) : after.walk location names = .ok found := by
  induction names generalizing location with
  | nil => exact walked
  | cons name names ih =>
      rw [walk] at walked ⊢
      cases entered : before.enter location name with
      | error fault => simp [entered] at walked
      | ok next =>
          rw [entered] at walked
          rw [enter_of_keeps keeps entered]
          exact ih walked

theorem locate_of_keeps {before after : FileTree} (keeps : Keeps before after) {path : Path}
    {location : Location} (located : before.locate path = .ok location) :
    after.locate path = .ok location := by
  unfold locate at located ⊢
  cases checked : checkPath path with
  | error fault => simp [checked] at located
  | ok names =>
      rw [checked] at located
      simp only [start, keeps.working] at located ⊢
      exact walk_of_keeps keeps located

theorem findPlace_of_keeps {before after : FileTree} (keeps : Keeps before after) {path : Path}
    {place : Location × Option Bytes} (placed : before.findPlace path = .ok place) :
    after.findPlace path = .ok place := by
  unfold findPlace at placed ⊢
  cases checked : checkPath path with
  | error fault => simp [checked] at placed
  | ok names =>
      simp only [checked, start, keeps.working] at placed ⊢
      cases walked : before.walk (if path.isAbsolute then [] else before.working)
          (names.dropLast ++ [dot]) with
      | error fault => simp [walked] at placed
      | ok directory =>
          rw [walked] at placed
          rw [walk_of_keeps keeps walked]
          exact placed

theorem checkPath_ok {path : Path} {names : List Bytes} (checked : checkPath path = .ok names) :
    (0 : UInt8) ∉ path.octets ∧ path.octets.length ≤ pathLimit ∧ path.octets ≠ [] ∧
      names = path.names := by
  unfold checkPath at checked
  split at checked
  next => cases checked
  split at checked
  next => cases checked
  split at checked
  next => cases checked
  next no_zero short filled =>
    cases checked
    exact ⟨by simpa using no_zero, Nat.not_lt.1 short, by simpa using filled, rfl⟩

theorem checkPath_of_names {path : Path} (no_zero : (0 : UInt8) ∉ path.octets)
    (short : path.octets.length ≤ pathLimit) (filled : path.octets ≠ []) :
    checkPath path = .ok path.names := by
  rw [checkPath, if_neg (by simpa using no_zero), if_neg (Nat.not_lt.2 short),
    if_neg (by simpa using filled)]

theorem exists_barred {path : Path} (long : pathLimit < path.octets.length) :
    ∃ fault, checkPath path = .error fault := by
  cases checked : checkPath path with
  | error fault => exact ⟨fault, rfl⟩
  | ok names => exact absurd (checkPath_ok checked).2.1 (Nat.not_le.2 long)

/-! ## What is in a directory -/

structure Opens (tree : FileTree) (first : Location) (names : List Bytes) (location : Location) :
    Prop where
  walked : tree.walk first names = .ok location
  isDirectory : tree.node? location = some .directory

section Opens
variable {tree : FileTree} {first location : Location} {names : List Bytes}

theorem opens_of_walk_dot (walked : tree.walk first (names ++ [dot]) = .ok location) :
    tree.Opens first names location := by
  obtain ⟨next, walked, last⟩ := walk_append_ok walked
  rw [walk_singleton] at last
  obtain ⟨rfl, isDirectory⟩ := enter_dot_ok last
  exact ⟨walked, isDirectory⟩

theorem Opens.walk_dot (opens : tree.Opens first names location) :
    tree.walk first (names ++ [dot]) = .ok location := by
  rw [walk_append, opens.walked]
  exact (walk_singleton tree location dot).trans (enter_dot opens.isDirectory)

theorem opens_append_dots (count : Nat) :
    tree.Opens first (names ++ List.replicate count dot) location ↔
      tree.Opens first names location := by
  constructor
  · rintro ⟨walked, isDirectory⟩
    obtain ⟨next, walked, dots⟩ := walk_append_ok walked
    obtain rfl := walk_dots dots
    exact ⟨walked, isDirectory⟩
  · rintro ⟨walked, isDirectory⟩
    refine ⟨?_, isDirectory⟩
    rw [walk_append, walked]
    exact walk_dots_of_directory isDirectory count

end Opens

theorem start_of_isAbsolute (tree : FileTree) {first second : Path}
    (same : first.isAbsolute = second.isAbsolute) : tree.start first = tree.start second := by
  rw [start, start, same]

structure Finds (tree : FileTree) (directory : Path) (location : Location) : Prop where
  located : tree.locate directory = .ok location
  isDirectory : tree.node? location = some .directory

theorem finds_iff {tree : FileTree} {directory : Path} {location : Location} :
    tree.Finds directory location ↔ checkPath directory = .ok directory.names ∧
      tree.Opens (tree.start directory) directory.names location := by
  constructor
  · rintro ⟨located, isDirectory⟩
    unfold locate at located
    cases checked : checkPath directory with
    | error fault => simp [checked] at located
    | ok names =>
        obtain ⟨_, _, _, rfl⟩ := checkPath_ok checked
        simp only [checked] at located
        split at located
        next => exact ⟨rfl, opens_of_walk_dot located⟩
        next => exact ⟨rfl, located, isDirectory⟩
  · rintro ⟨checked, opens⟩
    refine ⟨?_, opens.isDirectory⟩
    simp only [locate, checked]
    split
    next => exact opens.walk_dot
    next => exact opens.walked

theorem isDirectory_iff {tree : FileTree} {path : Path} :
    tree.isDirectory path = true ↔ ∃ location, tree.Finds path location := by
  unfold isDirectory find
  constructor
  · intro found
    cases located : tree.locate path with
    | error fault => simp [located] at found
    | ok location =>
        cases there : tree.node? location with
        | none => simp [located, there] at found
        | some node =>
            cases node with
            | file content => simp [located, there] at found
            | directory => exact ⟨location, located, there⟩
  · rintro ⟨location, located, there⟩
    simp only [located, there]

theorem Finds.of_keeps {before after : FileTree} (keeps : Keeps before after) {directory : Path}
    {location : Location} (finds : before.Finds directory location) :
    after.Finds directory location :=
  ⟨locate_of_keeps keeps finds.located, keeps.directory location finds.isDirectory⟩

theorem Finds.checked {tree : FileTree} {directory : Path} {location : Location}
    (finds : tree.Finds directory location) :
    (0 : UInt8) ∉ directory.octets ∧ directory.octets ≠ [] := by
  obtain ⟨no_zero, _, filled, _⟩ := checkPath_ok (finds_iff.1 finds).1
  exact ⟨no_zero, filled⟩

theorem Finds.walk {tree : FileTree} {directory : Path} {location : Location}
    (finds : tree.Finds directory location) :
    tree.walk (tree.start directory) directory.names = .ok location :=
  (finds_iff.1 finds).2.walked

structure Ends (path : Path) (before : List Bytes) (name : Bytes) : Prop extends IsFileName name where
  names : path.names = before ++ [name]
  plain : path.endsInSlash = false

theorem ends_join {name : Bytes} (isFileName : IsFileName name) (directory : Path) :
    Ends (directory.join name) directory.names name :=
  ⟨isFileName, Path.names_join directory isFileName.toIsName, Path.not_endsInSlash_join isFileName.toIsName⟩

structure Leads (tree : FileTree) (path : Path) (location : Location) (name : Bytes) : Prop where
  located : tree.locate path = .ok (location ++ [name])
  placed : tree.findPlace path = .ok (location, some name)
  plain : path.endsInSlash = false

theorem Leads.of_keeps {before after : FileTree} (keeps : Keeps before after) {path : Path}
    {location : Location} {name : Bytes} (leads : before.Leads path location name) :
    after.Leads path location name :=
  ⟨locate_of_keeps keeps leads.located, findPlace_of_keeps keeps leads.placed, leads.plain⟩

section Ends
variable {tree : FileTree} {path : Path} {before : List Bytes} {name : Bytes}

theorem locate_of_ends (tree : FileTree) (ends : Ends path before name)
    (checked : checkPath path = .ok path.names) :
    tree.locate path = tree.walk (tree.start path) (before ++ [name]) := by
  simp only [locate, checked, ends.plain, ends.names, Bool.false_eq_true, if_false]

theorem findPlace_of_ends (tree : FileTree) (ends : Ends path before name)
    (checked : checkPath path = .ok path.names) :
    tree.findPlace path =
      (tree.walk (tree.start path) (before ++ [dot])).map fun directory => (directory, some name) := by
  simp only [findPlace, checked, ends.names, List.dropLast_concat, List.getLast?_concat, ends.ne_dot,
    ends.ne_dotDot, or_self, if_false, Nat.not_lt.2 ends.short]
  cases tree.walk (tree.start path) (before ++ [dot]) <;> rfl

theorem leads_iff (ends : Ends path before name) {location : Location} :
    tree.Leads path location name ↔ checkPath path = .ok path.names ∧
      tree.Opens (tree.start path) before location := by
  constructor
  · rintro ⟨_, placed, _⟩
    cases checked : checkPath path with
    | error fault => simp [findPlace, checked] at placed
    | ok names =>
        obtain ⟨_, _, _, rfl⟩ := checkPath_ok checked
        rw [findPlace_of_ends tree ends checked] at placed
        cases walked : tree.walk (tree.start path) (before ++ [dot]) with
        | error fault => simp [walked, Except.map] at placed
        | ok directory =>
            rw [walked] at placed
            cases placed
            exact ⟨rfl, opens_of_walk_dot walked⟩
  · rintro ⟨checked, opens⟩
    refine ⟨?_, ?_, ends.plain⟩
    · rw [locate_of_ends tree ends checked, walk_append, opens.walked]
      exact (walk_singleton tree location name).trans
        (enter_isFileName opens.isDirectory ends.toIsFileName)
    · rw [findPlace_of_ends tree ends checked, opens.walk_dot]
      rfl

theorem Leads.opens (ends : Ends path before name) {location : Location}
    (leads : tree.Leads path location name) : tree.Opens (tree.start path) before location :=
  ((leads_iff ends).1 leads).2

structure Lost (tree : FileTree) (path : Path) (fault : IoFault) : Prop where
  located : tree.locate path = .error fault
  placed : tree.findPlace path = .error fault

theorem lost_of_barred (tree : FileTree) {fault : IoFault} (barred : checkPath path = .error fault) :
    tree.Lost path fault :=
  ⟨by rw [locate, barred], by rw [findPlace, barred]⟩

theorem leads_or_lost (tree : FileTree) (ends : Ends path before name) :
    (∃ location, tree.Leads path location name) ∨ ∃ fault, tree.Lost path fault := by
  cases checked : checkPath path with
  | error fault => exact .inr ⟨fault, lost_of_barred tree checked⟩
  | ok names =>
      obtain ⟨_, _, _, rfl⟩ := checkPath_ok checked
      have located := locate_of_ends tree ends checked
      have placed := findPlace_of_ends tree ends checked
      rw [walk_append] at located placed
      cases walked : tree.walk (tree.start path) before with
      | error fault =>
          rw [walked] at located placed
          exact .inr ⟨fault, located, placed⟩
      | ok location =>
          by_cases directory : tree.node? location = some .directory
          · exact .inl ⟨location, (leads_iff ends).2 ⟨checked, walked, directory⟩⟩
          · obtain ⟨fault, closed⟩ := enter_of_not_directory directory
            simp only [walked, walk_singleton, closed] at located placed
            exact .inr ⟨fault, located, placed⟩

end Ends

theorem no_zero_join {directory : Path} {name : Bytes} (isFileName : IsFileName name)
    (no_zero : (0 : UInt8) ∉ directory.octets) : (0 : UInt8) ∉ (directory.join name).octets := by
  intro member
  rcases Path.mem_join isFileName.toIsName member with member | same | member
  · exact no_zero member
  · cases same
  · exact isFileName.no_zero member

theorem checkPath_join {directory : Path} {name : Bytes} (isFileName : IsFileName name)
    (no_zero : (0 : UInt8) ∉ directory.octets)
    (fits : (directory.join name).octets.length ≤ pathLimit) :
    checkPath (directory.join name) = .ok (directory.join name).names := by
  apply checkPath_of_names (no_zero_join isFileName no_zero) fits
  intro bare
  have names := Path.names_join directory isFileName.toIsName
  rw [Path.names, bare] at names
  exact absurd names (by simp [segments])

theorem leads_of_walk {tree : FileTree} {directory : Path} {location : Location} {name : Bytes}
    (walked : tree.walk (tree.start directory) directory.names = .ok location)
    (isDirectory : tree.node? location = some .directory) (isFileName : IsFileName name)
    (no_zero : (0 : UInt8) ∉ directory.octets)
    (fits : (directory.join name).octets.length ≤ pathLimit) :
    Leads tree (directory.join name) location name := by
  refine (leads_iff (ends_join isFileName directory)).2
    ⟨checkPath_join isFileName no_zero fits, ?_, isDirectory⟩
  rw [start_of_isAbsolute tree (Path.isAbsolute_join isFileName.toIsName)]
  exact walked

theorem leads_join {tree : FileTree} {directory : Path} {location : Location} {name : Bytes}
    (finds : tree.Finds directory location) (isFileName : IsFileName name)
    (fits : (directory.join name).octets.length ≤ pathLimit) :
    Leads tree (directory.join name) location name :=
  leads_of_walk finds.walk finds.isDirectory isFileName finds.checked.1 fits

theorem Finds.walk_parent {tree : FileTree} {directory : Path} {location : Location} {name : Bytes}
    (finds : tree.Finds directory location) (isName : IsName name) :
    ∃ parent, tree.walk (tree.start parent) parent.names = .ok location ∧
      (directory.join name).parent? = some parent ∧ parent.octets <+: directory.octets := by
  obtain ⟨parent, count, found, absolute, start, names⟩ := Path.parent?_join directory isName
  have opens := (finds_iff.1 finds).2
  rw [names, opens_append_dots, ← start_of_isAbsolute tree absolute] at opens
  exact ⟨parent, opens.walked, found, start⟩

theorem leads_withName {tree : FileTree} {directory : Path} {location : Location}
    {name other : Bytes} (finds : tree.Finds directory location) (isName : IsName name)
    (isFileName : IsFileName other)
    (fits : ((directory.join name).withName other).octets.length ≤ pathLimit) :
    Leads tree ((directory.join name).withName other) location other := by
  obtain ⟨parent, walked, found, start⟩ := finds.walk_parent isName
  rw [Path.withName, found] at fits ⊢
  exact leads_of_walk walked finds.isDirectory isFileName
    (fun member => finds.checked.1 (start.subset member)) fits

/-! ## Operations on a file -/

section Operations
variable {tree : FileTree} {path : Path} {location : Location} {name : Bytes}

theorem concat_ne_nil (location : Location) (name : Bytes) : location ++ [name] ≠ [] := by simp

theorem find_of_leads (leads : Leads tree path location name) {node : Node}
    (there : tree.node? (location ++ [name]) = some node) :
    tree.find path = .ok (location ++ [name], node) := by
  simp only [find, leads.located, there]

theorem not_isDirectory_of_leads (leads : Leads tree path location name)
    (free : tree.node? (location ++ [name]) ≠ some .directory) : ¬tree.isDirectory path := by
  intro found
  obtain ⟨other, located, directory⟩ := isDirectory_iff.1 found
  obtain rfl := Except.ok.inj (leads.located.symm.trans located)
  exact free directory

theorem not_isDirectory_of_ends {before : List Bytes} (ends : Ends path before name)
    (free : ∀ location, tree.node? (location ++ [name]) ≠ some .directory) :
    ¬tree.isDirectory path := by
  rcases leads_or_lost tree ends with ⟨location, leads⟩ | ⟨fault, lost⟩
  · exact not_isDirectory_of_leads leads (free location)
  · intro found
    obtain ⟨location, located, directory⟩ := isDirectory_iff.1 found
    cases lost.located.symm.trans located

theorem readFile_of_leads (leads : Leads tree path location name) {content : Bytes}
    (there : tree.node? (location ++ [name]) = some (.file content)) :
    tree.readFile path = .ok content := by
  rw [readFile, find_of_leads leads there]

theorem readFile_of_absent (leads : Leads tree path location name)
    (absent : tree.node? (location ++ [name]) = none) : tree.readFile path = .error .notFound := by
  simp only [readFile, find, leads.located, absent]

theorem readFile_of_directory (leads : Leads tree path location name)
    (there : tree.node? (location ++ [name]) = some .directory) :
    tree.readFile path = .error .isADirectory := by
  rw [readFile, find_of_leads leads there]

theorem writeFile_of_leads (leads : Leads tree path location name) (content : Bytes)
    (free : tree.node? (location ++ [name]) ≠ some .directory) :
    tree.writeFile path content = (.ok (), tree.put (location ++ [name]) (.file content)) := by
  rw [writeFile, leads.placed]
  simp [leads.plain, free]

theorem writeFile_of_directory (leads : Leads tree path location name) (content : Bytes)
    (there : tree.node? (location ++ [name]) = some .directory) :
    tree.writeFile path content = (.error .isADirectory, tree) := by
  rw [writeFile, leads.placed]
  simp [there]

theorem removeFile_of_leads (leads : Leads tree path location name) {content : Bytes}
    (there : tree.node? (location ++ [name]) = some (.file content)) :
    tree.removeFile path = (.ok (), tree.drop (location ++ [name])) := by
  rw [removeFile, leads.placed]
  simp [there, leads.plain]

theorem removeFile_of_absent (leads : Leads tree path location name)
    (absent : tree.node? (location ++ [name]) = none) :
    tree.removeFile path = (.error .notFound, tree) := by
  rw [removeFile, leads.placed]
  simp [absent]

theorem removeFile_of_directory (leads : Leads tree path location name)
    (there : tree.node? (location ++ [name]) = some .directory) :
    tree.removeFile path = (.error .isADirectory, tree) := by
  rw [removeFile, leads.placed]
  simp [there]

theorem find_of_lost {fault : IoFault} (lost : tree.Lost path fault) :
    tree.find path = .error fault := by
  rw [find, lost.located]

theorem writeFile_of_lost {fault : IoFault} (lost : tree.Lost path fault) (content : Bytes) :
    tree.writeFile path content = (.error fault, tree) := by
  rw [writeFile, lost.placed]

theorem removeFile_of_lost {fault : IoFault} (lost : tree.Lost path fault) :
    tree.removeFile path = (.error fault, tree) := by
  rw [removeFile, lost.placed]

theorem rename_of_leads {target : Path} {last : Bytes} (source : Leads tree path location name)
    (leads : Leads tree target location last) {content : Bytes}
    (there : tree.node? (location ++ [name]) = some (.file content))
    (free : tree.node? (location ++ [last]) ≠ some .directory) :
    tree.rename path target = (.ok (),
      (tree.drop (location ++ [name])).put (location ++ [last]) (.file content)) := by
  rw [rename, find_of_leads source there, leads.placed]
  simp [free, leads.plain]

theorem rename_to_directory {target : Path} {last : Bytes} (source : Leads tree path location name)
    (leads : Leads tree target location last) {content : Bytes}
    (there : tree.node? (location ++ [name]) = some (.file content))
    (taken : tree.node? (location ++ [last]) = some .directory) :
    tree.rename path target = (.error .isADirectory, tree) := by
  rw [rename, find_of_leads source there, leads.placed]
  simp [taken]

theorem rename_to_lost {target : Path} {fault : IoFault} (source : Leads tree path location name)
    (lost : tree.Lost target fault) {content : Bytes}
    (there : tree.node? (location ++ [name]) = some (.file content)) :
    tree.rename path target = (.error fault, tree) := by
  rw [rename, find_of_leads source there, lost.placed]

end Operations

theorem childName?_eq_some_iff {location other : Location} {name : Bytes} :
    childName? location other = some name ↔ other = location ++ [name] := by
  unfold childName?
  constructor
  · intro found
    split at found
    next => cases found
    split at found
    next => grind
    next => cases found
  · rintro rfl
    simp

theorem readDirectory_of_finds {tree : FileTree} {directory : Path} {location : Location}
    (finds : tree.Finds directory location) :
    ∃ names, tree.readDirectory directory = .ok names ∧ names.Nodup ∧
      ∀ name, name ∈ names ↔ tree.node? (location ++ [name]) ≠ none := by
  refine ⟨tree.nodes.keys.filterMap (childName? location), ?_, ?_, ?_⟩
  · simp only [readDirectory, find, finds.located, finds.isDirectory]
  · apply List.Nodup.filterMap _ (SortedMap.nodup_keys tree.nodes)
    intro first second name left right
    rw [childName?_eq_some_iff.1 left, childName?_eq_some_iff.1 right]
  · intro name
    rw [node?_of_ne_nil _ (concat_ne_nil location name), List.mem_filterMap]
    simp only [childName?_eq_some_iff, exists_eq_right, ne_eq, SortedMap.get?_eq_none_iff,
      Classical.not_not]

/-! ## Creating a directory that is there -/

theorem enter_ok {tree : FileTree} {location next : Location} {name : Bytes}
    (entered : tree.enter location name = .ok next) :
    tree.node? location = some .directory ∧
      (name = dot ∨ name = dotDot ∨ name.length ≤ nameLimit ∧ next = location ++ [name]) := by
  unfold enter at entered
  split at entered
  next => cases entered
  next => cases entered
  next directory =>
    refine ⟨directory, ?_⟩
    split at entered
    next same => exact .inl same
    split at entered
    next same => exact .inr (.inl same)
    split at entered
    next => cases entered
    next short =>
      cases entered
      exact .inr (.inr ⟨Nat.not_lt.1 short, rfl⟩)

theorem createDirectory_of_finds {tree : FileTree} {directory : Path} {location : Location}
    (finds : tree.Finds directory location) :
    tree.createDirectory directory = (.error .alreadyExists, tree) := by
  have located := finds.located
  have walked := finds.walk
  unfold locate at located
  cases checked : checkPath directory with
  | error fault => simp [checked] at located
  | ok names =>
      obtain ⟨_, _, _, rfl⟩ := checkPath_ok checked
      rcases List.eq_nil_or_concat directory.names with bare | ⟨before, last, names⟩
      · rw [bare] at walked
        obtain rfl := Except.ok.inj walked
        simp [createDirectory, findPlace, checked, bare, walk_singleton, enter_dot finds.isDirectory]
      · rw [List.concat_eq_append] at names
        rw [names] at walked
        obtain ⟨outer, reached, last_walked⟩ := walk_append_ok walked
        rw [walk_singleton] at last_walked
        obtain ⟨isDirectory, named⟩ := enter_ok last_walked
        have inside : tree.walk (tree.start directory) (before ++ [dot]) = .ok outer := by
          rw [walk_append, reached]
          exact (walk_singleton tree outer dot).trans (enter_dot isDirectory)
        simp only [createDirectory, findPlace, checked, names, List.dropLast_concat, inside,
          List.getLast?_concat]
        by_cases dotted : last = dot ∨ last = dotDot
        · rw [if_pos dotted]
        · rw [not_or] at dotted
          rcases named with same | same | ⟨short, rfl⟩
          · exact absurd same dotted.1
          · exact absurd same dotted.2
          · rw [if_neg (by simp [dotted]), if_neg (Nat.not_lt.2 short)]
            simp [finds.isDirectory]

theorem createDirectories_of_finds {tree : FileTree} {directory : Path} {location : Location}
    (finds : tree.Finds directory location) :
    FileSystem.createDirectories tree directory = (.ok (), tree) := by
  have kept : FileSystem.createOrKeep tree directory = (.ok (), tree) := by
    rw [FileSystem.createOrKeep, show FileSystem.createDirectory tree directory =
      (.error .alreadyExists, tree) from createDirectory_of_finds finds]
  rw [FileSystem.createDirectories, Path.ancestors, Path.ancestorsUpTo]
  cases directory.parent? with
  | none => rfl
  | some parent => simp only [FileSystem.createChain, kept]

end LocaleStaging.FileTree
