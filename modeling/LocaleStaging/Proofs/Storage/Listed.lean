import LocaleStaging.Proofs.Storage.StageStore

/-!
# Directories listed in any order

A file system gives the names in a directory in an order of its own. A tree whose directories are
listed in some order (`Listed`) is a tree in everything else, and the entries of a store are put in
order again. So work with a store does to the one what it does to the other (`Mirrors`).
-/

namespace LocaleStaging

/-- An order in which directories are listed. It can be another one at each directory, and each time
that something was changed. -/
structure ListingOrder where
  arrange : FileTree → Path → List Bytes → List Bytes
  perm : ∀ tree path names, (arrange tree path names).Perm names

def ListingOrder.reversed : ListingOrder where
  arrange _ _ names := names.reverse
  perm _ _ names := List.reverse_perm names

structure Listed (order : ListingOrder) where
  tree : FileTree

namespace Listed

variable {order : ListingOrder} {α β : Type}

def changed (done : Except IoFault Unit × FileTree) : Except IoFault Unit × Listed order :=
  (done.1, ⟨done.2⟩)

instance : FileSystem (Listed order) where
  readFile files path := files.tree.readFile path
  readDirectory files path := (files.tree.readDirectory path).map (order.arrange files.tree path)
  isDirectory files path := files.tree.isDirectory path
  writeFile files path content := changed (files.tree.writeFile path content)
  rename files source target := changed (files.tree.rename source target)
  removeFile files path := changed (files.tree.removeFile path)
  createDirectory files path := changed (files.tree.createDirectory path)

def treeOf (workspace : Workspace (Listed order)) : FileTree := workspace.files.tree

def plain (workspace : Workspace (Listed order)) : Workspace FileTree :=
  ⟨workspace.files.tree, workspace.output⟩

def Mirrors (work : Work (Listed order) α) (plainWork : Work FileTree α) : Prop :=
  ∀ workspace, (work workspace).1 = (plainWork (plain workspace)).1 ∧
    plain (work workspace).2 = (plainWork (plain workspace)).2

theorem Mirrors.yields {work : Work (Listed order) α} {plainWork : Work FileTree α}
    (mirrors : Mirrors work plainWork) {tree after : FileTree} {answer : α}
    (yields : Yields Workspace.files plainWork tree answer after) :
    Yields treeOf work tree answer after := by
  intro workspace shown
  obtain ⟨answered, left⟩ := mirrors workspace
  obtain ⟨given, done⟩ := yields (plain workspace) shown
  exact ⟨answered.trans given, (congrArg Workspace.files left).trans done⟩

theorem Mirrors.pure (value : α) :
    Mirrors (Pure.pure value : Work (Listed order) α) (Pure.pure value) :=
  fun _ => ⟨rfl, rfl⟩

theorem Mirrors.bind {work : Work (Listed order) α} {plainWork : Work FileTree α}
    {next : α → Work (Listed order) β} {plainNext : α → Work FileTree β}
    (first : Mirrors work plainWork) (later : ∀ value, Mirrors (next value) (plainNext value)) :
    Mirrors (work >>= next) (plainWork >>= plainNext) := by
  intro workspace
  obtain ⟨answered, left⟩ := first workspace
  have rest := later (work workspace).1 (work workspace).2
  rw [left] at rest
  change (next (work workspace).1 (work workspace).2).1 =
      (plainNext (plainWork (plain workspace)).1 (plainWork (plain workspace)).2).1 ∧
    plain (next (work workspace).1 (work workspace).2).2 =
      (plainNext (plainWork (plain workspace)).1 (plainWork (plain workspace)).2).2
  rwa [← answered]

theorem mirrors_note (notice : Notice) :
    Mirrors (Work.note notice : Work (Listed order) Unit) (Work.note notice) :=
  fun _ => ⟨rfl, rfl⟩

theorem mirrors_look {question : Listed order → α} {plainQuestion : FileTree → α}
    (same : ∀ files, question files = plainQuestion files.tree) :
    Mirrors (Work.look question) (Work.look plainQuestion) :=
  fun workspace => ⟨same workspace.files, rfl⟩

theorem mirrors_change {change : Listed order → α × Listed order}
    {plainChange : FileTree → α × FileTree}
    (same : ∀ files, (change files).1 = (plainChange files.tree).1 ∧
      (change files).2.tree = (plainChange files.tree).2) :
    Mirrors (Work.change change) (Work.change plainChange) := by
  intro workspace
  obtain ⟨answered, left⟩ := same workspace.files
  exact ⟨answered, congrArg (Workspace.mk · workspace.output) left⟩

/-! ## Creating directories -/

theorem createOrKeep_eq (tree : FileTree) (path : Path) :
    FileSystem.createOrKeep (⟨tree⟩ : Listed order) path =
      changed (FileSystem.createOrKeep tree path) := by
  have made : FileSystem.createDirectory (⟨tree⟩ : Listed order) path =
      changed (FileSystem.createDirectory tree path) := rfl
  rw [FileSystem.createOrKeep, FileSystem.createOrKeep, made]
  cases FileSystem.createDirectory tree path with
  | mk answer after =>
      cases answer with
      | ok done => rfl
      | error fault => cases fault <;> rfl

theorem createChain_eq (paths : List Path) (tree : FileTree) :
    FileSystem.createChain (⟨tree⟩ : Listed order) paths =
      changed (FileSystem.createChain tree paths) := by
  induction paths generalizing tree with
  | nil => rfl
  | cons path outer ih =>
      rw [FileSystem.createChain, FileSystem.createChain, createOrKeep_eq]
      cases FileSystem.createOrKeep tree path with
      | mk answer after =>
          cases answer with
          | ok done => rfl
          | error fault =>
              cases fault with
              | notFound =>
                  simp only [changed]
                  rw [ih]
                  cases FileSystem.createChain after outer with
                  | mk made last =>
                      cases made with
                      | ok done => exact createOrKeep_eq last path
                      | error fault => rfl
              | _ => rfl

theorem mirrors_createDirectories (path : Path) :
    Mirrors (Work.change fun files : Listed order => FileSystem.createDirectories files path)
      (Work.change fun files => FileSystem.createDirectories files path) := by
  apply mirrors_change
  intro files
  rw [FileSystem.createDirectories, FileSystem.createDirectories, createChain_eq]
  exact ⟨rfl, rfl⟩

/-! ## Work with a store -/

theorem mirrors_openAt (directory : Path) :
    Mirrors (StageStore.openAt directory : Work (Listed order) _) (StageStore.openAt directory) := by
  refine Mirrors.bind (mirrors_createDirectories directory) ?_
  intro made
  cases made <;> exact Mirrors.pure _

theorem mirrors_readAt (path : Path) :
    Mirrors (StageStore.readAt path : Work (Listed order) _) (StageStore.readAt path) := by
  refine Mirrors.bind (mirrors_look fun files => rfl) ?_
  intro found
  cases found with
  | ok content => exact Mirrors.pure _
  | error cause => cases cause <;> exact Mirrors.pure _

theorem mirrors_removeFile (path : Path) :
    Mirrors (Work.change fun files : Listed order => FileSystem.removeFile files path)
      (Work.change fun files => FileSystem.removeFile files path) :=
  mirrors_change fun _ => ⟨rfl, rfl⟩

theorem mirrors_removeAt (path : Path) :
    Mirrors (StageStore.removeAt path : Work (Listed order) _) (StageStore.removeAt path) := by
  refine Mirrors.bind (mirrors_removeFile path) ?_
  intro removed
  cases removed with
  | ok done => exact Mirrors.pure _
  | error cause => cases cause <;> exact Mirrors.pure _

theorem mirrors_writeFile (path : Path) (content : Bytes) :
    Mirrors (Work.change fun files : Listed order => FileSystem.writeFile files path content)
      (Work.change fun files => FileSystem.writeFile files path content) :=
  mirrors_change fun _ => ⟨rfl, rfl⟩

theorem mirrors_rename (source target : Path) :
    Mirrors (Work.change fun files : Listed order => FileSystem.rename files source target)
      (Work.change fun files => FileSystem.rename files source target) :=
  mirrors_change fun _ => ⟨rfl, rfl⟩

theorem mirrors_write (store : StageStore) (user : UserId) (content : Bytes) :
    Mirrors (store.write user content : Work (Listed order) _) (store.write user content) := by
  refine Mirrors.bind (mirrors_writeFile _ content) ?_
  intro wrote
  cases wrote with
  | error cause => exact Mirrors.bind (mirrors_removeFile _) fun _ => Mirrors.pure _
  | ok done =>
      refine Mirrors.bind (mirrors_rename _ _) ?_
      intro moved
      cases moved with
      | error cause => exact Mirrors.bind (mirrors_removeFile _) fun _ => Mirrors.pure _
      | ok done => exact Mirrors.bind (mirrors_note _) fun _ => Mirrors.pure _

theorem mergeSort_of_perm {names others : List Bytes} (perm : names.Perm others) :
    (names.mergeSort fun earlier later => (compare earlier later).isLE) =
      others.mergeSort fun earlier later => (compare earlier later).isLE := by
  refine List.Perm.eq_of_pairwise ?_ (StageStore.pairwise_sorted names)
    (StageStore.pairwise_sorted others) ?_
  · intro first second _ _ left right
    exact Std.LawfulEqOrd.eq_of_compare (Std.OrientedCmp.isLE_antisymm left right)
  · exact (List.mergeSort_perm names _).trans (perm.trans (List.mergeSort_perm others _).symm)

def listing (store : StageStore) : Except IoFault (List Bytes) → Except StoreError (List StageEntry)
  | .ok names =>
    .ok ((names.mergeSort fun earlier later => (compare earlier later).isLE).map store.entry)
  | .error .notFound => .ok []
  | .error cause => .error ⟨.readDirectory, cause, store.directory⟩

theorem entries_eq_look {φ : Type} [FileSystem φ] (store : StageStore) :
    (store.entries : Work φ _) =
      Work.look fun files => listing store (FileSystem.readDirectory files store.directory) := by
  funext workspace
  change (match FileSystem.readDirectory workspace.files store.directory with
    | .ok names => pure (.ok
        ((names.mergeSort fun earlier later => (compare earlier later).isLE).map store.entry))
    | .error .notFound => pure (.ok [])
    | .error cause => pure (.error ⟨.readDirectory, cause, store.directory⟩) :
      Work φ (Except StoreError (List StageEntry))) workspace =
    (listing store (FileSystem.readDirectory workspace.files store.directory), workspace)
  cases FileSystem.readDirectory workspace.files store.directory with
  | ok names => rfl
  | error cause => cases cause <;> rfl

theorem mirrors_entries (store : StageStore) :
    Mirrors (store.entries : Work (Listed order) _) store.entries := by
  rw [entries_eq_look, entries_eq_look]
  apply mirrors_look
  intro files
  change listing store ((files.tree.readDirectory store.directory).map
    (order.arrange files.tree store.directory)) =
      listing store (files.tree.readDirectory store.directory)
  cases files.tree.readDirectory store.directory with
  | ok names =>
      rw [Except.map, listing, listing, mergeSort_of_perm (order.perm files.tree store.directory names)]
  | error cause => rfl

end Listed
end LocaleStaging
