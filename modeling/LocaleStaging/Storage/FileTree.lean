import LocaleStaging.SortedMap
import LocaleStaging.Storage.FileSystem

namespace LocaleStaging

abbrev Location := List Bytes

inductive Node where
  | file (content : Bytes)
  | directory
deriving DecidableEq, Repr

structure FileTree where
  nodes : SortedMap Location Node
  working : Location
deriving DecidableEq

namespace FileTree

def nameLimit : Nat := 255

def pathLimit : Nat := 4095

/-- What stands at a location. The root is always a directory. -/
def node? (tree : FileTree) (location : Location) : Option Node :=
  if location.isEmpty then some .directory else tree.nodes.get? location

def enter (tree : FileTree) (location : Location) (name : Bytes) : Except IoFault Location :=
  match tree.node? location with
  | none => .error .notFound
  | some (.file _) => .error .notADirectory
  | some .directory =>
    if name = Path.dot then .ok location
    else if name = Path.dotDot then .ok location.dropLast
    else if nameLimit < name.length then .error .nameTooLong
    else .ok (location ++ [name])

/-- Follows names from a location. Nothing has to stand where they end. -/
def walk (tree : FileTree) (location : Location) : List Bytes → Except IoFault Location
  | [] => .ok location
  | name :: rest =>
    match tree.enter location name with
    | .error fault => .error fault
    | .ok next => tree.walk next rest

def checkPath (path : Path) : Except IoFault (List Bytes) :=
  if path.octets.contains 0 then .error .zeroInName
  else if pathLimit < path.octets.length then .error .nameTooLong
  else if path.octets.isEmpty then .error .notFound
  else .ok path.names

def start (tree : FileTree) (path : Path) : Location := if path.isAbsolute then [] else tree.working

/-- The location that a path names. A path with a slash at its end names a directory. -/
def locate (tree : FileTree) (path : Path) : Except IoFault Location :=
  match checkPath path with
  | .error fault => .error fault
  | .ok names =>
    tree.walk (tree.start path) (if path.endsInSlash then names ++ [Path.dot] else names)

def find (tree : FileTree) (path : Path) : Except IoFault (Location × Node) :=
  match tree.locate path with
  | .error fault => .error fault
  | .ok location =>
    match tree.node? location with
    | none => .error .notFound
    | some node => .ok (location, node)

def findPlace (tree : FileTree) (path : Path) : Except IoFault (Location × Option Bytes) :=
  match checkPath path with
  | .error fault => .error fault
  | .ok names =>
    match tree.walk (tree.start path) (names.dropLast ++ [Path.dot]) with
    | .error fault => .error fault
    | .ok directory =>
      match names.getLast? with
      | none => .ok (directory, none)
      | some name =>
        if name = Path.dot ∨ name = Path.dotDot then .ok (directory, none)
        else if nameLimit < name.length then .error .nameTooLong
        else .ok (directory, some name)

def put (tree : FileTree) (location : Location) (node : Node) : FileTree :=
  { tree with nodes := tree.nodes.insert location node }

def drop (tree : FileTree) (location : Location) : FileTree :=
  { tree with nodes := tree.nodes.erase location }

def readFile (tree : FileTree) (path : Path) : Except IoFault Bytes :=
  match tree.find path with
  | .error fault => .error fault
  | .ok (_, .directory) => .error .isADirectory
  | .ok (_, .file content) => .ok content

def childName? (directory location : Location) : Option Bytes :=
  match location.getLast? with
  | none => none
  | some name => if location = directory ++ [name] then some name else none

def readDirectory (tree : FileTree) (path : Path) : Except IoFault (List Bytes) :=
  match tree.find path with
  | .error fault => .error fault
  | .ok (_, .file _) => .error .notADirectory
  | .ok (location, .directory) => .ok (tree.nodes.keys.filterMap (childName? location))

def isDirectory (tree : FileTree) (path : Path) : Bool :=
  match tree.find path with
  | .ok (_, .directory) => true
  | _ => false

def writeFile (tree : FileTree) (path : Path) (content : Bytes) : Except IoFault Unit × FileTree :=
  match tree.findPlace path with
  | .error fault => (.error fault, tree)
  | .ok (_, none) => (.error .isADirectory, tree)
  | .ok (directory, some name) =>
    if path.endsInSlash ∨ tree.node? (directory ++ [name]) = some .directory then
      (.error .isADirectory, tree)
    else (.ok (), tree.put (directory ++ [name]) (.file content))

def removeFile (tree : FileTree) (path : Path) : Except IoFault Unit × FileTree :=
  match tree.findPlace path with
  | .error fault => (.error fault, tree)
  | .ok (_, none) => (.error .isADirectory, tree)
  | .ok (directory, some name) =>
    match tree.node? (directory ++ [name]) with
    | none => (.error .notFound, tree)
    | some .directory => (.error .isADirectory, tree)
    | some (.file _) =>
      if path.endsInSlash then (.error .notADirectory, tree)
      else (.ok (), tree.drop (directory ++ [name]))

def rename (tree : FileTree) (source target : Path) : Except IoFault Unit × FileTree :=
  match tree.find source, tree.findPlace target with
  | .error fault, _ => (.error fault, tree)
  | _, .error fault => (.error fault, tree)
  | .ok (_, .directory), _ => (.error .isADirectory, tree)
  | _, .ok (_, none) => (.error .isADirectory, tree)
  | .ok (location, .file content), .ok (directory, some name) =>
    if tree.node? (directory ++ [name]) = some .directory then (.error .isADirectory, tree)
    else if target.endsInSlash then (.error .notADirectory, tree)
    else (.ok (), (tree.drop location).put (directory ++ [name]) (.file content))

def createDirectory (tree : FileTree) (path : Path) : Except IoFault Unit × FileTree :=
  match tree.findPlace path with
  | .error fault => (.error fault, tree)
  | .ok (_, none) => (.error .alreadyExists, tree)
  | .ok (directory, some name) =>
    if (tree.node? (directory ++ [name])).isSome then (.error .alreadyExists, tree)
    else (.ok (), tree.put (directory ++ [name]) .directory)

instance : FileSystem FileTree where
  readFile := readFile
  readDirectory := readDirectory
  isDirectory := isDirectory
  writeFile := writeFile
  rename := rename
  removeFile := removeFile
  createDirectory := createDirectory

def clear (tree : FileTree) (location : Location) : FileTree :=
  { tree with
    nodes := tree.nodes.filter fun other _ => !location.isPrefixOf other || other == location }

/-- Takes away what a path names, with everything in it. A directory is cleared and then looked up
again, so it stays where its path leads through what was in it, or ends in dots. -/
def removeAll (tree : FileTree) (path : Path) : Except IoFault Unit × FileTree :=
  match tree.find path with
  | .error fault => (.error fault, tree)
  | .ok (_, .file _) => tree.removeFile path
  | .ok (location, .directory) =>
    let cleared := tree.clear location
    match cleared.findPlace path with
    | .error .notFound => (.ok (), cleared)
    | .error fault => (.error fault, cleared)
    | .ok (_, none) => (.error .isADirectory, cleared)
    | .ok (directory, some name) => (.ok (), cleared.drop (directory ++ [name]))

def below (tree : FileTree) (location : Location) : List (Location × Node) :=
  tree.nodes.toList.filterMap fun entry =>
    if location.isPrefixOf entry.1 ∧ entry.1 ≠ location then
      some (entry.1.drop location.length, entry.2)
    else none

end FileTree
end LocaleStaging
