import LocaleStaging.Storage.IoFault
import LocaleStaging.Storage.Path

namespace LocaleStaging

class FileSystem (φ : Type) where
  readFile : φ → Path → Except IoFault Bytes
  /-- The names in a directory, in any order. -/
  readDirectory : φ → Path → Except IoFault (List Bytes)
  isDirectory : φ → Path → Bool
  writeFile : φ → Path → Bytes → Except IoFault Unit × φ
  /-- Moves a file, in place of the file that the other path names. -/
  rename : φ → Path → Path → Except IoFault Unit × φ
  removeFile : φ → Path → Except IoFault Unit × φ
  createDirectory : φ → Path → Except IoFault Unit × φ

namespace FileSystem

variable {φ : Type} [FileSystem φ]

/-- Creates a directory in one that exists. What already has its name is left as it is. -/
def createOrKeep (files : φ) (path : Path) : Except IoFault Unit × φ :=
  match createDirectory files path with
  | (.error .alreadyExists, files) => (.ok (), files)
  | ended => ended

def createChain (files : φ) : List Path → Except IoFault Unit × φ
  | [] => (.ok (), files)
  | path :: outer =>
    match createOrKeep files path with
    | (.error .notFound, files) =>
      match createChain files outer with
      | (.error fault, files) => (.error fault, files)
      | (.ok (), files) => createOrKeep files path
    | ended => ended

/-- Creates a directory and those around it that are missing. It is no fault that something other
than a directory already has its name. -/
def createDirectories (files : φ) (path : Path) : Except IoFault Unit × φ :=
  createChain files path.ancestors

/-- Creates a directory and those around it that are missing, and fails if something other than a
directory has its name. -/
def ensureDirectory (files : φ) (path : Path) : Except IoFault Unit × φ :=
  match createDirectories files path with
  | (.ok (), files) =>
    (if isDirectory files path then .ok () else .error .alreadyExists, files)
  | ended => ended

end FileSystem
end LocaleStaging
