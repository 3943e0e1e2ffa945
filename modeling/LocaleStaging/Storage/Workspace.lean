import LocaleStaging.Log.Notice
import LocaleStaging.Storage.FileSystem

namespace LocaleStaging

structure Workspace (φ : Type) where
  files : φ
  output : List Emission

abbrev Work (φ : Type) := StateM (Workspace φ)

namespace Work

variable {φ α : Type}

def note (notice : Notice) : Work φ Unit :=
  modify fun workspace => { workspace with output := workspace.output ++ [.notice notice] }

def print (text : String) : Work φ Unit :=
  modify fun workspace => { workspace with output := workspace.output ++ [.line text] }

def printAll (texts : List String) : Work φ Unit :=
  modify fun workspace => { workspace with output := workspace.output ++ texts.map .line }

def look (question : φ → α) : Work φ α := return question (← get).files

def change (work : φ → α × φ) : Work φ α := fun workspace =>
  let (answer, files) := work workspace.files
  (answer, { workspace with files })

end Work
end LocaleStaging
