import LocaleStaging.Program
import LocaleStaging.Storage.FileTree
import Std.Time.DateTime.Timestamp

namespace LocaleStaging.Main

def address (location : Location) : String :=
  "/" ++ "/".intercalate (location.map Utf8.decodeLossy)

def locationOf (path : String) : Location :=
  (segments Path.slash (Utf8.encode path)).filter fun name => !name.isEmpty

def passed (location : Location) : List Bytes → List Location
  | [] => []
  | name :: rest =>
    let next :=
      if name = Path.dot then location
      else if name = Path.dotDot then location.dropLast
      else location ++ [name]
    next :: passed next rest

def observe (tree : FileTree) (location : Location) : IO (FileTree × Bool) := do
  let place := (← IO.currentDir) / address location
  try
    if (← place.metadata).type == .dir then return (tree.put location .directory, true)
    let content ← IO.FS.readBinFile place
    return (tree.put location (.file content.data.toList), false)
  catch _ => return (tree, false)

def observePath (tree : FileTree) (path : Path) : IO FileTree := do
  let start := tree.start path
  let mut tree := tree
  let mut isDirectory := false
  for location in passed start path.names do
    (tree, isDirectory) ← observe tree location
  if isDirectory then
    let directory := (passed start path.names).getLastD start
    for entry in ← ((← IO.currentDir) / address directory).readDir do
      (tree, _) ← observe tree (directory ++ [Utf8.encode entry.fileName])
  return tree

def observePaths (tree : FileTree) (paths : List Path) : IO FileTree := paths.foldlM observePath tree

def workingTree : IO FileTree := do
  let working := locationOf (← IO.currentDir).toString
  return (passed [] working).foldl (fun tree location => tree.put location .directory) ⟨∅, working⟩

def gather (environment : Environment) (arguments : List Bytes) : IO FileTree := do
  let tree ← workingTree
  match Arguments.read arguments with
  | .error _ => return tree
  | .ok call =>
    let tree ← observePaths tree (Program.pathsOf environment call tree)
    observePaths tree (Program.pathsOf environment call tree)

def commit (before after : FileTree) : IO Unit := do
  let root ← IO.currentDir
  for (location, node) in after.nodes.toList do
    if before.node? location ≠ some node then
      match node with
      | .directory => IO.FS.createDir (root / address location)
      | .file content => IO.FS.writeBinFile (root / address location) ⟨content.toArray⟩
  for location in before.nodes.keys do
    if (after.node? location).isNone then IO.FS.removeFile (root / address location)

def run (arguments : List Bytes) : IO UInt32 := do
  let block ← IO.FS.readBinFile "/proc/self/environ"
  let environment := Environment.ofBlock block.data.toList
  let now ← Std.Time.Timestamp.now
  let files ← gather environment arguments
  let ending :=
    Program.run environment (Int64.ofInt now.toMillisecondsSinceUnixEpoch.val) arguments files
  commit files ending.files
  (← IO.getStdout).putStr ending.output
  (← IO.getStderr).putStr ending.complaint
  return UInt32.ofNat ending.code

end LocaleStaging.Main

def main (arguments : List String) : IO UInt32 :=
  LocaleStaging.Main.run (arguments.map LocaleStaging.Utf8.encode)
