import SessionGate.CommandLine.Run

/- The program. It looks at the files that a run can touch, runs, and writes back what changed. No
   request leaves it, so every remote call fails. -/
namespace SessionGate.Program

open Storage

def variableNames : List String := [
  "SESSION_BASE_URL", "SESSION_STORAGE_PATH", "SESSION_DEFAULT_AVATAR", "SESSION_LOGIN_PAGE",
  "SESSION_REQUEST_TIMEOUT_SECS", "SESSION_CONNECT_TIMEOUT_SECS", "SESSION_PASSWORD"]

def readEnvironment : IO Environment :=
  variableNames.filterMapM fun name => do
    return (← IO.getEnv name).map fun value => (name, Text.encode value)

def pathText (path : Path) : String := "/".intercalate path.parts

def plain (path : Path) : Path :=
  ⟨(if path.isAbsolute then [""] else []) ++ path.names⟩

def look (path : Path) : IO (Option Node) := do
  try
    return some (.file (← IO.FS.readBinFile (pathText path)).toList)
  catch
    | .noFileOrDirectory .. => return none
    | _ => return some .empty

def take (path : Path) (tree : FileTree) : IO FileTree := do
  let mut tree := tree
  for step in path.above ++ [plain path] do
    if let .ok way := FileTree.locate step tree then
      if let some node ← look step then
        if let .ok after := FileTree.update (fun old => .ok (some (old.getD node))) way tree then
          tree := after
  return tree

def isChanged (path : Path) (before after : FileTree) : Bool :=
  (FileTree.read path before).toOption ≠ (FileTree.read path after).toOption

/-- Makes the directories that a run made, leaves a document that it could not move into place, and
writes a changed one beside the old one before it moves it. -/
def putBack (path : Path) (before after : FileTree) : IO Unit := do
  for directory in path.above do
    if let .ok (.directory _) := FileTree.find directory after then
      IO.FS.createDirAll (pathText directory)
  if isChanged path.temporary before after then
    if let .ok content := FileTree.read path.temporary after then
      IO.FS.writeBinFile (pathText path.temporary) ⟨content.toArray⟩
  if isChanged path before after then
    if let .ok content := FileTree.read path after then
      IO.FS.writeBinFile (pathText path.temporary) ⟨content.toArray⟩
      IO.FS.rename (pathText path.temporary) (pathText path)

end SessionGate.Program

open SessionGate Program in
def main (args : List String) : IO UInt32 := do
  let env ← readEnvironment
  let tree ← take (.ofString ".env") .empty
  let name := match CommandLine.plan env args tree with
    | .ok (settings, _) => settings.storagePath
    | .error _ => ""
  let path := Storage.Path.ofString name
  let tree ← take path.temporary (← take path tree)
  let (outcome, after, _) := CommandLine.run env args tree .unreachable
  putBack path tree after
  IO.print outcome.stdout
  IO.eprint outcome.stderr
  return outcome.exit.toUInt32
