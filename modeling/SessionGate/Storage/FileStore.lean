import SessionGate.Storage.Backend
import SessionGate.Storage.FileTree
import SessionGate.Json.Shape
import SessionGate.Json.Printer

/- A store that is one JSON document in a file. Each change reads the document, changes it, writes
   the whole of it beside the old one and moves it into place. -/
namespace SessionGate.Storage

open Json (Value Members)
open Text (Bytes)

def stem (name : String) : String :=
  match name.toList.reverse.dropWhile (· ≠ '.') with
  | [] => name
  | [_] => name
  | _ :: rest => String.ofList rest.reverse

def temporaryEnding : String := ".json.tmp"

namespace Path

/-- Where the new document is written before it is moved into place: beside it, the last part of
its name replaced. A path that ends in no name stays as it is, and of a name that begins with two
dots and has no other, these dots alone are left. -/
def temporary (path : Path) : Path :=
  match path.parts.reverse.dropWhile fun part => !isName part with
  | [] => path
  | name :: before =>
    if name = upward then path
    else if stem name = "." ∧ path.ending = .name then ⟨before.reverse ++ [upward]⟩
    else ⟨before.reverse ++ [stem name ++ temporaryEnding]⟩

def above (path : Path) : List Path :=
  let start := if path.isAbsolute then [""] else []
  (List.range (path.names.length - 1)).map fun n => ⟨start ++ path.names.take (n + 1)⟩

end Path

def isBlankByte (b : UInt8) : Bool :=
  b = 0x20 || b = 0x09 || b = 0x0A || b = 0x0C || b = 0x0D

def readDocument (content : Bytes) : Except Error Members :=
  if content.all isBlankByte then .ok []
  else (Json.readMap (Text.decode content)).mapError .malformed

def writeDocument (entries : Members) : Bytes :=
  Text.encodeChars (Json.pretty.value 0 (.object entries))

def saveSteps (path : Path) (content : Bytes) : List FileTree.Step :=
  path.above.map .makeDirectory ++
    [.write path.temporary content, .rename path.temporary path]

structure FileStore where
  path : Path
  tree : FileTree

namespace FileStore

/-- The entries of the document; a document that is not there has none. -/
def load (store : FileStore) : Except Error Members :=
  match FileTree.read store.path store.tree with
  | .ok content => readDocument content
  | .error .notFound => .ok []
  | .error e => .error (.path e)

def save (store : FileStore) (entries : Members) : Except Error Unit × FileStore :=
  let (result, tree) := FileTree.applyAll (saveSteps store.path (writeDocument entries)) store.tree
  (result.mapError .path, { store with tree := tree })

def change (store : FileStore) (f : Members → Members) : Except Error Unit × FileStore :=
  match store.load with
  | .error e => (.error e, store)
  | .ok entries => store.save (f entries)

instance : Backend FileStore where
  read key store := (store.load.map fun entries => Members.get? entries key, store)
  write key value store := store.change fun entries => Members.insert entries key value
  delete key store := store.change fun entries => Members.erase entries key

end FileStore

end SessionGate.Storage
