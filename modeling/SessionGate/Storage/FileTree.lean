import SessionGate.Storage.Error
import SessionGate.Text.Utf8

/- Files and directories, and the single steps that change them. A step that fails changes nothing,
   and a renamed file takes its new place in one moment. -/
namespace SessionGate.Storage

open Text (Bytes)

inductive Node where
  | file (content : Bytes)
  | directory (entries : List (String × Node))

structure Path where
  parts : List String
  deriving DecidableEq, Repr

def upward : String := ".."

def byteSize (s : String) : Nat := (Text.encode s).length

def maxNameSize : Nat := 255

def maxPathSize : Nat := 4095

def isOverlong (name : String) : Bool := maxNameSize < byteSize name

namespace Path

/-- How a path ends: with a name, or with a slash or a dot after it. With these it can only mean a
directory. -/
inductive Ending where
  | name
  | slash
  | dot
  deriving DecidableEq, Repr

def ofString (s : String) : Path := ⟨s.splitOn "/"⟩

def isName (part : String) : Bool := part ≠ "" && part ≠ "."

/-- The names on the way, of which two dots lead back up. -/
def names (path : Path) : List String := path.parts.filter isName

def ending (path : Path) : Ending :=
  match path.parts.reverse with
  | [] => .name
  | last :: before =>
    if ((last :: before).dropWhile (· = "")).head? = some "." then .dot
    else if last = "" then .slash
    else .name

def isAbsolute (path : Path) : Bool :=
  match path.parts with
  | "" :: _ :: _ => true
  | _ => false

def size (path : Path) : Nat :=
  path.parts.foldl (fun n part => n + byteSize part + 1) 0 - 1

def fault? (path : Path) : Option PathError :=
  if path.parts.any fun part => part.toList.contains '\x00' then some .nullCharacter
  else if path.size = 0 then some .notFound
  else if maxPathSize < path.size then some .nameTooLong
  else none

end Path

namespace Node

def empty : Node := .directory []

def child? (entries : List (String × Node)) (name : String) : Option Node :=
  (entries.find? fun entry => entry.1 = name).map (·.2)

def setChild (entries : List (String × Node)) (name : String) (node : Node) :
    List (String × Node) :=
  match entries with
  | [] => [(name, node)]
  | entry :: rest => if entry.1 = name then (name, node) :: rest else entry :: setChild rest name node

def dropChild (entries : List (String × Node)) (name : String) : List (String × Node) :=
  entries.filter fun entry => entry.1 ≠ name

def lookup (entries : List (String × Node)) (name : String) : Except PathError (Option Node) :=
  if isOverlong name then .error .nameTooLong else .ok (child? entries name)

def find : List String → Node → Except PathError Node
  | [], node => .ok node
  | _ :: _, .file _ => .error .notDirectory
  | name :: rest, .directory entries =>
    match lookup entries name with
    | .error e => .error e
    | .ok none => .error .notFound
    | .ok (some node) => find rest node

/-- The way that is left when every step back up is taken. Each step starts from a directory, and
only the last name may be missing. Passed are the names on the way here, the nearest first, each
with the directory it stands in. -/
def resolve : Node → List (String × Node) → List String → Except PathError (List String)
  | _, passed, [] => .ok (passed.map (·.1)).reverse
  | .file _, _, _ :: _ => .error .notDirectory
  | .directory entries, passed, name :: rest =>
    if name = upward then
      match passed with
      | [] => resolve (.directory entries) [] rest
      | (_, above) :: passed => resolve above passed rest
    else if rest = [] then .ok ((passed.map (·.1)).reverse ++ [name])
    else
      match lookup entries name with
      | .error e => .error e
      | .ok none => .error .notFound
      | .ok (some node) => resolve node ((name, .directory entries) :: passed) rest

/-- Replaces what stands at the end of a way down, all of which but the end exists. -/
def update (change : Option Node → Except PathError (Option Node)) :
    List String → Node → Except PathError Node
  | [], _ => .error .isDirectory
  | _ :: _, .file _ => .error .notDirectory
  | name :: rest, .directory entries =>
    match lookup entries name with
    | .error e => .error e
    | .ok old =>
      match rest, old with
      | [], old =>
        match change old with
        | .error e => .error e
        | .ok none => .ok (.directory (dropChild entries name))
        | .ok (some node) => .ok (.directory (setChild entries name node))
      | _ :: _, none => .error .notFound
      | next :: rest, some node =>
        match update change (next :: rest) node with
        | .error e => .error e
        | .ok node => .ok (.directory (setChild entries name node))

end Node

/-- Everything there is: the top directory, and the names that lead to the one from which paths
start that are not absolute. -/
structure FileTree where
  top : Node
  home : List String

namespace FileTree

def empty : FileTree := ⟨.empty, []⟩

def locate (path : Path) (tree : FileTree) : Except PathError (List String) :=
  match path.fault? with
  | some e => .error e
  | none => Node.resolve tree.top [] (if path.isAbsolute then path.names else tree.home ++ path.names)

def find (path : Path) (tree : FileTree) : Except PathError Node := do
  Node.find (← locate path tree) tree.top

def update (change : Option Node → Except PathError (Option Node)) (way : List String)
    (tree : FileTree) : Except PathError FileTree :=
  (Node.update change way tree.top).map fun top => { tree with top := top }

def read (path : Path) (tree : FileTree) : Except PathError Bytes := do
  match ← find path tree with
  | .directory _ => .error .isDirectory
  | .file content => if path.ending = .name then return content else .error .notDirectory

def replaceFile (content : Bytes) : Option Node → Except PathError (Option Node)
  | some (.directory _) => .error .isDirectory
  | _ => .ok (some (.file content))

def needDirectory : Option Node → Except PathError (Option Node)
  | some (.file _) => .error .alreadyExists
  | some (.directory entries) => .ok (some (.directory entries))
  | none => .ok (some .empty)

def dropFile : Option Node → Except PathError (Option Node)
  | none => .error .notFound
  | some (.directory _) => .error .isDirectory
  | some (.file _) => .ok none

def remove (path : Path) (tree : FileTree) : Except PathError FileTree := do
  update dropFile (← locate path tree) tree

inductive Step where
  | makeDirectory (path : Path)
  | write (path : Path) (content : Bytes)
  | rename (source target : Path)
  deriving DecidableEq

def makeDirectory (path : Path) (tree : FileTree) : Except PathError FileTree := do
  let way ← locate path tree
  if way = [] then return tree else update needDirectory way tree

def write (path : Path) (content : Bytes) (tree : FileTree) : Except PathError FileTree := do
  let way ← locate path tree
  if path.ending = .name then update (replaceFile content) way tree else .error .isDirectory

/-- A target that ends in a slash or a dot is no place for a file. With the slash it may be missing,
with the dot it may not. -/
def rename (source target : Path) (tree : FileTree) : Except PathError FileTree := do
  let content ← read source tree
  let old ← locate source tree
  let new ← locate target tree
  match target.ending with
  | .slash =>
    match find target tree with
    | .ok _ | .error .notFound => .error .notDirectory
    | .error e => .error e
  | .dot =>
    match ← find target tree with
    | .directory _ => .error .busy
    | .file _ => .error .notDirectory
  | .name =>
    if old = new then return tree
    else update dropFile old (← update (replaceFile content) new tree)

def apply (step : Step) (tree : FileTree) : Except PathError FileTree :=
  match step with
  | .makeDirectory path => makeDirectory path tree
  | .write path content => write path content tree
  | .rename source target => rename source target tree

def applyAll : List Step → FileTree → Except PathError Unit × FileTree
  | [], tree => (.ok (), tree)
  | step :: rest, tree =>
    match apply step tree with
    | .error e => (.error e, tree)
    | .ok tree => applyAll rest tree

end FileTree

end SessionGate.Storage
