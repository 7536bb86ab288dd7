/- Destinations in the shell and the operations that lead to them. -/
namespace SessionGate.Navigation

inductive Primitive where
  | navigateTo
  | redirectTo
  | reLaunch
  | switchTab
  deriving DecidableEq, Repr

inductive Error where
  | host (cause : String)
  | unknownPrimitive (name : String)
  deriving DecidableEq, Repr

def Error.message : Error → String
  | .host cause => "navigation host failed: " ++ cause
  | .unknownPrimitive name => "unknown navigation primitive: " ++ name

namespace Primitive

def all : List Primitive := [.navigateTo, .redirectTo, .reLaunch, .switchTab]

def name : Primitive → String
  | .navigateTo => "navigateTo"
  | .redirectTo => "redirectTo"
  | .reLaunch => "reLaunch"
  | .switchTab => "switchTab"

def dashedName : Primitive → String
  | .navigateTo => "navigate-to"
  | .redirectTo => "redirect-to"
  | .reLaunch => "re-launch"
  | .switchTab => "switch-tab"

def ofName (s : String) : Except Error Primitive :=
  match all.find? fun p => p.name = s ∨ p.dashedName = s with
  | some p => .ok p
  | none => .error (.unknownPrimitive s)

end Primitive

/-- The part of a text before its first question mark, and the part after it if there is one. -/
def splitQuery : List Char → List Char × Option (List Char)
  | [] => ([], none)
  | c :: rest =>
    if c = '?' then ([], some rest)
    else ((c :: (splitQuery rest).1), (splitQuery rest).2)

structure Intent where
  path : String
  query : Option String
  deriving DecidableEq, Repr

namespace Intent

def parse (url : String) : Intent :=
  let (path, query) := splitQuery url.toList
  ⟨String.ofList path, query.map String.ofList⟩

/-- What the policy looks at: the path up to a question mark that may still stand in it. -/
def key (intent : Intent) : String :=
  String.ofList (splitQuery intent.path.toList).1

def url (intent : Intent) : String :=
  match intent.query with
  | some query => intent.path ++ "?" ++ query
  | none => intent.path

end Intent

end SessionGate.Navigation
