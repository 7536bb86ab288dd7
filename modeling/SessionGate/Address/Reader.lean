import SessionGate.Address.Basic

/- Reading of addresses. Blanks around an address and line breaks in it do not count, and what may not
   stand in it is written in another form. -/
namespace SessionGate.Address

open Text (Percent.encode)

def isSchemeChar (c : Char) : Bool := c.isAlphanum || c = '+' || c = '-' || c = '.'

def readScheme? (cs : List Char) : Option (String × List Char) :=
  match cs.head?.any Char.isAlpha, cs.dropWhile isSchemeChar with
  | true, ':' :: rest => some (String.ofList ((cs.takeWhile isSchemeChar).map Char.toLower), rest)
  | _, _ => none

def isUserChar (c : Char) : Bool := Route.isSegmentChar c && !"/:;=@[\\]^|".toList.contains c

def isQueryChar (family : Family) (c : Char) : Bool :=
  0x20 < c.toNat && c.toNat < 0x7F && !"\"#<>".toList.contains c && (family = .other || c ≠ '\'')

def encodeWith (isKept : Char → Bool) (cs : List Char) : String :=
  String.ofList (Text.Percent.encode isKept cs)

def isHostEnd (family : Family) (c : Char) : Bool := isRouteEnd c || family.isSlash c

def splitUser (cs : List Char) : Option (List Char × List Char) :=
  match cs.reverse.dropWhile (· ≠ '@') with
  | [] => none
  | _ :: user => some (user.reverse, (cs.reverse.takeWhile (· ≠ '@')).reverse)

def readUser (cs : List Char) : String × Option String :=
  let password := (cs.dropWhile (· ≠ ':')).drop 1
  (encodeWith isUserChar (cs.takeWhile (· ≠ ':')),
    if password = [] then none else some (encodeWith isUserChar password))

def splitHost (inBrackets : Bool) : List Char → List Char × List Char
  | [] => ([], [])
  | c :: rest =>
    if c = ':' ∧ !inBrackets then ([], c :: rest)
    else
      let inBrackets := if c = '[' then true else if c = ']' then false else inBrackets
      let (host, rest) := splitHost inBrackets rest
      (c :: host, rest)

def maxPort : Nat := 65535

def readPort? (family : Family) (cs : List Char) : Option (Option Nat × List Char) :=
  match cs with
  | ':' :: text =>
    let digits := text.takeWhile Char.isDigit
    let rest := text.dropWhile Char.isDigit
    let port := digits.foldl (fun n c => n * 10 + (c.toNat - 48)) 0
    if maxPort < port ∨ rest.head?.any (fun c => !isHostEnd .file c) then none
    else some (if digits = [] ∨ family = .web port then none else some port, rest)
  | _ => some (none, cs)

def readEnd (family : Family) (cs : List Char) : Option String × Option String :=
  let fragment := cs.dropWhile (· ≠ '#')
  let query := cs.takeWhile (· ≠ '#')
  (if query = [] then none else some (encodeWith (isQueryChar family) (query.drop 1)),
    if fragment = [] then none else some (encodeWith Route.isFragmentChar (fragment.drop 1)))

def splitRoute (cs : List Char) : List Char × List Char :=
  (cs.takeWhile fun c => !isRouteEnd c, cs.dropWhile fun c => !isRouteEnd c)

def readOn (family : Family) (address : Address) (route : Route) (cs : List Char) : Address :=
  let (query, fragment) := readEnd family cs
  { address with route := route, query := query, fragment := fragment }

/-- The way behind a host. Addresses of the known families have always one. -/
def readRoute (family : Family) (cs : List Char) : Route :=
  match cs with
  | [] => if family = .other then .segments [] else .segments [""]
  | c :: rest => Route.ofSegments family (if family.isSlash c then rest else c :: rest)

def readHosted? (scheme : String) (cs : List Char) : Option Address :=
  let family := Family.ofScheme scheme
  let front := cs.takeWhile fun c => !isHostEnd family c
  let behind := cs.dropWhile fun c => !isHostEnd family c
  let (userText, place) := (splitUser front).getD ([], front)
  let (user, password) := readUser userText
  let (hostText, portText) := splitHost false place
  let isOpen := (splitUser front).isSome ∧ (userText = [] ∧ place = [] ∧ behind ≠ [] ∨
    hostText = [] ∧ (user ≠ "" ∨ password.isSome))
  if isOpen ∨ (hostText = [] ∧ (family ≠ .other ∨ portText ≠ [])) then none
  else
    let host? := if family = .other then Host.readNamed? hostText else Host.readWeb? hostText
    match host?, readPort? family (portText ++ behind) with
    | some host, some (port, rest) =>
      let (way, rest) := splitRoute rest
      let address : Address := ⟨scheme, user, password, some host, port, .segments [], none, none⟩
      some (readOn family address (readRoute family way) rest)
    | _, _ => none

/-- The host of a file; the local one has no name, and a drive is none. -/
def readFileHost? (cs : List Char) : Option Host :=
  if cs = [] ∨ Route.isDrive cs then some .empty
  else (Host.readWeb? cs).map fun host => if host = .domain "localhost" then .empty else host

def readFile? (cs : List Char) : Option Address :=
  let isSlash := Family.file.isSlash
  let isHosted := 2 ≤ (cs.takeWhile isSlash).length
  let behind := cs.drop 2
  let hostText := if isHosted then behind.takeWhile fun c => !isHostEnd .file c else []
  let rest := if !isHosted then cs
    else if Route.isDrive hostText then behind else behind.drop hostText.length
  match readFileHost? hostText with
  | none => none
  | some host =>
    let (way, rest) := splitRoute rest
    let route := readRoute .file way
    let host := match route with
      | .segments names => if Route.startsWithDrive names then .empty else host
      | .free _ => host
    some (readOn .file ⟨"file", "", none, some host, none, .segments [], none, none⟩ route rest)

/-- An address of another kind, with a host, with a way from the top, or with any other text. -/
def readOther? (scheme : String) (cs : List Char) : Option Address :=
  let address : Address := ⟨scheme, "", none, none, none, .segments [], none, none⟩
  match cs with
  | '/' :: '/' :: rest => readHosted? scheme rest
  | '/' :: rest =>
    let (way, rest) := splitRoute rest
    some (readOn .other address (Route.ofSegments .other way) rest)
  | cs =>
    let (way, rest) := splitRoute cs
    some (readOn .other address (Route.ofText way) rest)

def isTrimmed (c : Char) : Bool := c.toNat ≤ 0x20

def isBreak (c : Char) : Bool := c = '\t' || c = '\n' || c = '\x0d'

def clean (s : String) : List Char :=
  (((s.toList.dropWhile isTrimmed).reverse.dropWhile isTrimmed).reverse).filter fun c => !isBreak c

def read? (s : String) : Option Address :=
  match readScheme? (clean s) with
  | none => none
  | some (scheme, rest) =>
    match Family.ofScheme scheme with
    | .web _ => readHosted? scheme (rest.dropWhile (Family.isSlash (.web 80)))
    | .file => readFile? rest
    | .other => readOther? scheme rest

end SessionGate.Address
