import SessionGate.Text.Form

/- The way behind the host of an address: a list of segments, in which one dot stands for the place
   where it is and two dots lead back, or a text of which nothing is known. -/
namespace SessionGate.Address

inductive Family where
  | web (port : Nat)
  | file
  | other
  deriving DecidableEq, Repr

namespace Family

def ofScheme (scheme : String) : Family :=
  match scheme with
  | "http" | "ws" => .web 80
  | "https" | "wss" => .web 443
  | "ftp" => .web 21
  | "file" => .file
  | _ => .other

def isSlash (family : Family) (c : Char) : Bool := c = '/' || family ≠ .other && c = '\\'

end Family

def isRouteEnd (c : Char) : Bool := c = '?' || c = '#'

inductive Route where
  | segments (names : List String)
  | free (text : String)
  deriving DecidableEq, Repr

namespace Route

def isFragmentChar (c : Char) : Bool :=
  0x20 < c.toNat && c.toNat < 0x7F && !"\"<>\x60".toList.contains c

def isSegmentChar (c : Char) : Bool := isFragmentChar c && !"#?\x7b\x7d".toList.contains c

def isTextChar (c : Char) : Bool := 0x20 ≤ c.toNat && c.toNat < 0x7F

def plainDots : List Char → List Char
  | '%' :: '2' :: 'e' :: rest => '.' :: plainDots rest
  | '%' :: '2' :: 'E' :: rest => '.' :: plainDots rest
  | c :: rest => c :: plainDots rest
  | [] => []

def isDrive (segment : List Char) : Bool :=
  match segment with
  | [letter, c] => letter.isAlpha && (c = ':' || c = '|')
  | _ => false

def startsWithDrive (names : List String) : Bool := names.head?.any fun name => isDrive name.toList

/-- The segments without the last one, the nearest first. The drive of a file stays. -/
def back (family : Family) (passed : List String) : List String :=
  match passed with
  | [name] => if family = .file ∧ isDrive name.toList then passed else []
  | _ => passed.tail

/-- Follows the segments, the nearest of those passed first. The way ends behind the last one. -/
def follow (family : Family) (passed : List String) : List (List Char) → List String
  | [] => passed.reverse
  | segment :: rest =>
    let passed :=
      if plainDots segment = ['.', '.'] then
        if rest = [] then "" :: back family passed else back family passed
      else if plainDots segment = ['.'] then if rest = [] then "" :: passed else passed
      else if family = .file ∧ passed = [] ∧ isDrive segment then
        [String.ofList (segment.take 1 ++ [':'])]
      else String.ofList (Text.Percent.encode isSegmentChar segment) :: passed
    follow family passed rest

def ofSegments (family : Family) (cs : List Char) : Route :=
  let slashes := cs.map fun c => if family.isSlash c then '/' else c
  let names := follow family [] (Text.Form.splitOn '/' slashes)
  if family = .file then
    match names.dropWhile (· = "") with
    | [] => .segments [""]
    | name :: rest => .segments (name :: rest)
  else .segments names

def ofText (cs : List Char) : Route := .free (String.ofList (Text.Percent.encode isTextChar cs))

def written : Route → String
  | .segments names => String.join (names.map ("/" ++ ·))
  | .free text => text

end Route

end SessionGate.Address
