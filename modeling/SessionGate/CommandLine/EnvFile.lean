import SessionGate.Settings
import SessionGate.Text.Alphanumeric

/- Environment files: one variable a line, values plain or in quotes, other variables put in for
   their names. A variable that is set already keeps its value. -/
namespace SessionGate.CommandLine.EnvFile

open Text (isBlank)

/-- Where a text stands when it has been looked at for its end: between words, behind a blank, in
quotes of either kind, or behind a backslash in one of these. -/
inductive Open where
  | word
  | blank
  | escape
  | single
  | singleEscape
  | double
  | doubleEscape
  deriving DecidableEq, Repr

def Open.step (c : Char) : Open → Option Open
  | .word =>
    if isBlank c ∧ c ≠ '\n' ∧ c ≠ '\r' then some .blank
    else some (opening c)
  | .blank => if c = '#' then none else some (opening c)
  | .escape => some .word
  | .single => some (if c = '\\' then .singleEscape else if c = '\'' then .word else .single)
  | .singleEscape => some .single
  | .double => some (if c = '\\' then .doubleEscape else if c = '"' then .word else .double)
  | .doubleEscape => some .double
where
  opening (c : Char) : Open :=
    if c = '\\' then .escape else if c = '"' then .double else if c = '\'' then .single else .word

def scanLine (state : Open) : List Char → List Char × Bool × Open
  | [] => ([], false, state)
  | c :: rest =>
    match state.step c with
    | none => ([], true, state)
    | some state =>
      let (kept, comment, state) := scanLine state rest
      (c :: kept, comment, state)

def finishLine (reversed : List Char) : List Char :=
  match reversed with
  | '\n' :: '\r' :: rest => rest.reverse
  | '\n' :: rest => rest.reverse
  | _ => reversed.reverse

def physicalLines : List UInt8 → List (List UInt8)
  | [] => []
  | b :: rest =>
    if b = 0x0A then [b] :: physicalLines rest
    else match physicalLines rest with
      | [] => [[b]]
      | line :: more => (b :: line) :: more

/-- Joins lines while a quote is open; what is begun stands last character first. None at the end
stands for a line that cannot be read. -/
def logicalLines (state : Open) (begun : List Char) :
    List (List UInt8) → List (Option (List Char))
  | [] => if state = .word ∧ begun = [] then [] else [none]
  | line :: rest =>
    match Text.decode? line with
    | none => [none]
    | some text =>
      let cs := text.toList
      if begun = [] ∧ (cs.dropWhile isBlank).head? = some '#' then
        some [] :: logicalLines .word [] rest
      else
        match scanLine state cs with
        | (kept, true, _) => some (begun.reverse ++ kept) :: logicalLines .word [] rest
        | (_, false, .word) =>
          some (finishLine (cs.reverse ++ begun)) :: logicalLines .word [] rest
        | (_, false, state) => logicalLines state (cs.reverse ++ begun) rest

structure Known where
  env : Environment
  named : List (String × String)

def Known.lookup (known : Known) (name : String) : String :=
  match known.env.text? name with
  | some value => value
  | none => ((known.named.find? fun v => v.1 = name).map (·.2)).getD ""

inductive Quote where
  | plain
  | single
  | double
  | closed
  deriving DecidableEq, Repr

inductive Naming where
  | no
  | bare (name : List Char)
  | braced (name : List Char)
  deriving DecidableEq, Repr

structure ValueState where
  quote : Quote
  escaped : Bool
  naming : Naming
  output : List Char

def ValueState.close (known : Known) (name : List Char) (state : ValueState) : ValueState :=
  { state with
    naming := .no
    output := (known.lookup (String.ofList name)).toList.reverse ++ state.output }

/-- Passes one character of a value; none stands for a value that is not well formed. The flag tells
that a comment has begun. -/
def ValueState.step (known : Known) (c : Char) (state : ValueState) : Option (Bool × ValueState) :=
  let emit (c : Char) (state : ValueState) : ValueState :=
    { state with output := c :: state.output }
  if state.quote = .closed then
    if c = ' ' ∨ c = '\t' then some (false, state)
    else if c = '#' then some (true, state)
    else none
  else if state.escaped then
    let state := { state with escaped := false }
    if c = '\\' ∨ c = '\'' ∨ c = '"' ∨ c = '$' ∨ c = ' ' then some (false, emit c state)
    else if c = 'n' then some (false, emit '\n' state)
    else none
  else if state.quote = .single then
    some (false, if c = '\'' then { state with quote := .plain } else emit c state)
  else
    match state.naming with
    | .bare name =>
      if Text.isAlphanumeric c then some (false, { state with naming := .bare (name ++ [c]) })
      else if c = '{' ∧ name = [] then some (false, { state with naming := .braced [] })
      else
        let state := state.close known name
        some (false, if c = '$' then { state with naming := .bare [] } else emit c state)
    | .braced name =>
      some (false, if c = '}' then state.close known name
        else { state with naming := .braced (name ++ [c]) })
    | .no =>
      if c = '$' then some (false, { state with naming := .bare [] })
      else if c = '\\' then some (false, { state with escaped := true })
      else if state.quote = .double then
        some (false, if c = '"' then { state with quote := .plain } else emit c state)
      else if c = '\'' then some (false, { state with quote := .single })
      else if c = '"' then some (false, { state with quote := .double })
      else if c = ' ' ∨ c = '\t' then some (false, { state with quote := .closed })
      else some (false, emit c state)

def ValueState.finish (known : Known) (state : ValueState) : Option String :=
  match state.quote, state.naming with
  | .single, _ => none
  | .double, _ => none
  | _, .braced _ => none
  | _, .bare name => some (String.ofList (state.close known name).output.reverse)
  | _, .no => some (String.ofList state.output.reverse)

def readValue (known : Known) (state : ValueState) : List Char → Option String
  | [] => state.finish known
  | c :: rest =>
    match state.step known c with
    | none => none
    | some (true, state) => state.finish known
    | some (false, state) => readValue known state rest

def isKeyStart (c : Char) : Bool := c.isAlpha || c = '_'

def isKeyChar (c : Char) : Bool := c.isAlphanum || c = '_' || c = '.'

def readKey (cs : List Char) : Option (List Char × List Char) :=
  match cs with
  | [] => none
  | c :: _ =>
    if isKeyStart c then some (cs.takeWhile isKeyChar, (cs.dropWhile isKeyChar).dropWhile isBlank)
    else none

def readAssignment (cs : List Char) : Option (List Char × List Char) :=
  match readKey cs with
  | none => none
  | some (key, '=' :: rest) => some (key, rest)
  | some (key, rest) =>
    if key = "export".toList then
      match readKey rest with
      | some (key, '=' :: rest) => some (key, rest)
      | _ => none
    else none

inductive Line where
  | blank
  | assignment (key value : String)
  deriving DecidableEq, Repr

def readLine (known : Known) (line : List Char) : Option Line :=
  let line := ((line.reverse.dropWhile isBlank).reverse).dropWhile isBlank
  if line = [] ∨ line.head? = some '#' then some .blank
  else
    match readAssignment line with
    | none => none
    | some (key, rest) =>
      let rest := rest.dropWhile isBlank
      if rest = [] ∨ rest.head? = some '#' then some (.assignment (String.ofList key) "")
      else (readValue known ⟨.plain, false, .no, []⟩ rest).map (.assignment (String.ofList key))

def isHoldable (value : String) : Bool := !value.toList.contains '\x00'

/-- Takes the lines up to the first that cannot be read. None stands for a variable that cannot be
set. -/
def loadLines (known : Known) : List (Option (List Char)) → Option Environment
  | [] => some known.env
  | none :: _ => some known.env
  | some line :: rest =>
    match readLine known line with
    | none => some known.env
    | some .blank => loadLines known rest
    | some (.assignment key value) =>
      let named := (key, value) :: known.named
      if (known.env.text? key).isSome then loadLines ⟨known.env, named⟩ rest
      else if isHoldable value then loadLines ⟨(key, Text.encode value) :: known.env, named⟩ rest
      else none

def dropMark : List UInt8 → List UInt8
  | 0xEF :: 0xBB :: 0xBF :: rest => rest
  | content => content

def load (content : Text.Bytes) (env : Environment) : Option Environment :=
  loadLines ⟨env, []⟩ (logicalLines .word [] (physicalLines (dropMark content)))

end SessionGate.CommandLine.EnvFile
