import SessionGate.Settings

/- The words of a command line. -/
namespace SessionGate.CommandLine

inductive Command where
  | login (username password code uuid : String) (profile : Bool)
  | profile
  | logout
  | whoami
  | avatar (url : String)
  | navigate (primitive url : String)
  | checkPermission (permissions : List String) (all : Bool)
  | checkRole (roles : List String) (all : Bool)
  deriving DecidableEq, Repr

structure Overrides where
  baseUrl : Option String
  storagePath : Option String
  deriving DecidableEq, Repr

structure Invocation where
  overrides : Overrides
  command : Command
  deriving DecidableEq, Repr

inductive Usage where
  | help
  | wrong
  deriving DecidableEq, Repr

structure Signature where
  options : List String
  flags : List String
  words : Option Nat

structure Given where
  options : List (String × String)
  flags : List String
  words : List String

def Given.none : Given := ⟨[], [], []⟩

def Given.option? (given : Given) (name : String) : Option String :=
  (given.options.find? fun option => option.1 = name).map (·.2)

def Given.hasFlag (given : Given) (name : String) : Bool := given.flags.contains name

def isDashed (word : String) : Bool := word.startsWith "-" && word ≠ "-"

def splitLong (word : String) : String × Option String :=
  let cs := word.toList
  let name := cs.takeWhile (· ≠ '=')
  (String.ofList name,
    if name.length < cs.length then some (String.ofList (cs.drop (name.length + 1))) else .none)

def addWord (signature : Signature) (given : Given) (word : String) : Except Usage Given :=
  match signature.words with
  | some limit =>
    if given.words.length < limit then .ok { given with words := given.words ++ [word] }
    else .error .wrong
  | none => .ok { given with words := given.words ++ [word] }

def addOption (given : Given) (name value : String) : Except Usage Given :=
  if (given.option? name).isSome then .error .wrong
  else .ok { given with options := given.options ++ [(name, value)] }

/-- Reads what is given to a command. After a double dash every word is a plain one; an option and
a flag may be given once. -/
def readGiven (signature : Signature) (given : Given) : List String → Except Usage Given
  | [] => .ok given
  | word :: rest =>
    if word = "--" then rest.foldlM (addWord signature) given
    else if word = "--help" || word = "-h" then .error .help
    else if !isDashed word then do
      let given ← addWord signature given word
      readGiven signature given rest
    else
      let (name, value?) := splitLong word
      if signature.flags.contains name then
        if value?.isSome || given.hasFlag name then .error .wrong
        else readGiven signature { given with flags := given.flags ++ [name] } rest
      else if signature.options.contains name then
        match value?, rest with
        | some value, rest => do
          let given ← addOption given name value
          readGiven signature given rest
        | none, [] => .error .wrong
        | none, value :: rest =>
          if isDashed value then .error .wrong
          else do
            let given ← addOption given name value
            readGiven signature given rest
      else .error .wrong

def signature? (command : String) : Option Signature :=
  match command with
  | "login" => some ⟨["--username", "--password", "--code", "--uuid"], ["--profile"], some 0⟩
  | "profile" => some ⟨[], [], some 0⟩
  | "logout" => some ⟨[], [], some 0⟩
  | "whoami" => some ⟨[], [], some 0⟩
  | "avatar" => some ⟨[], [], some 1⟩
  | "navigate" => some ⟨[], [], some 2⟩
  | "check-permi" => some ⟨[], ["--all"], none⟩
  | "check-role" => some ⟨[], ["--all"], none⟩
  | _ => none

/-- The value of an option or, where that is not given, of a variable that has to be a text. -/
def optionOrVariable (given : Given) (name key : String) (env : Environment) :
    Except Usage String :=
  match given.option? name with
  | some value => .ok value
  | none =>
    match env.text? key with
    | some value => .ok value
    | none => .error .wrong

def makeCommand (env : Environment) (name : String) (given : Given) : Except Usage Command :=
  match name, given.words with
  | "login", [] =>
    match given.option? "--username", optionOrVariable given "--password" "SESSION_PASSWORD" env with
    | some username, .ok password =>
      .ok (.login username password ((given.option? "--code").getD "")
        ((given.option? "--uuid").getD "") (given.hasFlag "--profile"))
    | _, _ => .error .wrong
  | "profile", [] => .ok .profile
  | "logout", [] => .ok .logout
  | "whoami", [] => .ok .whoami
  | "avatar", [url] => .ok (.avatar url)
  | "navigate", [primitive, url] => .ok (.navigate primitive url)
  | "check-permi", word :: more => .ok (.checkPermission (word :: more) (given.hasFlag "--all"))
  | "check-role", word :: more => .ok (.checkRole (word :: more) (given.hasFlag "--all"))
  | _, _ => .error .wrong

def hasHelp : List String → Bool
  | [] => true
  | [name] => name = "help" || (signature? name).isSome
  | _ => false

def setBaseUrl (overrides : Overrides) (value : String) : Except Usage Overrides :=
  if overrides.baseUrl.isSome then .error .wrong
  else .ok { overrides with baseUrl := some value }

def setStoragePath (overrides : Overrides) (value : String) : Except Usage Overrides :=
  if overrides.storagePath.isSome || value = "" then .error .wrong
  else .ok { overrides with storagePath := some value }

def override? (name : String) : Option (Overrides → String → Except Usage Overrides) :=
  match name with
  | "--base-url" => some setBaseUrl
  | "--storage-path" => some setStoragePath
  | _ => none

def readWords (env : Environment) (overrides : Overrides) :
    List String → Except Usage Invocation
  | [] => .error .wrong
  | word :: rest =>
    if word = "--help" || word = "-h" then .error .help
    else if word = "help" then .error (if hasHelp rest then .help else .wrong)
    else if isDashed word then
      let (name, value?) := splitLong word
      match override? name, value?, rest with
      | none, _, _ => .error .wrong
      | some set, some value, rest => do
        let overrides ← set overrides value
        readWords env overrides rest
      | some _, none, [] => .error .wrong
      | some set, none, value :: rest =>
        if isDashed value then .error .wrong
        else do
          let overrides ← set overrides value
          readWords env overrides rest
    else
      match signature? word with
      | none => .error .wrong
      | some signature => do
        let given ← readGiven signature .none rest
        let command ← makeCommand env word given
        return ⟨overrides, command⟩

def parse (env : Environment) (args : List String) : Except Usage Invocation :=
  readWords env ⟨none, none⟩ args

end SessionGate.CommandLine
