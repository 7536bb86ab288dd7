import SessionGate.CommandLine.Arguments
import SessionGate.CommandLine.EnvFile
import SessionGate.Navigation.Guard
import SessionGate.Session.Permission
import SessionGate.Session.Service
import SessionGate.Storage.FileStore

/- One run of the command line: a session over the storage file, one command, then the end. -/
namespace SessionGate.CommandLine

open Storage

inductive Error where
  | settings (cause : Settings.Error)
  | session (cause : Session.Error)
  | navigation (cause : Navigation.Error)
  deriving DecidableEq

def inspectNavigation : Navigation.Error → String
  | .host cause => "Host(" ++ Text.quote cause ++ ")"
  | .unknownPrimitive name => "UnknownPrimitive(" ++ Text.quote name ++ ")"

def Error.inspect : Error → String
  | .settings cause => "Config(" ++ cause.inspect ++ ")"
  | .session cause => "Session(" ++ cause.inspect ++ ")"
  | .navigation cause => "Navigation(" ++ inspectNavigation cause ++ ")"

/-- What a run leaves behind for whoever started it. The lines of a log, which would stand among those that are
printed, are left out. -/
structure Outcome where
  exit : Nat
  stdout : String
  stderr : String
  deriving DecidableEq, Repr

def line (s : String) : String := s ++ "\n"

structure Desk (β : Type) where
  session : Session β
  network : Remote.Network

variable {β : Type} [Backend β]

def Desk.call (settings : Settings) (call : Session.Call) (desk : Desk β) :
    Except Error (Option Remote.Profile) × Desk β :=
  let (answer, store, network) :=
    Session.exchange (.make settings.baseUrl) call desk.session.store desk.network
  let (result, session) :=
    Session.finish settings.avatar answer { desk.session with store := store }
  (result.mapError .session, ⟨session, network⟩)

def showProfile : Option Remote.Profile → String
  | some profile => line profile.toValue.pretty
  | none => ""

def showPages (done : Bool) (stack : Navigation.PageStack) : String :=
  line (if done then "proceeded" else "suppressed") ++
    String.join (stack.pages.map fun page => line ("  " ++ page))

/-- Carries out a command; what it prints before it fails stays printed. -/
def execute (settings : Settings) (command : Command) (desk : Desk β) :
    String × Except Error Unit × Desk β :=
  match command with
  | .login username password code uuid profile =>
    match desk.call settings (Session.loginCall username password code uuid) with
    | (.error e, desk) => ("", .error e, desk)
    | (.ok _, desk) =>
      if profile then
        match desk.call settings .profile with
        | (.error e, desk) => (line "signed in", .error e, desk)
        | (.ok profile, desk) => (line "signed in" ++ showProfile profile, .ok (), desk)
      else (line "signed in", .ok (), desk)
  | .profile =>
    match desk.call settings .profile with
    | (.error e, desk) => ("", .error e, desk)
    | (.ok profile, desk) => (showProfile profile, .ok (), desk)
  | .logout =>
    match desk.call settings desk.session.logoutCall with
    | (.error e, desk) => ("", .error e, desk)
    | (.ok _, desk) => (line "signed out", .ok (), desk)
  | .whoami => (line desk.session.record.overview.pretty, .ok (), desk)
  | .avatar url =>
    match desk.session.setAvatar url with
    | (.error e, session) => ("", .error (.session e), { desk with session := session })
    | (.ok (), session) => (line session.record.avatarUrl, .ok (), { desk with session := session })
  | .navigate primitive url =>
    match Navigation.Primitive.ofName primitive with
    | .error e => ("", .error (.navigation e), desk)
    | .ok primitive =>
      let (done, stack) := Navigation.dispatch ⟨.default, settings.loginPage⟩
        desk.session.record.token primitive url (Navigation.PageStack.withRoot Navigation.homePage)
      (showPages done stack, .ok (), desk)
  | .checkPermission permissions all =>
    let record := desk.session.record
    let granted :=
      if all then record.hasAllPermissions permissions else record.hasAnyPermission permissions
    (line (toString granted), .ok (), desk)
  | .checkRole roles all =>
    let record := desk.session.record
    let granted := if all then record.hasAllRoles roles else record.hasAnyRole roles
    (line (toString granted), .ok (), desk)

def Overrides.apply (overrides : Overrides) (settings : Settings) : Settings :=
  { settings with
    baseUrl := (overrides.baseUrl.map Text.trimSlashes).getD settings.baseUrl
    storagePath := overrides.storagePath.getD settings.storagePath }

def usageText : String :=
  "usage: session-shell [--base-url URL] [--storage-path PATH] COMMAND\n" ++
  "commands: login, profile, logout, whoami, avatar, navigate, check-permi, check-role\n"

def outcomeOf (printed : String) : Except Error Unit → Outcome
  | .ok () => ⟨0, printed, ""⟩
  | .error e => ⟨1, printed, "Error: " ++ e.inspect ++ "\n"⟩

/-- The environment with that of the file in the working directory added, if that can be done. Where none is
there, one in a directory above would be taken; that is left out. -/
def fullEnvironment (env : Environment) (tree : FileTree) : Option Environment :=
  match FileTree.read (.ofString ".env") tree with
  | .ok content => EnvFile.load content env
  | .error _ => some env

def aborted : Outcome := ⟨101, "", "a variable of .env cannot be set\n"⟩

def plan (env : Environment) (args : List String) (tree : FileTree) :
    Except Outcome (Settings × Command) :=
  match fullEnvironment env tree with
  | none => .error aborted
  | some env =>
    match parse env args with
    | .error .help => .error ⟨0, usageText, ""⟩
    | .error .wrong => .error ⟨2, "", usageText⟩
    | .ok invocation =>
      match Settings.ofEnvironment env with
      | .error e => .error (outcomeOf "" (.error (.settings e)))
      | .ok settings => .ok (invocation.overrides.apply settings, invocation.command)

def run (env : Environment) (args : List String) (tree : FileTree) (network : Remote.Network) :
    Outcome × FileTree × Remote.Network :=
  match plan env args tree with
  | .error outcome => (outcome, tree, network)
  | .ok (settings, command) =>
    let store : FileStore := ⟨.ofString settings.storagePath, tree⟩
    let desk : Desk FileStore := ⟨.resume store, network⟩
    let (printed, result, desk) := execute settings command desk
    (outcomeOf printed result, desk.session.store.tree, desk.network)

end SessionGate.CommandLine
