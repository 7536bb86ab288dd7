import SessionGate.Navigation.Intent

/- The open pages of a shell. A refused operation leaves them as they are. -/
namespace SessionGate.Navigation

class Host (η : Type) where
  perform : Primitive → String → η → Except Error Unit × η

def maxPages : Nat := 10

/-- Open pages, the first opened at the front. -/
structure PageStack where
  pages : List String
  deriving DecidableEq, Repr

namespace PageStack

def empty : PageStack := ⟨[]⟩

def withRoot (url : String) : PageStack := ⟨[url]⟩

def current (stack : PageStack) : Option String := stack.pages.getLast?

def perform (primitive : Primitive) (url : String) (stack : PageStack) :
    Except Error Unit × PageStack :=
  if url = "" then (.error (.host (primitive.name ++ ": missing url")), stack)
  else match primitive with
    | .navigateTo =>
      if maxPages ≤ stack.pages.length then
        (.error (.host (primitive.name ++ ": page stack limit of " ++ toString maxPages ++ " reached")),
          stack)
      else (.ok (), ⟨stack.pages ++ [url]⟩)
    | .redirectTo => (.ok (), ⟨stack.pages.dropLast ++ [url]⟩)
    | .reLaunch | .switchTab => (.ok (), ⟨[url]⟩)

instance : Host PageStack := ⟨perform⟩

end PageStack

abbrev HostCall := Primitive × String

/-- A host that keeps the calls made to it and, while `refusal` is set, refuses them all. -/
structure Watched (η : Type) where
  host : η
  refusal : Option String
  calls : List HostCall

namespace Watched

variable {η : Type}

def ofHost (host : η) : Watched η := ⟨host, none, []⟩

def perform [Host η] (primitive : Primitive) (url : String) (watched : Watched η) :
    Except Error Unit × Watched η :=
  let watched := { watched with calls := watched.calls ++ [(primitive, url)] }
  match watched.refusal with
  | some cause => (.error (.host cause), watched)
  | none =>
    let (result, host) := Host.perform primitive url watched.host
    (result, { watched with host := host })

instance [Host η] : Host (Watched η) := ⟨perform⟩

def takeCalls (watched : Watched η) : List HostCall × Watched η :=
  (watched.calls, { watched with calls := [] })

end Watched

end SessionGate.Navigation
