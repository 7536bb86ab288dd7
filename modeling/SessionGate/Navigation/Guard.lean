import SessionGate.Navigation.PageStack
import SessionGate.Navigation.Policy

/- The guard in front of a host. It judges every attempt by the token of that moment; what the host
   refuses is not passed on to the visitor. -/
namespace SessionGate.Navigation

variable {η : Type} [Host η]

def intercept (policy : Policy) (token : String) (intent : Intent) (host : η) : Bool × η :=
  match policy.decide (.ofToken token) intent with
  | .allow => (true, host)
  | .redirect target => (false, (Host.perform .reLaunch target host).2)

def dispatch (policy : Policy) (token : String) (primitive : Primitive) (url : String) (host : η) :
    Bool × η :=
  match intercept policy token (.parse url) host with
  | (false, host) => (false, host)
  | (true, host) =>
    let (result, host) := Host.perform primitive url host
    (result.isOk, host)

end SessionGate.Navigation
