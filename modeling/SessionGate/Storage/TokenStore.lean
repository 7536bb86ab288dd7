import SessionGate.Storage.Backend

/- The bearer token, under a key of its own in a backend. -/
namespace SessionGate.Storage

namespace TokenStore

def key : String := "App-Token"

def get : Calls String :=
  .read key fun
    | .ok (some (.text token)) => .done token
    | _ => .done ""

def set (token : String) : Calls (Except Error Unit) :=
  .write key (.text token) .done

def remove : Calls (Except Error Unit) :=
  .delete key .done

end TokenStore

end SessionGate.Storage
