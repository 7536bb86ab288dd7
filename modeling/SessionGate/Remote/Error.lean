import SessionGate.Text.Quoted

/- Failures of the remote service, as a caller sees them. -/
namespace SessionGate.Remote

inductive Error where
  | request (cause : String)
  | status (number : Nat) (body : String)
  | parse (cause : String)
  | unauthorized (msg : String)
  | server (code : Int) (msg : String)
  | clientBuild (cause : String)
  deriving DecidableEq, Repr

def Error.message : Error → String
  | .request cause => "API request failed: " ++ cause
  | .status n _ => "API response error: status " ++ toString n
  | .parse cause => "API response parse failed: " ++ cause
  | .unauthorized msg => "unauthorized: " ++ msg
  | .server code msg => "server error " ++ toString code ++ ": " ++ msg
  | .clientBuild cause => "HTTP client build failed: " ++ cause

def Error.inspect : Error → String
  | .request cause => "Request(" ++ Text.quote cause ++ ")"
  | .status n body => Text.showRecord "Status" [("status", toString n), ("body", Text.quote body)]
  | .parse cause => "Parse(" ++ Text.quote cause ++ ")"
  | .unauthorized msg => Text.showRecord "Unauthorized" [("msg", Text.quote msg)]
  | .server code msg => Text.showRecord "Server" [("code", toString code), ("msg", Text.quote msg)]
  | .clientBuild cause => "HttpClientBuild(" ++ Text.quote cause ++ ")"

end SessionGate.Remote
