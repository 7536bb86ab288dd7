import SessionGate.Remote.Envelope
import SessionGate.Remote.Http
import SessionGate.Remote.Login
import SessionGate.Remote.Profile
import SessionGate.Text.Form

/- The client of the remote service: which requests it makes and what it takes from the replies. -/
namespace SessionGate.Remote

structure Client where
  baseUrl : String
  deriving DecidableEq, Repr

namespace Client

def make (baseUrl : String) : Client := ⟨Text.trimSlashes baseUrl⟩

def formType : String := "application/x-www-form-urlencoded"

def refusal (address : Address) : Error :=
  .request ("builder error for url (" ++ address.text ++ ")")

/-- A request that cannot be made to the address or with the token is refused unsent. It goes to the address in
its written form, without the user and the password, and the header that would carry these is left out. -/
def build (request : Request) : Except Error Request :=
  match Address.read? request.url with
  | none => .error (.request "builder error")
  | some address =>
    if !address.hasHost then .error (refusal address)
    else if !isHeaderText (request.authorization.getD "") then .error (.request "builder error")
    else
      let address := address.withoutCredentials
      if isSendable address then .ok { request with url := address.text }
      else .error (refusal address)

def bearer (token : String) : String := "Bearer " ++ token

def loginRequest (client : Client) (credentials : Credentials) : Request where
  method := .post
  url := client.baseUrl ++ "/login"
  authorization := none
  contentType := some formType
  body := String.ofList (Text.Form.encodePairs credentials.fields)

/-- Without a token the request goes out unsigned. -/
def profileRequest (client : Client) (token : String) : Request where
  method := .get
  url := client.baseUrl ++ "/getInfo"
  authorization := if token = "" then none else some (bearer token)
  contentType := none
  body := ""

def logoutRequest (client : Client) (token : String) : Request where
  method := .post
  url := client.baseUrl ++ "/logout"
  authorization := some (bearer token)
  contentType := none
  body := ""

def send (request : Request) (network : Network) : Except Error String × Network :=
  match build request with
  | .error e => (.error e, network)
  | .ok request =>
    let (reply, network) := network.exchange request
    (reply.receive request.url, network)

def login (client : Client) (credentials : Credentials) (network : Network) :
    Except Error Grant × Network :=
  let (answer, network) := send (client.loginRequest credentials) network
  (answer.bind fun text => openEnvelope Grant.read (Text.symbols text), network)

def profile (client : Client) (token : String) (network : Network) :
    Except Error Profile × Network :=
  let (answer, network) := send (client.profileRequest token) network
  (answer.bind fun text => openEnvelope Profile.read (Text.symbols text), network)

def logout (client : Client) (token : String) (network : Network) : Except Error Unit × Network :=
  let (answer, network) := send (client.logoutRequest token) network
  (answer.bind fun text => checkEnvelope (Text.symbols text), network)

end Client

end SessionGate.Remote
