import ChatGateway.Http.Url
import ChatGateway.Json.Printer
import ChatGateway.Request
import ChatGateway.Text.Base64
import ChatGateway.Text.Blank

namespace ChatGateway.Http

def publicBase : String := "https://api.openai.com/v1"

def baseText (base : String) : String :=
  String.ofList (Text.dropTrailing '/' base.toList)

def address (r : ChatRequest) : Except Fault String :=
  match r.route, r.connection.base with
  | .model _, base => .ok (baseText (base.getD publicBase) ++ "/chat/completions")
  | .deployment name, some base =>
    .ok (baseText base ++ "/openai/deployments/" ++ name ++ "/chat/completions?api-version=" ++
      r.connection.apiVersion.getD defaultApiVersion)
  | .deployment name, none => .error (.noEndpoint name)

structure Header where
  name : String
  value : String
deriving DecidableEq, Repr

def Header.isValid (h : Header) : Bool :=
  h.value.toList.all fun c => c == '\t' || (0x20 ≤ c.toNat && c.toNat != 0x7F)

def credential (c : Connection) : Header :=
  match c.dialect with
  | .azure => ⟨"api-key", c.apiKey⟩
  | .openAI | .azureAD => ⟨"authorization", s!"Bearer {c.apiKey}"⟩

def headers (c : Connection) : List Header :=
  [⟨"content-type", "application/json"⟩, credential c] ++
    (c.organization.map (⟨"openai-organization", ·⟩)).toList

def userHeader (u : Url) : List Header :=
  match Text.Utf8.decode? u.user with
  | some user =>
    let password := (u.password.bind Text.Utf8.decode?).getD []
    if u.user = [] && u.password = none then []
    else
      let text := Text.Base64.encode (Text.Utf8.encode (user ++ ':' :: password))
      [⟨"authorization", "Basic " ++ String.ofList text⟩]
  | none => []

def bodyWith (r : ChatRequest) (biases : List (UInt32 × Number.Binary)) : Json :=
  let model : List (String × Json) :=
    match r.route with
    | .model name => [("model", .ofText name)]
    | .deployment _ => []
  .record (model ++ r.body.members biases)

def body (r : ChatRequest) : Json := bodyWith r r.body.tokenBiases.entries

structure Sent where
  url : String
  headers : List Header
  body : String
deriving DecidableEq, Repr

def composeWith (r : ChatRequest) (biases : List (UInt32 × Number.Binary)) : Except Fault Sent := do
  let text ← address r
  match Url.parse? text.toList with
  | some url =>
    if url.sendable && (headers r.connection).all Header.isValid then
      return ⟨String.ofList url.text, userHeader url ++ headers r.connection, (bodyWith r biases).render⟩
    else throw .notBuilt
  | none => throw .notBuilt

/-- One of the requests that can be sent: the biases may as well come in another order. -/
def compose (r : ChatRequest) : Except Fault Sent := composeWith r r.body.tokenBiases.entries

end ChatGateway.Http
