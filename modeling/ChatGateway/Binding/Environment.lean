import ChatGateway.Binding.Basic
import ChatGateway.Text.Utf8

namespace ChatGateway.Binding

abbrev Environment := String → Option (List UInt8)

namespace Environment

def text? (env : Environment) (name : String) : Option String := do
  let bytes ← env name
  let s ← Text.Utf8.decode? bytes
  return String.ofList s

def require (env : Environment) (name : String) : Except BindingError String :=
  match env.text? name with
  | some value => .ok value
  | none => .error (.missingVariable name)

end Environment

def openAIFromEnvironment (env : Environment) : Except BindingError Binding := do
  let apiKey ← env.require "OPENAI_API_KEY"
  let modelId ← env.require "OPENAI_CHAT_MODEL_ID"
  openAI modelId apiKey (env.text? "OPENAI_ORG_ID")

def azureFromEnvironment (env : Environment) : Except BindingError Binding := do
  let deployment ← env.require "AZURE_OPENAI_DEPLOYMENT_NAME"
  let endpoint ← env.require "AZURE_OPENAI_ENDPOINT"
  let apiKey ← env.require "AZURE_OPENAI_API_KEY"
  azure deployment endpoint apiKey (env.text? "AZURE_OPENAI_API_VERSION") false

end ChatGateway.Binding
