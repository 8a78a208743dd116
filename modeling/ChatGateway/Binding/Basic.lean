import ChatGateway.Text.Blank

/-!
A binding says where calls go and in whose name: a model of the public service or a deployment on Azure, and the
credential for it. Every way to make one ends in `Binding.check`.
-/

namespace ChatGateway

open Text (trim)

inductive Dialect where
  | openAI
  | azure
  | azureAD
deriving DecidableEq, Repr

namespace Dialect

def name : Dialect → String
  | .openAI => "open_ai"
  | .azure => "azure"
  | .azureAD => "azure_ad"

def isAzure : Dialect → Bool
  | .openAI => false
  | .azure | .azureAD => true

end Dialect

inductive Route where
  | model (name : String)
  | deployment (name : String)
deriving DecidableEq, Repr

structure Binding where
  modelId : String
  apiKey : String
  dialect : Dialect
  organization : Option String
  apiVersion : Option String
  endpoint : Option String
deriving DecidableEq, Repr

inductive BindingError where
  | emptyModelId
  | emptyApiKey
  | insecureEndpoint (endpoint : String)
  | noEndpoint
  | missingSetting (key : String)
  | missingVariable (name : String)
deriving DecidableEq, Repr

def BindingError.reason : BindingError → String
  | .emptyModelId => "model id must not be empty"
  | .emptyApiKey => "api key must not be empty"
  | .insecureEndpoint endpoint => s!"endpoint must be an https URL: {endpoint}"
  | .noEndpoint => "Azure requires an endpoint"
  | .missingSetting key => s!"missing setting: {key}"
  | .missingVariable name => s!"Environment variable {name} not set"

def BindingError.message (e : BindingError) : String :=
  s!"Invalid configuration: {e.reason}"

def secureScheme : String := "https://"

def defaultApiVersion : String := "2022-12-01"

namespace Binding

def check (b : Binding) : Except BindingError Binding :=
  if (trim b.modelId).isEmpty then .error .emptyModelId
  else if (trim b.apiKey).isEmpty then .error .emptyApiKey
  else
    match b.endpoint with
    | some endpoint =>
      if secureScheme.toList.isPrefixOf endpoint.toList then .ok b
      else .error (.insecureEndpoint endpoint)
    | none => if b.dialect.isAzure then .error .noEndpoint else .ok b

def openAI (modelId apiKey : String) (organization : Option String) : Except BindingError Binding :=
  check
    { modelId := trim modelId
      apiKey := trim apiKey
      dialect := .openAI
      organization
      apiVersion := none
      endpoint := none }

def azure (deployment endpoint apiKey : String) (apiVersion : Option String) (directory : Bool) :
    Except BindingError Binding :=
  check
    { modelId := trim deployment
      apiKey := trim apiKey
      dialect := if directory then .azureAD else .azure
      organization := none
      apiVersion := some (apiVersion.getD defaultApiVersion)
      endpoint := some (trim endpoint) }

def route (b : Binding) : Route :=
  if b.dialect.isAzure then .deployment b.modelId else .model b.modelId

end Binding

end ChatGateway
