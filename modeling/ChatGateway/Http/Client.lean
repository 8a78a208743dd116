import ChatGateway.Http.Exchange
import ChatGateway.Service

namespace ChatGateway.Service

open Http (Network)

def overNetwork (network : Network) (binding : Binding) : Service where
  binding
  provider _ := Http.respond network
  reports := false

def openAI (network : Network) (modelId apiKey : String) (organization : Option String) :
    Except BindingError Service :=
  (Binding.openAI modelId apiKey organization).map (overNetwork network)

def azure (network : Network) (deployment endpoint apiKey : String) (apiVersion : Option String)
    (directory : Bool) : Except BindingError Service :=
  (Binding.azure deployment endpoint apiKey apiVersion directory).map (overNetwork network)

end ChatGateway.Service
