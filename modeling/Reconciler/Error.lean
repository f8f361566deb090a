import Reconciler.Resource.Kind
import Reconciler.Resource.Owner
import Reconciler.Text.Quoted

/-!
# What can go wrong

Errors of the provider, of objects, and of a pass.  A pass error is a cause inside any number of
wrappers: a context adds a text in front, a requeue says how long to wait.  An error is shown in two
ways: its message is for a reader, and its description has all its parts.  Where the cause is an
error of a library, the library shows it in its own words.
-/

namespace Reconciler

/-- A request that got no usable reply. -/
inductive TransportError where
  | sending (url : String)
  | decoding
deriving DecidableEq, Inhabited

def TransportError.message : TransportError → String
  | .sending url => "error sending request for url (" ++ url ++ ")"
  | .decoding => "error decoding response body"

/-- Why a provider call failed. -/
inductive CloudError where
  | notFound (what : String)
  | api (method url : String) (status : Nat) (message : String)
  | transport (error : TransportError)
  | auth (reason : String)
  | unexpected (reason : String)
deriving DecidableEq, Inhabited

namespace CloudError

def message : CloudError → String
  | .notFound what => what ++ " not found"
  | .api method url status message =>
    method ++ " " ++ url ++ " failed with " ++ toString status ++ ": " ++ message
  | .transport error => "Reqwest error: " ++ error.message
  | .auth reason => "Authentication failed: " ++ reason
  | .unexpected reason => "Unexpected provider response: " ++ reason

/-- The one error that means that the thing is already gone. -/
def isNotFound : CloudError → Bool
  | .notFound _ => true
  | _ => false

/-- The name of an error's cause. -/
def name : CloudError → String
  | .notFound _ => "NotFound"
  | .api .. => "Api"
  | .transport _ => "ReqwestError"
  | .auth _ => "Auth"
  | .unexpected _ => "Unexpected"

/-- The error with all its parts, each text in quotes. -/
def describe (library : String) : CloudError → String
  | .notFound what => Text.tuple "NotFound" [Text.quoted what]
  | .api method url status message =>
    Text.record "Api" [("method", Text.quoted method), ("url", Text.quoted url),
      ("status", toString status), ("message", Text.quoted message)]
  | .transport _ => Text.tuple "ReqwestError" [library]
  | .auth reason => Text.tuple "Auth" [Text.quoted reason]
  | .unexpected reason => Text.tuple "Unexpected" [Text.quoted reason]

end CloudError

/-- What is wrong with an object. -/
inductive ResourceError where
  /-- An error of a library, which shows it in two ways of its own. -/
  | serialization (message description : String)
  | missingField (kind name field : String)
  | other (text : String)
deriving DecidableEq, Inhabited

namespace ResourceError

def message : ResourceError → String
  | .serialization message _ => "SerializationError: " ++ message
  | .missingField kind name field => kind ++ " " ++ name ++ " has no " ++ field
  | .other text => "Error: " ++ text

def name : ResourceError → String
  | .serialization .. => "SerializationError"
  | .missingField .. => "MissingField"
  | .other _ => "Other"

/-- The error with all its parts, each text in quotes. -/
def describe : ResourceError → String
  | .serialization _ description => Text.tuple "SerializationError" [description]
  | .missingField kind name field =>
    Text.record "MissingField" [("kind", Text.quoted kind), ("name", Text.quoted name),
      ("field", Text.quoted field)]
  | .other text => Text.tuple "Other" [Text.quoted text]

/-- The description in lower case, as metrics count it. -/
def label (error : ResourceError) : String := Text.lowercase error.describe

end ResourceError

/-- A refusal by the API server. -/
structure ApiStatus where
  code : Nat
  reason : String
  message : String
deriving DecidableEq, Inhabited

namespace ApiStatus

/-- The refusal with all its parts. -/
def describe (status : ApiStatus) : String :=
  Text.record "ErrorResponse" [("status", Text.quoted "Failure"),
    ("message", Text.quoted status.message), ("reason", Text.quoted status.reason),
    ("code", toString status.code)]

def text (status : ApiStatus) : String :=
  status.message ++ ": " ++ status.reason ++ " (" ++ status.describe ++ ")"

/-- The answer to a request for an object that is not there. -/
def notFound : ApiStatus := ⟨404, "NotFound", "NotFound"⟩

/-- The answer to a write over a version that is not the stored one. -/
def conflict : ApiStatus := ⟨409, "Conflict", "Conflict"⟩

end ApiStatus

/-- Why an access to the API server failed: it refused, or its answer could not be understood. -/
inductive ApiError where
  | refused (status : ApiStatus)
  | unreadable
deriving DecidableEq, Inhabited

/-- Why a pass failed. -/
inductive Error where
  | serialization
  | api (error : ApiError)
  | resource (error : ResourceError)
  | cloud (error : CloudError)
  | clusterNotFound (kind «namespace» name : String)
  | missingClusterName (object : String)
  | conflict (key : String) (attempts : Nat)
  | importFailed (message : String)
  | invalidPrimaryAddress
  | missingLoadBalancer (name : String)
  | missingPool (loadBalancer pool : String)
  | missingBootstrapData (secret : String)
  | unknownTarget (key : String)
  | deadlineExceeded
  | panicked (text : String)
  | context (text : String) (source : Error)
  | requeue (after : Nat) (source : Error)
deriving DecidableEq, Inhabited

namespace Error

/-- The name of an error's outermost layer. -/
def name : Error → String
  | .serialization => "SerializationError"
  | .api _ => "KubeError"
  | .resource _ => "ResourceError"
  | .cloud _ => "CloudError"
  | .clusterNotFound .. => "ClusterNotFound"
  | .missingClusterName _ => "MissingClusterName"
  | .conflict .. => "Conflict"
  | .importFailed _ => "ImportFailed"
  | .invalidPrimaryAddress => "InvalidPrimaryIp"
  | .missingLoadBalancer _ => "MissingLoadBalancer"
  | .missingPool .. => "MissingPool"
  | .missingBootstrapData _ => "MissingBootstrapData"
  | .unknownTarget _ => "UnknownTarget"
  | .deadlineExceeded => "Elapsed"
  | .panicked _ => "Panicked"
  | .context .. => "Context"
  | .requeue .. => "Requeue"

/-- The error inside all wrappers. -/
def cause : Error → Error
  | .context _ source => source.cause
  | .requeue _ source => source.cause
  | leaf => leaf

/-- The names of all layers, the outermost first. -/
def chain : Error → List String
  | .context text source => (context text source).name :: source.chain
  | .requeue after source => (requeue after source).name :: source.chain
  | leaf => [leaf.name]

/-- The cause is an error of a library. -/
def ofLibrary : Error → Bool
  | .serialization => true
  | .api .unreadable => true
  | .context _ source => source.ofLibrary
  | .requeue _ source => source.ofLibrary
  | _ => false

/-- The message of an error.  Where its cause is an error of a library, that is what the library
says. -/
def message (library : String) : Error → String
  | .serialization => "SerializationError: " ++ library
  | .api (.refused status) => "Kube Error: ApiError: " ++ status.text
  | .api .unreadable => "Kube Error: " ++ library
  | .resource error => "Resource error: " ++ error.message
  | .cloud error => "Cloud error: " ++ error.message
  | .clusterNotFound kind «namespace» name =>
    kind ++ " " ++ «namespace» ++ "/" ++ name ++ " not found"
  | .missingClusterName object => object ++ " does not name its owning cluster"
  | .conflict key attempts =>
    "Conflict while persisting " ++ key ++ ", giving up after " ++ toString attempts ++ " attempts"
  | .importFailed message => "failed to import image, message: " ++ message
  | .invalidPrimaryAddress => "invalid primary ip address"
  | .missingLoadBalancer name => "load balancer " ++ name ++ " not found"
  | .missingPool loadBalancer pool =>
    "pool " ++ pool ++ " not found in load balancer " ++ loadBalancer
  | .missingBootstrapData secret => "bootstrap data secret " ++ secret ++ " has no usable value"
  | .unknownTarget key => "cannot tell where the cloud resources of " ++ key ++ " live"
  | .deadlineExceeded => "Reconcile deadline exceeded: deadline has elapsed"
  | .panicked text => "Reconcile panicked: " ++ text
  | .context text source => text ++ ": " ++ source.message library
  | .requeue _ source => source.message library

/-- The message of an error whose cause is not an error of a library. -/
def message? (error : Error) : Option String :=
  if error.ofLibrary then none else some (error.message "")

/-- The error with all its parts, each text in quotes. -/
def describe (library : String) : Error → String
  | .serialization => Text.tuple "SerializationError" [library]
  | .api (.refused status) => Text.tuple "KubeError" [Text.tuple "Api" [status.describe]]
  | .api .unreadable => Text.tuple "KubeError" [library]
  | .resource error => Text.tuple "ResourceError" [error.describe]
  | .cloud error => Text.tuple "CloudError" [error.describe library]
  | .clusterNotFound kind «namespace» name =>
    Text.record "ClusterNotFound" [("kind", Text.quoted kind),
      ("namespace", Text.quoted «namespace»), ("name", Text.quoted name)]
  | .missingClusterName object => Text.tuple "MissingClusterName" [Text.quoted object]
  | .conflict key attempts => Text.tuple "Conflict" [Text.quoted key, toString attempts]
  | .importFailed message => Text.tuple "ImportFailed" [Text.quoted message]
  | .invalidPrimaryAddress => "InvalidPrimaryIp"
  | .missingLoadBalancer name => Text.tuple "MissingLoadBalancer" [Text.quoted name]
  | .missingPool loadBalancer pool =>
    Text.record "MissingPool" [("load_balancer", Text.quoted loadBalancer),
      ("pool", Text.quoted pool)]
  | .missingBootstrapData secret => Text.tuple "MissingBootstrapData" [Text.quoted secret]
  | .unknownTarget key => Text.tuple "UnknownTarget" [Text.quoted key]
  | .deadlineExceeded => Text.tuple "Elapsed" [Text.tuple "Elapsed" ["()"]]
  | .panicked text => Text.tuple "Panicked" [Text.quoted text]
  | .context text source =>
    Text.record "Context" [("context", Text.quoted text), ("source", source.describe library)]
  | .requeue after source =>
    Text.record "Requeue" [("after", toString after ++ "s"), ("source", source.describe library)]

/-- What metrics count the error as: the beginning of the description of its cause in lower case.
What a library would say comes later than that. -/
def label : Error → String
  | .context _ source => source.label
  | .requeue _ source => source.label
  | leaf => Text.lowercase (Text.opening (leaf.describe ""))

/-- How long the failing pass asked to wait, if it did. -/
def requeueAfter : Error → Option Nat
  | .requeue after _ => some after
  | .context _ source => source.requeueAfter
  | _ => none

/-- The cause is that something is not there. -/
def isNotFound : Error → Bool
  | .cloud error => error.isNotFound
  | .api (.refused status) => status.code == 404
  | .context _ source => source.isNotFound
  | .requeue _ source => source.isNotFound
  | _ => false

/-- The error itself, not its cause, is a write over a stale version. -/
def isConflict : Error → Bool
  | .api (.refused status) => status.code == 409
  | _ => false

end Error

/-- The reference to an owner, which has to be stored already. -/
def ownerReference (kind : Kind) (metadata : Metadata) : Except ResourceError OwnerReference := do
  let missing (field : String) := ResourceError.missingField kind.name metadata.nameAny field
  let name ← metadata.name.elim (.error (missing "name")) .ok
  let uid ← metadata.uid.elim (.error (missing "uid")) .ok
  return { apiVersion := kind.apiVersion, kind := kind.name, name, uid }

end Reconciler
