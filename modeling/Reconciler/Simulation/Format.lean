import Reconciler.Codec.Cloud
import Reconciler.Json.Canonical
import Reconciler.Json.Printer
import Reconciler.Simulation.State

/-!
# Scripts and traces as documents

Scripts, faults and network deliveries are read from documents, and what was asked of the world is
written as documents.
-/

namespace Reconciler.Simulation

open Json FieldReader

/-! ## Calls -/

/-- The arguments of a compute call. -/
def vpcArguments : VpcCall → List Json
  | .getInstance id => [.string id]
  | .getInstanceByName name => [.string name]
  | .createInstance prototype => [Codec.writePrototype prototype]
  | .deleteInstance id => [.string id]
  | .tagResource tag crn => [.string tag, .string crn]
  | .getLoadBalancer id => [.string id]
  | .getLoadBalancerByName name => [.string name]
  | .listMembers loadBalancer pool => [.string loadBalancer, .string pool]
  | .createMember loadBalancer pool address port weight =>
    [.string loadBalancer, .string pool, .string address, .integer port, orNull .integer weight]
  | .deleteMember loadBalancer pool member => [.string loadBalancer, .string pool, .string member]

/-- The arguments of an image call. -/
def workspaceArguments : WorkspaceCall → List Json
  | .createImportJob request => [Codec.writeImportRequest request]
  | .getJob id => [.string id]
  | .deleteJob id => [.string id]
  | .getAllImages => []
  | .getImage id => [.string id]
  | .deleteImage id => [.string id]

def arguments : (managed : Managed) → managed.Call → List Json
  | .machine, call => vpcArguments call
  | .image, call => workspaceArguments call

/-- The call of a method with some arguments. -/
def readCall (method : Method) (arguments : List Json) : Option (VpcCall ⊕ WorkspaceCall) :=
  match method, arguments with
  | .getInstance, [.string id] => some (.inl (.getInstance id))
  | .getInstanceByName, [.string name] => some (.inl (.getInstanceByName name))
  | .createInstance, [prototype] =>
    (Codec.readPrototype prototype).map fun prototype => .inl (.createInstance prototype)
  | .deleteInstance, [.string id] => some (.inl (.deleteInstance id))
  | .tagResource, [.string tag, .string crn] => some (.inl (.tagResource tag crn))
  | .getLoadBalancer, [.string id] => some (.inl (.getLoadBalancer id))
  | .getLoadBalancerByName, [.string name] => some (.inl (.getLoadBalancerByName name))
  | .listMembers, [.string loadBalancer, .string pool] =>
    some (.inl (.listMembers loadBalancer pool))
  | .createMember, .string loadBalancer :: .string pool :: .string address :: port :: weight => do
    let port ← Reader.int64 port
    let weight := weight.head?.bind Reader.int64
    return .inl (.createMember loadBalancer pool address port weight)
  | .deleteMember, [.string loadBalancer, .string pool, .string member] =>
    some (.inl (.deleteMember loadBalancer pool member))
  | .createImportJob, [request] =>
    (Codec.readImportRequest request).map fun request => .inr (.createImportJob request)
  | .getJob, [.string id] => some (.inr (.getJob id))
  | .deleteJob, [.string id] => some (.inr (.deleteJob id))
  | .getAllImages, _ => some (.inr .getAllImages)
  | .getImage, [.string id] => some (.inr (.getImage id))
  | .deleteImage, [.string id] => some (.inr (.deleteImage id))
  | _, _ => none

/-! ## Replies -/

def readReply : (method : Method) → Reader method.Reply
  | .getInstance => Reader.nullable Codec.readInstance
  | .getInstanceByName => Reader.nullable Codec.readInstance
  | .createInstance => Codec.readInstance
  | .deleteInstance => fun _ => some ()
  | .tagResource => fun _ => some ()
  | .getLoadBalancer => Reader.nullable Codec.readLoadBalancer
  | .getLoadBalancerByName => Reader.nullable Codec.readLoadBalancer
  | .listMembers => Reader.list Codec.readMember
  | .createMember => Codec.readMember
  | .deleteMember => fun _ => some ()
  | .createImportJob => Reader.text
  | .getJob => Codec.readJob
  | .deleteJob => fun _ => some ()
  | .getAllImages => Reader.list Codec.readImageReference
  | .getImage => Codec.readBootImage
  | .deleteImage => fun _ => some ()

def writeReply : (method : Method) → method.Reply → Json
  | .getInstance => orNull Codec.writeInstance
  | .getInstanceByName => orNull Codec.writeInstance
  | .createInstance => Codec.writeInstance
  | .deleteInstance => fun _ => .null
  | .tagResource => fun _ => .null
  | .getLoadBalancer => orNull Codec.writeLoadBalancer
  | .getLoadBalancerByName => orNull Codec.writeLoadBalancer
  | .listMembers => fun members => .array (members.map Codec.writeMember)
  | .createMember => Codec.writeMember
  | .deleteMember => fun _ => .null
  | .createImportJob => .string
  | .getJob => Codec.writeJob
  | .deleteJob => fun _ => .null
  | .getAllImages => fun images => .array (images.map Codec.writeImageReference)
  | .getImage => Codec.writeBootImage
  | .deleteImage => fun _ => .null

/-! ## Scripts -/

def readCloudError : Reader CloudError := record do
  let text ← Codec.textField "text"
  match ← Codec.textField "kind" with
  | "NotFound" => return .notFound text
  | "Auth" => return .auth text
  | "Unexpected" => return .unexpected text
  | "Api" =>
    return .api (← Codec.textField "method") (← Codec.textField "url")
      (← defaulted "status" 0 Reader.uint64) (← Codec.textField "message")
  | _ => failure

/-- The text that a broken call leaves, if it breaks.  Whatever is not text leaves a fixed one. -/
def readPanic : FieldReader (Option String) := do
  let text ← optional "panic" Reader.text
  let other ← optional "panicValue" Reader.int64
  return text <|> other.map fun _ => "unknown panic"

/-- Reads how a call ends.  A call that never returns counts before one that breaks, and that before
a result. -/
def readEnding (method : Method) : FieldReader (Ending method.Reply) := do
  if ← defaulted "hang" false Reader.flag then return .never
  match ← readPanic with
  | some text => return .panicked text
  | none =>
    match ← optional "err" readCloudError with
    | some error => return .failed error
    | none =>
      match readReply method ((← take "ok").getD .null) with
      | some value => return .returned value
      | none => failure

def readAnswer (method : Method) : Reader (Answer method.Reply) := mapping do
  let delay ← defaulted "delayMs" 0 Reader.uint64
  return ⟨delay, ← readEnding method⟩

/-- Reads a script, an object with a list of answers for each method. -/
def readScript : Reader Script := mapping <|
  Method.all.foldlM
    (fun script method => do
      let answers ← defaulted method.name [] (Reader.list (readAnswer method))
      return script.set method answers)
    Script.empty

def verbWord : Verb → String
  | .get => "get"
  | .replace => "replace"
  | .replaceStatus => "replace_status"
  | .publish => "event"

def readVerb : Reader Verb :=
  Reader.word ([Verb.get, .replace, .replaceStatus, .publish].map fun verb => (verbWord verb, verb))

/-- The short names of the kinds. -/
def kindWords : List (String × Kind) :=
  [("machine", .machine), ("image", .image), ("vpcCluster", .vpcCluster),
    ("powervsCluster", .powerVsCluster), ("secret", .secret)]

def readKind : Reader Kind := Reader.word kindWords

/-- Reads how an access fails, if it does.  Only a code that tells an error comes with a reason that
can be read. -/
def readRefusal : FieldReader (Option ApiError) := do
  if ← defaulted "garbled" false Reader.flag then return some .unreadable
  match ← optional "code" Reader.uint64 with
  | none => return none
  | some code =>
    let status : ApiStatus :=
      ⟨code, ← Codec.textField "reason", ← Codec.textField "message"⟩
    return some (if 400 ≤ code ∧ code < 600 then .refused status else .unreadable)

def readFault : Reader Fault := mapping do
  return {
    verb := ← required "on" readVerb
    kind := ← optional "kind" readKind
    skip := ← defaulted "skip" 0 Reader.uint64
    remove := ← defaulted "remove" false Reader.flag
    patch := ← take "patch"
    failure := ← readRefusal }

/-- Reads what the network delivers.  A body that is given as a document is sent as its text. -/
def readDelivery : Reader Delivery := mapping do
  if ← defaulted "broken" false Reader.flag then return none
  let status ← defaulted "status" 200 Reader.uint64
  match ← take "json" with
  | some document => return some ⟨status, document.canonical.render⟩
  | none => return some ⟨status, ← Codec.textField "text"⟩

def readProvider : Reader Http.Provider := mapping do
  return {
    identityEndpoint := ← Codec.textField "iam"
    apiKey := ← optional "apiKey" Reader.text
    vpcRegion := ← Codec.textField "vpcRegion"
    powerVsRegion := ← Codec.textField "powervsRegion" }

/-! ## Traces -/

def writePair (pair : String × String) : Json := .array [.string pair.1, .string pair.2]

def writePayload : Http.Payload → String × Json
  | .json document => ("json", document)
  | .form fields => ("form", .array (fields.map writePair))

def writeRequest (request : Http.Request) : Json :=
  .object <|
    [("http", .string request.method.word), ("url", .string request.url),
      ("headers", .array (request.headers.map writePair))] ++
    (request.payload.map writePayload).toList

def eventMembers (event : Event) : List (String × Json) :=
  [("type", .string event.type.word), ("reason", .string event.reason),
    ("note", orNull .string event.note), ("action", .string event.action)]

def writeObjectReference (reference : ObjectReference) : Json :=
  .object <|
    [("apiVersion", .string reference.apiVersion), ("kind", .string reference.kind)] ++
    Json.optional "name" .string reference.name ++
    Json.optional "namespace" .string reference.namespace ++
    Json.optional "uid" .string reference.uid

def writeEntry : Entry → Json
  | .called managed call =>
    .object
      [("call", .string (Method.ofCall managed call).name),
        ("args", .array (arguments managed call))]
  | .requested request => writeRequest request
  | .fetched kind key =>
    .object
      [("store", .string (verbWord .get)), ("kind", .string kind.name), ("key", .string key)]
  | .written verb kind key version =>
    .object
      [("store", .string (verbWord verb)), ("kind", .string kind.name), ("key", .string key),
        ("rv", orNull .string version)]
  | .connected .machine region =>
    .object [("provider", .string "vpc"), ("region", orNull .string region)]
  | .connected .image target =>
    .object [("provider", .string "powervs"), ("target", Codec.writeTarget target)]
  | .published event regarding =>
    .object
      [("event", .object <| eventMembers event ++
        [("regarding", writeObjectReference regarding), ("reporter", .string Event.reporter)])]

/-- What was asked, in order. -/
def writeTrace (state : State) : Json := .array (state.trace.reverse.map writeEntry)

end Reconciler.Simulation
