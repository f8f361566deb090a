import Reconciler.Cloud.Resource
import Reconciler.Json.Limits
import Reconciler.Json.Reader

/-!
# Bodies of responses

How the provider writes its resources down.
-/

namespace Reconciler.Http

open Json FieldReader

def readAddress : Reader String := record (required "address" Reader.text)

def readHealthReason : Reader HealthReason := record do
  return {
    code := ← required "code" Reader.text
    message := ← required "message" Reader.text }

/-- Reads an instance.  Its address is that of its primary network interface. -/
def readInstance : Reader Instance := record do
  return {
    id := ← required "id" Reader.text
    name := ← required "name" Reader.text
    crn := ← nullable "crn" Reader.text
    status := .ofWord (← required "status" Reader.text)
    primaryAddress := (← nullable "primary_network_interface"
      (record (nullable "primary_ip" readAddress))).join
    healthReasons := ← defaulted "health_reasons" [] (Reader.list readHealthReason) }

def readInstances : Reader (List Instance) :=
  record (required "instances" (Reader.list readInstance))

/-- Reads an id and a name, which may be missing. -/
def readNamed : Reader Pool := record do
  return { id := ← required "id" Reader.text, name := ← defaulted "name" "" Reader.text }

/-- Reads the ids of a listing of images. -/
def readImageIds : Reader (List String) :=
  record (required "images" (Reader.list fun document => (readNamed document).map (·.id)))

def readLoadBalancer : Reader LoadBalancer := record do
  return {
    id := ← required "id" Reader.text
    name := ← required "name" Reader.text
    status := .ofWord (← required "provisioning_status" Reader.text)
    pools := ← defaulted "pools" [] (Reader.list readNamed) }

/-- A page of the listing of load balancers, and where the next one is. -/
structure LoadBalancerPage where
  loadBalancers : List LoadBalancer
  next : Option String
deriving DecidableEq

def readLoadBalancerPage : Reader LoadBalancerPage := record do
  return {
    loadBalancers := ← required "load_balancers" (Reader.list readLoadBalancer)
    next := ← nullable "next" (record (required "href" Reader.text)) }

def readMember : Reader PoolMember := record do
  let id ← required "id" Reader.text
  let port ← required "port" Reader.int64
  let status ← required "provisioning_status" Reader.text
  let address ← nullable "target" (record (nullable "address" Reader.text))
  return { id, address := address.join, port, status := .ofWord status }

def readMembers : Reader (List PoolMember) :=
  record (required "members" (Reader.list readMember))

/-- Reads the id of a job that was started. -/
def readJobId : Reader String := record (required "id" Reader.text)

def readJob : Reader Job := record do
  let id ← required "id" Reader.text
  let (state, message) ← required "status" <| record do
    return (← required "state" Reader.text, ← defaulted "message" "" Reader.text)
  return { id, state := .ofWord state, message }

def readBootImage : Reader BootImage := record do
  return {
    id := ← required "imageID" Reader.text
    name := ← required "name" Reader.text
    state := .ofWord (← defaulted "state" "" Reader.text) }

def readBootImages : Reader (List BootImage) :=
  record (required "images" (Reader.list readBootImage))

/-- Reads any document that could be kept. -/
def readAnything : Reader Unit := fun document =>
  if document.withinLimits depthLimit then some () else none

end Reconciler.Http
