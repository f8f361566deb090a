import Reconciler.Pass.Body

/-!
# Membership in load balancer pools

A machine is a member of a pool through its address and a port.  Registration adds what is missing
to active load balancers, deregistration removes every member with the machine's address.
-/

namespace Reconciler.Membership

variable {σ : Type}

/-- A step that makes calls for a machine. -/
abbrev Calls (σ α : Type) := Step .machine σ α

/-- The load balancer that a reference resolves to; the id counts before the name. -/
def findLoadBalancer (reference : ResourceReference) : Calls σ (Option LoadBalancer) :=
  match reference.id, reference.name with
  | some id, _ => Body.call .machine (.getLoadBalancer id)
  | none, some name => Body.call .machine (.getLoadBalancerByName name)
  | none, none => return none

/-- A pool is what a reference points at. -/
def names (reference : ResourceReference) (pool : Pool) : Bool :=
  match reference.id, reference.name with
  | some id, _ => pool.id == id
  | none, some name => pool.name == name
  | none, none => false

/-- The pool of a load balancer that a reference resolves to. -/
def findPool (loadBalancer : LoadBalancer) (reference : ResourceReference) : Option Pool :=
  loadBalancer.pools.find? (names reference)

/-- An address that a machine can be reached at. -/
def usableAddress : Option String → Except Error String
  | some address =>
    if !address.isEmpty && address != "0.0.0.0" then .ok address else .error .invalidPrimaryAddress
  | none => .error .invalidPrimaryAddress

/-- Makes sure that the pool has the address and port as a member, adding it only while the load
balancer is active.  The answer says whether the membership is still to become active. -/
def ensureMember (loadBalancer : LoadBalancer) (pool : Pool) (address : String) (port : Int)
    (weight : Option Int) : Calls σ Bool := do
  let members : List PoolMember ←
    Body.call .machine (.listMembers loadBalancer.id pool.id)
  match members.find? fun member => member.address == some address && member.port == port with
  | some member => return member.status != .active
  | none =>
    if loadBalancer.status != .active then return true
    let created : PoolMember ←
      Body.call .machine
        (.createMember loadBalancer.id pool.id address port weight)
    return created.status != .active

/-- Registers one declared membership. -/
def registerOne (membership : PoolMembership) (address : String) : Calls σ Bool := do
  match ← findLoadBalancer membership.loadBalancer with
  | none => throw (.missingLoadBalancer membership.loadBalancer.describe)
  | some loadBalancer =>
    match findPool loadBalancer membership.pool with
    | none => throw (.missingPool loadBalancer.name membership.pool.describe)
    | some pool => ensureMember loadBalancer pool address membership.port membership.weight

/-- Registers every declared membership in turn.  The answer says whether any of them is still to
become active. -/
def register (address : String) : List PoolMembership → Calls σ Bool
  | [] => return false
  | membership :: rest => do
    let waiting ← registerOne membership address
    let restWaiting ← register address rest
    return waiting || restWaiting

/-- The first pool of the load balancer in front of a cluster's control plane. -/
def controlPlanePool (cluster : VpcCluster) : Calls σ (LoadBalancer × Pool) := do
  match cluster.controlPlaneLoadBalancer with
  | none => throw (.missingLoadBalancer ("control plane of " ++ cluster.metadata.nameAny))
  | some reference =>
    let found : Option LoadBalancer ←
      Body.call .machine (.getLoadBalancer reference.id)
    match found with
    | none => throw (.missingLoadBalancer reference.id)
    | some loadBalancer =>
      match loadBalancer.pools.head? with
      | none => throw (.missingPool loadBalancer.name "<first>")
      | some pool => return (loadBalancer, pool)

/-- Registers a control plane machine at its cluster's API server. -/
def registerControlPlane (cluster : VpcCluster) (address : Option String) : Calls σ Bool := do
  let address ← Action.ofExcept (usableAddress address)
  let (loadBalancer, pool) ← controlPlanePool cluster
  ensureMember loadBalancer pool address cluster.apiServerPort none

/-- Removes members one by one; a member that is gone already is done. -/
def removeAll (loadBalancer : LoadBalancer) (pool : Pool) : List PoolMember → Calls σ Unit
  | [] => return
  | member :: rest => do
    match ← Body.attempt .machine
      (.deleteMember loadBalancer.id pool.id member.id) with
    | .ok _ => removeAll loadBalancer pool rest
    | .error error =>
      if error.isNotFound then removeAll loadBalancer pool rest else throw (.cloud error)

/-- Removes the members of a pool that have an address. -/
def removeMember (loadBalancer : LoadBalancer) (pool : Pool) (address : String) :
    Calls σ Unit := do
  let members : List PoolMember ←
    Body.call .machine (.listMembers loadBalancer.id pool.id)
  removeAll loadBalancer pool (members.filter (·.address == some address))

/-- Removes an address from every declared pool.  What does not resolve any more has no members. -/
def deregister (address : String) : List PoolMembership → Calls σ Unit
  | [] => return
  | membership :: rest => do
    match ← findLoadBalancer membership.loadBalancer with
    | none => pure ()
    | some loadBalancer =>
      match findPool loadBalancer membership.pool with
      | none => pure ()
      | some pool => removeMember loadBalancer pool address
    deregister address rest

/-- The load balancer or pool of a membership does not exist. -/
def isMissing : Error → Bool
  | .missingLoadBalancer _ => true
  | .missingPool .. => true
  | _ => false

/-- Removes an address from the pool of a cluster's control plane, if there is one. -/
def deregisterControlPlane (cluster : VpcCluster) (address : String) : Calls σ Unit := do
  match ← Action.attempt (controlPlanePool cluster) with
  | .ok (loadBalancer, pool) => removeMember loadBalancer pool address
  | .error error => if isMissing error then return else throw error

end Reconciler.Membership
