import Reconciler.Proofs.Provider

/-!
# Pools and their members

A provider holds members in the pools of load balancers.  Others may come and go, but the members
that the engine has made are touched by the engine alone.  Where load balancers and pools keep
resolving, a lookup leads to the same pool every time.
-/

namespace Reconciler

open Machine (About Topic topic)
open Relation (ReflTransGen)
open Step (Asks)

/-- A pool of a load balancer, by their ids. -/
abbrev Place := String × String

/-- A member in its pool. -/
structure Seat where
  place : Place
  id : String
  address : Option String
  port : Int
deriving DecidableEq

/-- A member as it is listed for a pool. -/
def PoolMember.seat (place : Place) (member : PoolMember) : Seat :=
  ⟨place, member.id, member.address, member.port⟩

/-- The members of all pools, and all that the engine has made, whether they are still there or not.
No two members of a pool have the same id. -/
structure Pools where
  seats : List Seat
  made : List Seat
  distinct : ∀ left ∈ seats, ∀ right ∈ seats,
    left.place = right.place → left.id = right.id → left = right

/-- Where the lookups of load balancers lead: to an id and pools. -/
structure Directory where
  byId : String → Option (String × List Pool)
  byName : String → Option (String × List Pool)

namespace Directory

variable (directory : Directory)

def find (reference : ResourceReference) : Option (String × List Pool) :=
  match reference.id, reference.name with
  | some id, _ => directory.byId id
  | none, some name => directory.byName name
  | none, none => none

/-- The pool of a declared membership. -/
def place (membership : PoolMembership) : Option Place :=
  (directory.find membership.loadBalancer).bind fun (loadBalancer, pools) =>
    (pools.find? (Membership.names membership.pool)).map fun pool => (loadBalancer, pool.id)

/-- The pool in front of a cluster's control plane. -/
def controlPlane (cluster : VpcCluster) : Option Place :=
  cluster.controlPlaneLoadBalancer.bind fun reference =>
    (directory.byId reference.id).bind fun (loadBalancer, pools) =>
      pools.head?.map fun pool => (loadBalancer, pool.id)

/-- The pools that a machine belongs in. -/
def places (cluster : Option VpcCluster) (machine : Machine) : List Place :=
  if !machine.spec.loadBalancerPoolMembers.isEmpty then
    machine.spec.loadBalancerPoolMembers.filterMap directory.place
  else if machine.isControlPlane then (cluster.bind directory.controlPlane).toList
  else []

theorem places_congr (cluster : Option VpcCluster) {left right : Machine}
    (hspec : right.spec = left.spec) (hcontrolPlane : right.isControlPlane = left.isControlPlane) :
    directory.places cluster right = directory.places cluster left := by
  simp only [places, hspec, hcontrolPlane]

end Directory

/-- What of a load balancer a directory holds. -/
def LoadBalancer.outline (loadBalancer : LoadBalancer) : String × List Pool :=
  (loadBalancer.id, loadBalancer.pools)

/-- Lookups that return lead where the directory says, to load balancers with such a status. -/
structure Directory.Leads {S : Type} (directory : Directory)
    (reported : ProvisioningStatus → Prop) (environment : Environment (outside .machine) S) :
    Prop where
  byId : ∀ {id : String} {found : Option LoadBalancer} {before after : S},
    environment (.cloud (.getLoadBalancer id)) (.returned (.ok found)) before after →
      found.map LoadBalancer.outline = directory.byId id ∧
        ∀ loadBalancer ∈ found, reported loadBalancer.status
  byName : ∀ {name : String} {found : Option LoadBalancer} {before after : S},
    environment (.cloud (.getLoadBalancerByName name)) (.returned (.ok found)) before after →
      found.map LoadBalancer.outline = directory.byName name ∧
        ∀ loadBalancer ∈ found, reported loadBalancer.status

namespace Pools

/-- Members change beside the engine, but none of those that the engine has made. -/
structure Drifts (before after : Pools) : Prop where
  made : after.made = before.made
  seats : ∀ seat ∈ before.made, seat ∈ after.seats ↔ seat ∈ before.seats

variable {directory : Directory} {before middle after : Pools}

theorem Drifts.refl (pools : Pools) : Drifts pools pools := ⟨rfl, fun _ _ => Iff.rfl⟩

theorem Drifts.trans (hfirst : Drifts before middle) (hlast : Drifts middle after) :
    Drifts before after where
  made := hlast.made.trans hfirst.made
  seats seat hmade := (hlast.seats seat (hfirst.made ▸ hmade)).trans (hfirst.seats seat hmade)

theorem Drifts.of_changes (hchanges : ReflTransGen Drifts before after) : Drifts before after := by
  induction hchanges with
  | refl => exact .refl before
  | tail _ hlast ih => exact ih.trans hlast

/-- What a question does.  Lookups that return lead where the directory says and to the members that
are there; a member may be made though its creation ended in any way. -/
def Answers (directory : Directory) :
    (question : BodyQuestion .machine) → Outcome question.Answer → Pools → Pools → Prop
  | .cloud (.getLoadBalancer id), ending, before, after =>
    after = before ∧ ∀ found, ending = .returned (.ok found) →
      found.map LoadBalancer.outline = directory.byId id
  | .cloud (.getLoadBalancerByName name), ending, before, after =>
    after = before ∧ ∀ found, ending = .returned (.ok found) →
      found.map LoadBalancer.outline = directory.byName name
  | .cloud (.listMembers loadBalancer pool), ending, before, after =>
    after = before ∧ ∀ members, ending = .returned (.ok members) → ∀ seat,
      seat ∈ members.map (·.seat (loadBalancer, pool)) ↔
        seat ∈ before.seats ∧ seat.place = (loadBalancer, pool)
  | .cloud (.createMember loadBalancer pool address port _), ending, before, after =>
    (∃ seat : Seat, seat.place = (loadBalancer, pool) ∧ seat.address = some address ∧
      seat.port = port ∧ after.seats = seat :: before.seats ∧ after.made = seat :: before.made) ∨
    ¬ending.Succeeded ∧ after = before
  | .cloud (.deleteMember loadBalancer pool member), ending, before, after =>
    after.made = before.made ∧
      (after.seats = before.seats.filter
        (fun seat => ¬(seat.place = (loadBalancer, pool) ∧ seat.id = member)) ∨
      ¬Managed.machine.WentWell (.deleteMember loadBalancer pool member) ending ∧
        after.seats = before.seats)
  | _, _, before, after => after = before

/-- A provider at which load balancers and pools keep resolving. -/
def provided (directory : Directory) : Environment (outside .machine) Pools :=
  fun question ending before after => ∃ asked answered,
    Drifts before asked ∧ Answers directory question ending asked answered ∧ Drifts answered after

theorem leads_provided : directory.Leads (fun _ => True) (provided directory) where
  byId := fun ⟨_, _, _, hanswers, _⟩ => ⟨hanswers.2 _ rfl, fun _ _ => trivial⟩
  byName := fun ⟨_, _, _, hanswers, _⟩ => ⟨hanswers.2 _ rfl, fun _ _ => trivial⟩

variable {question : BodyQuestion .machine} {ending : Outcome question.Answer}

/-- What makes or removes no member leaves those that the engine has made as they are. -/
theorem drifts_of_provided (hprovided : provided directory question ending before after)
    (hjoining : topic question ≠ .joining) (hleaving : topic question ≠ .leaving) :
    Drifts before after := by
  obtain ⟨asked, answered, hbefore, hanswers, hafter⟩ := hprovided
  have hsame : answered = asked := by
    rcases question with call | _ | _
    · cases call with
      | getLoadBalancer id => exact hanswers.1
      | getLoadBalancerByName name => exact hanswers.1
      | listMembers loadBalancer pool => exact hanswers.1
      | createMember => exact absurd rfl hjoining
      | deleteMember => exact absurd rfl hleaving
      | _ => exact hanswers
    · exact hanswers
    · exact hanswers
  subst hsame
  exact hbefore.trans hafter

theorem drifts_of_asks {σ α : Type} {topics : List Topic} {step : Step .machine σ α}
    (hasks : Asks (About topics) step) (hjoining : Topic.joining ∉ topics)
    (hleaving : Topic.leaving ∉ topics) (state : σ) (start : Pools) :
    (step state).Ensures (provided directory) (fun _ _ after => Drifts start after) start := by
  refine (hasks state).ensures ?_ (.refl start)
  intro question ending before after hallowed hprovided hdrifts
  exact hdrifts.trans (drifts_of_provided hprovided (fun hsame => hjoining (hsame ▸ hallowed))
    fun hsame => hleaving (hsame ▸ hallowed))

/-- A listing tells by id which of the members that the engine has made have an address. -/
theorem listed_of_provided {loadBalancer pool : String} {members : List PoolMember}
    (hprovided : provided directory (.cloud (.listMembers loadBalancer pool))
      (.returned (.ok members)) before after)
    {seat : Seat} (hmade : seat ∈ before.made) (hthere : seat ∈ before.seats)
    (hplace : seat.place = (loadBalancer, pool)) (address : String) :
    (∃ member ∈ members.filter (·.address == some address), member.id = seat.id) ↔
      seat.address = some address := by
  obtain ⟨asked, _, hbefore, ⟨_, hmembers⟩, _⟩ := hprovided
  have hseat := (hbefore.seats seat hmade).mpr hthere
  have hlisted := hmembers members rfl
  constructor
  · rintro ⟨member, hmember, hid⟩
    obtain ⟨hmember, haddress⟩ := List.mem_filter.mp hmember
    have hother := (hlisted _).mp (List.mem_map_of_mem hmember)
    have hsame := asked.distinct _ hother.1 seat hseat hplace.symm hid
    rw [← hsame]
    exact beq_iff_eq.mp haddress
  · intro haddress
    obtain ⟨member, hmember, rfl⟩ := List.mem_map.mp ((hlisted seat).mpr ⟨hseat, hplace⟩)
    exact ⟨member, List.mem_filter.mpr ⟨hmember, beq_iff_eq.mpr haddress⟩, rfl⟩

end Pools

namespace Membership

variable {σ : Type} {directory : Directory}

section

variable {S : Type} {environment : Environment (outside .machine) S}
variable {reported : ProvisioningStatus → Prop}

/-- Where lookups are led by a directory, a load balancer that is found is the one there.  A lookup
that fails does not tell that it is missing. -/
theorem findLoadBalancer_led (hleads : directory.Leads reported environment)
    (reference : ResourceReference) (state : σ) (start : S) :
    (findLoadBalancer reference state).Ensures environment (fun _ outcome _ =>
      (∀ found, outcome = .returned (.ok found) →
        found.map LoadBalancer.outline = directory.find reference ∧
          ∀ loadBalancer ∈ found, reported loadBalancer.status) ∧
        ∀ error, outcome = .returned (.error error) → isMissing error = false) start := by
  have hcloud {ending : Outcome (Except CloudError (Option LoadBalancer))} (error : Error)
      (hended : ending.mapError .cloud = .returned (.error error)) : isMissing error = false := by
    rcases ending with (failure | found) | _ | text <;> cases hended
    rfl
  rcases reference with ⟨_ | id, name⟩
  · rcases name with _ | name
    · exact ⟨by rintro _ ⟨⟩; exact ⟨rfl, nofun⟩, nofun⟩
    · refine (Body.ensures_call ..).mpr fun ending after hasked => ⟨fun found hended => ?_, hcloud⟩
      obtain rfl := Outcome.mapError_eq_ok_iff.mp hended
      exact hleads.byName hasked
  · refine (Body.ensures_call ..).mpr fun ending after hasked => ⟨fun found hended => ?_, hcloud⟩
    obtain rfl := Outcome.mapError_eq_ok_iff.mp hended
    exact hleads.byId hasked

end

/-- A load balancer that is found is the one that the directory leads to. -/
theorem findLoadBalancer_resolves (reference : ResourceReference) (state : σ) (start : Pools) :
    (findLoadBalancer reference state).Ensures (Pools.provided directory) (fun _ outcome _ =>
      ∀ found, outcome = .returned (.ok found) →
        found.map LoadBalancer.outline = directory.find reference) start :=
  (findLoadBalancer_led Pools.leads_provided reference state start).mono
    fun _ _ _ hfound found hended => (hfound.1 found hended).1

/-- The pool of a load balancer that was found is the one that the directory leads to. -/
theorem place_eq_findPool {membership : PoolMembership} {loadBalancer : LoadBalancer}
    (hfound : some loadBalancer.outline = directory.find membership.loadBalancer) :
    directory.place membership =
      (findPool loadBalancer membership.pool).map fun pool => (loadBalancer.id, pool.id) := by
  rw [Directory.place, ← hfound]
  rfl

/-- What the search for a pool ends with agrees with where it is. -/
def Located (place : Option Place) : Outcome (Except Error (LoadBalancer × Pool)) → Prop
  | .returned (.ok (loadBalancer, pool)) => place = some (loadBalancer.id, pool.id)
  | .returned (.error error) => isMissing error = true → place = none
  | _ => True

/-- Where lookups are led by a directory, the search for the pool of the control plane agrees with
it. -/
theorem controlPlanePool_led {S : Type} {environment : Environment (outside .machine) S}
    {reported : ProvisioningStatus → Prop} (hleads : directory.Leads reported environment)
    (cluster : VpcCluster) (state : σ) (start : S) :
    (controlPlanePool cluster state).Ensures environment (fun _ outcome _ =>
      Located (directory.controlPlane cluster) outcome) start := by
  unfold controlPlanePool Directory.controlPlane
  rcases cluster.controlPlaneLoadBalancer with _ | reference
  · exact fun _ => rfl
  · simp only [Action.ensures_bind, Body.ensures_call, Option.bind_some]
    intro ending after hasked
    rcases ending with (error | _ | loadBalancer) | _ | text
    · simp [Located, isMissing]
    · rw [← (hleads.byId hasked).1]
      exact fun _ => rfl
    · rw [← (hleads.byId hasked).1]
      simp only [Outcome.mapError_ok, Outcome.follow_ok, Option.map_some, Option.bind_some,
        LoadBalancer.outline]
      rcases loadBalancer.pools.head? with _ | pool
      · exact fun _ => rfl
      · exact rfl
    · trivial
    · trivial

section Removal

variable {S : Type} {environment : Environment (outside .machine) S}
variable {reported : ProvisioningStatus → Prop} {address : String} {state : σ} {start : S}
variable {post : σ → Outcome (Except Error Unit) → S → Prop} {looked : σ → S → Prop}

/-- Deregistering at one membership and then at the rest: after the lookup it is over, or there is
no such pool, or the address is taken out of the pool first. -/
theorem deregister_cons_ensures (hleads : directory.Leads reported environment)
    {membership : PoolMembership} {rest : List PoolMembership}
    (hlookup : (findLoadBalancer membership.loadBalancer state).Ensures environment
      (fun state _ ready => looked state ready) start)
    (hfails : ∀ state outcome ready, looked state ready → ¬outcome.Succeeded →
      post state outcome ready)
    (hskips : directory.place membership = none → ∀ state ready, looked state ready →
      (deregister address rest state).Ensures environment post ready)
    (hremoves : ∀ loadBalancer pool,
      directory.place membership = some (LoadBalancer.id loadBalancer, Pool.id pool) →
      ∀ state ready, looked state ready →
      (removeMember loadBalancer pool address state).Ensures environment (fun state outcome after =>
        outcome.follow (fun _ => (deregister address rest state).Ensures environment post after)
          fun outcome => post state outcome after) ready) :
    (deregister address (membership :: rest) state).Ensures environment post start := by
  unfold deregister
  rw [Action.ensures_bind]
  apply (hlookup.and (findLoadBalancer_led hleads membership.loadBalancer state start)).mono
  rintro state ((error | found) | _ | text) ready ⟨hready, hfound, -⟩
  · exact hfails state _ ready hready (Outcome.not_succeeded_error error)
  · rw [Outcome.follow_ok]
    obtain ⟨houtline, -⟩ := hfound found rfl
    rcases found with _ | loadBalancer
    · exact hskips (by simp [Directory.place, ← houtline]) state ready hready
    · have hpool := place_eq_findPool houtline
      dsimp only
      rcases hfind : findPool loadBalancer membership.pool with _ | pool
      · exact hskips (by simp [hpool, hfind]) state ready hready
      · dsimp only
        rw [Action.ensures_bind]
        exact hremoves loadBalancer pool (by simp [hpool, hfind]) state ready hready
  · exact hfails state _ ready hready Outcome.not_succeeded_expired
  · exact hfails state _ ready hready (Outcome.not_succeeded_panicked text)

/-- The same for the pool in front of a control plane. -/
theorem deregisterControlPlane_ensures (hleads : directory.Leads reported environment)
    {cluster : VpcCluster}
    (hlookup : (controlPlanePool cluster state).Ensures environment
      (fun state _ ready => looked state ready) start)
    (hfails : ∀ state outcome ready, looked state ready → ¬outcome.Succeeded →
      post state outcome ready)
    (hskips : directory.controlPlane cluster = none → ∀ state ready, looked state ready →
      post state (.returned (.ok ())) ready)
    (hremoves : ∀ loadBalancer pool,
      directory.controlPlane cluster = some (LoadBalancer.id loadBalancer, Pool.id pool) →
      ∀ state ready, looked state ready →
      (removeMember loadBalancer pool address state).Ensures environment post ready) :
    (deregisterControlPlane cluster address state).Ensures environment post start := by
  unfold deregisterControlPlane
  rw [Action.ensures_bind, Action.ensures_attempt]
  apply (hlookup.and (controlPlanePool_led hleads cluster state start)).mono
  rintro state ((error | ⟨loadBalancer, pool⟩) | _ | text) ready ⟨hready, hlocated⟩
  · dsimp only [Outcome.resume_returned, Outcome.follow_ok]
    split
    · next hmissing => exact hskips (hlocated hmissing) state ready hready
    · exact hfails state _ ready hready (Outcome.not_succeeded_error error)
  · exact hremoves loadBalancer pool hlocated state ready hready
  · exact hfails state _ ready hready Outcome.not_succeeded_expired
  · exact hfails state _ ready hready (Outcome.not_succeeded_panicked text)

end Removal

theorem controlPlanePool_located (cluster : VpcCluster) (state : σ) (start : Pools) :
    (controlPlanePool cluster state).Ensures (Pools.provided directory) (fun _ outcome _ =>
      Located (directory.controlPlane cluster) outcome) start :=
  controlPlanePool_led Pools.leads_provided cluster state start

end Membership

end Reconciler
