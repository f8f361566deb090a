import Reconciler.Proofs.Asking

/-!
# Members that are found active

A running machine is registered in its pools before it is called ready.  The answer that nothing is
to be waited for is backed by the exchanges of this registration: each load balancer was looked up
in it, and the member of each pool was listed as active there, or was active when it was made.
-/

namespace Reconciler

namespace Membership

/-- The exchanges show what load balancer a reference resolves to. -/
def Resolved (seen : List OfMachine) (reference : ResourceReference)
    (loadBalancer : LoadBalancer) : Prop :=
  match reference.id, reference.name with
  | some id, _ => ⟨.cloud (.getLoadBalancer id), .returned (.ok (some loadBalancer))⟩ ∈ seen
  | none, some name =>
    ⟨.cloud (.getLoadBalancerByName name), .returned (.ok (some loadBalancer))⟩ ∈ seen
  | none, none => False

/-- The exchanges show the member of a pool with this address and port to be active: it is in a
listing of the pool, or it was made. -/
def ShowsActive (seen : List OfMachine) (loadBalancer pool address : String) (port : Int) : Prop :=
  (∃ members : List PoolMember,
    ⟨.cloud (.listMembers loadBalancer pool), .returned (.ok members)⟩ ∈ seen ∧
    ∃ member, members.find? (fun member =>
      member.address == some address && member.port == port) = some member ∧
      member.status = .active) ∨
  ∃ (weight : Option Int) (created : PoolMember),
    ⟨.cloud (.createMember loadBalancer pool address port weight), .returned (.ok created)⟩ ∈ seen ∧
    created.status = .active

/-- A declared membership was found active. -/
def FoundActive (seen : List OfMachine) (address : String) (membership : PoolMembership) : Prop :=
  ∃ loadBalancer pool, Resolved seen membership.loadBalancer loadBalancer ∧
    findPool loadBalancer membership.pool = some pool ∧
    ShowsActive seen loadBalancer.id pool.id address membership.port

/-- The membership of a control plane machine at its cluster's API server was found active. -/
def ControlPlaneActive (seen : List OfMachine) (cluster : VpcCluster) (address : String) : Prop :=
  ∃ reference loadBalancer pool, cluster.controlPlaneLoadBalancer = some reference ∧
    ⟨.cloud (.getLoadBalancer reference.id), .returned (.ok (some loadBalancer))⟩ ∈ seen ∧
    loadBalancer.pools.head? = some pool ∧
    ShowsActive seen loadBalancer.id pool.id address cluster.apiServerPort

section

variable {seen more : List OfMachine} (hmore : seen ⊆ more)
include hmore

theorem Resolved.mono {reference : ResourceReference} {loadBalancer : LoadBalancer}
    (hresolved : Resolved seen reference loadBalancer) : Resolved more reference loadBalancer := by
  unfold Resolved at *
  split at hresolved
  · exact hmore hresolved
  · exact hmore hresolved
  · exact hresolved

theorem ShowsActive.mono {loadBalancer pool address : String} {port : Int}
    (hshows : ShowsActive seen loadBalancer pool address port) :
    ShowsActive more loadBalancer pool address port := by
  rcases hshows with ⟨members, hlisted, hmember⟩ | ⟨weight, created, hmade, hactive⟩
  · exact .inl ⟨members, hmore hlisted, hmember⟩
  · exact .inr ⟨weight, created, hmore hmade, hactive⟩

theorem FoundActive.mono {address : String} {membership : PoolMembership}
    (hfound : FoundActive seen address membership) : FoundActive more address membership := by
  obtain ⟨loadBalancer, pool, hresolved, hpool, hshows⟩ := hfound
  exact ⟨loadBalancer, pool, hresolved.mono hmore, hpool, hshows.mono hmore⟩

theorem ControlPlaneActive.mono {cluster : VpcCluster} {address : String}
    (hactive : ControlPlaneActive seen cluster address) :
    ControlPlaneActive more cluster address := by
  obtain ⟨reference, loadBalancer, pool, hreference, hlooked, hpool, hshows⟩ := hactive
  exact ⟨reference, loadBalancer, pool, hreference, hmore hlooked, hpool, hshows.mono hmore⟩

end

variable {σ : Type}

theorem findLoadBalancer_resolved (reference : ResourceReference) (state : σ) :
    (findLoadBalancer reference state).Ensures (.recording _) (fun _ outcome seen =>
      ∀ loadBalancer, outcome = .returned (.ok (some loadBalancer)) →
        Resolved seen reference loadBalancer) [] := by
  unfold findLoadBalancer Resolved
  rcases reference.id with _ | id
  · rcases reference.name with _ | name
    · simp
    · rw [Body.ensures_call]
      rintro ending _ rfl loadBalancer hfound
      obtain rfl := Outcome.mapError_eq_ok_iff.mp hfound
      simp
  · rw [Body.ensures_call]
    rintro ending _ rfl loadBalancer hfound
    obtain rfl := Outcome.mapError_eq_ok_iff.mp hfound
    simp

theorem ensureMember_active (loadBalancer : LoadBalancer) (pool : Pool) (address : String)
    (port : Int) (weight : Option Int) (state : σ) :
    (ensureMember loadBalancer pool address port weight state).Ensures (.recording _)
      (fun _ outcome seen => outcome = .returned (.ok false) →
        ShowsActive seen loadBalancer.id pool.id address port) [] := by
  unfold ensureMember
  simp only [Action.ensures_bind, Body.ensures_call]
  rintro ((error | members) | _ | text) _ rfl
  · simp
  · simp only [Outcome.mapError_ok, Outcome.follow_ok]
    rcases hmember : List.find? (fun member : PoolMember =>
      member.address == some address && member.port == port) members with _ | member
    · dsimp only
      split
      · simp
      · simp only [Action.ensures_bind, Body.ensures_call]
        rintro ((error | created) | _ | text) _ rfl
        · simp
        · intro hactive
          refine .inr ⟨weight, created, by simp, ?_⟩
          simpa using hactive
        · simp
        · simp
    · intro hactive
      refine .inl ⟨members, by simp, member, hmember, ?_⟩
      simpa using hactive
  · simp
  · simp

theorem registerOne_active (membership : PoolMembership) (address : String) (state : σ) :
    (registerOne membership address state).Ensures (.recording _) (fun _ outcome seen =>
      outcome = .returned (.ok false) → FoundActive seen address membership) [] := by
  unfold registerOne
  rw [Action.ensures_bind]
  apply (findLoadBalancer_resolved membership.loadBalancer state).mono
  rintro state ((error | _ | loadBalancer) | _ | text) early hresolved
  · simp
  · simp
  · rw [Outcome.follow_ok]
    dsimp only
    rcases hpool : findPool loadBalancer membership.pool with _ | pool
    · simp
    · apply ((ensureMember_active loadBalancer pool address membership.port membership.weight
        state).recording early).mono
      rintro _ outcome _ ⟨late, rfl, hshows⟩ hactive
      exact ⟨loadBalancer, pool, (hresolved _ rfl).mono (List.subset_append_left ..), hpool,
        (hshows hactive).mono (List.subset_append_right ..)⟩
  · simp
  · simp

theorem register_active (address : String) (memberships : List PoolMembership) (state : σ) :
    (register address memberships state).Ensures (.recording _) (fun _ outcome seen =>
      outcome = .returned (.ok false) →
        ∀ membership ∈ memberships, FoundActive seen address membership) [] := by
  induction memberships generalizing state with
  | nil => simp [register]
  | cons membership rest ih =>
      unfold register
      rw [Action.ensures_bind]
      apply (registerOne_active membership address state).mono
      rintro state ((error | waiting) | _ | text) early hfirst
      · simp
      · rw [Outcome.follow_ok, Action.ensures_bind]
        apply ((ih state).recording early).mono
        rintro _ ((error | restWaiting) | _ | text) _ ⟨late, rfl, hrest⟩
        · simp
        · intro hactive
          obtain ⟨rfl, rfl⟩ : waiting = false ∧ restWaiting = false := by simpa using hactive
          refine List.forall_mem_cons.mpr ⟨?_, fun other hmem => ?_⟩
          · exact (hfirst rfl).mono (List.subset_append_left ..)
          · exact (hrest rfl other hmem).mono (List.subset_append_right ..)
        · simp
        · simp
      · simp
      · simp

theorem controlPlanePool_looked (cluster : VpcCluster) (state : σ) :
    (controlPlanePool cluster state).Ensures (.recording _) (fun _ outcome seen =>
      ∀ loadBalancer pool, outcome = .returned (.ok (loadBalancer, pool)) →
        ∃ reference, cluster.controlPlaneLoadBalancer = some reference ∧
          ⟨.cloud (.getLoadBalancer reference.id), .returned (.ok (some loadBalancer))⟩ ∈ seen ∧
          loadBalancer.pools.head? = some pool) [] := by
  unfold controlPlanePool
  rcases cluster.controlPlaneLoadBalancer with _ | reference
  · simp
  · simp only [Action.ensures_bind, Body.ensures_call]
    rintro ((error | _ | found) | _ | text) _ rfl
    · simp
    · simp
    · simp only [Outcome.mapError_ok, Outcome.follow_ok]
      rcases hpool : found.pools.head? with _ | first
      · simp
      · rintro loadBalancer pool hlocated
        obtain ⟨rfl, rfl⟩ : found = loadBalancer ∧ first = pool := by simpa using hlocated
        exact ⟨reference, rfl, by simp, hpool⟩
    · simp
    · simp

theorem registerControlPlane_active (cluster : VpcCluster) (primary : Option String) (state : σ) :
    (registerControlPlane cluster primary state).Ensures (.recording _) (fun _ outcome seen =>
      outcome = .returned (.ok false) → ∃ address, usableAddress primary = .ok address ∧
        ControlPlaneActive seen cluster address) [] := by
  unfold registerControlPlane
  rw [Action.ensures_bind, Action.ensures_ofExcept]
  rcases usableAddress primary with error | address
  · simp
  · rw [Outcome.follow_ok, Action.ensures_bind]
    apply (controlPlanePool_looked cluster state).mono
    rintro state ((error | ⟨loadBalancer, pool⟩) | _ | text) early hlooked
    · simp
    · obtain ⟨reference, hreference, hseen, hpool⟩ := hlooked _ _ rfl
      apply ((ensureMember_active loadBalancer pool address cluster.apiServerPort none
        state).recording early).mono
      rintro _ outcome _ ⟨late, rfl, hshows⟩ hactive
      exact ⟨address, rfl, reference, loadBalancer, pool, hreference,
        List.mem_append_left _ hseen, hpool,
        (hshows hactive).mono (List.subset_append_right ..)⟩
    · simp
    · simp

end Membership

namespace Machine

/-- Every membership that the machine needs was found active: those that it declares, or else the
one at its cluster's API server, if it is a control plane machine. -/
structure FoundActive (cluster : Option VpcCluster) (machine : Machine) (found : Instance)
    (seen : List OfMachine) : Prop where
  declared : machine.spec.loadBalancerPoolMembers ≠ [] →
    ∃ address, Membership.usableAddress found.primaryAddress = .ok address ∧
      ∀ membership ∈ machine.spec.loadBalancerPoolMembers,
        Membership.FoundActive seen address membership
  controlPlane : machine.spec.loadBalancerPoolMembers = [] → machine.isControlPlane = true →
    ∃ known, cluster = some known ∧
      ∃ address, Membership.usableAddress found.primaryAddress = .ok address ∧
        Membership.ControlPlaneActive seen known address

/-- A machine that is registered with nothing to wait for has its memberships active.  There is no
answer only where a control plane machine has no cluster. -/
theorem registerRunning_active (surroundings : Surroundings) (found : Instance)
    (machine : Machine) :
    (registerRunning surroundings found machine).Ensures (.recording _) (fun _ outcome seen =>
      (outcome = .returned (.ok (some false)) →
        FoundActive surroundings.cluster machine found seen) ∧
      (outcome = .returned (.ok none) → surroundings.cluster = none)) [] := by
  unfold registerRunning
  rw [Action.ensures_bind, Action.ensures_get, Outcome.follow_ok]
  by_cases hdeclared : machine.spec.loadBalancerPoolMembers = []
  · rw [if_neg (by simp [hdeclared])]
    by_cases hcontrolPlane : machine.isControlPlane = true
    · rw [if_pos hcontrolPlane]
      rcases surroundings.cluster with _ | cluster
      · simp
      · dsimp only
        rw [Action.ensures_map]
        apply (Membership.registerControlPlane_active cluster found.primaryAddress machine).mono
        rintro _ ((error | waiting) | _ | text) seen hactive
        · simp
        · refine ⟨fun hanswer => ⟨fun hsome => absurd hdeclared hsome, fun _ _ => ?_⟩, by simp⟩
          exact ⟨cluster, rfl, hactive (by simpa using hanswer)⟩
        · simp
        · simp
    · rw [if_neg hcontrolPlane]
      refine ⟨fun _ => ⟨fun hsome => absurd hdeclared hsome, fun _ hthis => ?_⟩, by simp⟩
      exact absurd hthis hcontrolPlane
  · rw [if_pos (by simpa using hdeclared), Action.ensures_bind, Action.ensures_ofExcept]
    rcases haddress : Membership.usableAddress found.primaryAddress with error | address
    · simp
    · rw [Outcome.follow_ok, Action.ensures_map]
      apply (Membership.register_active address machine.spec.loadBalancerPoolMembers machine).mono
      rintro _ ((error | waiting) | _ | text) seen hactive
      · simp
      · refine ⟨fun hanswer => ⟨fun _ => ⟨address, haddress, ?_⟩, fun hnone =>
          absurd hnone hdeclared⟩, by simp⟩
        exact hactive (by simpa using hanswer)
      · simp
      · simp

end Machine

end Reconciler
