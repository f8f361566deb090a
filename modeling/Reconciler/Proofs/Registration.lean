import Reconciler.Proofs.Owned
import Reconciler.Proofs.Pools

/-!
# Registration

A normal pass makes members in the pools that its machine belongs in, with the address that it
leaves on record, and removes none.
-/

namespace Reconciler

open Machine (About Topic)
open Step (Asks)

namespace Pools

variable {directory : Directory} {places : List Place} {before middle after : Pools}

/-- Every member that the engine has made is still there, in one of the places and with an
address. -/
def Kept (places : List Place) (pools : Pools) : Prop :=
  ∀ seat ∈ pools.made, seat ∈ pools.seats ∧ seat.place ∈ places ∧ seat.address.isSome

theorem Drifts.kept (hdrifts : Drifts before after) (hkept : before.Kept places) :
    after.Kept places := by
  intro seat hmade
  rw [hdrifts.made] at hmade
  obtain ⟨hthere, hrest⟩ := hkept seat hmade
  exact ⟨(hdrifts.seats seat hmade).mpr hthere, hrest⟩

/-- Members with an address may have been made in the places, and none is gone. -/
structure Adds (places : List Place) (address : Option String) (before after : Pools) : Prop where
  made : ∀ seat ∈ after.made, seat ∈ before.made ∨ seat.address = address
  kept : before.Kept places → after.Kept places

variable {address : Option String}

theorem Drifts.adds (hdrifts : Drifts before after) : Adds places address before after where
  made _ hmade := .inl (hdrifts.made ▸ hmade)
  kept := hdrifts.kept

theorem Adds.trans (hfirst : Adds places address before middle)
    (hlast : Adds places address middle after) : Adds places address before after where
  made seat hmade := (hlast.made seat hmade).elim (hfirst.made seat) .inr
  kept hkept := hlast.kept (hfirst.kept hkept)

/-- To make a member adds it to the pools, or nothing. -/
theorem adds_of_provided {loadBalancer pool address : String} {port : Int} {weight : Option Int}
    {ending : Outcome (Except CloudError PoolMember)}
    (hprovided : provided directory (.cloud (.createMember loadBalancer pool address port weight))
      ending before after) (hplace : (loadBalancer, pool) ∈ places) :
    Adds places (some address) before after := by
  obtain ⟨asked, answered, hbefore, hanswers, hafter⟩ := hprovided
  refine hbefore.adds.trans (Adds.trans ?_ hafter.adds)
  rcases hanswers with ⟨seat, hseat, haddress, -, hseats, hmade⟩ | ⟨-, rfl⟩
  · constructor
    · intro other hother
      rw [hmade] at hother
      rcases List.mem_cons.mp hother with rfl | hother
      · exact .inr haddress
      · exact .inl hother
    · intro hkept other hother
      rw [hmade] at hother
      rw [hseats]
      rcases List.mem_cons.mp hother with rfl | hother
      · exact ⟨List.mem_cons_self .., hseat ▸ hplace, by simp [haddress]⟩
      · exact ⟨List.mem_cons_of_mem _ (hkept other hother).1, (hkept other hother).2⟩
  · exact (Drifts.refl answered).adds

variable {σ α β : Type}

/-- Wherever the step ends, it has made members with an address in the places at most. -/
def Adding (directory : Directory) (places : List Place) (address : Option String)
    (step : Step .machine σ α) : Prop :=
  ∀ state start, (step state).Ensures (provided directory)
    (fun _ _ after => Adds places address start after) start

theorem Adding.of_asks {topics : List Topic} {step : Step .machine σ α}
    (hasks : Asks (About topics) step) (hjoining : Topic.joining ∉ topics)
    (hleaving : Topic.leaving ∉ topics) : Adding directory places address step :=
  fun state start => (drifts_of_asks hasks hjoining hleaving state start).mono
    fun _ _ _ hdrifts => hdrifts.adds

theorem Adding.pure (value : α) :
    Adding directory places address (pure value : Step .machine σ α) :=
  fun _ start => (Drifts.refl start).adds

theorem Adding.throw (error : Error) :
    Adding directory places address (throw error : Step .machine σ α) :=
  fun _ start => (Drifts.refl start).adds

theorem Adding.ofExcept (result : Except Error α) :
    Adding directory places address (Action.ofExcept result : Step .machine σ α) :=
  fun _ start => (Drifts.refl start).adds

theorem Adding.modify (change : σ → σ) :
    Adding directory places address (modify change : Step .machine σ PUnit) :=
  fun _ start => (Drifts.refl start).adds

/-- What comes after a step may rely on what is known of its value. -/
theorem Adding.bind_of {known : α → Prop} {first : Step .machine σ α} {next : α → Step .machine σ β}
    (hfirst : Adding directory places address first)
    (hknown : ∀ state start, (first state).Ensures (provided directory)
      (fun _ outcome _ => ∀ value, outcome = .returned (.ok value) → known value) start)
    (hnext : ∀ value, known value → Adding directory places address (next value)) :
    Adding directory places address (first >>= next) := by
  intro state start
  rw [Action.ensures_bind]
  apply ((hfirst state start).and (hknown state start)).mono
  rintro middle outcome ready ⟨hready, hvalue⟩
  rcases outcome with (error | value) | _ | text
  · exact hready
  · exact (hnext value (hvalue value rfl) middle ready).mono fun _ _ _ hadds => hready.trans hadds
  · exact hready
  · exact hready

theorem Adding.bind {first : Step .machine σ α} {next : α → Step .machine σ β}
    (hfirst : Adding directory places address first)
    (hnext : ∀ value, Adding directory places address (next value)) :
    Adding directory places address (first >>= next) :=
  hfirst.bind_of (fun state start => (hfirst state start).mono fun _ _ _ _ _ _ => trivial)
    fun value _ => hnext value

theorem Adding.map {first : Step .machine σ α} (change : α → β)
    (hfirst : Adding directory places address first) :
    Adding directory places address (change <$> first) :=
  hfirst.bind fun value => Adding.pure (change value)

end Pools

namespace Membership

open Pools (Adding)

variable {σ : Type} {directory : Directory} {places : List Place}

theorem ensureMember_adding {loadBalancer : LoadBalancer} {pool : Pool} (address : String)
    (port : Int) (weight : Option Int) (hplace : (loadBalancer.id, pool.id) ∈ places) :
    Adding directory places (some address)
      (ensureMember loadBalancer pool address port weight : Calls σ Bool) := by
  have hlist : Asks (About [.pool])
      (Body.call .machine (.listMembers loadBalancer.id pool.id) : Calls σ _) := Asks.call (by simp)
  have hcreate : Adding directory places (some address) (Body.call .machine
      (.createMember loadBalancer.id pool.id address port weight) : Calls σ _) := by
    intro state start
    rw [Body.ensures_call]
    exact fun ending after hprovided => Pools.adds_of_provided hprovided hplace
  unfold ensureMember
  apply (Adding.of_asks hlist (by decide) (by decide)).bind
  intro members
  split
  · exact Adding.pure _
  · split
    · exact Adding.pure true
    · exact hcreate.bind fun _ => Adding.pure _

theorem registerOne_adding {membership : PoolMembership} (address : String)
    (hplace : ∀ place, directory.place membership = some place → place ∈ places) :
    Adding directory places (some address) (registerOne membership address : Calls σ Bool) := by
  unfold registerOne
  apply (Adding.of_asks (asks_findLoadBalancer _) (by decide) (by decide)).bind_of
    (findLoadBalancer_resolves membership.loadBalancer)
  intro found hfound
  split
  · exact Adding.throw _
  · next loadBalancer =>
    have hpool := place_eq_findPool hfound
    split
    · exact Adding.throw _
    · next pool hfind => exact ensureMember_adding _ _ _ (hplace _ (by simp [hpool, hfind]))

theorem register_adding (address : String) {memberships : List PoolMembership}
    (hplaces : ∀ place ∈ memberships.filterMap directory.place, place ∈ places) :
    Adding directory places (some address) (register address memberships : Calls σ Bool) := by
  induction memberships with
  | nil => exact Adding.pure false
  | cons membership rest ih =>
      simp only [List.mem_filterMap, List.exists_mem_cons_iff, or_imp, forall_and] at hplaces
      have hrest := ih (by simpa using hplaces.2)
      exact (registerOne_adding address hplaces.1).bind fun _ => hrest.bind fun _ => Adding.pure _

theorem eq_some_of_usableAddress {address : Option String} {usable : String}
    (husable : usableAddress address = .ok usable) : address = some usable := by
  rcases address with _ | found
  · simp [usableAddress] at husable
  · rw [usableAddress] at husable
    split at husable
    · rw [Except.ok.inj husable]
    · exact absurd husable (by simp)

theorem registerControlPlane_adding {cluster : VpcCluster} (address : Option String)
    (hplace : ∀ place, directory.controlPlane cluster = some place → place ∈ places) :
    Adding directory places address (registerControlPlane cluster address : Calls σ Bool) := by
  unfold registerControlPlane
  apply (Adding.ofExcept (usableAddress address)).bind_of
    fun _ _ _ hended => Outcome.returned.inj hended
  intro usable husable
  rw [eq_some_of_usableAddress husable]
  apply (Adding.of_asks (asks_controlPlanePool cluster) (by decide) (by decide)).bind_of
    fun state start => (controlPlanePool_located cluster state start).mono ?_
  · exact fun found hfound => ensureMember_adding _ _ _ (hplace _ hfound)
  · rintro _ _ _ hlocated found rfl
    exact hlocated

end Membership

namespace Machine

open Pools (Adding Adds Drifts drifts_of_asks provided)

variable {directory : Directory}

/-- A running machine is registered with the address of its instance. -/
theorem registerRunning_adds (surroundings : Surroundings) (found : Instance) (machine : Machine)
    (start : Pools) :
    (registerRunning surroundings found machine).Ensures (provided directory) (fun _ _ after =>
      Adds (directory.places surroundings.cluster machine) found.primaryAddress start after)
      start := by
  unfold registerRunning Directory.places
  rw [Action.ensures_bind, Action.ensures_get, Outcome.follow_ok]
  split
  · refine (Adding.ofExcept (Membership.usableAddress found.primaryAddress)).bind_of
      (fun _ _ _ hended => Outcome.returned.inj hended) (fun address haddress => ?_) machine start
    rw [Membership.eq_some_of_usableAddress haddress]
    exact Adding.map _ (Membership.register_adding address fun _ => id)
  · split
    · rcases surroundings.cluster with _ | cluster
      · exact Adding.pure none machine start
      · refine Adding.map _ (Membership.registerControlPlane_adding _ ?_) machine start
        simp
    · exact Adding.pure _ machine start

theorem reconcileInstance_adds (surroundings : Surroundings) (found : Instance) (machine : Machine)
    (start : Pools) :
    (reconcileInstance surroundings found machine).Ensures (provided directory) (fun _ _ after =>
      Adds (directory.places surroundings.cluster machine) found.primaryAddress start after)
      start := by
  have hupdate (change : MachineStatus → MachineStatus) (requeue : Requeue) :
      Adding directory (directory.places surroundings.cluster machine) found.primaryAddress
        (do update change; return requeue : Pass Requeue) :=
    (Adding.modify _).bind fun _ => Adding.pure requeue
  unfold reconcileInstance
  generalize found.status = status
  cases status with
  | pending => exact hupdate _ _ machine start
  | stopped => exact hupdate _ _ machine start
  | failed =>
      have hpublish (event : Event) : Asks (About [.event]) (Body.publish event : Pass Unit) :=
        Asks.publish fun _ => by simp
      exact ((Adding.modify _).bind fun _ => (Adding.of_asks (hpublish _) (by decide)
        (by decide)).bind fun _ => Adding.pure _) machine start
  | running =>
      dsimp only
      unfold reconcileRunning
      rw [Action.ensures_bind]
      apply (registerRunning_adds surroundings found machine start).mono
      intro state outcome after hadds
      rcases outcome with (error | _ | _ | _) | _ | text
      · exact hadds
      · exact hadds
      · exact hadds
      · exact hadds
      · exact hadds
      · exact hadds
  | unknown word => exact hupdate _ _ machine start

/-- Where an instance is recorded, so is its address. -/
theorem recordInstance_internalAddress {S : Type} {environment : Environment (outside .machine) S}
    (surroundings : Surroundings) (found : Instance) (machine : Machine) (start : S) :
    (recordInstance surroundings found machine).Ensures environment (fun after outcome _ =>
      outcome.Succeeded → after.internalAddress = found.primaryAddress) start := by
  have hobserved (machine : Machine) :
      internalAddress (machine.mapStatus (observed found)) = found.primaryAddress := by
    rcases haddress : found.primaryAddress with _ | address <;>
      simp [internalAddress, Object.mapStatus, observed, haddress]
  unfold recordInstance
  simp only [Action.ensures_bind, Action.ensures_get, Outcome.follow_ok]
  split
  · rcases found.crn with _ | crn
    · exact fun _ => hobserved _
    · rw [Action.ensures_bind]
      refine (Body.ensures_callFor ..).mpr ?_
      rintro ((error | _) | _ | text) after _
      · exact nofun
      · exact fun _ => hobserved _
      · exact nofun
      · exact nofun
  · exact fun _ => hobserved _

theorem places_of_unmarked (cluster : Option VpcCluster) {before after : Machine}
    (hsame : Managed.machine.unmarked after = Managed.machine.unmarked before) :
    directory.places cluster after = directory.places cluster before :=
  directory.places_congr cluster (congrArg Prod.snd hsame)
    (congrArg (fun part => part.1.hasLabel controlPlaneLabel) hsame)

/-- The members that a normal pass makes have the address that it leaves on record. -/
theorem owned_adds (surroundings : Surroundings) (machine : Machine) (start : Pools) :
    (owned surroundings machine).Ensures (provided directory) (fun left _ after =>
      Adds (directory.places surroundings.cluster machine) left.internalAddress start after)
      start := by
  unfold owned
  simp only [Action.ensures_bind, Action.ensures_get, Outcome.follow_ok]
  split
  · exact (Drifts.refl start).adds
  rw [Action.ensures_bind]
  apply ((drifts_of_asks (asks_getOrCreate surroundings) (by decide) (by decide) machine start).and
    ((keeps_getOrCreate surroundings machine).anywhere start)).mono
  rintro state outcome searched ⟨hsearched, hstate⟩
  rcases outcome with (error | _ | found) | _ | text
  · exact hsearched.adds
  · exact hsearched.adds
  · rw [Outcome.follow_ok]
    dsimp only
    rw [Action.ensures_bind]
    have hunmarked := keeps_recordInstance (fun _ _ => Managed.machine.keeps_update _)
      surroundings found state
    apply (((drifts_of_asks (asks_recordInstance surroundings found) (by decide) (by decide) state
      searched).and (hunmarked.anywhere searched)).and
      (recordInstance_internalAddress surroundings found state searched)).mono
    rintro noted outcome tagged ⟨⟨htagged, hrecorded⟩, haddress⟩
    have htagged := hsearched.trans htagged
    rcases outcome with (error | _) | _ | text
    · exact htagged.adds
    · rw [Outcome.follow_ok, ← places_of_unmarked surroundings.cluster (hrecorded.trans hstate)]
      apply ((reconcileInstance_adds surroundings found noted tagged).and
        ((keeps_recorded_reconcileInstance surroundings found noted).anywhere tagged)).mono
      rintro left _ after ⟨hadds, hleft⟩
      rw [internalAddress_eq_recorded, hleft, ← internalAddress_eq_recorded, haddress trivial]
      exact htagged.adds.trans hadds
    · exact htagged.adds
    · exact htagged.adds
  · exact hsearched.adds
  · exact hsearched.adds

theorem reconcileNormal_adds (surroundings : Surroundings) (fetched : Machine) (start : Pools) :
    (reconcileNormal surroundings fetched).Ensures (provided directory) (fun left _ after =>
      Adds (directory.places surroundings.cluster fetched) left.internalAddress start after)
      start := by
  apply reconcileNormal_ensures_of_owned
  · exact fun _ _ _ => (Drifts.refl start).adds
  · intro machine hprepared
    rw [← directory.places_congr _ hprepared.alike.spec hprepared.alike.controlPlane]
    exact owned_adds surroundings machine start

end Machine

end Reconciler
