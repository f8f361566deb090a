import Reconciler.Proofs.Deregistration
import Reconciler.Proofs.Registration

/-!
# Members that outlive their machine

Every normal pass makes members with the address that it leaves on record, and a delete pass removes
the members with the address that it finds on record.  A member that was made for another address
stays in its pool.
-/

namespace Reconciler

namespace World

variable {W : Type} {«namespace» name : String} {world : World W}

/-- After any run of normal passes and a delete pass that lets the machine go, a member that was
made in the run is gone from its pool exactly when it has the address on record at the deletion.
The members that a normal pass makes have the address that this pass leaves on record. -/
theorem member_gone_iff {target : Managed.machine.Target} {view : W → Pools} {directory : Directory}
    (hsurrounds : world.Surrounds target view (Pools.provided directory) Pools.Drifts)
    {first leaving last : W} {stages : List (Stage .machine W)}
    (hpasses : world.Passes .machine «namespace» name view Pools.Drifts first stages leaving)
    {settings : Settings} {deletion : Visit .machine}
    (hvisit : world.visit .machine settings «namespace» name leaving = (some deletion, last))
    (hdeleting : deletion.Deleting) (htarget : deletion.opened.target = target)
    (hfinalizer : Managed.machine.hasFinalizer deletion.object = true)
    (hreleased : Managed.machine.hasFinalizer deletion.left.object = false)
    (hstages : ∀ stage ∈ stages, stage.visit.Normal ∧ stage.visit.opened.target = target ∧
      stage.visit.object.spec = deletion.object.spec ∧
      Machine.isControlPlane stage.visit.object = Machine.isControlPlane deletion.object ∧
      stage.visit.opened.cluster = deletion.opened.cluster)
    (hnone : (view first).made = []) :
    (∀ seat ∈ (view last).made,
      seat ∉ (view last).seats ↔ seat.address = Machine.internalAddress deletion.object) ∧
    ∀ stage ∈ stages, ∀ seat ∈ (view stage.after).made, seat ∈ (view stage.before).made ∨
      seat.address = Machine.internalAddress stage.visit.left.object := by
  have hadds (stage : Stage .machine W) (hmem : stage ∈ stages) (start ready : Pools)
      (hacts : stage.visit.Acts (Pools.provided directory) start ready) :
      Pools.Adds (directory.places deletion.opened.cluster deletion.object)
        (Machine.internalAddress stage.visit.left.object) start ready := by
    obtain ⟨hnormal, -, hspec, hcontrolPlane, hcluster⟩ := hstages stage hmem
    rw [← directory.places_congr _ hspec hcontrolPlane, ← hcluster]
    refine hacts.ensures (fun left _ after => Pools.Adds (directory.places _ _)
      (Machine.internalAddress left) start after) fun settings now => ?_
    rw [Managed.body_of_normal _ hnormal]
    exact Machine.reconcileNormal_adds _ stage.visit.object start
  refine ⟨?gone, fun stage hmem => ?made⟩
  case gone =>
    have hleaving := (hpasses.keeps (Pools.Kept _) hsurrounds (fun stage hmem =>
      (hstages stage hmem).2.1) Pools.Drifts.kept (fun stage hmem start ready hacts =>
        (hadds stage hmem start ready hacts).kept) (by simp [Pools.Kept, hnone])).1
    obtain ⟨taken⟩ := stages_of_visit hvisit
    obtain ⟨start, ready, hstart, hacts, hready⟩ := hsurrounds.acts_of_stages taken htarget
    have hkept := (Pools.Drifts.of_changes hstart).kept hleaving
    have hcleared := hacts.ensures (fun left _ after =>
      Managed.machine.hasFinalizer left = false → Pools.Clears
        (Machine.Seats directory deletion.opened.cluster deletion.object) start after)
      fun settings now => by
        rw [Managed.body_of_deleting _ hdeleting]
        exact Machine.reconcileDelete_clears _ deletion.object hfinalizer start
    have hclears := (hcleared hreleased).trans (Pools.Drifts.of_changes hready).clears
    intro seat hmade
    rw [hclears.made] at hmade
    obtain ⟨hthere, hplace, haddress⟩ := hkept seat hmade
    rw [hclears.seats seat hmade]
    simp [Machine.Seats, hthere, hplace, haddress]
  case made =>
    obtain ⟨settings, hvisit⟩ := hpasses.visit_of_mem hmem
    obtain ⟨taken⟩ := stages_of_visit hvisit
    obtain ⟨start, ready, hstart, hacts, hready⟩ :=
      hsurrounds.acts_of_stages taken (hstages stage hmem).2.1
    have hpass := (Pools.Drifts.of_changes hstart).adds.trans
      ((hadds stage hmem start ready hacts).trans (Pools.Drifts.of_changes hready).adds)
    exact hpass.made

end World

namespace Pools

/-- The pools with a member more, unless its id is taken. -/
def join (pools : Pools) (seat : Seat) : Option Pools :=
  if hfree : ∀ other ∈ pools.seats, ¬(other.place = seat.place ∧ other.id = seat.id) then
    some {
      seats := seat :: pools.seats
      made := seat :: pools.made
      distinct := by
        simp only [List.forall_mem_cons]
        refine ⟨⟨fun _ _ => trivial, fun right hright hplace hid => ?_⟩, fun left hleft =>
          ⟨fun hplace hid => ?_, pools.distinct left hleft⟩⟩
        · exact absurd ⟨hplace.symm, hid.symm⟩ (hfree right hright)
        · exact absurd ⟨hplace, hid⟩ (hfree left hleft) }
  else none

/-- The pools without a member. -/
def leave (pools : Pools) (place : Place) (id : String) : Pools where
  seats := pools.seats.filter fun seat => ¬(seat.place = place ∧ seat.id = id)
  made := pools.made
  distinct left hleft right hright :=
    pools.distinct left (List.mem_of_mem_filter hleft) right (List.mem_of_mem_filter hright)

end Pools

namespace Stand

/-- A provider with the pools, and the address of the machine's instance there. -/
structure Yard where
  pools : Pools
  address : String

/-- The instance of the machine as it is seen now. -/
def Yard.instance_ (yard : Yard) : Instance := ⟨"vsi", "node", none, .running, yard.address, []⟩

/-- A provider that runs an instance and keeps pools. -/
def balancing : World (Stand Yard) :=
  world (fun _ => 0) fun _ question yard => match question with
    | .cloud (.getInstance _) => (.returned (.ok (some yard.instance_)), yard)
    | .cloud (.getInstanceByName _) => (.returned (.ok (some yard.instance_)), yard)
    | .cloud (.getLoadBalancer _) =>
      (.returned (.ok (some ⟨"lb", "lb", .active, [⟨"pool", "pool"⟩]⟩)), yard)
    | .cloud (.listMembers loadBalancer pool) =>
      (.returned (.ok ((yard.pools.seats.filter (·.place = (loadBalancer, pool))).map fun seat =>
        ⟨seat.id, seat.address, seat.port, .active⟩)), yard)
    | .cloud (.createMember loadBalancer pool address port _) =>
      match yard.pools.join ⟨(loadBalancer, pool), address, some address, port⟩ with
      | some pools => (.returned (.ok ⟨address, some address, port, .active⟩), { yard with pools })
      | none => (.expired, yard)
    | .cloud (.deleteMember loadBalancer pool member) =>
      (.returned (.ok ()), { yard with pools := yard.pools.leave (loadBalancer, pool) member })
    | .cloud (.deleteInstance _) => (.returned (.ok ()), yard)
    | .publish .. => (.returned (.ok ()), yard)
    | _ => (.expired, yard)

/-- The only load balancer with its only pool. -/
def directory : Directory := ⟨fun _ => some ("lb", [⟨"pool", "pool"⟩]), fun _ => none⟩

theorem balancing_surrounds (target : Managed.machine.Target) :
    balancing.Surrounds target (fun stand => stand.cloud.pools) (Pools.provided directory)
      Pools.Drifts := by
  refine surrounds _ _ Yard.pools (fun deadline question yard =>
    ⟨yard.pools, _, .refl _, ?_, .refl _⟩) target
  rcases question with call | _ | _
  · cases call with
    | getLoadBalancer id =>
        refine ⟨rfl, ?_⟩
        rintro _ ⟨⟩
        rfl
    | getLoadBalancerByName name => exact ⟨rfl, nofun⟩
    | listMembers loadBalancer pool =>
        refine ⟨rfl, ?_⟩
        rintro _ ⟨⟩ seat
        rw [List.map_map, List.mem_map]
        constructor
        · rintro ⟨other, hother, rfl⟩
          obtain ⟨hthere, hplace⟩ := List.mem_filter.mp hother
          rw [decide_eq_true_eq] at hplace
          refine ⟨?_, rfl⟩
          simpa [PoolMember.seat, ← hplace] using hthere
        · rintro ⟨hthere, hplace⟩
          exact ⟨seat, List.mem_filter.mpr ⟨hthere, decide_eq_true hplace⟩, by
            simp [PoolMember.seat, ← hplace]⟩
    | createMember loadBalancer pool address port weight =>
        dsimp only
        split
        · next pools hjoin =>
          refine .inl ⟨⟨(loadBalancer, pool), address, some address, port⟩, rfl, rfl, rfl, ?_⟩
          unfold Pools.join at hjoin
          split at hjoin
          · rw [← Option.some.inj hjoin]
            exact ⟨rfl, rfl⟩
          · simp at hjoin
        · exact .inr ⟨id, rfl⟩
    | deleteMember loadBalancer pool member => exact ⟨rfl, .inl rfl⟩
    | _ => rfl
  · rfl
  · rfl

/-- A machine that nothing has been done for yet, with pools that are empty. -/
def empty : Stand Yard := fresh memberships ⟨⟨[], [], by simp⟩, "10.0.0.5"⟩

/-- The instance of the machine gets another address. -/
def readdress (stand : Stand Yard) (address : String) : Stand Yard :=
  { stand with cloud := { stand.cloud with address } }

end Stand

/-- The first member that passes over the machine make. -/
def Stand.seat : Seat := ⟨("lb", "pool"), "10.0.0.5", some "10.0.0.5", 6443⟩

/-- Over the passes of the stand nothing changes but the address, and every close persists. -/
abbrev Stand.Steady (visit : Visit .machine) : Prop :=
  visit.opened.target = some "region" ∧ visit.object.spec = (machine memberships).spec ∧
    visit.object.metadata.labels = (machine memberships).metadata.labels ∧
    visit.opened.cluster = some cluster ∧ visit.closed = .ok ()

namespace World

open Stand (Steady balancing)

/-- With one address all along, the member is gone. -/
theorem member_gone_registered : ∃ stages leaving deletion last,
    balancing.Passes .machine "default" "node" (fun stand => stand.cloud.pools) Pools.Drifts
      Stand.empty stages leaving ∧
    balancing.visit .machine {} "default" "node" leaving = (some deletion, last) ∧
    Stand.seat ∈ last.cloud.pools.made ∧ Stand.seat ∉ last.cloud.pools.seats := by
  obtain ⟨joining, hjoining, hnormal, hjoined⟩ : ∃ visit,
      balancing.visit .machine {} "default" "node" Stand.empty = (some visit, _) ∧
      visit.object.metadata.isDeleting = false ∧ Steady visit :=
    Stand.exists_visit (by decide +kernel)
  obtain ⟨deletion, hdeletion, hdeleting, hfinalizer, hreleased, haddress, hleft⟩ : ∃ visit,
      balancing.visit .machine {} "default" "node" (Stand.empty.passed balancing).delete =
        (some visit, _) ∧
      visit.object.metadata.isDeleting = true ∧
      Managed.machine.hasFinalizer visit.object = true ∧
      Managed.machine.hasFinalizer visit.left.object = false ∧
      Machine.internalAddress visit.object = some "10.0.0.5" ∧ Steady visit :=
    Stand.exists_visit (by decide +kernel)
  have hpasses : balancing.Passes .machine "default" "node" (fun stand => stand.cloud.pools)
      Pools.Drifts Stand.empty _ (Stand.empty.passed balancing).delete :=
    ((Passes.start _).visited {} hjoining).meanwhile .refl
  have hcontrolPlane : Machine.isControlPlane joining.object =
      Machine.isControlPlane deletion.object := by
    simp [Machine.isControlPlane, Metadata.hasLabel, Metadata.label?, hjoined, hleft]
  have hgone := (member_gone_iff (Stand.balancing_surrounds _) hpasses hdeletion hdeleting hleft.1
    hfinalizer hreleased (by simp [Visit.Normal, hnormal, hjoined, hleft, hcontrolPlane]) rfl).1
  have hmade : Stand.seat ∈
      ((Stand.empty.passed balancing).delete.passed balancing).cloud.pools.made := by
    decide +kernel
  exact ⟨_, _, deletion, _, hpasses, hdeletion, hmade, (hgone _ hmade).mpr haddress.symm⟩

/-- Where the address of the instance changes between two passes, the member that was made for the
first one outlives the machine. -/
theorem member_outlives_machine : ∃ stages leaving deletion last,
    balancing.Surrounds (some "region") (fun stand => stand.cloud.pools)
      (Pools.provided Stand.directory) Pools.Drifts ∧
    balancing.Passes .machine "default" "node" (fun stand => stand.cloud.pools) Pools.Drifts
      Stand.empty stages leaving ∧
    (∀ stage ∈ stages, stage.visit.Normal ∧ Steady stage.visit) ∧
    balancing.visit .machine {} "default" "node" leaving = (some deletion, last) ∧
    deletion.Deleting ∧ Steady deletion ∧ Managed.machine.hasFinalizer deletion.object = true ∧
    Managed.machine.hasFinalizer deletion.left.object = false ∧
    Stand.empty.cloud.pools.made = [] ∧
    Stand.seat ∈ last.cloud.pools.made ∧ Stand.seat ∈ last.cloud.pools.seats := by
  obtain ⟨joining, hjoining, hjoined⟩ : ∃ visit,
      balancing.visit .machine {} "default" "node" Stand.empty = (some visit, _) ∧
      visit.object.metadata.isDeleting = false ∧ Steady visit :=
    Stand.exists_visit (by decide +kernel)
  obtain ⟨moving, hmoving, hmoved⟩ : ∃ visit,
      balancing.visit .machine {} "default" "node"
        ((Stand.empty.passed balancing).readdress "10.0.0.9") = (some visit, _) ∧
      visit.object.metadata.isDeleting = false ∧ Steady visit :=
    Stand.exists_visit (by decide +kernel)
  obtain ⟨deletion, hdeletion, hdeleting, hleft, hfinalizer, hreleased⟩ : ∃ visit,
      balancing.visit .machine {} "default" "node"
        (((Stand.empty.passed balancing).readdress "10.0.0.9").passed balancing).delete =
          (some visit, _) ∧
      visit.object.metadata.isDeleting = true ∧ Steady visit ∧
      Managed.machine.hasFinalizer visit.object = true ∧
      Managed.machine.hasFinalizer visit.left.object = false :=
    Stand.exists_visit (by decide +kernel)
  have hreaddressed : balancing.Passes .machine "default" "node" (fun stand => stand.cloud.pools)
      Pools.Drifts Stand.empty _ ((Stand.empty.passed balancing).readdress "10.0.0.9") :=
    ((Passes.start _).visited {} hjoining).meanwhile .refl
  have hpasses : balancing.Passes .machine "default" "node" (fun stand => stand.cloud.pools)
      Pools.Drifts Stand.empty _
        (((Stand.empty.passed balancing).readdress "10.0.0.9").passed balancing).delete :=
    (hreaddressed.visited {} hmoving).meanwhile .refl
  exact ⟨_, _, deletion, _, Stand.balancing_surrounds _, hpasses,
    by simpa [Visit.Normal] using ⟨hjoined, hmoved⟩, hdeletion, hdeleting, hleft, hfinalizer,
    hreleased, rfl, by decide +kernel, by decide +kernel⟩

end World

end Reconciler
