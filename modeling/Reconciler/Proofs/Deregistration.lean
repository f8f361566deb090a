import Reconciler.Proofs.Deletion
import Reconciler.Proofs.Pools

/-!
# Deregistration

A delete pass that lets its machine go has taken the members with the recorded address out of the
machine's pools, and no others of those that the engine has made.
-/

namespace Reconciler

namespace Pools

variable {directory : Directory} {before middle after : Pools}

/-- Of the members that the engine has made, those of some kind are gone, and no others. -/
structure Clears (gone : Seat → Prop) (before after : Pools) : Prop where
  made : after.made = before.made
  seats : ∀ seat ∈ before.made, seat ∈ after.seats ↔ seat ∈ before.seats ∧ ¬gone seat

variable {gone other : Seat → Prop}

theorem Drifts.clears (hdrifts : Drifts before after) : Clears (fun _ => False) before after where
  made := hdrifts.made
  seats seat hmade := by simpa using hdrifts.seats seat hmade

theorem Clears.trans (hfirst : Clears gone before middle) (hlast : Clears other middle after) :
    Clears (fun seat => gone seat ∨ other seat) before after where
  made := hlast.made.trans hfirst.made
  seats seat hmade := by
    rw [hlast.seats seat (hfirst.made ▸ hmade), hfirst.seats seat hmade, not_or, and_assoc]

theorem Clears.congr (hclears : Clears gone before after)
    (hiff : ∀ seat ∈ before.made, seat ∈ before.seats → (gone seat ↔ other seat)) :
    Clears other before after where
  made := hclears.made
  seats seat hmade := (hclears.seats seat hmade).trans
    (and_congr_right fun hthere => not_congr (hiff seat hmade hthere))

/-- A member whose removal went well is gone. -/
theorem clears_of_provided {loadBalancer pool member : String}
    {ending : Outcome (Except CloudError Unit)}
    (hprovided : provided directory (.cloud (.deleteMember loadBalancer pool member)) ending before
      after)
    (hwell : Managed.machine.WentWell (.deleteMember loadBalancer pool member) ending) :
    Clears (fun seat => seat.place = (loadBalancer, pool) ∧ seat.id = member) before after := by
  obtain ⟨asked, answered, hbefore, ⟨hmade, hseats⟩, hafter⟩ := hprovided
  have hanswered : Clears (fun seat => seat.place = (loadBalancer, pool) ∧ seat.id = member) asked
      answered := by
    refine ⟨hmade, fun seat _ => ?_⟩
    rcases hseats with hseats | ⟨hnot, _⟩
    · rw [hseats, List.mem_filter, decide_eq_true_eq]
    · exact absurd hwell hnot
  exact ((hbefore.clears.trans hanswered).trans hafter.clears).congr fun _ _ _ => by simp

variable {σ α : Type}

/-- Once the step has come to its end, the members of some kind are gone. -/
def Clearing (directory : Directory) (gone : Seat → Prop) (step : Step .machine σ α) : Prop :=
  ∀ state start, (step state).Ensures (provided directory)
    (fun _ outcome after => outcome.Succeeded → Clears gone start after) start

theorem Clearing.congr {step : Step .machine σ α} (hstep : Clearing directory gone step)
    (hiff : ∀ seat, gone seat ↔ other seat) : Clearing directory other step := by
  rwa [show other = gone from funext fun seat => propext (hiff seat).symm]

theorem Clearing.pure (value : α) (hnone : ∀ seat, ¬gone seat) :
    Clearing directory gone (pure value : Step .machine σ α) :=
  fun _ start _ => (Drifts.refl start).clears.congr fun seat _ _ => by simp [hnone]

end Pools

namespace Membership

open Pools (Clearing Clears provided)

variable {σ : Type} {directory : Directory}

theorem removeAll_clearing (loadBalancer : LoadBalancer) (pool : Pool) (members : List PoolMember) :
    Clearing directory (fun seat => seat.place = (loadBalancer.id, pool.id) ∧
      ∃ member ∈ members, member.id = seat.id)
      (removeAll loadBalancer pool members : Calls σ Unit) := by
  induction members with
  | nil => exact Clearing.pure () (by simp)
  | cons member rest ih =>
      intro state start
      unfold removeAll
      rw [Action.ensures_bind, Body.ensures_attempt]
      intro ending after hprovided
      have hrest (hwell : Managed.machine.WentWell
          (.deleteMember loadBalancer.id pool.id member.id) ending) :
          (removeAll loadBalancer pool rest state).Ensures (provided directory)
            (fun _ outcome last => outcome.Succeeded → Clears (fun seat =>
              seat.place = (loadBalancer.id, pool.id) ∧
                ∃ other ∈ member :: rest, other.id = seat.id) start last) after := by
        apply (ih state after).mono
        intro _ _ last hlast hended
        have hfirst := Pools.clears_of_provided hprovided hwell
        refine (hfirst.trans (hlast hended)).congr fun seat _ _ => ?_
        rw [← and_or_left, List.exists_mem_cons_iff, @eq_comm _ seat.id]
      rcases ending with (error | _) | _ | text
      · rw [Outcome.resume_returned, Outcome.follow_ok]
        dsimp only
        split
        · next hgone => exact hrest (.inr ⟨trivial, error, rfl, hgone⟩)
        · exact False.elim
      · exact hrest (.inl trivial)
      · exact False.elim
      · exact False.elim

theorem removeMember_clearing (loadBalancer : LoadBalancer) (pool : Pool) (address : String) :
    Clearing directory (fun seat => seat.place = (loadBalancer.id, pool.id) ∧
      seat.address = some address) (removeMember loadBalancer pool address : Calls σ Unit) := by
  intro state start
  unfold removeMember
  rw [Action.ensures_bind, Body.ensures_call]
  intro ending listed hprovided
  have hdrifts := Pools.drifts_of_provided hprovided (by simp) (by simp)
  rcases ending with (error | members) | _ | text
  · exact False.elim
  · rw [Outcome.mapError_ok, Outcome.follow_ok]
    apply (removeAll_clearing loadBalancer pool _ state listed).mono
    intro _ _ after hclears hended
    refine (hdrifts.clears.trans (hclears hended)).congr fun seat hmade hthere => ?_
    rw [false_or]
    exact and_congr_right fun hplace =>
      Pools.listed_of_provided hprovided hmade hthere hplace address
  · exact False.elim
  · exact False.elim

theorem deregister_clearing (address : String) (memberships : List PoolMembership) :
    Clearing directory (fun seat => seat.place ∈ memberships.filterMap directory.place ∧
      seat.address = some address) (deregister address memberships : Calls σ Unit) := by
  induction memberships with
  | nil => exact Clearing.pure () (by simp)
  | cons membership rest ih =>
      intro state start
      apply deregister_cons_ensures Pools.leads_provided
        (Pools.drifts_of_asks (asks_findLoadBalancer _) (by decide) (by decide) state start)
      case hfails => exact fun _ _ _ _ hended hthis => absurd hthis hended
      case hskips =>
        intro hplace state ready hdrifts
        rw [List.filterMap_cons_none hplace]
        apply (ih state ready).mono
        intro _ _ _ hclears hended
        exact (hdrifts.clears.trans (hclears hended)).congr fun _ _ _ => by simp
      case hremoves =>
        intro loadBalancer pool hplace state ready hdrifts
        rw [List.filterMap_cons_some hplace]
        apply (removeMember_clearing loadBalancer pool address state ready).mono
        rintro state ((error | _) | _ | text) middle hremoved
        · exact False.elim
        · apply (ih state middle).mono
          intro _ _ _ hclears hended
          have hboth := (hremoved trivial).trans (hclears hended)
          refine (hdrifts.clears.trans hboth).congr fun seat _ _ => ?_
          simp only [List.mem_cons, or_and_right, false_or]
        · exact False.elim
        · exact False.elim

theorem deregisterControlPlane_clearing (cluster : VpcCluster) (address : String) :
    Clearing directory (fun seat => directory.controlPlane cluster = some seat.place ∧
      seat.address = some address) (deregisterControlPlane cluster address : Calls σ Unit) := by
  intro state start
  apply deregisterControlPlane_ensures Pools.leads_provided
    (Pools.drifts_of_asks (asks_controlPlanePool cluster) (by decide) (by decide) state start)
  case hfails => exact fun _ _ _ _ hended hthis => absurd hthis hended
  case hskips => exact fun hplace _ _ hdrifts _ => hdrifts.clears.congr (by simp [hplace])
  case hremoves =>
    intro loadBalancer pool hplace state ready hdrifts
    apply (removeMember_clearing loadBalancer pool address state ready).mono
    intro _ _ _ hclears hended
    refine (hdrifts.clears.trans (hclears hended)).congr fun seat _ _ => ?_
    rw [false_or, hplace, Option.some_inj, eq_comm]

end Membership

namespace Machine

open Pools (Clearing Clears drifts_of_asks provided)

variable {directory : Directory}

/-- The member is in one of the pools of the machine, with the recorded address. -/
def Seats (directory : Directory) (cluster : Option VpcCluster) (machine : Machine) (seat : Seat) :
    Prop :=
  seat.place ∈ directory.places cluster machine ∧ seat.address.isSome ∧
    seat.address = machine.internalAddress

/-- A delete pass takes the members with the recorded address out of the pools of the machine. -/
theorem deregister_clearing (surroundings : Surroundings) (machine : Machine) :
    Clearing directory (machine.Seats directory surroundings.cluster)
      (deregister surroundings machine) := by
  unfold deregister Seats Directory.places
  rcases machine.internalAddress with _ | address
  · refine Clearing.pure () ?_
    rintro seat ⟨-, hsome, hnone⟩
    simp [hnone] at hsome
  · dsimp only
    split
    · apply (Membership.deregister_clearing address _).congr
      intro seat
      simp +contextual [and_congr_right_iff]
    · split
      · rcases surroundings.cluster with _ | cluster
        · exact Clearing.pure () (by simp)
        · apply (Membership.deregisterControlPlane_clearing cluster address).congr
          intro seat
          simp +contextual
      · exact Clearing.pure () (by simp)

/-- A delete pass that lets its machine go has taken the members with the recorded address out of
the pools, and no others. -/
theorem reconcileDelete_clears (surroundings : Surroundings) (machine : Machine)
    (hfinalizer : Managed.machine.hasFinalizer machine = true) (start : Pools) :
    (reconcileDelete surroundings machine).Ensures (provided directory) (fun last _ ready =>
      Managed.machine.hasFinalizer last = false →
        Clears (machine.Seats directory surroundings.cluster) start ready) start := by
  apply reconcileDelete_ensures_of_dispose hfinalizer
  apply (deregister_clearing surroundings machine machine start).mono
  rintro _ _ after hclears rfl
  apply (drifts_of_asks (asks_dispose machine) (by decide) (by decide) machine after).mono
  intro _ _ ready hdrifts _
  exact ((hclears trivial).trans hdrifts.clears).congr fun _ _ _ => by simp

end Machine

end Reconciler
