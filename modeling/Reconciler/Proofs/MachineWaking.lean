import Reconciler.Proofs.Freshness
import Reconciler.Proofs.Joining
import Reconciler.Proofs.Requeues

/-!
# Machines that come up again

A normal pass over a machine waits for the next change only when it has left the machine ready, or
has seen its instance failed.  An instance in a state that nobody knows, and a membership that is
not active, have it look again after a while.
-/

namespace Reconciler

open Machine (About Topic topic)

namespace Machine

/-- What a pass comes to for the instance that it has observed, and for the members that it has
met. -/
structure Wakes (cluster : Option VpcCluster) (poll : Nat) (found : Instance)
    (machine after : Machine) (outcome : Outcome (Except Error Requeue)) (seen : List OfMachine) :
    Prop where
  rests : outcome = .returned (.ok .none) → found.status = .failed ∨
    found.status = .running ∧ after.standing.ready = true ∧ FoundActive cluster machine found seen
  unknown : (∀ exchange ∈ seen, exchange.WentWell) → ∀ word, found.status = .unknown word →
    Polled poll after.standing.ready outcome
  waits : (∀ exchange ∈ seen, exchange.WentWell) → ∀ address member,
    Membership.usableAddress found.primaryAddress = .ok address →
    Membership.Meets seen address (ports cluster machine) member → member.status ≠ .active →
    Polled poll after.standing.ready outcome ∨ ∃ error, outcome = .returned (.error error) ∧
      Membership.isMissing error = true ∧ 1 < machine.spec.loadBalancerPoolMembers.length
  guarded : Membership.Guarded seen

variable {cluster : Option VpcCluster} {poll : Nat} {found : Instance} {machine after : Machine}
variable {outcome : Outcome (Except Error Requeue)} {early late seen : List OfMachine}

/-- A pass that has not come to register the machine. -/
theorem Wakes.of_unregistered (hrests : outcome = .returned (.ok .none) → found.status = .failed)
    (hunknown : ∀ word, found.status = .unknown word → Polled poll after.standing.ready outcome)
    (hpool : ∀ exchange ∈ seen, topic exchange.question ≠ .pool)
    (hjoining : ∀ exchange ∈ seen, topic exchange.question ≠ .joining) :
    Wakes cluster poll found machine after outcome seen where
  rests hended := .inl (hrests hended)
  unknown _ := hunknown
  waits _ _ _ _ hmeets :=
    absurd hmeets (Membership.not_meets_of_quiet (Membership.listings_eq_nil hpool) hjoining)
  guarded := Membership.guarded_of_quiet hjoining

/-- A pass in which a call failed. -/
theorem Wakes.of_failed (hended : ¬outcome.Succeeded)
    (hill : ¬∀ exchange ∈ seen, exchange.WentWell) (hguarded : Membership.Guarded seen) :
    Wakes cluster poll found machine after outcome seen where
  rests hthis := absurd (by rw [hthis]; trivial) hended
  unknown hwell := absurd hwell hill
  waits hwell := absurd hwell hill
  guarded := hguarded

/-- A pass that ended as registering the machine did. -/
theorem Wakes.of_registers {registered : Outcome (Except Error (Option Bool))}
    (hrunning : found.status = .running)
    (hregisters : Registers cluster machine found registered seen)
    (hrests : outcome = .returned (.ok .none) →
      after.standing.ready = true ∧ FoundActive cluster machine found seen)
    (hwaiting : registered = .returned (.ok (some true)) → Polled poll after.standing.ready outcome)
    (hfailed : ∀ error, registered = .returned (.error error) →
      outcome = .returned (.error error)) :
    Wakes cluster poll found machine after outcome seen where
  rests hended := .inr ⟨hrunning, hrests hended⟩
  unknown _ _ hword := absurd (hrunning.symm.trans hword) (by simp)
  waits hwell address member husable hmeets hinactive :=
    (hregisters.waits hwell address member husable hmeets hinactive).imp hwaiting
      fun ⟨error, hended, hreason⟩ => ⟨error, hfailed error hended, hreason⟩
  guarded := hregisters.guarded

/-- What was asked before about other things changes nothing. -/
theorem Wakes.append (hwakes : Wakes cluster poll found machine after outcome late)
    (hpool : ∀ exchange ∈ early, topic exchange.question ≠ .pool)
    (hjoining : ∀ exchange ∈ early, topic exchange.question ≠ .joining) :
    Wakes cluster poll found machine after outcome (early ++ late) := by
  have hlate (hwell : ∀ exchange ∈ early ++ late, exchange.WentWell) :
      ∀ exchange ∈ late, exchange.WentWell := fun exchange hmem =>
    hwell exchange (List.mem_append_right _ hmem)
  refine ⟨fun hended => ?_, fun hwell => hwakes.unknown (hlate hwell),
    fun hwell address member husable hmeets => ?_,
    (Membership.guarded_of_quiet hjoining).append hwakes.guarded⟩
  · rcases hwakes.rests hended with hfailed | ⟨hrunning, hready, hactive⟩
    · exact .inl hfailed
    · exact .inr ⟨hrunning, hready, hactive.mono (List.subset_append_right ..)⟩
  · rw [Membership.meets_append_iff_of_quiet hpool hjoining] at hmeets
    exact hwakes.waits (hlate hwell) address member husable hmeets

theorem Alike.ports {left right : Machine} (halike : Alike left right) :
    ports cluster right = ports cluster left := by
  simp only [Machine.ports, halike.spec, halike.controlPlane]

theorem Alike.wakes {left right : Machine} (halike : Alike left right)
    (hwakes : Wakes cluster poll found right after outcome seen) :
    Wakes cluster poll found left after outcome seen where
  rests hended := (hwakes.rests hended).imp id fun ⟨hrunning, hready, hactive⟩ =>
    ⟨hrunning, hready, halike.foundActive hactive⟩
  unknown := hwakes.unknown
  waits := by
    rw [← halike.ports, ← halike.spec]
    exact hwakes.waits
  guarded := hwakes.guarded

theorem reconcileRunning_wakes (surroundings : Surroundings) (machine : Machine)
    (hrunning : found.status = .running) :
    (reconcileRunning surroundings found machine).Ensures (.recording _)
      (Wakes surroundings.cluster surroundings.settings.instancePoll found machine) [] := by
  have hkeeps : Step.Keeps id (registerRunning surroundings found) :=
    keeps_registerRunning surroundings found
  unfold reconcileRunning
  rw [Action.ensures_bind]
  apply (((hkeeps machine).anywhere []).and
    ((registerRunning_registers surroundings found machine).and
      (registerRunning_active surroundings found machine))).mono
  rintro _ ((error | _ | _ | _) | _ | text) seen ⟨rfl, hregisters, hactive, -⟩
  · exact .of_registers hrunning hregisters (by simp) (by simp) (by rintro _ ⟨⟩; rfl)
  · exact .of_registers hrunning hregisters (by simp) (by simp) (by simp)
  · exact .of_registers hrunning hregisters (fun _ => ⟨rfl, hactive rfl⟩) (by simp) (by simp)
  · exact .of_registers hrunning hregisters (by simp) (fun _ => ⟨rfl, rfl⟩) (by simp)
  · exact .of_registers hrunning hregisters (by simp) (by simp) (by simp)
  · exact .of_registers hrunning hregisters (by simp) (by simp) (by simp)

theorem reconcileInstance_wakes (surroundings : Surroundings) (found : Instance)
    (machine : Machine) :
    (reconcileInstance surroundings found machine).Ensures (.recording _)
      (Wakes surroundings.cluster surroundings.settings.instancePoll found machine) [] := by
  unfold reconcileInstance
  dsimp only
  rcases hstatus : found.status with _ | _ | _ | _ | word
  · exact .of_unregistered (by simp) (by simp [hstatus]) (by simp) (by simp)
  · exact reconcileRunning_wakes surroundings machine hstatus
  · exact .of_unregistered (by simp) (by simp [hstatus]) (by simp) (by simp)
  · simp only [Action.ensures_bind, update, Action.ensures_modify, Outcome.follow_ok]
    rintro ending _ rfl
    have hended (after : Machine) (outcome : Outcome (Except Error Requeue)) :
        Wakes surroundings.cluster surroundings.settings.instancePoll found machine after outcome
          ([] ++ [⟨.publish (.failedBuildInstance (failureText found)) _, ending⟩]) :=
      .of_unregistered (fun _ => hstatus) (by simp [hstatus]) (by simp) (by simp)
    rcases ending with result | _ | text <;> exact hended _ _
  · exact .of_unregistered (by simp) (fun _ _ => ⟨rfl, rfl⟩) (by simp) (by simp)

/-- An instance is recorded, unless it cannot be tagged. -/
theorem recordInstance_wentWell (surroundings : Surroundings) (found : Instance)
    (machine : Machine) :
    (recordInstance surroundings found machine).Ensures (.recording _) (fun _ outcome seen =>
      (∀ exchange ∈ seen, exchange.WentWell) → outcome.Succeeded) [] := by
  unfold recordInstance
  rw [Action.ensures_bind, Action.ensures_get, Outcome.follow_ok]
  dsimp only
  split
  · rcases found.crn with _ | crn
    · exact fun _ => trivial
    · simp only [Action.ensures_bind, Body.ensures_callFor]
      rintro ending _ rfl
      have htagged (hwell : ∀ exchange ∈ [] ++ [(⟨.cloud (.tagResource
          ((surroundings.cluster.map (·.metadata.nameAny)).getD "") crn), ending⟩ : OfMachine)],
          exchange.WentWell) : ending.Succeeded :=
        (Managed.wentWell_iff id _).mp (hwell _ (List.mem_singleton_self _))
      rcases ending with (error | _) | _ | text
      · exact htagged
      · exact fun _ => trivial
      · exact htagged
      · exact htagged
  · exact fun _ => trivial

theorem found_wakes (surroundings : Surroundings) (found : Instance) (machine : Machine) :
    Program.Ensures (.recording _) ((do
        recordInstance surroundings found
        reconcileInstance surroundings found : Pass Requeue) machine)
      (Wakes surroundings.cluster surroundings.settings.instancePoll found machine) [] := by
  rw [Action.ensures_bind]
  apply ((recordInstance_ensures surroundings found machine []).and
    (((asks_recordInstance surroundings found machine).recording []).and
      (recordInstance_wentWell surroundings found machine))).mono
  rintro _ outcome early ⟨hrecorded, ⟨_, rfl, habout⟩, hwentWell⟩
  have hpool := quiet_of_about (by decide : Topic.pool ∉ _) habout
  have hjoining := quiet_of_about (by decide : Topic.joining ∉ _) habout
  rcases hrecorded with ⟨rfl, hfailed⟩ | ⟨rfl, rfl⟩
  · have hill (hwell : ∀ exchange ∈ early, exchange.WentWell) : False := hfailed (hwentWell hwell)
    have hguarded : Membership.Guarded early := Membership.guarded_of_quiet hjoining
    rcases outcome with (error | _) | _ | text
    · exact .of_failed (Outcome.not_succeeded_error _) hill hguarded
    · exact absurd trivial hfailed
    · exact .of_failed Outcome.not_succeeded_expired hill hguarded
    · exact .of_failed (Outcome.not_succeeded_panicked _) hill hguarded
  · rw [Outcome.follow_ok]
    have hunchanged : Alike machine (machine.mapStatus (noted surroundings.cluster found)) :=
      ⟨rfl, rfl, rfl, rfl⟩
    apply ((reconcileInstance_wakes surroundings found _).recording _).mono
    rintro after outcome _ ⟨late, rfl, hwakes⟩
    exact (hunchanged.wakes hwakes).append hpool hjoining

/-- A normal pass over a machine does not lose sight of it. -/
structure Heeds (cluster : Option VpcCluster) (poll : Nat) (machine after : Machine)
    (outcome : Outcome (Except Error Requeue)) (seen : List OfMachine) : Prop where
  wakes : ∀ found, Observed found seen → Wakes cluster poll found machine after outcome seen
  rests : outcome = .returned (.ok .none) → ∃ found, Observed found seen
  guarded : Membership.Guarded seen

/-- A pass that has not observed an instance. -/
theorem Heeds.of_unobserved (hunobserved : ∀ found, ¬Observed found seen)
    (hended : outcome ≠ .returned (.ok .none)) (hguarded : Membership.Guarded seen) :
    Heeds cluster poll machine after outcome seen where
  wakes found hobserved := absurd hobserved (hunobserved found)
  rests hthis := absurd hthis hended
  guarded := hguarded

theorem Alike.heeds {left right : Machine} (halike : Alike left right)
    (hheeds : Heeds cluster poll right after outcome seen) :
    Heeds cluster poll left after outcome seen where
  wakes found hobserved := halike.wakes (hheeds.wakes found hobserved)
  rests := hheeds.rests
  guarded := hheeds.guarded

theorem owned_heeds (surroundings : Surroundings) (machine : Machine) :
    (owned surroundings machine).Ensures (.recording _)
      (Heeds surroundings.cluster surroundings.settings.instancePoll machine) [] := by
  have hkeeps : Step.Keeps id (getOrCreate surroundings) := keeps_getOrCreate surroundings
  have hasks (found : Instance) : Step.Asks (About [.tagging, .pool, .joining, .event]) (do
      recordInstance surroundings found
      reconcileInstance surroundings found : Pass Requeue) :=
    ((asks_recordInstance surroundings found).about (by decide)).bind fun _ =>
      (asks_reconcileInstance surroundings found).about (by decide)
  unfold owned
  simp only [Action.ensures_bind, Action.ensures_get, Outcome.follow_ok]
  split
  · exact .of_unobserved (fun _ => not_observed_nil) (by simp)
      (Membership.guarded_of_quiet (by simp))
  · rw [Action.ensures_bind]
    apply (((hkeeps machine).anywhere []).and
      (((asks_getOrCreate surroundings machine).recording []).and
        (getOrCreate_observes surroundings machine))).mono
    rintro _ outcome early ⟨rfl, ⟨_, rfl, habout⟩, hobserves⟩
    have hpool := quiet_of_about (by decide : Topic.pool ∉ _) habout
    have hjoining := quiet_of_about (by decide : Topic.joining ∉ _) habout
    have hguarded : Membership.Guarded early := Membership.guarded_of_quiet hjoining
    rcases outcome with (error | _ | found) | _ | text
    · exact .of_unobserved (by simp [hobserves]) (by simp) hguarded
    · exact .of_unobserved (by simp [hobserves]) (by simp) hguarded
    · apply (((found_wakes surroundings found _).and ((hasks found _).recording [])).recording
        early).mono
      rintro after outcome _ ⟨late, rfl, hwakes, _, rfl, hrest⟩
      have hlater : Wakes surroundings.cluster surroundings.settings.instancePoll found _ after
          outcome (early ++ late) := hwakes.append hpool hjoining
      have hobserved (other : Instance) :
          Observed other (early ++ late) ↔ found = other := by
        rw [observed_append_iff, or_iff_left
          (not_observed_of_about (by decide) (by decide) hrest)]
        simp [hobserves]
      refine ⟨fun other hother => ?_, fun _ => ⟨found, (hobserved found).mpr rfl⟩, hlater.guarded⟩
      obtain rfl := (hobserved other).mp hother
      exact hlater
    · exact .of_unobserved (by simp [hobserves]) (by simp) hguarded
    · exact .of_unobserved (by simp [hobserves]) (by simp) hguarded

theorem reconcileNormal_heeds (surroundings : Surroundings) (fetched : Machine) :
    (reconcileNormal surroundings fetched).Ensures (.recording _)
      (Heeds surroundings.cluster surroundings.settings.instancePoll fetched) [] := by
  apply reconcileNormal_ensures_of_marked
  · intro machine outcome _ himmediate
    refine .of_unobserved (fun _ => not_observed_nil) (fun hended => ?_)
      (Membership.guarded_of_quiet (by simp))
    exact absurd (himmediate _ hended) (by simp)
  · intro machine hcontinued
    apply (owned_heeds surroundings machine).mono
    exact fun _ _ _ hheeds => hcontinued.alike.heeds hheeds

end Machine

namespace World

variable {W : Type} {«namespace» name : String} {world : World W} {settings : Settings}
variable {w after : W} {visit : Visit .machine}

theorem Stages.heeds_machine (stages : world.Stages settings «namespace» name w visit after)
    (hnormal : visit.Normal) :
    Machine.Heeds visit.opened.cluster settings.instancePoll visit.object visit.left.object
      visit.ending visit.exchanges := by
  apply stages.of_recording
  intro now
  rw [Managed.body_of_normal _ hnormal]
  exact Machine.reconcileNormal_heeds _ _

end World

end Reconciler
