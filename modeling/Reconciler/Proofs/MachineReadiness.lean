import Reconciler.Proofs.ActiveMembers
import Reconciler.Proofs.Conditions
import Reconciler.Proofs.History
import Reconciler.Proofs.Members

/-!
# Readiness of machines

A normal pass that has its instance records it and then comes to a verdict about the machine: it is
ready, or it is not.  A pass that ends before, because a call failed or was cut off, leaves what was
said of the machine's readiness as it was.  Either way the status stays coherent: it says the same
in the flag and in the condition, and what it says is backed by the rest of the record.
-/

namespace Reconciler

namespace MachineStatus

/-- The record that a ready machine has behind it. -/
structure Backed (status : MachineStatus) : Prop where
  running : status.instanceStatus = some .running
  instanceId : status.instanceId.isSome = true
  providerId : (status.providerId.filter (!·.isEmpty)).isSome = true
  failureReason : status.failureReason = none
  failureMessage : status.failureMessage = none

/-- The machine is ready exactly if its condition says so, and only with the record for it. -/
structure Coherent (status : MachineStatus) : Prop where
  condition : status.ready = true ↔ status.conditions.holds Machine.instanceReady = true
  backed : status.ready = true → status.Backed

/-- The flag or the condition says that the machine is ready. -/
def ShowsReady (status : MachineStatus) : Prop :=
  status.ready = true ∨ status.conditions.holds Machine.instanceReady = true

instance (status : MachineStatus) : Decidable status.ShowsReady :=
  inferInstanceAs (Decidable (_ ∨ _))

variable {status : MachineStatus}

theorem Coherent.of_not_showsReady (hunready : ¬status.ShowsReady) : status.Coherent := by
  obtain ⟨hready, hcondition⟩ := not_or.mp hunready
  exact ⟨iff_of_false hready hcondition, fun hthis => absurd hthis hready⟩

/-- The status of a machine that has none yet. -/
theorem coherent_default : (default : MachineStatus).Coherent := .of_not_showsReady (by decide)

theorem regionless_coherent_iff : (Machine.regionless status).Coherent ↔ status.Coherent :=
  ⟨fun hcoherent => ⟨hcoherent.condition, fun hready =>
      let hbacked := hcoherent.backed hready
      ⟨hbacked.running, hbacked.instanceId, hbacked.providerId, hbacked.failureReason,
        hbacked.failureMessage⟩⟩,
    fun hcoherent => ⟨hcoherent.condition, fun hready =>
      let hbacked := hcoherent.backed hready
      ⟨hbacked.running, hbacked.instanceId, hbacked.providerId, hbacked.failureReason,
        hbacked.failureMessage⟩⟩⟩

end MachineStatus

namespace Machine

open MachineStatus (Backed Coherent ShowsReady)

variable {cluster : Option VpcCluster} {found : Instance} {status : MachineStatus}

theorem not_showsReady_notReady (reason : String) (severity : ConditionSeverity) (message : String)
    (now : Time.Instant) (status : MachineStatus) :
    ¬(notReady reason severity message now status).ShowsReady := by
  simp [ShowsReady, notReady, withConditions]

theorem not_showsReady_unknownState (message : String) (now : Time.Instant)
    (status : MachineStatus) : ¬(unknownState message now status).ShowsReady := by
  simp [ShowsReady, unknownState, withConditions]

theorem not_showsReady_errored (message : String) (now : Time.Instant) (status : MachineStatus) :
    ¬(errored message now status).ShowsReady := by
  simp [ShowsReady, errored, withConditions]

/-- What recording an instance leaves alone. -/
theorem noted_eq (cluster : Option VpcCluster) (found : Instance) (status : MachineStatus) :
    noted cluster found status =
      { status with
        providerId := (noted cluster found status).providerId
        instanceId := some found.id
        instanceStatus := some found.status
        addresses := (noted cluster found status).addresses } := by
  unfold noted identified observed
  split <;> rfl

theorem isSome_providerId_noted (cluster : Option VpcCluster) (found : Instance)
    (status : MachineStatus) :
    ((noted cluster found status).providerId.filter (!·.isEmpty)).isSome = true := by
  unfold noted identified observed
  split
  · next hknown => exact hknown
  · simp [providerId]

theorem showsReady_noted_iff :
    (noted cluster found status).ShowsReady ↔ status.ShowsReady := by
  rw [noted_eq]
  rfl

/-- To record a running instance keeps a coherent status so. -/
theorem coherent_noted (hcoherent : status.Coherent) (hrunning : found.status = .running) :
    (noted cluster found status).Coherent := by
  have hidentified := isSome_providerId_noted cluster found status
  rw [noted_eq, hrunning] at *
  refine ⟨hcoherent.condition, fun hready => ?_⟩
  have hbacked := hcoherent.backed hready
  exact ⟨rfl, rfl, hidentified, hbacked.failureReason, hbacked.failureMessage⟩

/-- A machine whose running instance is on record may be called ready. -/
theorem coherent_nowReady (hrunning : found.status = .running) (now : Time.Instant) :
    (nowReady now (noted cluster found status)).Coherent := by
  have hidentified := isSome_providerId_noted cluster found status
  rw [noted_eq, hrunning] at *
  exact ⟨by simp [nowReady, withConditions], fun _ => ⟨rfl, rfl, hidentified, rfl, rfl⟩⟩

/-- How a normal pass over a machine ends that has found its instance. -/
inductive Verdict (cluster : Option VpcCluster) (found : Instance) (machine : Machine) :
    Machine → Outcome (Except Error Requeue) → List OfMachine → Prop
  /-- The pass ended before the instance was recorded. -/
  | unrecorded (outcome : Outcome (Except Error Requeue)) (seen : List OfMachine)
      (hfailed : ¬outcome.Succeeded)
      (hquiet : ∀ exchange ∈ seen, topic exchange.question ≠ .event) :
      Verdict cluster found machine machine outcome seen
  /-- The pass ended while the machine was registered. -/
  | undecided (outcome : Outcome (Except Error Requeue)) (seen : List OfMachine)
      (hrunning : found.status = .running) (hfailed : outcome.Succeeded → cluster = none)
      (hquiet : ∀ exchange ∈ seen, topic exchange.question ≠ .event) :
      Verdict cluster found machine (machine.mapStatus (noted cluster found)) outcome seen
  | ready (now : Time.Instant) (outcome : Outcome (Except Error Requeue)) (seen : List OfMachine)
      (hrunning : found.status = .running) (hactive : FoundActive cluster machine found seen) :
      Verdict cluster found machine
        (machine.mapStatus fun status => nowReady now (noted cluster found status)) outcome seen
  | refused (judge : MachineStatus → MachineStatus) (outcome : Outcome (Except Error Requeue))
      (seen : List OfMachine) (hunready : ∀ status, ¬(judge status).ShowsReady)
      (hdone : outcome.Succeeded ∨ ∃ exchange ∈ seen, topic exchange.question = .event) :
      Verdict cluster found machine (machine.mapStatus judge) outcome seen

variable {machine after : Machine} {outcome : Outcome (Except Error Requeue)}
variable {early late seen : List OfMachine}

theorem FoundActive.mono (hactive : FoundActive cluster machine found seen)
    {more : List OfMachine} (hmore : seen ⊆ more) : FoundActive cluster machine found more where
  declared hsome := by
    obtain ⟨address, haddress, hfound⟩ := hactive.declared hsome
    exact ⟨address, haddress, fun membership hmem => (hfound membership hmem).mono hmore⟩
  controlPlane hnone hcontrolPlane := by
    obtain ⟨known, hknown, address, haddress, hfound⟩ := hactive.controlPlane hnone hcontrolPlane
    exact ⟨known, hknown, address, haddress, hfound.mono hmore⟩

theorem Alike.foundActive {left right : Machine} (halike : Alike left right)
    (hactive : FoundActive cluster right found seen) : FoundActive cluster left found seen where
  declared hsome := by
    rw [← halike.spec] at hsome ⊢
    exact hactive.declared hsome
  controlPlane hnone hcontrolPlane := by
    rw [← halike.spec] at hnone
    rw [← halike.controlPlane] at hcontrolPlane
    exact hactive.controlPlane hnone hcontrolPlane

/-- What was asked before without an event changes nothing about the verdict. -/
theorem Verdict.append (hverdict : Verdict cluster found machine after outcome late)
    (hearly : ∀ exchange ∈ early, topic exchange.question ≠ .event) :
    Verdict cluster found machine after outcome (early ++ late) := by
  have hquiet (hlate : ∀ exchange ∈ late, topic exchange.question ≠ .event) :
      ∀ exchange ∈ early ++ late, topic exchange.question ≠ .event := fun exchange hmem =>
    (List.mem_append.mp hmem).elim (hearly exchange) (hlate exchange)
  cases hverdict with
  | unrecorded _ _ hfailed hlate => exact .unrecorded _ _ hfailed (hquiet hlate)
  | undecided _ _ hrunning hfailed hlate => exact .undecided _ _ hrunning hfailed (hquiet hlate)
  | ready now _ _ hrunning hactive =>
      exact .ready now _ _ hrunning (hactive.mono (List.subset_append_right ..))
  | refused judge _ _ hunready hdone =>
      refine .refused judge _ _ hunready (hdone.imp id ?_)
      rintro ⟨exchange, hmem, hevent⟩
      exact ⟨exchange, List.mem_append_right _ hmem, hevent⟩

theorem reconcileRunning_verdict (surroundings : Surroundings) (machine : Machine)
    (hrunning : found.status = .running) :
    (reconcileRunning surroundings found
        (machine.mapStatus (noted surroundings.cluster found))).Ensures (.recording _)
      (Verdict surroundings.cluster found machine) [] := by
  have hkeeps : Step.Keeps id (registerRunning surroundings found) :=
    keeps_registerRunning surroundings found
  unfold reconcileRunning
  rw [Action.ensures_bind]
  apply ((((hkeeps _).anywhere []).and
      (quiet_of_asks (asks_registerRunning surroundings found) (by decide : Topic.event ∉ _) _
        [])).and (registerRunning_active surroundings found _)).mono
  rintro _ ((error | _ | _ | _) | _ | text) _ ⟨⟨rfl, _, rfl, hquiet⟩, hactive, hnone⟩
  · exact .undecided _ _ hrunning (by simp) hquiet
  · exact .undecided _ _ hrunning (fun _ => hnone rfl) hquiet
  · have hunchanged : Alike machine (machine.mapStatus (noted surroundings.cluster found)) :=
      ⟨rfl, rfl, rfl, rfl⟩
    exact .ready surroundings.now _ _ hrunning (hunchanged.foundActive (hactive rfl))
  · exact .refused (fun status => notReady _ _ _ _ (noted surroundings.cluster found status)) _ _
      (fun _ => not_showsReady_notReady _ _ _ _ _) (.inl trivial)
  · exact .undecided _ _ hrunning (by simp) hquiet
  · exact .undecided _ _ hrunning (by simp) hquiet

theorem reconcileInstance_verdict (surroundings : Surroundings) (found : Instance)
    (machine : Machine) :
    (reconcileInstance surroundings found
        (machine.mapStatus (noted surroundings.cluster found))).Ensures (.recording _)
      (Verdict surroundings.cluster found machine) [] := by
  have hrefused (judge : MachineStatus → MachineStatus)
      (hunready : ∀ status, ¬(judge status).ShowsReady) (requeue : Requeue) :
      Program.Ensures (.recording _) ((do update judge; return requeue : Pass Requeue)
        (machine.mapStatus (noted surroundings.cluster found)))
        (Verdict surroundings.cluster found machine) [] :=
    .refused (fun status => judge (noted surroundings.cluster found status)) _ _
      (fun _ => hunready _) (.inl trivial)
  unfold reconcileInstance
  dsimp only
  rcases hstatus : found.status with _ | _ | _ | _ | word
  · exact hrefused _ (not_showsReady_notReady _ _ _ _) _
  · exact reconcileRunning_verdict surroundings machine hstatus
  · exact hrefused _ (not_showsReady_notReady _ _ _ _) _
  · simp only [Action.ensures_bind, update, Action.ensures_modify, Outcome.follow_ok]
    rintro ending _ rfl
    have hended (outcome : Outcome (Except Error Requeue)) :
        Verdict surroundings.cluster found machine
          ((machine.mapStatus (noted surroundings.cluster found)).mapStatus
            (errored (failureText found) surroundings.now)) outcome ([] ++
              [⟨.publish (.failedBuildInstance (failureText found)) _, ending⟩]) :=
      .refused (fun status => errored _ _ (noted surroundings.cluster found status)) _ _
        (fun _ => not_showsReady_errored _ _ _) (.inr ⟨_, List.mem_singleton_self _, rfl⟩)
    rcases ending with result | _ | text <;> exact hended _
  · exact hrefused _ (not_showsReady_unknownState _ _) _

/-- A pass that has found its instance comes to a verdict, unless it ends before. -/
theorem found_verdict (surroundings : Surroundings) (found : Instance) (machine : Machine) :
    Program.Ensures (.recording _) ((do
        recordInstance surroundings found
        reconcileInstance surroundings found : Pass Requeue) machine)
      (Verdict surroundings.cluster found machine) [] := by
  rw [Action.ensures_bind]
  apply ((recordInstance_ensures surroundings found machine []).and
    (quiet_of_asks (asks_recordInstance surroundings found) (by decide : Topic.event ∉ _)
      machine [])).mono
  rintro _ outcome early ⟨⟨rfl, hfailed⟩ | ⟨rfl, rfl⟩, _, rfl, hquiet⟩
  · rcases outcome with (error | _) | _ | text
    · exact .unrecorded _ _ (Outcome.not_succeeded_error _) hquiet
    · exact absurd trivial hfailed
    · exact .unrecorded _ _ Outcome.not_succeeded_expired hquiet
    · exact .unrecorded _ _ (Outcome.not_succeeded_panicked _) hquiet
  · rw [Outcome.follow_ok]
    apply ((reconcileInstance_verdict surroundings found machine).recording early).mono
    rintro after outcome _ ⟨late, rfl, hverdict⟩
    exact hverdict.append hquiet

/-- Whatever the verdict, and where there is none, a coherent status stays so. -/
theorem Verdict.coherent (hverdict : Verdict cluster found machine after outcome seen)
    (hcoherent : machine.standing.Coherent) : after.standing.Coherent := by
  cases hverdict with
  | unrecorded => exact hcoherent
  | undecided _ _ hrunning => exact coherent_noted hcoherent hrunning
  | ready now _ _ hrunning => exact coherent_nowReady hrunning now
  | refused judge _ _ hunready => exact .of_not_showsReady (hunready _)

theorem owned_coherent (surroundings : Surroundings) {machine : Machine}
    (hcoherent : machine.standing.Coherent) :
    (owned surroundings machine).Ensures (.recording _)
      (fun after _ _ => after.standing.Coherent) [] := by
  have hkeeps : Step.Keeps id (getOrCreate surroundings) := keeps_getOrCreate surroundings
  unfold owned
  simp only [Action.ensures_bind, Action.ensures_get, Outcome.follow_ok]
  split
  · exact hcoherent
  · rw [Action.ensures_bind]
    apply ((hkeeps machine).anywhere []).mono
    rintro _ ((error | _ | found) | _ | text) seen rfl
    · exact hcoherent
    · exact .of_not_showsReady (not_showsReady_unknownState _ _ _)
    · apply ((found_verdict surroundings found _).recording seen).mono
      rintro after outcome _ ⟨late, rfl, hverdict⟩
      exact hverdict.coherent hcoherent
    · exact hcoherent
    · exact hcoherent

/-- Wherever a normal pass ends, it leaves a coherent status if it was given one. -/
theorem reconcileNormal_coherent (surroundings : Surroundings) {fetched : Machine}
    (hcoherent : fetched.standing.Coherent) :
    (reconcileNormal surroundings fetched).Ensures (.recording _)
      (fun after _ _ => after.standing.Coherent) [] := by
  have hcontinued {machine : Machine} (hthis : Continued fetched machine) :
      machine.standing.Coherent := by
    rw [← MachineStatus.regionless_coherent_iff, hthis.status]
    exact MachineStatus.regionless_coherent_iff.mpr hcoherent
  exact reconcileNormal_ensures_of_continued (fun _ _ hthis => hcontinued hthis)
    fun _ hthis => owned_coherent surroundings (hcontinued hthis)

end Machine

namespace World

variable {W : Type} {«namespace» name : String} {world : World W}

theorem Stages.coherent {settings : Settings} {w after : W} {visit : Visit .machine}
    (stages : world.Stages settings «namespace» name w visit after)
    (hcoherent : (Object.standing visit.object).Coherent) :
    (Object.standing visit.left.object).Coherent := by
  rcases hdeleting : visit.object.metadata.isDeleting with _ | _
  · have hbody (now : Time.Instant) : (Managed.machine.body ⟨visit.opened.cluster, settings, now⟩
        visit.object visit.object).Ensures (.recording _)
          (fun after _ _ => (Object.standing after).Coherent) [] := by
      rw [Managed.body_of_normal _ hdeleting]
      exact Machine.reconcileNormal_coherent _ hcoherent
    exact stages.of_recording hbody
  · rwa [Object.standing, stages.status_of_deleting hdeleting]

/-- Over any run of passes over a machine that starts without a status, every status that is stored
is coherent: ready exactly if its condition is true, and if so, with a running instance, an instance
id and a provider id on record and no failure. -/
theorem machine_readiness_coherent {view : W → Timeline .machine «namespace» name}
    {others : Conduct .machine} {first last : W} {stages : List (Stage .machine W)}
    (hserves : world.Serves view others) (hspares : others.SparesStatus)
    (hrun : world.Run view others first stages last)
    (hfirst : ∀ machine, (view first).current = some machine → machine.status = none) :
    ∀ machine ∈ (view first).stored (view last), ∀ status, machine.status = some status →
      MachineStatus.Coherent status := by
  have hstored := hrun.forall_status
    (fun status => (status.getD default : MachineStatus).Coherent) hserves hspares
    MachineStatus.coherent_default
    (fun machine hcurrent => by rw [hfirst machine hcurrent]; exact MachineStatus.coherent_default)
    (fun stage hmem hfetched _ => by
      obtain ⟨settings, hvisit⟩ := hrun.visit_of_mem hmem
      obtain ⟨taken⟩ := stages_of_visit hvisit
      exact taken.coherent hfetched)
  intro machine hmem status hstatus
  have hcoherent := hstored machine hmem
  rwa [hstatus] at hcoherent

/-- A machine that is registered with an active load balancer is ready after its first pass. -/
theorem machine_readiness_coherent_registered : ∃ stages last machine status,
    Stand.balancing.Run Stand.timeline (Conduct.nobody .machine) Stand.empty stages last ∧
    machine ∈ Stand.empty.timeline.stored last.timeline ∧ machine.status = some status ∧
    MachineStatus.ready status = true ∧ MachineStatus.Coherent status := by
  obtain ⟨visit, hvisit, -⟩ : ∃ visit,
      Stand.balancing.visit .machine {} "default" "node" Stand.empty = (some visit, _) ∧ True :=
    Stand.exists_visit (by decide +kernel)
  obtain ⟨machine, hcurrent, hready⟩ : ∃ machine,
      (Stand.empty.passed Stand.balancing).timeline.current = some machine ∧
      machine.status.any (fun status => status.ready) = true :=
    Stand.exists_current (by decide +kernel)
  obtain ⟨status, hstatus, hready⟩ := (Option.any_eq_true ..).mp hready
  have hserves : Stand.balancing.Serves Stand.timeline (Conduct.nobody .machine) :=
    Stand.serves _ _
  have hrun : Stand.balancing.Run Stand.timeline (Conduct.nobody .machine) Stand.empty
      ([] ++ [⟨_, visit, _⟩]) (Stand.empty.passed Stand.balancing) :=
    .visited {} (.start _) hvisit
  have hmem := hrun.mem_stored_of_current hserves hcurrent
  refine ⟨_, _, machine, status, hrun, hmem, hstatus, hready, ?_⟩
  refine machine_readiness_coherent hserves (Conduct.nobody_keeps _).sparesStatus hrun ?_ machine
    hmem status hstatus
  rintro _ ⟨⟩
  rfl

end World

end Reconciler
