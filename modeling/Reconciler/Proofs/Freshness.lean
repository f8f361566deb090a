import Reconciler.Proofs.MachineReadiness

/-!
# Whether readiness is fresh

A normal pass that comes to a verdict about its machine goes by what it has seen itself: the machine
is ready only with a running instance and all memberships active.  A pass that ends before its
verdict says again what the status has said so far, whatever it has seen.
-/

namespace Reconciler

open Machine (About Topic topic)

namespace Exchange

/-- The call came back with the instance of the machine, found or just created. -/
def Observes (found : Instance) : OfMachine → Prop
  | ⟨.cloud (.getInstance _), ending⟩ => ending = .returned (.ok (some found))
  | ⟨.cloud (.getInstanceByName _), ending⟩ => ending = .returned (.ok (some found))
  | ⟨.cloud (.createInstance _), ending⟩ => ending = .returned (.ok found)
  | _ => False

instance (found : Instance) : DecidablePred (Observes found)
  | ⟨.cloud (.getInstance _), ending⟩ =>
    inferInstanceAs (Decidable (ending = .returned (.ok (some found))))
  | ⟨.cloud (.getInstanceByName _), ending⟩ =>
    inferInstanceAs (Decidable (ending = .returned (.ok (some found))))
  | ⟨.cloud (.createInstance _), ending⟩ =>
    inferInstanceAs (Decidable (ending = .returned (.ok found)))
  | ⟨.cloud (.deleteInstance _), _⟩ | ⟨.cloud (.tagResource ..), _⟩
  | ⟨.cloud (.getLoadBalancer _), _⟩ | ⟨.cloud (.getLoadBalancerByName _), _⟩
  | ⟨.cloud (.listMembers ..), _⟩ | ⟨.cloud (.createMember ..), _⟩
  | ⟨.cloud (.deleteMember ..), _⟩ | ⟨.secret .., _⟩ | ⟨.publish .., _⟩ =>
    inferInstanceAs (Decidable False)

theorem Observes.topic {found : Instance} {exchange : OfMachine}
    (hobserves : exchange.Observes found) :
    topic exchange.question = .lookup ∨ topic exchange.question = .creation := by
  rcases exchange with ⟨call | _ | _, ending⟩
  · cases call with
    | getInstance | getInstanceByName => exact .inl rfl
    | createInstance => exact .inr rfl
    | _ => exact hobserves.elim
  · exact hobserves.elim
  · exact hobserves.elim

end Exchange

/-- One of the exchanges came back with the instance. -/
def Observed (found : Instance) (seen : List OfMachine) : Prop :=
  ∃ exchange ∈ seen, exchange.Observes found

instance (found : Instance) (seen : List OfMachine) : Decidable (Observed found seen) :=
  inferInstanceAs (Decidable (∃ exchange ∈ seen, _))

section Observed

variable {found : Instance} {early late seen : List OfMachine}

theorem not_observed_nil : ¬Observed found [] := by
  simp [Observed]

theorem observed_append_iff :
    Observed found (early ++ late) ↔ Observed found early ∨ Observed found late := by
  simp only [Observed, List.mem_append, or_and_right, exists_or]

theorem not_observed_of_about {topics : List Topic} (hlookup : Topic.lookup ∉ topics)
    (hcreation : Topic.creation ∉ topics)
    (habout : ∀ exchange ∈ seen, About topics exchange.question) : ¬Observed found seen := by
  rintro ⟨exchange, hmem, hobserves⟩
  rcases hobserves.topic with htopic | htopic
  · exact hlookup (htopic ▸ habout exchange hmem)
  · exact hcreation (htopic ▸ habout exchange hmem)

end Observed

namespace Machine

theorem findInstance_observes (machine state : Machine) :
    (findInstance machine state).Ensures (.recording _) (fun _ outcome seen => ∀ found,
      Observed found seen ↔ outcome = .returned (.ok (some found))) [] := by
  have hnamed {early : List OfMachine} (hearly : ∀ found, ¬Observed found early) :
      ((Body.call .machine (.getInstanceByName machine.instanceName) : Pass _) state).Ensures
        (.recording _) (fun _ outcome seen => ∀ found,
          Observed found seen ↔ outcome = .returned (.ok (some found))) early := by
    rw [Body.ensures_call]
    rintro ending _ rfl found
    rw [observed_append_iff, or_iff_right (hearly found), Outcome.mapError_eq_ok_iff]
    simp [Observed, Exchange.Observes]
  unfold findInstance
  rcases machine.instanceId with _ | id
  · exact hnamed fun _ => not_observed_nil
  · simp only [Action.ensures_bind, Body.ensures_call]
    rintro ending _ rfl
    rcases ending with (error | _ | found) | _ | text
    · simp [Observed, Exchange.Observes]
    · exact hnamed fun found => by simp [Observed, Exchange.Observes]
    · simp [Observed, Exchange.Observes]
    · simp [Observed, Exchange.Observes]
    · simp [Observed, Exchange.Observes]

/-- What looking for an instance or creating it comes to is what the calls came back with. -/
theorem getOrCreate_observes (surroundings : Surroundings) (machine : Machine) :
    (getOrCreate surroundings machine).Ensures (.recording _) (fun _ outcome seen => ∀ found,
      Observed found seen ↔ outcome = .returned (.ok (some found))) [] := by
  rw [getOrCreate_eq, Action.ensures_bind, Action.ensures_get, Outcome.follow_ok, provision,
    Action.ensures_bind]
  apply (findInstance_observes machine machine).mono
  rintro state ((error | _ | found) | _ | text) seen hobserves
  · simpa using hobserves
  · have hnothing (found : Instance) : ¬Observed found seen := by simp [hobserves]
    apply (create_records surroundings.cluster machine state seen).mono
    rintro _ outcome _ ⟨asked, habout, hcreated⟩ found
    have hready : ¬Observed found (seen ++ asked) := by
      rw [observed_append_iff]
      exact not_or.mpr ⟨hnothing found, not_observed_of_about (by decide) (by decide) habout⟩
    rcases hcreated with ⟨rfl, hnone⟩ | ⟨prototype, ending, -, rfl, hending⟩
    · simp [hready, hnone]
    · rw [observed_append_iff, or_iff_right hready, ← hending found]
      simp [Observed, Exchange.Observes]
  · simpa using hobserves
  · simpa using hobserves
  · simpa using hobserves

/-- A normal pass comes to a verdict about the instance that it has observed, unless it ends
before. -/
theorem owned_verdict (surroundings : Surroundings) (machine : Machine) :
    (owned surroundings machine).Ensures (.recording _) (fun after outcome seen => ∀ found,
      Observed found seen → Verdict surroundings.cluster found machine after outcome seen) [] := by
  have hkeeps : Step.Keeps id (getOrCreate surroundings) := keeps_getOrCreate surroundings
  have hasks (found : Instance) : Step.Asks (About [.tagging, .pool, .joining, .event]) (do
      recordInstance surroundings found
      reconcileInstance surroundings found : Pass Requeue) :=
    ((asks_recordInstance surroundings found).about (by decide)).bind fun _ =>
      (asks_reconcileInstance surroundings found).about (by decide)
  unfold owned
  simp only [Action.ensures_bind, Action.ensures_get, Outcome.follow_ok]
  split
  · exact fun found hobserved => absurd hobserved not_observed_nil
  · rw [Action.ensures_bind]
    have hquiets := quiet_of_asks (asks_getOrCreate surroundings) (by decide : Topic.event ∉ _)
      machine []
    apply ((((hkeeps machine).anywhere []).and hquiets).and
      (getOrCreate_observes surroundings machine)).mono
    rintro _ ((error | _ | found) | _ | text) early ⟨⟨rfl, _, rfl, hquiet⟩, hobserves⟩
    · simp [hobserves]
    · exact fun found hobserved => by simp [hobserves] at hobserved
    · apply (((found_verdict surroundings found _).and ((hasks found _).recording [])).recording
        early).mono
      rintro after outcome _ ⟨late, rfl, hverdict, _, rfl, habout⟩ other hobserved
      rw [observed_append_iff, or_iff_left
        (not_observed_of_about (by decide) (by decide) habout)] at hobserved
      obtain rfl : found = other := by simpa [hobserves] using hobserved
      exact hverdict.append hquiet
    · simp [hobserves]
    · simp [hobserves]

theorem reconcileNormal_verdict (surroundings : Surroundings) (fetched : Machine) :
    (reconcileNormal surroundings fetched).Ensures (.recording _) (fun after outcome seen =>
      ∀ found, Observed found seen → ∃ machine, Continued fetched machine ∧
        Verdict surroundings.cluster found machine after outcome seen) [] := by
  apply reconcileNormal_ensures_of_continued
  · exact fun _ _ _ found hobserved => absurd hobserved not_observed_nil
  · intro machine hcontinued
    apply (owned_verdict surroundings machine).mono
    exact fun _ _ _ hverdict found hobserved => ⟨machine, hcontinued, hverdict found hobserved⟩

/-- What is said of the readiness at the end is backed by the verdict, or it was said before the
pass, which then ended without a verdict. -/
theorem Verdict.fresh_iff {known : VpcCluster} {found : Instance} {machine after : Machine}
    {outcome : Outcome (Except Error Requeue)} {seen : List OfMachine} {fresh : Prop}
    (hverdict : Verdict (some known) found machine after outcome seen)
    (hfresh : found.status = .running → FoundActive (some known) machine found seen → fresh) :
    (after.standing.ShowsReady → fresh) ↔ (machine.standing.ShowsReady →
      (¬outcome.Succeeded ∧ ∀ exchange ∈ seen, topic exchange.question ≠ .event) → fresh) := by
  cases hverdict with
  | unrecorded _ _ hfailed hquiet =>
      exact imp_congr_right fun _ => ⟨fun hthis _ => hthis, fun hthis => hthis ⟨hfailed, hquiet⟩⟩
  | undecided _ _ _ hfailed hquiet =>
      rw [Object.standing_mapStatus, showsReady_noted_iff]
      have hended : ¬outcome.Succeeded := fun hended =>
        absurd (hfailed hended) (Option.some_ne_none known)
      exact imp_congr_right fun _ => ⟨fun hthis _ => hthis, fun hthis => hthis ⟨hended, hquiet⟩⟩
  | ready now _ _ hrunning hactive =>
      exact iff_of_true (fun _ => hfresh hrunning hactive) fun _ _ => hfresh hrunning hactive
  | refused judge _ _ hunready hdone =>
      refine iff_of_true (fun hready => absurd hready (hunready _)) fun _ hended => ?_
      rcases hdone with hsucceeded | ⟨exchange, hmem, hevent⟩
      · exact absurd hsucceeded hended.1
      · exact absurd hevent (hended.2 exchange hmem)

end Machine

namespace Visit

/-- The pass has seen the instance run, and each membership that the machine needs active. -/
structure Fresh (visit : Visit .machine) (found : Instance) : Prop where
  running : found.status = .running
  active : Machine.FoundActive visit.opened.cluster visit.object found visit.exchanges

/-- The pass ended, by an error or cut off, before it came to a verdict: the only thing that may
fail afterwards is the event about a failed instance. -/
def Interrupted (visit : Visit .machine) : Prop :=
  ¬visit.ending.Succeeded ∧ ∀ exchange ∈ visit.exchanges, topic exchange.question ≠ .event

end Visit

namespace World

variable {W : Type} {«namespace» name : String} {world : World W} {settings : Settings}
variable {w after : W} {visit : Visit .machine}

theorem Stages.exists_verdict
    (stages : world.Stages settings «namespace» name w visit after) (hnormal : visit.Normal)
    {found : Instance} (hobserved : Observed found visit.exchanges) :
    ∃ machine, Machine.Continued visit.object machine ∧
      Machine.Verdict visit.opened.cluster found machine visit.left.object visit.ending
        visit.exchanges := by
  have hbody (now : Time.Instant) : (Managed.machine.body ⟨visit.opened.cluster, settings, now⟩
      visit.object visit.object).Ensures (.recording _) (fun after outcome seen =>
        ∀ found, Observed found seen → ∃ machine, Machine.Continued visit.object machine ∧
          Machine.Verdict visit.opened.cluster found machine after outcome seen) [] := by
    rw [Managed.body_of_normal _ hnormal]
    exact Machine.reconcileNormal_verdict _ _
  exact stages.of_recording hbody found hobserved

/-- What a normal pass that observed its instance leaves to say that the machine is ready is fresh
exactly unless the pass was interrupted over a machine that was said to be ready before, without
having seen everything active. -/
theorem readiness_fresh_iff
    (hvisit : world.visit .machine settings «namespace» name w = (some visit, after))
    (hnormal : visit.Normal) {found : Instance} (hobserved : Observed found visit.exchanges) :
    ((Object.standing visit.left.object).ShowsReady → visit.Fresh found) ↔
      ((Object.standing visit.object).ShowsReady → visit.Interrupted → visit.Fresh found) := by
  obtain ⟨stages⟩ := stages_of_visit hvisit
  obtain ⟨cluster, hcluster⟩ := exists_cluster_of_normal hnormal stages.open_eq
  obtain ⟨machine, hcontinued, hverdict⟩ := stages.exists_verdict hnormal hobserved
  have hbefore : (Object.standing visit.object).ShowsReady ↔ machine.standing.ShowsReady := by
    change (Machine.regionless (Object.standing visit.object)).ShowsReady ↔ _
    rw [← hcontinued.status]
    rfl
  rw [hcluster] at hverdict
  rw [hbefore]
  refine hverdict.fresh_iff fun hrunning hactive => ⟨hrunning, ?_⟩
  rw [hcluster]
  exact hcontinued.alike.foundActive hactive

open Stand (balancing)

/-- A machine that is ready already is looked at anew by the next pass. -/
theorem readiness_fresh_renewed : ∃ visit after found,
    balancing.visit .machine {} "default" "node" (Stand.empty.passed balancing) =
      (some visit, after) ∧
    (Object.standing visit.object).ShowsReady ∧ (Object.standing visit.left.object).ShowsReady ∧
    visit.Fresh found := by
  obtain ⟨visit, hvisit, hnormal, hobserved, hended, hbefore, hleft⟩ : ∃ visit,
      balancing.visit .machine {} "default" "node" (Stand.empty.passed balancing) =
        (some visit, _) ∧
      visit.object.metadata.isDeleting = false ∧
      Observed (Stand.empty.passed balancing).cloud.instance_ visit.exchanges ∧
      visit.ending = .returned (.ok .none) ∧
      (Object.standing visit.object).ShowsReady ∧ (Object.standing visit.left.object).ShowsReady :=
    Stand.exists_visit (by decide +kernel)
  have hfresh := (readiness_fresh_iff hvisit hnormal hobserved).mpr fun _ hinterrupted =>
    absurd (by rw [hended]; trivial) hinterrupted.1
  exact ⟨visit, _, _, hvisit, hbefore, hleft, hfresh hleft⟩

/-- Where the instance of a ready machine loses its address, the next pass fails to register it and
leaves it ready. -/
theorem readiness_goes_stale : ∃ stages visit after last found,
    balancing.Serves Stand.timeline (Conduct.nobody .machine) ∧
    balancing.Run Stand.timeline (Conduct.nobody .machine) Stand.empty
      (stages ++ [⟨after, visit, last⟩]) last ∧
    visit.Normal ∧ Observed found visit.exchanges ∧
    visit.ending = .returned (.error .invalidPrimaryAddress) ∧
    (Object.standing visit.left.object).ready = true ∧
    (Object.standing visit.left.object).conditions.holds Machine.instanceReady = true ∧
    ¬visit.Fresh found := by
  obtain ⟨joining, hjoining, -⟩ : ∃ visit,
      balancing.visit .machine {} "default" "node" Stand.empty = (some visit, _) ∧ True :=
    Stand.exists_visit (by decide +kernel)
  obtain ⟨visit, hvisit, hnormal, hobserved, hended, hready, hcondition, hdeclared⟩ : ∃ visit,
      balancing.visit .machine {} "default" "node"
        ((Stand.empty.passed balancing).readdress "0.0.0.0") = (some visit, _) ∧
      visit.object.metadata.isDeleting = false ∧
      Observed ((Stand.empty.passed balancing).readdress "0.0.0.0").cloud.instance_
        visit.exchanges ∧
      visit.ending = .returned (.error .invalidPrimaryAddress) ∧
      (Object.standing visit.left.object).ready = true ∧
      (Object.standing visit.left.object).conditions.holds Machine.instanceReady = true ∧
      visit.object.spec.loadBalancerPoolMembers ≠ [] :=
    Stand.exists_visit (by decide +kernel)
  have hjoined : balancing.Run Stand.timeline (Conduct.nobody .machine) Stand.empty _
      ((Stand.empty.passed balancing).readdress "0.0.0.0") :=
    ((Run.start _).visited {} hjoining).meanwhile .refl
  refine ⟨_, visit, _, _, _, Stand.serves _ _, hjoined.visited {} hvisit, hnormal, hobserved,
    hended, hready, hcondition, fun hfresh => ?_⟩
  obtain ⟨address, haddress, -⟩ := hfresh.active.declared hdeclared
  have hunusable : Membership.usableAddress (some "0.0.0.0") = .error .invalidPrimaryAddress := rfl
  exact absurd (hunusable.symm.trans haddress) nofun

end World

end Reconciler
