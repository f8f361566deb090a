import Reconciler.Proofs.Freshness
import Reconciler.Proofs.Identity

/-!
# The name of a node

The identifier of a node is made of the name of the cluster and the id of an instance: the one that
a pass observed when nothing was on record yet.  That pass tags the instance first.  The identifier
stays when other instances come to be recorded in its place, and those are not tagged.
-/

namespace Reconciler

namespace Exchange

/-- The call tagged a resource. -/
def Tags (tag crn : String) : OfMachine → Prop
  | ⟨.cloud (.tagResource given named), ending⟩ =>
    given = tag ∧ named = crn ∧ ending = .returned (.ok ())
  | _ => False

instance (tag crn : String) : DecidablePred (Tags tag crn)
  | ⟨.cloud (.tagResource given named), ending⟩ =>
    inferInstanceAs (Decidable (given = tag ∧ named = crn ∧ ending = .returned (.ok ())))
  | ⟨.cloud (.getInstance _), _⟩ | ⟨.cloud (.getInstanceByName _), _⟩
  | ⟨.cloud (.createInstance _), _⟩ | ⟨.cloud (.deleteInstance _), _⟩
  | ⟨.cloud (.getLoadBalancer _), _⟩ | ⟨.cloud (.getLoadBalancerByName _), _⟩
  | ⟨.cloud (.listMembers ..), _⟩ | ⟨.cloud (.createMember ..), _⟩
  | ⟨.cloud (.deleteMember ..), _⟩ | ⟨.secret .., _⟩ | ⟨.publish .., _⟩ =>
    inferInstanceAs (Decidable False)

end Exchange

/-- The instance was tagged with the cluster's name, if it has a resource name. -/
def Tagged (cluster : String) (found : Instance) (seen : List OfMachine) : Prop :=
  ∀ crn ∈ found.crn, ∃ exchange ∈ seen, exchange.Tags cluster crn

instance (cluster : String) (found : Instance) (seen : List OfMachine) :
    Decidable (Tagged cluster found seen) :=
  inferInstanceAs (Decidable (∀ crn ∈ found.crn, _))

theorem Tagged.mono {cluster : String} {found : Instance} {seen more : List OfMachine}
    (htagged : Tagged cluster found seen) (hmore : seen ⊆ more) : Tagged cluster found more := by
  intro crn hcrn
  obtain ⟨exchange, hmem, htags⟩ := htagged crn hcrn
  exact ⟨exchange, hmore hmem, htags⟩

/-- The identifier of the node, and the id of the instance. -/
def MachineStatus.naming (status : MachineStatus) : Option String × Option String :=
  (status.providerId, status.instanceId)

namespace Machine

variable {known : VpcCluster} {surroundings : Surroundings} {found : Instance}
variable {machine after : Machine} {early late seen : List OfMachine}

theorem providerId_inj {cluster left right : String} :
    providerId cluster left = providerId cluster right ↔ left = right := by
  simp [providerId]

/-- Identifiers are never taken for an empty record. -/
theorem filter_providerId (cluster instanceId : String) :
    (some (providerId cluster instanceId)).filter (!·.isEmpty) =
      some (providerId cluster instanceId) :=
  Option.filter_eq_some_iff.mpr ⟨rfl, by simp [providerId]⟩

/-- An identifier that is on record stays, and the instance is recorded in any case. -/
theorem naming_noted (cluster : Option VpcCluster) (found : Instance) (status : MachineStatus) :
    (noted cluster found status).naming =
      (some ((status.providerId.filter (!·.isEmpty)).getD
        (providerId ((cluster.map (·.metadata.nameAny)).getD "") found.id)), some found.id) := by
  suffices hid : (identified cluster found status).providerId = _ from
    congrArg (·, some found.id) hid
  unfold identified
  rcases hid : status.providerId.filter (!·.isEmpty) with _ | id
  · simp [hid]
  · simpa [hid] using (Option.filter_eq_some_iff.mp hid).1

/-- What a normal pass makes of the record of node and instance: nothing, or the record of an
instance that it has observed and, where there was no identifier yet, tagged. -/
inductive Names (known : VpcCluster) (machine after : Machine) (seen : List OfMachine) : Prop
  | nothing (hsame : after.standing.naming = machine.standing.naming)
  | observed (found : Instance) (hobserved : Observed found seen)
      (hafter : after.standing.naming = (noted (some known) found machine.standing).naming)
      (htagged : machine.nodeId = none → Tagged known.metadata.nameAny found seen)

/-- To record an instance for a node without an identifier tags it. -/
theorem recordInstance_tags (hknown : surroundings.cluster = some known) (found : Instance)
    (machine : Machine) :
    (recordInstance surroundings found machine).Ensures (.recording _) (fun _ outcome seen =>
      outcome.Succeeded → machine.nodeId = none → Tagged known.metadata.nameAny found seen) [] := by
  rcases hid : machine.nodeId with _ | id
  · unfold recordInstance
    rw [Action.ensures_bind, Action.ensures_get, Outcome.follow_ok]
    dsimp only
    rw [← nodeId, hid, hknown, Option.isSome_none, Bool.not_false, if_pos rfl]
    rcases hcrn : found.crn with _ | crn
    · exact fun _ _ crn hthis => absurd (hcrn.symm.trans hthis) (by simp)
    · rw [Action.ensures_bind, Body.ensures_callFor]
      rintro ((error | _) | _ | text) _ rfl
      · exact fun hfailed => hfailed.elim
      · rintro - - other hother
        obtain rfl := Option.some.inj (hcrn.symm.trans hother)
        exact ⟨_, List.mem_append_right _ (List.mem_singleton_self _), rfl, rfl, rfl⟩
      · exact fun hfailed => hfailed.elim
      · exact fun hfailed => hfailed.elim
  · apply (recordInstance_ensures surroundings found machine []).mono
    exact fun _ _ _ _ _ hnone => absurd hnone (by simp)

theorem found_names (hknown : surroundings.cluster = some known) (found : Instance)
    (machine : Machine) :
    Program.Ensures (.recording _) ((do
        recordInstance surroundings found
        reconcileInstance surroundings found : Pass Requeue) machine) (fun after _ seen =>
      after.standing.naming = machine.standing.naming ∨
        (after.standing.naming = (noted (some known) found machine.standing).naming ∧
          (machine.nodeId = none → Tagged known.metadata.nameAny found seen))) [] := by
  rw [Action.ensures_bind]
  apply ((recordInstance_ensures surroundings found machine []).and
    (recordInstance_tags hknown found machine)).mono
  rintro _ outcome early ⟨⟨rfl, hfailed⟩ | ⟨rfl, rfl⟩, htagged⟩
  · rcases outcome with (error | _) | _ | text
    · exact .inl rfl
    · exact absurd trivial hfailed
    · exact .inl rfl
    · exact .inl rfl
  · rw [Outcome.follow_ok]
    apply (((keeps_recorded_reconcileInstance surroundings found _).anywhere early).and
      ((asks_reconcileInstance surroundings found _).recording early)).mono
    rintro after _ _ ⟨hrecorded, late, rfl, -⟩
    refine .inr ⟨?_, fun hnone => (htagged trivial hnone).mono (List.subset_append_left ..)⟩
    rw [hknown] at hrecorded
    exact (congrArg MachineStatus.naming hrecorded :)

theorem owned_names (hknown : surroundings.cluster = some known) (machine : Machine) :
    (owned surroundings machine).Ensures (.recording _)
      (fun after _ seen => Names known machine after seen) [] := by
  have hkeeps : Step.Keeps id (getOrCreate surroundings) := keeps_getOrCreate surroundings
  unfold owned
  simp only [Action.ensures_bind, Action.ensures_get, Outcome.follow_ok]
  split
  · exact .nothing rfl
  · rw [Action.ensures_bind]
    apply (((hkeeps machine).anywhere []).and (getOrCreate_observes surroundings machine)).mono
    rintro _ ((error | _ | found) | _ | text) early ⟨rfl, hobserves⟩
    · exact .nothing rfl
    · exact .nothing rfl
    · apply ((found_names hknown found _).recording early).mono
      rintro after _ _ ⟨late, rfl, hsame | ⟨hafter, htagged⟩⟩
      · exact .nothing hsame
      · exact .observed found (observed_append_iff.mpr (.inl ((hobserves found).mpr rfl))) hafter
          fun hnone => (htagged hnone).mono (List.subset_append_right ..)
    · exact .nothing rfl
    · exact .nothing rfl

theorem reconcileNormal_names (hknown : surroundings.cluster = some known) (fetched : Machine) :
    (reconcileNormal surroundings fetched).Ensures (.recording _)
      (fun after _ seen => Names known fetched after seen) [] := by
  have hcontinued {machine : Machine} (hthis : Continued fetched machine) :
      machine.standing.naming = fetched.standing.naming :=
    (congrArg MachineStatus.naming hthis.status :)
  refine reconcileNormal_ensures_of_continued (fun _ _ hthis => .nothing (hcontinued hthis))
    fun machine hthis => (owned_names hknown machine).mono ?_
  rintro after _ seen (hsame | ⟨found, hobserved, hafter, htagged⟩)
  · exact .nothing (hsame.trans (hcontinued hthis))
  · refine .observed found hobserved
      (hafter.trans ?_) fun hnone => htagged ?_
    · rw [naming_noted, naming_noted, (Prod.mk.inj (hcontinued hthis)).1]
    · rw [nodeId_eq_standing] at hnone ⊢
      rwa [(Prod.mk.inj (hcontinued hthis)).1]

end Machine

/-- The pass is the one that gave the node its identifier: nothing was on record, and it observed
the instance, tagged it and left it on record. -/
structure Visit.Introduces (visit : Visit .machine) (cluster : String) (found : Instance) :
    Prop where
  fresh : (Object.standing visit.object).naming = (none, none)
  observed : Observed found visit.exchanges
  tagged : Tagged cluster found visit.exchanges
  left : (Object.standing visit.left.object).naming =
    (some (Machine.providerId cluster found.id), some found.id)

namespace World

variable {W : Type} {«namespace» name : String} {world : World W}

theorem Stages.names {settings : Settings} {w after : W} {visit : Visit .machine}
    (stages : world.Stages settings «namespace» name w visit after) (hnormal : visit.Normal) :
    ∃ known, visit.opened.cluster = some known ∧
      Machine.Names known visit.object visit.left.object visit.exchanges := by
  obtain ⟨known, hknown⟩ := exists_cluster_of_normal hnormal stages.open_eq
  have hbody (now : Time.Instant) : (Managed.machine.body ⟨visit.opened.cluster, settings, now⟩
      visit.object visit.object).Ensures (.recording _)
        (fun after _ seen => Machine.Names known visit.object after seen) [] := by
    rw [Managed.body_of_normal _ hnormal]
    exact Machine.reconcileNormal_names hknown visit.object
  exact ⟨known, hknown, stages.of_recording hbody⟩

/-- The node is named after an instance that one of the passes has introduced, whatever instance is
on record now, or nothing is on record of either. -/
def Named (view : W → Timeline .machine «namespace» name) (cluster : String)
    (stages : List (Stage .machine W)) (status : MachineStatus) : Prop :=
  status.naming = (none, none) ∨
    ∃ stage ∈ stages, ∃ found, stage.Saves view ∧ stage.visit.Introduces cluster found ∧
      ∃ id, status.naming = (some (Machine.providerId cluster found.id), some id)

theorem Stages.named {view : W → Timeline .machine «namespace» name} {cluster : String}
    {stages : List (Stage .machine W)} {settings : Settings} {stage : Stage .machine W}
    (taken : world.Stages settings «namespace» name stage.before stage.visit stage.after)
    (hcluster : ∀ known, stage.visit.opened.cluster = some known →
      known.metadata.nameAny = cluster)
    (hmem : stage ∈ stages) (hsaves : stage.Saves view)
    (hfetched : Named view cluster stages (Object.standing stage.visit.object)) :
    Named view cluster stages (Object.standing stage.visit.left.object) := by
  rcases hdeleting : stage.visit.object.metadata.isDeleting with _ | _
  · obtain ⟨known, hknown, hsame | ⟨found, hobserved, hafter, htagged⟩⟩ := taken.names hdeleting
    · rwa [Named, hsame]
    · obtain rfl := hcluster known hknown
      rcases hfetched with hnothing | ⟨origin, horigin, first, hsaved, hintroduced, id, hnaming⟩
      · obtain ⟨hnone, -⟩ := Prod.mk.inj hnothing
        have hleft : (Object.standing stage.visit.left.object).naming =
            (some (Machine.providerId known.metadata.nameAny found.id), some found.id) := by
          rw [hafter, Machine.naming_noted, hnone]
          rfl
        have htagged := htagged (by rw [Machine.nodeId_eq_standing, hnone]; rfl)
        exact .inr ⟨stage, hmem, found, hsaves, ⟨hnothing, hobserved, htagged, hleft⟩, _, hleft⟩
      · refine .inr ⟨origin, horigin, first, hsaved, hintroduced, found.id, ?_⟩
        rw [hafter, Machine.naming_noted, (Prod.mk.inj hnaming).1, Machine.filter_providerId]
        rfl
  · rwa [Object.standing, taken.status_of_deleting hdeleting]

/-- Over any run from an absent status, the node of every stored status is named after an instance
that one of the passes has introduced with a tag.  The name is the one of the instance on record as
long as that is still the instance introduced. -/
theorem node_named_once {view : W → Timeline .machine «namespace» name}
    {others : Conduct .machine} {first last : W} {stages : List (Stage .machine W)}
    {cluster : String} (hserves : world.Serves view others) (hspares : others.SparesStatus)
    (hrun : world.Run view others first stages last)
    (hfirst : ∀ machine, (view first).current = some machine → machine.status = none)
    (hcluster : ∀ stage ∈ stages, ∀ known, stage.visit.opened.cluster = some known →
      known.metadata.nameAny = cluster) :
    ∀ machine ∈ (view first).stored (view last), ∀ status node id,
      machine.status = some status → MachineStatus.providerId status = some node →
      MachineStatus.instanceId status = some id →
      ∃ stage ∈ stages, ∃ found, stage.Saves view ∧ stage.visit.Introduces cluster found ∧
        node = Machine.providerId cluster found.id ∧
        (node = Machine.providerId cluster id ↔ id = found.id) := by
  have hstored := hrun.forall_status
    (fun status => Named view cluster stages (status.getD default)) hserves hspares (.inl rfl)
    (fun machine hcurrent => by rw [hfirst machine hcurrent]; exact .inl rfl)
    (fun stage hmem hfetched hsaves => by
      obtain ⟨settings, hvisit⟩ := hrun.visit_of_mem hmem
      obtain ⟨taken⟩ := stages_of_visit hvisit
      exact taken.named (hcluster stage hmem) hmem hsaves hfetched)
  intro machine hmem status node id hstatus hnode hid
  have hnamed := hstored machine hmem
  rw [hstatus] at hnamed
  rcases hnamed with hnothing | ⟨stage, hstage, found, hsaves, hintroduced, other, hnaming⟩
  · exact absurd (hnode.symm.trans (Prod.mk.inj hnothing).1) (by simp)
  · obtain rfl := Option.some.inj (hnode.symm.trans (Prod.mk.inj hnaming).1)
    exact ⟨stage, hstage, found, hsaves, hintroduced, rfl,
      Machine.providerId_inj.trans eq_comm⟩

end World

namespace Stand

/-- A provider with one instance, which others may replace by another one. -/
def replacing : World (Stand Instance) :=
  world (fun _ => 0) fun _ question held => match question with
    | .cloud (.getInstance id) =>
      (.returned (.ok (if id = held.id then some held else none)), held)
    | .cloud (.getInstanceByName _) => (.returned (.ok (some held)), held)
    | .cloud (.tagResource ..) => (.returned (.ok ()), held)
    | _ => (.expired, held)

/-- An instance of the machine that is still starting. -/
def starting (id crn : String) : Instance := ⟨id, "node", some crn, .pending, none, []⟩

/-- The instance of the machine is deleted, and another one created in its place. -/
def replace (stand : Stand Instance) (held : Instance) : Stand Instance :=
  { stand with cloud := held }

/-- The stand with a machine that nothing has been done for yet. -/
def unnamed : Stand Instance := fresh [] (starting "vsi-1" "crn-1")

end Stand

namespace World

open Stand (replacing starting unnamed)

/-- Two passes over a machine whose instance is replaced in between.  The second one records the new
instance, which nobody tags. -/
theorem exists_run_of_replaced : ∃ stages last machine status,
    replacing.Run Stand.timeline (Conduct.nobody .machine) unnamed stages last ∧
    (∀ stage ∈ stages, stage.visit.opened.cluster = some Stand.cluster ∧
      ¬Tagged "cluster" (starting "vsi-2" "crn-2") stage.visit.exchanges) ∧
    (∃ stage ∈ stages, Observed (starting "vsi-2" "crn-2") stage.visit.exchanges) ∧
    machine ∈ unnamed.timeline.stored last.timeline ∧ machine.status = some status ∧
    MachineStatus.naming status = (some "ibmvpc://cluster/vsi-1", some "vsi-2") := by
  obtain ⟨naming, hnaming, hfirst⟩ : ∃ visit,
      replacing.visit .machine {} "default" "node" unnamed = (some visit, _) ∧
      visit.opened.cluster = some Stand.cluster ∧
      ¬Tagged "cluster" (starting "vsi-2" "crn-2") visit.exchanges :=
    Stand.exists_visit (by decide +kernel)
  obtain ⟨recording, hrecording, hobserved, hsecond⟩ : ∃ visit,
      replacing.visit .machine {} "default" "node"
        ((unnamed.passed replacing).replace (starting "vsi-2" "crn-2")) = (some visit, _) ∧
      Observed (starting "vsi-2" "crn-2") visit.exchanges ∧
      visit.opened.cluster = some Stand.cluster ∧
      ¬Tagged "cluster" (starting "vsi-2" "crn-2") visit.exchanges :=
    Stand.exists_visit (by decide +kernel)
  obtain ⟨machine, hcurrent, hrecorded⟩ : ∃ machine,
      (((unnamed.passed replacing).replace (starting "vsi-2" "crn-2")).passed
        replacing).timeline.current = some machine ∧
      machine.status.any (fun status =>
        status.naming = (some "ibmvpc://cluster/vsi-1", some "vsi-2")) = true :=
    Stand.exists_current (by decide +kernel)
  obtain ⟨status, hstatus, hthis⟩ := (Option.any_eq_true ..).mp hrecorded
  have hreplaced : replacing.Run Stand.timeline (Conduct.nobody .machine) unnamed
      ([] ++ [⟨_, naming, _⟩]) ((unnamed.passed replacing).replace (starting "vsi-2" "crn-2")) :=
    ((Run.start _).visited {} hnaming).meanwhile .refl
  have hrun := hreplaced.visited {} hrecording
  exact ⟨_, _, machine, status, hrun, by simp [hfirst, hsecond],
    ⟨_, List.mem_append_right _ (List.mem_singleton_self _), hobserved⟩,
    hrun.mem_stored_of_current (Stand.serves _ _) hcurrent, hstatus, of_decide_eq_true hthis⟩

/-- The node of a machine whose instance was replaced is still named after the first one. -/
theorem node_named_once_replaced : ∃ stages last machine,
    replacing.Run Stand.timeline (Conduct.nobody .machine) unnamed stages last ∧
    machine ∈ unnamed.timeline.stored last.timeline ∧
    ∃ stage ∈ stages, ∃ found, stage.visit.Introduces "cluster" found ∧ found.id ≠ "vsi-2" ∧
      "ibmvpc://cluster/vsi-1" = Machine.providerId "cluster" found.id := by
  obtain ⟨stages, last, machine, status, hrun, hstages, -, hmem, hstatus, hnaming⟩ :=
    exists_run_of_replaced
  obtain ⟨hnode, hid⟩ := Prod.mk.inj hnaming
  have hcluster : ∀ stage ∈ stages, ∀ known, stage.visit.opened.cluster = some known →
      known.metadata.nameAny = "cluster" := by
    intro stage hmem known hknown
    obtain rfl := Option.some.inj ((hstages stage hmem).1.symm.trans hknown)
    rfl
  obtain ⟨stage, hstage, found, -, hintroduced, hname, hiff⟩ :=
    node_named_once (Stand.serves _ _) (Conduct.nobody_keeps _).sparesStatus hrun
      (by rintro _ ⟨⟩; rfl) hcluster machine hmem status _ _ hstatus hnode hid
  refine ⟨stages, last, machine, hrun, hmem, stage, hstage, found, hintroduced,
    fun hsame => absurd (hiff.mpr hsame.symm) (by decide), hname⟩

/-- The name of a node does not follow its machine to another instance, and that one stays
untagged. -/
theorem node_keeps_name_of_replaced : ∃ stages last machine status,
    replacing.Serves Stand.timeline (Conduct.nobody .machine) ∧
    replacing.Run Stand.timeline (Conduct.nobody .machine) unnamed stages last ∧
    (∀ machine, unnamed.timeline.current = some machine → machine.status = none) ∧
    (∀ stage ∈ stages, stage.visit.opened.cluster = some Stand.cluster) ∧
    machine ∈ unnamed.timeline.stored last.timeline ∧ machine.status = some status ∧
    MachineStatus.instanceId status = some "vsi-2" ∧
    (∃ node, MachineStatus.providerId status = some node ∧
      node ≠ Machine.providerId "cluster" "vsi-2") ∧
    (∃ stage ∈ stages, Observed (starting "vsi-2" "crn-2") stage.visit.exchanges) ∧
    ∀ stage ∈ stages, ¬Tagged "cluster" (starting "vsi-2" "crn-2") stage.visit.exchanges := by
  obtain ⟨stages, last, machine, status, hrun, hstages, hobserved, hmem, hstatus, hnaming⟩ :=
    exists_run_of_replaced
  obtain ⟨hnode, hid⟩ := Prod.mk.inj hnaming
  exact ⟨stages, last, machine, status, Stand.serves _ _, hrun, by rintro _ ⟨⟩; rfl,
    fun stage hmem => (hstages stage hmem).1, hmem, hstatus, hid, ⟨_, hnode, by decide⟩, hobserved,
    fun stage hmem => (hstages stage hmem).2⟩

end World

end Reconciler
