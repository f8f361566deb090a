import Reconciler.Http.Client
import Reconciler.Proofs.SetupRuns

/-!
# The workspace of an image's calls

An image belongs to the workspace on record, or else to its own, or else to its cluster's, and an
empty id is as good as none.  A pass goes by the first of the three that is there at all: it reaches
the right workspace as long as that one is not empty.
-/

namespace Reconciler

/-- The id that a client puts into the addresses of its calls. -/
def WorkspaceTarget.boundId (target : WorkspaceTarget) : String := target.serviceInstanceId.getD ""

/-- The provider has been called. -/
def Called {managed : Managed} (seen : List (Exchange (outside managed))) : Prop :=
  ∃ exchange ∈ seen, exchange.question.isCall = true

section Called

variable {managed : Managed} {σ α β : Type} {seen : List (Exchange (outside managed))}

theorem called_snoc (call : managed.Call)
    (ending : Outcome (Except CloudError (managed.Reply call)))
    (seen : List (Exchange (outside managed))) : Called (seen ++ [⟨.cloud call, ending⟩]) :=
  ⟨_, List.mem_append_right _ (List.mem_singleton_self _), rfl⟩

theorem Program.ensures_called (program : Program (outside managed) σ α) (hcalled : Called seen) :
    program.Ensures (.recording _) (fun _ _ seen => Called seen) seen := by
  refine program.ensures_of_preserved ?_ hcalled
  rintro question ending before _ rfl ⟨exchange, hmem, hcall⟩
  exact ⟨exchange, List.mem_append_left _ hmem, hcall⟩

/-- What calls first has called, whatever comes after. -/
theorem Step.called_bind {first : Step managed σ α} {next : α → Step managed σ β} {state : σ}
    (hfirst : (first state).Ensures (.recording _) (fun _ _ seen => Called seen) seen) :
    ((first >>= next) state).Ensures (.recording _) (fun _ _ seen => Called seen) seen := by
  rw [Action.ensures_bind]
  refine hfirst.mono ?_
  rintro state ((error | value) | _ | text) after hcalled
  · exact hcalled
  · exact Program.ensures_called _ hcalled
  · exact hcalled
  · exact hcalled

end Called

namespace Image

variable {image : Image} {cluster : Option PowerVsCluster}

/-- The workspaces that are named for an image: on record, by itself and by its cluster. -/
def workspaceIds (image : Image) (cluster : Option PowerVsCluster) : List String :=
  (image.workspace.map (·.serviceInstanceId)).toList ++ image.spec.serviceInstanceId.toList ++
    (cluster.map (·.spec.serviceInstanceId)).toList

/-- The workspace that the image belongs to. -/
def dueWorkspace (image : Image) (cluster : Option PowerVsCluster) : Option String :=
  (image.workspaceIds cluster).find? (!·.isEmpty)

theorem ne_empty_of_dueWorkspace {id : String} (hdue : image.dueWorkspace cluster = some id) :
    id ≠ "" := by
  simpa using List.find?_some hdue

/-- The first workspace that is named decides, and an empty id counts as a name. -/
theorem boundId_target (image : Image) (cluster : Option PowerVsCluster) :
    (image.target cluster).boundId = (image.workspaceIds cluster).head?.getD "" := by
  have hkept (id : String) : (Option.filter (!·.isEmpty) (some id)).getD "" = id := by
    rw [Option.filter_some]
    rcases hempty : id.isEmpty with _ | _
    · rfl
    · exact (String.isEmpty_iff.mp hempty).symm
  rcases hworkspace : image.workspace with _ | workspace
  · have htarget : (image.target cluster).serviceInstanceId =
        (image.spec.serviceInstanceId <|> cluster.map (·.spec.serviceInstanceId)).filter
          (!·.isEmpty) := by
      rw [Image.target, workspace_eq, hworkspace]
    rw [WorkspaceTarget.boundId, htarget, workspaceIds, hworkspace]
    rcases image.spec.serviceInstanceId with _ | own
    · rcases cluster with _ | cluster
      · rfl
      · exact hkept _
    · exact hkept own
  · rw [target_eq_of_workspace hworkspace, workspaceIds, hworkspace]
    rfl

/-- A pass reaches the right workspace if the first one that is named is not empty. -/
theorem dueWorkspace_eq_boundId_iff :
    image.dueWorkspace cluster = some (image.target cluster).boundId ↔
      (image.workspaceIds cluster).head?.any (!·.isEmpty) = true := by
  rw [boundId_target, dueWorkspace]
  rcases image.workspaceIds cluster with _ | ⟨first, rest⟩
  · simp
  · rw [List.find?_cons, List.head?_cons, Option.getD_some, Option.any_some]
    rcases hfirst : !first.isEmpty with _ | _
    · refine iff_of_false (fun hfound => ?_) Bool.false_ne_true
      exact absurd (List.find?_some hfound) (by simp [hfirst])
    · exact iff_of_true rfl rfl

/-- A pass over the image has something to ask of the provider. -/
def Asks (image : Image) (cluster : Option PowerVsCluster) : Prop :=
  if image.metadata.isDeleting then
    Managed.image.hasFinalizer image = true ∧ image.teardownCall.isSome = true ∧
      (image.target cluster).serviceInstanceId.isSome = true
  else ∃ known, cluster = some known ∧ Managed.image.SetUp known image

/-- What comes after setting up starts with a call. -/
theorem owned_calls (surroundings : Surroundings) (image : Image) (seen : List OfImage) :
    (owned surroundings image).Ensures (.recording _) (fun _ _ seen => Called seen) seen := by
  unfold owned
  rcases hjob : image.jobId with _ | id
  · have hnothing : (reconcileJob surroundings image).Ensures (.recording _)
        (fun after outcome asked => after = image ∧ outcome = .returned (.ok none) ∧ asked = seen)
        seen := by
      unfold reconcileJob
      rw [Action.ensures_bind, Action.ensures_get, Outcome.follow_ok, hjob]
      exact ⟨rfl, rfl, rfl⟩
    rw [Action.ensures_bind]
    refine hnothing.mono ?_
    rintro _ _ _ ⟨rfl, rfl, rfl⟩
    refine Step.called_bind ?_
    unfold getOrCreate
    rw [Action.ensures_bind, Action.ensures_get, Outcome.follow_ok]
    refine Step.called_bind ?_
    rw [Body.ensures_callFor]
    rintro ending _ rfl
    exact called_snoc _ _ _
  · refine Step.called_bind ?_
    unfold reconcileJob
    rw [Action.ensures_bind, Action.ensures_get, Outcome.follow_ok, hjob]
    refine Step.called_bind ?_
    rw [Body.ensures_attempt]
    rintro (result | _ | text) _ rfl <;> exact called_snoc _ _ _

/-- A normal pass over an image that is set up calls the provider. -/
theorem reconcileNormal_calls {known : PowerVsCluster} (settings : Settings) (now : Time.Instant)
    (hsetUp : Managed.image.SetUp known image) :
    (reconcileNormal ⟨some known, settings, now⟩ image).Ensures (.recording _)
      (fun _ _ seen => Called seen) [] := by
  obtain ⟨hfinalizer, owner, hreference, howner⟩ := hsetUp
  rw [reconcileNormal_eq, Action.ensures_bind]
  refine (Body.takeOwnership_of_owned hfinalizer hreference howner []).mono ?_
  rintro marked _ _ ⟨-, rfl, rfl⟩
  rw [Outcome.follow_ok, if_neg Bool.false_ne_true, Action.ensures_bind]
  refine (recordWorkspace_ensures_withWorkspace known marked []).mono ?_
  rintro _ _ _ ⟨rfl, rfl, rfl⟩
  exact owned_calls _ _ []

theorem ownsCloudState_eq (image : Image) : image.ownsCloudState = image.teardownCall.isSome := by
  unfold ownsCloudState teardownCall
  rcases image.imageId with _ | id
  · simp
  · by_cases hretain : image.spec.deletePolicy = .retain <;> simp [hretain]

/-- A delete pass calls the provider exactly if there is something to take down and it is known
where. -/
theorem reconcileDelete_calls (surroundings : Surroundings)
    (hfinalizer : Managed.image.hasFinalizer image = true) :
    (reconcileDelete surroundings image).Ensures (.recording _)
      (fun _ _ seen => Called seen ↔ image.teardownCall.isSome = true ∧
        (image.target surroundings.cluster).serviceInstanceId.isSome = true) [] := by
  rcases hplanned : image.teardownCall with _ | call
  · refine (reconcileDelete_tornDown surroundings image hfinalizer).mono ?_
    rintro after _ seen ⟨hnothing, -⟩
    refine iff_of_false ?_ (by simp)
    rintro ⟨⟨call | _ | _, ending⟩, hmem, hcall⟩
    · exact absurd (hnothing _ hmem call rfl) (by simp [hplanned])
    · exact absurd hcall Bool.false_ne_true
    · exact absurd hcall Bool.false_ne_true
  · unfold reconcileDelete
    simp only [Action.ensures_bind, Action.ensures_get, Outcome.follow_ok, hfinalizer,
      Bool.not_true, Bool.false_eq_true, if_false, ownsCloudState_eq, hplanned, Option.isSome_some,
      Bool.true_and]
    rcases hknown : (image.target surroundings.cluster).serviceInstanceId with _ | id
    · rw [Option.isNone_none, if_pos rfl]
      exact iff_of_false (by simp [Called]) (by simp)
    · rw [Option.isNone_some, if_neg Bool.false_ne_true]
      refine Program.Ensures.mono ?_ fun _ _ seen (hcalled : Called seen) =>
        iff_of_true hcalled ⟨trivial, rfl⟩
      have hremoved (purpose : String) (call : WorkspaceCall) :
          ((Body.remove .image purpose call : Pass Unit) image).Ensures (.recording _)
            (fun _ _ seen => Called seen) [] := by
        rw [Body.ensures_remove]
        rintro ending _ rfl
        exact called_snoc _ _ _
      unfold teardownCall at hplanned
      rcases himage : image.imageId with _ | id
      · rcases hjob : image.jobId with _ | id
        · simp [himage, hjob] at hplanned
        · exact Step.called_bind (hremoved _ _)
      · by_cases hretain : image.spec.deletePolicy = .retain
        · simp [himage, hretain] at hplanned
        · simp only [bne_iff_ne.mpr hretain, if_true]
          exact Step.called_bind (hremoved _ _)

end Image

/-- An image that names an empty workspace of its own. -/
def Bench.blank : Bench :=
  holding { image with spec := { image.spec with serviceInstanceId := "" } } (by decide)

namespace World

variable {W : Type} {world : World W} {settings : Settings} {«namespace» name : String}
variable {w after : W} {visit : Visit .image}

/-- The passes that call the provider are those that have something to ask of it. -/
theorem Stages.calls_iff_asks (stages : world.Stages settings «namespace» name w visit after) :
    visit.Calls ↔ Image.Asks visit.object visit.opened.cluster := by
  unfold Image.Asks
  rcases hdeleting : visit.object.metadata.isDeleting with _ | _
  · rw [if_neg Bool.false_ne_true]
    refine ⟨fun hcalls => (stages.setUp_of_calls hcalls).2 hdeleting, ?_⟩
    rintro ⟨known, hcluster, hsetUp⟩
    have hbody (now : Time.Instant) : (Image.reconcileNormal
        ⟨visit.opened.cluster, settings, now⟩ visit.object).Ensures (.recording _)
          (fun _ _ seen => Called seen) [] := by
      rw [hcluster]
      exact Image.reconcileNormal_calls settings now hsetUp
    exact stages.of_reconcileNormal hdeleting hbody
  · rw [if_pos rfl]
    rcases hfinalizer : Managed.image.hasFinalizer visit.object with _ | _
    · refine iff_of_false (fun hcalls => ?_) (by simp)
      exact absurd (stages.setUp_of_calls hcalls).1 (by simp [hfinalizer])
    · have hbody (now : Time.Instant) : (Managed.image.body
          ⟨visit.opened.cluster, settings, now⟩ visit.object visit.object).Ensures (.recording _)
            (fun _ _ seen => Called seen ↔ (Image.teardownCall visit.object).isSome = true ∧
              (Image.target visit.object visit.opened.cluster).serviceInstanceId.isSome = true)
            [] := by
        have hchosen : Managed.image.body ⟨visit.opened.cluster, settings, now⟩ visit.object =
            Image.reconcileDelete ⟨visit.opened.cluster, settings, now⟩ := if_pos hdeleting
        rw [hchosen]
        exact Image.reconcileDelete_calls _ hfinalizer
      exact (stages.of_recording hbody).trans (and_iff_right rfl).symm

/-- Every pass over an image is bound to the workspace that the image belongs to, and calls nobody
while there is none, exactly if the first workspace that is named for the image is not empty, or
none is anything but empty and the pass has nothing to ask. -/
theorem calls_reach_workspace_iff
    (hvisit : world.visit .image settings «namespace» name w = (some visit, after)) :
    let due := Image.dueWorkspace visit.object visit.opened.cluster
    let bound := WorkspaceTarget.boundId visit.opened.target
    ((visit.Calls → bound ≠ "" ∧ due = some bound) ∧ ∀ id, due = some id → bound = id) ↔
      (Image.workspaceIds visit.object visit.opened.cluster).head?.any (!·.isEmpty) = true ∨
        due = none ∧ ¬Image.Asks visit.object visit.opened.cluster := by
  intro due bound
  obtain ⟨stages⟩ := stages_of_visit hvisit
  have htarget : visit.opened.target = Image.target visit.object visit.opened.cluster := by
    rw [stages.opened_eq]
    rfl
  have hbound : bound = (Image.target visit.object visit.opened.cluster).boundId := by
    rw [← htarget]
  rw [← Image.dueWorkspace_eq_boundId_iff, ← hbound, ← stages.calls_iff_asks]
  constructor
  · rintro ⟨hcalls, hnamed⟩
    rcases hdue : due with _ | id
    · refine .inr ⟨rfl, fun hcalled => ?_⟩
      exact absurd (hdue.symm.trans (hcalls hcalled).2) (by simp)
    · exact .inl (hdue.trans (congrArg some (hnamed id hdue).symm))
  · rintro (hreached | ⟨hnone, hsilent⟩)
    · exact ⟨fun _ => ⟨Image.ne_empty_of_dueWorkspace hreached, hreached⟩,
        fun id hid => Option.some.inj (hreached.symm.trans hid)⟩
    · exact ⟨fun hcalls => absurd hcalls hsilent, fun id hid => by simp [hnone] at hid⟩

theorem calls_reach_workspace_of_cluster : ∃ visit after,
    Bench.vanishing.visit .image {} "default" "boot" Bench.fresh = (some visit, after) ∧
    visit.Calls ∧ Image.dueWorkspace visit.object visit.opened.cluster = some "workspace" ∧
    WorkspaceTarget.boundId visit.opened.target = "workspace" := by
  obtain ⟨visit, hvisit, hcalls, hdue, hnamed⟩ : ∃ visit,
      Bench.vanishing.visit .image {} "default" "boot" Bench.fresh = (some visit, _) ∧
      visit.Calls ∧ Image.dueWorkspace visit.object visit.opened.cluster = some "workspace" ∧
      (Image.workspaceIds visit.object visit.opened.cluster).head?.any (!·.isEmpty) = true :=
    Bench.exists_visit (by decide +kernel)
  obtain ⟨-, hbound⟩ := (calls_reach_workspace_iff hvisit).mpr (.inl hnamed)
  exact ⟨visit, _, hvisit, hcalls, hdue, hbound _ hdue⟩

/-- An empty workspace of an image's own hides its cluster's: the calls go to no workspace at
all. -/
theorem empty_workspace_hides_cluster : ∃ visit after,
    Bench.vanishing.visit .image {} "default" "boot" Bench.blank = (some visit, after) ∧
    visit.Calls ∧ visit.opened.cluster.map (·.spec.serviceInstanceId) = some "workspace" ∧
    WorkspaceTarget.boundId visit.opened.target = "" ∧
    ¬((visit.Calls → WorkspaceTarget.boundId visit.opened.target ≠ "" ∧
        Image.dueWorkspace visit.object visit.opened.cluster =
          some (WorkspaceTarget.boundId visit.opened.target)) ∧
      ∀ id, Image.dueWorkspace visit.object visit.opened.cluster = some id →
        WorkspaceTarget.boundId visit.opened.target = id) := by
  obtain ⟨visit, hvisit, hcalls, hcluster, hbound⟩ : ∃ visit,
      Bench.vanishing.visit .image {} "default" "boot" Bench.blank = (some visit, _) ∧
      visit.Calls ∧ visit.opened.cluster.map (·.spec.serviceInstanceId) = some "workspace" ∧
      WorkspaceTarget.boundId visit.opened.target = "" :=
    Bench.exists_visit (by decide +kernel)
  refine ⟨visit, _, hvisit, hcalls, hcluster, hbound, ?_⟩
  rintro ⟨hreached, -⟩
  exact (hreached hcalls).1 hbound

end World

end Reconciler
