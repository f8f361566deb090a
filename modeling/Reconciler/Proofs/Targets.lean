import Reconciler.Proofs.Finalizer
import Reconciler.Proofs.History
import Reconciler.Proofs.Identity
import Reconciler.Proofs.Stand

/-!
# Where the calls for an object go

Calls go to the region or the workspace on record or, while there is none, to what the cluster says.
A normal pass has its target on record before it makes any call, and what is on record stays there.
From then on all calls go to one place, whatever becomes of the cluster.  Only an object that came
with the finalizer but without a record has delete passes that follow its cluster around.
-/

namespace Reconciler

open Timeline (Evolves)

namespace Visit

variable {managed : Managed}

/-- The pass calls the provider. -/
def Calls (visit : Visit managed) : Prop :=
  ∃ exchange ∈ visit.exchanges, exchange.question.isCall = true

instance (visit : Visit managed) : Decidable visit.Calls :=
  inferInstanceAs (Decidable (∃ exchange ∈ visit.exchanges, exchange.question.isCall = true))

/-- The pass is a normal one, or its target was on record. -/
def Bound (visit : Visit managed) : Prop :=
  visit.Normal ∨ (managed.recordedTarget visit.object).isSome = true

end Visit

namespace World

variable {W : Type} {managed : Managed} {«namespace» name : String} {world : World W}
variable {settings : Settings} {w after : W}

namespace Stages

/-- A normal pass over a machine leaves the region of its calls on record. -/
theorem region_of_normal {visit : Visit .machine}
    (stages : world.Stages settings «namespace» name w visit after) (hnormal : visit.Normal) :
    Machine.region visit.left.object = Option.filter (!·.isEmpty) visit.opened.target := by
  obtain ⟨cluster, hcluster⟩ := exists_cluster_of_normal hnormal stages.open_eq
  have hbody (now : Time.Instant) : (Managed.machine.body ⟨visit.opened.cluster, settings, now⟩
      visit.object visit.object).Ensures (.anything _) (fun after _ _ => Machine.region after =
        (Machine.target visit.object (some cluster)).filter (!·.isEmpty)) () := by
    rw [hcluster, Managed.body_of_normal _ hnormal]
    exact Machine.reconcileNormal_region cluster settings now _
  rw [stages.of_anything hbody, stages.opened_eq, hcluster]
  rfl

/-- A normal pass over an image that has asked anything leaves the workspace on record. -/
theorem workspace_of_normal {visit : Visit .image}
    (stages : world.Stages settings «namespace» name w visit after) (hnormal : visit.Normal)
    {cluster : PowerVsCluster} (hcluster : visit.opened.cluster = some cluster) :
    (visit.left.object.status = visit.object.status ∧ visit.exchanges = []) ∨
      Image.workspace visit.left.object =
        Image.workspace (Image.withWorkspace cluster visit.object) := by
  have hbody (now : Time.Instant) : (Managed.image.body ⟨visit.opened.cluster, settings, now⟩
      visit.object visit.object).Ensures (.recording _) (fun after _ seen =>
        (after.status = visit.object.status ∧ seen = []) ∨ Image.workspace after =
          Image.workspace (Image.withWorkspace cluster visit.object)) [] := by
    rw [hcluster, Managed.body, hnormal]
    exact Image.reconcileNormal_workspace cluster settings now _
  exact stages.of_recording hbody

theorem exists_workspace {visit : Visit .image}
    (stages : world.Stages settings «namespace» name w visit after) {cluster : PowerVsCluster}
    (hcluster : visit.opened.cluster = some cluster)
    (hnames : Managed.image.Names visit.opened.target) :
    ∃ workspace, Image.workspace (Image.withWorkspace cluster visit.object) = some workspace ∧
      workspace.target = visit.opened.target := by
  have htarget : visit.opened.target = Image.target visit.object (some cluster) := by
    rw [stages.opened_eq, hcluster]
    rfl
  rw [htarget] at hnames ⊢
  obtain ⟨id, hid⟩ := Option.isSome_iff_exists.mp hnames
  exact Image.exists_workspace_withWorkspace cluster (Option.filter_eq_some_iff.mp hid).1

variable {visit : Visit managed} (stages : world.Stages settings «namespace» name w visit after)
include stages

/-- Every pass leaves on record what was there. -/
theorem retains : managed.Retains visit.object visit.left.object := by
  rcases hdeleting : visit.object.metadata.isDeleting with _ | _
  · obtain ⟨cluster, hcluster⟩ := exists_cluster_of_normal hdeleting stages.open_eq
    cases managed with
    | machine =>
        constructor
        · intro id hid
          have hbody (now : Time.Instant) : (Managed.machine.body
              ⟨visit.opened.cluster, settings, now⟩ visit.object visit.object).Ensures
                (.anything _) (fun after _ _ => Machine.nodeId after = some id) () := by
            rw [Managed.body_of_normal _ hdeleting]
            exact Machine.reconcileNormal_nodeId _ hid
          exact stages.of_anything hbody
        · intro region hregion
          have hnonempty : region.isEmpty = false := by
            obtain ⟨-, hnonempty⟩ := Option.filter_eq_some_iff.mp hregion
            simpa using hnonempty
          rw [stages.region_of_normal hdeleting, stages.opened_eq]
          simp [Managed.targetOf, Machine.target, hregion, hnonempty]
    | image =>
        intro workspace hworkspace
        rcases stages.workspace_of_normal hdeleting hcluster with ⟨hsame, -⟩ | hrecorded
        · rw [← hworkspace, Image.workspace, hsame, Image.workspace]
        · rw [hrecorded]
          exact Image.workspace_withWorkspace_of_recorded hworkspace cluster
  · exact (Managed.retains_congr rfl (stages.status_of_deleting hdeleting)).mpr (.refl _)

/-- A pass that fetched an object with a target on record goes there. -/
theorem target_of_recorded {target : managed.Target}
    (hrecorded : managed.recordedTarget visit.object = some target) :
    visit.opened.target = target := by
  rw [stages.opened_eq]
  exact Managed.targetOf_of_recorded hrecorded _

/-- A normal pass that made a call has its target on record. -/
theorem recordedTarget_of_calls (hnormal : visit.Normal) (hcalls : visit.Calls)
    (hnames : managed.Names visit.opened.target) :
    managed.recordedTarget visit.left.object = some visit.opened.target := by
  obtain ⟨cluster, hcluster⟩ := exists_cluster_of_normal hnormal stages.open_eq
  cases managed with
  | machine =>
      obtain ⟨region, hregion⟩ := Option.isSome_iff_exists.mp hnames
      have htarget : visit.opened.target = some region := (Option.filter_eq_some_iff.mp hregion).1
      exact Option.map_eq_some_iff.mpr
        ⟨region, (stages.region_of_normal hnormal).trans hregion, htarget.symm⟩
  | image =>
      rcases stages.workspace_of_normal hnormal hcluster with ⟨-, hnothing⟩ | hrecorded
      · simp [Visit.Calls, hnothing] at hcalls
      · obtain ⟨workspace, hworkspace, htarget⟩ := stages.exists_workspace hcluster hnames
        exact Option.map_eq_some_iff.mpr ⟨workspace, hrecorded.trans hworkspace, htarget⟩

/-- What a pass leaves is anchored if the object was, and the target of a normal pass is known. -/
theorem anchored (hnames : visit.Normal → managed.Names visit.opened.target)
    (hanchored : managed.Anchored visit.object) : managed.Anchored visit.left.object := by
  rcases hdeleting : visit.object.metadata.isDeleting with _ | _
  · obtain ⟨cluster, hcluster⟩ := exists_cluster_of_normal hdeleting stages.open_eq
    cases managed with
    | machine =>
        intro _
        rw [stages.region_of_normal hdeleting]
        exact hnames hdeleting
    | image =>
        rcases stages.workspace_of_normal hdeleting hcluster with ⟨hsame, -⟩ | hrecorded
        · simp only [Managed.Anchored, Image.workspace, Image.imageId, Image.jobId] at hanchored ⊢
          rwa [hsame]
        · obtain ⟨workspace, hworkspace, -⟩ := stages.exists_workspace hcluster (hnames hdeleting)
          exact .inl (by rw [hrecorded, hworkspace]; rfl)
  · refine hanchored.congr (stages.status_of_deleting hdeleting) ?_
    rcases stages.left_of_deleting hdeleting with hleft | hleft
    · rw [hleft]
      exact id
    · simp [hleft]

/-- A delete pass over an anchored object calls nobody unless its target is on record. -/
theorem bound_of_calls (hanchored : managed.Anchored visit.object) (hcalls : visit.Calls) :
    visit.Bound := by
  rcases hdeleting : visit.object.metadata.isDeleting with _ | _
  · exact .inl hdeleting
  · refine .inr ?_
    cases managed with
    | machine =>
        rcases hfinalizer : Managed.machine.hasFinalizer visit.object with _ | _
        · have hbody (now : Time.Instant) : (Managed.machine.body
              ⟨visit.opened.cluster, settings, now⟩ visit.object visit.object).Ensures
                (.recording _) (fun _ _ seen => seen = []) [] := by
            rw [Managed.body_of_deleting _ hdeleting]
            exact Machine.reconcileDelete_idle _ hfinalizer
          simp [Visit.Calls, stages.of_recording hbody] at hcalls
        · rw [Managed.recordedTarget, Option.isSome_map]
          exact hanchored hfinalizer
    | image =>
        rcases hanchored with hworkspace | ⟨himage, hjob⟩
        · rwa [Managed.recordedTarget, Option.isSome_map]
        · obtain ⟨exchange, hmem, hcall⟩ := hcalls
          have hcallless := stages.of_reconcileDelete hdeleting fun surroundings =>
            Image.reconcileDelete_callless surroundings himage hjob
          simp [hcallless exchange hmem] at hcall

theorem recordedTarget_of_bound (hnames : visit.Normal → managed.Names visit.opened.target)
    (hcalls : visit.Calls) (hbound : visit.Bound) :
    managed.recordedTarget visit.left.object = some visit.opened.target := by
  rcases hbound with hnormal | hrecorded
  · exact stages.recordedTarget_of_calls hnormal hcalls (hnames hnormal)
  · obtain ⟨target, htarget⟩ := Option.isSome_iff_exists.mp hrecorded
    rw [stages.target_of_recorded htarget]
    exact stages.retains.recordedTarget htarget

end Stages

/-- The passes that call the provider, of those that are chosen, call it at one target. -/
def Aligned (stages : List (Stage managed W)) (chosen : Visit managed → Prop) : Prop :=
  ∀ stage ∈ stages, ∀ other ∈ stages, stage.visit.Calls → chosen stage.visit →
    other.visit.Calls → chosen other.visit → stage.visit.opened.target = other.visit.opened.target

variable {view : W → Timeline managed «namespace» name} {others : Conduct managed}
variable {first last : W} {stages : List (Stage managed W)}

/-- Each status that is stored in the course of a pass retains what was on record before. -/
theorem Serves.retains_of_visit {visit : Visit managed} (hserves : world.Serves view others)
    (hkeeps : others.Keeps fun object => object.status)
    (hvisit : world.visit managed settings «namespace» name w = (some visit, after)) :
    Evolves others managed.Retains (view w) (view after) := by
  obtain ⟨taken⟩ := stages_of_visit hvisit
  obtain ⟨scope, hheld⟩ := (hserves.writesStatus_of_visit hvisit hkeeps).reached
  apply hheld.holds.evolves.mono
  rintro before after (hsame | ⟨hgiven, hwanted⟩)
  · exact (Managed.retains_congr rfl hsame).mpr (.refl _)
  · exact (Managed.retains_congr hgiven hwanted).mpr taken.retains

namespace Run

variable (hserves : world.Serves view others) (hkeeps : others.Keeps fun object => object.status)
variable (hrun : world.Run view others first stages last)
include hserves hkeeps hrun

theorem retains : ((view first).stored (view last)).Pairwise fun newer older =>
    managed.Retains older newer := by
  have hevolves : Evolves others managed.Retains (view first) (view last) := by
    refine hrun.evolves hserves fun stage hmem => ?_
    obtain ⟨settings, hvisit⟩ := hrun.visit_of_mem hmem
    exact hserves.retains_of_visit hkeeps hvisit
  refine Timeline.Evolves.pairwise_stored (fun hfirst hsecond => hfirst.trans hsecond) hevolves
    (fun current object hwritten => ?_) hkeeps.stays
  exact (Managed.retains_congr rfl (hkeeps.kept _ _ hwritten)).mpr (.refl _)

/-- Over settled passes, what is stored has the target on record of each bound pass that made a
call. -/
theorem recordedTarget (hsettled : ∀ stage ∈ stages, stage.visit.Settled)
    (hnames : ∀ stage ∈ stages, stage.visit.Normal → managed.Names stage.visit.opened.target)
    {stage : Stage managed W} (hmem : stage ∈ stages) (hcalls : stage.visit.Calls)
    (hbound : stage.visit.Bound) {object : managed.Resource}
    (hcurrent : (view last).current = some object) :
    managed.recordedTarget object = some stage.visit.opened.target := by
  induction hrun using drift_induction generalizing object with
  | serves => exact hserves
  | start => simp at hmem
  | @visited before after stages visit settings hrun hvisit ih =>
      obtain ⟨taken⟩ := stages_of_visit hvisit
      have hlast := List.mem_append_right stages (List.mem_singleton_self ⟨before, visit, after⟩)
      rw [Managed.recordedTarget_congr
        (hserves.status_of_settled hkeeps hvisit (hsettled _ hlast) hcurrent)]
      rcases List.mem_append.mp hmem with hearlier | hlatest
      · obtain ⟨given, hgiven, hsame⟩ := hserves.part_of_fetched hkeeps hvisit
        have hrecorded := ih (fun stage hstage => hsettled stage (List.mem_append_left _ hstage))
          (fun stage hstage => hnames stage (List.mem_append_left _ hstage)) hearlier hgiven
        rw [← Managed.recordedTarget_congr hsame] at hrecorded
        exact taken.retains.recordedTarget hrecorded
      · obtain rfl := List.mem_singleton.mp hlatest
        exact taken.recordedTarget_of_bound (hnames _ hlast) hcalls hbound
  | drifted hrun hdrifts ih =>
      obtain ⟨given, hgiven, hsame⟩ := hdrifts.part_eq hkeeps hcurrent
      rw [Managed.recordedTarget_congr hsame]
      exact ih hsettled hnames hmem hgiven

/-- Over settled passes, bound passes make their calls at one target. -/
theorem aligned_of_bound (hsettled : ∀ stage ∈ stages, stage.visit.Settled)
    (hnames : ∀ stage ∈ stages, stage.visit.Normal → managed.Names stage.visit.opened.target) :
    Aligned stages Visit.Bound := by
  induction hrun using drift_induction with
  | serves => exact hserves
  | start => simp [Aligned]
  | @visited before after stages visit settings hrun hvisit ih =>
      obtain ⟨taken⟩ := stages_of_visit hvisit
      have hsettledBefore (stage) (hmem : stage ∈ stages) :=
        hsettled stage (List.mem_append_left _ hmem)
      have hnamesBefore (stage) (hmem : stage ∈ stages) :=
        hnames stage (List.mem_append_left _ hmem)
      -- What an earlier pass has put on record decides where the last one goes.
      have hlast (stage : Stage managed W) (hmem : stage ∈ stages) (hcalls : stage.visit.Calls)
          (hbound : stage.visit.Bound) : visit.opened.target = stage.visit.opened.target := by
        obtain ⟨given, hgiven, hsame⟩ := hserves.part_of_fetched hkeeps hvisit
        have hrecorded :=
          recordedTarget hserves hkeeps hrun hsettledBefore hnamesBefore hmem hcalls hbound hgiven
        rw [← Managed.recordedTarget_congr hsame] at hrecorded
        exact taken.target_of_recorded hrecorded
      intro stage hstage other hother hcalls hbound hcallsToo hboundToo
      rcases List.mem_append.mp hstage with hstage | hstage <;>
        rcases List.mem_append.mp hother with hother | hother
      · exact ih hsettledBefore hnamesBefore stage hstage other hother hcalls hbound hcallsToo
          hboundToo
      · obtain rfl := List.mem_singleton.mp hother
        exact (hlast stage hstage hcalls hbound).symm
      · obtain rfl := List.mem_singleton.mp hstage
        exact hlast other hother hcallsToo hboundToo
      · rw [List.mem_singleton.mp hstage, List.mem_singleton.mp hother]
  | drifted _ _ ih => exact ih hsettled hnames

/-- While other writers keep the finalizer as well, anchored objects stay so over settled passes. -/
theorem anchored (hfinalizer : others.Keeps managed.hasFinalizer)
    (hsettled : ∀ stage ∈ stages, stage.visit.Settled)
    (hnames : ∀ stage ∈ stages, stage.visit.Normal → managed.Names stage.visit.opened.target)
    (hstart : ∀ object, (view first).current = some object → managed.Anchored object) :
    (∀ stage ∈ stages, managed.Anchored stage.visit.object) ∧
      ∀ object, (view last).current = some object → managed.Anchored object := by
  have hboth : others.Keeps fun object => (managed.hasFinalizer object, object.status) :=
    ⟨fun before after hwritten =>
      Prod.ext (hfinalizer.kept _ _ hwritten) (hkeeps.kept _ _ hwritten), hkeeps.stays⟩
  have hcongr {before after : managed.Resource} (hanchored : managed.Anchored before)
      (hsame : (managed.hasFinalizer after, after.status) =
        (managed.hasFinalizer before, before.status)) : managed.Anchored after := by
    obtain ⟨hmarked, hstatus⟩ := Prod.mk.injEq .. ▸ hsame
    exact hanchored.congr hstatus hmarked.symm.trans
  induction hrun using drift_induction with
  | serves => exact hserves
  | start => exact ⟨by simp, hstart⟩
  | @visited before after stages visit settings hrun hvisit ih =>
      obtain ⟨hstages, hcurrent⟩ :=
        ih (fun stage hmem => hsettled stage (List.mem_append_left _ hmem))
          (fun stage hmem => hnames stage (List.mem_append_left _ hmem))
      have hlast := List.mem_append_right stages (List.mem_singleton_self ⟨before, visit, after⟩)
      obtain ⟨given, hgiven, hsame⟩ := hserves.part_of_fetched hboth hvisit
      have hfetched : managed.Anchored visit.object := hcongr (hcurrent given hgiven) hsame
      obtain ⟨taken⟩ := stages_of_visit hvisit
      refine ⟨List.forall_mem_append.mpr ⟨hstages, by simpa using hfetched⟩,
        fun object hobject => ?_⟩
      have hmarked :=
        hasFinalizer_of_closed hserves hvisit hfinalizer (hsettled _ hlast).1 hobject
      have hstatus := hserves.status_of_settled hkeeps hvisit (hsettled _ hlast) hobject
      exact hcongr (taken.anchored (hnames _ hlast) hfetched) (Prod.ext hmarked hstatus)
  | drifted hrun hdrifts ih =>
      obtain ⟨hstages, hcurrent⟩ := ih hsettled hnames
      refine ⟨hstages, fun object hobject => ?_⟩
      obtain ⟨given, hgiven, hsame⟩ := hdrifts.part_eq hboth hobject
      exact hcongr (hcurrent given hgiven) hsame

end Run

end World

namespace Stand

/-- A provider that has the instance of the machine and does not get around to anything. -/
def busy : (question : BodyQuestion .machine) → question.Answer
  | .cloud (.getInstance _) => .ok (some hosted)
  | .cloud (.getInstanceByName _) => .ok (some hosted)
  | .cloud _ => .error (.unexpected "busy")
  | .secret .. => .ok none
  | .publish .. => .ok ()
where
  hosted : Instance := ⟨"vsi", "node", none, .running, "10.0.0.5", []⟩

/-- The stand with a cluster that others may change. -/
def hosting : World (Stand VpcCluster) where
  access
    | .machine, .fetchCluster .., stand => (.ok (some stand.cloud), stand)
    | managed, question, stand => still.access managed question stand
  outside := still.outside
  clock := still.clock
  now := still.now
where
  still : World (Stand VpcCluster) :=
    world (fun _ => 0) fun _ question cluster => (.returned (busy question), cluster)

theorem hosting_serves : hosting.Serves timeline (Conduct.nobody .machine) where
  access question stand := by
    have hstill : hosting.still.Serves timeline (Conduct.nobody .machine) := serves _ _
    cases question with
    | fetchCluster called name => exact ⟨_, rfl, stand.timeline, _, .refl, rfl, .refl⟩
    | fetch called name => exact hstill.access (.fetch called name) stand
    | connect target => exact hstill.access (.connect target) stand
    | replace sent => exact hstill.access (.replace sent) stand
    | replaceStatus sent => exact hstill.access (.replaceStatus sent) stand
  outside _ _ _ _ := .refl

/-- Others move the cluster to another region. -/
def relocate (region : String) (stand : Stand VpcCluster) : Stand VpcCluster :=
  { stand with cloud := { stand.cloud with spec := { stand.cloud.spec with region } } }

/-- The stand with a machine that does not carry the finalizer yet. -/
def unmarked : Stand VpcCluster :=
  holding ((machine []).mapMetadata fun metadata => { metadata with finalizers := none })
    ⟨rfl, rfl⟩ cluster

/-- The stand with a machine that came with the finalizer and is to go away. -/
def unrecorded : Stand VpcCluster :=
  holding ((machine []).mapMetadata fun metadata =>
    { metadata with deletionTimestamp := some ⟨1, 0⟩ }) ⟨rfl, rfl⟩ cluster

end Stand

namespace World

variable {W : Type} {managed : Managed} {«namespace» name : String} {world : World W}
variable {view : W → Timeline managed «namespace» name} {others : Conduct managed}
variable {first last : W} {stages : List (Stage managed W)}

/-- What is on record of the identity of an object is never changed nor taken back.  A pass over an
object with a target on record goes there, whatever the cluster says, and a normal pass that makes
a call has its target on record, unless it is empty.  So when the passes of a run are settled and
the targets of normal ones are not empty, all calls go to one target, but for those of delete passes
over an object that has none on record; and there are none of these in the life of an object that
starts out anchored. -/
theorem one_target (hserves : world.Serves view others)
    (hkeeps : others.Keeps fun object => object.status)
    (hrun : world.Run view others first stages last) :
    ((view first).stored (view last)).Pairwise (fun newer older => managed.Retains older newer) ∧
    (∀ stage ∈ stages,
      (∀ target, managed.recordedTarget stage.visit.object = some target →
        stage.visit.opened.target = target) ∧
      (stage.visit.Normal → stage.visit.Calls → managed.Names stage.visit.opened.target →
        managed.recordedTarget stage.visit.left.object = some stage.visit.opened.target)) ∧
    ((∀ stage ∈ stages, stage.visit.Settled) →
      (∀ stage ∈ stages, stage.visit.Normal → managed.Names stage.visit.opened.target) →
      Aligned stages Visit.Bound ∧
      (others.Keeps managed.hasFinalizer →
        (∀ object, (view first).current = some object → managed.Anchored object) →
        Aligned stages fun _ => True)) := by
  refine ⟨hrun.retains hserves hkeeps, fun stage hmem => ?_, fun hsettled hnames => ?_⟩
  · obtain ⟨settings, hvisit⟩ := hrun.visit_of_mem hmem
    obtain ⟨taken⟩ := stages_of_visit hvisit
    exact ⟨fun _ => taken.target_of_recorded, taken.recordedTarget_of_calls⟩
  · have haligned := hrun.aligned_of_bound hserves hkeeps hsettled hnames
    refine ⟨haligned, fun hfinalizer hstart stage hstage other hother hcalls _ hcallsToo _ => ?_⟩
    have hbound (stage) (hmem : stage ∈ stages) (hcalls : stage.visit.Calls) :
        stage.visit.Bound := by
      obtain ⟨settings, hvisit⟩ := hrun.visit_of_mem hmem
      obtain ⟨taken⟩ := stages_of_visit hvisit
      have hanchored :=
        (hrun.anchored hserves hkeeps hfinalizer hsettled hnames hstart).1 stage hmem
      exact taken.bound_of_calls hanchored hcalls
    exact haligned stage hstage other hother hcalls (hbound stage hstage hcalls) hcallsToo
      (hbound other hother hcallsToo)

open Stand (hosting)

/-- Where the cluster moves to another region, the calls for the machine go on to the old one. -/
theorem one_target_relocated : ∃ stages finding returning last,
    hosting.Run Stand.timeline (Conduct.nobody .machine) Stand.unmarked
      (stages ++ [finding, returning]) last ∧
    finding.visit.Calls ∧ returning.visit.Calls ∧
    (finding.visit.opened.cluster.map fun cluster => cluster.spec.region) = some "region" ∧
    (returning.visit.opened.cluster.map fun cluster => cluster.spec.region) = some "elsewhere" ∧
    finding.visit.opened.target = returning.visit.opened.target := by
  obtain ⟨marking, hmarking, hmarked⟩ : ∃ visit,
      hosting.visit .machine {} "default" "node" Stand.unmarked = (some visit, _) ∧
      visit.Settled ∧ Managed.machine.Names visit.opened.target :=
    Stand.exists_visit (by decide +kernel)
  obtain ⟨finding, hfinding, hfound, hcalls, hregion⟩ : ∃ visit,
      hosting.visit .machine {} "default" "node" (Stand.unmarked.passed hosting) =
        (some visit, _) ∧
      (visit.Settled ∧ Managed.machine.Names visit.opened.target) ∧ visit.Calls ∧
      (visit.opened.cluster.map fun cluster => cluster.spec.region) = some "region" :=
    Stand.exists_visit (by decide +kernel)
  obtain ⟨returning, hreturning, hreturned, hcallsToo, hregionToo⟩ : ∃ visit,
      hosting.visit .machine {} "default" "node"
        (((Stand.unmarked.passed hosting).passed hosting).relocate "elsewhere") =
          (some visit, _) ∧
      (visit.Settled ∧ Managed.machine.Names visit.opened.target) ∧ visit.Calls ∧
      (visit.opened.cluster.map fun cluster => cluster.spec.region) = some "elsewhere" :=
    Stand.exists_visit (by decide +kernel)
  have hmoved : hosting.Run Stand.timeline (Conduct.nobody .machine) Stand.unmarked _
      (((Stand.unmarked.passed hosting).passed hosting).relocate "elsewhere") :=
    (((Run.start _).visited {} hmarking).visited {} hfinding).meanwhile .refl
  have hrun := hmoved.visited {} hreturning
  obtain ⟨-, -, haligned⟩ := one_target Stand.hosting_serves (Conduct.nobody_keeps _) hrun
  have hall := (haligned (by simp [hmarked, hfound, hreturned])
    (by simp [hmarked, hfound, hreturned])).2 (Conduct.nobody_keeps _) (by rintro _ ⟨⟩; nofun)
  refine ⟨[⟨_, marking, _⟩], ⟨_, finding, _⟩, ⟨_, returning, _⟩, _, hrun, hcalls, hcallsToo,
    hregion, hregionToo, ?_⟩
  exact hall ⟨_, finding, _⟩ (by simp) ⟨_, returning, _⟩ (by simp) hcalls trivial hcallsToo trivial

/-- A machine that came with the finalizer and without a record is looked for wherever its cluster
is when the pass starts. -/
theorem two_targets : ∃ before staying after leaving last,
    hosting.Serves Stand.timeline (Conduct.nobody .machine) ∧
    hosting.Run Stand.timeline (Conduct.nobody .machine) Stand.unrecorded
      [⟨Stand.unrecorded, staying, before⟩, ⟨after, leaving, last⟩] last ∧
    staying.Settled ∧ leaving.Settled ∧ staying.Calls ∧ leaving.Calls ∧
    staying.opened.target = some "region" ∧ leaving.opened.target = some "elsewhere" := by
  obtain ⟨staying, hstaying, hsettled, hcalls, htarget⟩ : ∃ visit,
      hosting.visit .machine {} "default" "node" Stand.unrecorded = (some visit, _) ∧
      visit.Settled ∧ visit.Calls ∧ visit.opened.target = some "region" :=
    Stand.exists_visit (by decide +kernel)
  obtain ⟨leaving, hleaving, hsettledToo, hcallsToo, htargetToo⟩ : ∃ visit,
      hosting.visit .machine {} "default" "node"
        ((Stand.unrecorded.passed hosting).relocate "elsewhere") = (some visit, _) ∧
      visit.Settled ∧ visit.Calls ∧ visit.opened.target = some "elsewhere" :=
    Stand.exists_visit (by decide +kernel)
  have hmoved : hosting.Run Stand.timeline (Conduct.nobody .machine) Stand.unrecorded _
      ((Stand.unrecorded.passed hosting).relocate "elsewhere") :=
    ((Run.start _).visited {} hstaying).meanwhile .refl
  exact ⟨_, staying, _, leaving, _, Stand.hosting_serves, hmoved.visited {} hleaving, hsettled,
    hsettledToo, hcalls, hcallsToo, htarget, htargetToo⟩

end World

end Reconciler
