import Reconciler.Proofs.ForeignUpdates
import Reconciler.Proofs.Setup
import Reconciler.Proofs.Targets

/-!
# Setting up comes to an end

A pass that wants to come back at once has stored what it supplied, so that each such pass leaves
the object with fewer things that it lacks.  There are two of them at most, and then the object is
ready for calls.
-/

namespace Reconciler

open Timeline (Drifts Evolves)

section Supplies

variable {managed : Managed} {scope : Scope managed} {requirement : Requirement}

/-- As long as the pass has something to supply, it has metadata to write. -/
theorem Managed.Supplies.metadataChanged
    (hsupplies : managed.Supplies scope.stored scope.object requirement) :
    scope.metadataChanged = true := by
  by_contra hunchanged
  rw [Bool.not_eq_true] at hunchanged
  simp only [Scope.metadataChanged, Bool.or_eq_false_iff, bne_eq_false_iff_eq] at hunchanged
  obtain ⟨⟨hfinalizers, howners⟩, -⟩ := hunchanged
  have hsame : managed.meets scope.stored requirement = managed.meets scope.object requirement := by
    cases requirement <;>
      simp only [Managed.meets, Managed.hasFinalizer, Metadata.hasFinalizer, Metadata.owners,
        hfinalizers, howners]
  simp [hsupplies.missing, hsupplies.met] at hsame

/-- A newer copy has what the pass supplies, or else the pass supplies that copy with it. -/
theorem Managed.Supplies.rebased
    (hsupplies : managed.Supplies scope.stored scope.object requirement)
    (hforeign : managed.foreignPart scope.object = managed.foreignPart scope.stored)
    (latest : managed.Resource) :
    managed.meets latest requirement = true ∨
      managed.Supplies latest (scope.rebased latest).object requirement := by
  cases hlatest : managed.meets latest requirement with
  | true => exact .inl rfl
  | false =>
      right
      cases requirement with
      | finalizer =>
          refine ⟨hlatest, ?_⟩
          rw [Scope.hasFinalizer_rebased, if_neg (by simp [hsupplies.1, hsupplies.2])]
          exact hsupplies.2
      | owner owner =>
          exact ⟨hlatest, Scope.owners_rebased_of_new hforeign hsupplies.1 hsupplies.2 hlatest⟩

end Supplies

namespace Scope

variable {managed : Managed} {«namespace» name : String} {others : Conduct managed}

/-- What the pass supplies is still to be written, or a version after the fetched one has it. -/
def Supplying (requirement : Requirement) (fetched : managed.Resource) (scope : Scope managed)
    (timeline : Timeline managed «namespace» name) : Prop :=
  ∃ newer writer older, timeline.versions = newer ++ ⟨writer, fetched⟩ :: older ∧
    (managed.Supplies scope.stored scope.object requirement ∨
      ∃ version ∈ newer, managed.meets version.object requirement = true)

theorem kept_supplying {requirement : Requirement} {fetched : managed.Resource}
    (hmissing : managed.meets fetched requirement = false) :
    Kept others fun scope (timeline : Timeline managed «namespace» name) =>
      Supplying requirement fetched scope timeline := by
  constructor
  case drift =>
    rintro scope before after _ ⟨newer, writer, older, hversions, hsupplies⟩ hdrifts
    obtain ⟨latest, hlatest⟩ := hdrifts.versions_suffix
    refine ⟨latest ++ newer, writer, older, ?_, hsupplies.imp_right ?_⟩
    · rw [← hlatest, hversions, List.append_assoc]
    · exact fun ⟨version, hmem, hmet⟩ => ⟨version, List.mem_append_right _ hmem, hmet⟩
  case metadata =>
    rintro scope before after version _ ⟨newer, writer, older, hbefore, hsupplies⟩ _ _ hversions
    refine ⟨_ :: newer, writer, older, by rw [hversions, hbefore]; rfl, .inr ?_⟩
    rcases hsupplies with hpending | ⟨version, hmem, hmet⟩
    · exact ⟨_, List.mem_cons_self .., hpending.met⟩
    · exact ⟨version, List.mem_cons_of_mem _ hmem, hmet⟩
  case status =>
    rintro scope before after version _ ⟨newer, writer, older, hbefore, hsupplies⟩ hunchanged _ _
      hversions
    refine ⟨_ :: newer, writer, older, by rw [hversions, hbefore]; rfl, .inr ?_⟩
    rcases hsupplies with hpending | ⟨version, hmem, hmet⟩
    · simp [hpending.metadataChanged] at hunchanged
    · exact ⟨version, List.mem_cons_of_mem _ hmem, hmet⟩
  case rebase =>
    rintro scope timeline latest htracks ⟨newer, writer, older, hversions, hsupplies⟩ hlatest
    refine ⟨newer, writer, older, hversions, ?_⟩
    rcases hsupplies with hpending | hstored
    · refine (hpending.rebased htracks.foreign latest).symm.imp_right fun hmet => ?_
      -- The copy is not the fetched one, which lacked what is required, so it is a newer version.
      cases newer with
      | nil =>
          obtain rfl := Timeline.current_eq_of_cons hversions hlatest
          simp [hmet] at hmissing
      | cons version newer =>
          obtain rfl := Timeline.current_eq_of_cons hversions hlatest
          exact ⟨version, List.mem_cons_self .., hmet⟩
    · exact .inr hstored

end Scope

namespace Timeline

variable {managed : Managed} {«namespace» name : String} {others : Conduct managed}
variable {before after : Timeline managed «namespace» name} {cluster : managed.Cluster}

/-- How much the stored object lacks.  What is gone lacks nothing. -/
def lacking (cluster : managed.Cluster) (timeline : Timeline managed «namespace» name) : Nat :=
  (timeline.current.map (managed.lacking cluster)).getD 0

theorem lacking_of_current {object : managed.Resource} (hcurrent : before.current = some object) :
    before.lacking cluster = managed.lacking cluster object := by
  simp [lacking, hcurrent]

theorem lacking_le : before.lacking cluster ≤ 2 := by
  rcases hcurrent : before.current with _ | object
  · simp [lacking, hcurrent]
  · rw [lacking_of_current hcurrent]
    exact Managed.lacking_le

/-- While other writers keep the marks, they do not make the object lack more. -/
theorem Drifts.lacking_le (hkeeps : others.Keeps managed.marks)
    (hdrifts : Drifts others before after) : after.lacking cluster ≤ before.lacking cluster := by
  rcases hafter : after.current with _ | now
  · simp [lacking, hafter]
  · obtain ⟨object, hbefore, hmarks⟩ := hdrifts.part_eq hkeeps hafter
    rw [lacking_of_current hafter, lacking_of_current hbefore]
    exact Nat.le_of_eq (Managed.lacking_of_marks hmarks)

end Timeline

/-- Without the finalizer a delete pass asks nothing. -/
theorem Managed.delete_idle {managed : Managed} (surroundings : Surroundings managed)
    {object : managed.Resource} (hdeleting : object.metadata.isDeleting = true)
    (hreleased : managed.hasFinalizer object = false) :
    (managed.body surroundings object object).Ensures (.recording _)
      (fun _ _ seen => seen = []) [] := by
  cases managed with
  | machine =>
      rw [body_of_deleting _ hdeleting]
      exact Machine.reconcileDelete_idle surroundings hreleased
  | image =>
      simp only [body, hdeleting, if_true]
      unfold Image.reconcileDelete
      simp [hreleased]

namespace World

variable {W : Type} {managed : Managed} {«namespace» name : String} {world : World W}
variable {settings : Settings} {w after : W} {visit : Visit managed}
variable {view : W → Timeline managed «namespace» name} {others : Conduct managed}
variable {cluster : managed.Cluster}

theorem Stages.setsUp (stages : world.Stages settings «namespace» name w visit after)
    (hnormal : visit.Normal) (hcluster : visit.opened.cluster = some cluster) :
    managed.SetsUp cluster visit.object visit.left.object visit.ending (visit.exchanges ≠ []) := by
  have hbody (now : Time.Instant) : (managed.body ⟨visit.opened.cluster, settings, now⟩
      visit.object visit.object).Ensures (.recording _) (fun after outcome seen =>
        managed.SetsUp cluster visit.object after outcome (seen ≠ [])) [] := by
    rw [hcluster]
    exact Managed.normal_setsUp settings now hnormal
  exact stages.of_recording hbody

theorem Stages.normal_of_immediate (stages : world.Stages settings «namespace» name w visit after)
    (himmediate : visit.ending = .returned (.ok .immediate)) : visit.Normal := by
  by_contra hnot
  have hdeleting : visit.Deleting := by simpa [Visit.Normal, Visit.Deleting] using hnot
  have hyields := stages.of_anything (fun now => Managed.yields_delete
    ⟨visit.opened.cluster, settings, now⟩ hdeleting visit.object)
  exact hyields _ himmediate rfl

/-- A pass that makes a call has found its object set up. -/
theorem Stages.setUp_of_calls (stages : world.Stages settings «namespace» name w visit after)
    (hcalls : visit.Calls) :
    managed.hasFinalizer visit.object = true ∧
      (visit.Normal → ∃ cluster, visit.opened.cluster = some cluster ∧
        managed.SetUp cluster visit.object) := by
  obtain ⟨exchange, hmem, -⟩ := hcalls
  have hasked : visit.exchanges ≠ [] := List.ne_nil_of_mem hmem
  have hnormal (hnormal : visit.Normal) : ∃ cluster, visit.opened.cluster = some cluster ∧
      managed.SetUp cluster visit.object := by
    obtain ⟨cluster, hcluster⟩ := exists_cluster_of_normal hnormal stages.open_eq
    exact ⟨cluster, hcluster, (stages.setsUp hnormal hcluster).asks hasked⟩
  refine ⟨?_, hnormal⟩
  rcases hdeleting : visit.object.metadata.isDeleting with _ | _
  · obtain ⟨cluster, -, hfinalizer, -⟩ := hnormal hdeleting
    exact hfinalizer
  · by_contra hmissing
    rw [Bool.not_eq_true] at hmissing
    exact hasked (stages.of_recording fun now => Managed.delete_idle _ hdeleting hmissing)

/-- What a pass that closes its scope has supplied, it has stored, unless the object was gone
before. -/
theorem Serves.supplied_of_visit (hserves : world.Serves view others)
    (hvisit : world.visit managed settings «namespace» name w = (some visit, after))
    (hclosed : visit.closed = .ok ()) {requirement : Requirement}
    (hsupplies : managed.Supplies visit.object visit.left.object requirement) :
    Scope.Gone others (view after) ∨
      ∃ newer writer older, (view after).versions = newer ++ ⟨writer, visit.object⟩ :: older ∧
        ∃ version ∈ newer, managed.meets version.object requirement = true := by
  obtain ⟨stages⟩ := stages_of_visit hvisit
  have hsettles := hserves.settles_of_visit (Scope.kept_supplying hsupplies.missing) hvisit
    fun asked ready _ hcurrent hready => by
      obtain ⟨writer, older, hasked⟩ := Timeline.versions_of_current hcurrent
      obtain ⟨newer, hversions⟩ := hready.versions_suffix
      exact ⟨newer, writer, older, by rw [← hversions, hasked], .inl (stages.stored_eq ▸ hsupplies)⟩
  obtain ⟨⟨-, newer, writer, older, hversions, hpending | hstored⟩, hclean | hgone⟩ :=
    hsettles.done (by rw [hclosed])
  · exact absurd hclean.1 (by simp [hpending.metadataChanged])
  · exact .inl hgone
  · exact .inr ⟨newer, writer, older, hversions, hstored⟩
  · exact .inl hgone

/-- While other writers keep the marks, what is stored has what a pass that closed its scope
supplied. -/
theorem Serves.meets_of_visit (hserves : world.Serves view others)
    (hvisit : world.visit managed settings «namespace» name w = (some visit, after))
    (hkeeps : others.Keeps managed.marks) (hclosed : visit.closed = .ok ())
    {requirement : Requirement} (hrequired : requirement ∈ managed.requirements cluster)
    (hsupplies : managed.Supplies visit.object visit.left.object requirement)
    {stored : managed.Resource} (hstored : (view after).current = some stored) :
    managed.meets stored requirement = true := by
  obtain ⟨hmarks, -⟩ := (marks_of_visit hserves hvisit hkeeps hstored).2 hclosed
  exact (Managed.meets_of_marks hrequired hmarks).trans hsupplies.met

/-- Each pass that wants to come back at once leaves the object lacking less, and no normal pass
leaves it lacking more. -/
theorem Serves.lacking_of_visit (hserves : world.Serves view others)
    (hvisit : world.visit managed settings «namespace» name w = (some visit, after))
    (hkeeps : others.Keeps managed.marks) (hnormal : visit.Normal)
    (hcluster : visit.opened.cluster = some cluster) :
    (view after).lacking cluster + (if visit.answer = .ok .immediate then 1 else 0) ≤
      (view w).lacking cluster := by
  obtain ⟨stages⟩ := stages_of_visit hvisit
  have hsetsUp := stages.setsUp hnormal hcluster
  obtain ⟨given, hgiven, hfetched⟩ := hserves.part_of_fetched hkeeps hvisit
  have hbefore : (view w).lacking cluster = managed.lacking cluster visit.object := by
    rw [Timeline.lacking_of_current hgiven, Managed.lacking_of_marks hfetched]
  have hleft : managed.lacking cluster visit.left.object ≤
      managed.lacking cluster visit.object := Managed.countP_missing_le hsetsUp.keeps
  have hsupplied (himmediate : visit.answer = .ok .immediate) :
      managed.lacking cluster visit.left.object < managed.lacking cluster visit.object := by
    obtain ⟨requirement, hrequired, hsupplies⟩ :=
      hsetsUp.supplies (Visit.answer_eq_ok_iff.mp himmediate).1
    exact Managed.lacking_lt hrequired hsupplies hsetsUp.keeps
  rw [hbefore]
  rcases hafter : (view after).current with _ | stored
  · simp only [Timeline.lacking, hafter, Option.map_none, Option.getD_none]
    split
    · next himmediate => exact Nat.lt_of_le_of_lt (Nat.zero_le _) (hsupplied himmediate)
    · exact Nat.zero_le _
  · obtain ⟨hstored, hclosed⟩ := marks_of_visit hserves hvisit hkeeps hafter
    rw [Timeline.lacking_of_current hafter]
    split
    · next himmediate =>
      rw [Managed.lacking_of_marks (hclosed (Visit.answer_eq_ok_iff.mp himmediate).2).1]
      exact hsupplied himmediate
    · rcases hstored with hsame | hwanted
      · exact Nat.le_of_eq (Managed.lacking_of_marks hsame)
      · exact Nat.le_trans (Nat.le_of_eq (Managed.lacking_of_marks hwanted)) hleft

/-- Over a run of normal passes, the passes that want to come back at once are paid for by what the
object lacked at first. -/
theorem Run.countP_immediate_le (hserves : world.Serves view others) {first last : W}
    {stages : List (Stage managed W)} (hkeeps : others.Keeps managed.marks)
    (hrun : world.Run view others first stages last)
    (hstages : ∀ stage ∈ stages, stage.visit.Normal ∧ stage.visit.opened.cluster = some cluster) :
    (view last).lacking cluster + stages.countP (fun stage => stage.visit.answer = .ok .immediate) ≤
      (view first).lacking cluster := by
  induction hrun using Run.drift_induction with
  | serves => exact hserves
  | start => simp
  | visited settings hrun hvisit ih =>
      have hearlier := ih fun stage hmem => hstages stage (List.mem_append_left _ hmem)
      obtain ⟨hnormal, hcluster⟩ :=
        hstages _ (List.mem_append_right _ (List.mem_singleton_self _))
      have hpass := hserves.lacking_of_visit hvisit hkeeps hnormal hcluster
      simp only [List.countP_append, List.countP_cons, List.countP_nil, decide_eq_true_eq]
      omega
  | @drifted before after stages hrun hdrifts ih =>
      have hdrift : (view after).lacking cluster ≤ (view before).lacking cluster :=
        Timeline.Drifts.lacking_le hkeeps hdrifts
      exact Nat.le_trans (Nat.add_le_add_right hdrift _) (ih hstages)

/-- A pass makes a call only if the object that it fetched has the finalizer and, unless it is being
deleted, its cluster as the owner.  A pass that wants to come back at once has supplied one of the
two, and has stored it unless the object was gone before.  Over a run of normal passes whose cluster
stays the same, while other writers keep the marks, at most two passes want to come back at once. -/
theorem setup_settles (world : World W) (managed : Managed) («namespace» name : String) :
    (∀ settings w visit after,
      world.visit managed settings «namespace» name w = (some visit, after) → visit.Calls →
      managed.hasFinalizer visit.object = true ∧
        (visit.Normal → ∃ cluster, visit.opened.cluster = some cluster ∧
          managed.SetUp cluster visit.object)) ∧
    (∀ (view : W → Timeline managed «namespace» name) others, world.Serves view others →
      (∀ settings w after,
        world.pass managed settings «namespace» name w = (.ok .immediate, after) →
        ∃ visit cluster, world.visit managed settings «namespace» name w = (some visit, after) ∧
          visit.Normal ∧ visit.opened.cluster = some cluster ∧
          ∃ requirement ∈ managed.requirements cluster,
            managed.Supplies visit.object visit.left.object requirement ∧
            (Scope.Gone others (view after) ∨ ∃ newer writer older,
              (view after).versions = newer ++ ⟨writer, visit.object⟩ :: older ∧
              ∃ version ∈ newer, managed.meets version.object requirement = true) ∧
            (others.Keeps managed.marks → ∀ stored, (view after).current = some stored →
              managed.meets stored requirement = true)) ∧
      (others.Keeps managed.marks → ∀ cluster first stages last,
        world.Run view others first stages last →
        (∀ stage ∈ stages, stage.visit.Normal ∧ stage.visit.opened.cluster = some cluster) →
        stages.countP (fun stage => stage.visit.answer = .ok .immediate) ≤ 2)) := by
  refine ⟨fun settings w visit after hvisit hcalls => ?_, fun view others hserves =>
    ⟨fun settings w after hpass => ?_, fun hkeeps cluster first stages last hrun hstages => ?_⟩⟩
  · obtain ⟨stages⟩ := stages_of_visit hvisit
    exact stages.setUp_of_calls hcalls
  · rcases visit_or_absent_of_pass hpass with ⟨visit, hvisit, hanswer⟩ | ⟨habsent, -⟩
    · obtain ⟨himmediate, hclosed⟩ := Visit.answer_eq_ok_iff.mp hanswer
      obtain ⟨stages⟩ := stages_of_visit hvisit
      have hnormal := stages.normal_of_immediate himmediate
      obtain ⟨cluster, hcluster⟩ := exists_cluster_of_normal hnormal stages.open_eq
      obtain ⟨requirement, hrequired, hsupplies⟩ :=
        (stages.setsUp hnormal hcluster).supplies himmediate
      exact ⟨visit, cluster, hvisit, hnormal, hcluster, requirement, hrequired, hsupplies,
        hserves.supplied_of_visit hvisit hclosed hsupplies, fun hkeeps stored hstored =>
          hserves.meets_of_visit hvisit hkeeps hclosed hrequired hsupplies hstored⟩
    · simp at habsent
  · have hcounted := Run.countP_immediate_le hserves hkeeps hrun hstages
    have hfirst : (view first).lacking cluster ≤ 2 := Timeline.lacking_le
    omega

end World

/-- An image that nobody has marked yet. -/
def Bench.unmarked : Bench :=
  holding { image with
    metadata := { image.metadata with finalizers := none, ownerReferences := none } } (by decide)

theorem World.setup_settles_unmarked : ∃ stages last first third stored requirement,
    Bench.hanging.Run Bench.timeline Conduct.gentle Bench.unmarked stages last ∧
    stages.map (·.visit.answer) = [.ok .immediate, .ok .immediate, .ok .none] ∧
    stages.countP (fun stage => stage.visit.answer = .ok .immediate) ≤ 2 ∧
    stages.head?.map (·.visit) = some first ∧
    (Bench.unmarked.passed Bench.hanging).timeline.current = some stored ∧
    Managed.image.meets first.object requirement = false ∧
    Managed.image.meets stored requirement = true ∧
    stages.getLast?.map (·.visit) = some third ∧
    Managed.image.SetUp Bench.cluster third.object := by
  obtain ⟨hcalls, hserved⟩ := setup_settles Bench.hanging .image "default" "boot"
  obtain ⟨hsupplied, hbounded⟩ := hserved _ _ (Bench.serves _ _ _)
  have hkeeps : Conduct.gentle.Keeps Managed.image.marks := Conduct.gentle_keeps.comp Prod.fst
  obtain ⟨first, hfirst, himmediate, hnormal, hcluster⟩ : ∃ visit,
      Bench.hanging.visit .image {} "default" "boot" Bench.unmarked = (some visit, _) ∧
      visit.answer = .ok .immediate ∧ visit.object.metadata.isDeleting = false ∧
      visit.opened.cluster = some Bench.cluster :=
    Bench.exists_visit (by decide +kernel)
  obtain ⟨second, hsecond, hagain, hsecondNormal, hsecondCluster⟩ : ∃ visit,
      Bench.hanging.visit .image {} "default" "boot" (Bench.unmarked.passed Bench.hanging) =
        (some visit, _) ∧
      visit.answer = .ok .immediate ∧ visit.object.metadata.isDeleting = false ∧
      visit.opened.cluster = some Bench.cluster :=
    Bench.exists_visit (by decide +kernel)
  obtain ⟨third, hthird, hready, hcalled, hthirdNormal, hthirdCluster⟩ : ∃ visit,
      Bench.hanging.visit .image {} "default" "boot"
        ((Bench.unmarked.passed Bench.hanging).passed Bench.hanging) = (some visit, _) ∧
      visit.answer = .ok .none ∧ visit.Calls ∧ visit.object.metadata.isDeleting = false ∧
      visit.opened.cluster = some Bench.cluster :=
    Bench.exists_visit (by decide +kernel)
  have hrun : Bench.hanging.Run Bench.timeline Conduct.gentle Bench.unmarked _ _ :=
    .visited {} (.visited {} (.visited {} (.start _) hfirst) hsecond) hthird
  obtain ⟨stored, hstored, -⟩ : ∃ image,
      (Bench.unmarked.passed Bench.hanging).timeline.current = some image ∧ True :=
    Bench.exists_current (by decide +kernel)
  obtain ⟨visit, _, hvisit, -, -, requirement, -, hsupplies, -, hmeets⟩ :=
    hsupplied {} _ _ (by rw [pass_eq_answer hfirst, himmediate])
  obtain rfl : visit = first := Option.some.inj (congrArg Prod.fst (hvisit.symm.trans hfirst))
  obtain ⟨-, hsetUp⟩ := hcalls {} _ _ _ hthird hcalled
  obtain ⟨cluster, hopened, hsetUp⟩ := hsetUp hthirdNormal
  obtain rfl : cluster = Bench.cluster := Option.some.inj (hopened.symm.trans hthirdCluster)
  refine ⟨_, _, visit, third, stored, requirement, hrun, by simp [himmediate, hagain, hready],
    hbounded hkeeps Bench.cluster _ _ _ hrun ?_, rfl, hstored, hsupplies.missing,
    hmeets hkeeps stored hstored, rfl, hsetUp⟩
  simp [Visit.Normal, hnormal, hsecondNormal, hthirdNormal, hcluster, hsecondCluster,
    hthirdCluster]

end Reconciler
