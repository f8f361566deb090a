import Reconciler.Proofs.Bench

/-!
# What a delete pass over an image tears down

A delete pass makes one provider call at most: it deletes the recorded image, or the recorded job
where no image is recorded.  An image that has both on record is let go without its job.
-/

namespace Reconciler

/-- An exchange of a pass over an image. -/
abbrev OfImage := Exchange (outside .image)

namespace Image

/-- The call that takes down what is recorded, if a delete pass makes one. -/
def teardownCall (image : Image) : Option WorkspaceCall :=
  match image.imageId with
  | none => image.jobId.map .deleteJob
  | some id => if image.spec.deletePolicy = .retain then none else some (.deleteImage id)

theorem teardownCall_eq_some {image : Image} {call : WorkspaceCall}
    (hcall : image.teardownCall = some call) :
    (∃ id, call = .deleteJob id) ∨ ∃ id, call = .deleteImage id := by
  unfold teardownCall at hcall
  split at hcall
  · obtain ⟨id, _, rfl⟩ := Option.map_eq_some_iff.mp hcall
    exact .inl ⟨id, rfl⟩
  · next id _ =>
    split at hcall
    · simp at hcall
    · exact .inr ⟨id, (Option.some.inj hcall).symm⟩

/-- The calls that were made are what is planned for the image. -/
def Planned (image : Image) (seen : List OfImage) : Prop :=
  ∀ exchange ∈ seen, ∀ call, exchange.question = .cloud call → image.teardownCall = some call

/-- The planned call was made, if there is one. -/
def Made (image : Image) (seen : List OfImage) : Prop :=
  ∀ call, image.teardownCall = some call → ∃ exchange ∈ seen, exchange.question = .cloud call

theorem planned_nil (image : Image) : image.Planned [] := by
  simp [Planned]

theorem Planned.published {image : Image} {seen : List OfImage} (hplanned : image.Planned seen)
    (event : Event) (regarding : ObjectReference) (ending : Outcome (Except Error Unit)) :
    image.Planned (seen ++ [⟨.publish event regarding, ending⟩]) := by
  intro exchange hmem call hcall
  rcases List.mem_append.mp hmem with hearlier | hlast
  · exact hplanned exchange hearlier call hcall
  · cases List.mem_singleton.mp hlast
    cases hcall

theorem Made.published {image : Image} {seen : List OfImage} (hmade : image.Made seen)
    (event : Event) (regarding : ObjectReference) (ending : Outcome (Except Error Unit)) :
    image.Made (seen ++ [⟨.publish event regarding, ending⟩]) := by
  intro call hcall
  obtain ⟨exchange, hmem, hquestion⟩ := hmade call hcall
  exact ⟨exchange, List.mem_append_left _ hmem, hquestion⟩

/-- How a delete pass over an image may end. -/
def TornDown (image after : Image) (seen : List OfImage) : Prop :=
  image.Planned seen ∧ (Managed.image.hasFinalizer after = false → image.Made seen)

theorem finish_ensures (event : Event) (image : Image) (seen : List OfImage)
    (hplanned : image.Planned seen) (hmade : image.Made seen) :
    ((do
      modify (Managed.image.removeFinalizer ·)
      Body.publish event
      return .none : Pass Requeue) image).Ensures (.recording _)
        (fun after _ seen => image.TornDown after seen) seen := by
  simp only [Action.ensures_bind, Action.ensures_modify, Outcome.follow_ok]
  rintro (result | _ | text) _ rfl
  all_goals exact ⟨hplanned.published _ _ _, fun _ => hmade.published _ _ _⟩

/-- Behind the planned call the image is let go; before it nothing is. -/
theorem remove_ensures (purpose : String) (event : Event) {image : Image} {call : WorkspaceCall}
    (hcall : image.teardownCall = some call) :
    ((do
      Body.remove .image purpose call
      modify (Managed.image.removeFinalizer ·)
      Body.publish event
      return .none : Pass Requeue) image).Ensures (.recording _)
        (fun after _ seen => image.TornDown after seen) [] := by
  rw [Action.ensures_bind, Body.ensures_remove]
  rintro ending _ rfl
  have hplanned : image.Planned ([] ++ [⟨.cloud call, ending⟩]) := by
    intro exchange hmem asked hasked
    cases List.mem_singleton.mp hmem
    cases hasked
    exact hcall
  have hmade : image.Made ([] ++ [⟨.cloud call, ending⟩]) := by
    intro planned hthis
    obtain rfl := Option.some.inj (hcall.symm.trans hthis)
    exact ⟨⟨.cloud call, ending⟩, by simp, rfl⟩
  have hkept : image.TornDown image ([] ++ [⟨.cloud call, ending⟩]) :=
    ⟨hplanned, fun _ => hmade⟩
  rcases ending.removal purpose with (error | _) | _ | text
  · exact hkept
  · exact finish_ensures event image _ hplanned hmade
  · exact hkept
  · exact hkept

/-- A delete pass makes no call but the planned one, and does not let the image go without it. -/
theorem reconcileDelete_tornDown (surroundings : Surroundings) (image : Image)
    (hfinalizer : Managed.image.hasFinalizer image = true) :
    (reconcileDelete surroundings image).Ensures (.recording _)
      (fun after _ seen => image.TornDown after seen) [] := by
  unfold reconcileDelete
  simp only [Action.ensures_bind, Action.ensures_get, Outcome.follow_ok, hfinalizer, Bool.not_true,
    Bool.false_eq_true, if_false]
  by_cases hunknown : (image.ownsCloudState &&
      (image.target surroundings.cluster).serviceInstanceId.isNone) = true
  · rw [if_pos hunknown]
    refine ⟨image.planned_nil, fun hreleased => ?_⟩
    simp [hfinalizer] at hreleased
  · rw [if_neg hunknown]
    have hnothing (hnone : image.teardownCall = none) : image.Made [] := by
      simp [Made, hnone]
    rcases hid : image.imageId with _ | id
    · rcases hjob : image.jobId with _ | id
      · exact finish_ensures _ image [] image.planned_nil
          (hnothing (by simp [teardownCall, hid, hjob]))
      · exact remove_ensures _ _ (by simp [teardownCall, hid, hjob])
    · by_cases hretain : image.spec.deletePolicy = .retain
      · simp only [hretain, bne_self_eq_false, Bool.false_eq_true, if_false]
        exact finish_ensures _ image [] image.planned_nil
          (hnothing (by simp [teardownCall, hid, hretain]))
      · have hdelete : (image.spec.deletePolicy != .retain) = true := by simpa using hretain
        simp only [hdelete, if_true]
        exact remove_ensures _ _ (by simp [teardownCall, hid, hretain])

end Image

/-- Everything that is recorded was taken down: the job, and the image unless it is to be kept. -/
def Image.Covered (image : Image) (seen : List OfImage) : Prop :=
  (∀ id, image.jobId = some id →
    ∃ exchange ∈ seen, exchange.question = .cloud (.deleteJob id) ∧ exchange.WentWell) ∧
  (image.spec.deletePolicy ≠ .retain → ∀ id, image.imageId = some id →
    ∃ exchange ∈ seen, exchange.question = .cloud (.deleteImage id) ∧ exchange.WentWell)

theorem Image.covered_iff {image : Image} {seen : List OfImage} (hplanned : image.Planned seen)
    (hmade : image.Made seen) (hwell : ∀ exchange ∈ seen, exchange.WentWell) :
    image.Covered seen ↔ ¬(image.imageId.isSome = true ∧ image.jobId.isSome = true) := by
  have hcalled (call : WorkspaceCall) : (∃ exchange ∈ seen,
      exchange.question = .cloud call ∧ exchange.WentWell) ↔ image.teardownCall = some call := by
    constructor
    · rintro ⟨exchange, hmem, hquestion, _⟩
      exact hplanned exchange hmem call hquestion
    · intro hcall
      obtain ⟨exchange, hmem, hquestion⟩ := hmade call hcall
      exact ⟨exchange, hmem, hquestion, hwell exchange hmem⟩
  unfold Covered
  simp only [hcalled]
  rcases hid : image.imageId with _ | id <;> rcases hjob : image.jobId with _ | job <;>
    by_cases hretain : image.spec.deletePolicy = .retain <;>
      simp [teardownCall, hid, hjob, hretain]

namespace World

variable {W : Type}

/-- A delete pass that lets an image go has taken down everything on record exactly when it is not
both an image and a job that are recorded. -/
theorem teardown_covers_iff {world : World W} {settings : Settings} {«namespace» name : String}
    {w after : W} {visit : Visit .image}
    (hvisit : world.visit .image settings «namespace» name w = (some visit, after))
    (hdeleting : visit.Deleting) (hfinalizer : Managed.image.hasFinalizer visit.object = true)
    (hreleased : Managed.image.hasFinalizer visit.left.object = false) :
    Image.Covered visit.object visit.exchanges ↔
      ¬((Image.imageId visit.object).isSome = true ∧ (Image.jobId visit.object).isSome = true) := by
  obtain ⟨stages⟩ := stages_of_visit hvisit
  obtain ⟨hplanned, hmade⟩ := stages.of_reconcileDelete hdeleting fun surroundings =>
    Image.reconcileDelete_tornDown surroundings visit.object hfinalizer
  rcases stages.releasedWhen_of_deleting hdeleting hfinalizer with ⟨_, _, hwell⟩ | ⟨hkept, _⟩
  · exact Image.covered_iff hplanned (hmade hreleased) hwell
  · rw [hkept, hfinalizer] at hreleased
    simp at hreleased

end World

/-- The exchange asks for the deletion of a job. -/
def Exchange.deletesJob (exchange : OfImage) : Bool :=
  match exchange.question with
  | .cloud (.deleteJob _) => true
  | _ => false

/-- A provider that lists the image at first and not any more later. -/
def Bench.vanishing : World Bench :=
  world cluster (provider (fun n => if n = 0 then [⟨"img-1", "boot"⟩] else [])
    (.returned (.error (.notFound "image")))) fun _ => none

namespace World

theorem teardown_covers_located : ∃ visit after,
    Bench.vanishing.visit .image {} "default" "boot"
      (Bench.fresh.passed Bench.vanishing).delete = (some visit, after) ∧
    Image.imageId visit.object = some "img-1" ∧ Image.Covered visit.object visit.exchanges := by
  obtain ⟨visit, hvisit, hid, hjob, hdeleting, hfinalizer, hreleased⟩ : ∃ visit,
      Bench.vanishing.visit .image {} "default" "boot"
        (Bench.fresh.passed Bench.vanishing).delete = (some visit, _) ∧
      Image.imageId visit.object = some "img-1" ∧ Image.jobId visit.object = none ∧
      visit.object.metadata.isDeleting = true ∧
      Managed.image.hasFinalizer visit.object = true ∧
      Managed.image.hasFinalizer visit.left.object = false :=
    Bench.exists_visit (by decide +kernel)
  refine ⟨visit, _, hvisit, hid, ?_⟩
  exact (teardown_covers_iff hvisit hdeleting hfinalizer hreleased).mpr (by simp [hjob])

/-- An image that disappears from the listing is imported again while its old record stays.  Both
are on record then, and a delete pass lets the image go and leaves its job behind. -/
theorem teardown_leaves_job : ∃ stages last deletion,
    Bench.vanishing.Serves Bench.timeline Conduct.gentle ∧
    Bench.vanishing.Run Bench.timeline Conduct.gentle Bench.fresh (stages ++ [deletion]) last ∧
    (∀ stage ∈ stages, stage.visit.Normal) ∧ deletion.visit.Deleting ∧
    Managed.image.hasFinalizer deletion.visit.object = true ∧
    Managed.image.hasFinalizer deletion.visit.left.object = false ∧
    ¬Image.Covered deletion.visit.object deletion.visit.exchanges := by
  obtain ⟨locating, hlocating, hfirst⟩ : ∃ visit,
      Bench.vanishing.visit .image {} "default" "boot" Bench.fresh = (some visit, _) ∧
      visit.object.metadata.isDeleting = false :=
    Bench.exists_visit (by decide +kernel)
  obtain ⟨importing, himporting, hsecond⟩ : ∃ visit,
      Bench.vanishing.visit .image {} "default" "boot" (Bench.fresh.passed Bench.vanishing) =
        (some visit, _) ∧ visit.object.metadata.isDeleting = false :=
    Bench.exists_visit (by decide +kernel)
  obtain ⟨deleting, hdeleting, hjob, hcalls, hdeletion, hfinalizer, hreleased⟩ : ∃ visit,
      Bench.vanishing.visit .image {} "default" "boot"
        ((Bench.fresh.passed Bench.vanishing).passed Bench.vanishing).delete = (some visit, _) ∧
      Image.jobId visit.object = some "job-2" ∧
      visit.exchanges.any Exchange.deletesJob = false ∧
      visit.object.metadata.isDeleting = true ∧
      Managed.image.hasFinalizer visit.object = true ∧
      Managed.image.hasFinalizer visit.left.object = false :=
    Bench.exists_visit (by decide +kernel)
  have hlocated : Bench.vanishing.Run Bench.timeline Conduct.gentle Bench.fresh _ _ :=
    .visited {} (.start _) hlocating
  have himported := hlocated.visited {} himporting
  have hdeleted := (himported.meanwhile (Bench.drifts_meddle _ _)).visited {} hdeleting
  refine ⟨_, _, _, Bench.serves _ _ _, hdeleted, ?_, hdeletion, hfinalizer, hreleased, ?_⟩
  · intro stage hstage
    simp only [List.nil_append, List.cons_append, List.mem_cons, List.not_mem_nil, or_false]
      at hstage
    rcases hstage with rfl | rfl
    · exact hfirst
    · exact hsecond
  · rintro ⟨hcovered, _⟩
    obtain ⟨exchange, hmem, hquestion, _⟩ := hcovered "job-2" hjob
    have hother := List.any_eq_false.mp hcalls exchange hmem
    simp [Exchange.deletesJob, hquestion] at hother

end World

end Reconciler
