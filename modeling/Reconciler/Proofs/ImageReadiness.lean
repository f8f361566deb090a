import Reconciler.Proofs.Asking
import Reconciler.Proofs.Conditions
import Reconciler.Proofs.History
import Reconciler.Proofs.ImportJob

/-!
# Readiness of images

A normal pass that finds its image says that it is ready exactly if it is active, and drops the job.
A pass that follows a job says that the image is not ready, which is coherent as long as no job is
on record for a ready image.  A job that is started for an image that was ready, but is not listed
any more, breaks that.
-/

namespace Reconciler

namespace ImageStatus

/-- The record that a ready image has behind it. -/
structure Backed (status : ImageStatus) : Prop where
  active : status.imageState = some .active
  imageId : status.imageId.isSome = true
  jobId : status.jobId = none

/-- The image is ready exactly if its condition says so, and only with the record for it. -/
structure Coherent (status : ImageStatus) : Prop where
  condition : status.ready = true ↔ status.conditions.holds Image.imageReady = true
  backed : status.ready = true → status.Backed

variable {status : ImageStatus}

theorem Coherent.of_unready (hready : status.ready = false)
    (hcondition : status.conditions.holds Image.imageReady = false) : status.Coherent :=
  ⟨by simp [hready, hcondition], fun hthis => by simp [hready] at hthis⟩

/-- The status of an image that has none yet. -/
theorem coherent_default : (default : ImageStatus).Coherent := .of_unready rfl rfl

theorem Coherent.holds_eq_false (hcoherent : status.Coherent) (hready : status.ready = false) :
    status.conditions.holds Image.imageReady = false := by
  have hnot : ¬status.conditions.holds Image.imageReady = true := by
    rw [← hcoherent.condition, hready]
    simp
  simpa using hnot

end ImageStatus

namespace Image

open ImageStatus (Coherent)
open Step (Keeps)
open Time (Instant)

variable {status : ImageStatus}

/-- All of a status but the workspace. -/
def workspaceless (status : ImageStatus) : ImageStatus := { status with workspace := none }

theorem workspaceless_coherent_iff : (workspaceless status).Coherent ↔ status.Coherent :=
  ⟨fun hcoherent => ⟨hcoherent.condition, fun hready =>
      let hbacked := hcoherent.backed hready
      ⟨hbacked.active, hbacked.imageId, hbacked.jobId⟩⟩,
    fun hcoherent => ⟨hcoherent.condition, fun hready =>
      let hbacked := hcoherent.backed hready
      ⟨hbacked.active, hbacked.imageId, hbacked.jobId⟩⟩⟩

theorem coherent_imported (hcoherent : status.Coherent) (now : Instant) :
    (withConditions (·.markTrue imported now) status).Coherent := by
  have hholds := Conditions.holds_markTrue_of_ne (by decide : imported ≠ imageReady) now
    status.conditions
  refine ⟨?_, fun hready => ?_⟩
  · rw [withConditions, hholds]
    exact hcoherent.condition
  · obtain ⟨hactive, himageId, hjobId⟩ := hcoherent.backed hready
    exact ⟨hactive, himageId, hjobId⟩

/-- What is said of a job leaves an image that is not ready so. -/
theorem coherent_importing (hcoherent : status.Coherent) (hready : status.ready = false)
    (state : ImageState) (reason : String) (severity : ConditionSeverity) (message : String)
    (now : Instant) : (importing state reason severity message now status).Coherent := by
  refine .of_unready rfl ?_
  exact (Conditions.holds_markFalse_of_ne (by decide : imported ≠ imageReady) _ _ _ _ _).trans
    (hcoherent.holds_eq_false hready)

theorem coherent_started (hcoherent : status.Coherent) (hready : status.ready = false)
    (id : String) (now : Instant) : (started id now status).Coherent := by
  refine .of_unready hready ?_
  exact (Conditions.holds_markFalse_of_ne (by decide : imported ≠ imageReady) _ _ _ _ _).trans
    (hcoherent.holds_eq_false hready)

theorem coherent_notReady (now : Instant) (status : ImageStatus) : (notReady now status).Coherent :=
  .of_unready rfl (by simp [notReady, withConditions])

theorem coherent_unknownState (message : String) (now : Instant) (status : ImageStatus) :
    (unknownState message now status).Coherent :=
  .of_unready rfl (by simp [unknownState, withConditions])

/-- An image that has been found active may be called ready. -/
theorem coherent_nowReady {found : BootImage} (hactive : found.state = .active) (now : Instant)
    (status : ImageStatus) : (nowReady now (located found status)).Coherent := by
  refine ⟨by simp [nowReady, withConditions], fun _ => ⟨?_, rfl, rfl⟩⟩
  exact congrArg some hactive

section

variable {S : Type} {environment : Environment (outside .image) S}

/-- A pass that follows a job keeps a coherent status so.  It goes on with the image only while it
has said nothing about its readiness. -/
theorem reconcileJob_coherent (surroundings : Surroundings) (image : Image) (start : S) :
    (reconcileJob surroundings image).Ensures environment (fun after outcome _ =>
      (image.standing.Coherent → after.standing.Coherent) ∧
        (outcome = .returned (.ok none) → after.standing.ready = image.standing.ready)) start := by
  unfold reconcileJob
  simp only [Action.ensures_bind, Action.ensures_get, Outcome.follow_ok]
  rcases hjob : image.jobId with _ | id
  · exact ⟨id, fun _ => rfl⟩
  · -- A coherent image with a job on record is not ready.
    have hunready (hcoherent : image.standing.Coherent) : image.standing.ready = false := by
      by_contra hready
      have hnone := (hcoherent.backed (by simpa using hready)).jobId
      rcases hstatus : image.status with _ | status <;>
        simp [jobId, Object.standing, hstatus] at hjob hnone
      simp [hnone] at hjob
    simp only [Action.ensures_bind, Body.ensures_attempt]
    rintro ((error | job) | _ | text) after -
    · exact ⟨fun hcoherent => hcoherent, by simp⟩
    · simp only [Outcome.resume_returned, Outcome.follow_ok]
      rcases job.state with _ | word | _ | _ | word
      · exact ⟨fun hcoherent => coherent_importing hcoherent (hunready hcoherent) .., by simp⟩
      · exact ⟨fun hcoherent => coherent_importing hcoherent (hunready hcoherent) .., by simp⟩
      · exact ⟨fun hcoherent => coherent_imported hcoherent _, fun _ => rfl⟩
      · exact ⟨fun hcoherent => coherent_importing hcoherent (hunready hcoherent) .., by simp⟩
      · exact ⟨fun hcoherent => coherent_importing hcoherent (hunready hcoherent) .., by simp⟩
    · exact ⟨fun hcoherent => hcoherent, by simp⟩
    · exact ⟨fun hcoherent => hcoherent, by simp⟩

end

/-- A job was started. -/
def Starts (seen : List OfImage) : Prop := ∃ exchange ∈ seen, ∃ id, exchange.StartsJob id

theorem not_starts_of_quiet {seen : List OfImage} (hquiet : ∀ exchange ∈ seen, exchange.Quiet) :
    ¬Starts seen := by
  rintro ⟨exchange, hmem, id, hstarts⟩
  exact (hquiet exchange hmem).1 hstarts.asksImport

theorem starts_append_iff {early late : List OfImage} :
    Starts (early ++ late) ↔ Starts early ∨ Starts late := by
  simp only [Starts, List.mem_append, or_and_right, exists_or]

/-- What looking for the image does to it: nothing, unless a job was started. -/
theorem getOrCreate_starts (now : Instant) (image : Image) :
    (getOrCreate now image).Ensures (.recording _) (fun after outcome seen =>
      (¬Starts seen ∧ after = image) ∨
        (Starts seen ∧ outcome = .returned (.ok none) ∧
          ∃ id, after = image.mapStatus (started id now))) [] := by
  unfold getOrCreate
  rw [Action.ensures_bind, Action.ensures_get, Outcome.follow_ok, Action.ensures_bind,
    Body.ensures_callFor]
  rintro listed _ rfl
  have hlisted : ¬Starts ([] ++ [⟨.cloud .getAllImages, listed⟩]) :=
    not_starts_of_quiet (by simp [Exchange.Quiet, Exchange.AsksImport, Exchange.LocatesImage])
  rcases listed with (error | listing) | _ | text
  · exact .inl ⟨hlisted, rfl⟩
  · rw [Outcome.mapError_ok, Outcome.follow_ok]
    rcases List.find? (fun reference : ImageReference =>
      reference.name == image.metadata.nameAny) listing with _ | found
    · dsimp only
      split
      · exact .inl ⟨hlisted, rfl⟩
      · rw [Action.ensures_bind, Action.ensures_ofExcept]
        rcases image.importRequest with error | request
        · exact .inl ⟨hlisted, rfl⟩
        · rw [Outcome.follow_ok, Action.ensures_bind, Body.ensures_callFor]
          rintro ending _ rfl
          have hasked : Starts (([] ++ [⟨.cloud .getAllImages, .returned (.ok listing)⟩]) ++
              [⟨.cloud (.createImportJob request), ending⟩]) ↔
                ∃ id, ending = .returned (.ok id) := by
            rw [starts_append_iff, or_iff_right hlisted]
            simp [Starts, Exchange.StartsJob]
          rcases ending with (error | id) | _ | text
          · exact .inl ⟨hasked.not.mpr (by simp), rfl⟩
          · exact .inr ⟨hasked.mpr ⟨id, rfl⟩, rfl, id, rfl⟩
          · exact .inl ⟨hasked.not.mpr (by simp), rfl⟩
          · exact .inl ⟨hasked.not.mpr (by simp), rfl⟩
    · exact .inl ⟨hlisted, rfl⟩
  · exact .inl ⟨hlisted, rfl⟩
  · exact .inl ⟨hlisted, rfl⟩

/-- An image that is looked at is coherent afterwards, and no job is started. -/
theorem reconcileImage_coherent (surroundings : Surroundings) (id : String) (image : Image) :
    (reconcileImage surroundings id image).Ensures (.recording _) (fun after _ seen =>
      ¬Starts seen ∧ (image.standing.Coherent → after.standing.Coherent)) [] := by
  unfold reconcileImage
  rw [Action.ensures_bind, Body.ensures_callFor]
  rintro ending _ rfl
  have hlooked : ¬Starts ([] ++ [⟨.cloud (.getImage id), ending⟩]) := by
    simp [Starts, Exchange.StartsJob]
  rcases ending with (error | found) | _ | text
  · exact ⟨hlooked, fun hcoherent => hcoherent⟩
  · rw [Outcome.mapError_ok, Outcome.follow_ok]
    simp only [Action.ensures_bind, update, Action.ensures_modify, Outcome.follow_ok]
    rcases hstate : found.state with _ | _ | _ | _ | word
    · exact ⟨hlooked, fun _ => coherent_notReady _ _⟩
    · exact ⟨hlooked, fun _ => coherent_unknownState _ _ _⟩
    · exact ⟨hlooked, fun _ => coherent_nowReady hstate _ _⟩
    · exact ⟨hlooked, fun _ => coherent_unknownState _ _ _⟩
    · exact ⟨hlooked, fun _ => coherent_unknownState _ _ _⟩
  · exact ⟨hlooked, fun hcoherent => hcoherent⟩
  · exact ⟨hlooked, fun hcoherent => hcoherent⟩

/-- What a pass makes of the readiness of an image.  A job that was started has left it alone, and
is on record; without one for a ready image, a coherent status stays so. -/
structure Sustains (image after : Image) (seen : List OfImage) : Prop where
  starts : Starts seen →
    after.standing.ready = image.standing.ready ∧ after.standing.jobId.isSome = true
  coherent : image.standing.Coherent → (image.standing.ready = true → ¬Starts seen) →
    after.standing.Coherent

variable {image after polled : Image} {early late seen : List OfImage}

theorem Sustains.of_not_starts (hquiet : ¬Starts seen)
    (hcoherent : image.standing.Coherent → after.standing.Coherent) : Sustains image after seen :=
  ⟨fun hstarts => absurd hstarts hquiet, fun hthis _ => hcoherent hthis⟩

theorem owned_sustains (surroundings : Surroundings) (image : Image) :
    (owned surroundings image).Ensures (.recording _)
      (fun after _ seen => Sustains image after seen) [] := by
  unfold owned
  rw [Action.ensures_bind]
  apply ((reconcileJob_ensures surroundings image).and
    (reconcileJob_coherent surroundings image [])).mono
  rintro polled outcome polls ⟨⟨-, hpolls⟩, hcoherent, hready⟩
  have hpolling : ¬Starts polls := not_starts_of_quiet fun exchange hmem =>
    Exchange.quiet_of_asksJob (hpolls exchange hmem)
  have hended : Sustains image polled polls := .of_not_starts hpolling hcoherent
  rcases outcome with (error | _ | requeue) | _ | text
  · exact hended
  · rw [Outcome.follow_ok]
    dsimp only
    rw [Action.ensures_bind]
    apply ((getOrCreate_starts surroundings.now polled).recording polls).mono
    rintro _ outcome _ ⟨listed, rfl, ⟨hquiet, rfl⟩ | ⟨hstarts, rfl, id, rfl⟩⟩
    · have hlooked : ¬Starts (polls ++ listed) := by
        rw [starts_append_iff]
        exact not_or.mpr ⟨hpolling, hquiet⟩
      have hunfound : Sustains image _ (polls ++ listed) := .of_not_starts hlooked hcoherent
      rcases outcome with (error | _ | id) | _ | text
      · exact hunfound
      · exact hunfound
      · rw [Outcome.follow_ok]
        apply ((reconcileImage_coherent surroundings id _).recording (polls ++ listed)).mono
        rintro after outcome _ ⟨late, rfl, hlate, hlooks⟩
        refine .of_not_starts ?_ (hlooks ∘ hcoherent)
        rw [starts_append_iff]
        exact not_or.mpr ⟨hlooked, hlate⟩
      · exact hunfound
      · exact hunfound
    · refine ⟨fun _ => ⟨hready rfl, rfl⟩, fun hthis hidle => ?_⟩
      have hunready : image.standing.ready = false := by
        by_contra hthis
        refine hidle (by simpa using hthis) ?_
        rw [starts_append_iff]
        exact .inr hstarts
      exact coherent_started (hcoherent hthis) ((hready rfl).trans hunready) id _
  · exact hended
  · exact hended
  · exact hended

theorem keeps_workspaceless_recordWorkspace (cluster : Option PowerVsCluster) :
    Keeps (fun image : Image => workspaceless image.standing) (recordWorkspace cluster) := by
  unfold recordWorkspace
  apply Keeps.get.bind
  intro image
  split
  · exact Keeps.pure _
  · dsimp only
    split
    · exact Keeps.pure _
    · exact Keeps.modify fun _ => rfl

/-- Where its workspace is on record makes no difference to the readiness of an image. -/
theorem Sustains.of_workspaceless {fetched : Image} (hsustains : Sustains image after seen)
    (hsame : workspaceless image.standing = workspaceless fetched.standing) :
    Sustains fetched after seen := by
  have hready : image.standing.ready = fetched.standing.ready := by
    change (workspaceless image.standing).ready = _
    rw [hsame]
    rfl
  have hcoherent : image.standing.Coherent ↔ fetched.standing.Coherent := by
    rw [← workspaceless_coherent_iff, hsame, workspaceless_coherent_iff]
  exact ⟨fun hstarts => hready ▸ hsustains.starts hstarts, fun hfetched hidle =>
    hsustains.coherent (hcoherent.mpr hfetched) fun hthis => hidle (hready ▸ hthis)⟩

theorem reconcileNormal_sustains (surroundings : Surroundings) (fetched : Image) :
    (reconcileNormal surroundings fetched).Ensures (.recording _)
      (fun after _ seen => Sustains fetched after seen) [] := by
  have hidle {image : Image}
      (hsame : workspaceless image.standing = workspaceless fetched.standing) :
      Sustains fetched image [] :=
    (Sustains.of_not_starts (not_starts_of_quiet (by simp)) id).of_workspaceless hsame
  rw [reconcileNormal_eq, Action.ensures_bind]
  apply (Body.takeOwnership_ensures surroundings.cluster fetched []).mono
  rintro marked outcome _ ⟨howns, rfl⟩
  have hmarked : marked.standing = fetched.standing := by
    rw [Object.standing, howns.status, Object.standing]
  rcases outcome with (error | _ | _) | _ | text
  · exact hidle (by rw [hmarked])
  · rw [Outcome.follow_ok, if_neg Bool.false_ne_true, Action.ensures_bind]
    apply ((recordWorkspace_ensures surroundings.cluster marked []).and
      ((keeps_workspaceless_recordWorkspace surroundings.cluster marked).anywhere [])).mono
    rintro image _ _ ⟨⟨-, rfl, rfl⟩, hworkspaceless⟩
    rw [Outcome.follow_ok]
    apply (owned_sustains surroundings image).mono
    rintro after outcome seen hsustains
    exact hsustains.of_workspaceless (hworkspaceless.trans (congrArg workspaceless hmarked))
  · exact hidle (by rw [hmarked])
  · exact hidle (by rw [hmarked])
  · exact hidle (by rw [hmarked])

end Image

/-- The pass starts an import job for an image that was ready when it was fetched. -/
def Visit.Reimports (visit : Visit .image) : Prop :=
  (Object.standing visit.object).ready = true ∧ Image.Starts visit.exchanges

namespace World

open ImageStatus (Coherent)

variable {W : Type} {«namespace» name : String} {world : World W}

theorem Stages.sustains {settings : Settings} {w after : W} {visit : Visit .image}
    (stages : world.Stages settings «namespace» name w visit after) :
    Image.Sustains visit.object visit.left.object visit.exchanges := by
  rcases hdeleting : visit.object.metadata.isDeleting with _ | _
  · exact stages.of_reconcileNormal hdeleting fun _ =>
      Image.reconcileNormal_sustains _ visit.object
  · have hquiet : ∀ exchange ∈ visit.exchanges, exchange.Quiet :=
      stages.of_reconcileDelete hdeleting fun surroundings =>
        Image.reconcileDelete_quiet surroundings visit.object
    refine .of_not_starts (Image.not_starts_of_quiet hquiet) fun hcoherent => ?_
    rwa [Object.standing, stages.status_of_deleting hdeleting]

/-- A pass that imports a ready image again leaves it ready, with a job on record. -/
theorem Stages.not_coherent_of_reimports {settings : Settings} {w after : W}
    {visit : Visit .image} (stages : world.Stages settings «namespace» name w visit after)
    (hreimports : visit.Reimports) : ¬(Object.standing visit.left.object).Coherent := by
  intro hleft
  obtain ⟨hkept, hjob⟩ := stages.sustains.starts hreimports.2
  have hnone := (hleft.backed (hkept.trans hreimports.1)).jobId
  simp [hnone] at hjob

theorem coherent_iff_standing (status : Option ImageStatus) :
    (∀ known, status = some known → known.Coherent) ↔ (status.getD default).Coherent := by
  rcases status with _ | known
  · simpa using ImageStatus.coherent_default
  · simp

/-- Over any run of passes over an image that starts without a status, every status that is stored
is coherent exactly unless a pass that imported a ready image again came to store its status:
ready exactly if its condition is true, and if so, active, with an image id and no job on record. -/
theorem image_readiness_coherent_iff {view : W → Timeline .image «namespace» name}
    {others : Conduct .image} {first last : W} {stages : List (Stage .image W)}
    (hserves : world.Serves view others) (hspares : others.SparesStatus)
    (hrun : world.Run view others first stages last)
    (hfirst : ∀ image, (view first).current = some image → image.status = none) :
    (∀ image ∈ (view first).stored (view last), ∀ status, image.status = some status →
      ImageStatus.Coherent status) ↔
      ∀ stage ∈ stages, stage.visit.Reimports → ¬stage.Saves view := by
  constructor
  · rintro hcoherent stage hmem hreimports ⟨version, hversion, hsame⟩
    obtain ⟨settings, hvisit⟩ := hrun.visit_of_mem hmem
    obtain ⟨taken⟩ := stages_of_visit hvisit
    have hstored := (coherent_iff_standing _).mp
      (hcoherent _ (hrun.mem_stored_of_stage hserves hmem hversion))
    rw [hsame] at hstored
    exact taken.not_coherent_of_reimports hreimports hstored
  · intro hspared image hmem
    refine (coherent_iff_standing _).mpr (hrun.forall_status
      (fun status => (status.getD default : ImageStatus).Coherent) hserves hspares
      ImageStatus.coherent_default
      (fun image hcurrent => by rw [hfirst image hcurrent]; exact ImageStatus.coherent_default)
      (fun stage hstage hfetched hsaved => ?_) image hmem)
    obtain ⟨settings, hvisit⟩ := hrun.visit_of_mem hstage
    obtain ⟨taken⟩ := stages_of_visit hvisit
    exact taken.sustains.coherent hfetched fun hready hstarts =>
      hspared stage hstage ⟨hready, hstarts⟩ hsaved

/-- An image that is imported once, and found when its job is over, is ready with no job on
record. -/
theorem image_readiness_coherent_imported : ∃ stages last image status,
    Bench.losing.Run Bench.timeline Conduct.gentle Bench.fresh stages last ∧
    image ∈ Bench.fresh.timeline.stored last.timeline ∧ image.status = some status ∧
    ImageStatus.ready status = true ∧ ImageStatus.Coherent status := by
  obtain ⟨starting, hstarting, hfirst⟩ : ∃ visit,
      Bench.losing.visit .image {} "default" "boot" Bench.fresh = (some visit, _) ∧
      (Object.standing visit.object).ready = false :=
    Bench.exists_visit (by decide +kernel)
  obtain ⟨locating, hlocating, hsecond⟩ : ∃ visit,
      Bench.losing.visit .image {} "default" "boot" (Bench.fresh.passed Bench.losing) =
        (some visit, _) ∧ (Object.standing visit.object).ready = false :=
    Bench.exists_visit (by decide +kernel)
  obtain ⟨image, hcurrent, hready⟩ : ∃ image,
      ((Bench.fresh.passed Bench.losing).passed Bench.losing).timeline.current = some image ∧
      image.status.any (fun status => status.ready) = true :=
    Bench.exists_current (by decide +kernel)
  obtain ⟨status, hstatus, hready⟩ := (Option.any_eq_true ..).mp hready
  have hserves : Bench.losing.Serves Bench.timeline Conduct.gentle := Bench.serves _ _ _
  have hrun : Bench.losing.Run Bench.timeline Conduct.gentle Bench.fresh
      ([⟨_, starting, _⟩] ++ [⟨_, locating, _⟩])
      ((Bench.fresh.passed Bench.losing).passed Bench.losing) :=
    (World.Run.visited {} (.start _) hstarting).visited {} hlocating
  have hmem := hrun.mem_stored_of_current hserves hcurrent
  have hcoherent := (image_readiness_coherent_iff hserves
    (Conduct.gentle_keeps.comp Prod.snd).sparesStatus hrun (by rintro _ ⟨⟩; rfl)).mpr ?_
  · exact ⟨_, _, image, status, hrun, hmem, hstatus, hready, hcoherent image hmem status hstatus⟩
  · simp [Visit.Reimports, hfirst, hsecond]

/-- A ready image that disappears from the listing is imported again, and stays ready all the
while. -/
theorem image_readiness_outlives_image : ∃ stages last image status,
    Bench.vanishing.Serves Bench.timeline Conduct.gentle ∧
    Bench.vanishing.Run Bench.timeline Conduct.gentle Bench.fresh stages last ∧
    (∀ image, Bench.fresh.timeline.current = some image → image.status = none) ∧
    image ∈ Bench.fresh.timeline.stored last.timeline ∧ image.status = some status ∧
    ImageStatus.ready status = true ∧ status.jobId = some "job-2" ∧
    ¬ImageStatus.Coherent status := by
  obtain ⟨locating, hlocating, -⟩ : ∃ visit,
      Bench.vanishing.visit .image {} "default" "boot" Bench.fresh = (some visit, _) ∧ True :=
    Bench.exists_visit (by decide +kernel)
  obtain ⟨importing, himporting, -⟩ : ∃ visit,
      Bench.vanishing.visit .image {} "default" "boot" (Bench.fresh.passed Bench.vanishing) =
        (some visit, _) ∧ True :=
    Bench.exists_visit (by decide +kernel)
  obtain ⟨image, hcurrent, hstanding⟩ : ∃ image,
      ((Bench.fresh.passed Bench.vanishing).passed Bench.vanishing).timeline.current = some image ∧
      image.status.any (fun status => status.ready && status.jobId == some "job-2") = true :=
    Bench.exists_current (by decide +kernel)
  obtain ⟨status, hstatus, hboth⟩ := (Option.any_eq_true ..).mp hstanding
  obtain ⟨hready, hjob⟩ : status.ready = true ∧ status.jobId = some "job-2" := by
    simpa using hboth
  have hrun : Bench.vanishing.Run Bench.timeline Conduct.gentle Bench.fresh
      ([⟨_, locating, _⟩] ++ [⟨_, importing, _⟩])
      ((Bench.fresh.passed Bench.vanishing).passed Bench.vanishing) :=
    (World.Run.visited {} (.start _) hlocating).visited {} himporting
  have hserves : Bench.vanishing.Serves Bench.timeline Conduct.gentle := Bench.serves _ _ _
  refine ⟨_, _, image, status, hserves, hrun, by rintro _ ⟨⟩; rfl,
    World.Run.mem_stored_of_current hserves hrun hcurrent, hstatus, hready, hjob,
    fun hcoherent => ?_⟩
  have hnone := (hcoherent.backed hready).jobId
  simp [hnone] at hjob

end World

end Reconciler
