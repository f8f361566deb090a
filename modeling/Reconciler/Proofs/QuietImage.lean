import Reconciler.Proofs.Conditions
import Reconciler.Proofs.Rest

/-!
# Images at rest

A normal pass over an image that changes nothing at the provider follows the import job and looks
for the image.  When it finds the image it drops the job, and the next pass then goes straight to
the image; otherwise the next pass follows the same job again.
-/

namespace Reconciler.Image

open Step (Calms Determined Ends Keeps Never Rests Settled Settles)
open Time (Instant)

theorem settles_importing (state : ImageState) (reason : String) (severity : ConditionSeverity)
    (message : String) : Settles (importing state reason severity message) :=
  fun earlier later status =>
    congrArg (fun conditions : Conditions => { status with
      ready := false, imageState := some state, conditions })
      (Conditions.markFalse_markFalse _ _ _ _ earlier later status.conditions)

theorem settles_imported :
    Settles fun now => withConditions (Conditions.markTrue imported now) :=
  fun earlier later status =>
    congrArg (fun conditions : Conditions => { status with conditions })
      (Conditions.markTrue_markTrue _ earlier later status.conditions)

theorem settles_notReady : Settles notReady := fun earlier later status =>
  congrArg (fun conditions : Conditions => { status with ready := false, conditions })
    (Conditions.markFalse_markFalse _ _ _ _ earlier later status.conditions)

theorem settles_nowReady : Settles nowReady := fun earlier later status =>
  congrArg (fun conditions : Conditions => { status with ready := true, conditions })
    (Conditions.markTrue_markTrue _ earlier later status.conditions)

theorem settles_unknownState (message : String) : Settles (unknownState message) :=
  fun earlier later status =>
    congrArg (fun conditions : Conditions => { status with ready := false, conditions })
      (Conditions.markUnknown_markUnknown _ _ _ earlier later status.conditions)

variable {reads : Reads .image}

/-- Records how far an import job has come. -/
def recordJob (surroundings : Surroundings) (job : Job) : Pass (Option Requeue) := do
  let poll := surroundings.settings.jobPoll
  let now := surroundings.now
  match job.state with
  | .completed =>
    update (withConditions (·.markTrue imported now))
    return none
  | .failed =>
    update (importing .failed importFailed .error job.message now)
    throw (.requeue poll (.importFailed job.message))
  | .queued =>
    update (importing .queued "queued" .info job.message now)
    return some (.after poll)
  | .importing word =>
    update (importing .importing word .info job.message now)
    return some (.after poll)
  | .unknown word =>
    update (importing .importing word .info job.message now)
    return some (.after poll)

/-- Follows a job, if there is one. -/
def followJob (surroundings : Surroundings) : Option String → Pass (Option Requeue)
  | none => return none
  | some id => do
    match ← Body.attempt .image (.getJob id) with
    | .error error => throw (.requeue surroundings.settings.jobPoll
        (.context ("getting import job " ++ id) (.cloud error)))
    | .ok job => recordJob surroundings job

theorem reconcileJob_eq (surroundings : Surroundings) :
    reconcileJob surroundings = (jobId <$> get) >>= followJob surroundings := rfl

theorem recordJob_calms (cluster : Option PowerVsCluster) (settings : Settings) (job : Job)
    (image : Image) : Calms reads (fun now => recordJob ⟨cluster, settings, now⟩ job) image := by
  unfold recordJob
  dsimp only
  rcases job.state with _ | word | _ | _ | word
  · exact Calms.update .image (settles_importing _ _ _ _) (Determined.pure _) image
  · exact Calms.update .image (settles_importing _ _ _ _) (Determined.pure _) image
  · exact Calms.update .image settles_imported (Determined.pure _) image
  · exact Calms.update .image (settles_importing _ _ _ _) (Determined.throw _) image
  · exact Calms.update .image (settles_importing _ _ _ _) (Determined.pure _) image

theorem keeps_jobId_recordJob (surroundings : Surroundings) (job : Job) :
    Keeps jobId (recordJob surroundings job) := by
  have hupdate {change : ImageStatus → ImageStatus}
      (hchange : ∀ status, (change status).jobId = status.jobId) :
      Keeps jobId (update change) := by
    refine Keeps.modify fun image => ?_
    rcases hstatus : image.status with _ | status <;>
      simp [jobId, Object.mapStatus, hstatus, hchange, default]
  unfold recordJob
  dsimp only
  split
  · exact Keeps.bind (hupdate fun _ => rfl) fun _ => Keeps.pure _
  · exact Keeps.bind (hupdate fun _ => rfl) fun _ => Keeps.throw _
  · exact Keeps.bind (hupdate fun _ => rfl) fun _ => Keeps.pure _
  · exact Keeps.bind (hupdate fun _ => rfl) fun _ => Keeps.pure _
  · exact Keeps.bind (hupdate fun _ => rfl) fun _ => Keeps.pure _

theorem jobId_congr {left right : Image} (hstatus : right.status = left.status) :
    right.jobId = left.jobId := by
  rw [jobId, hstatus, jobId]

theorem reconcileJob_calms (cluster : Option PowerVsCluster) (settings : Settings)
    (image : Image) : Calms reads (fun now => reconcileJob ⟨cluster, settings, now⟩) image := by
  simp only [reconcileJob_eq]
  refine @Calms.bind_of_keeps .image _ _ _ reads image _ _ jobId
    (fun hreturned => jobId_congr hreturned.status) ?_ ?_
  · refine fun now => ⟨fun later hjobId now => ⟨rfl, congrArg (fun found =>
      Outcome.returned (Except.ok found)) hjobId⟩, ?_⟩
    rintro (_ | id) _
    · exact Determined.calms (Determined.pure _) _
    · refine Determined.calms_bind (.inl ⟨_, Ends.attempt rfl⟩) ?_
      rintro (error | job) <;> dsimp only
      · exact Determined.calms (Determined.throw _) _
      · exact recordJob_calms cluster settings job image
  · rintro now (_ | id)
    · exact Keeps.pure _
    · apply (Keeps.attempt _).bind
      rintro (error | job)
      · exact Keeps.throw _
      · exact keeps_jobId_recordJob _ job

theorem reconcileJob_rests_of_none {cluster : Option PowerVsCluster} {settings : Settings}
    {image : Image} (hnone : image.jobId = none) :
    Rests reads (.returned (.ok none)) (fun now => reconcileJob ⟨cluster, settings, now⟩)
      image := by
  intro now
  change (followJob _ image.jobId image).Ensures _ _ _
  rw [hnone]
  exact ⟨rfl, rfl⟩

/-- Looks for an image by its name, or starts to import it. -/
def locate (now : Instant) (image : Image) : Pass (Option String) := do
  let listing : List ImageReference ← Body.callFor .image "listing images" .getAllImages
  match listing.find? (·.name == image.metadata.nameAny) with
  | some found => return some found.id
  | none =>
    if image.jobId.isSome then return none
    let request ← Action.ofExcept image.importRequest
    let jobId : String ←
      Body.callFor .image ("importing " ++ request.bucket ++ "/" ++ request.object)
        (.createImportJob request)
    update (started jobId now)
    return none

theorem getOrCreate_eq (now : Instant) : getOrCreate now = get >>= locate now := rfl

/-- The image that the listing has of a name. -/
def listed (reads : Reads .image) (name : String) : Option String :=
  match reads.cloud .getAllImages with
  | .returned (.ok listing) => (listing.find? (·.name == name)).map (·.id)
  | _ => none

theorem listing_ends : Ends reads ((reads.cloud .getAllImages).mapError fun error =>
      .context "listing images" (.cloud error))
    (Body.callFor .image "listing images" .getAllImages : Pass (List ImageReference)) :=
  Ends.callFor rfl

theorem locate_of_listed {image : Image} {id : String}
    (hlisted : listed reads image.metadata.nameAny = some id) (now : Instant) :
    Ends reads (.returned (.ok (some id))) (locate now image) := by
  have hends := (listing_ends : Ends reads _ _)
  unfold listed at hlisted
  rcases hlisting : reads.cloud .getAllImages with (error | listing) | _ | text <;>
    rw [hlisting] at hlisted hends
  · simp at hlisted
  · obtain ⟨found, hfound, rfl⟩ := Option.map_eq_some_iff.mp hlisted
    refine hends.bind ?_
    rw [hfound]
    exact Ends.pure _
  · simp at hlisted
  · simp at hlisted

/-- Where the listing does not have the image, none is found either, unless its import starts. -/
theorem locate_of_unlisted {image : Image}
    (hunlisted : listed reads image.metadata.nameAny = none) :
    (∃ outcome, (∀ id, outcome ≠ .returned (.ok (some id))) ∧
      ∀ now, Ends reads outcome (locate now image)) ∨ ∀ now, Never reads (locate now image) := by
  have hends := (listing_ends : Ends reads _ _)
  unfold listed at hunlisted
  rcases hlisting : reads.cloud .getAllImages with (error | listing) | _ | text <;>
    rw [hlisting] at hunlisted hends
  · exact .inl ⟨.returned (.error _), by simp, fun _ => hends.stops rfl⟩
  · have hmissing := Option.map_eq_none_iff.mp hunlisted
    by_cases hjob : image.jobId.isSome = true
    · refine .inl ⟨.returned (.ok none), by simp, fun now => hends.bind ?_⟩
      rw [hmissing]
      dsimp only
      rw [if_pos hjob]
      exact Ends.pure none
    · rcases hrequest : image.importRequest with error | request
      · refine .inl ⟨.returned (.error error), by simp, fun now => hends.bind ?_⟩
        rw [hmissing]
        dsimp only
        rw [if_neg hjob, hrequest]
        exact (Ends.ofExcept _).stops rfl
      · refine .inr fun now state => hends.quiet_bind ?_
        rw [Outcome.mapError_ok, Outcome.follow_ok, hmissing]
        dsimp only
        rw [if_neg hjob, hrequest]
        exact (Ends.ofExcept _).quiet_bind (Never.bind (Never.callFor rfl) state)
  · exact .inl ⟨.expired, by simp, fun _ => hends.stops rfl⟩
  · exact .inl ⟨.panicked text, by simp, fun _ => hends.stops rfl⟩

theorem reconcileImage_calms (cluster : Option PowerVsCluster) (settings : Settings)
    (id : String) (image : Image) :
    Calms reads (fun now => reconcileImage ⟨cluster, settings, now⟩ id) image := by
  have hlocated {change : Instant → ImageStatus → ImageStatus} (hsettles : Settles change)
      (found : BootImage) (hkept : ∀ now status, located found (change now (located found status)) =
        change now (located found status)) (requeue : Requeue) :
      Calms reads (fun now => do update (located found); update (change now); return requeue)
        image :=
    Calms.update .image (hsettles.comp hkept) (Determined.pure requeue) image
  unfold reconcileImage
  refine Determined.calms_bind (Determined.callFor _ _) fun found => ?_
  cases found.state <;> dsimp only
  · exact hlocated settles_notReady found (fun _ _ => rfl) _
  · exact hlocated (settles_unknownState _) found (fun _ _ => rfl) _
  · exact hlocated settles_nowReady found (fun _ _ => rfl) _
  · exact hlocated (settles_unknownState _) found (fun _ _ => rfl) _
  · exact hlocated (settles_unknownState _) found (fun _ _ => rfl) _

/-- When the image has been found, no job is on record any more. -/
theorem recording_jobId {S : Type} {environment : Environment (outside .image) S}
    (surroundings : Surroundings) (found : Option String) (image : Image) (start : S) :
    (recording surroundings found image).Ensures environment (fun after _ _ =>
      after = image ∨ after.jobId = none) start := by
  rcases found with _ | id
  · exact .inl rfl
  · dsimp only [recording]
    unfold reconcileImage
    rw [Action.ensures_bind, Body.ensures_callFor]
    rintro ((error | found) | _ | text) _ -
    · exact .inl rfl
    · simp only [Outcome.mapError_ok, Outcome.follow_ok]
      cases found.state <;> exact .inr rfl
    · exact .inl rfl
    · exact .inl rfl

theorem getOrCreate_settled {image : Image} {outcome : Outcome (Except Error (Option String))}
    (hends : ∀ later, Managed.image.Returned image later →
      ∀ now, Ends reads outcome (locate now later)) :
    Settled reads outcome (fun now => getOrCreate now) image := by
  intro later hreturned now
  dsimp only
  rw [getOrCreate_eq, Action.ensures_bind, Action.ensures_get, Outcome.follow_ok]
  exact hends later hreturned now later

theorem nameAny_of_readPart {left right : Image}
    (hread : Managed.image.readPart right = Managed.image.readPart left) :
    right.metadata.nameAny = left.metadata.nameAny :=
  congrArg (fun part => part.metadata.nameAny) hread

theorem spec_of_readPart {left right : Image}
    (hread : Managed.image.readPart right = Managed.image.readPart left) :
    right.spec = left.spec :=
  (congrArg (fun part => part.spec) hread :)

/-- An image that comes back is looked for in the same way. -/
theorem locate_of_returned {left later : Image} (hreturned : Managed.image.Returned left later)
    (now : Instant) : locate now later = locate now left := by
  unfold locate importRequest
  rw [nameAny_of_readPart hreturned.read, spec_of_readPart hreturned.read,
    jobId_congr hreturned.status]

/-- Unless an import starts, looking for an image leaves it alone. -/
theorem getOrCreate_leaves (now : Instant) (image : Image) :
    (getOrCreate now image).Ensures reads.quiet (fun after _ _ => after = image) () := by
  rw [getOrCreate_eq, Action.ensures_bind, Action.ensures_get, Outcome.follow_ok]
  rcases hlisted : listed reads image.metadata.nameAny with _ | id
  · rcases locate_of_unlisted hlisted with ⟨outcome, -, hends⟩ | hnever
    · exact (hends now image).quietly.mono fun _ _ _ hended => hended.1
    · exact (hnever now).quiet image
  · exact (locate_of_listed hlisted now image).quietly.mono fun _ _ _ hended => hended.1

theorem located_calms (cluster : Option PowerVsCluster) (settings : Settings) (image : Image) :
    Calms reads (fun now => getOrCreate now >>= recording ⟨cluster, settings, now⟩) image := by
  refine Calms.bind fun now => ?_
  rw [getOrCreate_eq, Action.ensures_bind, Action.ensures_get, Outcome.follow_ok]
  rcases hlisted : listed reads image.metadata.nameAny with _ | id
  · rcases locate_of_unlisted hlisted with ⟨outcome, hnone, hends⟩ | hnever
    · have hsettled : Settled reads outcome (fun now => getOrCreate now) image :=
        getOrCreate_settled fun later hreturned now => by
          rw [locate_of_returned hreturned]
          exact hends now
      apply (hends now image).quietly.mono
      rintro _ _ _ ⟨rfl, rfl⟩
      refine ⟨hsettled, ?_⟩
      rintro (_ | id) hvalue
      · dsimp only [recording]
        exact ⟨Determined.calms (Determined.pure _) _, fun _ => hsettled⟩
      · exact absurd hvalue (hnone id)
    · exact (hnever now).quiet image
  · have hsettled {left : Image} (hname : left.metadata.nameAny = image.metadata.nameAny) :
        Settled reads (.returned (.ok (some id))) (fun now => getOrCreate now) left :=
      getOrCreate_settled fun later hreturned now => locate_of_listed (by
        rw [nameAny_of_readPart hreturned.read, hname, hlisted]) now
    apply (locate_of_listed hlisted now image).quietly.mono
    rintro _ _ _ ⟨rfl, rfl⟩
    refine ⟨hsettled rfl, ?_⟩
    rintro _ ⟨⟩
    refine ⟨reconcileImage_calms cluster settings id _, fun now => ?_⟩
    have hkept :=
      keeps_reconcileImage (fun _ _ => Managed.image.keeps_update _) ⟨cluster, settings, now⟩ id
    apply ((hkept _).anywhere ()).mono
    exact fun after _ _ hunmarked =>
      hsettled (congrArg (fun part : Metadata × ImageSpec => part.1.nameAny) hunmarked)

theorem owned_calms (cluster : Option PowerVsCluster) (settings : Settings) (image : Image) :
    Calms reads (fun now => owned ⟨cluster, settings, now⟩) image := by
  refine Calms.bind fun now => ?_
  apply (reconcileJob_calms cluster settings image now).mono
  intro middle outcome _ hsettled
  refine ⟨hsettled, ?_⟩
  rintro (_ | requeue) rfl
  · refine ⟨located_calms cluster settings middle, fun now => ?_⟩
    rw [Action.ensures_bind]
    apply (getOrCreate_leaves now middle).mono
    rintro left outcome _ rfl
    rcases outcome with (error | found) | _ | text
    · exact hsettled
    · apply (recording_jobId _ found left ()).mono
      rintro after _ _ (rfl | hnone)
      · exact hsettled
      · intro later hreturned
        exact reconcileJob_rests_of_none ((jobId_congr hreturned.status).trans hnone)
    · exact hsettled
    · exact hsettled
  · exact ⟨Determined.calms (Determined.pure _) _, fun _ => hsettled⟩

/-- The workspace on record. -/
def workspace (image : Image) : Option Workspace := (image.status.getD default).workspace

/-- The image with the workspace that calls go to, unless one is recorded already. -/
def withWorkspace (cluster : PowerVsCluster) (image : Image) : Image :=
  if image.workspace.isSome then image
  else
    let target := image.target (some cluster)
    match target.serviceInstanceId with
    | none => image
    | some id => image.mapStatus fun status =>
        { status with workspace := some ⟨id, target.zone, target.region⟩ }

variable {cluster : PowerVsCluster} {image later : Image}

theorem workspace_eq (image : Image) : image.status.bind (·.workspace) = image.workspace := by
  rcases hstatus : image.status with _ | status <;> simp [workspace, hstatus, default]

theorem recordWorkspace_ensures_withWorkspace {S : Type}
    {environment : Environment (outside .image) S} (cluster : PowerVsCluster) (image : Image)
    (start : S) :
    (recordWorkspace (some cluster) image).Ensures environment (fun after outcome surroundings =>
      after = withWorkspace cluster image ∧ outcome = .returned (.ok ()) ∧ surroundings = start)
      start := by
  unfold recordWorkspace withWorkspace
  rw [Action.ensures_bind, Action.ensures_get, Outcome.follow_ok, workspace_eq]
  split
  · exact ⟨rfl, rfl, rfl⟩
  · dsimp only
    rcases (image.target (some cluster)).serviceInstanceId with _ | id
    · exact ⟨rfl, rfl, rfl⟩
    · exact ⟨rfl, rfl, rfl⟩

/-- What decides where the calls for an image go. -/
def placement (image : Image) : Option Workspace × ImageSpec := (image.workspace, image.spec)

theorem target_congr (hplacement : later.placement = image.placement) (cluster : PowerVsCluster) :
    later.target (some cluster) = image.target (some cluster) := by
  obtain ⟨hworkspace, hspec⟩ := Prod.mk.injEq .. ▸ hplacement
  unfold Image.target
  rw [workspace_eq, workspace_eq, hworkspace, hspec]

/-- Recording the workspace changes nothing about where calls go. -/
theorem target_withWorkspace (cluster : PowerVsCluster) (image : Image) :
    (withWorkspace cluster image).target (some cluster) = image.target (some cluster) := by
  unfold withWorkspace
  split
  · rfl
  · dsimp only
    split
    · rfl
    · next id hid =>
      change (⟨some id, _, _⟩ : WorkspaceTarget) = _
      rw [← hid]

theorem withWorkspace_of_placement
    (hplacement : later.placement = (withWorkspace cluster image).placement) :
    withWorkspace cluster later = later := by
  have htarget := (target_congr hplacement cluster).trans (target_withWorkspace cluster image)
  have hworkspace : later.workspace = (withWorkspace cluster image).workspace :=
    congrArg Prod.fst hplacement
  by_cases hlater : later.workspace.isSome = true
  · exact if_pos hlater
  · have hnone : (image.target (some cluster)).serviceInstanceId = none := by
      by_contra hsome
      obtain ⟨id, hid⟩ := Option.ne_none_iff_exists'.mp hsome
      apply hlater
      rw [hworkspace, withWorkspace]
      split
      · assumption
      · simp [hid, workspace, Object.mapStatus]
    rw [withWorkspace, if_neg hlater, htarget]
    simp only [hnone]

theorem keeps_placement_owned (surroundings : Surroundings) :
    Keeps placement (owned surroundings) :=
  keeps_owned (fun _ hchange => Keeps.modify fun image =>
    congrArg (fun workspace => (workspace, image.spec)) (hchange (image.status.getD default)))
    surroundings

/-- Wherever a normal pass ends, it has not changed where calls go. -/
theorem reconcileNormal_target (cluster : PowerVsCluster) (settings : Settings) (now : Instant)
    (image : Image) :
    (reconcileNormal ⟨some cluster, settings, now⟩ image).Ensures (.anything _) (fun after _ _ =>
      after.target (some cluster) = image.target (some cluster)) () := by
  rw [reconcileNormal_eq, Action.ensures_bind]
  apply (@Body.takeOwnership_ensures .image _ _ (some cluster) image ()).mono
  rintro marked outcome _ ⟨howns, -⟩
  have hmarked : Image.target marked (some cluster) = image.target (some cluster) := by
    refine target_congr (Prod.ext ?_ (spec_of_readPart
      (Managed.readPart_congr howns.edits.foreign))) cluster
    simp only [placement, workspace, howns.status]
  rcases outcome with (error | _ | _) | _ | text
  · exact hmarked
  · rw [Outcome.follow_ok]
    simp only [Bool.false_eq_true, if_false]
    rw [Action.ensures_bind]
    apply (recordWorkspace_ensures_withWorkspace cluster marked ()).mono
    rintro _ _ _ ⟨rfl, rfl, -⟩
    apply (keeps_placement_owned ⟨some cluster, settings, now⟩ _).mono
    intro after _ _ hplacement
    rw [target_congr hplacement, target_withWorkspace, hmarked]
  · exact hmarked
  · exact hmarked
  · exact hmarked

/-- A normal pass over an image that carries its marks settles what it leaves. -/
theorem reconcileNormal_calms (settings : Settings) {owner : OwnerReference}
    (hfinalizer : Managed.image.hasFinalizer image = true)
    (hreference : Managed.image.clusterReference cluster = .ok owner)
    (howner : hasOwner image.metadata.owners owner = true) :
    Calms reads (fun now => reconcileNormal ⟨some cluster, settings, now⟩) image := by
  simp only [reconcileNormal_eq]
  refine Calms.owned hfinalizer hreference howner (Keeps.pure _) (fun now =>
    (keeps_recordWorkspace _).bind fun _ =>
      keeps_owned (fun _ _ => Managed.image.keeps_update _) _) ?_
  refine @Calms.bind_of_keeps .image _ _ _ reads _ _ _ placement (fun hreturned => ?_) ?_
    fun now _ => keeps_placement_owned ⟨some cluster, settings, now⟩
  · refine Prod.ext ?_ (spec_of_readPart hreturned.read)
    simp only [placement, workspace, hreturned.status]
  · intro now
    apply (recordWorkspace_ensures_withWorkspace cluster _ ()).mono
    rintro _ _ _ ⟨rfl, rfl, -⟩
    refine ⟨fun later hplacement now => ?_, fun _ _ => owned_calms (some cluster) settings _⟩
    apply (recordWorkspace_ensures_withWorkspace cluster later ()).mono
    rintro _ _ _ ⟨rfl, rfl, -⟩
    exact ⟨withWorkspace_of_placement hplacement, rfl⟩

end Reconciler.Image
