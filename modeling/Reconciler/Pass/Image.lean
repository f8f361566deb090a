import Reconciler.Pass.Body

/-!
# Passes over images

A normal pass follows the recorded import job, looks for the image by name, starts an import where
there is neither, and records the state of the image.  A delete pass removes the image, or the job
where there is no image yet, and then lets the object go.
-/

namespace Reconciler.Image

open Time

/-- A step on the working copy of an image. -/
abbrev Pass (α : Type) := Step .image Image α

abbrev Surroundings := Reconciler.Surroundings .image

/-- Changes the status of the working copy. -/
def update (change : ImageStatus → ImageStatus) : Pass Unit :=
  modify (·.mapStatus change)

/-- Changes the conditions of a status. -/
def withConditions (change : Conditions → Conditions) (status : ImageStatus) : ImageStatus :=
  { status with conditions := change status.conditions }

/-- Records the workspace that the calls of this pass go to, unless one is recorded already. -/
def recordWorkspace (cluster : Option PowerVsCluster) : Pass Unit := do
  let image ← get
  if (image.status.bind (·.workspace)).isSome then return
  let target := image.target cluster
  match target.serviceInstanceId with
  | none => return
  | some id =>
    update fun status => { status with workspace := some ⟨id, target.zone, target.region⟩ }

/-- What an image is imported from. -/
def importRequest (image : Image) : Except Error ImportRequest := do
  let field (name : String) (value : Option String) : Except Error String :=
    value.elim
      (.error (.resource (.missingField Kind.image.name image.metadata.nameAny name))) .ok
  let bucket ← field "bucket" image.spec.bucket
  let object ← field "object" image.spec.object
  let region ← field "region" image.spec.region
  return ⟨image.metadata.nameAny, bucket, object, region, image.spec.storageType⟩

/-- The import is in some stage other than done. -/
def importing (state : ImageState) (reason : String) (severity : ConditionSeverity)
    (message : String) (now : Instant) (status : ImageStatus) : ImageStatus :=
  withConditions (·.markFalse imported reason severity message now)
    { status with ready := false, imageState := some state }

/-- Follows the recorded import job.  The answer is nothing when there is none, or it is done, so
that the image can be looked for. -/
def reconcileJob (surroundings : Surroundings) : Pass (Option Requeue) := do
  let poll := surroundings.settings.jobPoll
  let now := surroundings.now
  match (← get).jobId with
  | none => return none
  | some id =>
    match ← Body.attempt .image (.getJob id) with
    | .error error =>
      throw (.requeue poll (.context ("getting import job " ++ id) (.cloud error)))
    | .ok job =>
      match job.state with
      | .completed =>
        update (withConditions (·.markTrue imported now))
        return none
      | .failed =>
        update (importing .failed importFailed .error job.message now)
        throw (.requeue poll (.importFailed job.message))
      | .queued =>
        update (importing .queued "queued" .info job.message now)
        return some (.after poll)
      | .importing word =>
        update (importing .importing word .info job.message now)
        return some (.after poll)
      | .unknown word =>
        update (importing .importing word .info job.message now)
        return some (.after poll)

/-- A job has been started. -/
def started (jobId : String) (now : Instant) (status : ImageStatus) : ImageStatus :=
  withConditions (·.markFalse imported "queued" .info "" now) { status with jobId := some jobId }

/-- Looks for the image by name, or starts to import it.  No job is started while one is
recorded. -/
def getOrCreate (now : Instant) : Pass (Option String) := do
  let image ← get
  let listing : List ImageReference ← Body.callFor .image "listing images" .getAllImages
  match listing.find? (·.name == image.metadata.nameAny) with
  | some found => return some found.id
  | none =>
    if image.jobId.isSome then return none
    let request ← Action.ofExcept image.importRequest
    let jobId : String ←
      Body.callFor .image ("importing " ++ request.bucket ++ "/" ++ request.object)
        (.createImportJob request)
    update (started jobId now)
    return none

/-- The image has been found, so its job is over. -/
def located (found : BootImage) (status : ImageStatus) : ImageStatus :=
  { status with imageId := some found.id, imageState := some found.state, jobId := none }

/-- The image is not ready, for a reason. -/
def notReady (now : Instant) (status : ImageStatus) : ImageStatus :=
  withConditions (·.markFalse imageReady imageNotReady .warning "" now)
    { status with ready := false }

/-- The image is ready. -/
def nowReady (now : Instant) (status : ImageStatus) : ImageStatus :=
  withConditions (·.markTrue imageReady now) { status with ready := true }

/-- It is not known whether the image is ready. -/
def unknownState (message : String) (now : Instant) (status : ImageStatus) : ImageStatus :=
  withConditions (·.markUnknown imageReady imageNotReady message now)
    { status with ready := false }

/-- Records the state of an image. -/
def reconcileImage (surroundings : Surroundings) (id : String) : Pass Requeue := do
  let now := surroundings.now
  let poll := surroundings.settings.imagePoll
  let found : BootImage ← Body.callFor .image ("getting image " ++ id) (.getImage id)
  update (located found)
  match found.state with
  | .queued =>
    update (notReady now)
    return .after poll
  | .active =>
    update (nowReady now)
    return .none
  | state =>
    update (unknownState ("image is " ++ state.word) now)
    return .after poll

/-- The body of a pass over an image that is to exist. -/
def reconcileNormal (surroundings : Surroundings) : Pass Requeue := do
  if ← Body.takeOwnership surroundings.cluster then return .immediate
  recordWorkspace surroundings.cluster
  match ← reconcileJob surroundings with
  | some requeue => return requeue
  | none =>
    match ← getOrCreate surroundings.now with
    | some id => reconcileImage surroundings id
    | none => return .after surroundings.settings.jobPoll

/-- Something at the provider has to be removed along with the object. -/
def ownsCloudState (image : Image) : Bool :=
  match image.imageId with
  | some _ => image.spec.deletePolicy != .retain
  | none => image.jobId.isSome

/-- The body of a pass over an image that is being deleted. -/
def reconcileDelete (surroundings : Surroundings) : Pass Requeue := do
  let image ← get
  if !Managed.image.hasFinalizer image then return .none
  if image.ownsCloudState && (image.target surroundings.cluster).serviceInstanceId.isNone then
    throw (.unknownTarget image.metadata.key)
  match image.imageId with
  | none =>
    match image.jobId with
    | none => pure ()
    | some id => Body.remove .image ("deleting import job " ++ id) (.deleteJob id)
  | some id =>
    if image.spec.deletePolicy != .retain then
      Body.remove .image ("deleting image " ++ id) (.deleteImage id)
  modify (Managed.image.removeFinalizer ·)
  Body.publish (.finalizerRemoved Kind.image.name image.metadata.nameAny)
  return .none

end Reconciler.Image
