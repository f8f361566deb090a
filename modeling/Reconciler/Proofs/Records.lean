import Reconciler.Proofs.Depot
import Reconciler.Proofs.History
import Reconciler.Proofs.ImportJob

/-!
# Records that agree with the depot

A pass records an image only after it was listed, and a job only when it was just started.  What is
on record therefore agrees with the depot all along a run, also where a pass did not get to store
what it left: a job and what it has produced are never on record together.
-/

namespace Reconciler

open Relation (ReflTransGen)
open Timeline (Drifts)

namespace Image

open Depot (Grows grows_of_provided provided)

theorem imageId_mapStatus {change : ImageStatus → ImageStatus}
    (hchange : ∀ status, (change status).imageId = status.imageId) (image : Image) :
    Image.imageId (image.mapStatus change) = image.imageId :=
  congrArg (Option.filter _) (bind_mapStatus rfl hchange image)

/-- What is on record about the import of an image, and the name that it is looked for by. -/
def filed (image : Image) : Option String × Option String × String :=
  (image.imageId, image.jobId, image.metadata.nameAny)

theorem filed_mapStatus {change : ImageStatus → ImageStatus}
    (himage : ∀ status, (change status).imageId = status.imageId)
    (hjob : ∀ status, (change status).jobId = status.jobId) (image : Image) :
    filed (image.mapStatus change) = image.filed := by
  rw [filed, imageId_mapStatus himage, jobId_mapStatus hjob]
  rfl

end Image

namespace Depot

variable {called job : String} {before after depot : Depot} {image other : Image}

theorem Agrees.of_filed (hagrees : depot.Agrees image) (hfiled : other.filed = image.filed) :
    depot.Agrees other :=
  hagrees.congr (congrArg (·.1) hfiled) (congrArg (·.2.1) hfiled)

theorem Agrees.of_status (hagrees : depot.Agrees image) (hstatus : other.status = image.status) :
    depot.Agrees other :=
  hagrees.congr (by rw [Image.imageId, Image.imageId, hstatus])
    (by rw [Image.jobId, Image.jobId, hstatus])

/-- A job that was just started may be recorded. -/
theorem Agrees.started (hagrees : before.Agrees image) {request : ImportRequest}
    (hprovided : provided called (.cloud (.createImportJob request)) (.returned (.ok job))
      before after) (hcalled : request.imageName = called) (now : Time.Instant) :
    after.Agrees (image.mapStatus (Image.started job now)) := by
  have himage : Image.imageId (image.mapStatus (Image.started job now)) = image.imageId :=
    Image.imageId_mapStatus (fun _ => rfl) image
  have hgrows := grows_of_provided hprovided
  refine ⟨fun id hid => hgrows.images (hagrees.known id (himage ▸ hid)),
    fun recorded hjob id hproduct => ?_⟩
  obtain ⟨rfl, -⟩ : job = recorded ∧ _ := by
    simpa [Image.jobId, Object.mapStatus, Image.started, Image.withConditions,
      Option.filter_eq_some_iff] using hjob
  have hnew := not_mem_images_of_started hprovided hcalled hproduct
  refine ⟨fun hid => hnew (hagrees.known id (himage ▸ hid)), fun hremoved => ?_⟩
  rcases hgrows.spares id hremoved with hearlier | hdoomed
  · exact hnew (before.held hearlier)
  · simp [doomed] at hdoomed

/-- An image that was there may be recorded, in the place of its job. -/
theorem agrees_located {found : BootImage} (hknown : found.id ∈ depot.images) :
    depot.Agrees (image.mapStatus (Image.located found)) where
  known id hid := by
    obtain ⟨rfl, -⟩ : found.id = id ∧ _ := by
      simpa [Image.imageId, Object.mapStatus, Image.located, Option.filter_eq_some_iff] using hid
    exact hknown
  unlocated job hjob := by
    simp [Image.jobId, Object.mapStatus, Image.located] at hjob

end Depot

namespace Image

open Depot (Grows grows_of_provided provided)

variable {called : String} {image : Image} {start : Depot}

theorem imageName_of_importRequest {request : ImportRequest}
    (hrequest : image.importRequest = .ok request) :
    request.imageName = image.metadata.nameAny := by
  rcases hbucket : image.spec.bucket with _ | bucket <;>
    rcases hobject : image.spec.object with _ | object <;>
      rcases hregion : image.spec.region with _ | region <;>
        simp [importRequest, hbucket, hobject, hregion, bind, Except.bind, pure, Except.pure]
          at hrequest
  rw [← hrequest]

theorem recordWorkspace_filed (cluster : Option PowerVsCluster) (image : Image) (start : Depot) :
    (recordWorkspace cluster image).Ensures (provided called) (fun after _ ready =>
      filed after = filed image ∧ ready = start) start := by
  unfold recordWorkspace
  simp only [Action.ensures_bind, Action.ensures_get, Outcome.follow_ok]
  split
  · exact ⟨rfl, rfl⟩
  · rcases (Image.target image cluster).serviceInstanceId with _ | id
    · exact ⟨rfl, rfl⟩
    · exact ⟨filed_mapStatus (fun _ => rfl) (fun _ => rfl) image, rfl⟩

theorem reconcileJob_filed (surroundings : Surroundings) (image : Image) (start : Depot) :
    (reconcileJob surroundings image).Ensures (provided called) (fun after _ ready =>
      filed after = filed image ∧ Grows none start ready) start := by
  unfold reconcileJob
  simp only [Action.ensures_bind, Action.ensures_get, Outcome.follow_ok]
  rcases image.jobId with _ | id
  · exact ⟨rfl, .refl none start⟩
  · simp only [Action.ensures_bind, Body.ensures_attempt]
    intro ending ready hprovided
    have hgrows : Grows none start ready := grows_of_provided hprovided
    rcases ending with (error | job) | _ | text
    · exact ⟨rfl, hgrows⟩
    · simp only [Outcome.resume_returned, Outcome.follow_ok]
      rcases job.state with _ | _ | _ | word | word
      all_goals exact ⟨filed_mapStatus (fun _ => rfl) (fun _ => rfl) image, hgrows⟩
    · exact ⟨trivial, hgrows⟩
    · exact ⟨trivial, hgrows⟩

/-- A job that is started is recorded, and an image that is found has been there. -/
theorem getOrCreate_agrees (now : Time.Instant) (hcalled : image.metadata.nameAny = called)
    (hagrees : start.Agrees image) :
    (getOrCreate now image).Ensures (provided called) (fun after outcome ready =>
      (Grows none start ready ∧ ready.Agrees after) ∧
        ∀ id, outcome = .returned (.ok (some id)) → id ∈ ready.images) start := by
  unfold getOrCreate
  simp only [Action.ensures_bind, Action.ensures_get, Outcome.follow_ok, Body.ensures_callFor]
  intro listed asked hlisted
  have hasked : Grows none start asked := grows_of_provided hlisted
  have hstill : asked.Agrees image := hagrees.grows hasked (by simp)
  rcases listed with (error | listing) | _ | text
  · exact ⟨⟨hasked, hstill⟩, by simp⟩
  · simp only [Outcome.mapError_ok, Outcome.follow_ok]
    rcases hfound : listing.find? (·.name == image.metadata.nameAny) with _ | found
    · rw [hfound]
      rcases image.jobId with _ | job
      · simp only [Option.isSome_none, Bool.false_eq_true, if_false, Action.ensures_bind,
          Action.ensures_ofExcept]
        rcases hrequest : image.importRequest with error | request
        · exact ⟨⟨hasked, hstill⟩, by simp⟩
        · simp only [Outcome.follow_ok, Body.ensures_callFor]
          intro ending ready hstarted
          have hname := (imageName_of_importRequest hrequest).trans hcalled
          have hready : Grows none start ready := hasked.trans (grows_of_provided hstarted)
          have hlater : ready.Agrees image := hagrees.grows hready (by simp)
          rcases ending with (error | job) | _ | text
          · exact ⟨⟨hready, hlater⟩, by simp⟩
          · exact ⟨⟨hready, hstill.started hstarted hname now⟩, by simp⟩
          · exact ⟨⟨hready, hlater⟩, by simp⟩
          · exact ⟨⟨hready, hlater⟩, by simp⟩
      · exact ⟨⟨hasked, hstill⟩, by simp⟩
    · rw [hfound]
      have hmem := List.mem_of_find?_eq_some hfound
      have hname : found.name = called := by
        simpa [hcalled] using List.find?_some hfound
      refine ⟨⟨hasked, hstill⟩, fun id hid => ?_⟩
      obtain rfl : found.id = id := by simpa using hid
      exact Depot.mem_images_of_listed hlisted hmem hname
  · exact ⟨⟨hasked, hstill⟩, by simp⟩
  · exact ⟨⟨hasked, hstill⟩, by simp⟩

theorem reconcileImage_agrees (surroundings : Surroundings) {id : String}
    (hagrees : start.Agrees image) (hknown : id ∈ start.images) :
    (reconcileImage surroundings id image).Ensures (provided called) (fun after _ ready =>
      Grows none start ready ∧ ready.Agrees after) start := by
  unfold reconcileImage
  simp only [Action.ensures_bind, Body.ensures_callFor]
  intro ending ready hprovided
  have hgrows : Grows none start ready := grows_of_provided hprovided
  have hstill : ready.Agrees image := hagrees.grows hgrows (by simp)
  rcases ending with (error | found) | _ | text
  · exact ⟨hgrows, hstill⟩
  · have hlocated : ready.Agrees (image.mapStatus (located found)) := by
      refine Depot.agrees_located ?_
      rw [Depot.id_of_provided hprovided]
      exact hgrows.images hknown
    simp only [Outcome.mapError_ok, Outcome.follow_ok, update, Action.ensures_modify]
    rcases found.state with _ | _ | _ | _ | word
    all_goals exact ⟨hgrows, hlocated.of_filed (filed_mapStatus (fun _ => rfl) (fun _ => rfl) _)⟩
  · exact ⟨hgrows, hstill⟩
  · exact ⟨hgrows, hstill⟩

/-- A normal pass removes nothing, and what it leaves on record agrees with the depot. -/
theorem reconcileNormal_agrees (surroundings : Surroundings)
    (hcalled : image.metadata.nameAny = called) (hagrees : start.Agrees image) :
    (reconcileNormal surroundings image).Ensures (provided called) (fun after _ ready =>
      Grows none start ready ∧ ready.Agrees after) start := by
  rw [reconcileNormal_eq, Action.ensures_bind]
  apply (Body.takeOwnership_ensures surroundings.cluster image start).mono
  rintro marked outcome _ ⟨howns, rfl⟩
  have hmarked := hagrees.of_status howns.status
  have hname : marked.metadata.nameAny = called :=
    (congrArg (fun part => part.metadata.nameAny) howns.edits.foreign).trans hcalled
  rcases outcome with (error | _ | _) | _ | text
  · exact ⟨.refl none _, hmarked⟩
  · rw [Outcome.follow_ok, if_neg Bool.false_ne_true, Action.ensures_bind]
    apply (recordWorkspace_filed surroundings.cluster marked _).mono
    rintro image outcome _ ⟨hfiled, rfl⟩
    rcases outcome with (error | _) | _ | text
    · exact ⟨.refl none _, hmarked.of_filed hfiled⟩
    · unfold owned
      rw [Outcome.follow_ok, Action.ensures_bind]
      apply (reconcileJob_filed surroundings image _).mono
      rintro polled outcome ready ⟨hpolled, hgrows⟩
      have hsame := hpolled.trans hfiled
      have hstill : ready.Agrees polled := (hmarked.of_filed hsame).grows hgrows (by simp)
      rcases outcome with (error | _ | requeue) | _ | text
      · exact ⟨hgrows, hstill⟩
      · rw [Outcome.follow_ok]
        dsimp only
        rw [Action.ensures_bind]
        apply (getOrCreate_agrees surroundings.now ((congrArg (·.2.2) hsame).trans hname)
          hstill).mono
        rintro listed outcome last ⟨⟨hlisted, hlast⟩, hfound⟩
        rcases outcome with (error | _ | id) | _ | text
        · exact ⟨hgrows.trans hlisted, hlast⟩
        · exact ⟨hgrows.trans hlisted, hlast⟩
        · apply (reconcileImage_agrees surroundings hlast (hfound id rfl)).mono
          exact fun _ _ _ hend => ⟨(hgrows.trans hlisted).trans hend.1, hend.2⟩
        · exact ⟨hgrows.trans hlisted, hlast⟩
        · exact ⟨hgrows.trans hlisted, hlast⟩
      · exact ⟨hgrows, hstill⟩
      · exact ⟨hgrows, hstill⟩
      · exact ⟨hgrows, hstill⟩
    · exact ⟨.refl none _, hmarked.of_filed hfiled⟩
    · exact ⟨.refl none _, hmarked.of_filed hfiled⟩
  · exact ⟨.refl none _, hmarked⟩
  · exact ⟨.refl none _, hmarked⟩
  · exact ⟨.refl none _, hmarked⟩

theorem imageId_of_teardownCall {id : String}
    (hcall : image.teardownCall = some (.deleteImage id)) : image.imageId = some id := by
  rcases himage : image.imageId with _ | recorded
  · simp [teardownCall, himage] at hcall
  · by_cases hretain : image.spec.deletePolicy = .retain <;>
      simp [teardownCall, himage, hretain] at hcall
    rw [hcall]

/-- The only image that a delete pass removes is the recorded one. -/
theorem reconcileDelete_spares (surroundings : Surroundings) (image : Image) :
    (reconcileDelete surroundings image).Ensures (.recording _) (fun _ _ seen =>
      ∀ exchange ∈ seen, ∀ id, Depot.doomed exchange.question = some id →
        image.imageId = some id) [] := by
  cases hfinalizer : Managed.image.hasFinalizer image with
  | false =>
      unfold reconcileDelete
      simp [hfinalizer]
  | true =>
      apply (reconcileDelete_tornDown surroundings image hfinalizer).mono
      rintro _ _ seen ⟨hplanned, -⟩ exchange hmem id hdoomed
      have hplanned := hplanned exchange hmem
      rcases exchange with ⟨call | _ | _, ending⟩
      · cases call with
        | deleteImage other =>
            obtain rfl : other = id := Option.some.inj hdoomed
            exact imageId_of_teardownCall (hplanned _ rfl)
        | _ => simp [Depot.doomed] at hdoomed
      · simp [Depot.doomed] at hdoomed
      · simp [Depot.doomed] at hdoomed

end Image

namespace World

open Depot (Grows Turns grows_of_provided grows_of_turns)

variable {W : Type} {«namespace» name : String} {world : World W} {settings : Settings}
variable {w after : W} {visit : Visit .image} {target : WorkspaceTarget}
variable {history : W → Timeline .image «namespace» name} {depot : W → Depot}
variable {others : Conduct .image}

theorem Serves.nameAny_of_visit (hserves : world.Serves history others)
    (hvisit : world.visit .image settings «namespace» name w = (some visit, after)) :
    visit.object.metadata.nameAny = name := by
  obtain ⟨stages⟩ := stages_of_visit hvisit
  obtain ⟨asked, -, hcurrent, -⟩ := hserves.drifts_of_stages stages
  obtain ⟨writer, older, hversions⟩ := Timeline.versions_of_current hcurrent
  exact (asked.named ⟨writer, visit.object⟩ (hversions ▸ List.mem_cons_self ..)).2

/-- What a pass fetches agrees with the depot as what was stored does. -/
theorem Serves.agrees_of_fetched (hserves : world.Serves history others)
    (hkeeps : others.Keeps fun image => image.status)
    (hvisit : world.visit .image settings «namespace» name w = (some visit, after))
    (hstart : ∀ stored, (history w).current = some stored → (depot w).Agrees stored) :
    (depot w).Agrees visit.object := by
  obtain ⟨given, hgiven, hstatus⟩ := hserves.part_of_fetched hkeeps hvisit
  exact (hstart given hgiven).of_status hstatus

/-- A pass removes no other image than the recorded one, and what it leaves on record agrees with
the depot. -/
theorem Surrounds.grows_of_visit
    (hsurrounds : world.Surrounds target depot (Depot.provided name) Turns)
    (hvisit : world.visit .image settings «namespace» name w = (some visit, after))
    (htarget : visit.opened.target = target) (hcalled : visit.object.metadata.nameAny = name)
    (hagrees : (depot w).Agrees visit.object) :
    Grows (Image.imageId visit.object) (depot w) (depot after) ∧
      (depot after).Agrees visit.left.object := by
  obtain ⟨stages⟩ := stages_of_visit hvisit
  obtain ⟨start, ready, hstart, hacts, hready⟩ := hsurrounds.acts_of_stages stages htarget
  have hbegun : start.Agrees visit.object := hagrees.grows (grows_of_turns none hstart) (by simp)
  have hended :
      Grows (Image.imageId visit.object) start ready ∧ ready.Agrees visit.left.object := by
    rcases hdeleting : visit.object.metadata.isDeleting with _ | _
    · have hchosen (settings : Settings) (now : Time.Instant) :
          Managed.image.body ⟨visit.opened.cluster, settings, now⟩ visit.object =
            Image.reconcileNormal ⟨visit.opened.cluster, settings, now⟩ :=
        if_neg (Bool.eq_false_iff.mp hdeleting)
      have hbody : Grows none start ready ∧ ready.Agrees visit.left.object :=
        hacts.ensures (fun left _ ready => Grows none start ready ∧ ready.Agrees left)
          fun settings now => by
            rw [hchosen]
            exact Image.reconcileNormal_agrees _ hcalled hbegun
      exact ⟨hbody.1.mono (by simp), hbody.2⟩
    · have hspares : ∀ exchange ∈ visit.exchanges, ∀ id,
          Depot.doomed exchange.question = some id → Image.imageId visit.object = some id :=
        stages.of_reconcileDelete hdeleting fun surroundings =>
          Image.reconcileDelete_spares surroundings visit.object
      have hgrows : Grows (Image.imageId visit.object) start ready :=
        hacts.along.keeps (fun exchange hmem before after hprovided hgrows => hgrows.trans
          ((grows_of_provided hprovided).mono (hspares exchange hmem))) (.refl _ start)
      exact ⟨hgrows, (hbegun.grows hgrows fun _ => id).of_status
        (stages.status_of_deleting hdeleting)⟩
  exact ⟨(grows_of_turns _ hstart).trans (hended.1.trans (grows_of_turns _ hready)),
    hended.2.grows (grows_of_turns none hready) (by simp)⟩

/-- What is stored after a pass agrees with the depot, whether the pass has stored what it left or
not. -/
theorem agrees_of_visit (hserves : world.Serves history others)
    (hkeeps : others.Keeps fun image => image.status)
    (hsurrounds : world.Surrounds target depot (Depot.provided name) Turns)
    (hvisit : world.visit .image settings «namespace» name w = (some visit, after))
    (htarget : visit.opened.target = target)
    (hstart : ∀ stored, (history w).current = some stored → (depot w).Agrees stored) :
    ∀ stored, (history after).current = some stored → (depot after).Agrees stored := by
  obtain ⟨given, hgiven, hstatus⟩ := hserves.part_of_fetched hkeeps hvisit
  have hfetched := hserves.agrees_of_fetched hkeeps hvisit hstart
  obtain ⟨hgrows, hleft⟩ :=
    hsurrounds.grows_of_visit hvisit htarget (hserves.nameAny_of_visit hvisit) hfetched
  have hobject : (depot after).Agrees visit.object := hfetched.grows hgrows fun _ => id
  intro stored hstored
  refine hserves.forall_status_of_visit
    (fun status => ∀ image : Image, image.status = status → (depot after).Agrees image)
    hkeeps.sparesStatus ?unrecorded hvisit ?given ?left stored
    ((hserves.evolves_of_visit hvisit).mem_stored_of_current hstored) stored rfl
  case unrecorded =>
    exact fun image hnone => Depot.agrees_of_unrecorded (by simp [Image.imageId, hnone])
      (by simp [Image.jobId, hnone])
  case given =>
    intro object hcurrent image himage
    obtain rfl := Option.some.inj (hgiven.symm.trans hcurrent)
    exact hobject.of_status (himage.trans hstatus.symm)
  case left => exact fun _ _ image himage => hleft.of_status himage

/-- While no pass is under way, other writers and the provider go on. -/
def Aside (others : Conduct .image) (history : W → Timeline .image «namespace» name)
    (depot : W → Depot) (before after : W) : Prop :=
  Drifts others (history before) (history after) ∧ ReflTransGen Turns (depot before) (depot after)

theorem Aside.agrees (hkeeps : others.Keeps fun image => image.status) {before after : W}
    (haside : Aside others history depot before after)
    (hstart : ∀ stored, (history before).current = some stored → (depot before).Agrees stored) :
    ∀ stored, (history after).current = some stored → (depot after).Agrees stored := by
  intro stored hstored
  obtain ⟨given, hgiven, hstatus⟩ := haside.1.part_eq hkeeps hstored
  exact ((hstart given hgiven).grows (grows_of_turns none haside.2) (by simp)).of_status hstatus

/-- Over any run of passes, what is stored agrees with the depot. -/
theorem Passes.agrees (hserves : world.Serves history others)
    (hkeeps : others.Keeps fun image => image.status)
    (hsurrounds : world.Surrounds target depot (Depot.provided name) Turns)
    {first last : W} {stages : List (Stage .image W)}
    (hpasses : world.Passes .image «namespace» name id (Aside others history depot) first stages
      last)
    (htargets : ∀ stage ∈ stages, stage.visit.opened.target = target)
    (hfirst : ∀ stored, (history first).current = some stored → (depot first).Agrees stored) :
    ∀ stored, (history last).current = some stored → (depot last).Agrees stored := by
  induction hpasses with
  | start => exact hfirst
  | visited settings _ hvisit ih =>
      have htarget := htargets _ (List.mem_append_right _ (List.mem_singleton_self _))
      exact agrees_of_visit hserves hkeeps hsurrounds hvisit htarget
        (ih fun stage hmem => htargets stage (List.mem_append_left _ hmem))
  | missed settings _ hvisit ih =>
      exact Aside.agrees hkeeps
        ⟨hserves.drifts_of_no_visit hvisit, hsurrounds.changes_of_no_visit hvisit⟩ (ih htargets)
  | meanwhile _ haside ih =>
      exact keeps_of_changes
        (fun w => ∀ stored, (history w).current = some stored → (depot w).Agrees stored)
        (fun hstep => hstep.agrees hkeeps) haside (ih htargets)

end World

end Reconciler
