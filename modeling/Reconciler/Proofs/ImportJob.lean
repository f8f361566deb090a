import Reconciler.Proofs.Persistence
import Reconciler.Proofs.Teardown

/-!
# At most one import job in flight

The job that a pass over an image leaves recorded is the one that its calls have left in flight: a
job is put in flight by starting it and taken out of flight by locating the image.  A job is started
only when none is in flight, so that over any run the image is located between two starts.
-/

namespace Reconciler

open Timeline (Drifts Evolves)

namespace Exchange

/-- The call asks for an import job. -/
def AsksImport : OfImage → Prop
  | ⟨.cloud (.createImportJob _), _⟩ => True
  | _ => False

/-- The call asks how a job is doing. -/
def AsksJob : OfImage → Prop
  | ⟨.cloud (.getJob _), _⟩ => True
  | _ => False

/-- The call started a job. -/
def StartsJob (id : String) : OfImage → Prop
  | ⟨.cloud (.createImportJob _), ending⟩ => ending = .returned (.ok id)
  | _ => False

instance (id : String) : DecidablePred (StartsJob id)
  | ⟨.cloud (.createImportJob _), ending⟩ =>
    inferInstanceAs (Decidable (ending = .returned (.ok id)))
  | ⟨.cloud (.getJob _), _⟩ | ⟨.cloud (.deleteJob _), _⟩ | ⟨.cloud .getAllImages, _⟩
  | ⟨.cloud (.getImage _), _⟩ | ⟨.cloud (.deleteImage _), _⟩ => inferInstanceAs (Decidable False)
  | ⟨.secret .., _⟩ | ⟨.publish .., _⟩ => inferInstanceAs (Decidable False)

/-- The call located the image. -/
def LocatesImage : OfImage → Prop
  | ⟨.cloud (.getImage _), ending⟩ => ending.Succeeded
  | _ => False

/-- The job in flight after a call. -/
def inFlight (job : Option String) : OfImage → Option String
  | ⟨.cloud (.createImportJob _), .returned (.ok id)⟩ => (some id).filter (!·.isEmpty)
  | ⟨.cloud (.getImage _), .returned (.ok _)⟩ => none
  | _ => job

theorem StartsJob.exists_eq {exchange : OfImage} {id : String} (hstarts : exchange.StartsJob id) :
    ∃ request, exchange = ⟨.cloud (.createImportJob request), .returned (.ok id)⟩ := by
  rcases exchange with ⟨call | _ | _, ending⟩
  · cases call with
    | createImportJob request =>
        obtain rfl : ending = .returned (.ok id) := hstarts
        exact ⟨request, rfl⟩
    | _ => exact hstarts.elim
  · exact hstarts.elim
  · exact hstarts.elim

theorem StartsJob.asksImport {exchange : OfImage} {id : String} (hstarts : exchange.StartsJob id) :
    exchange.AsksImport := by
  obtain ⟨request, rfl⟩ := hstarts.exists_eq
  exact trivial

theorem inFlight_of_startsJob {exchange : OfImage} {id : String} (hstarts : exchange.StartsJob id)
    (hnonempty : id ≠ "") (job : Option String) : exchange.inFlight job = some id := by
  obtain ⟨request, rfl⟩ := hstarts.exists_eq
  simp [inFlight, hnonempty]

/-- The call neither asks for a job nor locates the image. -/
def Quiet (exchange : OfImage) : Prop := ¬exchange.AsksImport ∧ ¬exchange.LocatesImage

theorem quiet_of_asksJob {exchange : OfImage} (hasks : exchange.AsksJob) : exchange.Quiet := by
  rcases exchange with ⟨call | _ | _, ending⟩
  · cases call with
    | getJob job => exact ⟨id, id⟩
    | _ => exact hasks.elim
  · exact hasks.elim
  · exact hasks.elim

theorem inFlight_of_quiet {exchange : OfImage} (hquiet : exchange.Quiet) (job : Option String) :
    exchange.inFlight job = job := by
  rcases exchange with ⟨call | _ | _, ending⟩
  · cases call with
    | createImportJob request => exact absurd trivial hquiet.1
    | getImage id =>
        rcases ending with (error | found) | _ | text
        · rfl
        · exact absurd trivial hquiet.2
        · rfl
        · rfl
    | getJob id => rfl
    | deleteJob id => rfl
    | getAllImages => rfl
    | deleteImage id => rfl
  · rfl
  · rfl

end Exchange

namespace Image

/-- The calls of a pass over an image of the name `called`, which had `recorded` for its job, and
the job that is recorded after them. -/
inductive Course (recorded : Option String) (called : String) :
    List OfImage → Option String → Prop
  | quiet (seen : List OfImage) (hquiet : ∀ exchange ∈ seen, exchange.Quiet) :
      Course recorded called seen recorded
  | asked (early : List OfImage) (request : ImportRequest)
      (ending : Outcome (Except CloudError String))
      (hquiet : ∀ exchange ∈ early, exchange.Quiet) (hidle : recorded = none)
      (hunlisted : ∀ listing : List ImageReference,
        (⟨.cloud .getAllImages, .returned (.ok listing)⟩ : OfImage) ∈ early →
          ∀ reference ∈ listing, reference.name ≠ called) :
      Course recorded called (early ++ [⟨.cloud (.createImportJob request), ending⟩])
        (Exchange.inFlight recorded ⟨.cloud (.createImportJob request), ending⟩)
  | located (early : List OfImage) (id : String) (found : BootImage)
      (hquiet : ∀ exchange ∈ early, exchange.Quiet) :
      Course recorded called (early ++ [⟨.cloud (.getImage id), .returned (.ok found)⟩]) none

theorem bind_mapStatus {γ : Type} {part : ImageStatus → Option γ} (hnone : part default = none)
    {change : ImageStatus → ImageStatus} (hchange : ∀ status, part (change status) = part status)
    (image : Image) : (image.mapStatus change).status.bind part = image.status.bind part := by
  rcases hstatus : image.status with _ | status <;>
    simp [Object.mapStatus, hstatus, hchange, hnone]

theorem jobId_mapStatus {change : ImageStatus → ImageStatus}
    (hchange : ∀ status, (change status).jobId = status.jobId) (image : Image) :
    Image.jobId (image.mapStatus change) = image.jobId :=
  congrArg (Option.filter _) (bind_mapStatus rfl hchange image)

/-- The recorded job and the name of the image are what they were. -/
structure Same (before after : Image) : Prop where
  jobId : after.jobId = before.jobId
  called : after.metadata.nameAny = before.metadata.nameAny

theorem Same.refl (image : Image) : Same image image := ⟨rfl, rfl⟩

theorem Same.trans {first second third : Image} (hfirst : Same first second)
    (hsecond : Same second third) : Same first third :=
  ⟨hsecond.jobId.trans hfirst.jobId, hsecond.called.trans hfirst.called⟩

theorem Same.update {before after : Image} (hsame : Same before after)
    {change : ImageStatus → ImageStatus}
    (hchange : ∀ status, (change status).jobId = status.jobId) :
    Same before (after.mapStatus change) :=
  hsame.trans ⟨jobId_mapStatus hchange after, rfl⟩

variable {S : Type} {environment : Environment (outside .image) S}

theorem recordWorkspace_ensures (cluster : Option PowerVsCluster) (image : Image) (start : S) :
    (recordWorkspace cluster image).Ensures environment (fun after outcome surroundings =>
      Same image after ∧ outcome = .returned (.ok ()) ∧ surroundings = start) start := by
  unfold recordWorkspace
  simp only [Action.ensures_bind, Action.ensures_get, Outcome.follow_ok]
  split
  · exact ⟨.refl image, rfl, rfl⟩
  · rcases (Image.target image cluster).serviceInstanceId with _ | id
    · exact ⟨.refl image, rfl, rfl⟩
    · exact ⟨(Same.refl image).update fun _ => rfl, rfl, rfl⟩

theorem reconcileJob_ensures (surroundings : Surroundings) (image : Image) :
    (reconcileJob surroundings image).Ensures (.recording _) (fun after _ seen =>
      Same image after ∧ ∀ exchange ∈ seen, exchange.AsksJob) [] := by
  unfold reconcileJob
  simp only [Action.ensures_bind, Action.ensures_get, Outcome.follow_ok]
  rcases hjob : Image.jobId image with _ | id
  · exact ⟨.refl image, by simp⟩
  · simp only [Action.ensures_bind, Body.ensures_attempt]
    rintro ending _ rfl
    have hseen : ∀ exchange ∈ [] ++ [(⟨.cloud (.getJob id), ending⟩ : OfImage)],
        exchange.AsksJob := by
      simp [Exchange.AsksJob]
    rcases ending with (error | job) | _ | text
    · exact ⟨.refl image, hseen⟩
    · simp only [Outcome.resume_returned, Outcome.follow_ok]
      rcases job.state with _ | _ | _ | word | word
      all_goals exact ⟨(Same.refl image).update fun _ => rfl, hseen⟩
    · exact ⟨.refl image, hseen⟩
    · exact ⟨.refl image, hseen⟩

/-- Where the image is not found by name, a job is started if none is recorded. -/
theorem getOrCreate_ensures (now : Time.Instant) (image : Image) (polls : List OfImage)
    (hpolls : ∀ exchange ∈ polls, exchange.AsksJob) :
    (getOrCreate now image).Ensures (.recording _) (fun after outcome seen =>
      Course image.jobId image.metadata.nameAny seen after.jobId ∧
        ∀ id, outcome = .returned (.ok (some id)) →
          Same image after ∧ ∀ exchange ∈ seen, exchange.Quiet) polls := by
  unfold getOrCreate
  simp only [Action.ensures_bind, Action.ensures_get, Outcome.follow_ok, Body.ensures_callFor]
  rintro listed _ rfl
  have hquiet : ∀ exchange ∈ polls ++ [(⟨.cloud .getAllImages, listed⟩ : OfImage)],
      exchange.Quiet := by
    intro exchange hmem
    rcases List.mem_append.mp hmem with hpoll | hlisting
    · exact Exchange.quiet_of_asksJob (hpolls exchange hpoll)
    · rw [List.mem_singleton.mp hlisting]
      exact ⟨id, id⟩
  rcases listed with (error | listing) | _ | text
  · exact ⟨.quiet _ hquiet, fun _ heq => by simp at heq⟩
  · simp only [Outcome.mapError_ok, Outcome.follow_ok]
    rcases hfound : listing.find? (·.name == image.metadata.nameAny) with _ | found
    · rw [hfound]
      rcases hjob : image.jobId with _ | job
      · simp only [Option.isSome_none, Bool.false_eq_true, if_false, Action.ensures_bind,
          Action.ensures_ofExcept]
        have hunlisted (others : List ImageReference) (hmem :
            (⟨.cloud .getAllImages, .returned (.ok others)⟩ : OfImage) ∈
              polls ++ [⟨.cloud .getAllImages, .returned (.ok listing)⟩]) :
            ∀ reference ∈ others, reference.name ≠ image.metadata.nameAny := by
          rcases List.mem_append.mp hmem with hpoll | hlisting
          · exact (hpolls _ hpoll).elim
          · cases List.mem_singleton.mp hlisting
            simpa using List.find?_eq_none.mp hfound
        rcases image.importRequest with error | request
        · rw [Outcome.follow_error, hjob]
          exact ⟨.quiet _ hquiet, fun _ heq => by simp at heq⟩
        · simp only [Outcome.follow_ok, Body.ensures_callFor]
          rintro ending _ rfl
          have hasked : Course image.jobId image.metadata.nameAny _ _ :=
            .asked _ request ending hquiet hjob hunlisted
          rw [hjob] at hasked
          rcases ending with (error | jobId) | _ | text
          · exact ⟨by rw [hjob]; exact hasked, fun _ heq => by simp at heq⟩
          · exact ⟨hasked, fun _ heq => by simp at heq⟩
          · exact ⟨by rw [hjob]; exact hasked, fun _ heq => by simp at heq⟩
          · exact ⟨by rw [hjob]; exact hasked, fun _ heq => by simp at heq⟩
      · simp only [Option.isSome_some, if_true, Action.ensures_pure]
        rw [hjob]
        exact ⟨.quiet _ hquiet, fun _ heq => by simp at heq⟩
    · rw [hfound]
      exact ⟨.quiet _ hquiet, fun _ _ => ⟨.refl image, hquiet⟩⟩
  · exact ⟨.quiet _ hquiet, fun _ heq => by simp at heq⟩
  · exact ⟨.quiet _ hquiet, fun _ heq => by simp at heq⟩

theorem reconcileImage_ensures (surroundings : Surroundings) (id : String) (image : Image)
    (called : String) (early : List OfImage) (hquiet : ∀ exchange ∈ early, exchange.Quiet) :
    (reconcileImage surroundings id image).Ensures (.recording _) (fun after _ seen =>
      Course image.jobId called seen after.jobId) early := by
  unfold reconcileImage
  simp only [Action.ensures_bind, Body.ensures_callFor]
  rintro ending _ rfl
  have hunlocated (hfailed : ¬ending.Succeeded) :
      Course image.jobId called (early ++ [⟨.cloud (.getImage id), ending⟩]) image.jobId := by
    refine .quiet _ fun exchange hmem => ?_
    rcases List.mem_append.mp hmem with hearly | hlast
    · exact hquiet exchange hearly
    · rw [List.mem_singleton.mp hlast]
      exact ⟨False.elim, hfailed⟩
  rcases ending with (error | found) | _ | text
  · exact hunlocated (Outcome.not_succeeded_error _)
  · simp only [Outcome.mapError_ok, Outcome.follow_ok]
    have hlocated : Course image.jobId called _ none := .located early id found hquiet
    simp only [update, Action.ensures_modify, Outcome.follow_ok]
    rcases found.state with _ | _ | _ | _ | word
    all_goals exact hlocated
  · exact hunlocated Outcome.not_succeeded_expired
  · exact hunlocated (Outcome.not_succeeded_panicked _)

theorem Same.of_edits {before after : Image} (hedits : Managed.image.Edits before after)
    (hstatus : after.status = before.status) : Same before after where
  jobId := by rw [Image.jobId, Image.jobId, hstatus]
  called := congrArg (fun part => part.metadata.nameAny) hedits.foreign

theorem Course.same {before after : Image} {called : String} {seen : List OfImage}
    {job : Option String} (hsame : Same before after)
    (hcourse : Course after.jobId after.metadata.nameAny seen job)
    (hcalled : before.metadata.nameAny = called) : Course before.jobId called seen job := by
  rwa [hsame.jobId, hsame.called, hcalled] at hcourse

/-- Every normal pass over an image takes one of the courses. -/
theorem reconcileNormal_course (surroundings : Surroundings) (image : Image) :
    (reconcileNormal surroundings image).Ensures (.recording _) (fun after _ seen =>
      Course image.jobId image.metadata.nameAny seen after.jobId) [] := by
  have hquiet {after : Image} {seen : List OfImage} (hsame : Same image after)
      (hseen : ∀ exchange ∈ seen, exchange.Quiet) :
      Course image.jobId image.metadata.nameAny seen after.jobId := by
    rw [hsame.jobId]
    exact .quiet seen hseen
  unfold reconcileNormal
  rw [Action.ensures_bind]
  apply (Body.takeOwnership_ensures surroundings.cluster image []).mono
  intro owned outcome seen hend
  obtain ⟨⟨hedits, _, hstatus⟩, rfl⟩ := hend
  have howned : Same image owned := .of_edits hedits hstatus
  have hnothing : Course image.jobId image.metadata.nameAny [] (Image.jobId owned) :=
    hquiet howned fun _ hmem => absurd hmem List.not_mem_nil
  rcases outcome with (error | _ | _) | _ | text
  · exact hnothing
  · simp only [Outcome.follow_ok, Bool.false_eq_true, if_false, Action.ensures_bind]
    apply (recordWorkspace_ensures surroundings.cluster owned []).mono
    intro settled outcome seen hend
    obtain ⟨hsettled, rfl, rfl⟩ := hend
    rw [Outcome.follow_ok]
    apply (reconcileJob_ensures surroundings settled).mono
    intro polled outcome polls hend
    obtain ⟨hpolled, hpolls⟩ := hend
    have hsame : Same image polled := howned.trans (hsettled.trans hpolled)
    have hpolling := hquiet hsame fun exchange hmem =>
      Exchange.quiet_of_asksJob (hpolls exchange hmem)
    rcases outcome with (error | _ | requeue) | _ | text
    · exact hpolling
    · simp only [Outcome.follow_ok, Action.ensures_bind]
      apply (getOrCreate_ensures surroundings.now polled polls hpolls).mono
      intro after outcome seen hend
      obtain ⟨hcourse, hfound⟩ := hend
      have hcreated := hcourse.same hsame rfl
      rcases outcome with (error | _ | id) | _ | text
      · exact hcreated
      · exact hcreated
      · obtain ⟨hafter, hseen⟩ := hfound id rfl
        rw [Outcome.follow_ok, ← hsame.jobId, ← hafter.jobId]
        exact reconcileImage_ensures surroundings id after _ seen hseen
      · exact hcreated
      · exact hcreated
    · exact hpolling
    · exact hpolling
    · exact hpolling
  · exact hnothing
  · exact hnothing
  · exact hnothing

/-- Delete passes neither ask for jobs nor locate the image. -/
theorem reconcileDelete_quiet (surroundings : Surroundings) (image : Image) :
    (reconcileDelete surroundings image).Ensures (.recording _)
      (fun _ _ seen => ∀ exchange ∈ seen, exchange.Quiet) [] := by
  cases hfinalizer : Managed.image.hasFinalizer image with
  | false =>
      unfold reconcileDelete
      simp [hfinalizer]
  | true =>
      apply (reconcileDelete_tornDown surroundings image hfinalizer).mono
      intro after _ seen htorn exchange hmem
      have hplanned := htorn.1 exchange hmem
      rcases exchange with ⟨call | _ | _, ending⟩
      · rcases teardownCall_eq_some (hplanned call rfl) with ⟨job, rfl⟩ | ⟨found, rfl⟩
        · exact ⟨id, id⟩
        · exact ⟨id, id⟩
      · exact ⟨id, id⟩
      · exact ⟨id, id⟩

end Image

/-- Jobs are asked for only while none is in flight. -/
def Sound : Option String → List OfImage → Prop
  | _, [] => True
  | job, exchange :: rest => (exchange.AsksImport → job = none) ∧ Sound (exchange.inFlight job) rest

theorem sound_append (job : Option String) (early late : List OfImage) :
    Sound job (early ++ late) ↔
      Sound job early ∧ Sound (early.foldl Exchange.inFlight job) late := by
  induction early generalizing job with
  | nil => simp [Sound]
  | cons exchange rest ih => simp [Sound, ih, and_assoc]

theorem foldl_inFlight_of_quiet {seen : List OfImage} (hquiet : ∀ exchange ∈ seen, exchange.Quiet)
    (job : Option String) : seen.foldl Exchange.inFlight job = job := by
  induction seen generalizing job with
  | nil => rfl
  | cons exchange rest ih =>
      rw [List.foldl_cons, Exchange.inFlight_of_quiet (hquiet exchange (List.mem_cons_self ..))]
      exact ih (fun exchange hmem => hquiet exchange (List.mem_cons_of_mem _ hmem)) job

theorem sound_of_quiet {seen : List OfImage} (hquiet : ∀ exchange ∈ seen, exchange.Quiet)
    (job : Option String) : Sound job seen := by
  induction seen generalizing job with
  | nil => trivial
  | cons exchange rest ih =>
      refine ⟨fun hasks => absurd hasks (hquiet exchange (List.mem_cons_self ..)).1, ?_⟩
      exact ih (fun exchange hmem => hquiet exchange (List.mem_cons_of_mem _ hmem)) _

/-- While a job is in flight, no other one is asked for before the image is located. -/
theorem Sound.exists_locatesImage {id : String} {between late : List OfImage} {again : OfImage}
    (hsound : Sound (some id) (between ++ again :: late)) (hagain : again.AsksImport) :
    ∃ exchange ∈ between, exchange.LocatesImage := by
  induction between with
  | nil => simpa using hsound.1 hagain
  | cons exchange rest ih =>
      by_cases hlocates : exchange.LocatesImage
      · exact ⟨exchange, List.mem_cons_self .., hlocates⟩
      · have hquiet : exchange.Quiet := ⟨fun hasks => by simpa using hsound.1 hasks, hlocates⟩
        have hrest := hsound.2
        rw [Exchange.inFlight_of_quiet hquiet] at hrest
        obtain ⟨located, hmem, hlocated⟩ := ih hrest
        exact ⟨located, List.mem_cons_of_mem _ hmem, hlocated⟩

namespace Image.Course

variable {recorded job : Option String} {called : String} {seen : List OfImage}

/-- The job that is recorded afterwards is the one that the calls have left in flight. -/
theorem foldl_inFlight (hcourse : Course recorded called seen job) :
    seen.foldl Exchange.inFlight recorded = job := by
  cases hcourse with
  | quiet _ hquiet => exact foldl_inFlight_of_quiet hquiet recorded
  | asked early request ending hquiet hidle hunlisted =>
      rw [List.foldl_append, foldl_inFlight_of_quiet hquiet]
      rfl
  | located early id found hquiet =>
      rw [List.foldl_append, foldl_inFlight_of_quiet hquiet]
      rfl

theorem sound (hcourse : Course recorded called seen job) : Sound recorded seen := by
  cases hcourse with
  | quiet _ hquiet => exact sound_of_quiet hquiet recorded
  | asked early request ending hquiet hidle hunlisted =>
      rw [sound_append, foldl_inFlight_of_quiet hquiet]
      exact ⟨sound_of_quiet hquiet recorded, fun _ => hidle, trivial⟩
  | located early id found hquiet =>
      rw [sound_append]
      exact ⟨sound_of_quiet hquiet recorded, False.elim, trivial⟩

/-- A job is asked for only where none was recorded and no image of the name is listed. -/
theorem of_asksImport (hcourse : Course recorded called seen job) {exchange : OfImage}
    (hmem : exchange ∈ seen) (hasks : exchange.AsksImport) :
    recorded = none ∧ ∀ listing : List ImageReference,
      (⟨.cloud .getAllImages, .returned (.ok listing)⟩ : OfImage) ∈ seen →
        ∀ reference ∈ listing, reference.name ≠ called := by
  cases hcourse with
  | quiet _ hquiet => exact absurd hasks (hquiet exchange hmem).1
  | asked early request ending hquiet hidle hunlisted =>
      refine ⟨hidle, fun listing hlisted => hunlisted listing ?_⟩
      rcases List.mem_append.mp hlisted with hearly | hlast
      · exact hearly
      · cases List.mem_singleton.mp hlast
  | located early id found hquiet =>
      rcases List.mem_append.mp hmem with hearly | hlast
      · exact absurd hasks (hquiet exchange hearly).1
      · cases List.mem_singleton.mp hlast
        exact hasks.elim

end Image.Course

/-- How the recorded job may change by what was asked: it comes to be the job just started, or goes
when the image is located. -/
def JobMoves (seen : List OfImage) (before after : Option String) : Prop :=
  after = before ∨
    (before = none ∧ ∃ id, after = some id ∧ ∃ exchange ∈ seen, exchange.StartsJob id) ∨
    (after = none ∧ ∃ exchange ∈ seen, exchange.LocatesImage)

theorem Image.Course.jobMoves {recorded job : Option String} {called : String}
    {seen : List OfImage} (hcourse : Course recorded called seen job) :
    JobMoves seen recorded job := by
  cases hcourse with
  | quiet _ _ => exact .inl rfl
  | asked early request ending _ hidle _ =>
      rcases ending with (error | id) | _ | text
      · exact .inl rfl
      · by_cases hempty : id = ""
        · exact .inl (by simp [Exchange.inFlight, hidle, hempty])
        · refine .inr (.inl ⟨hidle, id, by simp [Exchange.inFlight, hempty], ?_⟩)
          exact ⟨_, List.mem_append_right _ (List.mem_singleton_self _), rfl⟩
      · exact .inl rfl
      · exact .inl rfl
  | located early id found _ =>
      refine .inr (.inr ⟨rfl, ?_⟩)
      exact ⟨_, List.mem_append_right _ (List.mem_singleton_self _), trivial⟩

namespace World

variable {W : Type} {«namespace» name : String} {world : World W} {settings : Settings}
variable {w after : W} {visit : Visit .image}

theorem Stages.course (stages : world.Stages settings «namespace» name w visit after) :
    Image.Course (Image.jobId visit.object) visit.object.metadata.nameAny visit.exchanges
      (Image.jobId visit.left.object) := by
  rcases hdeleting : visit.object.metadata.isDeleting with _ | _
  · exact stages.of_reconcileNormal hdeleting fun _ =>
      Image.reconcileNormal_course _ visit.object
  · have hquiet : ∀ exchange ∈ visit.exchanges, exchange.Quiet :=
      stages.of_reconcileDelete hdeleting fun surroundings =>
        Image.reconcileDelete_quiet surroundings visit.object
    have hsame : Image.jobId visit.left.object = Image.jobId visit.object := by
      rw [Image.jobId, Image.jobId, stages.status_of_deleting hdeleting]
    rw [hsame]
    exact .quiet _ hquiet

variable {view : W → Timeline .image «namespace» name} {others : Conduct .image}

/-- In the course of a pass the recorded job moves as the pass has asked. -/
theorem evolves_jobMoves (hserves : world.Serves view others)
    (hkeeps : others.Keeps fun image => image.status)
    (hvisit : world.visit .image settings «namespace» name w = (some visit, after)) :
    Evolves others (fun before after =>
      JobMoves visit.exchanges (Image.jobId before) (Image.jobId after)) (view w) (view after) := by
  obtain ⟨stages⟩ := stages_of_visit hvisit
  obtain ⟨scope, hheld⟩ := (hserves.writesStatus_of_visit hvisit hkeeps).reached
  apply hheld.holds.evolves.mono
  intro before after hmoves
  rcases hmoves with hsame | ⟨hgiven, hwanted⟩
  · exact .inl (by rw [Image.jobId, Image.jobId, hsame])
  · have hcourse := stages.course.jobMoves
    rwa [Image.jobId, Image.jobId, ← hgiven, ← hwanted] at hcourse

/-- While other writers keep the status, they keep the recorded job. -/
theorem jobId_of_drifts (hkeeps : others.Keeps fun image => image.status)
    {before after : Timeline .image «namespace» name} (hdrifts : Drifts others before after)
    {now : Image} (hnow : after.current = some now) :
    ∃ given : Image, before.current = some given ∧ now.jobId = given.jobId := by
  obtain ⟨given, hgiven, hstatus⟩ := hdrifts.part_eq hkeeps hnow
  exact ⟨given, hgiven, by rw [Image.jobId, Image.jobId, hstatus]⟩

/-- A settled pass leaves the image with the job that its calls have left in flight. -/
theorem jobId_of_settled (hserves : world.Serves view others)
    (hkeeps : others.Keeps fun image => image.status)
    (hvisit : world.visit .image settings «namespace» name w = (some visit, after))
    (hsettled : visit.Settled) {stored : Image} (hstored : (view after).current = some stored) :
    stored.jobId = visit.exchanges.foldl Exchange.inFlight (Image.jobId visit.object) := by
  obtain ⟨stages⟩ := stages_of_visit hvisit
  have hstatus : stored.status = visit.left.object.status :=
    hserves.status_of_settled hkeeps hvisit hsettled hstored
  rw [stages.course.foldl_inFlight, Image.jobId, Image.jobId, hstatus]

/-- The calls of a run, in their order. -/
def log (stages : List (Stage .image W)) : List OfImage :=
  stages.flatMap fun stage => stage.visit.exchanges

/-- Over a run of settled passes, the stored job is the one in flight, and jobs are asked for only
while none is. -/
theorem Run.sound_log {first last : W} {stages : List (Stage .image W)}
    (hserves : world.Serves view others) (hkeeps : others.Keeps fun image => image.status)
    (hrun : world.Run view others first stages last)
    (hsettled : ∀ stage ∈ stages, stage.visit.Settled) :
    Sound ((view first).current.bind Image.jobId) (log stages) ∧
      ∀ stored : Image, (view last).current = some stored → stored.jobId =
        (log stages).foldl Exchange.inFlight ((view first).current.bind Image.jobId) := by
  induction hrun using Run.drift_induction with
  | serves => exact hserves
  | start => exact ⟨trivial, fun stored hstored => by rw [hstored]; rfl⟩
  | @visited before after stages visit settings _ hvisit ih =>
      obtain ⟨hsound, hjob⟩ := ih fun stage hstage => hsettled stage (List.mem_append_left _ hstage)
      have hlast := hsettled _ (List.mem_append_right _ (List.mem_singleton_self _))
      obtain ⟨taken⟩ := stages_of_visit hvisit
      obtain ⟨asked, hasked, hcurrent, _⟩ := hserves.drifts_of_stages taken
      obtain ⟨given, hgiven, hsame⟩ := jobId_of_drifts hkeeps hasked hcurrent
      have hfetched := hsame.trans (hjob given hgiven)
      have hlog : log (stages ++ [⟨before, visit, after⟩]) = log stages ++ visit.exchanges := by
        simp [log]
      rw [hlog, sound_append, List.foldl_append, ← hfetched]
      exact ⟨⟨hsound, taken.course.sound⟩, fun stored hstored =>
        jobId_of_settled hserves hkeeps hvisit hlast hstored⟩
  | drifted _ hdrifts ih =>
      obtain ⟨hsound, hjob⟩ := ih hsettled
      refine ⟨hsound, fun stored hstored => ?_⟩
      obtain ⟨given, hgiven, hsame⟩ := jobId_of_drifts hkeeps hdrifts hstored
      exact hsame.trans (hjob given hgiven)

/-- Over any run of settled passes, between two jobs that were started the image was located.  The
stored job only ever comes to be the one just started where there was none, or goes in a pass that
located the image; and no pass asks for a job that found one recorded, or the image listed. -/
theorem one_import_job {first last : W} {stages : List (Stage .image W)}
    (hserves : world.Serves view others) (hkeeps : others.Keeps fun image => image.status)
    (hrun : world.Run view others first stages last)
    (hsettled : ∀ stage ∈ stages, stage.visit.Settled)
    (hids : ∀ exchange ∈ log stages, ∀ id, exchange.StartsJob id → id ≠ "") :
    (∀ early start between again late started restarted,
      log stages = early ++ start :: (between ++ again :: late) →
      start.StartsJob started → again.StartsJob restarted →
      ∃ exchange ∈ between, exchange.LocatesImage) ∧
    ∀ stage ∈ stages,
      Evolves others (fun before after =>
        JobMoves stage.visit.exchanges (Image.jobId before) (Image.jobId after))
          (view stage.before) (view stage.after) ∧
      ∀ exchange ∈ stage.visit.exchanges, exchange.AsksImport →
        Image.jobId stage.visit.object = none ∧ ∀ listing : List ImageReference,
          (⟨.cloud .getAllImages, .returned (.ok listing)⟩ : OfImage) ∈ stage.visit.exchanges →
            ∀ reference ∈ listing, reference.name ≠ stage.visit.object.metadata.nameAny := by
  refine ⟨?_, fun stage hstage => ?_⟩
  · intro early start between again late started restarted hlog hstart hagain
    have hsound := (Run.sound_log hserves hkeeps hrun hsettled).1
    have hnonempty := hids start (by simp [hlog]) started hstart
    rw [hlog, sound_append] at hsound
    have hrest := hsound.2.2
    rw [Exchange.inFlight_of_startsJob hstart hnonempty] at hrest
    exact hrest.exists_locatesImage hagain.asksImport
  · obtain ⟨settings, hvisit⟩ := hrun.visit_of_mem hstage
    obtain ⟨taken⟩ := stages_of_visit hvisit
    exact ⟨evolves_jobMoves hserves hkeeps hvisit,
      fun exchange hmem hasks => taken.course.of_asksImport hmem hasks⟩

end World

/-- A provider that lists the image when its job is completed, but not for long. -/
def Bench.losing : World Bench :=
  world cluster (provider (fun n => if n = 3 then [⟨"img-1", "boot"⟩] else [])
    (.returned (.ok ()))) fun _ => none

/-- A job is started, the image located, and another job started once the image is lost. -/
theorem World.one_import_job_restarted : ∃ stages last early start between again late,
    Bench.losing.Run Bench.timeline Conduct.gentle Bench.fresh stages last ∧
    log stages = early ++ start :: (between ++ again :: late) ∧
    start.StartsJob "job-2" ∧ again.StartsJob "job-2" ∧
    ∃ exchange ∈ between, exchange.LocatesImage := by
  obtain ⟨starting, hstarting, hsettledFirst, hidsFirst, start, hstart, hstarts⟩ : ∃ visit,
      Bench.losing.visit .image {} "default" "boot" Bench.fresh = (some visit, _) ∧
      visit.Settled ∧ (∀ exchange ∈ visit.exchanges, ¬exchange.StartsJob "") ∧
      ∃ exchange ∈ visit.exchanges, exchange.StartsJob "job-2" :=
    Bench.exists_visit (by decide +kernel)
  obtain ⟨locating, hlocating, hsettledSecond, hidsSecond⟩ : ∃ visit,
      Bench.losing.visit .image {} "default" "boot" (Bench.fresh.passed Bench.losing) =
        (some visit, _) ∧
      visit.Settled ∧ ∀ exchange ∈ visit.exchanges, ¬exchange.StartsJob "" :=
    Bench.exists_visit (by decide +kernel)
  obtain ⟨losing, hlosing, hsettledLast, hidsLast, again, hagain, hrestarts⟩ : ∃ visit,
      Bench.losing.visit .image {} "default" "boot"
        ((Bench.fresh.passed Bench.losing).passed Bench.losing) = (some visit, _) ∧
      visit.Settled ∧ (∀ exchange ∈ visit.exchanges, ¬exchange.StartsJob "") ∧
      ∃ exchange ∈ visit.exchanges, exchange.StartsJob "job-2" :=
    Bench.exists_visit (by decide +kernel)
  obtain ⟨stages, last, hrun, hcalls, hsettled⟩ : ∃ stages last,
      Bench.losing.Run Bench.timeline Conduct.gentle Bench.fresh stages last ∧
      log stages = starting.exchanges ++ (locating.exchanges ++ losing.exchanges) ∧
      ∀ stage ∈ stages, stage.visit.Settled :=
    ⟨_, _, (((Run.start _).visited {} hstarting).visited {} hlocating).visited {} hlosing,
      by simp [log], by simp [hsettledFirst, hsettledSecond, hsettledLast]⟩
  have hids (exchange : OfImage) (hmem : exchange ∈ log stages) (id : String)
      (hnamed : exchange.StartsJob id) : id ≠ "" := by
    rintro rfl
    rw [hcalls, List.mem_append, List.mem_append] at hmem
    rcases hmem with hfirst | hsecond | hlast
    · exact hidsFirst exchange hfirst hnamed
    · exact hidsSecond exchange hsecond hnamed
    · exact hidsLast exchange hlast hnamed
  obtain ⟨early, rest, hfirst⟩ := List.append_of_mem hstart
  obtain ⟨before, late, hlast⟩ := List.append_of_mem hagain
  have hlog : log stages =
      early ++ start :: (rest ++ locating.exchanges ++ before ++ again :: late) := by
    simp [hcalls, hfirst, hlast]
  obtain ⟨hbetween, _⟩ := one_import_job (Bench.serves _ _ _)
    (Conduct.gentle_keeps.comp Prod.snd) hrun hsettled hids
  exact ⟨stages, last, early, start, _, again, late, hrun, hlog, hstarts, hrestarts,
    hbetween early start _ again late _ _ hlog hstarts hrestarts⟩

end Reconciler
