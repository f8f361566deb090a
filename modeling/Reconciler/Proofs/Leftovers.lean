import Reconciler.Proofs.Finalizer
import Reconciler.Proofs.Records

/-!
# Images that outlive their object

A delete pass that lets an image go takes away the image on record.  What a job has produced is on
record once it was located; until then its job is, and to delete the job does not take the image
away.
-/

namespace Reconciler

open Relation (ReflTransGen)

namespace World

open Depot (Turns grows_of_turns)

variable {W : Type} {«namespace» name : String} {world : World W} {settings : Settings}
variable {target : WorkspaceTarget} {history : W → Timeline .image «namespace» name}
variable {depot : W → Depot} {others : Conduct .image}

/-- The recorded image is gone once a delete pass has let its object go. -/
theorem Surrounds.not_holds_of_released {w after : W} {visit : Visit .image}
    (hsurrounds : world.Surrounds target depot (Depot.provided name) Turns)
    (hvisit : world.visit .image settings «namespace» name w = (some visit, after))
    (hdeleting : visit.Deleting) (htarget : visit.opened.target = target)
    (hfinalizer : Managed.image.hasFinalizer visit.object = true)
    (hreleased : Managed.image.hasFinalizer visit.left.object = false)
    (hpolicy : visit.object.spec.deletePolicy = .delete)
    (hagrees : (depot w).Agrees visit.object) {image : String}
    (himage : Image.imageId visit.object = some image) : ¬(depot after).Holds image := by
  obtain ⟨stages⟩ := stages_of_visit hvisit
  obtain ⟨start, ready, hstart, hacts, hready⟩ := hsurrounds.acts_of_stages stages htarget
  obtain ⟨-, hmade⟩ := stages.of_reconcileDelete hdeleting fun surroundings =>
    Image.reconcileDelete_tornDown surroundings visit.object hfinalizer
  obtain ⟨-, hwell⟩ := ((stages.releasedWhen_of_deleting hdeleting
    hfinalizer).hasFinalizer_eq_false_iff hfinalizer).mp hreleased
  obtain ⟨⟨question, ending⟩, hmem, rfl⟩ := hmade hreleased (.deleteImage image)
    (by simp [Image.teardownCall, himage, hpolicy])
  have hknown : image ∈ start.images :=
    (grows_of_turns none hstart).images (hagrees.known image himage)
  obtain ⟨hremaining, hgone⟩ :=
    Depot.not_holds_of_removed hacts.along hmem (hwell _ hmem) hknown
  exact (grows_of_turns none hready).not_holds hremaining hgone

/-- After any run of passes and a delete pass that lets the image go, what a job has produced is
gone exactly when it was on record at the deletion, or had been taken away by others or by an
earlier pass.  While its job was on record, it was not, so that it is left unless others took it
away. -/
theorem imported_gone_iff (hserves : world.Serves history others)
    (hkeeps : others.Keeps fun image => image.status)
    (hsurrounds : world.Surrounds target depot (Depot.provided name) Turns)
    {first leaving last : W} {stages : List (Stage .image W)}
    (hpasses : world.Passes .image «namespace» name id (Aside others history depot) first stages
      leaving)
    (htargets : ∀ stage ∈ stages, stage.visit.opened.target = target)
    (hfirst : ∀ stored, (history first).current = some stored → (depot first).Agrees stored)
    {deletion : Visit .image}
    (hvisit : world.visit .image settings «namespace» name leaving = (some deletion, last))
    (hdeleting : deletion.Deleting) (htarget : deletion.opened.target = target)
    (hfinalizer : Managed.image.hasFinalizer deletion.object = true)
    (hreleased : Managed.image.hasFinalizer deletion.left.object = false)
    (hpolicy : deletion.object.spec.deletePolicy = .delete)
    {job image : String} (hproduct : (job, image) ∈ (depot last).products) :
    (¬(depot last).Holds image ↔ image ∈ (depot last).lost ∨ image ∈ (depot leaving).removed ∨
      Image.imageId deletion.object = some image) ∧
    (Image.jobId deletion.object = some job →
      ((depot last).Holds image ↔ image ∉ (depot last).lost)) := by
  have hagrees : (depot leaving).Agrees deletion.object := hserves.agrees_of_fetched hkeeps hvisit
    (hpasses.agrees hserves hkeeps hsurrounds htargets hfirst)
  obtain ⟨hgrows, -⟩ := hsurrounds.grows_of_visit hvisit htarget
    (hserves.nameAny_of_visit hvisit) hagrees
  have hknown : image ∈ (depot last).images := (depot last).produced _ hproduct
  refine ⟨⟨fun hgone => ?gone, ?away⟩, fun hjob => ?left⟩
  case gone =>
    by_contra hnot
    obtain ⟨hlost, hearlier, himage⟩ : _ ∧ _ ∧ _ := by simpa [not_or] using hnot
    exact hgone ⟨hknown, hlost, fun hremoved =>
      (hgrows.spares image hremoved).elim hearlier himage⟩
  case away =>
    rintro (hlost | hearlier | himage) hholds
    · exact hholds.2.1 hlost
    · exact hholds.2.2 (hgrows.removed hearlier)
    · exact hsurrounds.not_holds_of_released hvisit hdeleting htarget hfinalizer hreleased hpolicy
        hagrees himage hholds
  case left =>
    have hlast : (depot last).Agrees deletion.object := hagrees.grows hgrows fun _ => id
    obtain ⟨-, hremoved⟩ := hlast.unlocated job hjob image hproduct
    exact ⟨fun hholds => hholds.2.1, fun hlost => ⟨hknown, hlost, hremoved⟩⟩

end World

/-- A provider with a depot for the image of the bench: jobs that are not running are completed, and
all images are active. -/
def Depot.reply : (question : BodyQuestion .image) → Depot → Outcome question.Answer × Depot
  | .cloud (.createImportJob request), depot =>
    if request.imageName = "boot" ∧ depot.Fresh "job" then
      (.returned (.ok "job"), depot.start "job")
    else (.expired, depot)
  | .cloud (.getJob id), depot =>
    (.returned (.ok ⟨id, if id ∈ depot.running then .queued else .completed, ""⟩), depot)
  | .cloud (.deleteJob id), depot => (.returned (.ok ()), depot.stop id)
  | .cloud .getAllImages, depot =>
    (.returned (.ok ((depot.images.filter (depot.Holds ·)).map (⟨·, "boot"⟩))), depot)
  | .cloud (.getImage id), depot => (.returned (.ok ⟨id, "boot", .active⟩), depot)
  | .cloud (.deleteImage id), depot => (.returned (.ok ()), depot.remove id)
  | .secret .., depot => (.returned (.ok none), depot)
  | .publish .., depot => (.returned (.ok ()), depot)

theorem Depot.provided_reply (question : BodyQuestion .image) (depot : Depot) :
    provided "boot" question (reply question depot).1 depot (reply question depot).2 := by
  refine ⟨depot, _, .refl, ?_, .refl⟩
  rcases question with call | _ | _
  · cases call with
    | createImportJob request =>
        dsimp only [reply]
        split
        · next hstarts =>
          refine .inl ⟨"job", hstarts.2, fun id hid => ?_, hstarts.1, rfl⟩
          simpa using hid.symm
        · exact .inr ⟨fun hthis => hthis.2, rfl⟩
    | getJob id => rfl
    | deleteJob id => exact .inl rfl
    | getAllImages =>
        refine ⟨rfl, ?_⟩
        rintro _ ⟨⟩ image
        simpa using fun hholds => hholds.1
    | getImage id =>
        refine ⟨rfl, ?_⟩
        rintro _ ⟨⟩
        rfl
    | deleteImage id => exact .inl rfl
  · rfl
  · rfl

/-- The bench with a depot for its provider. -/
structure Dock where
  bench : Bench
  depot : Depot

namespace Dock

abbrev history (dock : Dock) : Timeline .image "default" "boot" := dock.bench.timeline

def world : World Dock where
  access
    | .image, question, dock =>
      let (answer, bench) := Bench.access Bench.cluster question dock.bench
      (answer, { dock with bench })
    | .machine, .fetch .., dock => (.ok none, dock)
    | .machine, .fetchCluster .., dock => (.ok none, dock)
    | .machine, .connect _, dock => ((), dock)
    | .machine, .replace _, dock => (.error (.api .unreadable), dock)
    | .machine, .replaceStatus _, dock => (.error (.api .unreadable), dock)
  outside
    | .image, _, _, question, dock =>
      let (ending, depot) := Depot.reply question dock.depot
      (ending, { dock with depot })
    | .machine, _, _, _, dock => (.expired, dock)
  clock _ := 0
  now _ := ⟨0, 0⟩

theorem serves : world.Serves history Conduct.gentle where
  access question dock := Bench.served_access Conduct.gentle Bench.cluster question dock.bench
  outside _ _ _ _ := .refl

theorem surrounds (target : WorkspaceTarget) :
    world.Surrounds target depot (Depot.provided "boot") Depot.Turns where
  access question dock := by
    cases question <;> exact .refl
  outside _ question dock := Depot.provided_reply question dock.depot

/-- An image that nothing has been done for yet, and nothing at the provider. -/
def empty : Dock := ⟨Bench.fresh, ⟨[], [], [], [], [], by simp, by simp⟩⟩

theorem agrees_empty (stored : Image) (hstored : empty.history.current = some stored) :
    empty.depot.Agrees stored := by
  obtain rfl : Bench.image = stored := Option.some.inj hstored
  exact Depot.agrees_of_unrecorded rfl rfl

/-- The job comes to its end. -/
def finish (dock : Dock) : Dock := { dock with depot := dock.depot.complete "job" "img" }

/-- Others ask for the deletion of the image. -/
def delete (dock : Dock) : Dock := { dock with bench := dock.bench.delete }

/-- Passes over the image come from the empty dock to this one. -/
abbrev Reaches (stages : List (World.Stage .image Dock)) (dock : Dock) : Prop :=
  world.Passes .image "default" "boot" id (World.Aside Conduct.gentle history depot) empty stages
    dock

theorem Reaches.finish {stages : List (World.Stage .image Dock)} {dock : Dock}
    (hreaches : Reaches stages dock) (hrunning : "job" ∈ dock.depot.running)
    (hfresh : "img" ∉ dock.depot.images) : Reaches stages dock.finish :=
  hreaches.meanwhile (.single ⟨.refl, .single (.completed "job" "img" hrunning hfresh)⟩)

theorem Reaches.delete {stages : List (World.Stage .image Dock)} {dock : Dock}
    (hreaches : Reaches stages dock) : Reaches stages dock.delete :=
  hreaches.meanwhile (.single ⟨Bench.drifts_meddle _ _, .refl⟩)

/-- The dock after a pass over its image. -/
def passed (dock : Dock) : Dock := (world.visit .image {} "default" "boot" dock).2

/-- A pass of which something is computed. -/
theorem exists_visit {dock : Dock} {holds : Visit .image → Prop} [DecidablePred holds]
    (hcomputed : (world.visit .image {} "default" "boot" dock).1.any
      (fun visit => decide (holds visit)) = true) :
    ∃ visit, world.visit .image {} "default" "boot" dock = (some visit, dock.passed) ∧
      holds visit := by
  rcases hvisit : world.visit .image {} "default" "boot" dock with ⟨_ | visit, after⟩
  · simp [hvisit] at hcomputed
  · exact ⟨visit, by rw [passed, hvisit], by simpa [hvisit] using hcomputed⟩

/-- The workspace of the cluster. -/
def target : WorkspaceTarget := ⟨some "workspace", some "zone", none⟩

end Dock

namespace World

/-- An image that was located before the deletion is taken away with its object. -/
theorem imported_gone_located : ∃ stages leaving deletion,
    Dock.Reaches stages leaving ∧
    Dock.world.visit .image {} "default" "boot" leaving = (some deletion, leaving.passed) ∧
    ("job", "img") ∈ leaving.passed.depot.products ∧ ¬leaving.passed.depot.Holds "img" := by
  obtain ⟨starting, hstarting, hfirst⟩ : ∃ visit,
      Dock.world.visit .image {} "default" "boot" Dock.empty = (some visit, _) ∧
      visit.opened.target = Dock.target :=
    Dock.exists_visit (by decide +kernel)
  obtain ⟨locating, hlocating, hsecond⟩ : ∃ visit,
      Dock.world.visit .image {} "default" "boot" Dock.empty.passed.finish = (some visit, _) ∧
      visit.opened.target = Dock.target :=
    Dock.exists_visit (by decide +kernel)
  obtain ⟨deletion, hdeletion, hdeleting, htarget, hfinalizer, hreleased, hpolicy, himage⟩ :
      ∃ visit, Dock.world.visit .image {} "default" "boot"
        Dock.empty.passed.finish.passed.delete = (some visit, _) ∧
      visit.object.metadata.isDeleting = true ∧ visit.opened.target = Dock.target ∧
      Managed.image.hasFinalizer visit.object = true ∧
      Managed.image.hasFinalizer visit.left.object = false ∧
      visit.object.spec.deletePolicy = .delete ∧ Image.imageId visit.object = some "img" :=
    Dock.exists_visit (by decide +kernel)
  have hstarted : Dock.Reaches _ Dock.empty.passed := (Passes.start _).visited {} hstarting
  have hfinished := hstarted.finish (by decide +kernel) (by decide +kernel)
  have hlocated : Dock.Reaches _ Dock.empty.passed.finish.passed :=
    hfinished.visited {} hlocating
  have hreaches := hlocated.delete
  have hproduct : ("job", "img") ∈
      Dock.empty.passed.finish.passed.delete.passed.depot.products := by
    decide +kernel
  obtain ⟨hgone, -⟩ := imported_gone_iff Dock.serves (Conduct.gentle_keeps.comp Prod.snd)
    (Dock.surrounds Dock.target) hreaches (by simp [hfirst, hsecond]) Dock.agrees_empty hdeletion
    hdeleting htarget hfinalizer hreleased hpolicy hproduct
  exact ⟨_, _, deletion, hreaches, hdeletion, hproduct, hgone.mpr (.inr (.inr himage))⟩

/-- Where the job is completed and the image is deleted before it is located, the delete pass
deletes the job and lets the image go, and what was imported stays behind. -/
theorem imported_stays_behind : ∃ stages leaving deletion last,
    Dock.world.Serves Dock.history Conduct.gentle ∧
    Dock.world.Surrounds Dock.target Dock.depot (Depot.provided "boot") Depot.Turns ∧
    Dock.Reaches stages leaving ∧
    (∃ stage ∈ stages, stage.visit.opened.target = Dock.target ∧
      ∃ exchange ∈ stage.visit.exchanges, exchange.StartsJob "job") ∧
    Dock.world.visit .image {} "default" "boot" leaving = (some deletion, last) ∧
    deletion.Deleting ∧ deletion.opened.target = Dock.target ∧
    deletion.object.spec.deletePolicy = .delete ∧
    Managed.image.hasFinalizer deletion.object = true ∧
    Managed.image.hasFinalizer deletion.left.object = false ∧
    Image.jobId deletion.object = some "job" ∧
    ("job", "img") ∈ last.depot.products ∧ last.depot.Holds "img" := by
  obtain ⟨starting, hstarting, htarget, hstarts⟩ : ∃ visit,
      Dock.world.visit .image {} "default" "boot" Dock.empty = (some visit, _) ∧
      visit.opened.target = Dock.target ∧
      ∃ exchange ∈ visit.exchanges, exchange.StartsJob "job" :=
    Dock.exists_visit (by decide +kernel)
  obtain ⟨deletion, hdeletion, hcomputed⟩ : ∃ visit,
      Dock.world.visit .image {} "default" "boot" Dock.empty.passed.finish.delete =
        (some visit, _) ∧
      visit.object.metadata.isDeleting = true ∧ visit.opened.target = Dock.target ∧
      visit.object.spec.deletePolicy = .delete ∧
      Managed.image.hasFinalizer visit.object = true ∧
      Managed.image.hasFinalizer visit.left.object = false ∧
      Image.jobId visit.object = some "job" :=
    Dock.exists_visit (by decide +kernel)
  obtain ⟨hdeleting, hdeletionTarget, hpolicy, hfinalizer, hreleased, hjob⟩ := hcomputed
  have hstarted : Dock.Reaches _ Dock.empty.passed := (Passes.start _).visited {} hstarting
  have hreaches := (hstarted.finish (by decide +kernel) (by decide +kernel)).delete
  exact ⟨_, _, deletion, _, Dock.serves, Dock.surrounds _, hreaches,
    ⟨_, List.mem_append_right _ (List.mem_singleton_self _), htarget, hstarts⟩, hdeletion,
    hdeleting, hdeletionTarget, hpolicy, hfinalizer, hreleased, hjob, by decide +kernel,
    by decide +kernel⟩

end World

end Reconciler
