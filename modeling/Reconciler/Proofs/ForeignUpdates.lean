import Reconciler.Proofs.Bench
import Reconciler.Proofs.Persistence

/-!
# No update of another writer is lost

Closing replays the changes of a pass on top of whatever other writers have made of the object in
the meantime, as often as it takes.  What is stored in the end is their last version with the marks
and the status of the pass.
-/

namespace Reconciler

/-- With nothing left to write, the stored marks are those of the working copy. -/
theorem Scope.Clean.marks_eq {managed : Managed} {scope : Scope managed} (hclean : scope.Clean) :
    managed.marks scope.stored = managed.marks scope.object := by
  have hchanged := hclean.1
  simp only [metadataChanged, Bool.or_eq_false_iff, bne_eq_false_iff_eq] at hchanged
  obtain ⟨⟨hfinalizers, howners⟩, hlabels⟩ := hchanged
  simp only [Managed.marks, Managed.metadataMarks, Metadata.hasFinalizer, Metadata.label?,
    Metadata.owners, hfinalizers, howners, hlabels]

namespace Scope

variable {managed : Managed} {«namespace» name : String} {others : Conduct managed}

/-- While other writers keep the marks, what is stored has the marks that the pass was given, or
those that it wants. -/
structure WritesMarks (given wanted : Marks) (scope : Scope managed)
    (timeline : Timeline managed «namespace» name) : Prop where
  made : (managed.marks scope.stored).MadeFrom (managed.marks scope.object)
  wants : Wants managed.marks wanted scope timeline
  stored : managed.marks scope.stored = given ∨ managed.marks scope.stored = wanted

theorem kept_writesMarks (hkeeps : others.Keeps managed.marks) (given wanted : Marks) :
    Kept others fun scope (timeline : Timeline managed «namespace» name) =>
      WritesMarks given wanted scope timeline := by
  have hkept : Kept others fun scope (timeline : Timeline managed «namespace» name) =>
      (managed.marks scope.stored).MadeFrom (managed.marks scope.object) ∧
        Wants managed.marks wanted scope timeline := kept_wants_marks hkeeps wanted
  constructor
  case drift =>
    intro scope before after htracks hwrites hdrifts
    obtain ⟨hmade, hwants⟩ := hkept.drift htracks ⟨hwrites.made, hwrites.wants⟩ hdrifts
    exact ⟨hmade, hwants, hwrites.stored⟩
  case metadata =>
    intro scope before after version htracks hwrites hchanged hcurrent hversions
    obtain ⟨hmade, hwants⟩ :=
      hkept.metadata htracks ⟨hwrites.made, hwrites.wants⟩ hchanged hcurrent hversions
    exact ⟨hmade, hwants, .inr hwrites.wants.object⟩
  case status =>
    intro scope before after version htracks hwrites hunchanged hstays hcurrent hversions
    obtain ⟨hmade, hwants⟩ :=
      hkept.status htracks ⟨hwrites.made, hwrites.wants⟩ hunchanged hstays hcurrent hversions
    exact ⟨hmade, hwants, hwrites.stored⟩
  case rebase =>
    intro scope timeline latest htracks hwrites hlatest
    obtain ⟨hmade, hwants⟩ := hkept.rebase htracks ⟨hwrites.made, hwrites.wants⟩ hlatest
    have hkept := hwrites.wants.current hlatest
    exact ⟨hmade, hwants, hwrites.stored.imp hkept.trans hkept.trans⟩

end Scope

namespace World

variable {W : Type} {managed : Managed} {«namespace» name : String} {world : World W}
variable {settings : Settings} {w after : W} {visit : Visit managed}
variable {view : W → Timeline managed «namespace» name} {others : Conduct managed}

/-- What is stored after a pass has the marks that the pass fetched or left, and those that it left
once its scope is closed. -/
theorem marks_of_visit (hserves : world.Serves view others)
    (hvisit : world.visit managed settings «namespace» name w = (some visit, after))
    (hkeeps : others.Keeps managed.marks) {stored : managed.Resource}
    (hstored : (view after).current = some stored) :
    (managed.marks stored = managed.marks visit.object ∨
      managed.marks stored = managed.marks visit.left.object) ∧
    (visit.closed = .ok () → managed.marks stored = managed.marks visit.left.object ∧
      visit.final.Clean ∧ managed.marks visit.final.object = managed.marks visit.left.object) := by
  obtain ⟨stages⟩ := stages_of_visit hvisit
  have hsettles := hserves.settles_of_visit (Scope.kept_writesMarks hkeeps
    (managed.marks visit.object) (managed.marks visit.left.object)) hvisit
    fun asked ready _ hcurrent hready => by
      have hmade := stages.edits.marks
      rw [← stages.stored_eq] at hcurrent hmade ⊢
      exact ⟨hmade, .start hkeeps hcurrent hready, .inl rfl⟩
  refine ⟨?_, fun hclosed => ?_⟩
  · obtain ⟨scope, -, hwrites⟩ := hsettles.reached
    have hcurrent := hwrites.wants.current hstored
    exact hwrites.stored.imp hcurrent.trans hcurrent.trans
  · obtain ⟨⟨-, hwrites⟩, hclean | hgone⟩ := hsettles.done (by rw [hclosed])
    · refine ⟨?_, hclean, hwrites.wants.object⟩
      calc
        managed.marks stored = managed.marks visit.final.stored := hwrites.wants.current hstored
        _ = managed.marks visit.final.object := hclean.marks_eq
        _ = managed.marks visit.left.object := hwrites.wants.object
    · simp [hkeeps.current_eq_none hgone] at hstored

/-- A pass that closed its scope has left the stored object to other writers, whatever they did. -/
theorem follows_of_visit (hserves : world.Serves view others)
    (hvisit : world.visit managed settings «namespace» name w = (some visit, after)) :
    (view after).Follows visit.object := by
  have hsettles := hserves.settles_of_visit (Scope.kept_follows others visit.object) hvisit
    fun asked ready _ hcurrent hready => (Timeline.follows_of_current hcurrent).drifts hready
  obtain ⟨scope, hheld⟩ := hsettles.reached
  exact hheld.holds

/-- What the marks and the status are once the scope of a pass is closed. -/
theorem closed_of_visit (hserves : world.Serves view others)
    (hvisit : world.visit managed settings «namespace» name w = (some visit, after))
    (hkeeps : others.Keeps fun object => (managed.marks object, object.status))
    (hclosed : visit.closed = .ok ()) {stored : managed.Resource}
    (hstored : (view after).current = some stored) :
    managed.marks stored = managed.marks visit.left.object ∧
      stored.status = visit.left.object.status := by
  obtain ⟨stages⟩ := stages_of_visit hvisit
  have hstatus : others.Keeps fun object => object.status := hkeeps.comp Prod.snd
  obtain ⟨hmarks, hclean, hfinal⟩ :=
    (marks_of_visit hserves hvisit (hkeeps.comp Prod.fst) hstored).2 hclosed
  obtain ⟨⟨_, hwrites⟩, _⟩ := (hserves.writesStatus_of_visit hvisit hstatus).done (by rw [hclosed])
  refine ⟨hmarks, (hwrites.wants.current hstored).trans ?_⟩
  rcases hclean.2 with hreleased | hsame
  · -- A scope is released only by a delete pass, which wants no other status.
    have hdeleting : visit.Deleting := by
      by_contra hnot
      have hnormal : visit.Normal := by simpa [Visit.Normal, Visit.Deleting] using hnot
      have howned := (stages.owned_of_normal hnormal).2
      have hfinalizer : managed.hasFinalizer visit.final.object = true :=
        (congrArg Marks.finalizer hfinal).trans howned
      simp [Scope.released, hfinalizer] at hreleased
    have hunchanged := stages.status_of_deleting hdeleting
    exact hwrites.stored.elim (fun hgiven => hgiven.trans hunchanged.symm) id
  · exact hsame.symm.trans hwrites.wants.object

/-- If a pass closes its scope and the object is still stored, then what is stored is the latest
version of other writers in everything that belongs to them, with the marks and the status of the
pass. -/
theorem no_lost_update (hserves : world.Serves view others)
    (hkeeps : others.Keeps fun object => (managed.marks object, object.status))
    (hvisit : world.visit managed settings «namespace» name w = (some visit, after))
    (hclosed : visit.closed = .ok ()) {stored : managed.Resource}
    (hstored : (view after).current = some stored) :
    ∃ newer writer older, (view after).versions = newer ++ ⟨writer, visit.object⟩ :: older ∧
      managed.foreignPart stored =
        managed.foreignPart (Timeline.latestForeign visit.object newer) ∧
      managed.marks stored = managed.marks visit.left.object ∧
      stored.status = visit.left.object.status := by
  obtain ⟨newer, writer, older, hversions, hforeign⟩ := follows_of_visit hserves hvisit
  obtain ⟨hmarks, hstatus⟩ := closed_of_visit hserves hvisit hkeeps hclosed hstored
  exact ⟨newer, writer, older, hversions, hforeign stored hstored, hmarks, hstatus⟩

end World

/-- While a pass lists the images, somebody labels the image. -/
def Bench.labelling : World Bench :=
  world cluster (provider (fun _ => [⟨"img-1", "boot"⟩]) (.returned (.ok ()))) fun n =>
    if n = 0 then some (·.setLabel "team" "blue") else none

theorem World.no_lost_label : ∃ visit stored,
    Bench.labelling.visit .image {} "default" "boot" Bench.fresh =
      (some visit, Bench.fresh.passed Bench.labelling) ∧
    (visit.object.metadata.label? "team" = none) ∧
    (Bench.fresh.passed Bench.labelling).timeline.current = some stored ∧
    stored.metadata.label? "team" = some "blue" ∧ Image.imageId stored = some "img-1" := by
  obtain ⟨visit, hvisit, hunlabelled, hlocated, hclosed⟩ : ∃ visit,
      Bench.labelling.visit .image {} "default" "boot" Bench.fresh = (some visit, _) ∧
      visit.object.metadata.label? "team" = none ∧
      Image.imageId visit.left.object = some "img-1" ∧ visit.closed = .ok () :=
    Bench.exists_visit (by decide +kernel)
  obtain ⟨stored, hstored, hlabelled⟩ : ∃ image,
      (Bench.fresh.passed Bench.labelling).timeline.current = some image ∧
      image.metadata.label? "team" = some "blue" :=
    Bench.exists_current (by decide +kernel)
  obtain ⟨_, _, _, _, _, _, hstatus⟩ := no_lost_update (Bench.serves _ _ _)
    Conduct.gentle_keeps hvisit hclosed hstored
  refine ⟨visit, stored, hvisit, hunlabelled, hstored, hlabelled, ?_⟩
  rw [← hlocated, Image.imageId, Image.imageId, hstatus]

end Reconciler
