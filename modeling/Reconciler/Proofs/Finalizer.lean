import Reconciler.Proofs.Bench
import Reconciler.Proofs.Persistence

/-!
# The finalizer stays until everything is released

Two ways out of a pass concern the finalizer: what the body leaves in the working copy, and what
closing makes of it in the stored object.  A delete pass takes the finalizer out only behind calls
that all went well; a normal pass never does, over whatever copy its changes are replayed.
-/

namespace Reconciler

open Timeline (Drifts Evolves)

/-- A body that did not come to a good end fails its pass, however closing goes. -/
theorem Visit.exists_answer_eq_error {managed : Managed} {visit : Visit managed}
    (hfailed : ¬visit.ending.Succeeded) : ∃ error, visit.answer = .error error := by
  have hresult : ∃ error, visit.ending.result = .error error := by
    rcases hending : visit.ending with (error | requeue) | _ | text
    · exact ⟨error, rfl⟩
    · exact absurd (hending ▸ Outcome.succeeded_ok requeue) hfailed
    · exact ⟨.deadlineExceeded, rfl⟩
    · exact ⟨.panicked text, rfl⟩
  obtain ⟨error, hresult⟩ := hresult
  refine ⟨error, ?_⟩
  unfold Visit.answer
  rw [hresult]
  rcases visit.closed with _ | _ <;> rfl

namespace Managed

variable {managed : Managed} {object after : managed.Resource}
variable {outcome : Outcome (Except Error Requeue)} {fine : Prop}

theorem ReleasedWhen.hasFinalizer_eq_false_iff
    (hended : managed.ReleasedWhen object after outcome fine)
    (hfinalizer : managed.hasFinalizer object = true) :
    managed.hasFinalizer after = false ↔ fine := by
  rcases hended with ⟨⟨rfl, _⟩, hfine⟩ | ⟨rfl, hnot, _⟩
  · simp [hfine]
  · simp [hfinalizer, hnot]

theorem ReleasedWhen.not_succeeded (hended : managed.ReleasedWhen object after outcome fine)
    (hkept : managed.hasFinalizer after = true) : ¬outcome.Succeeded := by
  rcases hended with ⟨⟨rfl, _⟩, _⟩ | ⟨_, _, hfailed⟩
  · simp at hkept
  · exact hfailed

end Managed

/-- With nothing left to write, the stored finalizer is the one of the working copy. -/
theorem Scope.Clean.hasFinalizer_eq {managed : Managed} {scope : Scope managed}
    (hclean : scope.Clean) :
    managed.hasFinalizer scope.stored = managed.hasFinalizer scope.object := by
  have hchanged := hclean.1
  simp only [metadataChanged, Bool.or_eq_false_iff, bne_eq_false_iff_eq] at hchanged
  simp only [Managed.hasFinalizer, Metadata.hasFinalizer, hchanged.1.1]

namespace World

variable {W : Type} {managed : Managed} {«namespace» name : String} {world : World W}
variable {settings : Settings} {w after : W} {visit : Visit managed}
variable {view : W → Timeline managed «namespace» name} {others : Conduct managed}

/-- When closing succeeds, the object is stored with the finalizer or without, as the body left the
working copy. -/
theorem hasFinalizer_of_closed (hserves : world.Serves view others)
    (hvisit : world.visit managed settings «namespace» name w = (some visit, after))
    (hkeeps : others.Keeps managed.hasFinalizer) (hclosed : visit.closed = .ok ())
    {stored : managed.Resource} (hstored : (view after).current = some stored) :
    managed.hasFinalizer stored = managed.hasFinalizer visit.left.object := by
  obtain ⟨stages⟩ := stages_of_visit hvisit
  have hkept : Scope.Kept others fun scope (timeline : Timeline managed «namespace» name) =>
      Scope.Wants managed.hasFinalizer (managed.hasFinalizer visit.left.object) scope timeline :=
    Scope.kept_wants_hasFinalizer hkeeps _
  have hsettles := hserves.settles_of_visit hkept hvisit fun asked ready _ hcurrent hready =>
    Scope.Wants.start hkeeps (stages.stored_eq ▸ hcurrent) hready
  obtain ⟨hheld, hclean | hgone⟩ := hsettles.done (by rw [hclosed])
  · calc
      managed.hasFinalizer stored = managed.hasFinalizer visit.final.stored :=
        hheld.holds.current hstored
      _ = managed.hasFinalizer visit.final.object := hclean.hasFinalizer_eq
      _ = managed.hasFinalizer visit.left.object := hheld.holds.object
  · simp [hkeeps.current_eq_none hgone] at hstored

/-- No step of a normal pass takes the finalizer out of the stored object. -/
theorem evolves_of_normal (hserves : world.Serves view others)
    (hvisit : world.visit managed settings «namespace» name w = (some visit, after))
    (hnormal : visit.Normal) :
    Evolves others (fun before after =>
      managed.hasFinalizer before = true → managed.hasFinalizer after = true) (view w)
        (view after) := by
  obtain ⟨stages⟩ := stages_of_visit hvisit
  have howned := (stages.owned_of_normal hnormal).2
  have hsettles := hserves.settles_of_visit (Scope.kept_finalizer others (view w)) hvisit
    fun asked ready hasked _ hready => ⟨fun _ => howned, hasked.evolves.trans hready.evolves⟩
  obtain ⟨scope, hheld⟩ := hsettles.reached
  exact hheld.holds.2

/-- What a delete pass makes of the finalizer, and of its answer. -/
theorem releasedWhen_of_visit
    (hvisit : world.visit managed settings «namespace» name w = (some visit, after))
    (hdeleting : visit.Deleting) (hfinalizer : managed.hasFinalizer visit.object = true) :
    (managed.hasFinalizer visit.left.object = false ↔
      managed.TargetKnown visit.object visit.opened.cluster ∧
        ∀ exchange ∈ visit.exchanges, exchange.WentWell) ∧
    (managed.hasFinalizer visit.left.object = true →
      ∃ error, world.pass managed settings «namespace» name w = (.error error, after)) := by
  obtain ⟨stages⟩ := stages_of_visit hvisit
  have hended := stages.releasedWhen_of_deleting hdeleting hfinalizer
  refine ⟨hended.hasFinalizer_eq_false_iff hfinalizer, fun hkept => ?_⟩
  obtain ⟨error, hanswer⟩ := Visit.exists_answer_eq_error (hended.not_succeeded hkept)
  exact ⟨error, by rw [pass_eq_answer hvisit, hanswer]⟩

/-- A pass that fetched an object with the finalizer and a time of deletion leaves the finalizer out
of the copy that it closes exactly when it is known where the cloud resources are and every provider
call returned with success or, where it takes something away, with the answer that there is nothing;
otherwise the finalizer stays and the pass fails.  Closing stores what became of the finalizer, and
no normal pass of any run takes the finalizer out of the stored object. -/
theorem finalizer_safety (world : World W) (managed : Managed) («namespace» name : String) :
    (∀ settings w fetched (object : managed.Resource),
      world.access managed (.fetch «namespace» name) w = (.ok (some object), fetched) →
      object.metadata.isDeleting = true → managed.hasFinalizer object = true →
      ∃ visit after, world.visit managed settings «namespace» name w = (some visit, after) ∧
        visit.object = object ∧
        (managed.hasFinalizer visit.left.object = false ↔
          managed.TargetKnown object visit.opened.cluster ∧
            ∀ exchange ∈ visit.exchanges, exchange.WentWell) ∧
        (managed.hasFinalizer visit.left.object = true →
          ∃ error, world.pass managed settings «namespace» name w = (.error error, after))) ∧
    (∀ (view : W → Timeline managed «namespace» name) others, world.Serves view others →
      ∀ first stages last, world.Run view others first stages last → ∀ stage ∈ stages,
      (others.Keeps managed.hasFinalizer → stage.visit.closed = .ok () →
        ∀ stored, (view stage.after).current = some stored →
          managed.hasFinalizer stored = managed.hasFinalizer stage.visit.left.object) ∧
      (stage.visit.Normal → Evolves others (fun before after =>
        managed.hasFinalizer before = true → managed.hasFinalizer after = true)
          (view stage.before) (view stage.after))) := by
  refine ⟨fun settings w fetched object hfetch hdeleting hfinalizer => ?_,
    fun view others hserves first stages last hrun stage hstage => ?_⟩
  · obtain ⟨visit, after, hvisit, rfl⟩ := exists_visit_of_deleting hfetch hdeleting settings
    exact ⟨visit, after, hvisit, rfl, releasedWhen_of_visit hvisit hdeleting hfinalizer⟩
  · obtain ⟨settings, hvisit⟩ := hrun.visit_of_mem hstage
    exact ⟨fun hkeeps hclosed stored hstored =>
        hasFinalizer_of_closed hserves hvisit hkeeps hclosed hstored,
      fun hnormal => evolves_of_normal hserves hvisit hnormal⟩

end World

/-- A provider that hangs when it is asked to remove an image. -/
def Bench.hanging : World Bench :=
  world cluster (provider (fun _ => [⟨"img-1", "boot"⟩]) .expired) fun _ => none

theorem World.finalizer_stays_hanging : ∃ stored error,
    (Bench.fresh.passed Bench.hanging).timeline.current = some stored ∧
    Managed.image.hasFinalizer stored = true ∧
    Bench.hanging.pass .image {} "default" "boot" (Bench.fresh.passed Bench.hanging).delete =
      (.error error, (Bench.fresh.passed Bench.hanging).delete.passed Bench.hanging) := by
  obtain ⟨hdeletes, hruns⟩ := finalizer_safety Bench.hanging .image "default" "boot"
  obtain ⟨locating, hlocating, hleft, hclosed⟩ : ∃ visit,
      Bench.hanging.visit .image {} "default" "boot" Bench.fresh = (some visit, _) ∧
      Managed.image.hasFinalizer visit.left.object = true ∧ visit.closed = .ok () :=
    Bench.exists_visit (by decide +kernel)
  obtain ⟨stored, hstored, -⟩ : ∃ image,
      (Bench.fresh.passed Bench.hanging).timeline.current = some image ∧ True :=
    Bench.exists_current (by decide +kernel)
  have hrun : Bench.hanging.Run Bench.timeline Conduct.gentle Bench.fresh _ _ :=
    .visited {} (.start _) hlocating
  have hkeeps := Conduct.gentle_keeps.comp fun part => part.1.finalizer
  have hkept := (hruns _ _ (Bench.serves _ _ _) _ _ _ hrun _ (List.mem_singleton_self _)).1 hkeeps
    hclosed stored hstored
  obtain ⟨object, hobject, hdeletion, hfinalizer⟩ : ∃ image,
      (Bench.fresh.passed Bench.hanging).delete.timeline.current = some image ∧
      image.metadata.isDeleting = true ∧ Managed.image.hasFinalizer image = true :=
    Bench.exists_current (by decide +kernel)
  have hfetch : Bench.hanging.access .image (.fetch "default" "boot")
      (Bench.fresh.passed Bench.hanging).delete =
        (.ok (some object), (Bench.fresh.passed Bench.hanging).delete) :=
    (Bench.world_fetch ..).trans (by rw [hobject])
  obtain ⟨visit, after, hvisit, rfl, _, hfails⟩ :=
    hdeletes {} _ _ object hfetch hdeletion hfinalizer
  obtain ⟨deleting, hdeleting, hstays⟩ : ∃ visit,
      Bench.hanging.visit .image {} "default" "boot" (Bench.fresh.passed Bench.hanging).delete =
        (some visit, _) ∧ Managed.image.hasFinalizer visit.left.object = true :=
    Bench.exists_visit (by decide +kernel)
  obtain ⟨hsame, rfl⟩ := Prod.mk.inj (hvisit.symm.trans hdeleting)
  obtain ⟨error, hpass⟩ := hfails (by rw [Option.some.inj hsame]; exact hstays)
  exact ⟨stored, error, hstored, hkept.trans hleft, hpass⟩

end Reconciler
