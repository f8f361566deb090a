import Reconciler.Proofs.Passing

/-!
# What closing writes

Statements that the steps of closing keep: about the finalizer, about all marks of ownership, about
the status, and about the part of the object that belongs to other writers.
-/

namespace Reconciler

open Timeline (Drifts Evolves Step)

namespace Conduct.Keeps

variable {managed : Managed} {α β : Type} {others : Conduct managed}

theorem comp {part : managed.Resource → α} (hkeeps : others.Keeps part) (view : α → β) :
    others.Keeps fun object => view (part object) :=
  ⟨fun before after hothers => congrArg view (hkeeps.kept before after hothers), hkeeps.stays⟩

/-- What was removed stays so. -/
theorem current_eq_none {«namespace» name : String} {part : managed.Resource → α}
    (hkeeps : others.Keeps part) {timeline : Timeline managed «namespace» name}
    (hgone : Scope.Gone others timeline) : timeline.current = none := by
  obtain ⟨empty, hempty, hdrifts⟩ := hgone
  by_contra hpresent
  obtain ⟨now, hnow⟩ := Option.ne_none_iff_exists'.mp hpresent
  obtain ⟨object, hobject, _⟩ := hdrifts.part_eq hkeeps hnow
  simp [hempty] at hobject

end Conduct.Keeps

namespace Scope

variable {managed : Managed} {«namespace» name : String} {others : Conduct managed}

/-- The stored object agrees with the copy that the scope holds in a part that the pass has set to
`wanted`, or is about to. -/
structure Wants {α : Type} (part : managed.Resource → α) (wanted : α) (scope : Scope managed)
    (timeline : Timeline managed «namespace» name) : Prop where
  object : part scope.object = wanted
  current : ∀ {current}, timeline.current = some current → part current = part scope.stored

theorem Wants.drift {α : Type} {part : managed.Resource → α} {wanted : α} {scope : Scope managed}
    {before after : Timeline managed «namespace» name} (hkeeps : others.Keeps part)
    (hwants : Wants part wanted scope before) (hdrifts : Drifts others before after) :
    Wants part wanted scope after where
  object := hwants.object
  current hnow := by
    obtain ⟨object, hobject, hpart⟩ := hdrifts.part_eq hkeeps hnow
    exact hpart.trans (hwants.current hobject)

/-- A pass starts out in agreement with what is stored. -/
theorem Wants.start {α : Type} {part : managed.Resource → α} {scope : Scope managed}
    {asked ready : Timeline managed «namespace» name} (hkeeps : others.Keeps part)
    (hcurrent : asked.current = some scope.stored) (hdrifts : Drifts others asked ready) :
    Wants part (part scope.object) scope ready where
  object := rfl
  current hnow := by
    obtain ⟨object, hobject, hpart⟩ := hdrifts.part_eq hkeeps hnow
    rw [hpart, Option.some.inj (hobject.symm.trans hcurrent)]

theorem Wants.saved {α : Type} {part : managed.Resource → α} {wanted : α} {scope : Scope managed}
    {timeline : Timeline managed «namespace» name} {writer : Writer}
    {older : List (Version managed)} (hobject : part scope.object = wanted)
    (hversions : timeline.versions = ⟨writer, scope.stored⟩ :: older) :
    Wants part wanted scope timeline :=
  ⟨hobject, fun hnow => congrArg part (Timeline.current_eq_of_cons hversions hnow)⟩

theorem Wants.latest {α : Type} {part : managed.Resource → α} {wanted : α} {scope : Scope managed}
    {timeline : Timeline managed «namespace» name} (hobject : part scope.object = wanted)
    (hlatest : timeline.current = some scope.stored) : Wants part wanted scope timeline := by
  obtain ⟨writer, older, hversions⟩ := Timeline.versions_of_current hlatest
  exact .saved hobject hversions

/-- While other writers keep the finalizer, a scope that carries it or not leaves the object with it
or without. -/
theorem kept_wants_hasFinalizer (hkeeps : others.Keeps managed.hasFinalizer) (wanted : Bool) :
    Kept others fun scope (timeline : Timeline managed «namespace» name) =>
      Wants managed.hasFinalizer wanted scope timeline where
  drift _ hwants hdrifts := hwants.drift hkeeps hdrifts
  metadata _ hwants _ _ hversions := .saved hwants.object hversions
  status _ hwants _ _ _ hversions := .saved hwants.object hversions
  rebase {scope _ latest} _ hwants hlatest := by
    refine .latest ?_ hlatest
    have hkept := hwants.current hlatest
    rw [hasFinalizer_rebased, hkept, ← hwants.object]
    split
    · next hunchanged => exact hunchanged.symm
    · rfl

/-- The same for all marks of ownership, as long as the scope came to its marks like a pass. -/
theorem kept_wants_marks (hkeeps : others.Keeps managed.marks) (wanted : Marks) :
    Kept others fun scope (timeline : Timeline managed «namespace» name) =>
      (managed.marks scope.stored).MadeFrom (managed.marks scope.object) ∧
        Wants managed.marks wanted scope timeline where
  drift _ hholds hdrifts := ⟨hholds.1, hholds.2.drift hkeeps hdrifts⟩
  metadata _ hholds _ _ hversions := ⟨.refl _, .saved hholds.2.object hversions⟩
  status _ hholds _ _ _ hversions := ⟨hholds.1, .saved hholds.2.object hversions⟩
  rebase {scope _ latest} htracks hholds hlatest := by
    have hkept := hholds.2.current hlatest
    have hrebased := marks_rebased htracks.foreign latest hholds.1 hkept
    refine ⟨?_, .latest (hrebased.trans hholds.2.object) hlatest⟩
    change (managed.marks latest).MadeFrom _
    rw [hrebased, hkept]
    exact hholds.1

/-- The same for anything that is seen in the part that belongs to other writers. -/
theorem kept_wants_foreign {α : Type} {seen : managed.Resource → α}
    (hseen : ∀ {left right}, managed.foreignPart right = managed.foreignPart left →
      seen right = seen left) (hkeeps : others.Keeps seen) (wanted : α) :
    Kept others fun scope (timeline : Timeline managed «namespace» name) =>
      Wants seen wanted scope timeline where
  drift _ hwants hdrifts := hwants.drift hkeeps hdrifts
  metadata {scope _ _ version} _ hwants _ _ hversions := by
    have hsame : managed.foreignPart
        (scope.metadataSaved (scope.metadataWrite.withVersion version)).object =
          managed.foreignPart scope.object := rfl
    exact .saved ((hseen hsame).trans hwants.object) hversions
  status {scope _ _ version} _ hwants _ _ _ hversions := by
    have hsame : managed.foreignPart
        (scope.statusSaved (scope.statusWrite.withVersion version)).object =
          managed.foreignPart scope.object := rfl
    exact .saved ((hseen hsame).trans hwants.object) hversions
  rebase {scope _ latest} htracks hwants hlatest := by
    refine .latest ?_ hlatest
    rw [hseen (foreignPart_rebased htracks.foreign latest), hwants.current hlatest,
      ← hseen htracks.foreign, hwants.object]

/-- While other writers keep the status, the engine writes nothing but the status of the pass over
the one that the pass was given. -/
structure WritesStatus (others : Conduct managed) (start : Timeline managed «namespace» name)
    (given wanted : Option managed.Status) (scope : Scope managed)
    (timeline : Timeline managed «namespace» name) : Prop where
  wants : Wants (fun object => object.status) wanted scope timeline
  stored : scope.stored.status = given ∨ scope.stored.status = wanted
  evolves : Evolves others (fun before after => after.status = before.status ∨
    before.status = given ∧ after.status = wanted) start timeline

theorem WritesStatus.start {scope : Scope managed}
    {first asked ready : Timeline managed «namespace» name}
    (hkeeps : others.Keeps fun object => object.status) (hasked : Drifts others first asked)
    (hcurrent : asked.current = some scope.stored) (hready : Drifts others asked ready) :
    WritesStatus others first scope.stored.status scope.object.status scope ready where
  wants := Wants.start hkeeps hcurrent hready
  stored := .inl rfl
  evolves := hasked.evolves.trans hready.evolves

theorem kept_writesStatus (hkeeps : others.Keeps fun object => object.status)
    (start : Timeline managed «namespace» name) (given wanted : Option managed.Status) :
    Kept others (WritesStatus others start given wanted) where
  drift _ hwrites hdrifts :=
    ⟨hwrites.wants.drift hkeeps hdrifts, hwrites.stored, hwrites.evolves.trans hdrifts.evolves⟩
  metadata _ hwrites _ hcurrent hversions :=
    ⟨.saved hwrites.wants.object hversions, hwrites.stored,
      hwrites.evolves.save hcurrent hversions (.inl rfl)⟩
  status {scope _ _ version} _ hwrites _ _ hcurrent hversions := by
    have hobject : scope.object.status = wanted := hwrites.wants.object
    refine ⟨.saved hobject hversions, .inr hobject, hwrites.evolves.save hcurrent hversions ?_⟩
    rcases hwrites.stored with hgiven | hwanted
    · exact .inr ⟨hgiven, hobject⟩
    · exact .inl (hobject.trans hwanted.symm)
  rebase {scope _ latest} _ hwrites hlatest := by
    have hkept := hwrites.wants.current hlatest
    refine ⟨.latest hwrites.wants.object hlatest, ?_, hwrites.evolves⟩
    exact hwrites.stored.imp hkept.trans hkept.trans

/-- A scope with the finalizer takes it out of no object. -/
theorem kept_finalizer (others : Conduct managed) (start : Timeline managed «namespace» name) :
    Kept others fun scope (timeline : Timeline managed «namespace» name) =>
      (managed.hasFinalizer scope.stored = true → managed.hasFinalizer scope.object = true) ∧
        Evolves others (fun before after =>
          managed.hasFinalizer before = true → managed.hasFinalizer after = true) start timeline
    where
  drift _ hholds hdrifts := ⟨hholds.1, hholds.2.trans hdrifts.evolves⟩
  metadata _ hholds _ hcurrent hversions :=
    ⟨id, hholds.2.save hcurrent hversions hholds.1⟩
  status _ hholds _ _ hcurrent hversions :=
    ⟨hholds.1, hholds.2.save hcurrent hversions id⟩
  rebase {scope _ latest} _ hholds _ := by
    refine ⟨fun hlatest => ?_, hholds.2⟩
    rw [hasFinalizer_rebased]
    split
    · exact hlatest
    · next hchanged =>
      by_contra hmissing
      refine hchanged ?_
      rw [Bool.not_eq_true] at hmissing
      rw [hmissing, eq_comm]
      by_contra hstored
      rw [Bool.not_eq_false] at hstored
      simp [hholds.1 hstored] at hmissing

end Scope

namespace Timeline

variable {managed : Managed} {«namespace» name : String}

/-- The last version that other writers put on the timeline after the one that a pass started
from. -/
def latestForeign (started : managed.Resource) (newer : List (Version managed)) :
    managed.Resource :=
  ((newer.find? (·.writer = .other)).map (·.object)).getD started

/-- The timeline has gone on from the version that a pass started from, and the stored object is the
last one of other writers in all that belongs to them. -/
def Follows (started : managed.Resource) (timeline : Timeline managed «namespace» name) : Prop :=
  ∃ newer writer older, timeline.versions = newer ++ ⟨writer, started⟩ :: older ∧
    ∀ current, timeline.current = some current →
      managed.foreignPart current = managed.foreignPart (latestForeign started newer)

variable {others : Conduct managed} {started : managed.Resource}
variable {before after : Timeline managed «namespace» name}

theorem follows_of_current {timeline : Timeline managed «namespace» name}
    (hcurrent : timeline.current = some started) : timeline.Follows started := by
  obtain ⟨writer, older, hversions⟩ := versions_of_current hcurrent
  refine ⟨[], writer, older, hversions, fun current hnow => ?_⟩
  rw [Option.some.inj (hnow.symm.trans hcurrent)]
  rfl

theorem Follows.saved (hfollows : before.Follows started) {last object : managed.Resource}
    (hcurrent : before.current = some last)
    (hversions : after.versions = ⟨.engine, object⟩ :: before.versions)
    (hsame : managed.foreignPart object = managed.foreignPart last) : after.Follows started := by
  obtain ⟨newer, writer, older, hbefore, hforeign⟩ := hfollows
  refine ⟨⟨.engine, object⟩ :: newer, writer, older, by rw [hversions, hbefore]; rfl, ?_⟩
  intro current hnow
  rw [current_eq_of_cons hversions hnow]
  exact hsame.trans (hforeign last hcurrent)

theorem Follows.drifts (hfollows : before.Follows started) (hdrifts : Drifts others before after) :
    after.Follows started := by
  induction hdrifts with
  | refl => exact hfollows
  | tail _ hstep ih =>
      obtain ⟨newer, writer, older, hbefore, hforeign⟩ := ih
      cases hstep with
      | written object _ hafter =>
          refine ⟨⟨.other, object⟩ :: newer, writer, older, by rw [hafter, hbefore]; rfl, ?_⟩
          intro current hnow
          rw [current_eq_of_cons hafter hnow]
          rfl
      | removed _ hafter hgone =>
          refine ⟨newer, writer, older, hafter.trans hbefore, fun current hnow => ?_⟩
          simp [Timeline.current, hgone] at hnow
      | saved _ _ _ hengine _ => exact hengine.elim

end Timeline

/-- Closing changes nothing that belongs to other writers. -/
theorem Scope.kept_follows {managed : Managed} {«namespace» name : String}
    (others : Conduct managed) (started : managed.Resource) :
    Kept others fun _ (timeline : Timeline managed «namespace» name) =>
      timeline.Follows started where
  drift _ hfollows hdrifts := hfollows.drifts hdrifts
  metadata htracks hfollows _ hcurrent hversions :=
    hfollows.saved hcurrent hversions htracks.foreign
  status _ hfollows _ _ hcurrent hversions := hfollows.saved hcurrent hversions rfl
  rebase _ hfollows _ := hfollows

/-- What a pass writes to the status, and what is stored of it once its scope is closed. -/
theorem World.Serves.writesStatus_of_visit {W : Type} {managed : Managed}
    {«namespace» name : String} {world : World W} {settings : Settings} {w after : W}
    {visit : Visit managed} {view : W → Timeline managed «namespace» name}
    {others : Conduct managed} (hserves : world.Serves view others)
    (hvisit : world.visit managed settings «namespace» name w = (some visit, after))
    (hkeeps : others.Keeps fun object => object.status) :
    Scope.Settles others
      (Scope.WritesStatus others (view w) visit.object.status visit.left.object.status)
      visit.final (.returned visit.closed) (view after) := by
  obtain ⟨stages⟩ := stages_of_visit hvisit
  apply hserves.settles_of_visit (Scope.kept_writesStatus hkeeps _ _ _) hvisit
  intro asked ready hasked hcurrent hready
  rw [← stages.stored_eq] at hcurrent ⊢
  exact .start hkeeps hasked hcurrent hready

/-- The pass closed its scope and its status is stored: if the scope was released, there was none
left to write. -/
def Visit.Settled {managed : Managed} (visit : Visit managed) : Prop :=
  visit.closed = .ok () ∧
    (visit.final.released = true → visit.final.object.status = visit.final.stored.status)

instance {managed : Managed} (visit : Visit managed) : Decidable visit.Settled :=
  inferInstanceAs (Decidable (_ ∧ _))

/-- What is stored after a settled pass has the status that the pass left. -/
theorem World.Serves.status_of_settled {W : Type} {managed : Managed} {«namespace» name : String}
    {world : World W} {settings : Settings} {w after : W} {visit : Visit managed}
    {view : W → Timeline managed «namespace» name} {others : Conduct managed}
    (hserves : world.Serves view others) (hkeeps : others.Keeps fun object => object.status)
    (hvisit : world.visit managed settings «namespace» name w = (some visit, after))
    (hsettled : visit.Settled) {stored : managed.Resource}
    (hstored : (view after).current = some stored) :
    stored.status = visit.left.object.status := by
  obtain ⟨⟨_, hwrites⟩, hclean | hgone⟩ :=
    (hserves.writesStatus_of_visit hvisit hkeeps).done (by rw [hsettled.1])
  · have hwritten : visit.final.object.status = visit.final.stored.status :=
      hclean.2.elim hsettled.2 id
    calc
      stored.status = visit.final.stored.status := hwrites.wants.current hstored
      _ = visit.final.object.status := hwritten.symm
      _ = visit.left.object.status := hwrites.wants.object
  · simp [hkeeps.current_eq_none hgone] at hstored

end Reconciler
