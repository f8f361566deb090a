import Reconciler.Proofs.Passing

/-!
# What was stored in the course of a run

Statements about every stored status are about all that was stored from the start of a run on: the
object that was there, and each version that came later.  The engine stores no other status than
those that its passes leave, so what is true of an absent status and of these is true of all that
was stored.
-/

namespace Reconciler

open Timeline (Drifts Evolves)

/-- Other writers leave the status to the engine: they keep that of an object that is there, and put
an object without one where there is none. -/
structure Conduct.SparesStatus {managed : Managed} (others : Conduct managed) : Prop where
  kept : ∀ before after, others (some before) (some after) → after.status = before.status
  created : ∀ after, others none (some after) → after.status = none

theorem Conduct.Keeps.sparesStatus {managed : Managed} {others : Conduct managed}
    (hkeeps : others.Keeps fun object => object.status) : others.SparesStatus :=
  ⟨hkeeps.kept, fun after hcreated => absurd hcreated (hkeeps.stays after)⟩

namespace Timeline

variable {managed : Managed} {«namespace» name : String}

/-- The versions that came to a timeline since an earlier state of it, the newest first. -/
def since (before after : Timeline managed «namespace» name) : List (Version managed) :=
  after.versions.take (after.versions.length - before.versions.length)

/-- The objects that were stored from an earlier state of a timeline on, the newest first. -/
def stored (before after : Timeline managed «namespace» name) : List managed.Resource :=
  (before.since after).map (·.object) ++ before.current.toList

variable {first before middle after last : Timeline managed «namespace» name}

theorem since_eq_of_append {newer : List (Version managed)}
    (hversions : after.versions = newer ++ before.versions) : before.since after = newer := by
  simp [since, hversions]

theorem since_append (hsuffix : before.versions <:+ after.versions) :
    after.versions = before.since after ++ before.versions := by
  obtain ⟨newer, hnewer⟩ := hsuffix
  rw [since_eq_of_append hnewer.symm, hnewer]

theorem since_trans (hfirst : first.versions <:+ middle.versions)
    (hlast : middle.versions <:+ last.versions) :
    first.since last = middle.since last ++ first.since middle := by
  apply since_eq_of_append
  rw [List.append_assoc, ← since_append hfirst, ← since_append hlast]

theorem stored_self (timeline : Timeline managed «namespace» name) :
    timeline.stored timeline = timeline.current.toList := by
  simp [stored, since]

theorem since_cons {version : Version managed} (hsuffix : before.versions <:+ middle.versions)
    (hversions : after.versions = version :: middle.versions) :
    before.since after = version :: before.since middle := by
  apply since_eq_of_append
  rw [hversions, List.cons_append, ← since_append hsuffix]

theorem stored_cons {version : Version managed} (hsuffix : before.versions <:+ middle.versions)
    (hversions : after.versions = version :: middle.versions) :
    before.stored after = version.object :: before.stored middle := by
  rw [stored, since_cons hsuffix hversions, List.map_cons, List.cons_append, stored]

theorem stored_congr (hversions : after.versions = middle.versions) :
    before.stored after = before.stored middle := by
  rw [stored, stored, since, since, hversions]

theorem mem_stored_of_since {version : Version managed} (hmem : version ∈ before.since after) :
    version.object ∈ before.stored after :=
  List.mem_append_left _ (List.mem_map_of_mem hmem)

/-- What was stored since an earlier state was stored since a still earlier one. -/
theorem mem_stored_of_since_later (hfirst : first.versions <:+ middle.versions)
    (hlast : middle.versions <:+ last.versions) {version : Version managed}
    (hmem : version ∈ middle.since last) : version.object ∈ first.stored last := by
  apply mem_stored_of_since
  rw [since_trans hfirst hlast]
  exact List.mem_append_left _ hmem

theorem mem_stored_mono (hfirst : first.versions <:+ middle.versions)
    (hlast : middle.versions <:+ last.versions) {object : managed.Resource}
    (hmem : object ∈ first.stored middle) : object ∈ first.stored last := by
  rw [stored, since_trans hfirst hlast, List.map_append, List.append_assoc]
  exact List.mem_append_right _ hmem

/-- What was stored over two spans of time was stored over one of them. -/
theorem mem_stored_or (hfirst : first.versions <:+ middle.versions)
    (hlast : middle.versions <:+ last.versions) {object : managed.Resource}
    (hmem : object ∈ first.stored last) :
    object ∈ first.stored middle ∨ object ∈ middle.stored last := by
  rw [stored, since_trans hfirst hlast, List.map_append, List.append_assoc] at hmem
  exact (List.mem_append.mp hmem).symm.imp id (List.mem_append_left _)

section Evolves

variable {others : Conduct managed} {engine : managed.Resource → managed.Resource → Prop}
variable {holds : managed.Resource → Prop}

/-- What is stored was stored. -/
theorem Evolves.mem_stored_of_current (hevolves : Evolves others engine before after)
    {object : managed.Resource} (hcurrent : after.current = some object) :
    object ∈ before.stored after := by
  induction hevolves with
  | refl => simp [stored_self, hcurrent]
  | @tail middle after hearlier hstep _ =>
      have hsuffix := Evolves.versions_suffix hearlier
      cases hstep with
      | written written _ hversions =>
          rw [stored_cons hsuffix hversions, current_eq_of_cons hversions hcurrent]
          exact List.mem_cons_self ..
      | removed _ _ hpresent => simp [current, hpresent] at hcurrent
      | saved _ saved _ _ hversions =>
          rw [stored_cons hsuffix hversions, current_eq_of_cons hversions hcurrent]
          exact List.mem_cons_self ..

/-- What holds of the object that was there, and goes on to hold of what other writers and the
engine put in its place, holds of all that was stored. -/
theorem Evolves.forall_stored (hevolves : Evolves others engine before after)
    (hstart : ∀ object, before.current = some object → holds object)
    (hothers : ∀ current object, (∀ now, current = some now → holds now) →
      others current (some object) → holds object)
    (hengine : ∀ current object, holds current → engine current object → holds object) :
    ∀ object ∈ before.stored after, holds object := by
  induction hevolves with
  | refl => simpa [stored_self] using hstart
  | @tail middle after hearlier hstep ih =>
      have hsuffix := Evolves.versions_suffix hearlier
      have hcurrent (now : managed.Resource) (hnow : middle.current = some now) : holds now :=
        ih now (Evolves.mem_stored_of_current hearlier hnow)
      cases hstep with
      | written object hwritten hversions =>
          rw [stored_cons hsuffix hversions]
          exact List.forall_mem_cons.mpr ⟨hothers _ _ hcurrent hwritten, ih⟩
      | removed _ hversions _ =>
          rw [stored_congr hversions]
          exact ih
      | saved now object hnow hsaved hversions =>
          rw [stored_cons hsuffix hversions]
          exact List.forall_mem_cons.mpr ⟨hengine _ _ (hcurrent now hnow) hsaved, ih⟩

/-- The same for what is said of the status alone, where other writers leave it to the engine. -/
theorem Evolves.forall_status (holds : Option managed.Status → Prop)
    (hspares : others.SparesStatus) (hnone : holds none)
    (hevolves : Evolves others engine before after)
    (hstart : ∀ object, before.current = some object → holds object.status)
    (hengine : ∀ current object, holds current.status → engine current object →
      holds object.status) :
    ∀ object ∈ before.stored after, holds object.status := by
  apply hevolves.forall_stored hstart _ hengine
  rintro (_ | current) object hcurrent hwritten
  · rw [hspares.created object hwritten]
    exact hnone
  · rw [hspares.kept current object hwritten]
    exact hcurrent current rfl

theorem Drifts.forall_status (holds : Option managed.Status → Prop)
    (hspares : others.SparesStatus) (hnone : holds none) (hdrifts : Drifts others before after)
    (hstart : ∀ object, before.current = some object → holds object.status) :
    ∀ object ∈ before.stored after, holds object.status :=
  Evolves.forall_status holds hspares hnone hdrifts hstart fun _ _ _ => False.elim

/-- Where every change relates the object before it to the one after it, all earlier objects are
related to all later ones, as long as no object is put where there is none. -/
theorem Evolves.pairwise_stored {relates : managed.Resource → managed.Resource → Prop}
    (htrans : ∀ {first second third}, relates first second → relates second third →
      relates first third)
    (hevolves : Evolves others relates before after)
    (hothers : ∀ current object, others (some current) (some object) → relates current object)
    (hstays : ∀ object, ¬others none (some object)) :
    (before.stored after).Pairwise fun newer older => relates older newer := by
  -- The induction needs that the newest object is the one that is stored, if there is one.
  suffices hchain : ((before.stored after).Pairwise fun newer older => relates older newer) ∧
      ∀ object, after.current = some object → ∃ older, before.stored after = object :: older from
    hchain.1
  have hgrow {middle after : Timeline managed «namespace» name} {version : Version managed}
      {current : managed.Resource} (hsuffix : before.versions <:+ middle.versions)
      (hversions : after.versions = version :: middle.versions)
      (hcurrent : middle.current = some current) (hrelates : relates current version.object)
      (hchain : ((before.stored middle).Pairwise fun newer older => relates older newer) ∧
        ∀ object, middle.current = some object →
          ∃ older, before.stored middle = object :: older) :
      ((before.stored after).Pairwise fun newer older => relates older newer) ∧
        ∀ object, after.current = some object →
          ∃ older, before.stored after = object :: older := by
    obtain ⟨older, holder⟩ := hchain.2 current hcurrent
    have hpairs := hchain.1
    rw [stored_cons hsuffix hversions]
    refine ⟨List.pairwise_cons.mpr ⟨?_, hpairs⟩, fun object hobject =>
      ⟨before.stored middle, by rw [current_eq_of_cons hversions hobject]⟩⟩
    rw [holder] at hpairs ⊢
    exact List.forall_mem_cons.mpr ⟨hrelates, fun object hmem =>
      htrans ((List.pairwise_cons.mp hpairs).1 object hmem) hrelates⟩
  induction hevolves with
  | refl =>
      rw [stored_self]
      rcases before.current with _ | object <;> simp
  | @tail middle after hearlier hstep ih =>
      have hsuffix := Evolves.versions_suffix hearlier
      cases hstep with
      | written object hwritten hversions =>
          rcases hcurrent : middle.current with _ | current
          · exact absurd (hcurrent ▸ hwritten) (hstays object)
          · exact hgrow hsuffix hversions hcurrent (hothers _ _ (hcurrent ▸ hwritten)) ih
      | removed _ hversions hpresent =>
          rw [stored_congr hversions]
          exact ⟨ih.1, fun object hobject => by simp [current, hpresent] at hobject⟩
      | saved current object hcurrent hsaved hversions =>
          exact hgrow hsuffix hversions hcurrent hsaved ih

end Evolves

end Timeline

namespace Scope

variable {managed : Managed} {«namespace» name : String}

/-- The engine has written no other status than the one that the pass left. -/
structure Leaves (others : Conduct managed) (start : Timeline managed «namespace» name)
    (wanted : Option managed.Status) (scope : Scope managed)
    (timeline : Timeline managed «namespace» name) : Prop where
  object : scope.object.status = wanted
  evolves : Evolves others (fun before after =>
    after.status = before.status ∨ after.status = wanted) start timeline

theorem kept_leaves (others : Conduct managed) (start : Timeline managed «namespace» name)
    (wanted : Option managed.Status) : Kept others (Leaves others start wanted) where
  drift _ hleaves hdrifts := ⟨hleaves.object, hleaves.evolves.trans hdrifts.evolves⟩
  metadata _ hleaves _ hcurrent hversions :=
    ⟨hleaves.object, hleaves.evolves.save hcurrent hversions (.inl rfl)⟩
  status _ hleaves _ _ hcurrent hversions :=
    ⟨hleaves.object, hleaves.evolves.save hcurrent hversions (.inr hleaves.object)⟩
  rebase _ hleaves _ := ⟨hleaves.object, hleaves.evolves⟩

end Scope

namespace World

variable {W : Type} {managed : Managed} {«namespace» name : String} {world : World W}
variable {view : W → Timeline managed «namespace» name} {others : Conduct managed}

/-- The status that the pass left came to be stored. -/
def Stage.Saves (view : W → Timeline managed «namespace» name) (stage : Stage managed W) : Prop :=
  ∃ version ∈ (view stage.before).since (view stage.after),
    version.object.status = stage.visit.left.object.status

namespace Serves

variable {settings : Settings} {w after : W} {visit : Visit managed}
variable (hserves : world.Serves view others)
include hserves

theorem evolves_of_visit
    (hvisit : world.visit managed settings «namespace» name w = (some visit, after)) :
    Evolves others (fun before after =>
      after.status = before.status ∨ after.status = visit.left.object.status)
        (view w) (view after) := by
  obtain ⟨scope, hheld⟩ := (hserves.settles_of_visit
    (Scope.kept_leaves others (view w) visit.left.object.status) hvisit
    fun asked ready hasked _ hready => ⟨rfl, hasked.evolves.trans hready.evolves⟩).reached
  exact hheld.holds.evolves

variable (holds : Option managed.Status → Prop) (hspares : others.SparesStatus)
variable (hnone : holds none)
include hspares hnone

/-- What holds of the stored status and of an absent one holds of the status that a pass
fetches. -/
theorem status_of_fetched
    (hvisit : world.visit managed settings «namespace» name w = (some visit, after))
    (hstart : ∀ object, (view w).current = some object → holds object.status) :
    holds visit.object.status := by
  obtain ⟨stages⟩ := stages_of_visit hvisit
  obtain ⟨asked, hasked, hcurrent, -⟩ := hserves.drifts_of_stages stages
  exact Timeline.Drifts.forall_status holds hspares hnone hasked hstart _
    (Evolves.mem_stored_of_current hasked hcurrent)

/-- It goes on to hold of all that is stored by a pass if it holds of what the pass left, should
that come to be stored. -/
theorem forall_status_of_visit
    (hvisit : world.visit managed settings «namespace» name w = (some visit, after))
    (hstart : ∀ object, (view w).current = some object → holds object.status)
    (hleft : holds visit.object.status → Stage.Saves view ⟨w, visit, after⟩ →
      holds visit.left.object.status) :
    ∀ object ∈ (view w).stored (view after), holds object.status := by
  have hwritten := Evolves.forall_status
    (fun status => holds status ∨ status = visit.left.object.status) hspares (.inl hnone)
    (hserves.evolves_of_visit hvisit) (fun object hobject => .inl (hstart object hobject))
    fun current object hcurrent hengine => hengine.elim (fun hsame => hsame ▸ hcurrent) .inr
  intro object hmem
  rcases List.mem_append.mp hmem with hsince | hcurrent
  · obtain ⟨version, hversion, rfl⟩ := List.mem_map.mp hsince
    rcases hwritten _ hmem with hholds | hsame
    · exact hholds
    · rw [hsame]
      have hfetched := hserves.status_of_fetched holds hspares hnone hvisit hstart
      exact hleft hfetched ⟨version, hversion, hsame⟩
  · exact hstart object (Option.mem_toList.mp hcurrent)

end Serves

namespace Run

variable {first last : W} {stages : List (Stage managed W)}

/-- What every pass does to the timeline, the run does to it. -/
theorem evolves {engine : managed.Resource → managed.Resource → Prop}
    (hserves : world.Serves view others) (hrun : world.Run view others first stages last)
    (hpass : ∀ stage ∈ stages, Evolves others engine (view stage.before) (view stage.after)) :
    Evolves others engine (view first) (view last) := by
  induction hrun using drift_induction with
  | serves => exact hserves
  | start => exact .refl
  | visited _ _ _ ih =>
      exact (ih fun stage hmem => hpass stage (List.mem_append_left _ hmem)).trans
        (hpass _ (List.mem_append_right _ (List.mem_singleton_self _)))
  | drifted _ hdrifts ih => exact (ih hpass).trans hdrifts.evolves

/-- A run is a history of the timeline, whatever its passes do. -/
theorem changes (hserves : world.Serves view others)
    (hrun : world.Run view others first stages last) :
    Evolves others (fun _ _ => True) (view first) (view last) := by
  refine hrun.evolves hserves fun stage hmem => ?_
  obtain ⟨settings, hvisit⟩ := hrun.visit_of_mem hmem
  exact Evolves.mono (hserves.evolves_of_visit hvisit) fun _ _ _ => trivial

theorem mem_stored_of_current (hserves : world.Serves view others)
    (hrun : world.Run view others first stages last) {object : managed.Resource}
    (hcurrent : (view last).current = some object) : object ∈ (view first).stored (view last) :=
  (hrun.changes hserves).mem_stored_of_current hcurrent

/-- What was stored in the course of a run and after it was stored in one or the other. -/
theorem forall_stored_of_later (hserves : world.Serves view others) {before after : W}
    (hrun : world.Run view others first stages before)
    (hsuffix : (view before).versions <:+ (view after).versions)
    {holds : managed.Resource → Prop}
    (hearlier : ∀ object ∈ (view first).stored (view before), holds object)
    (hlater : ∀ object ∈ (view before).stored (view after), holds object) :
    ∀ object ∈ (view first).stored (view after), holds object := fun object hmem =>
  (Timeline.mem_stored_or (hrun.changes hserves).versions_suffix hsuffix hmem).elim
    (hearlier object) (hlater object)

/-- What a pass of a run stores is stored in the course of the run. -/
theorem mem_stored_of_stage (hserves : world.Serves view others)
    (hrun : world.Run view others first stages last) {stage : Stage managed W}
    (hmem : stage ∈ stages) {version : Version managed}
    (hversion : version ∈ (view stage.before).since (view stage.after)) :
    version.object ∈ (view first).stored (view last) := by
  induction hrun using drift_induction with
  | serves => exact hserves
  | start => simp at hmem
  | visited settings hrun hvisit ih =>
      have hfirst := (hrun.changes hserves).versions_suffix
      have hlast := (hserves.evolves_of_visit hvisit).versions_suffix
      rcases List.mem_append.mp hmem with hearlier | hlatest
      · exact Timeline.mem_stored_mono hfirst hlast (ih hearlier)
      · obtain rfl := List.mem_singleton.mp hlatest
        exact Timeline.mem_stored_of_since_later hfirst hlast hversion
  | drifted hrun hdrifts ih =>
      exact Timeline.mem_stored_mono (hrun.changes hserves).versions_suffix hdrifts.versions_suffix
        (ih hmem)

/-- What holds of an absent status, of the one that was stored at first, and of those that passes
leave and that come to be stored, holds of every status that was stored. -/
theorem forall_status (holds : Option managed.Status → Prop) (hserves : world.Serves view others)
    (hspares : others.SparesStatus) (hnone : holds none)
    (hrun : world.Run view others first stages last)
    (hstart : ∀ object, (view first).current = some object → holds object.status)
    (hpass : ∀ stage ∈ stages, holds stage.visit.object.status → stage.Saves view →
      holds stage.visit.left.object.status) :
    ∀ object ∈ (view first).stored (view last), holds object.status := by
  induction hrun using drift_induction with
  | serves => exact hserves
  | start => simpa [Timeline.stored_self] using hstart
  | visited settings hrun hvisit ih =>
      have hearlier := ih fun stage hmem => hpass stage (List.mem_append_left _ hmem)
      refine hrun.forall_stored_of_later hserves
        (hserves.evolves_of_visit hvisit).versions_suffix hearlier ?_
      exact hserves.forall_status_of_visit holds hspares hnone hvisit
        (fun object hcurrent => hearlier object (hrun.mem_stored_of_current hserves hcurrent))
        (hpass _ (List.mem_append_right _ (List.mem_singleton_self _)))
  | drifted hrun hdrifts ih =>
      refine hrun.forall_stored_of_later hserves hdrifts.versions_suffix (ih hpass) ?_
      exact hdrifts.forall_status holds hspares hnone fun object hcurrent =>
        ih hpass object (hrun.mem_stored_of_current hserves hcurrent)

end Run

end World

end Reconciler
