import Mathlib.Logic.Relation
import Mathlib.Data.List.Nodup
import Reconciler.Controller
import Reconciler.Proofs.Environment

/-!
# The versions of a stored object

A pass shares its object with other writers.  The timeline of an object is the list of its versions
with the writer of each.  The API server answers a pass out of the timeline and puts those writes of
the pass on it that are over the newest version; other writers put versions on it at any time.
-/

namespace Reconciler

open Relation (ReflTransGen)

/-- The object is the one of this namespace and name. -/
def Metadata.Named («namespace» name : String) (metadata : Metadata) : Prop :=
  metadata.namespaceAny = «namespace» ∧ metadata.nameAny = name

instance («namespace» name : String) (metadata : Metadata) :
    Decidable (metadata.Named «namespace» name) :=
  inferInstanceAs (Decidable (_ ∧ _))

/-- Gives an object another resource version. -/
def Object.withVersion {Spec Status : Type} (version : String) (object : Object Spec Status) :
    Object Spec Status :=
  object.mapMetadata fun metadata => { metadata with resourceVersion := some version }

inductive Writer where
  | engine
  | other
deriving DecidableEq

structure Version (managed : Managed) where
  writer : Writer
  object : managed.Resource

/-- The versions of the object of a name.  An object that was removed may be created again under the
same name; its versions then follow the old ones. -/
structure Timeline (managed : Managed) («namespace» name : String) where
  /-- The newest version stands first. -/
  versions : List (Version managed)
  /-- The newest version is stored. -/
  present : Bool
  named : ∀ version ∈ versions, version.object.metadata.Named «namespace» name
  /-- No resource version is given twice. -/
  distinct : (versions.map (·.object.metadata.resourceVersion)).Nodup

/-- What other writers may do: which object, if any, they may leave in the place of another. -/
abbrev Conduct (managed : Managed) := Option managed.Resource → Option managed.Resource → Prop

/-- Other writers keep a part of the object, and do not create it again once it is removed. -/
structure Conduct.Keeps {managed : Managed} {α : Type} (others : Conduct managed)
    (part : managed.Resource → α) : Prop where
  kept : ∀ before after, others (some before) (some after) → part after = part before
  stays : ∀ after, ¬others none (some after)

namespace Timeline

variable {managed : Managed} {«namespace» name : String}

/-- What is stored. -/
def current (timeline : Timeline managed «namespace» name) : Option managed.Resource :=
  if timeline.present then timeline.versions.head?.map (·.object) else none

/-- One change of what is stored: by other writers as they may, or a new version by the engine that
is related to the one before.  An object that is being deleted may go away with a new version. -/
inductive Step (others : Conduct managed) (engine : managed.Resource → managed.Resource → Prop)
    (before after : Timeline managed «namespace» name) : Prop
  | written (object : managed.Resource) (hothers : others before.current (some object))
      (hversions : after.versions = ⟨.other, object⟩ :: before.versions)
  | removed (hothers : others before.current none) (hversions : after.versions = before.versions)
      (hpresent : after.present = false)
  | saved (current object : managed.Resource) (hcurrent : before.current = some current)
      (hengine : engine current object)
      (hversions : after.versions = ⟨.engine, object⟩ :: before.versions)

/-- Any number of changes. -/
abbrev Evolves (others : Conduct managed) (engine : managed.Resource → managed.Resource → Prop) :
    Timeline managed «namespace» name → Timeline managed «namespace» name → Prop :=
  ReflTransGen (Step others engine)

/-- Changes by other writers only. -/
abbrev Drifts (others : Conduct managed) :
    Timeline managed «namespace» name → Timeline managed «namespace» name → Prop :=
  Evolves others fun _ _ => False

variable {others : Conduct managed} {engine : managed.Resource → managed.Resource → Prop}
variable {before after : Timeline managed «namespace» name}

theorem Step.mono {weaker : managed.Resource → managed.Resource → Prop}
    (hstep : Step others engine before after)
    (himp : ∀ current object, engine current object → weaker current object) :
    Step others weaker before after := by
  cases hstep with
  | written object hothers hversions => exact .written object hothers hversions
  | removed hothers hversions hpresent => exact .removed hothers hversions hpresent
  | saved current object hcurrent hengine hversions =>
      exact .saved current object hcurrent (himp _ _ hengine) hversions

theorem Evolves.mono {weaker : managed.Resource → managed.Resource → Prop}
    (hevolves : Evolves others engine before after)
    (himp : ∀ current object, engine current object → weaker current object) :
    Evolves others weaker before after :=
  Relation.ReflTransGen.mono (fun _ _ hstep => Step.mono hstep himp) _ _ hevolves

theorem Drifts.evolves (hdrifts : Drifts others before after) :
    Evolves others engine before after :=
  Evolves.mono hdrifts fun _ _ => False.elim

theorem Evolves.save {start : Timeline managed «namespace» name} {current object : managed.Resource}
    (hevolves : Evolves others engine start before) (hcurrent : before.current = some current)
    (hversions : after.versions = ⟨.engine, object⟩ :: before.versions)
    (hengine : engine current object) : Evolves others engine start after :=
  hevolves.tail (.saved current object hcurrent hengine hversions)

/-- No version is ever taken back. -/
theorem Evolves.versions_suffix (hevolves : Evolves others engine before after) :
    before.versions <:+ after.versions := by
  induction hevolves with
  | refl => exact List.suffix_rfl
  | tail _ hstep ih =>
      cases hstep with
      | written object _ hversions => exact hversions ▸ ih.trans (List.suffix_cons ..)
      | removed _ hversions _ => exact hversions ▸ ih
      | saved current object _ _ hversions => exact hversions ▸ ih.trans (List.suffix_cons ..)

/-- What is stored is the newest version. -/
theorem versions_of_current {timeline : Timeline managed «namespace» name}
    {object : managed.Resource} (hcurrent : timeline.current = some object) :
    ∃ writer older, timeline.versions = ⟨writer, object⟩ :: older := by
  unfold current at hcurrent
  split at hcurrent
  · rcases hversions : timeline.versions with _ | ⟨⟨writer, newest⟩, older⟩
    · simp [hversions] at hcurrent
    · simp only [hversions, List.head?_cons, Option.map_some, Option.some.injEq] at hcurrent
      exact ⟨writer, older, by rw [hcurrent]⟩
  · simp at hcurrent

theorem current_eq_of_cons {timeline : Timeline managed «namespace» name}
    {version : Version managed} {older : List (Version managed)} {object : managed.Resource}
    (hversions : timeline.versions = version :: older)
    (hcurrent : timeline.current = some object) : object = version.object := by
  obtain ⟨writer, rest, hnewest⟩ := versions_of_current hcurrent
  rw [hversions] at hnewest
  rw [(List.cons.inj hnewest).1]

/-- An object is known when it is one of the versions. -/
def Knows (timeline : Timeline managed «namespace» name) (object : managed.Resource) : Prop :=
  ∃ version ∈ timeline.versions, version.object = object

theorem knows_of_current {timeline : Timeline managed «namespace» name}
    {object : managed.Resource} (hcurrent : timeline.current = some object) :
    timeline.Knows object := by
  obtain ⟨writer, older, hversions⟩ := versions_of_current hcurrent
  exact ⟨⟨writer, object⟩, hversions ▸ List.mem_cons_self .., rfl⟩

theorem Knows.evolves {object : managed.Resource} (hknows : before.Knows object)
    (hevolves : Evolves others engine before after) : after.Knows object := by
  obtain ⟨version, hmem, hobject⟩ := hknows
  exact ⟨version, hevolves.versions_suffix.subset hmem, hobject⟩

/-- A resource version belongs to one version only. -/
theorem Knows.eq_of_resourceVersion {timeline : Timeline managed «namespace» name}
    {left right : managed.Resource} (hleft : timeline.Knows left) (hright : timeline.Knows right)
    (hversion : left.metadata.resourceVersion = right.metadata.resourceVersion) : left = right := by
  obtain ⟨leftVersion, hleftMem, rfl⟩ := hleft
  obtain ⟨rightVersion, hrightMem, rfl⟩ := hright
  exact congrArg _ (List.inj_on_of_nodup_map timeline.distinct hleftMem hrightMem hversion)

theorem Drifts.part_eq {α : Type} {part : managed.Resource → α} (hothers : others.Keeps part)
    (hdrifts : Drifts others before after) {now : managed.Resource}
    (hnow : after.current = some now) :
    ∃ object, before.current = some object ∧ part now = part object := by
  induction hdrifts generalizing now with
  | refl => exact ⟨now, hnow, rfl⟩
  | @tail middle after _ hstep ih =>
      cases hstep with
      | written object hwritten hversions =>
          obtain rfl := current_eq_of_cons hversions hnow
          rcases hmiddle : middle.current with _ | latest
          · exact absurd (hmiddle ▸ hwritten) (hothers.stays _)
          · obtain ⟨first, hfirst, hpart⟩ := ih hmiddle
            exact ⟨first, hfirst, (hothers.kept _ _ (hmiddle ▸ hwritten)).trans hpart⟩
      | removed _ _ hpresent => simp [current, hpresent] at hnow
      | saved _ _ _ hengine _ => exact hengine.elim

end Timeline

end Reconciler
