import Reconciler.Proofs.Asking
import Reconciler.Proofs.Reads

/-!
# Objects at rest

The next pass starts from what a pass left behind.  Where the provider answers as before, a step
that is taken again on what it left may have nothing more to do: it leaves the object alone and ends
as it did before, whatever time it is by then.
-/

namespace Reconciler

open Time (Instant)

/-- All that bodies read of an object. -/
def Managed.seen (managed : Managed) (object : managed.Resource) :
    managed.Resource × Marks × Option managed.Status :=
  (managed.readPart object, managed.marks object, object.status)

/-- The object comes back as it was left in all that bodies read of it. -/
structure Managed.Returned (managed : Managed) (left later : managed.Resource) : Prop where
  read : managed.readPart later = managed.readPart left
  marks : managed.marks later = managed.marks left
  status : later.status = left.status

theorem Managed.returned_of_seen {managed : Managed} {left later : managed.Resource}
    (hseen : managed.seen later = managed.seen left) : managed.Returned left later where
  read := congrArg Prod.fst hseen
  marks := congrArg (fun seen => seen.2.1) hseen
  status := congrArg (fun seen => seen.2.2) hseen

theorem Object.mapStatus_eq_self {Spec Status : Type} [Inhabited Status]
    {change : Status → Status} {object : Object Spec Status} {status : Status}
    (hstatus : object.status = some status) (hchange : change status = status) :
    object.mapStatus change = object := by
  obtain ⟨metadata, spec, _⟩ := object
  cases hstatus
  simp [mapStatus, hchange]

namespace Step

variable {managed : Managed} {α β γ : Type}

/-- At any time, the step leaves the object alone and ends this way. -/
def Rests (reads : Reads managed) (outcome : Outcome (Except Error α))
    (step : Instant → Body managed α) (object : managed.Resource) : Prop :=
  ∀ now, (step now object).Ensures reads.steady
    (fun after ended _ => after = object ∧ ended = outcome) ()

/-- The step rests on the object whenever it comes back. -/
def Settled (reads : Reads managed) (outcome : Outcome (Except Error α))
    (step : Instant → Body managed α) (object : managed.Resource) : Prop :=
  ∀ later, managed.Returned object later → Rests reads outcome step later

/-- Unless it comes to change something at the provider, the step settles what it leaves. -/
def Calms (reads : Reads managed) (step : Instant → Body managed α) (object : managed.Resource) :
    Prop :=
  ∀ now, (step now object).Ensures reads.quiet
    (fun after outcome _ => Settled reads outcome step after) ()

variable {reads : Reads managed} {object : managed.Resource}
variable {first : Instant → Body managed α} {next : Instant → α → Body managed β}

theorem Rests.bind {middle : Outcome (Except Error α)} {outcome : Outcome (Except Error β)}
    (hfirst : Rests reads middle first object)
    (hnext : middle.follow (fun value => Rests reads outcome (fun now => next now value) object)
      fun ended => ended = outcome) :
    Rests reads outcome (fun now => first now >>= next now) object := by
  intro now
  rw [Action.ensures_bind]
  apply (hfirst now).mono
  rintro _ ended _ ⟨rfl, hended⟩
  subst hended
  rcases ended with (error | value) | _ | text
  · exact ⟨rfl, hnext⟩
  · exact hnext now
  · exact ⟨rfl, hnext⟩
  · exact ⟨rfl, hnext⟩

/-- Two steps settle what they leave when each does, provided that the second one leaves nothing for
the first one to do. -/
theorem Calms.bind (hfirst : ∀ now, (first now object).Ensures reads.quiet (fun middle outcome _ =>
      Settled reads outcome first middle ∧ ∀ value, outcome = .returned (.ok value) →
        Calms reads (fun now => next now value) middle ∧
          ∀ now, (next now value middle).Ensures reads.quiet
            (fun after _ _ => Settled reads outcome first after) ()) ()) :
    Calms reads (fun now => first now >>= next now) object := by
  intro now
  rw [Action.ensures_bind]
  apply (hfirst now).mono
  rintro middle outcome _ ⟨hsettled, hnext⟩
  rcases outcome with (error | value) | _ | text
  · exact fun later hreturned => (hsettled later hreturned).bind rfl
  · obtain ⟨hcalms, hlasts⟩ := hnext value rfl
    apply ((hcalms now).and (hlasts now)).mono
    rintro after ended _ ⟨hended, hfirst⟩ later hreturned
    exact (hfirst later hreturned).bind (hended later hreturned)
  · exact fun later hreturned => (hsettled later hreturned).bind rfl
  · exact fun later hreturned => (hsettled later hreturned).bind rfl

/-- It is enough that the second step keeps the part of the object that decides what the first one
does. -/
theorem Calms.bind_of_keeps (part : managed.Resource → γ)
    (hpart : ∀ {left later}, managed.Returned left later → part later = part left)
    (hfirst : ∀ now, (first now object).Ensures reads.quiet (fun middle outcome _ =>
      (∀ later, part later = part middle → Rests reads outcome first later) ∧
        ∀ value, outcome = .returned (.ok value) →
          Calms reads (fun now => next now value) middle) ())
    (hkeeps : ∀ now value, Keeps part (next now value)) :
    Calms reads (fun now => first now >>= next now) object := by
  refine Calms.bind fun now => (hfirst now).mono ?_
  rintro middle outcome _ ⟨hrests, hcalms⟩
  refine ⟨fun later hreturned => hrests later (hpart hreturned), fun value hvalue =>
    ⟨hcalms value hvalue, fun now => ?_⟩⟩
  apply ((hkeeps now value middle).anywhere ()).mono
  intro after _ _ hkept later hreturned
  exact hrests later ((hpart hreturned).trans hkept)

theorem Ends.settled {outcome : Outcome (Except Error α)} {step : Body managed α}
    (hends : Ends reads outcome step) (object : managed.Resource) :
    Settled reads outcome (fun _ => step) object := fun later _ _ => hends later

theorem Determined.calms {step : Body managed α} (hdetermined : Determined reads step)
    (object : managed.Resource) : Calms reads (fun _ => step) object := by
  intro now
  rcases hdetermined with ⟨outcome, hends⟩ | hnever
  · apply (hends object).quietly.mono
    rintro after _ _ ⟨-, rfl⟩
    exact hends.settled after
  · exact hnever.quiet object

/-- A step that always ends the same way leaves it to the rest to settle the object. -/
theorem Determined.calms_bind {first : Body managed α} (hfirst : Determined reads first)
    (hnext : ∀ value, Calms reads (fun now => next now value) object) :
    Calms reads (fun now => first >>= next now) object := by
  refine Calms.bind fun _ => ?_
  rcases hfirst with ⟨outcome, hends⟩ | hnever
  · apply (hends object).quietly.mono
    rintro _ _ _ ⟨rfl, rfl⟩
    refine ⟨hends.settled _, fun value _ => ⟨hnext value, fun now => ?_⟩⟩
    exact (hnext value now).mono fun after _ _ _ => hends.settled after
  · exact hnever.quiet object

/-- A change that changes nothing any more once it has been made, though it is made again later. -/
def Settles (change : Instant → γ → γ) : Prop :=
  ∀ earlier later status, change later (change earlier status) = change earlier status

theorem Settles.comp {change : Instant → γ → γ} (hsettles : Settles change) {before : γ → γ}
    (hkept : ∀ now status, before (change now (before status)) = change now (before status)) :
    Settles fun now status => change now (before status) := by
  intro earlier later status
  dsimp only
  rw [hkept, hsettles]

variable (managed) in
/-- A change of the status, and then a step that does not depend on it. -/
theorem Calms.update {change : Instant → managed.Status → managed.Status}
    (hsettles : Settles change) {step : Body managed β} (hstep : Determined reads step)
    (object : managed.Resource) :
    Calms reads (fun now => do modify (·.mapStatus (change now)); step) object := by
  intro now
  rw [Action.ensures_bind, Action.ensures_modify, Outcome.follow_ok]
  rcases hstep with ⟨outcome, hends⟩ | hnever
  · apply (hends _).quietly.mono
    rintro _ _ _ ⟨rfl, rfl⟩ later hreturned
    have hunchanged (now : Instant) : later.mapStatus (change now) = later :=
      Object.mapStatus_eq_self hreturned.status (hsettles ..)
    have hfirst : Rests reads (.returned (.ok ()))
        (fun now => modify (·.mapStatus (change now))) later := fun now => ⟨hunchanged now, rfl⟩
    exact hfirst.bind fun _ => hends later
  · exact hnever.quiet _

theorem Determined.publish (event : Event) :
    Determined reads (Body.publish event : Body managed Unit) := by
  refine .inl ⟨(reads.published event).asked, fun object => ?_⟩
  rw [Body.ensures_publish]
  intro ending _ hended
  have hpublished := hended id
  rcases ending with result | _ | text
  · exact ⟨rfl, by rw [show reads.published event = _ from hpublished]; rfl⟩
  · exact ⟨rfl, by rw [show reads.published event = _ from hpublished]; rfl⟩
  · exact ⟨rfl, by rw [show reads.published event = _ from hpublished]; rfl⟩

end Step

section Owned

variable {managed : Managed} {cluster : managed.Cluster} {owner : OwnerReference}
variable {object later : managed.Resource}

theorem Managed.hasOwner_of_marks (hreference : managed.clusterReference cluster = .ok owner)
    (hmarks : managed.marks later = managed.marks object) :
    hasOwner later.metadata.owners owner = hasOwner object.metadata.owners owner := by
  have howner := Managed.refersToCluster_of_clusterReference hreference
  rw [← hasOwner_filter howner, ← hasOwner_filter howner object.metadata.owners]
  exact congrArg (fun marks : Marks => hasOwner marks.owners owner) hmarks

/-- An object with the label gets no other one. -/
theorem Managed.ensureClusterLabel_of_label (hlabel : (managed.marks object).cluster.isSome) :
    (managed.ensureClusterLabel (some cluster) object).1 = object := by
  have hlabelled : object.metadata.hasLabel clusterNameLabel = true := hlabel
  simp [Managed.ensureClusterLabel, hlabelled]

theorem Managed.isSome_marks_ensureClusterLabel (cluster : managed.Cluster)
    (object : managed.Resource) :
    (managed.marks (managed.ensureClusterLabel (some cluster) object).1).cluster.isSome := by
  unfold Managed.ensureClusterLabel
  by_cases hlabel : object.metadata.hasLabel clusterNameLabel = true
  · simp only [hlabel, if_true]
    exact hlabel
  · simp [hlabel, Managed.marks, Managed.metadataMarks, Object.mapMetadata, Metadata.setLabel,
      Metadata.label?]

theorem Body.keeps_status_takeOwnership (cluster : Option managed.Cluster) :
    Step.Keeps (fun object : managed.Resource => object.status) (takeOwnership cluster) :=
  fun object => (takeOwnership_ensures cluster object ()).mono fun _ _ _ howned => howned.1.status

/-- An object that has the finalizer and its owner gets nothing but the label. -/
theorem Body.takeOwnership_of_owned {S : Type} {environment : Environment (outside managed) S}
    (hfinalizer : managed.hasFinalizer object = true)
    (hreference : managed.clusterReference cluster = .ok owner)
    (howner : hasOwner object.metadata.owners owner = true) (start : S) :
    ((takeOwnership (some cluster) : Body managed Bool) object).Ensures environment
      (fun after ended surroundings =>
        after = (managed.ensureClusterLabel (some cluster) object).1 ∧
          ended = .returned (.ok false) ∧ surroundings = start) start := by
  obtain ⟨-, howners, -, -⟩ := managed.edits_ensureClusterLabel (some cluster) object
  unfold takeOwnership
  simp only [Action.ensures_bind, Action.ensures_modifyGet, Outcome.follow_ok, Managed.addFinalizer,
    if_pos hfinalizer, Bool.false_eq_true, if_false, Action.ensures_modify, Action.ensures_get,
    Action.ensures_ofExcept]
  have hadopted : managed.shouldAdopt (some cluster)
      (managed.ensureClusterLabel (some cluster) object).1 = .ok false := by
    simp [Managed.shouldAdopt, hreference, howners, howner, bind, Except.bind, pure, Except.pure]
  rw [hadopted]
  exact ⟨rfl, rfl, rfl⟩

open Step (Keeps Calms Rests)

/-- What goes on once ownership is taken settles an object that has the finalizer and its owner. -/
theorem Step.Calms.owned {α : Type} {reads : Reads managed} {ended : Body managed α}
    {next : Instant → Body managed α} (hfinalizer : managed.hasFinalizer object = true)
    (hreference : managed.clusterReference cluster = .ok owner)
    (howner : hasOwner object.metadata.owners owner = true)
    (hended : Keeps managed.unmarked ended) (hkeeps : ∀ now, Keeps managed.unmarked (next now))
    (hnext : Calms reads next (managed.ensureClusterLabel (some cluster) object).1) :
    Calms reads (fun now => do
      if ← Body.takeOwnership (some cluster) then ended else next now) object := by
  obtain ⟨-, howners, hfinalizers, -⟩ := managed.edits_ensureClusterLabel (some cluster) object
  have hlabelled := Managed.isSome_marks_ensureClusterLabel cluster object
  apply Calms.bind_of_keeps managed.marks fun hreturned => hreturned.marks
  · intro now
    apply (Body.takeOwnership_of_owned hfinalizer hreference howner ()).mono
    rintro _ _ _ ⟨rfl, rfl, -⟩
    refine ⟨fun later hmarks now => ?_, ?_⟩
    · have hlater : managed.hasFinalizer later = true :=
        (congrArg Marks.finalizer hmarks).trans (by
          rw [← hfinalizer]
          simp only [Managed.marks, Managed.metadataMarks, Managed.hasFinalizer,
            Metadata.hasFinalizer, hfinalizers])
      have hkept : hasOwner later.metadata.owners owner = true := by
        rw [Managed.hasOwner_of_marks hreference hmarks, howners, howner]
      apply (Body.takeOwnership_of_owned hlater hreference hkept ()).mono
      rintro _ _ _ ⟨rfl, rfl, -⟩
      exact ⟨Managed.ensureClusterLabel_of_label (hmarks ▸ hlabelled), rfl⟩
    · rintro _ ⟨⟩
      exact hnext
  · rintro now (_ | _)
    · exact (hkeeps now).comp fun kept => managed.metadataMarks kept.1
    · exact hended.comp fun kept => managed.metadataMarks kept.1

end Owned

end Reconciler
