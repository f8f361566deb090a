import Reconciler.Controller
import Reconciler.Proofs.Body

/-!
# When an object is released

A delete pass takes the finalizer out of its object last.  Whether it gets there is decided by its
provider calls: it does so exactly when each of them went well, where a call that removes something
also goes well when there was nothing to remove.  Whatever a normal pass does, it takes no finalizer
out.
-/

namespace Reconciler

namespace Managed

/-- The call takes something away at the provider. -/
def removes : (managed : Managed) → managed.Call → Prop
  | .machine, .deleteInstance _ => True
  | .machine, .deleteMember .. => True
  | .image, .deleteJob _ => True
  | .image, .deleteImage _ => True
  | _, _ => False

instance : (managed : Managed) → DecidablePred managed.removes
  | .machine, .deleteInstance _ | .machine, .deleteMember .. => inferInstanceAs (Decidable True)
  | .machine, .getInstance _ | .machine, .getInstanceByName _ | .machine, .createInstance _
  | .machine, .tagResource .. | .machine, .getLoadBalancer _
  | .machine, .getLoadBalancerByName _ | .machine, .listMembers ..
  | .machine, .createMember .. => inferInstanceAs (Decidable False)
  | .image, .deleteJob _ | .image, .deleteImage _ => inferInstanceAs (Decidable True)
  | .image, .createImportJob _ | .image, .getJob _ | .image, .getAllImages
  | .image, .getImage _ => inferInstanceAs (Decidable False)

/-- It is known where the cloud resources of an object are, or that there are none. -/
def TargetKnown : (managed : Managed) → managed.Resource → Option managed.Cluster → Prop
  | .machine, object, cluster => (Machine.region object).isSome ∨ cluster.isSome
  | .image, object, cluster =>
    Image.ownsCloudState object = false ∨ (Image.target object cluster).serviceInstanceId.isSome

end Managed

theorem Managed.targetKnown_machine_iff (object : Machine) (cluster : Option VpcCluster) :
    Managed.machine.TargetKnown object cluster ↔
      ¬(object.region.isNone && cluster.isNone) = true := by
  rcases hregion : object.region with _ | region <;> rcases cluster with _ | cluster <;>
    simp [Managed.TargetKnown, hregion]

theorem Managed.targetKnown_image_iff (object : Image) (cluster : Option PowerVsCluster) :
    Managed.image.TargetKnown object cluster ↔
      ¬(object.ownsCloudState && (object.target cluster).serviceInstanceId.isNone) = true := by
  rcases hid : (object.target cluster).serviceInstanceId with _ | id <;>
    simp [Managed.TargetKnown, hid]

/-- A provider call that returned, with success or, where it takes something away, with the answer
that there is no such thing. -/
def Managed.WentWell (managed : Managed) (call : managed.Call)
    (ending : Outcome (Except CloudError (managed.Reply call))) : Prop :=
  ending.Succeeded ∨
    managed.removes call ∧ ∃ error, ending = .returned (.error error) ∧ error.isNotFound = true

instance (managed : Managed) (call : managed.Call) : DecidablePred (managed.WentWell call)
  | .returned (.ok _) => .isTrue (.inl trivial)
  | .returned (.error error) =>
    decidable_of_iff (managed.removes call ∧ error.isNotFound = true) (by simp [Managed.WentWell])
  | .expired => .isFalse (by simp [Managed.WentWell])
  | .panicked _ => .isFalse (by simp [Managed.WentWell])

theorem Managed.wentWell_iff {managed : Managed} {call : managed.Call}
    (hkeeps : ¬managed.removes call)
    (ending : Outcome (Except CloudError (managed.Reply call))) :
    managed.WentWell call ending ↔ ending.Succeeded := by
  simp [Managed.WentWell, hkeeps]

theorem Managed.wentWell_removal_iff {managed : Managed} {call : managed.Call}
    (hremoves : managed.removes call) (purpose : String)
    (ending : Outcome (Except CloudError (managed.Reply call))) :
    managed.WentWell call ending ↔ (ending.removal purpose).Succeeded := by
  rcases ending with (error | value) | _ | text
  · by_cases hnotFound : error.isNotFound <;>
      simp [Managed.WentWell, Outcome.removal, hremoves, hnotFound]
  all_goals simp [Managed.WentWell, Outcome.removal]

namespace Exchange

variable {managed : Managed}

/-- Every provider call has to go well.  Other questions do not matter. -/
def WentWell : Exchange (outside managed) → Prop
  | ⟨.cloud call, ending⟩ => managed.WentWell call ending
  | ⟨.secret .., _⟩ => True
  | ⟨.publish .., _⟩ => True

instance : DecidablePred (WentWell : Exchange (outside managed) → Prop)
  | ⟨.cloud call, ending⟩ => inferInstanceAs (Decidable (managed.WentWell call ending))
  | ⟨.secret .., _⟩ | ⟨.publish .., _⟩ => inferInstanceAs (Decidable True)

/-- Adds an exchange to whether all of them went well. -/
def tally (fine : Prop) (exchange : Exchange (outside managed)) : Prop :=
  fine ∧ exchange.WentWell

theorem foldl_tally (exchanges : List (Exchange (outside managed))) (fine : Prop) :
    exchanges.foldl tally fine ↔ fine ∧ ∀ exchange ∈ exchanges, exchange.WentWell := by
  induction exchanges generalizing fine with
  | nil => simp
  | cons exchange rest ih => simp [ih, tally, and_assoc]

end Exchange

theorem Outcome.succeeded_mapError {ε ε' α : Type} (change : ε → ε')
    (ending : Outcome (Except ε α)) : (ending.mapError change).Succeeded ↔ ending.Succeeded := by
  rcases ending with (error | value) | _ | text <;> exact Iff.rfl

/-- Steps that leave their state alone and succeed exactly when all of their calls went well. -/
def Step.Faithful {managed : Managed} {σ α : Type} (step : Step managed σ α) : Prop :=
  ∀ (state : σ) (fine : Prop),
    (step state).Ensures (.folding Exchange.tally)
      (fun after outcome allFine => after = state ∧ (allFine ↔ fine ∧ outcome.Succeeded)) fine

namespace Step

variable {managed : Managed} {σ α β : Type}

theorem Faithful.pure (value : α) : Faithful (pure value : Step managed σ α) := by
  intro state fine
  simp

theorem Faithful.bind {first : Step managed σ α} {next : α → Step managed σ β}
    (hfirst : first.Faithful) (hnext : ∀ value, (next value).Faithful) :
    (first >>= next).Faithful := by
  intro state fine
  rw [Action.ensures_bind]
  apply (hfirst state fine).mono
  intro after outcome allFine hended
  obtain ⟨rfl, hfine⟩ := hended
  rcases outcome with (error | value) | _ | text
  · exact ⟨rfl, by simpa using hfine⟩
  · apply (hnext value after allFine).mono
    intro last outcome restFine hrest
    refine ⟨hrest.1, hrest.2.trans ?_⟩
    simp [hfine]
  · exact ⟨rfl, by simpa using hfine⟩
  · exact ⟨rfl, by simpa using hfine⟩

theorem Faithful.call {call : managed.Call} (hkeeps : ¬managed.removes call) :
    Faithful (Body.call managed call : Step managed σ _) := by
  intro state fine
  rw [Body.ensures_call]
  rintro ending _ rfl
  refine ⟨rfl, and_congr_right fun _ => ?_⟩
  rw [Outcome.succeeded_mapError]
  exact Managed.wentWell_iff hkeeps ending

theorem Faithful.remove {purpose : String} {call : managed.Call}
    (hremoves : managed.removes call) :
    Faithful (Body.remove managed purpose call : Step managed σ _) := by
  intro state fine
  rw [Body.ensures_remove]
  rintro ending _ rfl
  exact ⟨rfl, and_congr_right fun _ => Managed.wentWell_removal_iff hremoves purpose ending⟩

end Step

namespace Membership

open Step (Faithful)

variable {σ : Type}

theorem faithful_findLoadBalancer (reference : ResourceReference) :
    (findLoadBalancer reference : Calls σ _).Faithful := by
  unfold findLoadBalancer
  split
  · exact Faithful.call id
  · exact Faithful.call id
  · exact Faithful.pure none

theorem faithful_removeAll (loadBalancer : LoadBalancer) (pool : Pool)
    (members : List PoolMember) : (removeAll loadBalancer pool members : Calls σ _).Faithful := by
  induction members with
  | nil => exact Faithful.pure ()
  | cons member rest ih =>
      intro state fine
      unfold removeAll
      simp only [Action.ensures_bind, Body.ensures_attempt]
      rintro ((error | _) | _ | text) _ rfl
      · by_cases hnotFound : error.isNotFound
        · simpa [Exchange.tally, Exchange.WentWell, Managed.WentWell, Managed.removes,
            hnotFound] using ih state fine
        · simp [Exchange.tally, Exchange.WentWell, Managed.WentWell, hnotFound]
      · simpa [Exchange.tally, Exchange.WentWell, Managed.WentWell] using ih state fine
      · simp [Exchange.tally, Exchange.WentWell, Managed.WentWell]
      · simp [Exchange.tally, Exchange.WentWell, Managed.WentWell]

theorem faithful_removeMember (loadBalancer : LoadBalancer) (pool : Pool) (address : String) :
    (removeMember loadBalancer pool address : Calls σ _).Faithful :=
  (Faithful.call id).bind fun _ => faithful_removeAll loadBalancer pool _

theorem faithful_deregister (address : String) (memberships : List PoolMembership) :
    (deregister address memberships : Calls σ _).Faithful := by
  induction memberships with
  | nil => exact Faithful.pure ()
  | cons membership rest ih =>
      unfold deregister
      apply (faithful_findLoadBalancer membership.loadBalancer).bind
      intro found
      dsimp only
      split
      · exact ih
      · split
        · exact ih
        · exact (faithful_removeMember _ _ _).bind fun _ => ih

/-- The control plane's pool is looked for with calls that all go well, unless the search fails
with something else than that there is no such pool. -/
theorem controlPlanePool_ensures (cluster : VpcCluster) (state : σ) (fine : Prop) :
    ((controlPlanePool cluster : Calls σ _) state).Ensures (.folding Exchange.tally)
      (fun after outcome allFine => after = state ∧ (allFine ↔ fine ∧ (outcome.Succeeded ∨
        ∃ error, outcome = .returned (.error error) ∧ isMissing error = true))) fine := by
  unfold controlPlanePool
  rcases cluster.controlPlaneLoadBalancer with _ | reference
  · simp [isMissing]
  · simp only [Action.ensures_bind, Body.ensures_call]
    rintro ending _ rfl
    have hwell : Managed.machine.WentWell (.getLoadBalancer reference.id) ending ↔
        ending.Succeeded := Managed.wentWell_iff id ending
    rcases ending with (error | _ | loadBalancer) | _ | text
    · simp [Exchange.tally, Exchange.WentWell, hwell,
        isMissing]
    · simp [Exchange.tally, Exchange.WentWell, hwell,
        isMissing]
    · rcases hpool : loadBalancer.pools.head? with _ | pool <;>
        simp [Exchange.tally, Exchange.WentWell, hwell,
          isMissing, hpool]
    · simp [Exchange.tally, Exchange.WentWell, hwell]
    · simp [Exchange.tally, Exchange.WentWell, hwell]

theorem faithful_deregisterControlPlane (cluster : VpcCluster) (address : String) :
    (deregisterControlPlane cluster address : Calls σ _).Faithful := by
  intro state fine
  unfold deregisterControlPlane
  simp only [Action.ensures_bind, Action.ensures_attempt]
  apply (controlPlanePool_ensures cluster state fine).mono
  intro after outcome allFine hended
  obtain ⟨rfl, hfine⟩ := hended
  rcases outcome with (error | ⟨loadBalancer, pool⟩) | _ | text
  · by_cases hmissing : isMissing error <;> simp [hfine, hmissing]
  · simpa [hfine] using faithful_removeMember loadBalancer pool address after allFine
  · simp [hfine]
  · simp [hfine]

end Membership

theorem Metadata.hasFinalizer_dropFinalizer (finalizer : String) (metadata : Metadata) :
    (metadata.dropFinalizer finalizer).hasFinalizer finalizer = false := by
  rcases hfinalizers : metadata.finalizers with _ | finalizers <;>
    simp [hasFinalizer, dropFinalizer, hfinalizers]

/-- Taking the finalizer out leaves none, also where it was there more than once. -/
@[simp]
theorem Managed.hasFinalizer_removeFinalizer (managed : Managed) (object : managed.Resource) :
    managed.hasFinalizer (managed.removeFinalizer object) = false :=
  Metadata.hasFinalizer_dropFinalizer _ _

/-- A body has taken the finalizer out, and there is nothing more to do unless it is cut then. -/
def Managed.Freed (managed : Managed) (object after : managed.Resource)
    (outcome : Outcome (Except Error Requeue)) : Prop :=
  after = managed.removeFinalizer object ∧ ∀ result, outcome = .returned result → result = .ok .none

/-- How a delete pass ends on an object with the finalizer: either the finalizer is taken out and
everything went well, or the object is as it was and the pass fails. -/
def Managed.ReleasedWhen (managed : Managed) (object after : managed.Resource)
    (outcome : Outcome (Except Error Requeue)) (fine : Prop) : Prop :=
  managed.Freed object after outcome ∧ fine ∨ after = object ∧ ¬fine ∧ ¬outcome.Succeeded

namespace Step

variable {managed : Managed} {α : Type}

/-- Bodies that, with all calls well so far, take the finalizer out exactly when the remaining ones
go well too, and fail when they leave it in. -/
def Releases (body : Body managed Requeue) : Prop :=
  ∀ (object : managed.Resource) (fine : Prop), fine →
    (body object).Ensures (.folding Exchange.tally) (managed.ReleasedWhen object) fine

/-- The end of every delete pass.  Whether the event is published is of no account. -/
theorem Releases.finish (managed : Managed) (event : Event) :
    Releases (do
      modify (managed.removeFinalizer ·)
      Body.publish event
      return .none : Body managed Requeue) := by
  intro object fine hfine
  simp only [Action.ensures_bind, Action.ensures_modify, Outcome.follow_ok, Body.ensures_publish]
  rintro (result | _ | text) _ rfl
  · exact .inl ⟨⟨rfl, fun _ hended => (Outcome.returned.inj hended).symm⟩, hfine, trivial⟩
  · exact .inl ⟨⟨rfl, by simp⟩, hfine, trivial⟩
  · exact .inl ⟨⟨rfl, by simp⟩, hfine, trivial⟩

/-- What is done first may be anything that succeeds exactly when its calls go well. -/
theorem Faithful.releases {first : Body managed α} {next : α → Body managed Requeue}
    (hfirst : Faithful first) (hnext : ∀ value, Releases (next value)) :
    Releases (first >>= next) := by
  intro object fine hfine
  rw [Action.ensures_bind]
  apply (hfirst object fine).mono
  intro after outcome allFine hended
  obtain ⟨rfl, hallFine⟩ := hended
  rcases outcome with (error | value) | _ | text
  · exact .inr ⟨rfl, fun hall => (hallFine.mp hall).2, id⟩
  · exact hnext value after allFine (hallFine.mpr ⟨hfine, trivial⟩)
  · exact .inr ⟨rfl, fun hall => (hallFine.mp hall).2, id⟩
  · exact .inr ⟨rfl, fun hall => (hallFine.mp hall).2, id⟩

end Step

namespace Machine

theorem faithful_deregister (surroundings : Surroundings) (machine : Machine) :
    (deregister surroundings machine : Pass Unit).Faithful := by
  unfold deregister
  split
  · exact Step.Faithful.pure ()
  · dsimp only
    split
    · exact Membership.faithful_deregister _ _
    · split
      · split
        · exact Step.Faithful.pure ()
        · exact Membership.faithful_deregisterControlPlane _ _
      · exact Step.Faithful.pure ()

theorem faithful_instanceToDelete (machine : Machine) :
    (instanceToDelete machine).Faithful := by
  unfold instanceToDelete
  split
  · exact Step.Faithful.pure _
  · exact (Step.Faithful.call id).bind fun _ => Step.Faithful.pure _

/-- The delete pass of a machine takes the finalizer out exactly when it knows where to look and all
of its calls go well, and fails otherwise. -/
theorem reconcileDelete_ensures (surroundings : Surroundings) (machine : Machine)
    (hfinalizer : Managed.machine.hasFinalizer machine = true) :
    (reconcileDelete surroundings machine).Ensures (.folding Exchange.tally)
      (fun after outcome allFine => Managed.machine.ReleasedWhen machine after outcome
        (Managed.machine.TargetKnown machine surroundings.cluster ∧ allFine)) True := by
  unfold reconcileDelete
  simp only [Action.ensures_bind, Action.ensures_get, Outcome.follow_ok, hfinalizer, Bool.not_true,
    Bool.false_eq_true, if_false]
  by_cases hunknown : (machine.region.isNone && surroundings.cluster.isNone) = true
  · have hnot := mt (Managed.targetKnown_machine_iff ..).mp (not_not_intro hunknown)
    rw [if_pos hunknown]
    exact .inr ⟨rfl, fun hall => hnot hall.1, id⟩
  · have hknown := (Managed.targetKnown_machine_iff ..).mpr hunknown
    simp only [if_neg hunknown, hknown, true_and]
    refine (?releases : Step.Releases (_ : Pass Requeue)) machine True trivial
    apply (faithful_deregister surroundings machine).releases
    intro _
    apply (faithful_instanceToDelete machine).releases
    intro found
    rcases found with _ | id
    · exact Step.Releases.finish .machine _
    · have hremoves : Managed.machine.removes (.deleteInstance id) := trivial
      exact (Step.Faithful.remove hremoves).releases fun _ => Step.Releases.finish .machine _

end Machine

namespace Image

/-- The same for images. -/
theorem reconcileDelete_ensures (surroundings : Surroundings) (image : Image)
    (hfinalizer : Managed.image.hasFinalizer image = true) :
    (reconcileDelete surroundings image).Ensures (.folding Exchange.tally)
      (fun after outcome allFine => Managed.image.ReleasedWhen image after outcome
        (Managed.image.TargetKnown image surroundings.cluster ∧ allFine)) True := by
  unfold reconcileDelete
  simp only [Action.ensures_bind, Action.ensures_get, Outcome.follow_ok, hfinalizer, Bool.not_true,
    Bool.false_eq_true, if_false]
  by_cases hunknown : (image.ownsCloudState &&
      (image.target surroundings.cluster).serviceInstanceId.isNone) = true
  · have hnot := mt (Managed.targetKnown_image_iff ..).mp (not_not_intro hunknown)
    rw [if_pos hunknown]
    exact .inr ⟨rfl, fun hall => hnot hall.1, id⟩
  · have hknown := (Managed.targetKnown_image_iff ..).mpr hunknown
    simp only [if_neg hunknown, hknown, true_and]
    have hfinish := Step.Releases.finish .image
      (.finalizerRemoved Kind.image.name image.metadata.nameAny)
    rcases image.imageId with _ | id
    · rcases image.jobId with _ | id
      · exact hfinish image True trivial
      · have hremoves : Managed.image.removes (.deleteJob id) := trivial
        exact (Step.Faithful.remove hremoves).releases (fun _ => hfinish) image True trivial
    · have hremoves : Managed.image.removes (.deleteImage id) := trivial
      dsimp only
      split
      · exact (Step.Faithful.remove hremoves).releases (fun _ => hfinish) image True trivial
      · exact hfinish image True trivial

end Image

/-- Wherever a delete pass over an object with the finalizer ends, it has taken the finalizer out if
it knew where to look and all of its calls went well, and otherwise it fails over an object left as
it was. -/
theorem Managed.delete_ensures {managed : Managed} (surroundings : Surroundings managed)
    {object : managed.Resource} (hdeleting : object.metadata.isDeleting = true)
    (hfinalizer : managed.hasFinalizer object = true) :
    (managed.body surroundings object object).Ensures (.folding Exchange.tally)
      (fun after outcome allFine => managed.ReleasedWhen object after outcome
        (managed.TargetKnown object surroundings.cluster ∧ allFine)) True := by
  cases managed with
  | machine =>
      simp only [body, hdeleting, if_true]
      exact Machine.reconcileDelete_ensures surroundings object hfinalizer
  | image =>
      simp only [body, hdeleting, if_true]
      exact Image.reconcileDelete_ensures surroundings object hfinalizer

/-- Without the finalizer a delete pass does nothing. -/
theorem Managed.delete_ensures_of_released {managed : Managed}
    (surroundings : Surroundings managed) {object : managed.Resource}
    (hdeleting : object.metadata.isDeleting = true)
    (hreleased : managed.hasFinalizer object = false) :
    (managed.body surroundings object object).Ensures (.anything _)
      (fun after _ _ => after = object) () := by
  cases managed with
  | machine =>
      simp only [body, hdeleting, if_true]
      unfold Machine.reconcileDelete
      simp [hreleased]
  | image =>
      simp only [body, hdeleting, if_true]
      unfold Image.reconcileDelete
      simp [hreleased]

end Reconciler
