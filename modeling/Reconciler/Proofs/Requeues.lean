import Reconciler.Proofs.Deletion

/-!
# What passes come to

A pass ends with an error or with a requeue.  Only a pass that puts a mark of ownership on its
object wants to come back at once: whatever else a body does, it comes to another requeue.
-/

namespace Reconciler

/-- A body has left its object not ready, and wants to look at it again after a while. -/
structure Polled (poll : Nat) (ready : Bool) (outcome : Outcome (Except Error Requeue)) : Prop where
  unready : ready = false
  again : outcome = .returned (.ok (.after poll))

namespace Step

variable {managed : Managed} {σ α β : Type} {allowed : β → Prop}

/-- However the questions of the step end, it comes to no other values than these. -/
def Yields (allowed : β → Prop) (step : Step managed σ β) : Prop :=
  ∀ state, (step state).Ensures (.anything _) (fun _ outcome _ =>
    ∀ value, outcome = .returned (.ok value) → allowed value) ()

theorem Yields.pure {value : β} (hallowed : allowed value) :
    Yields allowed (pure value : Step managed σ β) := by
  rintro state _ ⟨⟩
  exact hallowed

theorem Yields.bind_of {known : α → Prop} {first : Step managed σ α} {next : α → Step managed σ β}
    (hfirst : Yields known first) (hnext : ∀ value, known value → Yields allowed (next value)) :
    Yields allowed (first >>= next) := by
  intro state
  rw [Action.ensures_bind]
  apply (hfirst state).mono
  rintro middle ((error | value) | _ | text) _ hknown
  · exact fun _ => nofun
  · exact hnext value (hknown value rfl) middle
  · exact fun _ => nofun
  · exact fun _ => nofun

/-- What a step comes to is up to its last part. -/
theorem Yields.bind (first : Step managed σ α) {next : α → Step managed σ β}
    (hnext : ∀ value, Yields allowed (next value)) : Yields allowed (first >>= next) := by
  have hends : Yields (fun _ => True) first := fun state =>
    (Program.ensures_of_preserved (fun _ _ _ _ _ _ => trivial) (first state) trivial).mono
      fun _ _ _ _ _ _ => trivial
  exact hends.bind_of fun value _ => hnext value

/-- The end of every delete pass. -/
theorem Yields.finish (managed : Managed) (event : Event) :
    Yields (· ≠ .immediate) (do
      modify (managed.removeFinalizer ·)
      Body.publish event
      return .none : Body managed Requeue) :=
  Yields.bind _ fun _ => Yields.bind _ fun _ => Yields.pure nofun

end Step

open Step (Yields)

namespace Machine

theorem yields_reconcileInstance (surroundings : Surroundings) (found : Instance) :
    Yields (· ≠ .immediate) (reconcileInstance surroundings found) := by
  have hupdate (change : MachineStatus → MachineStatus) (seconds : Nat) :
      Yields (· ≠ .immediate) (do update change; return .after seconds : Pass Requeue) :=
    Yields.bind _ fun _ => Yields.pure nofun
  unfold reconcileInstance
  dsimp only
  split
  · exact hupdate _ _
  · exact hupdate _ _
  · exact Yields.bind _ fun _ => Yields.bind _ fun _ => Yields.pure nofun
  · unfold reconcileRunning
    refine Yields.bind _ ?_
    rintro (_ | _ | _)
    · exact Yields.pure nofun
    · exact Yields.bind _ fun _ => Yields.pure nofun
    · exact hupdate _ _
  · exact hupdate _ _

theorem yields_owned (surroundings : Surroundings) :
    Yields (· ≠ .immediate) (owned surroundings) := by
  unfold owned
  refine Yields.bind _ fun machine => ?_
  split
  · exact Yields.pure nofun
  · refine Yields.bind _ ?_
    rintro (_ | found)
    · exact Yields.bind _ fun _ => Yields.pure nofun
    · exact Yields.bind _ fun _ => yields_reconcileInstance surroundings found

theorem yields_reconcileDelete (surroundings : Surroundings) :
    Yields (· ≠ .immediate) (reconcileDelete surroundings) := by
  have hdispose (machine : Machine) : Yields (· ≠ .immediate) (dispose machine) := by
    unfold dispose
    refine Yields.bind _ ?_
    rintro (_ | id)
    · exact Yields.finish .machine _
    · exact Yields.bind _ fun _ => Yields.finish .machine _
  have hrest (machine : Machine) : Yields (· ≠ .immediate) (do
      deregister surroundings machine
      dispose machine : Pass Requeue) := Yields.bind _ fun _ => hdispose machine
  rw [reconcileDelete_eq]
  refine Yields.bind _ fun machine => ?_
  split
  · exact Yields.pure nofun
  · split
    · exact Yields.bind _ fun _ => hrest machine
    · exact hrest machine

end Machine

namespace Image

theorem yields_reconcileImage (surroundings : Surroundings) (id : String) :
    Yields (· ≠ .immediate) (reconcileImage surroundings id) := by
  unfold reconcileImage
  refine Yields.bind _ fun found => Yields.bind _ fun _ => ?_
  split
  · exact Yields.bind _ fun _ => Yields.pure nofun
  · exact Yields.bind _ fun _ => Yields.pure nofun
  · exact Yields.bind _ fun _ => Yields.pure nofun

/-- A job that is not done is followed, unless it has failed. -/
theorem yields_reconcileJob (surroundings : Surroundings) :
    Yields (fun requeue => ∀ value, requeue = some value →
      value = .after surroundings.settings.jobPoll) (reconcileJob surroundings) := by
  unfold reconcileJob
  refine Yields.bind _ fun image => ?_
  split
  · exact Yields.pure nofun
  · refine Yields.bind _ ?_
    rintro (error | job)
    · exact fun _ _ => nofun
    · dsimp only
      split
      · exact Yields.bind _ fun _ => Yields.pure nofun
      · exact Yields.bind _ fun _ _ _ => nofun
      all_goals
        exact Yields.bind _ fun _ => Yields.pure fun _ hvalue => (Option.some.inj hvalue).symm

theorem yields_owned (surroundings : Surroundings) :
    Yields (· ≠ .immediate) (owned surroundings) := by
  unfold owned
  apply (yields_reconcileJob surroundings).bind_of
  rintro (_ | requeue) hrequeue
  · refine Yields.bind _ ?_
    rintro (_ | id)
    · exact Yields.pure nofun
    · exact yields_reconcileImage surroundings id
  · obtain rfl := hrequeue requeue rfl
    exact Yields.pure nofun

/-- What a delete pass does once it is known where the image is. -/
def dispose (image : Image) : Pass Requeue := do
  match image.imageId with
  | none =>
    match image.jobId with
    | none => pure ()
    | some id => Body.remove .image ("deleting import job " ++ id) (.deleteJob id)
  | some id =>
    if image.spec.deletePolicy != .retain then
      Body.remove .image ("deleting image " ++ id) (.deleteImage id)
  modify (Managed.image.removeFinalizer ·)
  Body.publish (.finalizerRemoved Kind.image.name image.metadata.nameAny)
  return .none

theorem reconcileDelete_eq (surroundings : Surroundings) : reconcileDelete surroundings = (do
    let image ← get
    if !Managed.image.hasFinalizer image then return .none
    if image.ownsCloudState && (image.target surroundings.cluster).serviceInstanceId.isNone then
      throw (.unknownTarget image.metadata.key)
    dispose image) := rfl

theorem yields_reconcileDelete (surroundings : Surroundings) :
    Yields (· ≠ .immediate) (reconcileDelete surroundings) := by
  have hdispose (image : Image) : Yields (· ≠ .immediate) (dispose image) := by
    unfold dispose
    dsimp only
    split
    · split
      · exact Yields.finish .image _
      · exact Yields.bind _ fun _ => Yields.finish .image _
    · split
      · exact Yields.bind _ fun _ => Yields.finish .image _
      · exact Yields.finish .image _
  rw [reconcileDelete_eq]
  refine Yields.bind _ fun image => ?_
  split
  · exact Yields.pure nofun
  · split
    · exact Yields.bind _ fun _ => hdispose image
    · exact hdispose image

end Image

/-- A delete pass does not want to come back at once. -/
theorem Managed.yields_delete {managed : Managed} (surroundings : Surroundings managed)
    {object : managed.Resource} (hdeleting : object.metadata.isDeleting = true) :
    Yields (· ≠ .immediate) (managed.body surroundings object) := by
  cases managed with
  | machine =>
      rw [body_of_deleting _ hdeleting]
      exact Machine.yields_reconcileDelete surroundings
  | image =>
      simp only [body, hdeleting, if_true]
      exact Image.yields_reconcileDelete surroundings

end Reconciler
