import Reconciler.Proofs.Ending
import Reconciler.Proofs.Requeues

/-!
# Where bodies are cut

A body ends where one of its questions fails: a provider call that is refused, a secret that cannot
be read.  It does nothing to its object any more, and the error that it ends with has the failure in
it.  Two failures are none to a body: that there is nothing to remove, and an event that gets lost.
-/

namespace Reconciler

/-- An error inside any number of wrappers. -/
inductive Error.Inside (failure : Error) : Error → Prop
  | itself : Inside failure failure
  | context (text : String) {error : Error} (hinside : Inside failure error) :
      Inside failure (.context text error)
  | requeue (after : Nat) {error : Error} (hinside : Inside failure error) :
      Inside failure (.requeue after error)

/-- A body that gets this answer ends with this error. -/
def BodyQuestion.Refuses {managed : Managed} :
    (question : BodyQuestion managed) → question.Answer → Error → Prop
  | .cloud call, .error failure, error =>
    Error.Inside (.cloud failure) error ∧ ¬(managed.removes call ∧ failure.isNotFound = true)
  | .secret .., .error failure, error => error = failure
  | .cloud _, .ok _, _ => False
  | .secret .., .ok _, _ => False
  | .publish .., _, _ => False

variable {managed : Managed} {settings : Settings} {σ α β : Type}

/-- A failed question is the last one, and then the state stays as it is at the question. -/
def Program.Halts : Program (outside managed) σ (Except Error α) → Prop
  | .done _ _ => True
  | .ask state question next => ∀ answer, (next answer).Halts ∧
    ((∃ error, question.Refuses answer error) →
      ∃ error, question.Refuses answer error ∧ next answer = .done state (.error error))

/-- How long a pass asks to wait after a call that failed.  Only the call that follows a job has a
time of its own. -/
def Managed.pause : (managed : Managed) → Settings → managed.Call → Option Nat
  | .image, settings, .getJob _ => some settings.jobPoll
  | .image, _, _ => none
  | .machine, _, _ => none

namespace BodyQuestion

/-- The error asks for the pause of the call that failed. -/
def Pauses (settings : Settings) : BodyQuestion managed → Error → Prop
  | .cloud call, error => error.requeueAfter = managed.pause settings call
  | .secret .., _ => True
  | .publish .., _ => True

/-- No body goes on with this answer. -/
def Fails (question : BodyQuestion managed) (answer : question.Answer) : Prop :=
  ∃ error, question.Refuses answer error

/-- How a body ends with an answer that it does not go on with. -/
def FailsWith (settings : Settings) (question : BodyQuestion managed) (answer : question.Answer)
    (result : Except Error α) : Prop :=
  ∃ error, result = .error error ∧ question.Refuses answer error ∧ question.Pauses settings error

end BodyQuestion

theorem Program.EndsOn.halts {program : Program (outside managed) σ (Except Error α)}
    (hends : program.EndsOn BodyQuestion.Fails (BodyQuestion.FailsWith settings)) :
    program.Halts := by
  induction program with
  | done state result => trivial
  | ask state question next ih =>
      intro answer
      refine ⟨ih answer (hends answer).1, fun hfails => ?_⟩
      obtain ⟨_, ⟨error, rfl, hrefuses, -⟩, hdone⟩ := (hends answer).2 hfails
      exact ⟨error, hrefuses, hdone⟩

namespace Step

/-- From wherever it is taken, the step ends where a question fails, and asks for the pause of the
call if it was one. -/
def Stops (settings : Settings) (step : Step managed σ α) : Prop :=
  Action.EndsOn BodyQuestion.Fails (BodyQuestion.FailsWith settings) step

theorem Stops.pure (value : α) : Stops settings (pure value : Step managed σ α) :=
  Action.EndsOn.pure value

theorem Stops.throw (error : Error) : Stops settings (throw error : Step managed σ α) :=
  Action.EndsOn.throw error

theorem Stops.get : Stops settings (get : Step managed σ σ) := Action.EndsOn.get

theorem Stops.set (state : σ) : Stops settings (set state : Step managed σ PUnit) :=
  Action.EndsOn.set state

theorem Stops.modifyGet (change : σ → α × σ) :
    Stops settings (modifyGet change : Step managed σ α) := Action.EndsOn.modifyGet change

theorem Stops.modify (change : σ → σ) : Stops settings (modify change : Step managed σ PUnit) :=
  fun _ => trivial

theorem Stops.ofExcept (result : Except Error α) :
    Stops settings (Action.ofExcept result : Step managed σ α) := Action.EndsOn.ofExcept result

theorem Stops.bind {first : Step managed σ α} {next : α → Step managed σ β}
    (hfirst : Stops settings first) (hnext : ∀ value, Stops settings (next value)) :
    Stops settings (first >>= next) := by
  apply Action.EndsOn.bind hfirst hnext
  · rintro question answer error ⟨_, ⟨⟩, hrefuses, hpauses⟩
    exact ⟨error, rfl, hrefuses, hpauses⟩
  · rintro question answer value state ⟨_, ⟨⟩, -⟩

theorem Stops.map {first : Step managed σ α} (change : α → β) (hfirst : Stops settings first) :
    Stops settings (change <$> first) :=
  hfirst.bind fun value => Stops.pure (change value)

/-- A provider call of which each failure is an error of the body. -/
theorem Stops.attempt {call : managed.Call}
    {next : Except CloudError (managed.Reply call) → Step managed σ β}
    (hnext : ∀ result, Stops settings (next result))
    (hrefused : ∀ failure state, ¬(managed.removes call ∧ failure.isNotFound = true) →
      ∃ error, Error.Inside (.cloud failure) error ∧
        error.requeueAfter = managed.pause settings call ∧
        next (.error failure) state = .done state (.error error)) :
    Stops settings (Body.attempt managed call >>= next) := by
  refine Action.EndsOn.ask hnext ?_
  rintro (failure | reply) state ⟨error, hrefuses⟩
  · obtain ⟨error, hinside, hpauses, hended⟩ := hrefused failure state hrefuses.2
    exact ⟨.error error, ⟨error, rfl, ⟨hinside, hrefuses.2⟩, hpauses⟩, hended⟩
  · exact hrefuses.elim

/-- A call that has no pause of its own. -/
theorem Stops.call (call : managed.Call) (hpause : managed.pause settings call = none) :
    Stops settings (Body.call managed call : Step managed σ _) :=
  Stops.attempt (fun _ => Stops.ofExcept _) fun _ _ _ => ⟨_, .itself, hpause.symm, rfl⟩

theorem Stops.callFor (purpose : String) (call : managed.Call)
    (hpause : managed.pause settings call = none) :
    Stops settings (Body.callFor managed purpose call : Step managed σ _) :=
  Stops.attempt (fun _ => Stops.ofExcept _) fun _ _ _ =>
    ⟨_, .context _ .itself, hpause.symm, rfl⟩

theorem Stops.remove (purpose : String) {call : managed.Call} (hremoves : managed.removes call)
    (hpause : managed.pause settings call = none) :
    Stops settings (Body.remove managed purpose call : Step managed σ _) := by
  unfold Body.remove
  apply Stops.attempt
  · rintro (failure | _)
    · dsimp only
      split
      · exact Stops.pure ()
      · exact Stops.throw _
    · exact Stops.pure ()
  · intro failure state hfails
    have hnotFound : ¬failure.isNotFound = true := fun hgone => hfails ⟨hremoves, hgone⟩
    exact ⟨_, .context _ .itself, hpause.symm, by simp only [if_neg hnotFound]; rfl⟩

theorem Stops.publish (event : Event) :
    Stops settings (Body.publish event : Body managed Unit) := by
  refine Stops.get.bind fun object => Action.EndsOn.ask (fun _ => Stops.pure ()) ?_
  rintro (failure | _) state ⟨error, hrefuses⟩ <;> exact hrefuses.elim

end Step

open Step (Stops)

theorem Body.stops_takeOwnership (cluster : Option managed.Cluster) :
    Stops settings (Body.takeOwnership cluster : Body managed Bool) := by
  unfold Body.takeOwnership
  apply (Stops.modifyGet _).bind
  intro added
  split
  · exact Stops.pure true
  · refine (Stops.modify _).bind fun _ => Stops.get.bind fun _ => (Stops.ofExcept _).bind ?_
    intro adopts
    split
    · exact Stops.get.bind fun _ => (Stops.ofExcept _).bind fun _ =>
        (Stops.set _).bind fun _ => Stops.pure true
    · exact Stops.pure false

/-- The end of every delete pass. -/
theorem Body.stops_finish (managed : Managed) (event : Event) : Stops settings (do
    modify (managed.removeFinalizer ·)
    Body.publish event
    return .none : Body managed Requeue) :=
  (Stops.modify _).bind fun _ => (Stops.publish event).bind fun _ => Stops.pure _

namespace Membership

theorem stops_findLoadBalancer (reference : ResourceReference) :
    Stops settings (findLoadBalancer reference : Calls σ _) := by
  unfold findLoadBalancer
  split
  · exact Stops.call _ rfl
  · exact Stops.call _ rfl
  · exact Stops.pure none

theorem stops_ensureMember (loadBalancer : LoadBalancer) (pool : Pool) (address : String)
    (port : Int) (weight : Option Int) :
    Stops settings (ensureMember loadBalancer pool address port weight : Calls σ _) := by
  unfold ensureMember
  apply (Stops.call _ rfl).bind
  intro members
  split
  · exact Stops.pure _
  · split
    · exact Stops.pure true
    · exact (Stops.call _ rfl).bind fun _ => Stops.pure _

theorem stops_registerOne (membership : PoolMembership) (address : String) :
    Stops settings (registerOne membership address : Calls σ _) := by
  unfold registerOne
  apply (stops_findLoadBalancer _).bind
  intro found
  split
  · exact Stops.throw _
  · split
    · exact Stops.throw _
    · exact stops_ensureMember _ _ _ _ _

theorem stops_register (address : String) (memberships : List PoolMembership) :
    Stops settings (register address memberships : Calls σ _) := by
  induction memberships with
  | nil => exact Stops.pure false
  | cons membership rest ih =>
      exact (stops_registerOne membership address).bind fun _ => ih.bind fun _ => Stops.pure _

theorem stops_controlPlanePool (cluster : VpcCluster) :
    Stops settings (controlPlanePool cluster : Calls σ _) := by
  unfold controlPlanePool
  split
  · exact Stops.throw _
  · apply (Stops.call _ rfl).bind
    intro found
    split
    · exact Stops.throw _
    · split
      · exact Stops.throw _
      · exact Stops.pure _

theorem stops_registerControlPlane (cluster : VpcCluster) (address : Option String) :
    Stops settings (registerControlPlane cluster address : Calls σ _) := by
  unfold registerControlPlane
  exact (Stops.ofExcept _).bind fun _ => (stops_controlPlanePool cluster).bind fun _ =>
    stops_ensureMember _ _ _ _ _

theorem stops_removeAll (loadBalancer : LoadBalancer) (pool : Pool) (members : List PoolMember) :
    Stops settings (removeAll loadBalancer pool members : Calls σ _) := by
  induction members with
  | nil => exact Stops.pure ()
  | cons member rest ih =>
      unfold removeAll
      apply Stops.attempt
      · rintro (failure | _)
        · dsimp only
          split
          · exact ih
          · exact Stops.throw _
        · exact ih
      · intro failure state hfails
        have hnotFound : ¬failure.isNotFound = true := fun hgone => hfails ⟨trivial, hgone⟩
        exact ⟨_, .itself, rfl, by simp only [if_neg hnotFound]; rfl⟩

theorem stops_removeMember (loadBalancer : LoadBalancer) (pool : Pool) (address : String) :
    Stops settings (removeMember loadBalancer pool address : Calls σ _) :=
  (Stops.call _ rfl).bind fun _ => stops_removeAll _ _ _

theorem stops_deregister (address : String) (memberships : List PoolMembership) :
    Stops settings (deregister address memberships : Calls σ _) := by
  induction memberships with
  | nil => exact Stops.pure ()
  | cons membership rest ih =>
      unfold deregister
      apply (stops_findLoadBalancer _).bind
      intro found
      dsimp only
      split
      · exact ih
      · split
        · exact ih
        · exact (stops_removeMember _ _ _).bind fun _ => ih

/-- Looking for the pool fails only where its call does; a pool that is missing has no members. -/
theorem deregisterControlPlane_eq (cluster : VpcCluster) (address : String) :
    (deregisterControlPlane cluster address : Calls σ Unit) = (do
      match cluster.controlPlaneLoadBalancer with
      | none => return
      | some reference =>
        let found : Option LoadBalancer ←
          Body.call .machine (.getLoadBalancer reference.id)
        match found.bind fun loadBalancer => loadBalancer.pools.head?.map (loadBalancer, ·) with
        | none => return
        | some (loadBalancer, pool) => removeMember loadBalancer pool address) := by
  funext state
  unfold deregisterControlPlane controlPlanePool
  rcases cluster.controlPlaneLoadBalancer with _ | reference
  · rfl
  · refine congrArg (Program.ask state _) (funext ?_)
    rintro (failure | _ | ⟨id, name, status, _ | ⟨pool, pools⟩⟩) <;> rfl

theorem stops_deregisterControlPlane (cluster : VpcCluster) (address : String) :
    Stops settings (deregisterControlPlane cluster address : Calls σ _) := by
  rw [deregisterControlPlane_eq]
  split
  · exact Stops.pure ()
  · apply (Stops.call _ rfl).bind
    intro found
    split
    · exact Stops.pure ()
    · exact stops_removeMember _ _ _

end Membership

namespace Machine

theorem stops_recordRegion (cluster : Option VpcCluster) :
    Stops settings (recordRegion cluster) := by
  unfold recordRegion
  apply Stops.get.bind
  intro machine
  split
  · exact Stops.pure ()
  · split
    · exact Stops.pure ()
    · exact Stops.modify _

theorem stops_bootstrapData (machine : Machine) : Stops settings (bootstrapData machine) := by
  unfold bootstrapData
  dsimp only
  apply Action.EndsOn.ask
  · refine fun answer => (Stops.ofExcept answer).bind fun secret => ?_
    split
    · exact Stops.pure _
    · exact Stops.throw _
  · rintro (failure | secret) state ⟨error, hrefuses⟩
    · exact ⟨.error failure, ⟨failure, rfl, rfl, trivial⟩, rfl⟩
    · exact hrefuses.elim

theorem stops_findInstance (machine : Machine) : Stops settings (findInstance machine) := by
  unfold findInstance
  split
  · apply (Stops.pure none).bind
    rintro (_ | found)
    · exact Stops.call _ rfl
    · exact Stops.pure _
  · apply (Stops.call _ rfl).bind
    rintro (_ | found)
    · exact Stops.call _ rfl
    · exact Stops.pure _

theorem stops_getOrCreate (surroundings : Surroundings) :
    Stops settings (getOrCreate surroundings) := by
  unfold getOrCreate
  apply Stops.get.bind
  intro machine
  apply (stops_findInstance machine).bind
  intro found
  split
  · exact Stops.pure _
  · split
    · exact Stops.pure none
    · split
      · exact Stops.pure none
      · apply (stops_bootstrapData machine).bind
        intro userData
        exact (Stops.callFor _ _ rfl).bind fun _ => Stops.pure _

theorem stops_recordInstance (surroundings : Surroundings) (instance_ : Instance) :
    Stops settings (recordInstance surroundings instance_) := by
  unfold recordInstance
  apply Stops.get.bind
  intro machine
  dsimp only
  split
  · split
    · exact (Stops.modify _).bind fun _ => Stops.modify _
    · exact (Stops.callFor _ _ rfl).bind fun _ => (Stops.modify _).bind fun _ => Stops.modify _
  · exact Stops.modify _

theorem stops_registerRunning (surroundings : Surroundings) (instance_ : Instance) :
    Stops settings (registerRunning surroundings instance_) := by
  unfold registerRunning
  apply Stops.get.bind
  intro machine
  dsimp only
  split
  · exact (Stops.ofExcept _).bind fun _ => Stops.map _ (Membership.stops_register _ _)
  · split
    · split
      · exact Stops.pure _
      · exact Stops.map _ (Membership.stops_registerControlPlane _ _)
    · exact Stops.pure _

theorem stops_reconcileInstance (surroundings : Surroundings) (instance_ : Instance) :
    Stops settings (reconcileInstance surroundings instance_) := by
  unfold reconcileInstance
  dsimp only
  split
  · exact (Stops.modify _).bind fun _ => Stops.pure _
  · exact (Stops.modify _).bind fun _ => Stops.pure _
  · exact (Stops.modify _).bind fun _ => (Stops.publish _).bind fun _ => Stops.pure _
  · unfold reconcileRunning
    apply (stops_registerRunning surroundings instance_).bind
    intro waiting
    split
    · exact Stops.pure _
    · exact (Stops.modify _).bind fun _ => Stops.pure _
    · exact (Stops.modify _).bind fun _ => Stops.pure _
  · exact (Stops.modify _).bind fun _ => Stops.pure _

theorem stops_reconcileNormal (surroundings : Surroundings) :
    Stops settings (reconcileNormal surroundings) := by
  have howned : Stops settings (owned surroundings) := by
    unfold owned
    apply Stops.get.bind
    intro machine
    split
    · exact Stops.pure _
    · apply (stops_getOrCreate surroundings).bind
      rintro (_ | found)
      · exact (Stops.modify _).bind fun _ => Stops.pure _
      · exact (stops_recordInstance surroundings found).bind fun _ =>
          stops_reconcileInstance surroundings found
  rw [reconcileNormal_eq]
  refine (stops_recordRegion _).bind fun _ => (Body.stops_takeOwnership _).bind fun added => ?_
  split
  · exact Stops.pure _
  · exact howned

theorem stops_deregister (surroundings : Surroundings) (machine : Machine) :
    Stops settings (deregister surroundings machine) := by
  unfold deregister
  split
  · exact Stops.pure ()
  · dsimp only
    split
    · exact Membership.stops_deregister _ _
    · split
      · split
        · exact Stops.pure ()
        · exact Membership.stops_deregisterControlPlane _ _
      · exact Stops.pure ()

theorem stops_dispose (machine : Machine) : Stops settings (dispose machine) := by
  have hinstance : Stops settings (instanceToDelete machine) := by
    unfold instanceToDelete
    split
    · exact Stops.pure _
    · exact (Stops.call _ rfl).bind fun _ => Stops.pure _
  unfold dispose
  apply hinstance.bind
  rintro (_ | id)
  · exact Body.stops_finish .machine _
  · exact (Stops.remove _ (by trivial) rfl).bind fun _ => Body.stops_finish .machine _

theorem stops_reconcileDelete (surroundings : Surroundings) :
    Stops settings (reconcileDelete surroundings) := by
  have hrest (machine : Machine) : Stops settings (do
      deregister surroundings machine
      dispose machine : Pass Requeue) :=
    (stops_deregister surroundings machine).bind fun _ => stops_dispose machine
  rw [reconcileDelete_eq]
  apply Stops.get.bind
  intro machine
  split
  · exact Stops.pure _
  · split
    · exact (Stops.throw _).bind fun _ => hrest machine
    · exact hrest machine

end Machine

namespace Image

theorem stops_recordWorkspace (cluster : Option PowerVsCluster) :
    Stops settings (recordWorkspace cluster) := by
  unfold recordWorkspace
  apply Stops.get.bind
  intro image
  split
  · exact Stops.pure ()
  · dsimp only
    split
    · exact Stops.pure ()
    · exact Stops.modify _

theorem stops_reconcileJob (surroundings : Surroundings) :
    Stops surroundings.settings (reconcileJob surroundings) := by
  have hupdate (change : ImageStatus → ImageStatus) (requeue : Option Requeue) :
      Stops surroundings.settings (do update change; return requeue : Pass (Option Requeue)) :=
    (Stops.modify _).bind fun _ => Stops.pure _
  unfold reconcileJob
  apply Stops.get.bind
  intro image
  split
  · exact Stops.pure none
  · apply Stops.attempt
    · rintro (failure | job)
      · exact Stops.throw _
      · dsimp only
        split
        · exact hupdate _ _
        · exact (Stops.modify _).bind fun _ => Stops.throw _
        · exact hupdate _ _
        · exact hupdate _ _
        · exact hupdate _ _
    · exact fun failure state _ => ⟨_, .requeue _ (.context _ .itself), rfl, rfl⟩

theorem stops_getOrCreate (now : Time.Instant) : Stops settings (getOrCreate now) := by
  unfold getOrCreate
  apply Stops.get.bind
  intro image
  apply (Stops.callFor _ _ rfl).bind
  intro listing
  split
  · exact Stops.pure _
  · split
    · exact Stops.pure none
    · exact (Stops.ofExcept _).bind fun _ => (Stops.callFor _ _ rfl).bind fun _ =>
        (Stops.modify _).bind fun _ => Stops.pure none

theorem stops_reconcileImage (surroundings : Surroundings) (id : String) :
    Stops settings (reconcileImage surroundings id) := by
  unfold reconcileImage
  refine (Stops.callFor _ _ rfl).bind fun found => (Stops.modify _).bind fun _ => ?_
  split
  · exact (Stops.modify _).bind fun _ => Stops.pure _
  · exact (Stops.modify _).bind fun _ => Stops.pure _
  · exact (Stops.modify _).bind fun _ => Stops.pure _

theorem stops_reconcileNormal (surroundings : Surroundings) :
    Stops surroundings.settings (reconcileNormal surroundings) := by
  have howned : Stops surroundings.settings (owned surroundings) := by
    unfold owned
    apply (stops_reconcileJob surroundings).bind
    rintro (_ | requeue)
    · apply (stops_getOrCreate _).bind
      rintro (_ | id)
      · exact Stops.pure _
      · exact stops_reconcileImage surroundings id
    · exact Stops.pure _
  rw [reconcileNormal_eq]
  apply (Body.stops_takeOwnership _).bind
  intro added
  split
  · exact Stops.pure _
  · exact (stops_recordWorkspace _).bind fun _ => howned

theorem stops_reconcileDelete (surroundings : Surroundings) :
    Stops settings (reconcileDelete surroundings) := by
  have hdispose (image : Image) : Stops settings (dispose image) := by
    unfold dispose
    dsimp only
    split
    · split
      · exact Body.stops_finish .image _
      · exact (Stops.remove _ (by trivial) rfl).bind fun _ => Body.stops_finish .image _
    · split
      · exact (Stops.remove _ (by trivial) rfl).bind fun _ => Body.stops_finish .image _
      · exact Body.stops_finish .image _
  rw [reconcileDelete_eq]
  apply Stops.get.bind
  intro image
  split
  · exact Stops.pure _
  · split
    · exact (Stops.throw _).bind fun _ => hdispose image
    · exact hdispose image

end Image

/-- Every body ends where a question fails, with the pause of the call that failed. -/
theorem Managed.stops_body (surroundings : Surroundings managed) (object : managed.Resource) :
    Stops surroundings.settings (managed.body surroundings object) := by
  unfold body
  cases managed with
  | machine =>
      dsimp only
      split
      · exact Machine.stops_reconcileDelete surroundings
      · exact Machine.stops_reconcileNormal surroundings
  | image =>
      dsimp only
      split
      · exact Image.stops_reconcileDelete surroundings
      · exact Image.stops_reconcileNormal surroundings

theorem Managed.halts_body (surroundings : Surroundings managed) (object state : managed.Resource) :
    (managed.body surroundings object state).Halts :=
  (Managed.stops_body surroundings object state).halts

end Reconciler
