import Reconciler.Proofs.Edits

/-!
# What bodies ask about

Each step of a body asks about few things, whatever it is answered.  Where the surroundings keep a
statement as long as nobody asks about something, a step that never does so keeps it too.
-/

namespace Reconciler

namespace Program

variable {I : Interface} {S σ α β : Type} {allowed more : I.Question → Prop}

/-- Whatever it is answered, the program asks only questions that are allowed. -/
def Asks (allowed : I.Question → Prop) : Program I σ α → Prop
  | .done _ _ => True
  | .ask _ question next => allowed question ∧ ∀ answer, (next answer).Asks allowed

theorem Asks.mono {program : Program I σ α} (hasks : program.Asks allowed)
    (himp : ∀ question, allowed question → more question) : program.Asks more := by
  induction program with
  | done state value => trivial
  | ask state question next ih => exact ⟨himp _ hasks.1, fun answer => ih answer (hasks.2 answer)⟩

theorem Asks.bind {program : Program I σ α} {next : σ → α → Program I σ β}
    (hasks : program.Asks allowed) (hnext : ∀ state value, (next state value).Asks allowed) :
    (program.bind next).Asks allowed := by
  induction program with
  | done state value => exact hnext state value
  | ask state question answers ih => exact ⟨hasks.1, fun answer => ih answer (hasks.2 answer)⟩

variable {environment : Environment I S}

/-- What no allowed question disturbs still holds at the end of a program that asks no others. -/
theorem Asks.ensures {keeps : S → Prop} {program : Program I σ α} (hasks : program.Asks allowed)
    (hstep : ∀ question ending before after, allowed question →
      environment question ending before after → keeps before → keeps after)
    {surroundings : S} (hkeeps : keeps surroundings) :
    program.Ensures environment (fun _ _ after => keeps after) surroundings := by
  induction program generalizing surroundings with
  | done state value => exact hkeeps
  | ask state question next ih =>
      intro ending after hended
      have hafter := hstep question ending surroundings after hasks.1 hended hkeeps
      cases ending with
      | returned answer => exact ih answer (hasks.2 answer) hafter
      | expired => exact hafter
      | panicked text => exact hafter

/-- Where exchanges are put on record, the record goes on with questions that are allowed. -/
theorem Asks.appending {environment : Environment I (List (Exchange I))}
    {program : Program I σ α} (hasks : program.Asks allowed)
    (happends : ∀ question ending before after, environment question ending before after →
      after = before ++ [⟨question, ending⟩]) (early : List (Exchange I)) :
    program.Ensures environment (fun _ _ seen =>
      ∃ late, seen = early ++ late ∧ ∀ exchange ∈ late, allowed exchange.question) early := by
  refine hasks.ensures ?_ ⟨[], by simp⟩
  rintro question ending _ after hallowed hended ⟨late, rfl, hlate⟩
  rw [happends _ _ _ _ hended]
  refine ⟨late ++ [⟨question, ending⟩], List.append_assoc .., fun exchange hmem => ?_⟩
  rcases List.mem_append.mp hmem with hearlier | hlast
  · exact hlate exchange hearlier
  · rw [List.mem_singleton.mp hlast]
    exact hallowed

theorem Asks.recording {program : Program I σ α} (hasks : program.Asks allowed)
    (early : List (Exchange I)) :
    program.Ensures (.recording I) (fun _ _ seen =>
      ∃ late, seen = early ++ late ∧ ∀ exchange ∈ late, allowed exchange.question) early :=
  hasks.appending (fun _ _ _ _ => id) early

theorem Asks.noting {holds : Exchange I → Prop} {program : Program I σ α}
    (hasks : program.Asks allowed) (early : List (Exchange I)) :
    program.Ensures (.noting holds) (fun _ _ seen =>
      ∃ late, seen = early ++ late ∧ ∀ exchange ∈ late, allowed exchange.question) early :=
  hasks.appending (fun _ _ _ _ => And.right) early

/-- What is ensured of the record of a program's exchanges is ensured of those that the program adds
to an earlier record. -/
theorem Ensures.recording {post : σ → Outcome α → List (Exchange I) → Prop}
    {program : Program I σ α} (hensures : program.Ensures (.recording I) post [])
    (early : List (Exchange I)) :
    program.Ensures (.recording I) (fun state outcome seen =>
      ∃ late, seen = early ++ late ∧ post state outcome late) early := by
  suffices hgo : ∀ late, program.Ensures (.recording I) post late →
      program.Ensures (.recording I) (fun state outcome seen =>
        ∃ late, seen = early ++ late ∧ post state outcome late) (early ++ late) by
    simpa using hgo [] hensures
  clear hensures
  induction program with
  | done state value => exact fun late hended => ⟨late, rfl, hended⟩
  | ask state question next ih =>
      rintro late hended ending _ rfl
      have hlater := hended ending _ rfl
      dsimp only
      rw [List.append_assoc]
      cases ending with
      | returned answer => exact ih answer _ hlater
      | expired => exact ⟨_, rfl, hlater⟩
      | panicked text => exact ⟨_, rfl, hlater⟩

theorem Ensures.and {post other : σ → Outcome α → S → Prop} {program : Program I σ α}
    {surroundings : S} (hpost : program.Ensures environment post surroundings)
    (hother : program.Ensures environment other surroundings) :
    program.Ensures environment
      (fun state outcome after => post state outcome after ∧ other state outcome after)
      surroundings := by
  induction program generalizing surroundings with
  | done state value => exact ⟨hpost, hother⟩
  | ask state question next ih =>
      intro ending after hended
      have hfirst := hpost ending after hended
      have hsecond := hother ending after hended
      cases ending with
      | returned answer => exact ih answer hfirst hsecond
      | expired => exact ⟨hfirst, hsecond⟩
      | panicked text => exact ⟨hfirst, hsecond⟩

end Program

namespace Step

variable {managed : Managed} {σ α β : Type} {allowed more : BodyQuestion managed → Prop}

/-- From wherever it is taken, the step asks only questions that are allowed. -/
def Asks (allowed : BodyQuestion managed → Prop) (step : Step managed σ α) : Prop :=
  ∀ state, (step state).Asks allowed

theorem Asks.mono {step : Step managed σ α} (hasks : Asks allowed step)
    (himp : ∀ question, allowed question → more question) : Asks more step :=
  fun state => (hasks state).mono himp

theorem Asks.pure (value : α) : Asks allowed (pure value : Step managed σ α) := fun _ => trivial

theorem Asks.throw (error : Error) : Asks allowed (throw error : Step managed σ α) :=
  fun _ => trivial

theorem Asks.get : Asks allowed (get : Step managed σ σ) := fun _ => trivial

theorem Asks.modify (change : σ → σ) : Asks allowed (modify change : Step managed σ PUnit) :=
  fun _ => trivial

theorem Asks.ofExcept (result : Except Error α) :
    Asks allowed (Action.ofExcept result : Step managed σ α) := fun _ => trivial

theorem Asks.ask {question : (outside managed).Question} (hallowed : allowed question) :
    Asks allowed (Action.ask question : Step managed σ _) :=
  fun _ => ⟨hallowed, fun _ => trivial⟩

theorem Asks.bind {first : Step managed σ α} {next : α → Step managed σ β}
    (hfirst : Asks allowed first) (hnext : ∀ value, Asks allowed (next value)) :
    Asks allowed (first >>= next) := by
  intro state
  apply (hfirst state).bind
  rintro state (error | value)
  · exact trivial
  · exact hnext value state

theorem Asks.map {first : Step managed σ α} (change : α → β) (hfirst : Asks allowed first) :
    Asks allowed (change <$> first) :=
  hfirst.bind fun value => Asks.pure (change value)

theorem Asks.attempt {step : Step managed σ α} (hasks : Asks allowed step) :
    Asks allowed (Action.attempt step : Step managed σ (Except Error α)) :=
  fun state => (hasks state).bind fun _ _ => trivial

theorem Asks.call {call : managed.Call} (hallowed : allowed (.cloud call)) :
    Asks allowed (Body.call managed call : Step managed σ _) :=
  (Asks.ask hallowed).bind fun _ => Asks.ofExcept _

theorem Asks.callFor {purpose : String} {call : managed.Call} (hallowed : allowed (.cloud call)) :
    Asks allowed (Body.callFor managed purpose call : Step managed σ _) :=
  (Asks.ask hallowed).bind fun _ => Asks.ofExcept _

theorem Asks.remove {purpose : String} {call : managed.Call} (hallowed : allowed (.cloud call)) :
    Asks allowed (Body.remove managed purpose call : Step managed σ _) := by
  unfold Body.remove
  apply (Asks.ask hallowed).bind
  rintro (error | value)
  · dsimp only
    split
    · exact Asks.pure ()
    · exact Asks.throw _
  · exact Asks.pure ()

theorem Asks.publish {event : Event} (hallowed : ∀ regarding, allowed (.publish event regarding)) :
    Asks allowed (Body.publish event : Body managed Unit) :=
  Asks.get.bind fun _ => (Asks.ask (hallowed _)).bind fun _ => Asks.pure ()

end Step

/-- An exchange of a pass over a machine. -/
abbrev OfMachine := Exchange (outside .machine)

namespace Machine

/-- What a body asks about. -/
inductive Topic where
  | lookup
  | creation
  | deletion
  | tagging
  | pool
  | joining
  | leaving
  | secret
  | event
deriving DecidableEq

@[simp]
def topic : BodyQuestion .machine → Topic
  | .cloud (.getInstance _) => .lookup
  | .cloud (.getInstanceByName _) => .lookup
  | .cloud (.createInstance _) => .creation
  | .cloud (.deleteInstance _) => .deletion
  | .cloud (.tagResource ..) => .tagging
  | .cloud (.getLoadBalancer _) => .pool
  | .cloud (.getLoadBalancerByName _) => .pool
  | .cloud (.listMembers ..) => .pool
  | .cloud (.createMember ..) => .joining
  | .cloud (.deleteMember ..) => .leaving
  | .secret .. => .secret
  | .publish .. => .event

/-- Questions about one of the topics. -/
@[simp]
def About (topics : List Topic) (question : BodyQuestion .machine) : Prop :=
  topic question ∈ topics

end Machine

open Machine (About Topic)
open Step (Asks)

theorem Step.Asks.about {σ α : Type} {topics more : List Topic} {step : Step .machine σ α}
    (hasks : Asks (About topics) step) (hsubset : topics ⊆ more) : Asks (About more) step :=
  hasks.mono fun _ hmem => hsubset hmem

namespace Membership

variable {σ : Type}

theorem asks_findLoadBalancer (reference : ResourceReference) :
    Asks (About [.pool]) (findLoadBalancer reference : Calls σ _) := by
  unfold findLoadBalancer
  split
  · exact Asks.call (by simp)
  · exact Asks.call (by simp)
  · exact Asks.pure none

theorem asks_ensureMember (loadBalancer : LoadBalancer) (pool : Pool) (address : String)
    (port : Int) (weight : Option Int) :
    Asks (About [.pool, .joining]) (ensureMember loadBalancer pool address port weight :
      Calls σ _) := by
  unfold ensureMember
  apply (Asks.call (by simp)).bind
  intro members
  split
  · exact Asks.pure _
  · split
    · exact Asks.pure true
    · exact (Asks.call (by simp)).bind fun _ => Asks.pure _

theorem asks_registerOne (membership : PoolMembership) (address : String) :
    Asks (About [.pool, .joining]) (registerOne membership address : Calls σ _) := by
  unfold registerOne
  apply ((asks_findLoadBalancer _).about (by decide)).bind
  intro found
  split
  · exact Asks.throw _
  · split
    · exact Asks.throw _
    · exact asks_ensureMember _ _ _ _ _

theorem asks_register (address : String) (memberships : List PoolMembership) :
    Asks (About [.pool, .joining]) (register address memberships : Calls σ _) := by
  induction memberships with
  | nil => exact Asks.pure false
  | cons membership rest ih =>
      exact (asks_registerOne membership address).bind fun _ => ih.bind fun _ => Asks.pure _

theorem asks_controlPlanePool (cluster : VpcCluster) :
    Asks (About [.pool]) (controlPlanePool cluster : Calls σ _) := by
  unfold controlPlanePool
  split
  · exact Asks.throw _
  · apply (Asks.call (by simp)).bind
    intro found
    split
    · exact Asks.throw _
    · split
      · exact Asks.throw _
      · exact Asks.pure _

theorem asks_registerControlPlane (cluster : VpcCluster) (address : Option String) :
    Asks (About [.pool, .joining]) (registerControlPlane cluster address : Calls σ _) := by
  unfold registerControlPlane
  apply (Asks.ofExcept _).bind
  intro address
  exact ((asks_controlPlanePool cluster).about (by decide)).bind fun _ =>
    asks_ensureMember _ _ _ _ _

section Removal

variable {allowed : BodyQuestion .machine → Prop} {loadBalancer : LoadBalancer} {pool : Pool}
variable (hdelete : ∀ member, allowed (.cloud (.deleteMember loadBalancer.id pool.id member)))
include hdelete

theorem asks_removeAll (members : List PoolMember) :
    Asks allowed (removeAll loadBalancer pool members : Calls σ _) := by
  induction members with
  | nil => exact Asks.pure ()
  | cons member rest ih =>
      unfold removeAll
      apply (Asks.ask (hdelete member.id)).bind
      intro result
      split
      · exact ih
      · split
        · exact ih
        · exact Asks.throw _

theorem asks_removeMember (hlist : allowed (.cloud (.listMembers loadBalancer.id pool.id)))
    (address : String) :
    Asks allowed (removeMember loadBalancer pool address : Calls σ _) :=
  (Asks.call hlist).bind fun _ => asks_removeAll hdelete _

end Removal

theorem asks_deregister (address : String) (memberships : List PoolMembership) :
    Asks (About [.pool, .leaving]) (deregister address memberships : Calls σ _) := by
  induction memberships with
  | nil => exact Asks.pure ()
  | cons membership rest ih =>
      unfold deregister
      apply ((asks_findLoadBalancer _).about (by decide)).bind
      intro found
      dsimp only
      split
      · exact ih
      · split
        · exact ih
        · exact (asks_removeMember (by simp) (by simp) address).bind fun _ => ih

theorem asks_deregisterControlPlane (cluster : VpcCluster) (address : String) :
    Asks (About [.pool, .leaving]) (deregisterControlPlane cluster address : Calls σ _) := by
  unfold deregisterControlPlane
  apply ((asks_controlPlanePool cluster).about (by decide)).attempt.bind
  intro result
  split
  · exact asks_removeMember (by simp) (by simp) address
  · split
    · exact Asks.pure ()
    · exact Asks.throw _

end Membership

namespace Machine

theorem asks_findInstance (machine : Machine) :
    Asks (About [.lookup]) (findInstance machine) := by
  unfold findInstance
  split
  · apply (Asks.pure none).bind
    rintro (_ | found)
    · exact Asks.call (by simp)
    · exact Asks.pure _
  · apply (Asks.call (by simp)).bind
    rintro (_ | found)
    · exact Asks.call (by simp)
    · exact Asks.pure _

theorem asks_bootstrapData (machine : Machine) :
    Asks (About [.secret]) (bootstrapData machine) := by
  unfold bootstrapData
  apply (Asks.ask (by simp)).bind
  intro answer
  apply (Asks.ofExcept _).bind
  intro secret
  split
  · exact Asks.pure _
  · exact Asks.throw _

/-- Creates the instance of a machine, where there is a subnet to create it in. -/
def create (cluster : Option VpcCluster) (machine : Machine) : Pass (Option Instance) := do
  match cluster with
  | none => return none
  | some cluster =>
    match machine.subnet cluster with
    | none => return none
    | some subnet =>
      let userData ← bootstrapData machine
      let created : Instance ←
        Body.callFor .machine ("creating instance " ++ machine.instanceName)
          (.createInstance (machine.prototype cluster subnet userData))
      return some created

/-- Finds the instance of a machine, or creates it. -/
def provision (cluster : Option VpcCluster) (machine : Machine) : Pass (Option Instance) := do
  match ← findInstance machine with
  | some found => return some found
  | none => create cluster machine

theorem getOrCreate_eq (surroundings : Surroundings) :
    getOrCreate surroundings = get >>= provision surroundings.cluster := rfl

theorem asks_create (cluster : Option VpcCluster) (machine : Machine) :
    Asks (About [.secret, .creation]) (create cluster machine) := by
  unfold create
  split
  · exact Asks.pure none
  · split
    · exact Asks.pure none
    · apply ((asks_bootstrapData machine).about (by decide)).bind
      intro userData
      exact (Asks.callFor (by simp)).bind fun _ => Asks.pure _

/-- To create an instance asks for the secret alone, or right after that for an instance of the
machine's name; then what comes of it is what the call came back with. -/
theorem create_records (cluster : Option VpcCluster) (machine state : Machine)
    (early : List OfMachine) :
    (create cluster machine state).Ensures (.recording _) (fun _ outcome seen => ∃ asked,
      (∀ exchange ∈ asked, About [.secret] exchange.question) ∧
        ((seen = early ++ asked ∧ ∀ found, outcome ≠ .returned (.ok (some found))) ∨
          ∃ prototype ending, prototype.name = machine.instanceName ∧
            seen = early ++ asked ++ [⟨.cloud (.createInstance prototype), ending⟩] ∧
              ∀ found, ending = .returned (.ok found) ↔ outcome = .returned (.ok (some found))))
      early := by
  unfold create
  rcases cluster with _ | cluster
  · exact ⟨[], by simp⟩
  · dsimp only
    rcases machine.subnet cluster with _ | subnet
    · exact ⟨[], by simp⟩
    · dsimp only
      rw [Action.ensures_bind]
      apply ((asks_bootstrapData machine state).recording early).mono
      rintro state outcome _ ⟨asked, rfl, habout⟩
      rcases outcome with (error | userData) | _ | text
      · exact ⟨asked, habout, .inl ⟨rfl, by simp⟩⟩
      · simp only [Outcome.follow_ok, Action.ensures_bind, Body.ensures_callFor]
        rintro ending _ rfl
        rcases ending with (error | created) | _ | text <;>
          exact ⟨asked, habout, .inr
            ⟨machine.prototype cluster subnet userData, _, rfl, rfl, by simp⟩⟩
      · exact ⟨asked, habout, .inl ⟨rfl, by simp⟩⟩
      · exact ⟨asked, habout, .inl ⟨rfl, by simp⟩⟩

theorem asks_getOrCreate (surroundings : Surroundings) :
    Asks (About [.lookup, .secret, .creation]) (getOrCreate surroundings) := by
  rw [getOrCreate_eq]
  apply Asks.get.bind
  intro machine
  unfold provision
  apply ((asks_findInstance machine).about (by decide)).bind
  rintro (_ | found)
  · exact (asks_create _ machine).about (by decide)
  · exact Asks.pure _

theorem asks_recordInstance (surroundings : Surroundings) (instance_ : Instance) :
    Asks (About [.tagging]) (recordInstance surroundings instance_) := by
  unfold recordInstance
  apply Asks.get.bind
  intro machine
  dsimp only
  split
  · split
    · exact (Asks.pure ()).bind fun _ => (Asks.modify _).bind fun _ => Asks.modify _
    · exact (Asks.callFor (by simp)).bind fun _ =>
        (Asks.modify _).bind fun _ => Asks.modify _
  · exact Asks.modify _

theorem asks_registerRunning (surroundings : Surroundings) (instance_ : Instance) :
    Asks (About [.pool, .joining]) (registerRunning surroundings instance_) := by
  unfold registerRunning
  apply Asks.get.bind
  intro machine
  dsimp only
  split
  · exact (Asks.ofExcept _).bind fun _ => Asks.map _ (Membership.asks_register _ _)
  · split
    · split
      · exact Asks.pure _
      · exact Asks.map _ (Membership.asks_registerControlPlane _ _)
    · exact Asks.pure _

theorem asks_reconcileInstance (surroundings : Surroundings) (instance_ : Instance) :
    Asks (About [.pool, .joining, .event]) (reconcileInstance surroundings instance_) := by
  unfold reconcileInstance
  dsimp only
  split
  · exact (Asks.modify _).bind fun _ => Asks.pure _
  · exact (Asks.modify _).bind fun _ => Asks.pure _
  · exact (Asks.modify _).bind fun _ =>
      (Asks.publish fun _ => by simp).bind fun _ => Asks.pure _
  · unfold reconcileRunning
    apply ((asks_registerRunning surroundings instance_).about (by decide)).bind
    intro waiting
    split
    · exact Asks.pure _
    · exact (Asks.modify _).bind fun _ => Asks.pure _
    · exact (Asks.modify _).bind fun _ => Asks.pure _
  · exact (Asks.modify _).bind fun _ => Asks.pure _

theorem asks_deregister (surroundings : Surroundings) (machine : Machine) :
    Asks (About [.pool, .leaving]) (deregister surroundings machine) := by
  unfold deregister
  split
  · exact Asks.pure ()
  · dsimp only
    split
    · exact Membership.asks_deregister _ _
    · split
      · split
        · exact Asks.pure ()
        · exact Membership.asks_deregisterControlPlane _ _
      · exact Asks.pure ()

theorem asks_instanceToDelete (machine : Machine) :
    Asks (About [.lookup]) (instanceToDelete machine) := by
  unfold instanceToDelete
  split
  · exact Asks.pure _
  · exact (Asks.call (by simp)).bind fun _ => Asks.pure _

/-- Steps that never ask about something leave a record that does not go on with it. -/
theorem quiet_of_about {topics : List Topic} {other : Topic} {seen : List OfMachine}
    (hother : other ∉ topics) (habout : ∀ exchange ∈ seen, About topics exchange.question) :
    ∀ exchange ∈ seen, topic exchange.question ≠ other :=
  fun exchange hmem hsame => hother (hsame ▸ habout exchange hmem)

theorem quiet_of_asks {σ α : Type} {topics : List Topic} {other : Topic}
    {step : Step .machine σ α} (hasks : Asks (About topics) step) (hother : other ∉ topics)
    (state : σ) (early : List OfMachine) :
    (step state).Ensures (.recording _) (fun _ _ seen =>
      ∃ late, seen = early ++ late ∧ ∀ exchange ∈ late, topic exchange.question ≠ other) early := by
  apply ((hasks state).recording early).mono
  rintro _ _ _ ⟨late, rfl, hlate⟩
  exact ⟨late, rfl, quiet_of_about hother hlate⟩

end Machine

end Reconciler
