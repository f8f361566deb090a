import Reconciler.Proofs.Owned
import Reconciler.Proofs.Stand

/-!
# At most one instance of a machine

A normal pass asks for an instance once at most, and only after it found neither the recorded one
nor one of the machine's name.  A provider that shows an instance by its name from its creation on,
also where the reply to the creation was lost, then never holds two instances of that name.
-/

namespace Reconciler

open Machine (About topic)
open Relation (ReflTransGen)

/-- The call asks for an instance. -/
def Exchange.AsksInstance (exchange : OfMachine) : Prop := topic exchange.question = .creation

/-- The lookups of an instance were in vain: by the recorded id, if there is one, and by name. -/
structure Missed (recorded : Option String) (called : String) (seen : List OfMachine) : Prop where
  recorded : ∀ id, recorded = some id → ⟨.cloud (.getInstance id), .returned (.ok none)⟩ ∈ seen
  named : ⟨.cloud (.getInstanceByName called), .returned (.ok none)⟩ ∈ seen

theorem Missed.append {recorded : Option String} {called : String} {seen : List OfMachine}
    (hmissed : Missed recorded called seen) (late : List OfMachine) :
    Missed recorded called (seen ++ late) :=
  ⟨fun id hid => List.mem_append_left _ (hmissed.recorded id hid),
    List.mem_append_left _ hmissed.named⟩

/-- The calls of a normal pass over a machine with an instance on record and one of that name. -/
inductive Provision (recorded : Option String) (called : String) : List OfMachine → Prop
  | quiet (seen : List OfMachine) (hquiet : ∀ exchange ∈ seen, ¬exchange.AsksInstance) :
      Provision recorded called seen
  | asked (early late : List OfMachine) (prototype : InstancePrototype)
      (ending : Outcome (Except CloudError Instance))
      (hearly : ∀ exchange ∈ early, ¬exchange.AsksInstance)
      (hlate : ∀ exchange ∈ late, ¬exchange.AsksInstance)
      (hmissed : Missed recorded called early) (hcalled : prototype.name = called) :
      Provision recorded called (early ++ ⟨.cloud (.createInstance prototype), ending⟩ :: late)

namespace Provision

variable {recorded : Option String} {called : String} {early late seen : List OfMachine}

theorem append (hprovision : Provision recorded called seen)
    (hlate : ∀ exchange ∈ late, ¬exchange.AsksInstance) :
    Provision recorded called (seen ++ late) := by
  cases hprovision with
  | quiet _ hquiet =>
      exact .quiet _ fun exchange hmem => (List.mem_append.mp hmem).elim (hquiet _) (hlate _)
  | asked early rest prototype ending hearly hrest hmissed hcalled =>
      rw [List.append_assoc, List.cons_append]
      exact .asked early _ prototype ending hearly
        (fun exchange hmem => (List.mem_append.mp hmem).elim (hrest _) (hlate _)) hmissed hcalled

/-- An instance is asked for once, after the lookups in vain. -/
theorem of_asksInstance {exchange : OfMachine}
    (hprovision : Provision recorded called (early ++ exchange :: late))
    (hasks : exchange.AsksInstance) :
    (∀ other ∈ early ++ late, ¬other.AsksInstance) ∧ Missed recorded called early := by
  generalize hseen : early ++ exchange :: late = seen at hprovision
  cases hprovision with
  | quiet _ hquiet =>
      refine absurd hasks (hquiet exchange ?_)
      rw [← hseen]
      exact List.mem_append_right _ (List.mem_cons_self ..)
  | asked before rest prototype ending hbefore hrest hmissed hcalled =>
      rcases List.append_eq_append_iff.mp hseen with ⟨between, hbetween, htail⟩ |
        ⟨between, hbetween, htail⟩
      · rcases between with _ | ⟨head, between⟩
        · obtain ⟨rfl, rfl⟩ := List.cons.inj htail
          obtain rfl : before = early := by simpa using hbetween
          exact ⟨fun other hmem => (List.mem_append.mp hmem).elim (hbefore _) (hrest _), hmissed⟩
        · obtain ⟨rfl, -⟩ := List.cons.inj htail
          exact absurd hasks (hbefore _ (by simp [hbetween]))
      · rcases between with _ | ⟨head, between⟩
        · obtain ⟨rfl, rfl⟩ := List.cons.inj htail
          obtain rfl : early = before := by simpa using hbetween
          exact ⟨fun other hmem => (List.mem_append.mp hmem).elim (hbefore _) (hrest _), hmissed⟩
        · obtain ⟨-, rfl⟩ := List.cons.inj htail
          exact absurd hasks (hrest _ (by simp))

end Provision

namespace Machine

/-- Where no instance is found, the lookups were in vain. -/
theorem findInstance_misses (machine state : Machine) :
    (findInstance machine state).Ensures (.recording _) (fun _ outcome seen =>
      outcome = .returned (.ok none) → Missed machine.instanceId machine.instanceName seen) [] := by
  have hnamed {early : List OfMachine} (hrecorded : ∀ id, machine.instanceId = some id →
      ⟨.cloud (.getInstance id), .returned (.ok none)⟩ ∈ early) :
      ((Body.call .machine (.getInstanceByName machine.instanceName) : Pass _) state).Ensures
        (.recording _) (fun _ outcome seen => outcome = .returned (.ok none) →
          Missed machine.instanceId machine.instanceName seen) early := by
    rw [Body.ensures_call]
    rintro ending _ rfl hfound
    obtain rfl := Outcome.mapError_eq_ok_iff.mp hfound
    exact ⟨fun id hid => List.mem_append_left _ (hrecorded id hid), by simp⟩
  unfold findInstance
  rcases hid : machine.instanceId with _ | id
  · simp only [Action.ensures_bind, Action.ensures_pure, Outcome.follow_ok]
    rw [← hid]
    exact hnamed (by simp [hid])
  · simp only [Action.ensures_bind, Body.ensures_call]
    rintro ending _ rfl
    rcases ending with (error | _ | found) | _ | text
    · simp
    · rw [← hid]
      exact hnamed (by simp [hid])
    · simp
    · simp
    · simp

theorem getOrCreate_provision (surroundings : Surroundings) (machine : Machine) :
    (getOrCreate surroundings machine).Ensures (.recording _) (fun _ _ seen =>
      Provision machine.instanceId machine.instanceName seen) [] := by
  rw [getOrCreate_eq, Action.ensures_bind, Action.ensures_get, Outcome.follow_ok, provision,
    Action.ensures_bind]
  have hquiet := quiet_of_asks (asks_findInstance machine)
    (by decide : Topic.creation ∉ _) machine []
  apply (hquiet.and (findInstance_misses machine machine)).mono
  rintro state outcome seen ⟨⟨_, rfl, hseen⟩, hmissed⟩
  have hfound : Provision machine.instanceId machine.instanceName seen := .quiet seen hseen
  rcases outcome with (error | _ | found) | _ | text
  · exact hfound
  · apply (create_records surroundings.cluster machine state seen).mono
    rintro _ outcome _ ⟨asked, habout, hcreated⟩
    have hasked := quiet_of_about (by decide : Topic.creation ∉ _) habout
    rcases hcreated with ⟨rfl, -⟩ | ⟨prototype, ending, hcalled, rfl, -⟩
    · exact hfound.append hasked
    · exact .asked (seen ++ asked) [] prototype ending
        (fun exchange hmem => (List.mem_append.mp hmem).elim (hseen _) (hasked _)) (by simp)
        ((hmissed rfl).append asked) hcalled
  · exact hfound
  · exact hfound
  · exact hfound

theorem owned_provision (surroundings : Surroundings) (machine : Machine) :
    (owned surroundings machine).Ensures (.recording _) (fun _ _ seen =>
      Provision machine.instanceId machine.instanceName seen) [] := by
  unfold owned
  simp only [Action.ensures_bind, Action.ensures_get, Outcome.follow_ok]
  split
  · exact .quiet [] (by simp)
  · rw [Action.ensures_bind]
    apply (getOrCreate_provision surroundings machine).mono
    intro state outcome seen hprovision
    have hrest (step : Pass Requeue) (topics : List Topic) (hasks : Step.Asks (About topics) step)
        (hother : Topic.creation ∉ topics) : (step state).Ensures (.recording _)
          (fun _ _ seen => Provision machine.instanceId machine.instanceName seen) seen := by
      apply (quiet_of_asks hasks hother state seen).mono
      rintro _ _ _ ⟨late, rfl, hlate⟩
      exact hprovision.append hlate
    rcases outcome with (error | _ | found) | _ | text
    · exact hprovision
    · exact hprovision
    · refine hrest _ [.tagging, .pool, .joining, .event] ?_ (by decide)
      exact ((asks_recordInstance surroundings found).about (by decide)).bind fun _ =>
        (asks_reconcileInstance surroundings found).about (by decide)
    · exact hprovision
    · exact hprovision

/-- Every normal pass over a machine asks for an instance once at most, after its lookups. -/
theorem reconcileNormal_provision (surroundings : Surroundings) (fetched : Machine) :
    (reconcileNormal surroundings fetched).Ensures (.recording _) (fun _ _ seen =>
      Provision fetched.instanceId fetched.instanceName seen) [] := by
  apply reconcileNormal_ensures_of_owned
  · exact fun _ _ _ => .quiet [] (by simp)
  · intro machine hprepared
    rw [← hprepared.instanceId, ← hprepared.alike.instanceName]
    exact owned_provision surroundings machine

end Machine

/-- The instances that the provider holds, and all it held before. -/
structure Fleet where
  held : List Instance
  past : List (List Instance)

namespace Fleet

/-- The ids of the instances of a name. -/
def named (called : String) (held : List Instance) : List String :=
  (held.filter (·.name == called)).map (·.id)

/-- The provider comes to hold other instances. -/
def turn (fleet : Fleet) (held : List Instance) : Fleet := ⟨held, fleet.held :: fleet.past⟩

/-- Instances change beside the engine, but none of the name is added. -/
def Recedes (called : String) (before after : Fleet) : Prop :=
  ∃ held, after = before.turn held ∧ (named called held).Sublist (named called before.held)

/-- What a question does.  An instance is found by its name as long as it is held, and it may be
held though its creation ended in any way. -/
def Answers (called : String) :
    (question : BodyQuestion .machine) → Outcome question.Answer → Fleet → Fleet → Prop
  | .cloud (.getInstanceByName name), ending, before, after =>
    after = before ∧
      (name = called → ending = .returned (.ok none) → named called before.held = [])
  | .cloud (.createInstance prototype), ending, before, after =>
    (∃ created : Instance, created.name = prototype.name ∧
      after = before.turn (created :: before.held)) ∨ ¬ending.Succeeded ∧ after = before
  | _, _, before, after => after = before

/-- A provider at which only the engine creates instances of the name. -/
def provided (called : String) : Environment (outside .machine) Fleet :=
  fun question ending before after => ∃ asked answered,
    ReflTransGen (Recedes called) before asked ∧ Answers called question ending asked answered ∧
      ReflTransGen (Recedes called) answered after

/-- The provider has never held two instances of the name. -/
def Single (called : String) (fleet : Fleet) : Prop :=
  ∀ held ∈ fleet.held :: fleet.past, (named called held).length ≤ 1

/-- The provider holds no instance of the name. -/
def Lacks (called : String) (fleet : Fleet) : Prop := named called fleet.held = []

variable {called : String} {before after : Fleet}

theorem Recedes.single (hrecedes : Recedes called before after) (hsingle : before.Single called) :
    after.Single called := by
  obtain ⟨held, rfl, hfewer⟩ := hrecedes
  refine List.forall_mem_cons.mpr ⟨?_, hsingle⟩
  exact Nat.le_trans hfewer.length_le (hsingle _ (List.mem_cons_self ..))

theorem Recedes.lacks (hrecedes : Recedes called before after) (hlacks : before.Lacks called) :
    after.Lacks called := by
  obtain ⟨held, rfl, hfewer⟩ := hrecedes
  rw [Lacks] at hlacks
  exact List.sublist_nil.mp (hlacks ▸ hfewer)

variable {question : BodyQuestion .machine} {ending : Outcome question.Answer}

/-- What does not ask for an instance leaves the provider as it is, or with fewer of them. -/
theorem recedes_of_provided (hprovided : provided called question ending before after)
    (hquiet : topic question ≠ .creation) : ReflTransGen (Recedes called) before after := by
  obtain ⟨asked, answered, hbefore, hanswers, hafter⟩ := hprovided
  have hsame : answered = asked := by
    rcases question with call | _ | _
    · cases call with
      | createInstance prototype => exact absurd rfl hquiet
      | getInstanceByName name => exact hanswers.1
      | _ => exact hanswers
    · exact hanswers
    · exact hanswers
  subst hsame
  exact hbefore.trans hafter

theorem lacks_of_provided (hprovided : provided called (.cloud (.getInstanceByName called))
    (.returned (.ok none)) before after) : after.Lacks called := by
  obtain ⟨asked, _, _, ⟨rfl, hlacks⟩, hafter⟩ := hprovided
  exact World.keeps_of_changes (Lacks called) Recedes.lacks hafter (hlacks rfl rfl)

/-- To create an instance where there is none of the name makes one. -/
theorem single_of_provided {prototype : InstancePrototype}
    {ending : Outcome (Except CloudError Instance)}
    (hprovided : provided called (.cloud (.createInstance prototype)) ending before after)
    (hlacks : before.Lacks called) (hsingle : before.Single called) : after.Single called := by
  obtain ⟨asked, answered, hbefore, hanswers, hafter⟩ := hprovided
  have hasked := World.keeps_of_changes (Single called) Recedes.single hbefore hsingle
  refine World.keeps_of_changes (Single called) Recedes.single hafter ?_
  rcases hanswers with ⟨created, -, rfl⟩ | ⟨-, rfl⟩
  · have hnone : named called asked.held = [] :=
      World.keeps_of_changes (Lacks called) Recedes.lacks hbefore hlacks
    refine List.forall_mem_cons.mpr ⟨?_, hasked⟩
    have hfilter : asked.held.filter (·.name == called) = [] := List.map_eq_nil_iff.mp hnone
    simp only [named, turn, List.length_map, List.filter_cons, hfilter]
    split <;> simp
  · exact hasked

variable {seen : List OfMachine}

theorem keeps_of_quiet (holds : Fleet → Prop)
    (hrecedes : ∀ {before after}, Recedes called before after → holds before → holds after)
    (halong : (provided called).Along before seen after)
    (hquiet : ∀ exchange ∈ seen, ¬exchange.AsksInstance) (hbefore : holds before) : holds after :=
  halong.keeps (fun exchange hmem _ _ hprovided hholds => World.keeps_of_changes holds hrecedes
    (recedes_of_provided hprovided (hquiet exchange hmem)) hholds) hbefore

end Fleet

/-- The calls of a normal pass leave no two instances of the name. -/
theorem Provision.single {recorded : Option String} {called : String} {seen : List OfMachine}
    {before after : Fleet} (hprovision : Provision recorded called seen)
    (halong : (Fleet.provided called).Along before seen after) (hsingle : before.Single called) :
    after.Single called := by
  cases hprovision with
  | quiet _ hquiet =>
      exact Fleet.keeps_of_quiet (Fleet.Single called) Fleet.Recedes.single halong hquiet hsingle
  | asked early late prototype ending hearly hlate hmissed hcalled =>
      obtain ⟨middle, hfirst, hcreate⟩ := halong.of_append
      have hstill : middle.Single called :=
        Fleet.keeps_of_quiet (Fleet.Single called) Fleet.Recedes.single hfirst hearly hsingle
      -- From the lookup by name to the creation nothing of the name comes to be.
      have hlacks : middle.Lacks called := by
        obtain ⟨searched, waited, rfl⟩ := List.append_of_mem hmissed.named
        obtain ⟨_, _, hlookup⟩ := hfirst.of_append
        cases hlookup with
        | asked hnamed hwaited =>
            exact Fleet.keeps_of_quiet (Fleet.Lacks called) Fleet.Recedes.lacks hwaited
              (fun exchange hmem => hearly exchange (by simp [hmem]))
              (Fleet.lacks_of_provided hnamed)
      cases hcreate with
      | asked hcreated hrest =>
          exact Fleet.keeps_of_quiet (Fleet.Single called) Fleet.Recedes.single hrest hlate
            (Fleet.single_of_provided hcreated hlacks hstill)

namespace World

variable {W : Type} {«namespace» name : String} {world : World W}

theorem Stages.provision {settings : Settings} {w after : W} {visit : Visit .machine}
    (stages : world.Stages settings «namespace» name w visit after) (hnormal : visit.Normal) :
    Provision (Machine.instanceId visit.object) (Machine.instanceName visit.object)
      visit.exchanges := by
  have hbody (now : Time.Instant) : (Managed.machine.body ⟨visit.opened.cluster, settings, now⟩
      visit.object visit.object).Ensures (.recording _) (fun _ _ seen =>
        Provision (Machine.instanceId visit.object) (Machine.instanceName visit.object) seen)
        [] := by
    rw [Managed.body_of_normal _ hnormal]
    exact Machine.reconcileNormal_provision _ visit.object
  exact stages.of_recording hbody

/-- Over any run of normal passes the provider never holds two instances of the machine's name, if
it did not before.  No pass asks for an instance more than once, or before its lookups by recorded
id, if there is one, and by name have both been answered with none. -/
theorem one_instance {target : Managed.machine.Target} {view : W → Fleet} {called : String}
    (hsurrounds : world.Surrounds target view (Fleet.provided called) (Fleet.Recedes called))
    {first last : W} {stages : List (Stage .machine W)}
    (hpasses : world.Passes .machine «namespace» name view (Fleet.Recedes called) first stages last)
    (hnormal : ∀ stage ∈ stages, stage.visit.Normal ∧
      Machine.instanceName stage.visit.object = called ∧ stage.visit.opened.target = target)
    (hsingle : (view first).Single called) :
    (view last).Single called ∧ ∀ stage ∈ stages, ∀ early exchange late,
      stage.visit.exchanges = early ++ exchange :: late → exchange.AsksInstance →
        (∀ other ∈ early ++ late, ¬other.AsksInstance) ∧
        (∀ id, Machine.instanceId stage.visit.object = some id →
          (⟨.cloud (.getInstance id), .returned (.ok none)⟩ : OfMachine) ∈ early) ∧
        (⟨.cloud (.getInstanceByName called), .returned (.ok none)⟩ : OfMachine) ∈ early := by
  have hprovision (stage : Stage .machine W) (hmem : stage ∈ stages) :
      Provision (Machine.instanceId stage.visit.object) called stage.visit.exchanges := by
    obtain ⟨hexists, hcalled, _⟩ := hnormal stage hmem
    obtain ⟨settings, hvisit⟩ := hpasses.visit_of_mem hmem
    obtain ⟨taken⟩ := stages_of_visit hvisit
    rw [← hcalled]
    exact taken.provision hexists
  refine ⟨?single, fun stage hmem early exchange late hseen hasks => ?asks⟩
  case single =>
    refine (hpasses.keeps (Fleet.Single called) hsurrounds
      (fun stage hmem => (hnormal stage hmem).2.2) Fleet.Recedes.single
      (fun stage hmem start ready hacts hstart => ?_) hsingle).1
    exact (hprovision stage hmem).single hacts.along hstart
  case asks =>
    obtain ⟨honce, hmissed⟩ := (hseen ▸ hprovision stage hmem).of_asksInstance hasks
    exact ⟨honce, hmissed.recorded, hmissed.named⟩

end World

/-- A provider that runs what it is asked for, with every reply to a creation lost. -/
def Stand.losing : World (Stand Fleet) :=
  world (fun _ => 0) fun _ question fleet => match question with
    | .cloud (.getInstance id) => (.returned (.ok (fleet.held.find? (·.id == id))), fleet)
    | .cloud (.getInstanceByName name) =>
      (.returned (.ok (fleet.held.find? (·.name == name))), fleet)
    | .cloud (.createInstance prototype) =>
      (.expired, fleet.turn (⟨"vsi-1", prototype.name, none, .running, none, []⟩ :: fleet.held))
    | .secret .. => (.returned (.ok (some secret)), fleet)
    | _ => (.expired, fleet)

theorem Stand.losing_surrounds (called : String) (target : Managed.machine.Target) :
    Stand.losing.Surrounds target cloud (Fleet.provided called) (Fleet.Recedes called) := by
  refine surrounds _ _ id (fun deadline question fleet => ⟨fleet, _, .refl, ?_, .refl⟩) target
  rcases question with call | _ | _
  · cases call with
    | getInstanceByName name =>
        refine ⟨rfl, ?_⟩
        rintro rfl hnone
        have hmissing : fleet.held.find? (·.name == name) = none :=
          Except.ok.inj (Outcome.returned.inj hnone)
        simpa [Fleet.named] using hmissing
    | createInstance prototype => exact .inl ⟨_, rfl, rfl⟩
    | _ => rfl
  · rfl
  · rfl

/-- An instance whose creation went unheard of is found by the next pass. -/
theorem World.one_instance_found : ∃ stages last,
    Stand.losing.Passes .machine "default" "node" Stand.cloud (Fleet.Recedes "node")
      (Stand.fresh [] ⟨[], []⟩) stages last ∧
    (∃ stage ∈ stages, ∃ exchange ∈ stage.visit.exchanges, exchange.AsksInstance) ∧
    (∃ stage ∈ stages, Machine.instanceId stage.visit.left.object = some "vsi-1") ∧
    last.cloud.Single "node" := by
  obtain ⟨creating, hcreating, hasks, hfirst⟩ : ∃ visit,
      Stand.losing.visit .machine {} "default" "node"
        (Stand.fresh [] ⟨[], []⟩) = (some visit, _) ∧
      (∃ exchange ∈ visit.exchanges, topic exchange.question = .creation) ∧
      visit.object.metadata.isDeleting = false ∧ Machine.instanceName visit.object = "node" ∧
        visit.opened.target = some "region" :=
    Stand.exists_visit (by decide +kernel)
  obtain ⟨finding, hfinding, hfound, hsecond⟩ : ∃ visit,
      Stand.losing.visit .machine {} "default" "node"
        ((Stand.fresh [] ⟨[], []⟩).passed Stand.losing) =
          (some visit, _) ∧
      Machine.instanceId visit.left.object = some "vsi-1" ∧
      visit.object.metadata.isDeleting = false ∧ Machine.instanceName visit.object = "node" ∧
        visit.opened.target = some "region" :=
    Stand.exists_visit (by decide +kernel)
  have hpasses : Stand.losing.Passes .machine "default" "node" Stand.cloud (Fleet.Recedes "node")
      (Stand.fresh [] ⟨[], []⟩) _ _ := ((Passes.start _).visited {} hcreating).visited {} hfinding
  have hnone : (Stand.fresh [] (⟨[], []⟩ : Fleet)).cloud.Single "node" := by
    simp [Fleet.Single, Fleet.named, Stand.fresh, Stand.holding]
  obtain ⟨hsingle, -⟩ := one_instance (Stand.losing_surrounds "node" (some "region")) hpasses
    (by simp [Visit.Normal, hfirst, hsecond]) hnone
  exact ⟨_, _, hpasses, ⟨_, List.mem_append_left _ (List.mem_singleton_self _), hasks⟩,
    ⟨_, List.mem_append_right _ (List.mem_singleton_self _), hfound⟩, hsingle⟩

end Reconciler
