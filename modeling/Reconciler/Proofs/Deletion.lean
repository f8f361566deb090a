import Reconciler.Proofs.Owned
import Reconciler.Proofs.Stand

/-!
# The instance that a delete pass deletes

A delete pass deletes the recorded instance, or the one of the machine's name where none is on
record.  A normal pass also looks for the name when the recorded instance is gone.  The two agree
unless another instance is on record than the one that a normal pass would find.
-/

namespace Reconciler

open Machine (About Topic topic)

/-- What is ensured of state and end however the questions end, whatever is made of the
exchanges. -/
theorem Program.Ensures.of_folding {I : Interface} {S σ α : Type} {step : S → Exchange I → S}
    {program : Program I σ α} {holds : σ → Outcome α → Prop} {start : S}
    (hensures : program.Ensures (.folding step) (fun state outcome _ => holds state outcome)
      start) :
    program.Ensures (.anything I) (fun state outcome _ => holds state outcome) () := by
  induction program generalizing start with
  | done state value => exact hensures
  | ask state question next ih =>
      intro ending _ _
      have hended := hensures ending _ rfl
      cases ending with
      | returned answer => exact ih answer hended
      | expired => exact hended
      | panicked text => exact hended

theorem Step.Faithful.stays {managed : Managed} {S σ α : Type} {step : Step managed σ α}
    (hfaithful : step.Faithful) (environment : Environment (outside managed) S) (state : σ)
    (start : S) : (step state).Ensures environment (fun after _ _ => after = state) start :=
  ((hfaithful state True).mono fun _ _ _ hended => hended.1).of_folding.anywhere start

namespace Exchange

/-- The call asks for the deletion of an instance. -/
def AsksDeletion (exchange : OfMachine) : Prop := topic exchange.question = .deletion

/-- A lookup that returned has found what is among the instances. -/
def AnsweredFrom (instances : List Instance) : OfMachine → Prop
  | ⟨.cloud (.getInstance id), .returned (.ok found)⟩ => found = instances.find? (·.id == id)
  | ⟨.cloud (.getInstanceByName name), .returned (.ok found)⟩ =>
    found = instances.find? (·.name == name)
  | _ => True

theorem answeredFrom_of_quiet {exchange : OfMachine} (hquiet : topic exchange.question ≠ .lookup)
    (instances : List Instance) : exchange.AnsweredFrom instances := by
  rcases exchange with ⟨call | _ | _, ending⟩
  · cases call with
    | getInstance id => exact absurd rfl hquiet
    | getInstanceByName name => exact absurd rfl hquiet
    | _ => exact trivial
  · exact trivial
  · exact trivial

end Exchange

namespace Machine

/-- A provider that lets its instances be looked up and does nothing else. -/
def lookingUp (instances : List Instance) :
    (question : BodyQuestion .machine) → Unit → Outcome question.Answer × Unit
  | .cloud (.getInstance id), _ => (.returned (.ok (instances.find? (·.id == id))), ())
  | .cloud (.getInstanceByName name), _ => (.returned (.ok (instances.find? (·.name == name))), ())
  | _, _ => (.expired, ())

/-- What a normal pass finds among the instances, without creating anything. -/
def Finds (surroundings : Surroundings) (machine : Machine) (instances : List Instance)
    (found : Instance) : Prop :=
  ((getOrCreate surroundings machine).run (lookingUp instances) ()).1.2 =
    .returned (.ok (some found))

instance (surroundings : Surroundings) (machine : Machine) (instances : List Instance)
    (found : Instance) : Decidable (Finds surroundings machine instances found) :=
  inferInstanceAs (Decidable (_ = _))

/-- The recorded instance, if it is there, or else the one of the machine's name. -/
def existing (machine : Machine) (instances : List Instance) : Option Instance :=
  (machine.instanceId.bind fun id => instances.find? (·.id == id)) <|>
    instances.find? (·.name == machine.instanceName)

/-- Each question ends as it does at a provider that is only looked up. -/
def lookup (instances : List Instance) : Environment (outside .machine) Unit :=
  fun question ending _ _ => ending = (lookingUp instances question ()).1

theorem findInstance_lookup (machine state : Machine) (instances : List Instance) :
    (findInstance machine state).Ensures (lookup instances) (fun _ outcome _ =>
      outcome = .returned (.ok (machine.existing instances))) () := by
  unfold findInstance
  rcases hid : machine.instanceId with _ | id
  · simp only [Action.ensures_bind, Action.ensures_pure, Outcome.follow_ok, Body.ensures_call]
    rintro _ _ rfl
    simp [lookingUp, existing, hid]
  · simp only [Action.ensures_bind, Body.ensures_call]
    rintro _ _ rfl
    rcases hrecorded : instances.find? (·.id == id) with _ | found
    · simp only [lookingUp, hrecorded, Outcome.mapError_ok, Outcome.follow_ok, Body.ensures_call]
      rintro _ _ rfl
      simp [lookingUp, existing, hid, hrecorded]
    · simp [lookingUp, existing, hid, hrecorded]

/-- A normal pass finds the recorded instance, if it is there, or else the one of the machine's
name. -/
theorem finds_iff (surroundings : Surroundings) (machine : Machine) (instances : List Instance)
    (found : Instance) : Finds surroundings machine instances found ↔
      machine.existing instances = some found := by
  have hensures : (getOrCreate surroundings machine).Ensures (lookup instances) (fun _ outcome _ =>
      outcome = .returned (.ok (some found)) ↔ machine.existing instances = some found) () := by
    unfold getOrCreate
    simp only [Action.ensures_bind, Action.ensures_get, Outcome.follow_ok]
    apply (findInstance_lookup machine machine instances).mono
    rintro state _ _ rfl
    rw [Outcome.follow_ok]
    rcases machine.existing instances with _ | other
    · dsimp only
      rcases surroundings.cluster with _ | cluster
      · simp
      · dsimp only
        rcases machine.subnet cluster with _ | subnet
        · simp
        · simp only [bootstrapData, Action.ensures_bind, Action.ensures_ask]
          rintro _ _ rfl
          simp [lookingUp]
    · simp
  exact hensures.run (lookingUp instances) id (fun _ _ => rfl) ()

end Machine

/-- The instance that a delete pass chooses: the one on record or, if there is none, the one that
was found by name. -/
def Chosen (recorded : Option String) (called : String) (seen : List OfMachine) (id : String) :
    Prop :=
  recorded = some id ∨ recorded = none ∧ ∃ found : Instance, found.id = id ∧
    ⟨.cloud (.getInstanceByName called), .returned (.ok (some found))⟩ ∈ seen

/-- There is nothing on record, and nothing was found by name. -/
def Unfound (recorded : Option String) (called : String) (seen : List OfMachine) : Prop :=
  recorded = none ∧ ⟨.cloud (.getInstanceByName called), .returned (.ok none)⟩ ∈ seen

/-- The calls of a delete pass that lets a machine go. -/
inductive Disposal (recorded : Option String) (called : String) : List OfMachine → Prop
  | nothing (seen : List OfMachine) (hquiet : ∀ exchange ∈ seen, ¬exchange.AsksDeletion)
      (hunfound : Unfound recorded called seen) : Disposal recorded called seen
  | deleted (early late : List OfMachine) (id : String) (ending : Outcome (Except CloudError Unit))
      (hearly : ∀ exchange ∈ early, ¬exchange.AsksDeletion)
      (hlate : ∀ exchange ∈ late, ¬exchange.AsksDeletion)
      (hchosen : Chosen recorded called early id) :
      Disposal recorded called (early ++ ⟨.cloud (.deleteInstance id), ending⟩ :: late)

theorem Disposal.append {recorded : Option String} {called : String} {seen late : List OfMachine}
    (hdisposal : Disposal recorded called seen)
    (hlate : ∀ exchange ∈ late, ¬exchange.AsksDeletion) :
    Disposal recorded called (seen ++ late) := by
  cases hdisposal with
  | nothing _ hquiet hunfound =>
      exact .nothing _ (fun exchange hmem => (List.mem_append.mp hmem).elim (hquiet _) (hlate _))
        ⟨hunfound.1, List.mem_append_left _ hunfound.2⟩
  | deleted early rest id ending hearly hrest hchosen =>
      rw [List.append_assoc, List.cons_append]
      exact .deleted early _ id ending hearly
        (fun exchange hmem => (List.mem_append.mp hmem).elim (hrest _) (hlate _)) hchosen

namespace Machine

/-- A delete pass that goes on has chosen an instance, or there is none. -/
theorem instanceToDelete_chooses (machine state : Machine) (early : List OfMachine)
    (hearly : ∀ exchange ∈ early, ¬exchange.AsksDeletion) :
    (instanceToDelete machine state).Ensures (.recording _) (fun after outcome seen =>
      after = state ∧ (∀ exchange ∈ seen, ¬exchange.AsksDeletion) ∧
        (∀ id, outcome = .returned (.ok (some id)) →
          Chosen machine.instanceId machine.instanceName seen id) ∧
        (outcome = .returned (.ok none) →
          Unfound machine.instanceId machine.instanceName seen)) early := by
  unfold instanceToDelete
  rcases machine.instanceId with _ | id
  · simp only [Action.ensures_bind, Body.ensures_call]
    rintro ending _ rfl
    have hlooked : ∀ exchange ∈ early ++ [(⟨.cloud (.getInstanceByName machine.instanceName),
        ending⟩ : OfMachine)], ¬exchange.AsksDeletion := by
      intro exchange hmem
      rcases List.mem_append.mp hmem with hbefore | hlast
      · exact hearly exchange hbefore
      · rw [List.mem_singleton.mp hlast]
        simp [Exchange.AsksDeletion]
    rcases ending with (error | _ | found) | _ | text
    · exact ⟨trivial, hlooked, fun _ heq => by simp at heq, fun heq => by simp at heq⟩
    · exact ⟨rfl, hlooked, fun _ heq => by simp at heq, fun _ => ⟨rfl, by simp⟩⟩
    · refine ⟨rfl, hlooked, fun id hid => .inr ⟨rfl, found, ?_, by simp⟩, fun heq => by simp at heq⟩
      exact Option.some.inj (Except.ok.inj (Outcome.returned.inj hid))
    · exact ⟨trivial, hlooked, fun _ heq => by simp at heq, fun heq => by simp at heq⟩
    · exact ⟨trivial, hlooked, fun _ heq => by simp at heq, fun heq => by simp at heq⟩
  · refine ⟨rfl, hearly, fun chosen hchosen => ?_, fun hnone => by simp at hnone⟩
    exact .inl (Except.ok.inj (Outcome.returned.inj hchosen))

theorem finish_disposal (event : Event) (machine : Machine) {recorded : Option String}
    {called : String} {seen : List OfMachine} (hdisposal : Disposal recorded called seen) :
    ((do
      modify (Managed.machine.removeFinalizer ·)
      Body.publish event
      return .none : Pass Requeue) machine).Ensures (.recording _)
        (fun after _ seen => Managed.machine.hasFinalizer after = false →
          Disposal recorded called seen) seen := by
  simp only [Action.ensures_bind, Action.ensures_modify, Outcome.follow_ok]
  rintro (result | _ | text) _ rfl
  all_goals exact fun _ => hdisposal.append (by simp [Exchange.AsksDeletion])

/-- What a delete pass does once the machine's address is out of its pools. -/
def dispose (machine : Machine) : Pass Requeue := do
  match ← instanceToDelete machine with
  | none => pure ()
  | some id =>
    Body.remove .machine ("deleting instance " ++ id) (.deleteInstance id)
  modify (Managed.machine.removeFinalizer ·)
  Body.publish (.finalizerRemoved Kind.machine.name machine.metadata.nameAny)
  return .none

theorem reconcileDelete_eq (surroundings : Surroundings) : reconcileDelete surroundings = (do
    let machine ← get
    if !Managed.machine.hasFinalizer machine then return .none
    if machine.region.isNone && surroundings.cluster.isNone then
      throw (.unknownTarget machine.metadata.key)
    deregister surroundings machine
    dispose machine) := rfl

theorem asks_dispose (machine : Machine) :
    Step.Asks (About [.lookup, .deletion, .event]) (dispose machine) := by
  have hpublish : Step.Asks (About [.lookup, .deletion, .event]) (do
      modify (Managed.machine.removeFinalizer ·)
      Body.publish (.finalizerRemoved Kind.machine.name machine.metadata.nameAny)
      return .none : Pass Requeue) :=
    (Step.Asks.modify _).bind fun _ => (Step.Asks.publish fun _ => by simp).bind fun _ =>
      Step.Asks.pure _
  unfold dispose
  apply ((asks_instanceToDelete machine).about (by decide)).bind
  rintro (_ | id)
  · exact hpublish
  · exact (Step.Asks.remove (by simp)).bind fun _ => hpublish

/-- A delete pass that lets its machine go has taken the address out of the pools and disposed of
the machine. -/
theorem reconcileDelete_ensures_of_dispose {S : Type}
    {environment : Environment (outside .machine) S} {surroundings : Surroundings}
    {machine : Machine}
    (hfinalizer : Managed.machine.hasFinalizer machine = true) {holds : S → Prop} {start : S}
    (hdispose : (deregister surroundings machine machine).Ensures environment
      (fun _ outcome after => outcome = .returned (.ok ()) →
        (dispose machine machine).Ensures environment (fun last _ ready =>
          Managed.machine.hasFinalizer last = false → holds ready) after) start) :
    (reconcileDelete surroundings machine).Ensures environment (fun last _ ready =>
      Managed.machine.hasFinalizer last = false → holds ready) start := by
  have hstays {after : S} (hreleased : Managed.machine.hasFinalizer machine = false) :
      holds after := by
    simp [hfinalizer] at hreleased
  rw [reconcileDelete_eq]
  simp only [Action.ensures_bind, Action.ensures_get, Outcome.follow_ok, hfinalizer, Bool.not_true,
    Bool.false_eq_true, if_false]
  by_cases hunknown : (machine.region.isNone && surroundings.cluster.isNone) = true
  · rw [if_pos hunknown]
    exact hstays
  rw [if_neg hunknown, Action.ensures_bind]
  have hstill := (faithful_deregister surroundings machine).stays environment machine start
  apply (hstill.and hdispose).mono
  rintro _ outcome after ⟨rfl, hrest⟩
  rcases outcome with (error | _) | _ | text
  · exact hstays
  · exact hrest rfl
  · exact hstays
  · exact hstays

theorem dispose_disposal (machine : Machine)
    (hfinalizer : Managed.machine.hasFinalizer machine = true) {seen : List OfMachine}
    (hquiet : ∀ exchange ∈ seen, ¬exchange.AsksDeletion) :
    (dispose machine machine).Ensures (.recording _) (fun last _ seen =>
      Managed.machine.hasFinalizer last = false →
        Disposal machine.instanceId machine.instanceName seen) seen := by
  have hstays {seen : List OfMachine} (hreleased : Managed.machine.hasFinalizer machine = false) :
      Disposal machine.instanceId machine.instanceName seen := by
    simp [hfinalizer] at hreleased
  unfold dispose
  rw [Action.ensures_bind]
  apply (instanceToDelete_chooses machine machine seen hquiet).mono
  rintro after outcome asked ⟨rfl, hasked, hchosen, hunfound⟩
  rcases outcome with (error | _ | id) | _ | text
  · exact hstays
  · exact finish_disposal _ after (.nothing asked hasked (hunfound rfl))
  · rw [Outcome.follow_ok]
    dsimp only
    rw [Action.ensures_bind, Body.ensures_remove]
    rintro ending _ rfl
    have hdeleted : Disposal after.instanceId after.instanceName _ :=
      .deleted asked [] id ending hasked (by simp) (hchosen id rfl)
    rcases ending.removal ("deleting instance " ++ id) with (error | _) | _ | text
    · exact hstays
    · exact finish_disposal _ after hdeleted
    · exact hstays
    · exact hstays
  · exact hstays
  · exact hstays

/-- A delete pass that lets its machine go has deleted what it chose. -/
theorem reconcileDelete_disposal (surroundings : Surroundings) (machine : Machine)
    (hfinalizer : Managed.machine.hasFinalizer machine = true) :
    (reconcileDelete surroundings machine).Ensures (.recording _) (fun last _ seen =>
      Managed.machine.hasFinalizer last = false →
        Disposal machine.instanceId machine.instanceName seen) [] := by
  apply reconcileDelete_ensures_of_dispose hfinalizer
  apply (quiet_of_asks (asks_deregister surroundings machine)
    (by decide : Topic.deletion ∉ _) machine []).mono
  rintro _ _ _ ⟨_, rfl, hquiet⟩ -
  exact dispose_disposal machine hfinalizer hquiet

end Machine

/-- Among the calls of a delete pass that lets its machine go is the deletion of the instance that a
normal pass would find, unless another one is on record. -/
theorem Disposal.deletes_iff {machine : Machine} {instances : List Instance} {found : Instance}
    {seen : List OfMachine} (hdisposal : Disposal machine.instanceId machine.instanceName seen)
    (hanswers : ∀ exchange ∈ seen, exchange.AnsweredFrom instances)
    (hfound : machine.existing instances = some found) :
    (∃ exchange ∈ seen, exchange.question = .cloud (.deleteInstance found.id)) ↔
      ∀ id, machine.instanceId = some id → id = found.id := by
  have hnamed (hnone : machine.instanceId = none) :
      instances.find? (·.name == machine.instanceName) = some found := by
    simpa [Machine.existing, hnone] using hfound
  cases hdisposal with
  | nothing _ _ hunfound =>
      have hmissing : none = instances.find? _ := hanswers _ hunfound.2
      simp [hnamed hunfound.1] at hmissing
  | deleted early late id ending hearly hlate hchosen =>
      have honly : (∃ exchange ∈
          early ++ (⟨.cloud (.deleteInstance id), ending⟩ : OfMachine) :: late,
          exchange.question = .cloud (.deleteInstance found.id)) ↔ id = found.id := by
        constructor
        · rintro ⟨exchange, hmem, hquestion⟩
          have hasks : exchange.AsksDeletion := by
            rw [Exchange.AsksDeletion, hquestion]
            rfl
          rcases List.mem_append.mp hmem with hbefore | hlast
          · exact absurd hasks (hearly exchange hbefore)
          · rcases List.mem_cons.mp hlast with rfl | hafter
            · simpa using hquestion
            · exact absurd hasks (hlate exchange hafter)
        · rintro rfl
          exact ⟨_, List.mem_append_right _ (List.mem_cons_self ..), rfl⟩
      rw [honly]
      rcases hchosen with hrecorded | ⟨hnone, other, rfl, hlooked⟩
      · simp [hrecorded]
      · have hother : some other = instances.find? _ :=
          hanswers _ (List.mem_append_left _ hlooked)
        rw [hnamed hnone] at hother
        simp [hnone, Option.some.inj hother]

namespace World

variable {W : Type}

/-- A delete pass that lets a machine go has deleted the instance that a normal pass would find
exactly when no other one is on record. -/
theorem deletes_found_iff {world : World W} {settings : Settings} {«namespace» name : String}
    {w after : W} {visit : Visit .machine}
    (hvisit : world.visit .machine settings «namespace» name w = (some visit, after))
    (hdeleting : visit.Deleting) (hfinalizer : Managed.machine.hasFinalizer visit.object = true)
    (hreleased : Managed.machine.hasFinalizer visit.left.object = false)
    {instances : List Instance}
    (hanswers : ∀ exchange ∈ visit.exchanges, exchange.AnsweredFrom instances)
    {surroundings : Machine.Surroundings} {found : Instance}
    (hfound : Machine.Finds surroundings visit.object instances found) :
    (∃ exchange ∈ visit.exchanges,
      exchange.question = .cloud (.deleteInstance found.id) ∧ exchange.WentWell) ↔
      ∀ id, Machine.instanceId visit.object = some id → id = found.id := by
  obtain ⟨stages⟩ := stages_of_visit hvisit
  have hbody (now : Time.Instant) : (Managed.machine.body ⟨visit.opened.cluster, settings, now⟩
      visit.object visit.object).Ensures (.recording _) (fun after _ seen =>
        Managed.machine.hasFinalizer after = false → Disposal (Machine.instanceId visit.object)
          (Machine.instanceName visit.object) seen) [] := by
    rw [Managed.body_of_deleting _ hdeleting]
    exact Machine.reconcileDelete_disposal _ visit.object hfinalizer
  have hdisposal := stages.of_recording hbody hreleased
  have hwell : ∀ exchange ∈ visit.exchanges, exchange.WentWell := by
    rcases stages.releasedWhen_of_deleting hdeleting hfinalizer with ⟨_, _, hwell⟩ | ⟨hkept, _⟩
    · exact hwell
    · rw [hkept, hfinalizer] at hreleased
      simp at hreleased
  rw [← hdisposal.deletes_iff hanswers ((Machine.finds_iff ..).mp hfound)]
  exact exists_congr fun exchange => and_congr_right fun hmem =>
    and_iff_left (hwell exchange hmem)

end World

/-- The exchange asks for the deletion of the instance with this id. -/
def Exchange.deletes (id : String) (exchange : OfMachine) : Bool :=
  match exchange.question with
  | .cloud (.deleteInstance deleted) => deleted == id
  | _ => false

/-- A provider whose instances can be looked up and deleted. -/
def Stand.keeping : World (Stand (List Instance)) :=
  world (fun _ => 0) fun _ question instances => match question with
    | .cloud (.getInstance id) => (.returned (.ok (instances.find? (·.id == id))), instances)
    | .cloud (.getInstanceByName name) =>
      (.returned (.ok (instances.find? (·.name == name))), instances)
    | .cloud (.deleteInstance id) =>
      (.returned (if instances.any (·.id == id) then .ok () else .error (.notFound id)),
        instances.filter (·.id != id))
    | .publish .. => (.returned (.ok ()), instances)
    | _ => (.expired, instances)

/-- The instance of the machine. -/
def Stand.instance_ : Instance := ⟨"vsi-new", "node", none, .running, none, []⟩

/-- A machine with an instance on record that is being deleted. -/
def Stand.leaving (recorded : String) : Stand (List Instance) :=
  (holding { machine [] with status := some { instanceId := recorded, region := "region" } }
    ⟨rfl, rfl⟩ [instance_]).delete

namespace World

theorem deletes_found_recorded : ∃ visit,
    Stand.keeping.visit .machine {} "default" "node" (Stand.leaving "vsi-new") =
      (some visit, (Stand.leaving "vsi-new").passed Stand.keeping) ∧
    ∃ exchange ∈ visit.exchanges,
      exchange.question = .cloud (.deleteInstance "vsi-new") ∧ exchange.WentWell := by
  obtain ⟨visit, hvisit, hrecorded, hquiet, hfound, hdeleting, hfinalizer, hreleased⟩ : ∃ visit,
      Stand.keeping.visit .machine {} "default" "node" (Stand.leaving "vsi-new") =
        (some visit, _) ∧
      Machine.instanceId visit.object = some "vsi-new" ∧
      (∀ exchange ∈ visit.exchanges, topic exchange.question ≠ .lookup) ∧
      Machine.Finds ⟨some Stand.cluster, {}, ⟨0, 0⟩⟩ visit.object [Stand.instance_]
        Stand.instance_ ∧
      visit.object.metadata.isDeleting = true ∧
      Managed.machine.hasFinalizer visit.object = true ∧
      Managed.machine.hasFinalizer visit.left.object = false :=
    Stand.exists_visit (by decide +kernel)
  refine ⟨visit, hvisit, ?_⟩
  refine (deletes_found_iff hvisit hdeleting hfinalizer hreleased (fun exchange hmem =>
    Exchange.answeredFrom_of_quiet (hquiet exchange hmem) _) hfound).mpr ?_
  simp [hrecorded, Stand.instance_]

/-- With an instance on record that is gone, a delete pass lets its machine go and leaves the one of
its name, which a normal pass would find, at the provider. -/
theorem deletes_not_found : ∃ visit after,
    Stand.keeping.visit .machine {} "default" "node" (Stand.leaving "vsi-old") =
      (some visit, after) ∧
    visit.Deleting ∧ Managed.machine.hasFinalizer visit.object = true ∧
    Managed.machine.hasFinalizer visit.left.object = false ∧ visit.answer = .ok .none ∧
    Machine.Finds ⟨visit.opened.cluster, {}, ⟨0, 0⟩⟩ visit.object (Stand.leaving "vsi-old").cloud
      Stand.instance_ ∧
    (∀ exchange ∈ visit.exchanges,
      exchange.question ≠ .cloud (.deleteInstance Stand.instance_.id)) ∧
    Stand.instance_ ∈ after.cloud := by
  obtain ⟨visit, hvisit, hcomputed⟩ : ∃ visit,
      Stand.keeping.visit .machine {} "default" "node" (Stand.leaving "vsi-old") =
        (some visit, _) ∧
      visit.object.metadata.isDeleting = true ∧
      Managed.machine.hasFinalizer visit.object = true ∧
      Managed.machine.hasFinalizer visit.left.object = false ∧ visit.answer = .ok .none ∧
      Machine.Finds ⟨visit.opened.cluster, {}, ⟨0, 0⟩⟩ visit.object (Stand.leaving "vsi-old").cloud
        Stand.instance_ ∧
      visit.exchanges.any (·.deletes Stand.instance_.id) = false :=
    Stand.exists_visit (by decide +kernel)
  obtain ⟨hdeleting, hfinalizer, hreleased, hanswer, hfinds, hcalls⟩ := hcomputed
  refine ⟨visit, _, hvisit, hdeleting, hfinalizer, hreleased, hanswer, hfinds,
    fun exchange hmem hquestion => ?_, by decide +kernel⟩
  simpa [Exchange.deletes, hquestion] using List.any_eq_false.mp hcalls exchange hmem

end World

end Reconciler
