import Reconciler.Proofs.Deletion
import Reconciler.Proofs.FormQueries
import Reconciler.Proofs.Naming

/-!
# Instances that are found by name

A search for a name asks for that very name only if the name means nothing else in a query.  Then a
provider that goes by the exact name lets a pass find, adopt and delete instances of its machine's
name only.
-/

namespace Reconciler

open Http
open Machine (About Topic topic)

/-- Where a call searches for a name, and for which one. -/
def VpcCall.sought : VpcCall → Option (String × String)
  | .getInstanceByName name => some ("/instances", name)
  | .createInstance prototype =>
    match prototype.imageId, prototype.imageName with
    | none, some name => some ("/images", name)
    | _, _ => none
  | _ => none

theorem VpcCall.plain_of_sought {call : VpcCall} {collection name : String}
    (hsought : call.sought = some (collection, name)) : Http.Plain collection := by
  have heither : collection = "/instances" ∨ collection = "/images" := by
    unfold VpcCall.sought at hsought
    split at hsought
    · exact .inl (Prod.mk.inj (Option.some.inj hsought)).1.symm
    · split at hsought
      · exact .inr (Prod.mk.inj (Option.some.inj hsought)).1.symm
      · simp at hsought
    · simp at hsought
  rcases heither with rfl | rfl <;> decide

namespace Http

/-- The first of the requests went to the address, if there were any. -/
def BeginsAt (url : String) (sent : List Dispatch) : Prop :=
  ∀ dispatch ∈ sent.head?, dispatch.url = url

section BeginsAt

variable {url : String} {sent : List Dispatch}

theorem BeginsAt.append (hbegins : BeginsAt url sent) (hsent : sent ≠ []) (late : List Dispatch) :
    BeginsAt url (sent ++ late) := by
  obtain ⟨first, rest, rfl⟩ := List.exists_cons_of_ne_nil hsent
  exact hbegins

/-- What comes after a first request changes nothing about it. -/
theorem BeginsAt.followed {α σ : Type} (hbegins : BeginsAt url sent) (hsent : sent ≠ [])
    (program : Program network σ α) :
    program.Ensures dispatching (fun _ _ after => BeginsAt url after) sent := by
  have hkept : program.Ensures dispatching
      (fun _ _ after => BeginsAt url after ∧ after ≠ []) sent := by
    refine program.ensures_of_preserved ?_ ⟨hbegins, hsent⟩
    rintro question ending before _ rfl ⟨hbefore, hsome⟩
    exact ⟨hbefore.append hsome _, List.append_ne_nil_of_left_ne_nil hsome _⟩
  exact hkept.mono fun _ _ _ hafter => hafter.1

/-- A call that gets something first begins where it gets it. -/
theorem beginsAt_get_bind {α β : Type} (account : Account) (read : Json.Reader α) (url : String)
    (next : α → Call β) (token : Option Token) :
    ((account.get read url >>= next) token).Ensures dispatching
      (fun _ _ after => BeginsAt url after) [] := by
  rw [Action.ensures_bind]
  refine (account.get_dispatches read url token []).mono ?_
  rintro kept outcome after (⟨rfl, hfailed⟩ | ⟨dispatch, rfl, -, rfl⟩)
  · have hnothing : BeginsAt url [] := fun _ hmem => absurd hmem (by simp)
    rcases outcome with (error | value) | _ | text
    · exact hnothing
    · exact absurd trivial hfailed
    · exact hnothing
    · exact hnothing
  · have hbegins : BeginsAt dispatch.url ([] ++ [dispatch]) := by
      rintro first hfirst
      rw [← Option.some.inj hfirst]
    rcases outcome with (error | value) | _ | text
    · exact hbegins
    · exact hbegins.followed (by simp) _
    · exact hbegins
    · exact hbegins

end BeginsAt

/-- A call that searches for a name begins with that search. -/
theorem vpc_beginsAt (provider : Provider) (pages : Nat) (region : Option String) {call : VpcCall}
    {collection name : String} (hsought : call.sought = some (collection, name))
    (token : Option Token) :
    (provider.vpc pages region call token).Ensures dispatching
      (fun _ _ after =>
        BeginsAt (versioned (provider.vpcBase region) (searchPath collection name)) after) [] := by
  cases call with
  | getInstanceByName called =>
      obtain ⟨rfl, rfl⟩ := Prod.mk.inj (Option.some.inj hsought)
      exact beginsAt_get_bind _ _ _ _ token
  | createInstance prototype =>
      rcases hid : prototype.imageId with _ | id
      · rcases hname : prototype.imageName with _ | called
        · simp [VpcCall.sought, hid, hname] at hsought
        · have hthis : ("/images", called) = (collection, name) := by
            simpa [VpcCall.sought, hid, hname] using hsought
          obtain ⟨rfl, rfl⟩ := Prod.mk.inj hthis
          unfold Provider.vpc Account.prototypeImage Account.resolveImage
          simp only [hid, hname]
          rw [Action.bind_assoc]
          exact beginsAt_get_bind _ _ _ _ token
      · simp [VpcCall.sought, hid] at hsought
  | _ => exact absurd hsought (by simp [VpcCall.sought])

/-- The answers to searches hold instances of the name only that was asked for. -/
def FiltersByName {V : Type} (answer : (question : Question) → V → Outcome question.Answer × V) :
    Prop :=
  ∀ (request : Request) (response : Response) (v : V) (fields : List (String × String))
    (name : String) (instances : List Instance),
    (answer (.send request) v).1 = .returned (some response) →
    formFields request.url = some fields → fields.lookup "name" = some name →
    accepted .get request.url response >>= decoded readInstances = .ok instances →
    ∀ found ∈ instances, found.name = name

/-- What is found by a literal name at such a provider has that name. -/
theorem getInstanceByName_of_filters {V : Type}
    {answer : (question : Question) → V → Outcome question.Answer × V}
    (hfilters : FiltersByName answer) {provider : Provider} {pages : Nat} {region : Option String}
    (hbase : Plain (provider.vpcBase region)) {name : String} (hliteral : Literal name)
    {token : Option Token} {v : V} {found : Instance}
    (hfound : ((provider.vpc pages region (.getInstanceByName name) token).run (I := network)
      answer v).1.2 = .returned (.ok (some found))) : found.name = name := by
  have hcollection : Plain "/instances" := by decide
  have hfields := (formFields_search_iff hbase hcollection name).mpr hliteral
  -- The questions end as they do in the world, whatever its state.
  have hensures : (provider.vpc pages region (.getInstanceByName name) token).Ensures
      (fun question ending _ _ => ∃ v, (answer question v).1 = ending)
      (fun _ outcome _ => outcome = .returned (.ok (some found)) → found.name = name) () := by
    change ((provider.get readInstances
      (versioned (provider.vpcBase region) (searchPath "/instances" name)) >>=
        fun instances => pure instances.head?) token).Ensures _ _ _
    rw [Action.ensures_bind, Account.get_eq, Account.ensures_requesting]
    have hbearer : (provider.bearer token).Ensures
        (fun question ending _ _ => ∃ v, (answer question v).1 = ending) (fun _ _ _ => True) () :=
      Program.ensures_of_preserved (fun _ _ _ _ _ _ => trivial) _ trivial
    refine hbearer.mono ?_
    rintro token ((error | value) | _ | text) _ -
    · simp
    · rintro ((_ | response) | _ | text) _ ⟨v, hanswer⟩
      · simp [delivered]
      · simp only [Outcome.resume_returned, delivered]
        rcases hread : accepted .get (versioned (provider.vpcBase region)
          (searchPath "/instances" name)) response >>= decoded readInstances with error | instances
        · simp
        · rw [Outcome.follow_ok, Action.ensures_pure]
          intro hended
          have hhead : instances.head? = some found := by simpa using hended
          exact hfilters _ response v _ name instances hanswer hfields rfl hread found
            (List.mem_of_mem_head? hhead)
      · simp
      · simp
    · simp
    · simp
  exact hensures.run answer (fun _ => ()) (fun question v => ⟨v, rfl⟩) v hfound

end Http

theorem Chosen.append {recorded : Option String} {called id : String} {seen : List OfMachine}
    (hchosen : Chosen recorded called seen id) (late : List OfMachine) :
    Chosen recorded called (seen ++ late) id :=
  hchosen.imp_right fun ⟨hnone, found, hid, hmem⟩ =>
    ⟨hnone, found, hid, List.mem_append_left _ hmem⟩

namespace Exchange

theorem question_of_deletes {id : String} {exchange : OfMachine}
    (hdeletes : exchange.deletes id = true) :
    exchange.question = .cloud (.deleteInstance id) := by
  unfold deletes at hdeletes
  split at hdeletes
  · next hquestion => rw [hquestion, eq_of_beq hdeletes]
  · simp at hdeletes

/-- The call looked for this name and found the instance. -/
def findsByName (name : String) (found : Instance) : OfMachine → Bool
  | ⟨.cloud (.getInstanceByName called), ending⟩ =>
    called == name && ending == .returned (.ok (some found))
  | _ => false

theorem eq_of_findsByName {name : String} {found : Instance} {exchange : OfMachine}
    (hfinds : exchange.findsByName name found = true) :
    exchange = ⟨.cloud (.getInstanceByName name), .returned (.ok (some found))⟩ := by
  unfold findsByName at hfinds
  split at hfinds
  · obtain ⟨hcalled, hending⟩ := Bool.and_eq_true_iff.mp hfinds
    rw [eq_of_beq hcalled, eq_of_beq hending]
  · simp at hfinds

end Exchange

namespace Machine

/-- A pass looks for no name but that of its machine, and deletes what it has chosen. -/
structure Seeks (machine : Machine) (seen : List OfMachine) : Prop where
  named : ∀ exchange ∈ seen, ∀ called, exchange.question = .cloud (.getInstanceByName called) →
    called = machine.instanceName
  deletes : ∀ exchange ∈ seen, ∀ id, exchange.question = .cloud (.deleteInstance id) →
    Chosen machine.instanceId machine.instanceName seen id

variable {machine : Machine} {early late : List OfMachine}

theorem seeks_nil (machine : Machine) : machine.Seeks [] := ⟨by simp, by simp⟩

theorem Seeks.append (hseeks : machine.Seeks early)
    (hnamed : ∀ exchange ∈ late, ∀ called,
      exchange.question = .cloud (.getInstanceByName called) → called = machine.instanceName)
    (hdeletes : ∀ exchange ∈ late, ∀ id, exchange.question = .cloud (.deleteInstance id) →
      Chosen machine.instanceId machine.instanceName early id) :
    machine.Seeks (early ++ late) where
  named exchange hmem := (List.mem_append.mp hmem).elim (hseeks.named _) (hnamed _)
  deletes exchange hmem id hquestion := by
    rcases List.mem_append.mp hmem with hearly | hlate
    · exact (hseeks.deletes exchange hearly id hquestion).append late
    · exact (hdeletes exchange hlate id hquestion).append late

/-- A step that is about something else seeks nothing more. -/
theorem Seeks.followed {σ α : Type} {topics : List Topic} {step : Step .machine σ α}
    (hseeks : machine.Seeks early) (hasks : Step.Asks (About topics) step)
    (hlookup : Topic.lookup ∉ topics) (hdeletion : Topic.deletion ∉ topics) (state : σ) :
    (step state).Ensures (.recording _) (fun _ _ seen => machine.Seeks seen) early := by
  apply ((hasks state).recording early).mono
  rintro _ _ _ ⟨late, rfl, habout⟩
  refine hseeks.append (fun exchange hmem called hquestion => ?_)
    fun exchange hmem id hquestion => ?_
  · have habout := habout exchange hmem
    rw [hquestion] at habout
    exact absurd habout hlookup
  · have habout := habout exchange hmem
    rw [hquestion] at habout
    exact absurd habout hdeletion

theorem Seeks.looked (hseeks : machine.Seeks early)
    (ending : Outcome (Except CloudError (Option Instance))) :
    machine.Seeks (early ++ [⟨.cloud (.getInstanceByName machine.instanceName), ending⟩]) := by
  apply hseeks.append <;> simp

theorem findInstance_seeks (machine state : Machine) :
    (findInstance machine state).Ensures (.recording _)
      (fun _ _ seen => machine.Seeks seen) [] := by
  unfold findInstance
  rcases machine.instanceId with _ | id
  · simp only [Action.ensures_bind, Action.ensures_pure, Outcome.follow_ok, Body.ensures_call]
    rintro ending _ rfl
    exact (seeks_nil machine).looked ending
  · simp only [Action.ensures_bind, Body.ensures_call]
    rintro ending _ rfl
    have hseeks : machine.Seeks ([] ++ [⟨.cloud (.getInstance id), ending⟩]) := by
      apply (seeks_nil machine).append <;> simp
    rcases ending with (error | _ | found) | _ | text
    · exact hseeks
    · simp only [Outcome.mapError_ok, Outcome.follow_ok, Body.ensures_call]
      rintro ending _ rfl
      exact hseeks.looked ending
    · exact hseeks
    · exact hseeks
    · exact hseeks

theorem getOrCreate_seeks (surroundings : Surroundings) (machine : Machine) :
    (getOrCreate surroundings machine).Ensures (.recording _)
      (fun _ _ seen => machine.Seeks seen) [] := by
  rw [getOrCreate_eq, Action.ensures_bind, Action.ensures_get, Outcome.follow_ok, provision,
    Action.ensures_bind]
  apply (findInstance_seeks machine machine).mono
  rintro state ((error | _ | found) | _ | text) seen hseeks
  · exact hseeks
  · exact hseeks.followed (asks_create _ _) (by decide) (by decide) state
  · exact hseeks
  · exact hseeks
  · exact hseeks

theorem owned_seeks (surroundings : Surroundings) (machine : Machine) :
    (owned surroundings machine).Ensures (.recording _)
      (fun _ _ seen => machine.Seeks seen) [] := by
  unfold owned
  simp only [Action.ensures_bind, Action.ensures_get, Outcome.follow_ok]
  split
  · exact seeks_nil machine
  · rw [Action.ensures_bind]
    apply (getOrCreate_seeks surroundings machine).mono
    rintro state ((error | _ | found) | _ | text) seen hseeks
    · exact hseeks
    · exact hseeks
    · have hasks : Step.Asks (About [.tagging, .pool, .joining, .event]) (do
          recordInstance surroundings found
          reconcileInstance surroundings found : Pass Requeue) :=
        ((asks_recordInstance surroundings found).about (by decide)).bind fun _ =>
          (asks_reconcileInstance surroundings found).about (by decide)
      exact hseeks.followed hasks (by decide) (by decide) state
    · exact hseeks
    · exact hseeks

theorem reconcileNormal_seeks (surroundings : Surroundings) (fetched : Machine) :
    (reconcileNormal surroundings fetched).Ensures (.recording _)
      (fun _ _ seen => fetched.Seeks seen) [] := by
  refine reconcileNormal_ensures_of_owned (fun _ _ _ => seeks_nil fetched) ?_
  intro machine hprepared
  refine (owned_seeks surroundings machine).mono ?_
  rintro after _ seen ⟨hnamed, hdeletes⟩
  rw [hprepared.alike.instanceName] at hnamed hdeletes
  rw [hprepared.instanceId] at hdeletes
  exact ⟨hnamed, hdeletes⟩

theorem instanceToDelete_seeks (hseeks : machine.Seeks early) (state : Machine) :
    (instanceToDelete machine state).Ensures (.recording _) (fun _ _ seen => machine.Seeks seen)
      early := by
  unfold instanceToDelete
  rcases machine.instanceId with _ | id
  · simp only [Action.ensures_bind, Body.ensures_call]
    rintro ending _ rfl
    have hlooked := hseeks.looked ending
    rcases ending with (error | _ | found) | _ | text
    all_goals exact hlooked
  · exact hseeks

theorem dispose_seeks (hseeks : machine.Seeks early)
    (hquiet : ∀ exchange ∈ early, ¬exchange.AsksDeletion) :
    (dispose machine machine).Ensures (.recording _) (fun _ _ seen => machine.Seeks seen)
      early := by
  have hfinish {seen : List OfMachine} (state : Machine) (hthis : machine.Seeks seen) :
      ((do
        modify (Managed.machine.removeFinalizer ·)
        Body.publish (.finalizerRemoved Kind.machine.name machine.metadata.nameAny)
        return .none : Pass Requeue) state).Ensures (.recording _)
          (fun _ _ seen => machine.Seeks seen) seen := by
    have hasks : Step.Asks (About [.event]) (do
        modify (Managed.machine.removeFinalizer ·)
        Body.publish (.finalizerRemoved Kind.machine.name machine.metadata.nameAny)
        return .none : Pass Requeue) :=
      (Step.Asks.modify _).bind fun _ => (Step.Asks.publish fun _ => by simp).bind fun _ =>
        Step.Asks.pure _
    exact hthis.followed hasks (by decide) (by decide) state
  unfold dispose
  rw [Action.ensures_bind]
  apply ((instanceToDelete_chooses machine machine early hquiet).and
    (instanceToDelete_seeks hseeks machine)).mono
  rintro after outcome asked ⟨⟨rfl, -, hchosen, -⟩, hasked⟩
  rcases outcome with (error | _ | id) | _ | text
  · exact hasked
  · exact hfinish after hasked
  · rw [Outcome.follow_ok]
    dsimp only
    rw [Action.ensures_bind, Body.ensures_remove]
    rintro ending _ rfl
    have hdeleted : after.Seeks (asked ++ [⟨.cloud (.deleteInstance id), ending⟩]) := by
      refine hasked.append (by simp) fun exchange hmem deleted hquestion => ?_
      rw [List.mem_singleton.mp hmem] at hquestion
      obtain rfl : id = deleted := by simpa using hquestion
      exact hchosen id rfl
    rcases ending.removal ("deleting instance " ++ id) with (error | _) | _ | text
    · exact hdeleted
    · exact hfinish after hdeleted
    · exact hdeleted
    · exact hdeleted
  · exact hasked
  · exact hasked

theorem reconcileDelete_seeks (surroundings : Surroundings) (machine : Machine) :
    (reconcileDelete surroundings machine).Ensures (.recording _)
      (fun _ _ seen => machine.Seeks seen) [] := by
  rw [reconcileDelete_eq]
  simp only [Action.ensures_bind, Action.ensures_get, Outcome.follow_ok]
  split
  · exact seeks_nil machine
  · split
    · exact seeks_nil machine
    · rw [Action.ensures_bind]
      have hstays := (faithful_deregister surroundings machine).stays (.recording _) machine []
      have hquiet := quiet_of_asks (asks_deregister surroundings machine)
        (by decide : Topic.deletion ∉ _) machine []
      have hseeks := (seeks_nil machine).followed (asks_deregister surroundings machine) (by decide)
        (by decide) machine
      apply (hstays.and (hquiet.and hseeks)).mono
      rintro _ ((error | _) | _ | text) seen ⟨rfl, ⟨_, rfl, hquiet⟩, hseeks⟩
      · exact hseeks
      · exact dispose_seeks hseeks hquiet
      · exact hseeks
      · exact hseeks

end Machine

namespace Program

variable {I : Interface} {σ α W : Type}

/-- What all answers of a world satisfy, the exchanges of every run do. -/
theorem forall_exchanges {holds : Exchange I → Prop}
    (answer : (question : I.Question) → W → Outcome (I.Answer question) × W)
    (hanswer : ∀ question world, holds ⟨question, (answer question world).1⟩)
    (program : Program I σ α) (world : W) :
    ∀ exchange ∈ program.exchanges answer world, holds exchange := by
  have hensures : program.Ensures (.noting holds)
      (fun _ _ seen => ∀ exchange ∈ seen, holds exchange) [] := by
    refine program.ensures_of_preserved ?_ (by simp)
    rintro question ending before after ⟨hended, hafter⟩ hbefore exchange hmem
    rw [hafter] at hmem
    rcases List.mem_append.mp hmem with hearlier | hlast
    · exact hbefore exchange hearlier
    · rw [List.mem_singleton.mp hlast]
      exact hended
  exact hensures.exchanges_noting answer hanswer world

end Program

/-- The pass takes no instance for its machine's by name that has another name. -/
structure Visit.GoesByName (visit : Visit .machine) : Prop where
  found : ∀ called found,
    ⟨.cloud (.getInstanceByName called), .returned (.ok (some found))⟩ ∈ visit.exchanges →
    called = Machine.instanceName visit.object ∧ found.name = Machine.instanceName visit.object
  adopted : ∀ id, (Object.standing visit.left.object).instanceId = some id →
    (Object.standing visit.object).instanceId = some id ∨
      ∃ exchange ∈ visit.exchanges, ∃ found, exchange.Observes found ∧ found.id = id ∧
        ∀ called, exchange.question = .cloud (.getInstanceByName called) →
          found.name = Machine.instanceName visit.object
  deleted : ∀ exchange ∈ visit.exchanges, ∀ id, exchange.question = .cloud (.deleteInstance id) →
    Machine.instanceId visit.object = some id ∨
      ∃ found : Instance, found.id = id ∧ found.name = Machine.instanceName visit.object ∧
        ⟨.cloud (.getInstanceByName found.name), .returned (.ok (some found))⟩ ∈ visit.exchanges

namespace World

variable {W : Type}

/-- What a look-up by name finds in a region was found at a provider that goes by the exact name. -/
def ListsByName (world : World W) (region : Option String) : Prop :=
  ∀ deadline name w found,
    (world.outside .machine region deadline (.cloud (.getInstanceByName name)) w).1 =
      .returned (.ok (some found)) →
    ∃ (V : Type) (provider : Http.Provider) (pages : Nat) (token : Option Http.Token)
      (answer : (question : Http.Question) → V → Outcome question.Answer × V) (v : V),
      Http.Plain (provider.vpcBase region) ∧ Http.FiltersByName answer ∧
        ((provider.vpc pages region (.getInstanceByName name) token).run (I := Http.network)
          answer v).1.2 = .returned (.ok (some found))

variable {world : World W} {settings : Settings} {«namespace» name : String} {w after : W}
variable {visit : Visit .machine}

theorem Stages.forall_exchanges {managed : Managed} {visit : Visit managed}
    (stages : world.Stages settings «namespace» name w visit after)
    {holds : Exchange (Reconciler.outside managed) → Prop}
    (hanswer : ∀ deadline question w,
      holds ⟨question, (world.outside managed visit.opened.target deadline question w).1⟩) :
    ∀ exchange ∈ visit.exchanges, holds exchange := by
  rw [← stages.runs.1]
  exact Program.forall_exchanges _ (hanswer _) _ _

theorem Stages.seeks (stages : world.Stages settings «namespace» name w visit after) :
    Machine.Seeks visit.object visit.exchanges := by
  have hbody (now : Time.Instant) : (Managed.machine.body ⟨visit.opened.cluster, settings, now⟩
      visit.object visit.object).Ensures (.recording _)
        (fun _ _ seen => Machine.Seeks visit.object seen) [] := by
    rcases hdeleting : visit.object.metadata.isDeleting with _ | _
    · rw [Managed.body_of_normal _ hdeleting]
      exact Machine.reconcileNormal_seeks _ visit.object
    · rw [Managed.body_of_deleting _ hdeleting]
      exact Machine.reconcileDelete_seeks _ visit.object
  exact stages.of_recording hbody

/-- What a pass finds by name at a provider that goes by the exact name has a literal name. -/
theorem Stages.named_of_found (stages : world.Stages settings «namespace» name w visit after)
    (hlists : world.ListsByName visit.opened.target) {called : String} {found : Instance}
    (hliteral : Http.Literal called)
    (hfound : ⟨.cloud (.getInstanceByName called), .returned (.ok (some found))⟩ ∈
      visit.exchanges) : found.name = called := by
  have hnamed : ∀ exchange ∈ visit.exchanges, ∀ found : Instance,
      exchange = ⟨.cloud (.getInstanceByName called), .returned (.ok (some found))⟩ →
        found.name = called := by
    refine stages.forall_exchanges fun deadline question w found heq => ?_
    obtain ⟨rfl, hended⟩ := Exchange.mk.inj heq
    obtain ⟨V, provider, pages, token, answer, v, hbase, hfilters, hran⟩ :=
      hlists deadline called w found (eq_of_heq hended)
    exact Http.getInstanceByName_of_filters hfilters hbase hliteral hran
  exact hnamed _ hfound found rfl

/-- What a pass leaves on record was on record before, or one of its calls came back with it. -/
theorem Stages.observed_of_recorded (stages : world.Stages settings «namespace» name w visit after)
    {id : String} (hrecorded : (Object.standing visit.left.object).instanceId = some id) :
    (Object.standing visit.object).instanceId = some id ∨
      ∃ found, Observed found visit.exchanges ∧ found.id = id := by
  rcases hdeleting : visit.object.metadata.isDeleting with _ | _
  · obtain ⟨known, -, hsame | ⟨found, hobserved, hafter, -⟩⟩ := stages.names hdeleting
    · exact .inl ((Prod.mk.inj hsame).2.symm.trans hrecorded)
    · rw [Machine.naming_noted] at hafter
      have hfound := (Prod.mk.inj hafter).2.symm.trans hrecorded
      exact .inr ⟨found, hobserved, Option.some.inj hfound⟩
  · rw [Object.standing, stages.status_of_deleting hdeleting] at hrecorded
    exact .inl hrecorded

theorem Stages.goesByName (stages : world.Stages settings «namespace» name w visit after)
    (hlists : world.ListsByName visit.opened.target)
    (hliteral : Http.Literal (Machine.instanceName visit.object)) : visit.GoesByName := by
  have hfound {found : Instance}
      (hmem : ⟨.cloud (.getInstanceByName (Machine.instanceName visit.object)),
        .returned (.ok (some found))⟩ ∈ visit.exchanges) :
      found.name = Machine.instanceName visit.object :=
    stages.named_of_found hlists hliteral hmem
  refine ⟨?found, ?adopted, ?deleted⟩
  case found =>
    intro called found hmem
    obtain rfl := stages.seeks.named _ hmem called rfl
    exact ⟨rfl, hfound hmem⟩
  case adopted =>
    intro id hrecorded
    refine (stages.observed_of_recorded hrecorded).imp_right ?_
    rintro ⟨found, ⟨⟨question, ending⟩, hmem, hobserves⟩, hid⟩
    refine ⟨_, hmem, found, hobserves, hid, ?_⟩
    rintro called rfl
    obtain rfl := stages.seeks.named _ hmem called rfl
    obtain rfl : ending = .returned (.ok (some found)) := hobserves
    exact hfound hmem
  case deleted =>
    intro exchange hmem id hquestion
    refine (stages.seeks.deletes exchange hmem id hquestion).imp_right ?_
    rintro ⟨-, found, hid, hlooked⟩
    have hname := hfound hlooked
    exact ⟨found, hid, hname, hname.symm ▸ hlooked⟩

end World

namespace Http

/-- A provider with one instance, which goes by the exact name. -/
def strict : (question : Question) → Unit → Outcome question.Answer × Unit
  | .now, _ => (.returned 0, ())
  | .later seconds, _ => (.returned (seconds * 1000), ())
  | .send request, _ =>
    let listed := if (formFields request.url).bind (·.lookup "name") = some "node" then
        "\x7b\"id\": \"vsi-1\", \"name\": \"node\", \"status\": \"running\"\x7d"
      else ""
    (.returned (some ⟨200, "\x7b\"instances\": [" ++ listed ++ "]\x7d"⟩), ())

theorem strict_filtersByName : FiltersByName strict := by
  intro request response _ fields name instances hanswer hfields hlookup hread found hmem
  have haccepted (url body : String) :
      accepted .get url ⟨200, body⟩ >>= decoded readInstances = decoded readInstances ⟨200, body⟩ :=
    rfl
  have hresponse := Option.some.inj (Outcome.returned.inj hanswer)
  rw [hfields, Option.bind_some, hlookup] at hresponse
  rw [← hresponse, haccepted] at hread
  by_cases hname : name = "node"
  · rw [if_pos (congrArg some hname)] at hread
    have hlisted : instances = [⟨"vsi-1", "node", none, .running, none, []⟩] :=
      (Except.ok.inj (hread.symm.trans (by decide +kernel)))
    rw [hlisted, List.mem_singleton] at hmem
    rw [hmem, hname]
  · rw [if_neg fun heq => hname (Option.some.inj heq)] at hread
    have hlisted : instances = [] := (Except.ok.inj (hread.symm.trans (by decide +kernel)))
    simp [hlisted] at hmem

end Http

namespace Stand

/-- The instance that is there. -/
def held : Instance := ⟨"vsi-1", "node", none, .running, none, []⟩

/-- The instance is found by its name, and by that name with a number sign after it. -/
theorem strict_finds {name : String} (hname : name = "node" ∨ name = "node#blue") :
    ((Http.usSouth.vpc 5 (some "region") (.getInstanceByName name) (some ⟨"token", 60000⟩)).run
      (I := Http.network) Http.strict ()).1.2 = .returned (.ok (some held)) := by
  have hurl : Http.versioned (Http.usSouth.vpcBase (some "region")) ("/instances?name=" ++ name) =
      "https://region.iaas.cloud.ibm.com/v1/instances?name=" ++ name ++
        "&version=2024-11-12&generation=2" := by
    rcases hname with rfl | rfl <;>
      exact String.toList_inj.mp (by rw [Http.toList_versioned]; decide +kernel)
  unfold Http.Provider.vpc
  dsimp only
  rw [hurl]
  rcases hname with rfl | rfl <;> decide +kernel

/-- The instance can be found and deleted. -/
def strict : World (Stand Unit) :=
  world (fun _ => 0) fun _ question _ => match question with
    | .cloud (.getInstanceByName name) =>
      (.returned (.ok (if name = "node" ∨ name = "node#blue" then some held else none)), ())
    | .cloud (.deleteInstance _) => (.returned (.ok ()), ())
    | .publish .. => (.returned (.ok ()), ())
    | _ => (.expired, ())

theorem strict_listsByName : strict.ListsByName (some "region") := by
  intro deadline name w found hfound
  have hbase : Http.Plain (Http.usSouth.vpcBase (some "region")) := by decide +kernel
  have hanswer := Except.ok.inj (Outcome.returned.inj hfound)
  obtain ⟨hname, hheld⟩ := Option.ite_none_right_eq_some.mp hanswer
  rw [← Option.some.inj hheld]
  exact ⟨Unit, Http.usSouth, 5, some ⟨"token", 60000⟩, Http.strict, (), hbase,
    Http.strict_filtersByName, strict_finds hname⟩

/-- The stand with a machine that asks for this name, is being deleted and has nothing on record. -/
def parting (called : Option String) : Stand Unit :=
  (holding { machine [] with spec := { (machine []).spec with name := called } } ⟨rfl, rfl⟩
    ()).delete

end Stand

namespace World

/-- A search for a name asks for that very name exactly if the name is literal.  A pass over a
machine of a literal name then takes no instance by name that has another one, neither to have it on
record nor to delete it, if its provider goes by the exact name. -/
theorem searches_faithful_iff (sought : String) :
    (∀ {V : Type} (provider : Http.Provider) (pages : Nat) (region : Option String)
      (call : VpcCall) (token : Option Http.Token)
      (answer : (question : Http.Question) → V → Outcome question.Answer × V) (v : V)
      (collection : String), Http.Plain (provider.vpcBase region) →
      call.sought = some (collection, sought) →
      let sent := Http.dispatches
        ((provider.vpc pages region call token).exchanges (I := Http.network) answer v)
      (∀ dispatch ∈ sent.head?,
          Http.formFields dispatch.url = some (Http.searchFields sought)) ↔
        sent = [] ∨ Http.Literal sought) ∧
    ∀ {W : Type} (world : World W) (settings : Settings) («namespace» name : String) (w after : W)
      (visit : Visit .machine),
      world.visit .machine settings «namespace» name w = (some visit, after) →
      world.ListsByName visit.opened.target → Machine.instanceName visit.object = sought →
      Http.Literal sought → visit.GoesByName := by
  constructor
  · intro V provider pages region call token answer v collection hbase hsought sent
    have hcollection := VpcCall.plain_of_sought hsought
    have hbegins : Http.BeginsAt (Http.versioned (provider.vpcBase region)
        (Http.searchPath collection sought)) sent :=
      Http.ensures_dispatches (Http.vpc_beginsAt provider pages region hsought token) answer v
    have hiff := Http.formFields_search_iff hbase hcollection sought
    rcases sent with _ | ⟨first, rest⟩
    · simp
    · have hurl := hbegins first rfl
      simp [hurl, hiff]
  · rintro W world settings «namespace» name w after visit hvisit hlists rfl hliteral
    obtain ⟨stages⟩ := stages_of_visit hvisit
    exact stages.goesByName hlists hliteral

theorem searches_faithful_of_node : ∃ visit after,
    Stand.strict.visit .machine {} "default" "node" (Stand.parting none) = (some visit, after) ∧
    visit.GoesByName ∧
    (∃ exchange ∈ visit.exchanges, exchange.question = .cloud (.deleteInstance "vsi-1")) ∧
    ∀ dispatch ∈ (Http.dispatches
      ((Http.usSouth.vpc 5 (some "region") (.getInstanceByName "node")
        (some ⟨"token", 60000⟩)).exchanges (I := Http.network) Http.strict ())).head?,
      Http.formFields dispatch.url = some (Http.searchFields "node") := by
  obtain ⟨visit, hvisit, htarget, hliteral, hdeletes⟩ : ∃ visit,
      Stand.strict.visit .machine {} "default" "node" (Stand.parting none) = (some visit, _) ∧
      visit.opened.target = some "region" ∧ Http.Literal (Machine.instanceName visit.object) ∧
      visit.exchanges.any (·.deletes "vsi-1") = true :=
    Stand.exists_visit (by decide +kernel)
  have hlists : Stand.strict.ListsByName visit.opened.target := by
    rw [htarget]
    exact Stand.strict_listsByName
  obtain ⟨exchange, hmem, hdeletes⟩ := List.any_eq_true.mp hdeletes
  refine ⟨visit, _, hvisit,
    (searches_faithful_iff _).2 _ _ _ _ _ _ _ hvisit hlists rfl hliteral,
    ⟨exchange, hmem, exchange.question_of_deletes hdeletes⟩, ?_⟩
  exact ((searches_faithful_iff "node").1 Http.usSouth 5 (some "region")
    (.getInstanceByName "node") (some ⟨"token", 60000⟩) Http.strict () "/instances"
    (by decide +kernel) rfl).mpr (.inr (by decide +kernel))

/-- A number sign in a machine's name ends the search before it: the pass deletes the instance that
has the name up to there. -/
theorem other_instance_deleted : ∃ visit after,
    Stand.strict.visit .machine {} "default" "node" (Stand.parting (some "node#blue")) =
      (some visit, after) ∧
    Stand.strict.ListsByName visit.opened.target ∧
    Machine.instanceName visit.object = "node#blue" ∧
    (∃ exchange ∈ visit.exchanges, exchange.question = .cloud (.deleteInstance "vsi-1")) ∧
    (∃ found : Instance, found.id = "vsi-1" ∧ found.name = "node" ∧
      ⟨.cloud (.getInstanceByName "node#blue"), .returned (.ok (some found))⟩ ∈ visit.exchanges) ∧
    ¬visit.GoesByName := by
  obtain ⟨visit, hvisit, htarget, hname, hdeletes, hfound⟩ : ∃ visit,
      Stand.strict.visit .machine {} "default" "node" (Stand.parting (some "node#blue")) =
        (some visit, _) ∧
      visit.opened.target = some "region" ∧ Machine.instanceName visit.object = "node#blue" ∧
      visit.exchanges.any (·.deletes "vsi-1") = true ∧
      visit.exchanges.any (·.findsByName "node#blue" Stand.held) = true :=
    Stand.exists_visit (by decide +kernel)
  have hlists : Stand.strict.ListsByName visit.opened.target := by
    rw [htarget]
    exact Stand.strict_listsByName
  obtain ⟨exchange, hmem, hdeletes⟩ := List.any_eq_true.mp hdeletes
  obtain ⟨looked, hlooked, hfinds⟩ := List.any_eq_true.mp hfound
  obtain rfl := Exchange.eq_of_findsByName hfinds
  refine ⟨visit, _, hvisit, hlists, hname,
    ⟨exchange, hmem, exchange.question_of_deletes hdeletes⟩, ⟨_, rfl, rfl, hlooked⟩, ?_⟩
  intro hgoes
  have hnamed := (hgoes.found _ _ hlooked).2
  rw [hname] at hnamed
  exact absurd hnamed (by decide)

end World

end Reconciler
