import Reconciler.Proofs.ForeignUpdates
import Reconciler.Proofs.QuietImage
import Reconciler.Proofs.QuietMachine
import Reconciler.Proofs.Stand

/-!
# Quiescence

A normal pass that changes nothing at the provider has nothing left to do.  While nobody else writes
and everything that is asked ends as before, the next pass leaves the object alone, writes nothing
when its scope is closed, and answers the same.
-/

namespace Reconciler

open Step (Calms Settled)

namespace Scope

variable {managed : Managed} {scope : Scope managed}

theorem persist_of_unchanged (hunchanged : scope.object = scope.stored) :
    (persist : Action (access managed) Error (Scope managed) Unit) scope =
      .done scope (.ok ()) := by
  have hmetadata : scope.metadataChanged = false := by simp [metadataChanged, hunchanged]
  have hstatus : (scope.released || scope.object.status == scope.stored.status) = true := by
    simp [hunchanged]
  rw [persist_eq]
  change (if scope.metadataChanged then _ else persistStatus :
    Action (access managed) Error (Scope managed) Unit) scope = _
  rw [hmetadata]
  change (if (scope.released || scope.object.status == scope.stored.status) then pure () else _ :
    Action (access managed) Error (Scope managed) Unit) scope = _
  rw [hstatus]
  rfl

/-- With nothing changed, closing a scope asks the API server nothing. -/
theorem close_of_unchanged (hunchanged : scope.object = scope.stored) (retries : Nat) :
    close retries scope = .done scope (.ok ()) := by
  have hattempt : (Action.attempt persist : Action (access managed) Error (Scope managed) _) scope =
      .done scope (.ok (.ok ())) := by
    unfold Action.attempt
    rw [persist_of_unchanged hunchanged]
    rfl
  unfold close
  cases retries <;>
  · change (Action.attempt persist scope).bind _ = _
    rw [hattempt]
    rfl

end Scope

namespace Managed

variable {managed : Managed}

theorem body_congr {object later : managed.Resource} (surroundings : Surroundings managed)
    (hdeleting : later.metadata.isDeleting = object.metadata.isDeleting) :
    managed.body surroundings later = managed.body surroundings object := by
  cases managed with
  | machine => simp only [body, hdeleting]
  | image => simp only [body, hdeleting]

/-- The calls for an object that comes back go where they went. -/
theorem Returned.target {left later : managed.Resource} (hreturned : managed.Returned left later)
    (cluster : Option managed.Cluster) :
    managed.targetOf later cluster = managed.targetOf left cluster := by
  have hspec : later.spec = left.spec := (congrArg (fun part => part.spec) hreturned.read :)
  cases managed with
  | machine => simp only [targetOf, Machine.target, Machine.region, hreturned.status]
  | image => simp only [targetOf, Image.target, hreturned.status, hspec]

variable {object : managed.Resource} (hnormal : object.metadata.isDeleting = false)
include hnormal

theorem normal_target (cluster : managed.Cluster) (settings : Settings) (now : Time.Instant) :
    (managed.body ⟨some cluster, settings, now⟩ object object).Ensures (.anything _)
      (fun after _ _ =>
        managed.targetOf after (some cluster) = managed.targetOf object (some cluster)) () := by
  cases managed with
  | machine =>
      simp only [body, hnormal, Bool.false_eq_true, if_false]
      exact Machine.reconcileNormal_target cluster settings now object
  | image =>
      simp only [body, hnormal, Bool.false_eq_true, if_false]
      exact Image.reconcileNormal_target cluster settings now object

theorem normal_calms {reads : Reads managed} (hcoherent : reads.Coherent) (settings : Settings)
    {cluster : managed.Cluster} {owner : OwnerReference}
    (hfinalizer : managed.hasFinalizer object = true)
    (hreference : managed.clusterReference cluster = .ok owner)
    (howner : hasOwner object.metadata.owners owner = true) :
    Calms reads (fun now => managed.body ⟨some cluster, settings, now⟩ object) object := by
  cases managed with
  | machine =>
      simp only [body, hnormal, Bool.false_eq_true, if_false]
      exact Machine.reconcileNormal_calms hcoherent settings hfinalizer hreference howner
  | image =>
      simp only [body, hnormal, Bool.false_eq_true, if_false]
      exact Image.reconcileNormal_calms settings hfinalizer hreference howner

end Managed

/-- Where only some exchanges take place, everything that is asked is such. -/
theorem Environment.Along.such {I : Interface} {allowed : Exchange I → Prop} {before after : Unit}
    {exchanges : List (Exchange I)}
    (halong : (Environment.such allowed).Along before exchanges after) :
    ∀ exchange ∈ exchanges, allowed exchange := by
  induction halong with
  | nothing => simp
  | asked hasked _ ih => exact List.forall_mem_cons.mpr ⟨hasked, ih⟩

namespace World

variable {W : Type} {managed : Managed} {«namespace» name : String} {world : World W}
variable {view : W → Timeline managed «namespace» name} {others : Conduct managed}
variable {settings : Settings} {w after later last : W} {first second : Visit managed}

/-- What a pass leaves comes back to the next one. -/
theorem returned_of_visits (hserves : world.Serves view others) (hkeeps : others.Keeps managed.seen)
    (hfirst : world.visit managed settings «namespace» name w = (some first, after))
    (hclosed : first.closed = .ok ()) (hbetween : Timeline.Drifts others (view after) (view later))
    (hsecond : world.visit managed settings «namespace» name later = (some second, last)) :
    managed.Returned first.left.object second.object := by
  obtain ⟨opening⟩ := stages_of_visit hfirst
  obtain ⟨closing⟩ := stages_of_visit hsecond
  obtain ⟨asked, hasked, hcurrent, -⟩ := hserves.drifts_of_stages closing
  obtain ⟨stored, hstored, hseen⟩ :=
    Timeline.Drifts.part_eq hkeeps (hbetween.trans hasked) hcurrent
  refine Managed.returned_of_seen (hseen.trans ?_)
  obtain ⟨hmarks, hstatus⟩ :=
    closed_of_visit hserves hfirst (hkeeps.comp Prod.snd) hclosed hstored
  have hread : others.Keeps managed.readPart := hkeeps.comp Prod.fst
  have hsettles := hserves.settles_of_visit (Scope.kept_wants_foreign Managed.readPart_congr hread
    (managed.readPart first.left.object)) hfirst fun asked ready _ hcurrent hready => by
      rw [← opening.stored_eq] at hcurrent
      exact .start hread hcurrent hready
  obtain ⟨⟨htracks, hwants⟩, -⟩ := hsettles.done (by rw [hclosed])
  have hforeign : managed.readPart stored = managed.readPart first.left.object :=
    calc
      managed.readPart stored = managed.readPart first.final.stored := hwants.current hstored
      _ = managed.readPart first.final.object := (Managed.readPart_congr htracks.foreign).symm
      _ = managed.readPart first.left.object := hwants.object
  simp only [Managed.seen, hforeign, hmarks, hstatus]

namespace Stages

variable {visit : Visit managed} {cluster : managed.Cluster}
variable (stages : world.Stages settings «namespace» name w visit after) (hnormal : visit.Normal)
variable (hcluster : visit.opened.cluster = some cluster)
include stages hnormal hcluster

/-- A normal pass does not change where its calls go. -/
theorem target_of_normal :
    managed.targetOf visit.left.object (some cluster) = visit.opened.target := by
  have hkept (now : Time.Instant) :
      (managed.body ⟨visit.opened.cluster, settings, now⟩ visit.object visit.object).Ensures
        (.anything _) (fun left _ _ => managed.targetOf left (some cluster) =
          managed.targetOf visit.object (some cluster)) () := by
    rw [hcluster]
    exact Managed.normal_target hnormal cluster settings now
  rw [stages.of_anything hkept, stages.opened_eq, hcluster]

/-- A normal pass over an object that carries its marks settles what it leaves, unless it changes
something at the provider. -/
theorem settled_of_normal {reads : Reads managed} (hcoherent : reads.Coherent)
    {owner : OwnerReference} (hfinalizer : managed.hasFinalizer visit.object = true)
    (hreference : managed.clusterReference cluster = .ok owner)
    (howner : hasOwner visit.object.metadata.owners owner = true)
    (hquiet : ∀ exchange ∈ visit.exchanges, ¬exchange.Mutates ∧ exchange.Follows reads) :
    Settled reads visit.ending
      (fun now => managed.body ⟨some cluster, settings, now⟩ visit.object) visit.left.object := by
  refine stages.of_such (fun left ended => Settled _ ended _ left) (fun now => ?_) hquiet
  rw [hcluster]
  exact Managed.normal_calms hnormal hcoherent settings hfinalizer hreference howner now

end Stages

theorem Surrounds.such_of_stages {target : managed.Target} {change : Unit → Unit → Prop}
    {allowed : Exchange (Reconciler.outside managed) → Prop} {visit : Visit managed}
    (hsurrounds : world.Surrounds target (fun _ => ()) (.such allowed) change)
    (stages : world.Stages settings «namespace» name w visit after)
    (htarget : visit.opened.target = target) : ∀ exchange ∈ visit.exchanges, allowed exchange := by
  obtain ⟨_, _, -, hacts, -⟩ := hsurrounds.acts_of_stages stages htarget
  exact hacts.along.such

/-- If a normal pass over an object that carries its marks changed nothing at the provider and
closed its scope, and other writers keep their hands off all that bodies read, then the next pass
writes nothing and answers the same, as long as everything that either pass asks ends the same way
in both. -/
theorem quiescent (hserves : world.Serves view others) (hkeeps : others.Keeps managed.seen)
    (hfirst : world.visit managed settings «namespace» name w = (some first, after))
    (hbetween : Timeline.Drifts others (view after) (view later))
    (hsecond : world.visit managed settings «namespace» name later = (some second, last))
    (hnormal : first.Normal) (hfinalizer : managed.hasFinalizer first.object = true)
    {cluster : managed.Cluster} (hcluster : first.opened.cluster = some cluster)
    (hsame : second.opened.cluster = some cluster) {owner : OwnerReference}
    (hreference : managed.clusterReference cluster = .ok owner)
    (howner : hasOwner first.object.metadata.owners owner = true)
    (hclosed : first.closed = .ok ()) (reads : managed.Target → Reads managed)
    (hcoherent : ∀ target, (reads target).Coherent)
    (hquiet : ∀ exchange ∈ first.exchanges,
      ¬exchange.Mutates ∧ exchange.Follows (reads first.opened.target))
    (hsteady : ∀ exchange ∈ second.exchanges,
      ¬exchange.Mutates → exchange.Follows (reads second.opened.target)) :
    Scope.close settings.closeRetries second.left = .done second.left (.ok ()) ∧
      Timeline.Drifts others (view later) (view last) ∧
      (world.pass managed settings «namespace» name later).1 =
        (world.pass managed settings «namespace» name w).1 := by
  obtain ⟨opening⟩ := stages_of_visit hfirst
  obtain ⟨closing⟩ := stages_of_visit hsecond
  have hreturned := returned_of_visits hserves hkeeps hfirst hclosed hbetween hsecond
  have hdeleting : second.object.metadata.isDeleting = first.object.metadata.isDeleting :=
    congrArg (fun part => part.metadata.isDeleting)
      (hreturned.read.trans (Managed.readPart_congr opening.edits.foreign))
  have hsettled := opening.settled_of_normal hnormal hcluster (hcoherent _) hfinalizer hreference
    howner hquiet
  have htarget : second.opened.target = first.opened.target :=
    calc
      second.opened.target = managed.targetOf second.object (some cluster) := by
        rw [closing.opened_eq, hsame]
      _ = managed.targetOf first.left.object (some cluster) := hreturned.target _
      _ = first.opened.target := opening.target_of_normal hnormal hcluster
  have hleft : second.left.object = second.object ∧ second.ending = first.ending := by
    refine closing.of_such (fun left ended => left = second.object ∧ ended = first.ending)
      (fun now => ?_) hsteady
    rw [hsame, htarget, Managed.body_congr _ hdeleting]
    exact hsettled second.object hreturned now
  have hclose : Scope.close settings.closeRetries second.left = .done second.left (.ok ()) :=
    Scope.close_of_unchanged (hleft.1.trans closing.stored_eq.symm) _
  obtain ⟨_, hasked, -, ready, hready, hclosing⟩ := hserves.drifts_of_stages closing
  have hended : ((second.left, .ok ()), ready) = ((second.final, second.closed), last) := by
    rw [← hclosing, closeScope, hclose]
    rfl
  simp only [Prod.mk.injEq] at hended
  obtain ⟨⟨-, hanswer⟩, rfl⟩ := hended
  refine ⟨hclose, hasked.trans hready, ?_⟩
  rw [pass_eq_answer hfirst, pass_eq_answer hsecond]
  simp only [Visit.answer, hclosed, ← hanswer, hleft.2]

end World

namespace Stand

/-- What a provider answers that holds the instance of the machine and its member in the pool. -/
def answer : (question : BodyQuestion .machine) → question.Answer
  | .cloud (.getInstance id) => .ok (if id = "vsi" then some inPool else none)
  | .cloud (.getInstanceByName name) => .ok (if name = "node" then some inPool else none)
  | .cloud (.getLoadBalancer _) => .ok (some ⟨"lb", "lb", .active, [⟨"pool", "pool"⟩]⟩)
  | .cloud (.listMembers ..) => .ok [⟨"member", "10.0.0.5", 6443, .active⟩]
  | .cloud _ => .error (.unexpected "read only")
  | .secret .. => .ok none
  | .publish .. => .ok ()
where
  inPool : Instance := ⟨"vsi", "node", none, .running, "10.0.0.5", []⟩

/-- How questions end that are answered at all. -/
def reads : Reads .machine where
  cloud call := .returned (answer (.cloud call))
  secret «namespace» name := .returned (answer (.secret «namespace» name))
  published _ := .returned ()

theorem coherent_reads : reads.Coherent := by
  have hfound {asked wanted : String} {found : Instance}
      (hanswer : (if asked = wanted then some answer.inPool else none) = some found) :
      asked = wanted ∧ found = answer.inPool := by
    split at hanswer
    · exact ⟨by assumption, (Option.some.inj hanswer).symm⟩
    · simp at hanswer
  constructor
  · intro id found hanswer
    obtain ⟨rfl, rfl⟩ := hfound (Except.ok.inj (Outcome.returned.inj hanswer))
    rfl
  · intro name found hanswer
    obtain ⟨-, rfl⟩ := hfound (Except.ok.inj (Outcome.returned.inj hanswer))
    rfl

/-- The provider that answers at once. -/
def prompt : World (Stand Unit) :=
  world (fun _ => 0) fun _ question state => (.returned (answer question), state)

/-- How many milliseconds the provider takes for an answer, if it takes its time. -/
def cost : BodyQuestion .machine → Nat
  | .cloud (.getInstanceByName _) => 200000
  | .cloud (.getInstance _) => 100000
  | .cloud (.getLoadBalancer _) => 60000
  | .cloud (.listMembers ..) => 60000
  | _ => 0

/-- The provider that takes its time. -/
def slow : World (Stand Nat) :=
  world id fun deadline question now =>
    let answered := now + cost question
    match deadline with
    | none => (.returned (answer question), answered)
    | some limit =>
      if answered ≤ limit then (.returned (answer question), answered) else (.expired, limit)

/-- The pass works for the cluster, which owns its object, and closes its scope. -/
abbrev Marked (visit : Visit .machine) : Prop :=
  visit.opened.target = some "region" ∧ visit.opened.cluster = some cluster ∧
    hasOwner visit.object.metadata.owners clusterOwner = true ∧ visit.closed = .ok ()
where
  clusterOwner : OwnerReference :=
    { apiVersion := Kind.vpcCluster.apiVersion, kind := Kind.vpcCluster.name,
      name := "cluster", uid := "cluster-uid" }

end Stand

namespace World

open Stand (prompt slow memberships Marked)

/-- A pass that found the instance has recorded it, and the next pass has nothing to write. -/
theorem quiescent_registered : ∃ first second after last,
    prompt.visit .machine {} "default" "node" (Stand.fresh memberships ()) = (some first, after) ∧
    prompt.visit .machine {} "default" "node" after = (some second, last) ∧
    first.left.object.status ≠ first.object.status ∧
    Scope.close 2 second.left = .done second.left (.ok ()) ∧
    (prompt.pass .machine {} "default" "node" after).1 =
      (prompt.pass .machine {} "default" "node" (Stand.fresh memberships ())).1 := by
  have hsurrounds : prompt.Surrounds (some "region") (fun _ => ())
      (.such fun exchange => exchange.Follows Stand.reads) fun _ _ => False :=
    Stand.surrounds _ _ (fun _ => ()) (fun _ question _ => by cases question <;> rfl) _
  obtain ⟨first, hfirst, hnormal, hfinalizer, howned, hmutates, hrecorded⟩ : ∃ visit,
      prompt.visit .machine {} "default" "node" (Stand.fresh memberships ()) = (some visit, _) ∧
      visit.object.metadata.isDeleting = false ∧ Managed.machine.hasFinalizer visit.object = true ∧
      Marked visit ∧ (∀ exchange ∈ visit.exchanges, ¬exchange.Mutates) ∧
      visit.left.object.status ≠ visit.object.status :=
    Stand.exists_visit (by decide +kernel)
  obtain ⟨second, hsecond, htarget, hcluster⟩ : ∃ visit,
      prompt.visit .machine {} "default" "node" ((Stand.fresh memberships ()).passed prompt) =
        (some visit, _) ∧
      visit.opened.target = some "region" ∧ visit.opened.cluster = some Stand.cluster :=
    Stand.exists_visit (by decide +kernel)
  obtain ⟨stages⟩ := stages_of_visit hfirst
  obtain ⟨later⟩ := stages_of_visit hsecond
  obtain ⟨hclose, -, hanswer⟩ := quiescent (Stand.serves _ _) (Conduct.nobody_keeps _) hfirst .refl
    hsecond hnormal hfinalizer howned.2.1 hcluster rfl howned.2.2.1 howned.2.2.2
    (fun _ => Stand.reads) (fun _ => Stand.coherent_reads)
    (fun exchange hmem =>
      ⟨hmutates exchange hmem, hsurrounds.such_of_stages stages howned.1 exchange hmem⟩)
    (fun exchange hmem _ => hsurrounds.such_of_stages later htarget exchange hmem)
  exact ⟨first, second, _, _, hfirst, hsecond, hrecorded, hclose, hanswer⟩

/-- Where the provider takes its time, one pass may get past a question at which another one is
stopped by its deadline. -/
theorem deadline_disquiets : ∃ first second after last,
    slow.Serves Stand.timeline (Conduct.nobody .machine) ∧ Stand.reads.Coherent ∧
    slow.visit .machine {} "default" "node" (Stand.fresh memberships 0) = (some first, after) ∧
    slow.visit .machine {} "default" "node" after = (some second, last) ∧
    first.Normal ∧ Managed.machine.hasFinalizer first.object = true ∧ Marked first ∧
    Marked second ∧
    (∀ visit ∈ [first, second], ∀ exchange ∈ visit.exchanges,
      ¬exchange.Mutates ∧ (exchange.ending = .expired ∨ exchange.Follows Stand.reads)) ∧
    second.final.stored.status ≠ second.object.status ∧
    (slow.pass .machine {} "default" "node" after).1 ≠
      (slow.pass .machine {} "default" "node" (Stand.fresh memberships 0)).1 := by
  have hsurrounds : slow.Surrounds (some "region") (fun _ => ())
      (.such fun exchange => exchange.ending = .expired ∨ exchange.Follows Stand.reads)
      fun _ _ => False := by
    refine Stand.surrounds _ _ (fun _ => ()) (fun deadline question now => ?_) _
    dsimp only
    split
    · exact .inr (by cases question <;> rfl)
    · split
      · exact .inr (by cases question <;> rfl)
      · exact .inl rfl
  obtain ⟨first, hfirst, hnormal, hfinalizer, howned, hmutates, hexpired⟩ : ∃ visit,
      slow.visit .machine {} "default" "node" (Stand.fresh memberships 0) = (some visit, _) ∧
      visit.object.metadata.isDeleting = false ∧ Managed.machine.hasFinalizer visit.object = true ∧
      Marked visit ∧ (∀ exchange ∈ visit.exchanges, ¬exchange.Mutates) ∧
      visit.answer = .error .deadlineExceeded :=
    Stand.exists_visit (by decide +kernel)
  obtain ⟨second, hsecond, howned', hmutates', hwritten, hanswered⟩ : ∃ visit,
      slow.visit .machine {} "default" "node" ((Stand.fresh memberships 0).passed slow) =
        (some visit, _) ∧
      Marked visit ∧ (∀ exchange ∈ visit.exchanges, ¬exchange.Mutates) ∧
      visit.final.stored.status ≠ visit.object.status ∧ visit.answer = .ok .none :=
    Stand.exists_visit (by decide +kernel)
  obtain ⟨stages⟩ := stages_of_visit hfirst
  obtain ⟨later⟩ := stages_of_visit hsecond
  refine ⟨first, second, _, _, Stand.serves _ _, Stand.coherent_reads, hfirst, hsecond, hnormal,
    hfinalizer, howned, howned', ?_, hwritten, ?_⟩
  · simp only [List.forall_mem_cons]
    exact ⟨fun exchange hmem =>
      ⟨hmutates exchange hmem, hsurrounds.such_of_stages stages howned.1 exchange hmem⟩,
      fun exchange hmem =>
      ⟨hmutates' exchange hmem, hsurrounds.such_of_stages later howned'.1 exchange hmem⟩, by simp⟩
  · rw [pass_eq_answer hfirst, pass_eq_answer hsecond, hexpired, hanswered]
    simp

end World

end Reconciler
