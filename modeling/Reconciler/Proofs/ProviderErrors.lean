import Reconciler.Proofs.Finalizer
import Reconciler.Proofs.Interruption
import Reconciler.Proofs.Stand
import Reconciler.Proofs.Wrappers

/-!
# What becomes of the provider's errors

An error that the provider answers a call with is the error that the pass ends with, unless the call
takes something away and the answer is that there is no such thing.  A deletion goes on over that
answer where it removes things, but not where it looks for them.
-/

namespace Reconciler

namespace Error

variable {failure : CloudError} {error : Error}

theorem Inside.cause (hinside : Inside (.cloud failure) error) : error.cause = .cloud failure := by
  induction hinside with
  | itself => rfl
  | context text _ ih => exact ih
  | requeue after _ ih => exact ih

theorem Inside.label (hinside : Inside (.cloud failure) error) : error.label = "clouderror" := by
  rw [label_eq, hinside.cause]
  exact (by decide +kernel : Text.lowercase "CloudError" = "clouderror")

theorem Inside.isNotFound (hinside : Inside (.cloud failure) error) :
    error.isNotFound = failure.isNotFound := by
  induction hinside with
  | itself => rfl
  | context text _ ih => exact ih
  | requeue after _ ih => exact ih

end Error

namespace Exchange

variable {managed : Managed} {exchange : Exchange (outside managed)}

/-- The provider call of the exchange and the error that it was answered with. -/
def failed? : Exchange (outside managed) → Option (managed.Call × CloudError)
  | ⟨.cloud call, .returned (.error failure)⟩ => some (call, failure)
  | _ => none

theorem eq_of_failed? {call : managed.Call} {failure : CloudError}
    (hfailed : exchange.failed? = some (call, failure)) :
    exchange = ⟨.cloud call, .returned (.error failure)⟩ := by
  unfold failed? at hfailed
  split at hfailed
  · cases hfailed
    rfl
  · simp at hfailed

/-- The question was answered, and a call that was answered with an error was told that there is no
such thing. -/
def MissesAtMost (exchange : Exchange (outside managed)) : Prop :=
  (∃ answer, exchange.ending = .returned answer) ∧
    ∀ call failure, exchange.failed? = some (call, failure) → failure.isNotFound = true

/-- With no other failures, an exchange went well if it did not fail or was to take something
away. -/
theorem MissesAtMost.wentWell_iff (hmisses : exchange.MissesAtMost) :
    exchange.WentWell ↔
      ∀ call failure, exchange.failed? = some (call, failure) → managed.removes call := by
  obtain ⟨hanswered, hmissing⟩ := hmisses
  rcases exchange with ⟨call | _ | _, ending⟩
  · rcases ending with (failure | reply) | _ | text
    · have hnotFound := hmissing call failure rfl
      simp [WentWell, Managed.WentWell, failed?, hnotFound]
    · simp [WentWell, Managed.WentWell, failed?]
    · simp at hanswered
    · simp at hanswered
  · simp [WentWell, failed?]
  · simp [WentWell, failed?]

end Exchange

namespace BodyQuestion

variable {managed : Managed}

/-- No call that looks for something. -/
def Disposes : BodyQuestion managed → Prop
  | .cloud call => managed.removes call
  | .secret .. => True
  | .publish .. => True

end BodyQuestion

/-- A delete pass over an image looks for nothing. -/
theorem Image.asks_reconcileDelete (surroundings : Surroundings) :
    Step.Asks BodyQuestion.Disposes (reconcileDelete surroundings) := by
  have hfinish (event : Event) : Step.Asks BodyQuestion.Disposes (do
      modify (Managed.image.removeFinalizer ·)
      Body.publish event
      return .none : Pass Requeue) :=
    (Step.Asks.modify _).bind fun _ => (Step.Asks.publish fun _ => trivial).bind fun _ =>
      Step.Asks.pure _
  have hdispose (image : Image) : Step.Asks BodyQuestion.Disposes (dispose image) := by
    unfold dispose
    dsimp only
    split
    · split
      · exact hfinish _
      · exact (Step.Asks.remove trivial).bind fun _ => hfinish _
    · split
      · exact (Step.Asks.remove trivial).bind fun _ => hfinish _
      · exact hfinish _
  rw [reconcileDelete_eq]
  apply Step.Asks.get.bind
  intro image
  split
  · exact Step.Asks.pure _
  · split
    · exact (Step.Asks.throw _).bind fun _ => hdispose image
    · exact hdispose image

namespace Visit

variable {managed : Managed} {visit : Visit managed}

/-- The error of the body is the one that the pass answers, also when closing fails. -/
theorem answer_of_error {error : Error} (hended : visit.ending = .returned (.error error)) :
    visit.answer = .error error := by
  unfold answer
  rw [hended]
  rcases visit.closed with _ | _ <;> rfl

end Visit

namespace World

variable {W : Type} {managed : Managed} {«namespace» name : String} {world : World W}
variable {settings : Settings} {w after : W} {visit : Visit managed}
variable {early late : List (Exchange (Reconciler.outside managed))}

/-- An error of the provider ends its pass, unless it is the answer to a removal that there is no
such thing: the call is the last question that the pass asks, and the pass answers an error with
this one as its cause, however closing goes.  The error asks for a pause if the call follows a job,
and for none otherwise. -/
theorem failure_surfaces {call : managed.Call} {failure : CloudError}
    (hvisit : world.visit managed settings «namespace» name w = (some visit, after))
    (hsplit : visit.exchanges = early ++ ⟨.cloud call, .returned (.error failure)⟩ :: late)
    (hcounts : ¬(managed.removes call ∧ failure.isNotFound = true)) :
    late = [] ∧ ∃ error,
      world.pass managed settings «namespace» name w = (.error error, after) ∧
      error.cause = .cloud failure ∧ error.label = "clouderror" ∧
      error.isNotFound = failure.isNotFound ∧
      error.requeueAfter = managed.pause settings call := by
  obtain ⟨stages⟩ := stages_of_visit hvisit
  obtain ⟨hexchanges, ready, hran, -⟩ := stages.runs
  have hstops : stages.program.EndsOn BodyQuestion.Fails (BodyQuestion.FailsWith settings) :=
    Managed.stops_body ⟨visit.opened.cluster, settings, world.now stages.opened⟩ visit.object
      visit.object
  obtain ⟨hlast, result, ⟨error, rfl, hrefuses, hpauses⟩, hended⟩ := hstops.last stages.answers
    stages.opened (hexchanges.trans hsplit) rfl ⟨.cloud failure, .itself, hcounts⟩
  rw [hran] at hended
  have hinside : Error.Inside (.cloud failure) error := hrefuses.1
  exact ⟨hlast, error, by rw [pass_eq_answer hvisit, Visit.answer_of_error hended], hinside.cause,
    hinside.label, hinside.isNotFound, hpauses⟩

end World

/-- A provider whose images are imported, but which does not tell how far the import is. -/
def Bench.unfollowed : World Bench :=
  world cluster (fun n question => match question with
    | .cloud (.getJob _) => .returned (.error (.auth "token expired"))
    | question => provider (fun _ => []) (.returned (.ok ())) n question) fun _ => none

/-- The pass that follows the job of the one before answers the provider's error. -/
theorem World.failure_surfaces_unfollowed : ∃ error,
    Bench.unfollowed.pass .image {} "default" "boot" (Bench.fresh.passed Bench.unfollowed) =
      (.error error, (Bench.fresh.passed Bench.unfollowed).passed Bench.unfollowed) ∧
    error.cause = .cloud (.auth "token expired") ∧ error.requeueAfter = some 120 := by
  obtain ⟨visit, hvisit, hfailed⟩ : ∃ visit,
      Bench.unfollowed.visit .image {} "default" "boot" (Bench.fresh.passed Bench.unfollowed) =
        (some visit, _) ∧
      visit.exchanges.any (fun exchange =>
        exchange.failed? == some (.getJob "job-2", .auth "token expired")) = true :=
    Bench.exists_visit (by decide +kernel)
  obtain ⟨exchange, hmem, hfailed⟩ := List.any_eq_true.mp hfailed
  obtain ⟨early, late, hsplit⟩ := List.append_of_mem hmem
  obtain rfl := Exchange.eq_of_failed? (beq_iff_eq.mp hfailed)
  obtain ⟨-, error, hpass, hcause, -, -, hpause⟩ := failure_surfaces hvisit hsplit fun hmissing =>
    nomatch hmissing.1
  exact ⟨error, hpass, hcause, hpause⟩

namespace World

variable {W : Type} {managed : Managed} {«namespace» name : String} {world : World W}
variable {w : W}

/-- What a delete pass comes to if no call fails but for want of what it is about.  It releases its
object exactly when the calls that failed were to take something away: a call that looks for
something and is told that there is no such thing keeps the finalizer, and fails the pass.  Over
images no delete pass makes such a call.  Closing stores what became of the finalizer. -/
theorem missing_released_iff {fetched : W} {object : managed.Resource}
    (hfetch : world.access managed (.fetch «namespace» name) w = (.ok (some object), fetched))
    (hdeleting : object.metadata.isDeleting = true)
    (hfinalizer : managed.hasFinalizer object = true) (settings : Settings) :
    ∃ visit after, world.visit managed settings «namespace» name w = (some visit, after) ∧
      visit.object = object ∧
      (managed.TargetKnown object visit.opened.cluster →
        (∀ exchange ∈ visit.exchanges, exchange.MissesAtMost) →
        (managed.hasFinalizer visit.left.object = false ↔
          ∀ exchange ∈ visit.exchanges, ∀ call failure,
            exchange.failed? = some (call, failure) → managed.removes call) ∧
        (managed.hasFinalizer visit.left.object = false →
          world.pass managed settings «namespace» name w =
            (visit.closed.map fun _ => .none, after)) ∧
        (managed.hasFinalizer visit.left.object = true →
          ∃ error, world.pass managed settings «namespace» name w = (.error error, after) ∧
            error.isNotFound = true) ∧
        (managed = .image → managed.hasFinalizer visit.left.object = false)) ∧
      ∀ (view : W → Timeline managed «namespace» name) others, world.Serves view others →
        others.Keeps managed.hasFinalizer → visit.closed = .ok () →
        ∀ stored, (view after).current = some stored →
          managed.hasFinalizer stored = managed.hasFinalizer visit.left.object := by
  obtain ⟨visit, after, hvisit, rfl⟩ := exists_visit_of_deleting hfetch hdeleting settings
  refine ⟨visit, after, hvisit, rfl, fun hknown hmisses => ?_, fun view others hserves hkeeps
    hclosed stored hstored => hasFinalizer_of_closed hserves hvisit hkeeps hclosed hstored⟩
  obtain ⟨stages⟩ := stages_of_visit hvisit
  have hended := stages.releasedWhen_of_deleting hdeleting hfinalizer
  have hiff : managed.hasFinalizer visit.left.object = false ↔
      ∀ exchange ∈ visit.exchanges, ∀ call failure,
        exchange.failed? = some (call, failure) → managed.removes call := by
    rw [hended.hasFinalizer_eq_false_iff hfinalizer, and_iff_right hknown]
    exact forall₂_congr fun exchange hmem => (hmisses exchange hmem).wentWell_iff
  refine ⟨hiff, fun hreleased => ?_, fun hkept => ?_, ?_⟩
  · obtain ⟨hexchanges, ready, hran, -⟩ := stages.runs
    obtain ⟨result, hresult⟩ := stages.program.exists_returned stages.answers stages.opened
      (by rw [hexchanges]; exact fun exchange hmem => (hmisses exchange hmem).1)
    obtain hresult : visit.ending = .returned result := by rwa [hran] at hresult
    rcases hended with ⟨⟨-, hdone⟩, -⟩ | ⟨hleft, -⟩
    · obtain rfl := hdone result hresult
      rw [pass_eq_answer hvisit, Visit.answer, hresult]
      rcases visit.closed with _ | _ <;> rfl
    · simp [hleft, hfinalizer] at hreleased
  · obtain ⟨exchange, hmem, call, failure, hfailed, hlooks⟩ : ∃ exchange ∈ visit.exchanges,
        ∃ call failure, exchange.failed? = some (call, failure) ∧ ¬managed.removes call := by
      by_contra hnone
      simp only [not_exists, not_and, not_not] at hnone
      simp [hiff.mpr hnone] at hkept
    have hnotFound := (hmisses exchange hmem).2 call failure hfailed
    obtain ⟨early, late, hsplit⟩ := List.append_of_mem hmem
    obtain rfl := Exchange.eq_of_failed? hfailed
    obtain ⟨-, error, hpass, -, -, hsame, -⟩ :=
      failure_surfaces hvisit hsplit fun hremoves => hlooks hremoves.1
    exact ⟨error, hpass, hsame.trans hnotFound⟩
  · rintro rfl
    have hdisposes : ∃ seen, visit.exchanges = [] ++ seen ∧
        ∀ exchange ∈ seen, exchange.question.Disposes :=
      stages.of_reconcileDelete hdeleting fun surroundings =>
        (Image.asks_reconcileDelete surroundings visit.object).recording []
    obtain ⟨_, rfl, hdisposes⟩ := hdisposes
    apply hiff.mpr
    intro exchange hmem call failure hfailed
    have hdisposed := hdisposes exchange hmem
    rwa [Exchange.eq_of_failed? hfailed] at hdisposed

end World

/-- A provider at which everything that can be removed is gone.  What it answers when the members
of a pool are listed is given. -/
def Stand.deserted (listing : Except CloudError (List PoolMember)) : World (Stand Unit) :=
  world (fun _ => 0) fun _ question _ => (match question with
    | .cloud (.getLoadBalancer id) =>
      .returned (.ok (some ⟨id, "lb", .active, [⟨"pool", "pool"⟩]⟩))
    | .cloud (.listMembers ..) => .returned listing
    | .cloud (.deleteMember ..) => .returned (.error (.notFound "member"))
    | .cloud (.deleteInstance _) => .returned (.error (.notFound "instance"))
    | .publish .. => .returned (.ok ())
    | _ => .expired, ())

/-- A machine with an instance and an address on record that is being deleted. -/
def Stand.joined : Stand Unit :=
  (holding { machine memberships with
    status := some {
      instanceId := "vsi-1", region := "region", addresses := [⟨.internalIP, "10.0.0.5"⟩] } }
    ⟨rfl, rfl⟩ ()).delete

/-- In the pass over it every question was answered, and these calls failed. -/
abbrev Stand.Fails (failed : List (VpcCall × CloudError)) (visit : Visit .machine) : Prop :=
  Machine.region visit.object = some "region" ∧
    visit.exchanges.all (·.ending matches .returned _) = true ∧
    visit.exchanges.filterMap Exchange.failed? = failed

theorem Stand.Fails.missesAtMost {failed : List (VpcCall × CloudError)} {visit : Visit .machine}
    (hfails : Fails failed visit) (hmissing : ∀ failure ∈ failed, failure.2.isNotFound = true) :
    ∀ exchange ∈ visit.exchanges, exchange.MissesAtMost := by
  obtain ⟨-, hanswered, hfailed⟩ := hfails
  intro exchange hmem
  constructor
  · have hreturned := List.all_eq_true.mp hanswered exchange hmem
    split at hreturned
    · exact ⟨_, ‹_›⟩
    · simp at hreturned
  · intro call failure hcall
    exact hmissing (call, failure) (hfailed ▸ List.mem_filterMap.mpr ⟨exchange, hmem, hcall⟩)

/-- The member of the machine. -/
def Stand.member : PoolMember := ⟨"mem-1", "10.0.0.5", 6443, .active⟩

namespace World

/-- The member and the instance are gone when they are to be removed, and the machine is
released. -/
theorem missing_released_removals : ∃ visit after,
    (Stand.deserted (.ok [Stand.member])).visit .machine {} "default" "node" Stand.joined =
      (some visit, after) ∧
    visit.exchanges.filterMap Exchange.failed? =
      [(.deleteMember "lb" "pool" "mem-1", .notFound "member"),
        (.deleteInstance "vsi-1", .notFound "instance")] ∧
    Managed.machine.hasFinalizer visit.left.object = false ∧
    (Stand.deserted (.ok [Stand.member])).pass .machine {} "default" "node" Stand.joined =
      (.ok .none, after) := by
  obtain ⟨machine, hcurrent, hdeleting, hfinalizer⟩ : ∃ machine,
      Stand.joined.timeline.current = some machine ∧ machine.metadata.isDeleting = true ∧
      Managed.machine.hasFinalizer machine = true :=
    Stand.exists_current (by decide +kernel)
  have hfetch : (Stand.deserted (.ok [Stand.member])).access .machine (.fetch "default" "node")
      Stand.joined = (.ok (some machine), Stand.joined) := by
    rw [← hcurrent]
    rfl
  obtain ⟨visit, after, hvisit, rfl, hreleases, -⟩ :=
    missing_released_iff hfetch hdeleting hfinalizer {}
  obtain ⟨computed, hcomputed, hfails, hclosed⟩ : ∃ visit,
      (Stand.deserted (.ok [Stand.member])).visit .machine {} "default" "node" Stand.joined =
        (some visit, _) ∧
      Stand.Fails [(.deleteMember "lb" "pool" "mem-1", .notFound "member"),
        (.deleteInstance "vsi-1", .notFound "instance")] visit ∧ visit.closed = .ok () :=
    Stand.exists_visit (by decide +kernel)
  obtain rfl := Option.some.inj (Prod.mk.inj (hcomputed.symm.trans hvisit)).1
  have hknown : Managed.machine.TargetKnown computed.object computed.opened.cluster :=
    .inl (by simp [hfails.1])
  obtain ⟨hiff, hpasses, -⟩ :=
    hreleases hknown (hfails.missesAtMost (by simp [CloudError.isNotFound]))
  have hreleased := hiff.mpr fun exchange hmem call failure hfailed => by
    have hlisted := List.mem_filterMap.mpr ⟨exchange, hmem, hfailed⟩
    rw [hfails.2.2] at hlisted
    simp at hlisted
    rcases hlisted with ⟨rfl, -⟩ | ⟨rfl, -⟩ <;> trivial
  exact ⟨computed, after, hvisit, hfails.2.2, hreleased, by rw [hpasses hreleased, hclosed]; rfl⟩

/-- The pool is gone when its members are listed, which keeps the finalizer. -/
theorem missing_blocks_deletion : ∃ visit after error,
    (Stand.deserted (.error (.notFound "pool"))).visit .machine {} "default" "node" Stand.joined =
      (some visit, after) ∧
    visit.Deleting ∧ Managed.machine.hasFinalizer visit.object = true ∧
    Managed.machine.TargetKnown visit.object visit.opened.cluster ∧
    (∀ exchange ∈ visit.exchanges, exchange.MissesAtMost) ∧ visit.closed = .ok () ∧
    Managed.machine.hasFinalizer visit.left.object = true ∧
    (Stand.deserted (.error (.notFound "pool"))).pass .machine {} "default" "node" Stand.joined =
      (.error error, after) := by
  obtain ⟨visit, hvisit, hfails, hdeleting, hfinalizer, hclosed, hkept, hanswer⟩ : ∃ visit,
      (Stand.deserted (.error (.notFound "pool"))).visit .machine {} "default" "node"
        Stand.joined = (some visit, _) ∧
      Stand.Fails [(.listMembers "lb" "pool", .notFound "pool")] visit ∧
      visit.object.metadata.isDeleting = true ∧
      Managed.machine.hasFinalizer visit.object = true ∧ visit.closed = .ok () ∧
      Managed.machine.hasFinalizer visit.left.object = true ∧
      visit.answer = .error (.cloud (.notFound "pool")) :=
    Stand.exists_visit (by decide +kernel)
  exact ⟨visit, _, _, hvisit, hdeleting, hfinalizer, .inl (by simp [hfails.1]),
    hfails.missesAtMost (by simp [CloudError.isNotFound]), hclosed, hkept,
    by rw [pass_eq_answer hvisit, hanswer]⟩

end World

end Reconciler
