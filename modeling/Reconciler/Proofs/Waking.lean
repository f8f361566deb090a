import Reconciler.Proofs.ForeignUpdates
import Reconciler.Proofs.ImageWaking
import Reconciler.Proofs.MachineWaking

/-!
# Objects that come up again

The controller comes back to an object when it has changed, and otherwise only if it was asked to.
A normal pass does not ask for that where it has left its object ready or has seen its instance
failed.  A word of the provider that nobody knows has it come back after a while, as any state does
that is not final.
-/

namespace Reconciler

/-- The words that are known for a job. -/
def JobState.words : List String := ["queued", "completed", "failed"] ++ progressWords

theorem JobState.ofWord_of_not_mem {word : String} (hword : word ∉ words) :
    ofWord word = .unknown word := by
  simp only [words, List.cons_append, List.nil_append, List.mem_cons, not_or] at hword
  simp only [ofWord, hword, if_false]

/-- The words that are known for an image. -/
def ImageState.words : List String := ["queued", "importing", "active", "failed"]

theorem ImageState.ofWord_of_not_mem {word : String} (hword : word ∉ words) :
    ofWord word = .unknown word := by
  simp only [words, List.mem_cons, not_or] at hword
  simp only [ofWord, hword, if_false]

/-- The words that are known for an instance. -/
def InstanceStatus.words : List String := ["pending", "running", "stopped", "failed"]

theorem InstanceStatus.ofWord_of_not_mem {word : String} (hword : word ∉ words) :
    ofWord word = .unknown word := by
  simp only [words, List.mem_cons, not_or] at hword
  simp only [ofWord, hword, if_false]

/-- The words that are known for load balancers and their members. -/
def ProvisioningStatus.words : List String :=
  ["active", "create_pending", "update_pending", "delete_pending", "failed"]

theorem ProvisioningStatus.ofWord_of_not_mem {word : String} (hword : word ∉ words) :
    ofWord word = .unknown word := by
  simp only [words, List.mem_cons, not_or] at hword
  simp only [ofWord, hword, if_false]

/-- After how many seconds the object of a pass comes up again, if it does without a change. -/
def Manager.recall (manager : Manager) (managed : Managed) (settings : Settings)
    («namespace» name : String) : Except Error Requeue → Option Nat
  | .ok requeue => requeue.delay
  | .error error => some (manager.errorPolicy managed settings «namespace» name error).1

/-- The status says that the object is ready. -/
def Managed.ready : (managed : Managed) → managed.Resource → Bool
  | .machine, object => (Object.standing object : MachineStatus).ready
  | .image, object => (Object.standing object : ImageStatus).ready

theorem Managed.ready_congr {managed : Managed} {left right : managed.Resource}
    (hstatus : right.status = left.status) : managed.ready right = managed.ready left := by
  cases managed <;> simp only [ready, Object.standing, hstatus]

namespace Visit

/-- There is nothing to come back for: the image was active and is ready, the machine is ready with
its instance running and its memberships active, or the instance has failed. -/
def AtRest : {managed : Managed} → Visit managed → Prop
  | .machine, visit => ∃ found, Observed found visit.exchanges ∧ (found.status = .failed ∨
      Managed.machine.ready visit.left.object = true ∧ visit.Fresh found)
  | .image, visit => Managed.image.ready visit.left.object = true ∧
      ∃ found, Image.Sighted found visit.exchanges ∧ found.state = .active

/-- The pass was told the state of something in a word that nobody knows.  The number is that of the
seconds until it is asked again. -/
inductive Puzzled (settings : Settings) : {managed : Managed} → Visit managed → Nat → Prop
  | job (visit : Visit .image) (job : Job) (word : String)
      (hfollowed : Image.Followed job visit.exchanges) (hstate : job.state = .ofWord word)
      (hword : word ∉ JobState.words) : Puzzled settings visit settings.jobPoll
  | image (visit : Visit .image) (found : BootImage) (word : String)
      (hsighted : Image.Sighted found visit.exchanges) (hstate : found.state = .ofWord word)
      (hword : word ∉ ImageState.words) : Puzzled settings visit settings.imagePoll
  | instance_ (visit : Visit .machine) (found : Instance) (word : String)
      (hobserved : Observed found visit.exchanges) (hstate : found.status = .ofWord word)
      (hword : word ∉ InstanceStatus.words) : Puzzled settings visit settings.instancePoll

/-- The pass has found or created a member of a pool, at the address and one of the ports of the
machine, whose state is a word that nobody knows. -/
structure MeetsStranger (visit : Visit .machine) (found : Instance) (address : String)
    (member : PoolMember) (word : String) : Prop where
  observed : Observed found visit.exchanges
  usable : Membership.usableAddress found.primaryAddress = .ok address
  meets : Membership.Meets visit.exchanges address
    (Machine.ports visit.opened.cluster visit.object) member
  status : member.status = .ofWord word
  word : word ∉ ProvisioningStatus.words

/-- The pass has ended with the error that a load balancer or a pool does not exist, which another
of the declared memberships names. -/
structure Astray (visit : Visit .machine) : Prop where
  missing : ∃ error, visit.ending = .returned (.error error) ∧ Membership.isMissing error = true
  others : 1 < visit.object.spec.loadBalancerPoolMembers.length

end Visit

namespace World

variable {W : Type} {managed : Managed} {world : World W} {settings : Settings}
variable {«namespace» name : String} {w after : W}

theorem Stages.atRest {visit : Visit managed}
    (stages : world.Stages settings «namespace» name w visit after) (hnormal : visit.Normal)
    (hended : visit.ending = .returned (.ok .none)) : visit.AtRest := by
  cases managed with
  | machine =>
      have hheeds := stages.heeds_machine hnormal
      obtain ⟨found, hobserved⟩ := hheeds.rests hended
      refine ⟨found, hobserved, ((hheeds.wakes found hobserved).rests hended).imp id ?_⟩
      rintro ⟨hrunning, hready, hactive⟩
      exact ⟨hready, hrunning, hactive⟩
  | image => exact (stages.heeds_image hnormal).rests hended

theorem Stages.polled_of_puzzled {visit : Visit managed}
    (stages : world.Stages settings «namespace» name w visit after) (hnormal : visit.Normal)
    (hwell : ∀ exchange ∈ visit.exchanges, exchange.WentWell) {poll : Nat}
    (hpuzzled : visit.Puzzled settings poll) :
    Polled poll (managed.ready visit.left.object) visit.ending := by
  cases hpuzzled with
  | job visit job word hfollowed hstate hword =>
      rw [JobState.ofWord_of_not_mem hword] at hstate
      exact (stages.heeds_image hnormal).job job word hfollowed hstate
  | image visit found word hsighted hstate hword =>
      rw [ImageState.ofWord_of_not_mem hword] at hstate
      exact (stages.heeds_image hnormal).image found word hsighted hstate
  | instance_ visit found word hobserved hstate hword =>
      rw [InstanceStatus.ofWord_of_not_mem hword] at hstate
      exact ((stages.heeds_machine hnormal).wakes found hobserved).unknown hwell word hstate

theorem Stages.polled_of_meetsStranger {visit : Visit .machine}
    (stages : world.Stages settings «namespace» name w visit after) (hnormal : visit.Normal)
    (hwell : ∀ exchange ∈ visit.exchanges, exchange.WentWell) {found : Instance}
    {address word : String} {member : PoolMember}
    (hmeets : visit.MeetsStranger found address member word) :
    Polled settings.instancePoll (Managed.machine.ready visit.left.object) visit.ending ∨
      visit.Astray := by
  have hinactive : member.status ≠ .active := by
    rw [hmeets.status, ProvisioningStatus.ofWord_of_not_mem hmeets.word]
    simp
  have hwakes := (stages.heeds_machine hnormal).wakes found hmeets.observed
  refine (hwakes.waits hwell address member hmeets.usable hmeets.meets hinactive).imp id ?_
  rintro ⟨error, hended, hmissing, hothers⟩
  exact ⟨⟨error, hended, hmissing⟩, hothers⟩

theorem pass_of_polled {visit : Visit managed} {poll : Nat} {ready : Bool}
    (hvisit : world.visit managed settings «namespace» name w = (some visit, after))
    (hclosed : visit.closed = .ok ()) (hpolled : Polled poll ready visit.ending) :
    world.pass managed settings «namespace» name w = (.ok (.after poll), after) := by
  rw [pass_eq_answer hvisit, Visit.answer_eq_ok_iff.mpr ⟨hpolled.again, hclosed⟩]

/-- An object comes up again after every pass over it, unless the object is gone, or the pass is a
normal one that has closed its scope and left nothing to come back for.  A normal pass that was told
a word that nobody knows leaves its object not ready and has it come up again after the interval for
polling, provided that its calls went well and it closed its scope; for the word of a member this is
so unless another membership names a load balancer or pool that does not exist, which the pass ends
with as an error.  Members are created only in load balancers that were just reported active.  What
a pass has left is what is stored once its scope is closed. -/
theorem comes_up_again (world : World W) (settings : Settings) («namespace» name : String) (w : W) :
    (∀ (managed : Managed) (manager : Manager), manager.recall managed settings «namespace» name
        (world.pass managed settings «namespace» name w).1 = none →
      (world.access managed (.fetch «namespace» name) w).1 = .ok none ∨
      ∃ visit after, world.visit managed settings «namespace» name w = (some visit, after) ∧
        (visit.Normal → visit.AtRest ∧ visit.closed = .ok ())) ∧
    (∀ (managed : Managed) (visit : Visit managed) (after : W),
      world.visit managed settings «namespace» name w = (some visit, after) → visit.Normal →
      (∀ exchange ∈ visit.exchanges, exchange.WentWell) → visit.closed = .ok () →
      ∀ poll, visit.Puzzled settings poll →
        managed.ready visit.left.object = false ∧
        world.pass managed settings «namespace» name w = (.ok (.after poll), after)) ∧
    (∀ (visit : Visit .machine) (after : W),
      world.visit .machine settings «namespace» name w = (some visit, after) → visit.Normal →
      (∀ exchange ∈ visit.exchanges, exchange.WentWell) → visit.closed = .ok () →
      ∀ found address member word, visit.MeetsStranger found address member word →
        (Managed.machine.ready visit.left.object = false ∧
          world.pass .machine settings «namespace» name w =
            (.ok (.after settings.instancePoll), after)) ∨ visit.Astray) ∧
    (∀ (visit : Visit .machine) (after : W),
      world.visit .machine settings «namespace» name w = (some visit, after) → visit.Normal →
      Membership.Guarded visit.exchanges) ∧
    (∀ (managed : Managed) (view : W → Timeline managed «namespace» name) others,
      world.Serves view others →
      others.Keeps (fun object => (managed.marks object, object.status)) →
      ∀ visit after, world.visit managed settings «namespace» name w = (some visit, after) →
      visit.closed = .ok () → ∀ stored, (view after).current = some stored →
        managed.ready stored = managed.ready visit.left.object) := by
  refine ⟨fun managed manager hrecall => ?rests, fun managed visit after hvisit hnormal hwell
    hclosed poll hpuzzled => ?puzzled, fun visit after hvisit hnormal hwell hclosed found address
    member word hmeets => ?member, fun visit after hvisit hnormal => ?guarded,
    fun managed view others hserves hkeeps visit after hvisit hclosed stored hstored => ?stored⟩
  case rests =>
    rcases hpass : world.pass managed settings «namespace» name w with ⟨error | requeue, after⟩
    · rw [hpass] at hrecall
      exact nomatch hrecall
    · obtain rfl : requeue = .none := by
        rw [hpass] at hrecall
        cases requeue with
        | none => rfl
        | immediate => exact nomatch hrecall
        | after seconds => exact nomatch hrecall
      rcases visit_or_absent_of_pass hpass with ⟨visit, hvisit, hanswer⟩ | ⟨-, hgone⟩
      · obtain ⟨hended, hclosed⟩ := Visit.answer_eq_ok_iff.mp hanswer
        obtain ⟨stages⟩ := stages_of_visit hvisit
        exact .inr ⟨visit, after, hvisit, fun hnormal => ⟨stages.atRest hnormal hended, hclosed⟩⟩
      · exact .inl (by rw [hgone])
  case puzzled =>
    obtain ⟨stages⟩ := stages_of_visit hvisit
    have hpolled := stages.polled_of_puzzled hnormal hwell hpuzzled
    exact ⟨hpolled.unready, pass_of_polled hvisit hclosed hpolled⟩
  case member =>
    obtain ⟨stages⟩ := stages_of_visit hvisit
    exact (stages.polled_of_meetsStranger hnormal hwell hmeets).imp
      (fun hpolled => ⟨hpolled.unready, pass_of_polled hvisit hclosed hpolled⟩) id
  case guarded =>
    obtain ⟨stages⟩ := stages_of_visit hvisit
    exact (stages.heeds_machine hnormal).guarded
  case stored =>
    exact Managed.ready_congr (closed_of_visit hserves hvisit hkeeps hclosed hstored).2

end World

/-- The exchange is not a call, or one that succeeded. -/
def Exchange.answered {managed : Managed} : Exchange (outside managed) → Bool
  | ⟨.cloud _, .returned (.ok _)⟩ => true
  | ⟨.cloud _, _⟩ => false
  | ⟨.secret .., _⟩ => true
  | ⟨.publish .., _⟩ => true

theorem Exchange.wentWell_of_answered {managed : Managed} {exchange : Exchange (outside managed)}
    (hanswered : exchange.answered = true) : exchange.WentWell := by
  rcases exchange with ⟨call | _ | _, (error | value) | _ | text⟩ <;>
    first | exact .inl trivial | trivial

/-- A provider that runs an instance, with a member of the only pool in an unknown state. -/
def Stand.puzzling : World (Stand Unit) :=
  world (fun _ => 0) fun _ question _ => match question with
    | .cloud (.getInstanceByName _) =>
      (.returned (.ok (some ⟨"vsi", "node", none, .running, "10.0.0.5", []⟩)), ())
    | .cloud (.getLoadBalancer _) =>
      (.returned (.ok (some ⟨"lb", "lb", .active, [⟨"pool", "pool"⟩]⟩)), ())
    | .cloud (.listMembers ..) =>
      (.returned (.ok [⟨"member", "10.0.0.5", 6443, .ofWord "maintenance_pending"⟩]), ())
    | _ => (.expired, ())

/-- The instance that it runs, and the member. -/
abbrev Stand.MeetsStranger (visit : Visit .machine) : Prop :=
  Observed ⟨"vsi", "node", none, .running, "10.0.0.5", []⟩ visit.exchanges ∧
    ∃ asked ∈ (Machine.ports visit.opened.cluster visit.object).zip
      (Membership.listings visit.exchanges), asked.2.find? (fun member =>
        member.address == some "10.0.0.5" && member.port == asked.1) =
          some ⟨"member", "10.0.0.5", 6443, .ofWord "maintenance_pending"⟩

theorem Stand.MeetsStranger.meets {visit : Visit .machine} (hmeets : MeetsStranger visit) :
    visit.MeetsStranger ⟨"vsi", "node", none, .running, "10.0.0.5", []⟩ "10.0.0.5"
      ⟨"member", "10.0.0.5", 6443, .ofWord "maintenance_pending"⟩ "maintenance_pending" :=
  ⟨hmeets.1, rfl, .inl hmeets.2, rfl, by decide⟩

namespace World

open Stand (puzzling)

/-- A machine with one membership, whose member is in a state that nobody knows, is looked at again
after the interval for polling instances. -/
theorem comes_up_again_puzzled : ∃ visit found address member word,
    puzzling.visit .machine {} "default" "node" (Stand.fresh Stand.memberships ()) =
      (some visit, (Stand.fresh Stand.memberships ()).passed puzzling) ∧
    visit.MeetsStranger found address member word ∧
    Managed.machine.ready visit.left.object = false ∧
    puzzling.pass .machine {} "default" "node" (Stand.fresh Stand.memberships ()) =
      (.ok (.after 60), (Stand.fresh Stand.memberships ()).passed puzzling) := by
  obtain ⟨visit, hvisit, hnormal, hanswered, hclosed, hmeets, hone⟩ : ∃ visit,
      puzzling.visit .machine {} "default" "node" (Stand.fresh Stand.memberships ()) =
        (some visit, _) ∧
      visit.object.metadata.isDeleting = false ∧
      (∀ exchange ∈ visit.exchanges, exchange.answered = true) ∧ visit.closed = .ok () ∧
      Stand.MeetsStranger visit ∧ visit.object.spec.loadBalancerPoolMembers.length = 1 :=
    Stand.exists_visit (by decide +kernel)
  have hwell (exchange : OfMachine) (hmem : exchange ∈ visit.exchanges) : exchange.WentWell :=
    Exchange.wentWell_of_answered (hanswered exchange hmem)
  rcases (comes_up_again puzzling {} "default" "node" _).2.2.1 visit _ hvisit hnormal hwell hclosed
    _ _ _ _ hmeets.meets with ⟨hready, hpass⟩ | hastray
  · exact ⟨visit, _, _, _, _, hvisit, hmeets.meets, hready, hpass⟩
  · have hothers := hastray.others
    rw [hone] at hothers
    exact absurd hothers (Nat.lt_irrefl 1)

/-- Where a second membership names a pool that does not exist, the pass ends with an error,
although every call went well and it closed its scope. -/
theorem unknown_member_unheeded : ∃ visit after found address member word,
    puzzling.visit .machine {} "default" "node"
      (Stand.fresh (Stand.memberships ++ [⟨.byId "lb", .byId "gone", 6443, none⟩]) ()) =
        (some visit, after) ∧
    visit.Normal ∧ (∀ exchange ∈ visit.exchanges, exchange.WentWell) ∧ visit.closed = .ok () ∧
    visit.MeetsStranger found address member word ∧
    puzzling.pass .machine {} "default" "node"
      (Stand.fresh (Stand.memberships ++ [⟨.byId "lb", .byId "gone", 6443, none⟩]) ()) =
        (.error (.missingPool "lb" "gone"), after) := by
  obtain ⟨visit, hvisit, hnormal, hanswered, hclosed, hmeets, hended⟩ : ∃ visit,
      puzzling.visit .machine {} "default" "node"
        (Stand.fresh (Stand.memberships ++ [⟨.byId "lb", .byId "gone", 6443, none⟩]) ()) =
          (some visit, _) ∧
      visit.object.metadata.isDeleting = false ∧
      (∀ exchange ∈ visit.exchanges, exchange.answered = true) ∧ visit.closed = .ok () ∧
      Stand.MeetsStranger visit ∧
      visit.ending = .returned (.error (.missingPool "lb" "gone")) :=
    Stand.exists_visit (by decide +kernel)
  refine ⟨visit, _, _, _, _, _, hvisit, hnormal, fun exchange hmem =>
    Exchange.wentWell_of_answered (hanswered exchange hmem), hclosed, hmeets.meets, ?_⟩
  rw [pass_eq_answer hvisit, Visit.answer, hended, hclosed]
  rfl

end World

end Reconciler
