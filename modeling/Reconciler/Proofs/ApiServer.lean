import Reconciler.Proofs.Timeline
import Reconciler.Proofs.Visit

/-!
# An API server that keeps a timeline

How access to the API server acts on the timeline of one object.  A write is accepted only over the
newest version; it leaves the status alone, or everything but the status.  Whether an accepted write
is answered or its answer gets lost is open, and other writers come in before and after each access
and while the body of a pass runs.
-/

namespace Reconciler

namespace Timeline

variable {managed : Managed} {«namespace» name : String}

/-- How a write of an object may end, where `merge` makes of the newest version what is stored if
the write is accepted. -/
inductive Writes (sent : managed.Resource) (merge : managed.Resource → managed.Resource) :
    Except Error managed.Resource → Timeline managed «namespace» name →
      Timeline managed «namespace» name → Prop
  /-- A write is answered with a 404 only if there is no object. -/
  | refused (timeline : Timeline managed «namespace» name) (error : Error)
      (hgone : error.isNotFound = true → sent.metadata.Named «namespace» name →
        timeline.current = none) :
      Writes sent merge (.error error) timeline timeline
  /-- Objects of other names have timelines of their own. -/
  | elsewhere (timeline : Timeline managed «namespace» name)
      (answer : Except Error managed.Resource) (hother : ¬sent.metadata.Named «namespace» name) :
      Writes sent merge answer timeline timeline
  | accepted (before after : Timeline managed «namespace» name)
      (answer : Except Error managed.Resource) (current saved : managed.Resource) (version : String)
      (hcurrent : before.current = some current)
      (hversion : sent.metadata.resourceVersion = current.metadata.resourceVersion)
      (hsaved : saved = (merge current).withVersion version)
      (hversions : after.versions = ⟨.engine, saved⟩ :: before.versions)
      (hanswer : answer = .ok saved ∨ ∃ error, answer = .error error ∧ error.isConflict = false ∧
        error.isNotFound = false) :
      Writes sent merge answer before after

/-- How the API server may answer a pass. -/
def Answers : (question : AccessQuestion managed) → question.Answer →
    Timeline managed «namespace» name → Timeline managed «namespace» name → Prop
  | .fetch inside called, answer, before, after =>
    after = before ∧ (inside = «namespace» → called = name →
      ∀ found, answer = .ok found → found = before.current)
  | .fetchCluster .., _, before, after => after = before
  | .connect _, _, before, after => after = before
  | .replace sent, answer, before, after =>
    Writes sent (fun current => { sent with status := current.status }) answer before after
  | .replaceStatus sent, answer, before, after =>
    Writes sent (fun current => { current with status := sent.status }) answer before after

/-- Access to the API server among other writers. -/
def served (others : Conduct managed) :
    Environment (access managed) (Timeline managed «namespace» name) :=
  fun question ending before after =>
    ∃ answer, ending = .returned answer ∧ ∃ asked answered,
      Drifts others before asked ∧ Answers question answer asked answered ∧
        Drifts others answered after

/-- A question that changes nothing only lets other writers come in. -/
theorem drifts_of_served {others : Conduct managed} {question : AccessQuestion managed}
    {ending : Outcome question.Answer} {before after : Timeline managed «namespace» name}
    (hreads : ∀ answer (asked answered : Timeline managed «namespace» name),
      Answers question answer asked answered → answered = asked)
    (hserved : served others question ending before after) : Drifts others before after := by
  obtain ⟨answer, _, asked, answered, hbefore, hanswers, hafter⟩ := hserved
  obtain rfl := hreads answer asked answered hanswers
  exact hbefore.trans hafter

end Timeline

namespace World

variable {W : Type}

/-- The world holds the timeline of an object, and answers passes and lets other writers come in as
the timeline allows. -/
structure Serves {managed : Managed} {«namespace» name : String} (world : World W)
    (view : W → Timeline managed «namespace» name) (others : Conduct managed) : Prop where
  access : ∀ question w, Timeline.served others question
    (.returned (world.access managed question w).1) (view w)
      (view (world.access managed question w).2)
  outside : ∀ target deadline question w,
    Timeline.Drifts others (view w) (view (world.outside managed target deadline question w).2)

end World

end Reconciler
