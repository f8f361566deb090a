import Reconciler.Controller
import Reconciler.Proofs.Environment

/-!
# What a pass did

A pass answers with a requeue or an error only.  Here a pass is taken apart: the object it fetched,
the scope it opened, what its body asked and left behind, and how closing went.  This record is
computed along the way of the pass itself, so that what is proved of it is proved of the pass.
-/

namespace Reconciler

/-- How a body ended, as its pass reports it. -/
def Outcome.result {α : Type} : Outcome (Except Error α) → Except Error α
  | .returned result => result
  | .expired => .error .deadlineExceeded
  | .panicked text => .error (.panicked text)

/-- What a pass did that came to open the scope of its object. -/
structure Visit (managed : Managed) where
  /-- The object as it was fetched. -/
  object : managed.Resource
  opened : Scope managed
  /-- What the body asked, and how each question ended. -/
  exchanges : List (Exchange (outside managed))
  /-- The scope as the body left it, which is the one that is closed. -/
  left : Scope managed
  ending : Outcome (Except Error Requeue)
  /-- The scope after closing. -/
  final : Scope managed
  closed : Except Error Unit

namespace Visit

variable {managed : Managed}

/-- What the pass answers. -/
def answer (visit : Visit managed) : Except Error Requeue :=
  match visit.closed with
  | .ok () => visit.ending.result
  | .error error => visit.ending.result.bind fun _ => .error error

/-- A pass succeeds when its body and closing both do. -/
theorem answer_eq_ok_iff {visit : Visit managed} {requeue : Requeue} :
    visit.answer = .ok requeue ↔
      visit.ending = .returned (.ok requeue) ∧ visit.closed = .ok () := by
  unfold answer
  rcases visit.ending with (error | value) | _ | text <;>
    rcases visit.closed with error | _ <;> simp [Outcome.result, Except.bind]

/-- The pass is over an object that is to exist. -/
def Normal (visit : Visit managed) : Prop := visit.object.metadata.isDeleting = false

/-- The pass is over an object that is being deleted. -/
def Deleting (visit : Visit managed) : Prop := visit.object.metadata.isDeleting = true

end Visit

namespace World

variable {W S : Type} {managed : Managed}

theorem runBody_eq {α : Type} (world : World W) (deadline : Option Nat) (body : Body managed α)
    (scope : Scope managed) (w : W) :
    world.runBody deadline body scope w =
      let run := (body scope.object).run (world.outside managed scope.target deadline) w
      (({ scope with object := run.1.1 }, run.1.2.result), run.2) := by
  unfold runBody
  generalize (body scope.object).run (world.outside managed scope.target deadline) w = run
  rcases run with ⟨⟨object, result | _ | text⟩, after⟩ <;> rfl

/-- The body of a pass over an opened scope, and closing it. -/
def work (world : World W) (settings : Settings) (object : managed.Resource)
    (opened : Scope managed) (w : W) : Visit managed × W :=
  let program := managed.body ⟨opened.cluster, settings, world.now w⟩ object opened.object
  let answer := world.outside managed opened.target (some (world.clock w + settings.bodyLimit))
  let run := program.run answer w
  let left := { opened with object := run.1.1 }
  let close := world.closeScope settings.closeRetries left run.2
  (⟨object, opened, program.exchanges answer w, left, run.1.2, close.1.1, close.1.2⟩, close.2)

theorem guarded_eq_work (world : World W) (settings : Settings) (object : managed.Resource)
    (opened : Scope managed) (w : W) :
    world.guarded settings (managed.body ⟨opened.cluster, settings, world.now w⟩ object) opened w =
      ((world.work settings object opened w).1.answer,
        (world.work settings object opened w).2) := by
  simp only [guarded, runBody_eq, work, Visit.answer]
  generalize world.closeScope settings.closeRetries _ _ = close
  rcases close with ⟨⟨final, error | _⟩, after⟩ <;> rfl

/-- Does what a pass does, and keeps the record of it. -/
def visit (world : World W) (managed : Managed) (settings : Settings) («namespace» name : String)
    (w : W) : Option (Visit managed) × W :=
  match world.access managed (.fetch «namespace» name) w with
  | (.ok (some object), w) =>
    match world.openScope object w with
    | (.ok opened, w) =>
      let (visit, w) := world.work settings object opened w
      (some visit, w)
    | (.error _, w) => (none, w)
  | (.ok none, w) => (none, w)
  | (.error _, w) => (none, w)

/-- The record belongs to the pass: both leave the world the same. -/
theorem visit_world (world : World W) (managed : Managed) (settings : Settings)
    («namespace» name : String) (w : W) :
    (world.visit managed settings «namespace» name w).2 =
      (world.pass managed settings «namespace» name w).2 := by
  unfold visit pass
  generalize world.access managed (.fetch «namespace» name) w = fetch
  rcases fetch with ⟨error | _ | object, fetched⟩
  · rfl
  · rfl
  · dsimp only
    generalize world.openScope object fetched = entry
    rcases entry with ⟨error | opened, w⟩
    · rfl
    · simp only [guarded_eq_work]

/-- The stages of a pass: fetching its object, opening the scope, and the work in it. -/
structure Stages (world : World W) (settings : Settings) («namespace» name : String) (w : W)
    (visit : Visit managed) (after : W) where
  fetched : W
  opened : W
  fetch_eq : world.access managed (.fetch «namespace» name) w =
    (.ok (some visit.object), fetched)
  open_eq : world.openScope visit.object fetched = (.ok visit.opened, opened)
  work_eq : world.work settings visit.object visit.opened opened = (visit, after)

theorem stages_of_visit {world : World W} {settings : Settings} {«namespace» name : String}
    {w after : W} {visit : Visit managed}
    (hvisit : world.visit managed settings «namespace» name w = (some visit, after)) :
    Nonempty (world.Stages settings «namespace» name w visit after) := by
  unfold World.visit at hvisit
  split at hvisit
  · next object fetched hfetch =>
    split at hvisit
    · next opened w hopen =>
      simp only [Prod.mk.injEq, Option.some.injEq] at hvisit
      obtain ⟨rfl, rfl⟩ := hvisit
      exact ⟨⟨fetched, w, hfetch, hopen, rfl⟩⟩
    · simp at hvisit
  · simp at hvisit
  · simp at hvisit

/-- The pass answers what its record says. -/
theorem pass_eq_answer {world : World W} {settings : Settings} {«namespace» name : String}
    {w after : W} {visit : Visit managed}
    (hvisit : world.visit managed settings «namespace» name w = (some visit, after)) :
    world.pass managed settings «namespace» name w = (visit.answer, after) := by
  obtain ⟨stages⟩ := stages_of_visit hvisit
  unfold pass
  simp only [stages.fetch_eq, stages.open_eq, guarded_eq_work, stages.work_eq]

/-- A pass that succeeds has come to open the scope of its object, or the object was not there. -/
theorem visit_or_absent_of_pass {world : World W} {settings : Settings}
    {«namespace» name : String} {w after : W} {requeue : Requeue}
    (hpass : world.pass managed settings «namespace» name w = (.ok requeue, after)) :
    (∃ visit, world.visit managed settings «namespace» name w = (some visit, after) ∧
      visit.answer = .ok requeue) ∨
    (requeue = .none ∧
      world.access managed (.fetch «namespace» name) w = (.ok none, after)) := by
  unfold pass at hpass
  split at hpass
  · simp at hpass
  · next hfetch =>
    simp only [Prod.mk.injEq, Except.ok.injEq] at hpass
    obtain ⟨rfl, rfl⟩ := hpass
    exact .inr ⟨rfl, hfetch⟩
  · next object fetched hfetch =>
    split at hpass
    · simp at hpass
    · next opened w hopen =>
      dsimp only at hpass
      rw [guarded_eq_work, Prod.mk.injEq] at hpass
      obtain ⟨hanswer, rfl⟩ := hpass
      refine .inl ⟨_, ?_, hanswer⟩
      unfold visit
      simp only [hfetch, hopen]

/-- Opening a scope changes nothing: it starts from the object as fetched. -/
theorem opened_eq {world : World W} {object : managed.Resource} {w after : W}
    {scope : Scope managed} (hopen : world.openScope object w = (.ok scope, after)) :
    scope = ⟨object, object, scope.cluster, managed.targetOf object scope.cluster⟩ := by
  have hensures : (Scope.enter object ()).Ensures (.anything (Reconciler.access managed))
      (fun _ outcome _ => ∀ scope, outcome = .returned (.ok scope) →
        scope = ⟨object, object, scope.cluster, managed.targetOf object scope.cluster⟩) () := by
    unfold Scope.enter
    simp only [Action.ensures_bind]
    have hresolves : (Scope.resolveCluster object ()).Ensures
        (.anything (Reconciler.access managed)) (fun _ _ _ => True) () :=
      Program.ensures_of_preserved (fun _ _ _ _ _ _ => trivial) _ trivial
    apply hresolves.mono
    intro state outcome _ _
    rcases outcome with (error | cluster) | _ | text
    · simp
    · simp only [Outcome.follow_ok, Action.ensures_ask]
      rintro (_ | _ | text) _ - <;> simp
    · simp
    · simp
  have hended := Program.Ensures.eval (world.access managed) (fun _ => ()) (fun _ _ => trivial)
    w hensures
  unfold openScope at hopen
  simp only [Prod.mk.injEq] at hopen
  exact hended scope (by rw [hopen.1])

/-- The scope of an object that is to exist opens with its cluster. -/
theorem exists_cluster_of_normal {world : World W} {object : managed.Resource} {w after : W}
    {scope : Scope managed} (hnormal : object.metadata.isDeleting = false)
    (hopen : world.openScope object w = (.ok scope, after)) :
    ∃ cluster, scope.cluster = some cluster := by
  have hresolves : (Scope.resolveCluster object ()).Ensures (.anything (Reconciler.access managed))
      (fun _ outcome _ => outcome ≠ .returned (.ok none)) () := by
    unfold Scope.resolveCluster
    dsimp only
    generalize (managed.clusterName object).filter _ = called
    rcases called with _ | called
    · simp [hnormal]
    · simp only [Action.ensures_bind, Action.ensures_ask]
      rintro ((error | _ | cluster) | _ | text) _ - <;> simp [hnormal]
  have hensures : (Scope.enter object ()).Ensures (.anything (Reconciler.access managed))
      (fun _ outcome _ => ∀ scope, outcome = .returned (.ok scope) →
        ∃ cluster, scope.cluster = some cluster) () := by
    unfold Scope.enter
    rw [Action.ensures_bind]
    apply hresolves.mono
    intro state outcome _ hended
    rcases outcome with (error | _ | cluster) | _ | text
    · simp
    · exact absurd rfl hended
    · simp only [Outcome.follow_ok, Action.ensures_bind, Action.ensures_ask]
      rintro (_ | _ | text) _ - <;> simp
    · simp
    · simp
  have hended := Program.Ensures.eval (world.access managed) (fun _ => ()) (fun _ _ => trivial)
    w hensures
  unfold openScope at hopen
  simp only [Prod.mk.injEq] at hopen
  exact hended scope (by rw [hopen.1])

/-- The scope of an object that is being deleted opens, whatever becomes of its cluster. -/
theorem openScope_of_deleting (world : World W) {object : managed.Resource}
    (hdeleting : object.metadata.isDeleting = true) (w : W) :
    ∃ scope after, world.openScope object w = (.ok scope, after) := by
  have hensures : (Scope.enter object ()).Ensures (.anything (Reconciler.access managed))
      (fun _ outcome _ => ∀ error, outcome ≠ .returned (.error error)) () := by
    have hresolves : (Scope.resolveCluster object ()).Ensures
        (.anything (Reconciler.access managed))
        (fun _ outcome _ => ∀ error, outcome ≠ .returned (.error error)) () := by
      unfold Scope.resolveCluster
      dsimp only
      generalize (managed.clusterName object).filter _ = called
      rcases called with _ | called
      · simp [hdeleting]
      · simp only [Action.ensures_bind, Action.ensures_ask]
        rintro ((error | _ | cluster) | _ | text) _ - <;> simp [hdeleting]
    unfold Scope.enter
    rw [Action.ensures_bind]
    apply hresolves.mono
    intro state outcome _ hended
    rcases outcome with (error | cluster) | _ | text
    · exact absurd rfl (hended error)
    · simp only [Outcome.follow_ok, Action.ensures_bind, Action.ensures_ask]
      rintro (_ | _ | text) _ - <;> simp
    · simp
    · simp
  have hended := Program.Ensures.eval (world.access managed) (fun _ => ()) (fun _ _ => trivial)
    w hensures
  unfold openScope
  rcases hresult : ((Scope.enter object ()).eval (world.access managed) w).1.2 with error | scope
  · exact absurd (congrArg Outcome.returned hresult) (hended error)
  · exact ⟨scope, _, by rw [← hresult]⟩

/-- A pass that fetched an object that is being deleted works on it. -/
theorem exists_visit_of_deleting {world : World W} {«namespace» name : String}
    {w fetched : W} {object : managed.Resource}
    (hfetch : world.access managed (.fetch «namespace» name) w = (.ok (some object), fetched))
    (hdeleting : object.metadata.isDeleting = true) (settings : Settings) :
    ∃ visit after, world.visit managed settings «namespace» name w = (some visit, after) ∧
      visit.object = object := by
  obtain ⟨scope, opened, hopen⟩ := world.openScope_of_deleting hdeleting fetched
  unfold visit
  simp only [hfetch, hopen]
  exact ⟨_, _, rfl, rfl⟩

section Stages

variable {world : World W} {settings : Settings} {«namespace» name : String} {w after : W}
variable {visit : Visit managed} (stages : world.Stages settings «namespace» name w visit after)
include stages

theorem Stages.opened_eq :
    visit.opened = ⟨visit.object, visit.object, visit.opened.cluster,
      managed.targetOf visit.object visit.opened.cluster⟩ :=
  World.opened_eq stages.open_eq

/-- The body changes nothing in the scope but the object. -/
theorem Stages.left_eq :
    visit.left = ⟨visit.object, visit.left.object, visit.opened.cluster,
      managed.targetOf visit.object visit.opened.cluster⟩ := by
  have hleft := congrArg (·.1.left) stages.work_eq
  dsimp only at hleft
  rw [← hleft]
  simp only [work]
  rw [stages.opened_eq]

theorem Stages.stored_eq : visit.left.stored = visit.object := by
  rw [stages.left_eq]

/-- The body of a pass. -/
def Stages.program :
    Program (Reconciler.outside managed) managed.Resource (Except Error Requeue) :=
  managed.body ⟨visit.opened.cluster, settings, world.now stages.opened⟩ visit.object visit.object

/-- How the body of a pass is answered. -/
def Stages.answers (question : BodyQuestion managed) : W → Outcome question.Answer × W :=
  world.outside managed visit.opened.target
    (some (world.clock stages.opened + settings.bodyLimit)) question

/-- A pass runs its body and then closes the scope, once. -/
theorem Stages.runs :
    stages.program.exchanges stages.answers stages.opened = visit.exchanges ∧
    ∃ ready, stages.program.run stages.answers stages.opened =
        ((visit.left.object, visit.ending), ready) ∧
      world.closeScope settings.closeRetries visit.left ready =
        ((visit.final, visit.closed), after) := by
  have hobject : visit.opened.object = visit.object := by rw [stages.opened_eq]
  have hwork := stages.work_eq
  simp only [work, hobject, Prod.mk.injEq] at hwork
  obtain ⟨hvisit, hafter⟩ := hwork
  have hleft := congrArg Visit.left hvisit
  have hfinal := congrArg Visit.final hvisit
  have hclosed := congrArg Visit.closed hvisit
  dsimp only at hleft hfinal hclosed
  rw [hleft] at hafter hfinal hclosed
  exact ⟨congrArg Visit.exchanges hvisit, _,
    Prod.ext (Prod.ext (congrArg (·.left.object) hvisit) (congrArg Visit.ending hvisit)) rfl,
    Prod.ext (Prod.ext hfinal hclosed) hafter⟩

/-- What a body ensures at the time of the pass of the sum of its exchanges holds of the pass. -/
theorem Stages.of_ensures_now {step : S → Exchange (Reconciler.outside managed) → S}
    {post : managed.Resource → Outcome (Except Error Requeue) → S → Prop} {start : S}
    (hbody : (managed.body ⟨visit.opened.cluster, settings, world.now stages.opened⟩ visit.object
      visit.object).Ensures (.folding step) post start) :
    post visit.left.object visit.ending (visit.exchanges.foldl step start) := by
  have hended := hbody.exchanges stages.answers stages.opened
  obtain ⟨hexchanges, ready, hran, -⟩ := stages.runs
  change post (stages.program.run stages.answers stages.opened).1.1
    (stages.program.run stages.answers stages.opened).1.2
    ((stages.program.exchanges stages.answers stages.opened).foldl step start) at hended
  rwa [hexchanges, hran] at hended

/-- What bodies ensure of the sum of their exchanges holds of every pass. -/
theorem Stages.of_ensures {step : S → Exchange (Reconciler.outside managed) → S}
    {post : managed.Resource → Outcome (Except Error Requeue) → S → Prop} {start : S}
    (hbody : ∀ now, (managed.body ⟨visit.opened.cluster, settings, now⟩ visit.object
      visit.object).Ensures (.folding step) post start) :
    post visit.left.object visit.ending (visit.exchanges.foldl step start) :=
  stages.of_ensures_now (hbody _)

/-- What bodies ensure of the record of their exchanges holds of the record of every pass. -/
theorem Stages.of_recording
    {post : managed.Resource → Outcome (Except Error Requeue) →
      List (Exchange (Reconciler.outside managed)) → Prop}
    (hbody : ∀ now, (managed.body ⟨visit.opened.cluster, settings, now⟩ visit.object
      visit.object).Ensures (.recording _) post []) :
    post visit.left.object visit.ending visit.exchanges := by
  have hended := (hbody (world.now stages.opened)).exchanges_recording stages.answers stages.opened
  obtain ⟨hexchanges, ready, hran, -⟩ := stages.runs
  change post (stages.program.run stages.answers stages.opened).1.1
    (stages.program.run stages.answers stages.opened).1.2
    (stages.program.exchanges stages.answers stages.opened) at hended
  rwa [hexchanges, hran] at hended

end Stages

section Image

variable {world : World W} {settings : Settings} {«namespace» name : String} {w after : W}
variable {visit : Visit .image}
variable {post : Image → Outcome (Except Error Requeue) →
  List (Exchange (Reconciler.outside .image)) → Prop}

theorem Stages.of_reconcileNormal (stages : world.Stages settings «namespace» name w visit after)
    (hnormal : visit.Normal)
    (hbody : ∀ now, (Image.reconcileNormal ⟨visit.opened.cluster, settings, now⟩
      visit.object).Ensures (.recording _) post []) :
    post visit.left.object visit.ending visit.exchanges := by
  apply stages.of_recording
  intro now
  have hchosen : Managed.image.body ⟨visit.opened.cluster, settings, now⟩ visit.object =
      Image.reconcileNormal ⟨visit.opened.cluster, settings, now⟩ :=
    if_neg (Bool.eq_false_iff.mp hnormal)
  rw [hchosen]
  exact hbody now

theorem Stages.of_reconcileDelete (stages : world.Stages settings «namespace» name w visit after)
    (hdeleting : visit.Deleting)
    (hbody : ∀ surroundings,
      (Image.reconcileDelete surroundings visit.object).Ensures (.recording _) post []) :
    post visit.left.object visit.ending visit.exchanges := by
  apply stages.of_recording
  intro now
  have hchosen : Managed.image.body ⟨visit.opened.cluster, settings, now⟩ visit.object =
      Image.reconcileDelete ⟨visit.opened.cluster, settings, now⟩ := if_pos hdeleting
  rw [hchosen]
  exact hbody _

end Image

end World

end Reconciler
