import Reconciler.Proofs.Asking
import Reconciler.Proofs.Passing

/-!
# Passes and the provider

The body of a pass acts on what the provider holds.  Everything else goes on beside the provider: it
may change what is there, as it does between passes, but not through the engine.
-/

namespace Reconciler

open Relation (ReflTransGen)

/-- The surroundings may come from one state to another while this is asked. -/
inductive Environment.Along {I : Interface} {S : Type} (environment : Environment I S) :
    S → List (Exchange I) → S → Prop
  | nothing (state : S) : Along environment state [] state
  | asked {before middle after : S} {exchange : Exchange I} {rest : List (Exchange I)}
      (hasked : environment exchange.question exchange.ending before middle)
      (hrest : Along environment middle rest after) :
      Along environment before (exchange :: rest) after

namespace Environment.Along

variable {I : Interface} {S : Type} {environment : Environment I S} {before after : S}

theorem of_append {early late : List (Exchange I)}
    (halong : environment.Along before (early ++ late) after) :
    ∃ middle, environment.Along before early middle ∧ environment.Along middle late after := by
  induction early generalizing before with
  | nil => exact ⟨before, .nothing before, halong⟩
  | cons exchange rest ih =>
      cases halong with
      | asked hasked hrest =>
          obtain ⟨middle, hearly, hlate⟩ := ih hrest
          exact ⟨middle, .asked hasked hearly, hlate⟩

/-- What none of the exchanges disturbs still holds after them. -/
theorem keeps {holds : S → Prop} {exchanges : List (Exchange I)}
    (halong : environment.Along before exchanges after)
    (hstep : ∀ exchange ∈ exchanges, ∀ before after,
      environment exchange.question exchange.ending before after → holds before → holds after)
    (hbefore : holds before) : holds after := by
  induction halong with
  | nothing => exact hbefore
  | asked hasked _ ih =>
      exact ih (fun exchange hmem => hstep exchange (List.mem_cons_of_mem _ hmem))
        (hstep _ (List.mem_cons_self ..) _ _ hasked hbefore)

end Environment.Along

/-- A run in a world that keeps to an environment goes along its exchanges. -/
theorem Program.along_run {I : Interface} {S σ α W : Type} {environment : Environment I S}
    {answer : (question : I.Question) → W → Outcome (I.Answer question) × W} {view : W → S}
    (hkeeps : ∀ question world, environment question (answer question world).1 (view world)
      (view (answer question world).2))
    (program : Program I σ α) (world : W) :
    environment.Along (view world) (program.exchanges answer world)
      (view (program.run answer world).2) := by
  induction program generalizing world with
  | done state value => exact .nothing _
  | ask state question next ih =>
      have hasked := hkeeps question world
      rcases hreply : answer question world with ⟨ending, after⟩
      rw [hreply] at hasked
      cases ending with
      | returned reply =>
          simp only [Program.run, Program.exchanges, hreply]
          exact .asked hasked (ih reply after)
      | expired =>
          simp only [Program.run, Program.exchanges, hreply]
          exact .asked hasked (.nothing (view after))
      | panicked text =>
          simp only [Program.run, Program.exchanges, hreply]
          exact .asked hasked (.nothing (view after))

/-- The body of a pass ran while the surroundings came from one state to another: they went along
its exchanges, and what the body ensures from where it began holds where it ended. -/
structure Visit.Acts {managed : Managed} {S : Type} (visit : Visit managed)
    (environment : Environment (outside managed) S) (start ready : S) : Prop where
  along : environment.Along start visit.exchanges ready
  ensures : ∀ post : managed.Resource → Outcome (Except Error Requeue) → S → Prop,
    (∀ settings now, (managed.body ⟨visit.opened.cluster, settings, now⟩ visit.object
      visit.object).Ensures environment post start) →
    post visit.left.object visit.ending ready

namespace World

variable {W S : Type} {managed : Managed} {«namespace» name : String} {world : World W}
variable {settings : Settings} {w after : W} {visit : Visit managed}
variable {target : managed.Target} {view : W → S}
variable {environment : Environment (Reconciler.outside managed) S} {change : S → S → Prop}

/-- The world holds what bodies that call a target act on.  It answers them as the environment
allows, and lets it change while the API server is asked. -/
structure Surrounds (world : World W) (target : managed.Target) (view : W → S)
    (environment : Environment (Reconciler.outside managed) S) (change : S → S → Prop) : Prop where
  access : ∀ question w,
    ReflTransGen change (view w) (view (world.access managed question w).2)
  outside : ∀ deadline question w,
    environment question (world.outside managed target deadline question w).1 (view w)
      (view (world.outside managed target deadline question w).2)

/-- A run of passes over the object of a name, each with settings of its own, with changes beside
the engine in between. -/
inductive Passes (world : World W) (managed : Managed) («namespace» name : String) (view : W → S)
    (change : S → S → Prop) : W → List (Stage managed W) → W → Prop
  | start (w : W) : Passes world managed «namespace» name view change w [] w
  | visited {w before after : W} {stages : List (Stage managed W)} {visit : Visit managed}
      (settings : Settings)
      (hpasses : Passes world managed «namespace» name view change w stages before)
      (hvisit : world.visit managed settings «namespace» name before = (some visit, after)) :
      Passes world managed «namespace» name view change w (stages ++ [⟨before, visit, after⟩]) after
  | missed {w before after : W} {stages : List (Stage managed W)} (settings : Settings)
      (hpasses : Passes world managed «namespace» name view change w stages before)
      (hvisit : world.visit managed settings «namespace» name before = (none, after)) :
      Passes world managed «namespace» name view change w stages after
  | meanwhile {w before after : W} {stages : List (Stage managed W)}
      (hpasses : Passes world managed «namespace» name view change w stages before)
      (hchanges : ReflTransGen change (view before) (view after)) :
      Passes world managed «namespace» name view change w stages after

namespace Surrounds

variable (hsurrounds : world.Surrounds target view environment change)
include hsurrounds

theorem changes_of_eval {σ α : Type} (program : Program (Reconciler.access managed) σ α) (w : W) :
    ReflTransGen change (view w) (view (program.eval (world.access managed) w).2) := by
  have hensures : program.Ensures (fun _ _ before after => ReflTransGen change before after)
      (fun _ _ after => ReflTransGen change (view w) after) (view w) :=
    Program.ensures_of_preserved (fun _ _ _ _ hchanges hstart => hstart.trans hchanges) program
      .refl
  exact hensures.eval (world.access managed) view hsurrounds.access w

theorem changes_of_openScope (object : managed.Resource) (w : W) :
    ReflTransGen change (view w) (view (world.openScope object w).2) :=
  hsurrounds.changes_of_eval _ w

theorem changes_of_closeScope (retries : Nat) (scope : Scope managed) (w : W) :
    ReflTransGen change (view w) (view (world.closeScope retries scope w).2) :=
  hsurrounds.changes_of_eval _ w

/-- Before and after the body of a pass runs, things change beside the engine only. -/
theorem acts_of_stages (stages : world.Stages settings «namespace» name w visit after)
    (htarget : visit.opened.target = target) :
    ∃ start ready, ReflTransGen change (view w) start ∧ visit.Acts environment start ready ∧
      ReflTransGen change ready (view after) := by
  have hfetched := hsurrounds.access (.fetch «namespace» name) w
  rw [stages.fetch_eq] at hfetched
  have hopened := hsurrounds.changes_of_openScope visit.object stages.fetched
  rw [stages.open_eq] at hopened
  obtain ⟨hexchanges, ready, hran, hclose⟩ := stages.runs
  have hclosed := hsurrounds.changes_of_closeScope settings.closeRetries visit.left ready
  rw [hclose] at hclosed
  subst htarget
  have hanswers : ∀ question w, environment question (stages.answers question w).1 (view w)
      (view (stages.answers question w).2) := hsurrounds.outside _
  refine ⟨view stages.opened, view ready, hfetched.trans hopened,
    ⟨?along, fun post hbody => ?ensures⟩, hclosed⟩
  case along =>
    have halong := Program.along_run hanswers stages.program stages.opened
    rwa [hexchanges, hran] at halong
  case ensures =>
    have hensures : stages.program.Ensures environment post (view stages.opened) :=
      hbody settings (world.now stages.opened)
    have hended := hensures.run stages.answers view hanswers stages.opened
    rwa [hran] at hended

/-- A pass that does not come to open a scope does nothing at the provider. -/
theorem changes_of_no_visit
    (hvisit : world.visit managed settings «namespace» name w = (none, after)) :
    ReflTransGen change (view w) (view after) := by
  have hfetch := hsurrounds.access (.fetch «namespace» name) w
  unfold World.visit at hvisit
  generalize world.access managed (.fetch «namespace» name) w = fetch at hfetch hvisit
  rcases fetch with ⟨error | _ | object, fetched⟩
  · obtain rfl := congrArg Prod.snd hvisit
    exact hfetch
  · obtain rfl := congrArg Prod.snd hvisit
    exact hfetch
  · have hopen := hsurrounds.changes_of_openScope object fetched
    dsimp only at hvisit
    generalize world.openScope object fetched = entry at hopen hvisit
    rcases entry with ⟨error | opened, w⟩
    · obtain rfl := congrArg Prod.snd hvisit
      exact hfetch.trans hopen
    · simp at hvisit

end Surrounds

/-- The passes of a run are passes of the world. -/
theorem Passes.visit_of_mem {first last : W} {stages : List (Stage managed W)}
    (hpasses : world.Passes managed «namespace» name view change first stages last)
    {stage : Stage managed W} (hmem : stage ∈ stages) :
    ∃ settings, world.visit managed settings «namespace» name stage.before =
      (some stage.visit, stage.after) := by
  induction hpasses with
  | start => simp at hmem
  | visited settings _ hvisit ih =>
      rcases List.mem_append.mp hmem with hearlier | hlast
      · exact ih hearlier
      · obtain rfl := List.mem_singleton.mp hlast
        exact ⟨settings, hvisit⟩
  | missed _ _ _ ih => exact ih hmem
  | meanwhile _ _ ih => exact ih hmem

theorem keeps_of_changes (holds : S → Prop)
    (hchange : ∀ {before after}, change before after → holds before → holds after)
    {first last : S} (hchanges : ReflTransGen change first last) (hfirst : holds first) :
    holds last := by
  induction hchanges with
  | refl => exact hfirst
  | tail _ hstep ih => exact hchange hstep ih

/-- What neither bodies nor changes beside the engine disturb holds all along a run. -/
theorem Passes.keeps (holds : S → Prop) {first last : W} {stages : List (Stage managed W)}
    (hpasses : world.Passes managed «namespace» name view change first stages last)
    (hsurrounds : world.Surrounds target view environment change)
    (htargets : ∀ stage ∈ stages, stage.visit.opened.target = target)
    (hchange : ∀ {before after}, change before after → holds before → holds after)
    (hacts : ∀ stage ∈ stages, ∀ start ready, stage.visit.Acts environment start ready →
      holds start → holds ready)
    (hfirst : holds (view first)) :
    holds (view last) ∧ ∀ stage ∈ stages, holds (view stage.before) := by
  induction hpasses with
  | start => exact ⟨hfirst, by simp⟩
  | @visited before after stages visit settings _ hvisit ih =>
      obtain ⟨hbefore, hearlier⟩ :=
        ih (fun stage hmem => htargets stage (List.mem_append_left _ hmem))
          (fun stage hmem => hacts stage (List.mem_append_left _ hmem))
      have hlast := List.mem_append_right stages
        (List.mem_singleton_self (⟨before, visit, after⟩ : Stage managed W))
      obtain ⟨taken⟩ := stages_of_visit hvisit
      obtain ⟨start, ready, hstart, hacted, hready⟩ :=
        hsurrounds.acts_of_stages taken (htargets _ hlast)
      have hbegun := keeps_of_changes holds hchange hstart hbefore
      have hended := hacts _ hlast start ready hacted hbegun
      refine ⟨keeps_of_changes holds hchange hready hended, fun stage hmem => ?_⟩
      rcases List.mem_append.mp hmem with hearly | hthis
      · exact hearlier stage hearly
      · obtain rfl := List.mem_singleton.mp hthis
        exact hbefore
  | missed settings _ hvisit ih =>
      obtain ⟨hbefore, hearlier⟩ := ih htargets hacts
      have hmissed := hsurrounds.changes_of_no_visit hvisit
      exact ⟨keeps_of_changes holds hchange hmissed hbefore, hearlier⟩
  | meanwhile _ hchanges ih =>
      obtain ⟨hbefore, hearlier⟩ := ih htargets hacts
      exact ⟨keeps_of_changes holds hchange hchanges hbefore, hearlier⟩

end World

end Reconciler
