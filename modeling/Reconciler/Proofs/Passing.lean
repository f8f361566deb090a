import Reconciler.Proofs.Closing
import Reconciler.Proofs.Edits
import Reconciler.Proofs.Release

/-!
# Passes on a timeline

A pass starts from a version of its object, hears nothing more of the API server while its body
runs, and then closes its scope.  A run is any number of passes over the object, with other things
going on in between.
-/

namespace Reconciler

open Timeline (Drifts)

/-- In a world where each question lets other writers come in, so does a program. -/
theorem Program.drifts_run {managed : Managed} {«namespace» name : String}
    {others : Conduct managed} {I : Interface} {σ α W : Type}
    {view : W → Timeline managed «namespace» name}
    {answer : (question : I.Question) → W → Outcome (I.Answer question) × W}
    (hanswer : ∀ question world, Drifts others (view world) (view (answer question world).2))
    (program : Program I σ α) (world : W) :
    Drifts others (view world) (view (program.run answer world).2) := by
  have hensures : program.Ensures (fun _ _ before after => Drifts others before after)
      (fun _ _ after => Drifts others (view world) after) (view world) :=
    Program.ensures_of_preserved (fun _ _ _ _ hdrifts hstart => hstart.trans hdrifts) program .refl
  exact hensures.run answer view hanswer world

namespace Scope

variable {managed : Managed} {«namespace» name : String} {σ α β : Type}

/-- While the step is taken, other writers come in, but the step itself writes nothing. -/
def Reads («namespace» name : String) (others : Conduct managed)
    (step : Action (access managed) Error σ α) : Prop :=
  ∀ state (before : Timeline managed «namespace» name),
    (step state).Ensures (Timeline.served others) (fun _ _ after => Drifts others before after)
      before

variable {others : Conduct managed}

theorem Reads.pure (value : α) :
    Reads «namespace» name others (pure value : Action (access managed) Error σ α) :=
  fun _ _ => Relation.ReflTransGen.refl

theorem Reads.throw (error : Error) :
    Reads «namespace» name others (throw error : Action (access managed) Error σ α) :=
  fun _ _ => Relation.ReflTransGen.refl

theorem Reads.ask {question : AccessQuestion managed}
    (hreads : ∀ answer (asked answered : Timeline managed «namespace» name),
      Timeline.Answers question answer asked answered → answered = asked) :
    Reads «namespace» name others
      (Action.ask (I := access managed) question : Action (access managed) Error σ _) := by
  intro state before
  rw [Action.ensures_ask]
  rintro (answer | _ | text) after hserved
  all_goals exact Timeline.drifts_of_served hreads hserved

theorem Reads.bind {first : Action (access managed) Error σ α}
    {next : α → Action (access managed) Error σ β} (hfirst : Reads «namespace» name others first)
    (hnext : ∀ value, Reads «namespace» name others (next value)) :
    Reads «namespace» name others (first >>= next) := by
  intro state before
  rw [Action.ensures_bind]
  apply (hfirst state before).mono
  intro state outcome middle hmiddle
  rcases outcome with (error | value) | _ | text
  · exact hmiddle
  · exact (hnext value state middle).mono fun _ _ _ hafter => hmiddle.trans hafter
  · exact hmiddle
  · exact hmiddle

theorem reads_resolveCluster (object : managed.Resource) :
    Reads «namespace» name others (resolveCluster object) := by
  unfold resolveCluster
  dsimp only
  split
  · split
    · exact Reads.pure none
    · exact Reads.throw _
  · apply (Reads.ask fun _ _ _ => id).bind
    intro answer
    split
    · exact Reads.pure _
    · split
      · exact Reads.pure none
      · exact Reads.throw _
    · split
      · exact Reads.pure none
      · exact Reads.throw _

theorem reads_enter (object : managed.Resource) : Reads «namespace» name others (enter object) :=
  (reads_resolveCluster object).bind fun _ =>
    (Reads.ask fun _ _ _ => id).bind fun _ => Reads.pure _

end Scope

namespace World

variable {W S : Type} {managed : Managed} {«namespace» name : String} {world : World W}
variable {settings : Settings} {w after : W} {visit : Visit managed}

namespace Stages

variable (stages : world.Stages settings «namespace» name w visit after)
include stages

/-- What a body ensures whatever happens holds of every pass. -/
theorem of_anything {holds : managed.Resource → Outcome (Except Error Requeue) → Prop}
    (hbody : ∀ now, (managed.body ⟨visit.opened.cluster, settings, now⟩ visit.object
      visit.object).Ensures (.anything _) (fun after outcome _ => holds after outcome) ()) :
    holds visit.left.object visit.ending := by
  have hfolding (now : Time.Instant) : (managed.body ⟨visit.opened.cluster, settings, now⟩
      visit.object visit.object).Ensures (.folding fun _ _ => ())
        (fun after outcome _ => holds after outcome) () := (hbody now).anywhere ()
  exact stages.of_ensures hfolding

theorem owned_of_normal (hnormal : visit.Normal) :
    managed.Edits visit.object visit.left.object ∧
      managed.hasFinalizer visit.left.object = true :=
  stages.of_anything fun now => Managed.normal_ensures ⟨visit.opened.cluster, settings, now⟩ hnormal

theorem releasedWhen_of_deleting (hdeleting : visit.Deleting)
    (hfinalizer : managed.hasFinalizer visit.object = true) :
    managed.ReleasedWhen visit.object visit.left.object visit.ending
      (managed.TargetKnown visit.object visit.opened.cluster ∧
        ∀ exchange ∈ visit.exchanges, exchange.WentWell) := by
  have hbody (now : Time.Instant) : (managed.body ⟨visit.opened.cluster, settings, now⟩
      visit.object visit.object).Ensures (.folding Exchange.tally) (fun after outcome allFine =>
        managed.ReleasedWhen visit.object after outcome
          (managed.TargetKnown visit.object visit.opened.cluster ∧ allFine)) True :=
    Managed.delete_ensures _ hdeleting hfinalizer
  have hended := stages.of_ensures hbody
  rwa [propext (Exchange.foldl_tally visit.exchanges True), true_and] at hended

theorem left_of_deleting (hdeleting : visit.Deleting) :
    visit.left.object = visit.object ∨
      visit.left.object = managed.removeFinalizer visit.object := by
  cases hfinalizer : managed.hasFinalizer visit.object with
  | false =>
      exact .inl (stages.of_anything fun now => Managed.delete_ensures_of_released
        ⟨visit.opened.cluster, settings, now⟩ hdeleting hfinalizer)
  | true =>
      rcases stages.releasedWhen_of_deleting hdeleting hfinalizer with ⟨⟨hleft, _⟩, _⟩ | ⟨hleft, _⟩
      · exact .inr hleft
      · exact .inl hleft

theorem edits : managed.Edits visit.object visit.left.object := by
  rcases hdeleting : visit.object.metadata.isDeleting with _ | _
  · exact (stages.owned_of_normal hdeleting).1
  · rcases stages.left_of_deleting hdeleting with hleft | hleft
    · rw [hleft]
      exact Managed.Edits.refl _
    · rw [hleft]
      exact Managed.edits_removeFinalizer _

/-- A delete pass has nothing to say about the status. -/
theorem status_of_deleting (hdeleting : visit.Deleting) :
    visit.left.object.status = visit.object.status := by
  rcases stages.left_of_deleting hdeleting with hleft | hleft <;> rw [hleft]
  rfl

end Stages

namespace Serves

variable {view : W → Timeline managed «namespace» name} {others : Conduct managed}
variable (hserves : world.Serves view others)
include hserves

theorem openScope_drifts (object : managed.Resource) (w : W) :
    Drifts others (view w) (view (world.openScope object w).2) :=
  (Scope.reads_enter object () (view w)).eval (world.access managed) view hserves.access w

/-- While a pass is under way, other writers come in, but the engine writes nothing until the scope
is closed. -/
theorem drifts_of_stages (stages : world.Stages settings «namespace» name w visit after) :
    ∃ asked, Drifts others (view w) asked ∧ asked.current = some visit.object ∧
      ∃ ready, Drifts others asked (view ready) ∧
        world.closeScope settings.closeRetries visit.left ready =
          ((visit.final, visit.closed), after) := by
  obtain ⟨answer, hanswer, asked, answered, hasked, hfetch, hfetched⟩ :=
    hserves.access (.fetch «namespace» name) w
  rw [stages.fetch_eq] at hanswer hfetched
  obtain rfl := Outcome.returned.inj hanswer
  obtain ⟨rfl, hfound⟩ := hfetch
  have hopened := hserves.openScope_drifts visit.object stages.fetched
  rw [stages.open_eq] at hopened
  refine ⟨answered, hasked, (hfound rfl rfl _ rfl).symm, ?_⟩
  obtain ⟨-, ready, hran, hclose⟩ := stages.runs
  have hanswers : ∀ question w, Drifts others (view w) (view (stages.answers question w).2) :=
    hserves.outside _ _
  have hbody := Program.drifts_run hanswers stages.program stages.opened
  rw [hran] at hbody
  exact ⟨ready, (hfetched.trans hopened).trans hbody, hclose⟩

/-- What other writers keep, the object that a pass fetches has from the one that was stored when
the pass began. -/
theorem part_of_fetched {α : Type} {part : managed.Resource → α} (hkeeps : others.Keeps part)
    (hvisit : world.visit managed settings «namespace» name w = (some visit, after)) :
    ∃ given, (view w).current = some given ∧ part visit.object = part given := by
  obtain ⟨stages⟩ := stages_of_visit hvisit
  obtain ⟨asked, hasked, hcurrent, -⟩ := hserves.drifts_of_stages stages
  exact hasked.part_eq hkeeps hcurrent

/-- What the steps of closing keep holds at the end of a pass, if it holds when the scope is
closed. -/
theorem settles_of_visit {holds : Scope managed → Timeline managed «namespace» name → Prop}
    (hkept : Scope.Kept others holds)
    (hvisit : world.visit managed settings «namespace» name w = (some visit, after))
    (hstart : ∀ asked ready, Drifts others (view w) asked → asked.current = some visit.object →
      Drifts others asked ready → holds visit.left ready) :
    Scope.Settles others holds visit.final (.returned visit.closed) (view after) := by
  obtain ⟨stages⟩ := stages_of_visit hvisit
  obtain ⟨asked, hasked, hcurrent, ready, hready, hclose⟩ := hserves.drifts_of_stages stages
  have hedits := stages.edits
  have hleft := stages.left_eq
  have htracks : visit.left.Tracks (view ready) := by
    rw [hleft]
    exact ⟨(Timeline.knows_of_current hcurrent).evolves hready, hedits.version, hedits.foreign⟩
  have hheld : Scope.Held holds visit.left (view ready) :=
    ⟨htracks, hstart asked (view ready) hasked hcurrent hready⟩
  have hended := (Scope.closeAfter_ensures hkept hheld 0 settings.closeRetries).eval
    (world.access managed) view hserves.access ready
  change Scope.Settles others holds (world.closeScope settings.closeRetries visit.left ready).1.1
    (.returned (world.closeScope settings.closeRetries visit.left ready).1.2)
    (view (world.closeScope settings.closeRetries visit.left ready).2) at hended
  rwa [hclose] at hended

/-- A pass that does not come to open a scope writes nothing. -/
theorem drifts_of_no_visit
    (hvisit : world.visit managed settings «namespace» name w = (none, after)) :
    Drifts others (view w) (view after) := by
  have hfetch :
      Drifts others (view w) (view (world.access managed (.fetch «namespace» name) w).2) :=
    Timeline.drifts_of_served (fun _ _ _ => And.left) (hserves.access (.fetch «namespace» name) w)
  unfold World.visit at hvisit
  generalize world.access managed (.fetch «namespace» name) w = fetch at hfetch hvisit
  rcases fetch with ⟨error | _ | object, fetched⟩
  · obtain rfl := congrArg Prod.snd hvisit
    exact hfetch
  · obtain rfl := congrArg Prod.snd hvisit
    exact hfetch
  · have hopen := hserves.openScope_drifts object fetched
    dsimp only at hvisit
    generalize world.openScope object fetched = entry at hopen hvisit
    rcases entry with ⟨error | opened, w⟩
    · obtain rfl := congrArg Prod.snd hvisit
      exact hfetch.trans hopen
    · simp at hvisit

end Serves

/-- A pass of a run that came to open the scope of its object. -/
structure Stage (managed : Managed) (W : Type) where
  before : W
  visit : Visit managed
  after : W

/-- A run of passes over one object, each with settings of its own.  Between passes the world may
change as long as the engine writes nothing to the object. -/
inductive Run (world : World W) (view : W → Timeline managed «namespace» name)
    (others : Conduct managed) : W → List (Stage managed W) → W → Prop
  | start (w : W) : Run world view others w [] w
  | visited {w before after : W} {stages : List (Stage managed W)} {visit : Visit managed}
      (settings : Settings) (hrun : Run world view others w stages before)
      (hvisit : world.visit managed settings «namespace» name before = (some visit, after)) :
      Run world view others w (stages ++ [⟨before, visit, after⟩]) after
  | missed {w before after : W} {stages : List (Stage managed W)} (settings : Settings)
      (hrun : Run world view others w stages before)
      (hvisit : world.visit managed settings «namespace» name before = (none, after)) :
      Run world view others w stages after
  | meanwhile {w before after : W} {stages : List (Stage managed W)}
      (hrun : Run world view others w stages before)
      (hdrifts : Drifts others (view before) (view after)) :
      Run world view others w stages after

/-- The passes of a run are passes of the world. -/
theorem Run.visit_of_mem {view : W → Timeline managed «namespace» name}
    {others : Conduct managed} {stages : List (Stage managed W)}
    (hrun : Run world view others w stages after) {stage : Stage managed W}
    (hmem : stage ∈ stages) :
    ∃ settings, world.visit managed settings «namespace» name stage.before =
      (some stage.visit, stage.after) := by
  induction hrun with
  | start => simp at hmem
  | visited settings _ hvisit ih =>
      rcases List.mem_append.mp hmem with hearlier | hlast
      · exact ih hearlier
      · obtain rfl := List.mem_singleton.mp hlast
        exact ⟨settings, hvisit⟩
  | missed _ _ _ ih => exact ih hmem
  | meanwhile _ _ ih => exact ih hmem

/-- A run is made of the passes that came to open a scope and of what other writers do meanwhile. -/
theorem Run.drift_induction {view : W → Timeline managed «namespace» name}
    {others : Conduct managed} {first last : W} {stages : List (Stage managed W)}
    {motive : (last : W) → (stages : List (Stage managed W)) →
      world.Run view others first stages last → Prop}
    (serves : world.Serves view others) (start : motive first [] (.start first))
    (visited : ∀ {before after : W} {stages : List (Stage managed W)} {visit : Visit managed}
      (settings : Settings) (hrun : world.Run view others first stages before)
      (hvisit : world.visit managed settings «namespace» name before = (some visit, after)),
      motive before stages hrun → motive after _ (hrun.visited settings hvisit))
    (drifted : ∀ {before after : W} {stages : List (Stage managed W)}
      (hrun : world.Run view others first stages before)
      (hdrifts : Drifts others (view before) (view after)),
      motive before stages hrun → motive after stages (hrun.meanwhile hdrifts))
    (hrun : world.Run view others first stages last) : motive last stages hrun := by
  induction hrun with
  | start => exact start
  | visited settings hrun hvisit ih => exact visited settings hrun hvisit ih
  | missed settings hrun hvisit ih => exact drifted hrun (serves.drifts_of_no_visit hvisit) ih
  | meanwhile hrun hdrifts ih => exact drifted hrun hdrifts ih

end World

end Reconciler
