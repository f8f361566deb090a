import Reconciler.Proofs.ApiServer
import Reconciler.Proofs.Marks

/-!
# Closing a scope among other writers

Closing writes metadata and status, each over the version read or saved last, and starts again from
the newest version after a conflict.  What its four steps keep, it keeps: a change by other writers,
a saved write of the metadata, a saved write of the status, and the move to a newer copy.
-/

namespace Reconciler

open Timeline (Drifts)

namespace Scope

variable {managed : Managed} {«namespace» name : String}

/-- The scope works on a version of its object, and changed nothing in it but marks and status. -/
structure Tracks (scope : Scope managed) (timeline : Timeline managed «namespace» name) : Prop where
  known : timeline.Knows scope.stored
  version : scope.object.metadata.resourceVersion = scope.stored.metadata.resourceVersion
  foreign : managed.foreignPart scope.object = managed.foreignPart scope.stored

/-- What a write of the metadata stores over the version that the scope holds. -/
def metadataWrite (scope : Scope managed) : managed.Resource :=
  { scope.object with status := scope.stored.status }

/-- What a write of the status stores over the version that the scope holds. -/
def statusWrite (scope : Scope managed) : managed.Resource :=
  { scope.stored with status := scope.object.status }

/-- The scope after a write of the metadata. -/
def metadataSaved (scope : Scope managed) (saved : managed.Resource) : Scope managed :=
  { scope with stored := saved, object := { scope.object with metadata := saved.metadata } }

/-- The scope after a write of the status. -/
def statusSaved (scope : Scope managed) (saved : managed.Resource) : Scope managed :=
  { scope with
    stored := saved
    object := scope.object.mapMetadata fun metadata =>
      { metadata with resourceVersion := saved.metadata.resourceVersion } }

/-- Nothing is left to write. -/
def Clean (scope : Scope managed) : Prop :=
  scope.metadataChanged = false ∧
    (scope.released = true ∨ scope.object.status = scope.stored.status)

/-- A statement about a scope and the timeline of its object that the steps of closing keep. -/
structure Kept (others : Conduct managed)
    (holds : Scope managed → Timeline managed «namespace» name → Prop) : Prop where
  drift : ∀ {scope before after}, scope.Tracks before → holds scope before →
    Drifts others before after → holds scope after
  metadata : ∀ {scope before after version}, scope.Tracks before → holds scope before →
    scope.metadataChanged = true → before.current = some scope.stored →
    after.versions = ⟨.engine, scope.metadataWrite.withVersion version⟩ :: before.versions →
    holds (scope.metadataSaved (scope.metadataWrite.withVersion version)) after
  status : ∀ {scope before after version}, scope.Tracks before → holds scope before →
    scope.metadataChanged = false → scope.released = false →
    before.current = some scope.stored →
    after.versions = ⟨.engine, scope.statusWrite.withVersion version⟩ :: before.versions →
    holds (scope.statusSaved (scope.statusWrite.withVersion version)) after
  rebase : ∀ {scope timeline latest}, scope.Tracks timeline → holds scope timeline →
    timeline.current = some latest → holds (scope.rebased latest) timeline

namespace Tracks

variable {scope : Scope managed} {before after timeline : Timeline managed «namespace» name}
variable {others : Conduct managed}

theorem drift (htracks : scope.Tracks before) (hdrifts : Drifts others before after) :
    scope.Tracks after :=
  ⟨htracks.known.evolves hdrifts, htracks.version, htracks.foreign⟩

/-- A write over the newest version is a write over the version that the scope holds. -/
theorem current_eq_stored (htracks : scope.Tracks timeline) {current : managed.Resource}
    (hcurrent : timeline.current = some current)
    (hversion : scope.object.metadata.resourceVersion = current.metadata.resourceVersion) :
    current = scope.stored :=
  (Timeline.knows_of_current hcurrent).eq_of_resourceVersion htracks.known
    (hversion.symm.trans htracks.version)

theorem named (htracks : scope.Tracks timeline) :
    scope.object.metadata.Named «namespace» name := by
  obtain ⟨version, hmem, hstored⟩ := htracks.known
  have hnamed := timeline.named version hmem
  rw [hstored] at hnamed
  have hname := congrArg (fun part => (part.metadata.namespaceAny, part.metadata.nameAny))
    htracks.foreign
  obtain ⟨hspace, hcalled⟩ := Prod.mk.injEq .. ▸ hname
  exact ⟨hspace.trans hnamed.1, hcalled.trans hnamed.2⟩

theorem metadata {version : String} {older : List (Version managed)}
    (hversions : after.versions = ⟨.engine, scope.metadataWrite.withVersion version⟩ :: older) :
    (scope.metadataSaved (scope.metadataWrite.withVersion version)).Tracks after where
  known := ⟨_, hversions ▸ List.mem_cons_self .., rfl⟩
  version := rfl
  foreign := rfl

theorem status (htracks : scope.Tracks before) {version : String} {older : List (Version managed)}
    (hversions : after.versions = ⟨.engine, scope.statusWrite.withVersion version⟩ :: older) :
    (scope.statusSaved (scope.statusWrite.withVersion version)).Tracks after where
  known := ⟨_, hversions ▸ List.mem_cons_self .., rfl⟩
  version := rfl
  foreign := htracks.foreign

theorem rebase (htracks : scope.Tracks timeline) {latest : managed.Resource}
    (hlatest : timeline.current = some latest) : (scope.rebased latest).Tracks timeline where
  known := Timeline.knows_of_current hlatest
  version := resourceVersion_rebased latest
  foreign := foreignPart_rebased htracks.foreign latest

end Tracks

/-- The object was removed. -/
def Gone (others : Conduct managed) (timeline : Timeline managed «namespace» name) : Prop :=
  ∃ empty : Timeline managed «namespace» name,
    empty.current = none ∧ Drifts others empty timeline

/-- The scope is on the track, and the statement holds of it. -/
structure Held (holds : Scope managed → Timeline managed «namespace» name → Prop)
    (scope : Scope managed) (timeline : Timeline managed «namespace» name) : Prop where
  tracks : scope.Tracks timeline
  holds : holds scope timeline

section

variable {others : Conduct managed}
variable {holds : Scope managed → Timeline managed «namespace» name → Prop}
variable {scope : Scope managed} {before after timeline : Timeline managed «namespace» name}

theorem Held.drift (hheld : Held holds scope before) (hkept : Kept others holds)
    (hdrifts : Drifts others before after) : Held holds scope after :=
  ⟨hheld.tracks.drift hdrifts, hkept.drift hheld.tracks hheld.holds hdrifts⟩

/-- How one write may end.  It may be stored though its answer gets lost, and then the statement
holds of a scope which is not the one that is left. -/
structure WriteEnds (others : Conduct managed)
    (holds : Scope managed → Timeline managed «namespace» name → Prop) (scope : Scope managed)
    (write : managed.Resource) (next : managed.Resource → Scope managed)
    (answer : Except Error managed.Resource) (after : Timeline managed «namespace» name) :
    Prop where
  saved : ∀ saved, answer = .ok saved →
    Held holds (next saved) after ∧ ∃ version, saved = write.withVersion version
  lost : ∀ error, answer = .error error → ∃ reached, Held holds reached after
  refused : ∀ error, answer = .error error → error.isConflict = true ∨ error.isNotFound = true →
    Held holds scope after
  gone : ∀ error, answer = .error error → error.isNotFound = true → Gone others after

theorem writeEnds_of_writes {merge : managed.Resource → managed.Resource}
    {next : managed.Resource → Scope managed} {answer : Except Error managed.Resource}
    {asked answered : Timeline managed «namespace» name} (hkept : Kept others holds)
    (hheld : Held holds scope before) (hbefore : Drifts others before asked)
    (hwrites : Timeline.Writes scope.object merge answer asked answered)
    (hafter : Drifts others answered after)
    (hnext : ∀ version, Held holds scope asked → asked.current = some scope.stored →
      answered.versions =
        ⟨.engine, (merge scope.stored).withVersion version⟩ :: asked.versions →
      Held holds (next ((merge scope.stored).withVersion version)) answered) :
    WriteEnds others holds scope (merge scope.stored) next answer after := by
  have hasked := hheld.drift hkept hbefore
  cases hwrites with
  | refused _ error hgone =>
      have hleft := hasked.drift hkept hafter
      refine ⟨fun saved heq => by simp at heq, fun _ _ => ⟨scope, hleft⟩, fun _ _ _ => hleft, ?_⟩
      rintro _ ⟨⟩ hnotFound
      exact ⟨asked, hgone hnotFound hasked.tracks.named, hafter⟩
  | elsewhere _ _ hother => exact absurd hasked.tracks.named hother
  | accepted _ _ _ current saved version hcurrent hversion hsaved hversions hanswer =>
      obtain rfl := hasked.tracks.current_eq_stored hcurrent hversion
      subst hsaved
      have hleft := (hnext version hasked hcurrent hversions).drift hkept hafter
      rcases hanswer with rfl | ⟨error, rfl, hconflict, hnotFound⟩
      · exact ⟨fun saved heq => by cases heq; exact ⟨hleft, version, rfl⟩,
          fun error heq => by simp at heq,
          fun error heq => by simp at heq, fun error heq => by simp at heq⟩
      · refine ⟨fun saved heq => by simp at heq, fun _ _ => ⟨_, hleft⟩, ?_, ?_⟩
        · rintro _ ⟨⟩ hkind
          simp [hconflict, hnotFound] at hkind
        · rintro _ ⟨⟩ hkind
          simp [hnotFound] at hkind

theorem served_replace {ending : Outcome (Except Error managed.Resource)}
    (hkept : Kept others holds) (hheld : Held holds scope before)
    (hchanged : scope.metadataChanged = true)
    (hserved : Timeline.served others (.replace scope.object) ending before after) :
    ∃ answer, ending = .returned answer ∧
      WriteEnds others holds scope scope.metadataWrite scope.metadataSaved answer after := by
  obtain ⟨answer, hending, asked, answered, hbefore, hwrites, hafter⟩ := hserved
  refine ⟨answer, hending, writeEnds_of_writes hkept hheld hbefore hwrites hafter ?_⟩
  intro version hasked hcurrent hversions
  exact ⟨Tracks.metadata hversions,
    hkept.metadata hasked.tracks hasked.holds hchanged hcurrent hversions⟩

theorem served_replaceStatus {ending : Outcome (Except Error managed.Resource)}
    (hkept : Kept others holds) (hheld : Held holds scope before)
    (hunchanged : scope.metadataChanged = false) (hstays : scope.released = false)
    (hserved : Timeline.served others (.replaceStatus scope.object) ending before after) :
    ∃ answer, ending = .returned answer ∧
      WriteEnds others holds scope scope.statusWrite scope.statusSaved answer after := by
  obtain ⟨answer, hending, asked, answered, hbefore, hwrites, hafter⟩ := hserved
  refine ⟨answer, hending, writeEnds_of_writes hkept hheld hbefore hwrites hafter ?_⟩
  intro version hasked hcurrent hversions
  exact ⟨hasked.tracks.status hversions,
    hkept.status hasked.tracks hasked.holds hunchanged hstays hcurrent hversions⟩

/-- How writing a scope may end. -/
structure Settles (others : Conduct managed)
    (holds : Scope managed → Timeline managed «namespace» name → Prop) (scope : Scope managed)
    (outcome : Outcome (Except Error Unit)) (timeline : Timeline managed «namespace» name) :
    Prop where
  reached : ∃ reached, Held holds reached timeline
  done : outcome = .returned (.ok ()) →
    Held holds scope timeline ∧ (scope.Clean ∨ Gone others timeline)
  again : ∀ error, outcome = .returned (.error error) → error.isConflict = true →
    Held holds scope timeline

/-- A scope that is on the track without everything being written. -/
theorem Held.failed (hheld : Held holds scope timeline) {outcome : Outcome (Except Error Unit)}
    (hfailed : ¬outcome.Succeeded) : Settles others holds scope outcome timeline where
  reached := ⟨scope, hheld⟩
  done := by
    rintro rfl
    exact absurd trivial hfailed
  again := fun _ _ _ => hheld

theorem Held.done (hheld : Held holds scope timeline) (hdone : scope.Clean ∨ Gone others timeline)
    (outcome : Outcome (Except Error Unit)) : Settles others holds scope outcome timeline where
  reached := ⟨scope, hheld⟩
  done := fun _ => ⟨hheld, hdone⟩
  again := fun _ _ _ => hheld

/-- After a write that failed, the scope is where it was if the write may be tried again. -/
theorem WriteEnds.failed {write : managed.Resource} {next : managed.Resource → Scope managed}
    {error : Error} (hends : WriteEnds others holds scope write next (.error error) after) :
    Settles others holds scope (.returned (.error error)) after where
  reached := hends.lost error rfl
  done := by simp
  again := by
    rintro _ ⟨⟩ hconflict
    exact hends.refused error rfl (.inl hconflict)

/-- The second half of writing a scope. -/
def persistStatus : Action (access managed) Error (Scope managed) Unit := do
  let scope ← get
  if scope.released || scope.object.status == scope.stored.status then return
  match ← Action.ask (I := access managed) (.replaceStatus scope.object) with
  | .ok saved => set (scope.statusSaved saved)
  | .error error => if error.isNotFound then return else throw error

theorem persist_eq : (persist : Action (access managed) Error (Scope managed) Unit) = (do
    let scope ← get
    if scope.metadataChanged then
      let saved ←
        Action.ofExcept (← Action.ask (I := access managed) (.replace scope.object))
      set (scope.metadataSaved saved)
      persistStatus
    else persistStatus) := rfl

theorem persistStatus_ensures (hkept : Kept others holds) (hheld : Held holds scope before)
    (hunchanged : scope.metadataChanged = false) :
    (persistStatus scope).Ensures (Timeline.served others) (Settles others holds) before := by
  unfold persistStatus
  simp only [Action.ensures_bind, Action.ensures_get, Outcome.follow_ok]
  by_cases hclean : (scope.released || scope.object.status == scope.stored.status) = true
  · rw [if_pos hclean]
    exact hheld.done (.inl ⟨hunchanged, by simpa using hclean⟩) _
  · rw [if_neg hclean]
    simp only [Bool.or_eq_true, not_or, Bool.not_eq_true] at hclean
    rw [Action.ensures_bind, Action.ensures_ask]
    intro ending after hserved
    obtain ⟨answer, rfl, hends⟩ := served_replaceStatus hkept hheld hunchanged hclean.1 hserved
    rcases answer with error | saved
    · by_cases hnotFound : error.isNotFound = true
      · have hleft := hends.refused error rfl (.inr hnotFound)
        simp only [Outcome.resume_returned, Outcome.follow_ok, hnotFound, if_true,
          Action.ensures_pure]
        exact hleft.done (.inr (hends.gone error rfl hnotFound)) _
      · simp only [Outcome.resume_returned, Outcome.follow_ok, if_neg hnotFound,
          Action.ensures_throw]
        exact hends.failed
    · obtain ⟨hsaved, version, rfl⟩ := hends.saved saved rfl
      exact hsaved.done (.inl ⟨hunchanged, .inr rfl⟩) _

theorem persist_ensures (hkept : Kept others holds) (hheld : Held holds scope before) :
    (persist scope).Ensures (Timeline.served others) (Settles others holds) before := by
  rw [persist_eq]
  simp only [Action.ensures_bind, Action.ensures_get, Outcome.follow_ok]
  by_cases hchanged : scope.metadataChanged = true
  · rw [if_pos hchanged]
    simp only [Action.ensures_bind, Action.ensures_ask]
    intro ending after hserved
    obtain ⟨answer, rfl, hends⟩ := served_replace hkept hheld hchanged hserved
    rcases answer with error | saved
    · exact hends.failed
    · obtain ⟨hsaved, version, rfl⟩ := hends.saved saved rfl
      refine persistStatus_ensures hkept hsaved ?_
      simp [metadataChanged, metadataSaved]
  · rw [if_neg hchanged]
    exact persistStatus_ensures hkept hheld (by simpa using hchanged)

theorem rebase_ensures (hkept : Kept others holds) (hheld : Held holds scope before) :
    (rebase scope).Ensures (Timeline.served others) (fun scope outcome after =>
      Held holds scope after ∧ (outcome = .returned (.ok false) → Gone others after)) before := by
  unfold rebase
  simp only [Action.ensures_bind, Action.ensures_get, Outcome.follow_ok, Action.ensures_ask]
  rintro ending after ⟨answer, rfl, asked, answered, hbefore, hanswers, hafter⟩
  have hasked := hheld.drift hkept hbefore
  obtain ⟨rfl, hfound⟩ := hanswers
  have hcurrent := hfound hasked.tracks.named.1 hasked.tracks.named.2
  rcases answer with error | _ | latest
  · exact ⟨hasked.drift hkept hafter, fun heq => by simp at heq⟩
  · exact ⟨hasked.drift hkept hafter, fun _ => ⟨answered, (hcurrent none rfl).symm, hafter⟩⟩
  · have hlatest := (hcurrent (some latest) rfl).symm
    have hrebased : Held holds (scope.rebased latest) answered :=
      ⟨hasked.tracks.rebase hlatest, hkept.rebase hasked.tracks hasked.holds hlatest⟩
    exact ⟨hrebased.drift hkept hafter, fun heq => by simp at heq⟩

/-- Whatever the steps of closing keep holds of the scope and the timeline after closing, and if
closing succeeds then nothing is left to write or the object is gone. -/
theorem closeAfter_ensures (hkept : Kept others holds) (hheld : Held holds scope before)
    (attempts retries : Nat) :
    (closeAfter attempts retries scope).Ensures (Timeline.served others)
      (Settles others holds) before := by
  induction retries generalizing attempts scope before with
  | zero =>
      unfold closeAfter
      simp only [Action.ensures_bind, Action.ensures_attempt]
      apply (persist_ensures hkept hheld).mono
      intro scope outcome after hsettles
      rcases outcome with (error | _) | _ | text
      · by_cases hconflict : error.isConflict = true
        · have hleft := hsettles.again error rfl hconflict
          simp only [Outcome.resume_returned, Outcome.follow_ok, if_pos hconflict,
            Action.ensures_bind, Action.ensures_get, Action.ensures_throw]
          exact hleft.failed (Outcome.not_succeeded_error _)
        · simp only [Outcome.resume_returned, Outcome.follow_ok, if_neg hconflict,
            Action.ensures_throw]
          exact hsettles
      · exact hsettles
      · exact hsettles
      · exact hsettles
  | succ retries ih =>
      unfold closeAfter
      simp only [Action.ensures_bind, Action.ensures_attempt]
      apply (persist_ensures hkept hheld).mono
      intro scope outcome after hsettles
      rcases outcome with (error | _) | _ | text
      · by_cases hconflict : error.isConflict = true
        · have hleft := hsettles.again error rfl hconflict
          simp only [Outcome.resume_returned, Outcome.follow_ok, if_pos hconflict,
            Action.ensures_bind]
          apply (rebase_ensures hkept hleft).mono
          intro scope outcome after hrebased
          rcases outcome with (error | _ | _) | _ | text
          · exact hrebased.1.failed (Outcome.not_succeeded_error _)
          · exact hrebased.1.done (.inr (hrebased.2 rfl)) _
          · exact ih hrebased.1 (attempts + 1)
          · exact hrebased.1.failed Outcome.not_succeeded_expired
          · exact hrebased.1.failed (Outcome.not_succeeded_panicked _)
        · simp only [Outcome.resume_returned, Outcome.follow_ok, if_neg hconflict,
            Action.ensures_throw]
          exact hsettles
      · exact hsettles
      · exact hsettles
      · exact hsettles

end

end Scope

end Reconciler
