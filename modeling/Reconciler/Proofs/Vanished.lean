import Reconciler.Proofs.Ending
import Reconciler.Proofs.Incarnations

/-!
# Closing over an object that vanished

The object may be removed before closing or while it is under way.  Closing meets that once, where
it asks about the object next, and is over then.  Reading it again and writing its status take it
for success that the object is gone.  Writing its metadata does not.
-/

namespace Reconciler

namespace AccessQuestion

variable {managed : Managed}

/-- The answer about an object that is not there. -/
def FindsNone : (question : AccessQuestion managed) → question.Answer → Prop
  | .fetch .., answer => answer = .ok none
  | .replace _, answer => ∃ status : ApiStatus, answer = .error (.api (.refused status)) ∧
      status.code = 404
  | .replaceStatus _, answer => ∃ status : ApiStatus, answer = .error (.api (.refused status)) ∧
      status.code = 404
  | .fetchCluster .., _ => False
  | .connect _, _ => False

/-- The question is the write that comes first in closing, for finalizers, owners and labels. -/
def WritesMetadata : AccessQuestion managed → Prop
  | .replace _ => True
  | _ => False

end AccessQuestion

namespace Exchange

variable {managed : Managed}

/-- The object was not there when the question was asked. -/
def FoundNone (exchange : Exchange (access managed)) : Prop :=
  ∃ answer, exchange.ending = .returned answer ∧ exchange.question.FindsNone answer

end Exchange

/-- An error is not both of an object that is gone and of one that is newer. -/
theorem Error.isConflict_eq_false {error : Error} (hnotFound : error.isNotFound = true) :
    error.isConflict = false := by
  unfold isConflict
  split
  · simp_all [isNotFound]
  · rfl

namespace Scope

variable {managed : Managed} {scope : Scope managed}

/-- How closing ends with an answer about an object that is not there. -/
def Lost (question : AccessQuestion managed) (_ : question.Answer) (result : Except Error Unit) :
    Prop :=
  (result = .ok () ∧ ¬question.WritesMetadata) ∨
    ∃ error, result = .error error ∧ error.isNotFound = true ∧ question.WritesMetadata

theorem Lost.ok_iff {question : AccessQuestion managed} {answer : question.Answer}
    {result : Except Error Unit} (hlost : Lost question answer result) :
    result = .ok () ↔ ¬question.WritesMetadata := by
  rcases hlost with ⟨rfl, hother⟩ | ⟨error, rfl, -, hmetadata⟩
  · simp [hother]
  · simp [hmetadata]

/-- Nothing that fails to be there is also a conflict, so closing does not begin again. -/
theorem Lost.not_conflict {question : AccessQuestion managed} {answer : question.Answer}
    {error : Error} (hlost : Lost question answer (.error error)) : error.isConflict = false := by
  rcases hlost with ⟨hok, -⟩ | ⟨_, ⟨⟩, hnotFound, -⟩
  · simp at hok
  · exact Error.isConflict_eq_false hnotFound

theorem endsOn_persistStatus : Action.EndsOn AccessQuestion.FindsNone Lost
    (persistStatus : Action (access managed) Error (Scope managed) Unit) := by
  unfold persistStatus
  apply Action.EndsOn.get.after
  intro scope
  split
  · exact .pure ()
  · apply Action.EndsOn.ask
    · rintro (error | saved)
      · dsimp only
        split
        · exact .pure ()
        · exact .throw error
      · exact .set _
    · rintro _ state ⟨status, rfl, hcode⟩
      have hnotFound : (Error.api (.refused status)).isNotFound = true := by
        simp [Error.isNotFound, hcode]
      exact ⟨.ok (), .inl ⟨rfl, id⟩, by simp only [hnotFound]; rfl⟩

theorem endsOn_persist : Action.EndsOn AccessQuestion.FindsNone Lost
    (persist : Action (access managed) Error (Scope managed) Unit) := by
  rw [persist_eq]
  apply Action.EndsOn.get.after
  intro scope
  split
  · apply Action.EndsOn.ask
    · exact fun answer => (Action.EndsOn.ofExcept answer).after fun saved =>
        (Action.EndsOn.set _).after fun _ => endsOn_persistStatus
    · rintro _ state ⟨status, rfl, hcode⟩
      exact ⟨.error (.api (.refused status)),
        .inr ⟨_, rfl, by simp [Error.isNotFound, hcode], trivial⟩, rfl⟩
  · exact endsOn_persistStatus

/-- An object that is not found again is one that nothing needs to be written to. -/
theorem endsOn_rebase : Action.EndsOn AccessQuestion.FindsNone
    (fun (question : AccessQuestion managed) _ result =>
      result = .ok false ∧ ¬question.WritesMetadata)
    (rebase : Action (access managed) Error (Scope managed) Bool) := by
  unfold rebase
  apply Action.EndsOn.get.after
  intro scope
  apply Action.EndsOn.ask
  · refine fun answer => (Action.EndsOn.ofExcept answer).after fun latest => ?_
    split
    · exact .pure false
    · exact (Action.EndsOn.set _).after fun _ => .pure true
  · rintro _ state rfl
    exact ⟨.ok false, ⟨rfl, id⟩, rfl⟩

/-- What any attempt to close meets of an object that is gone ends all of them. -/
theorem endsOn_closeAfter (attempts retries : Nat) : Action.EndsOn AccessQuestion.FindsNone Lost
    (closeAfter attempts retries : Action (access managed) Error (Scope managed) Unit) := by
  induction retries generalizing attempts with
  | zero =>
      unfold closeAfter
      apply Action.EndsOn.attempt endsOn_persist
      · rintro (error | _)
        · dsimp only
          split
          · exact Action.EndsOn.get.after fun _ => .throw _
          · exact .throw error
        · exact .pure ()
      · rintro question answer (error | _) state hlost
        · exact ⟨.error error, hlost, by simp only [hlost.not_conflict]; rfl⟩
        · exact ⟨.ok (), hlost, rfl⟩
  | succ retries ih =>
      unfold closeAfter
      apply Action.EndsOn.attempt endsOn_persist
      · rintro (error | _)
        · dsimp only
          split
          · apply endsOn_rebase.bind
            · intro found
              split
              · exact ih (attempts + 1)
              · exact .pure ()
            · rintro question answer error ⟨⟨⟩, -⟩
            · rintro question answer found state ⟨⟨⟩, hother⟩
              exact ⟨.ok (), .inl ⟨rfl, hother⟩, rfl⟩
          · exact .throw error
        · exact .pure ()
      · rintro question answer (error | _) state hlost
        · exact ⟨.error error, hlost, by simp only [hlost.not_conflict]; rfl⟩
        · exact ⟨.ok (), hlost, rfl⟩

/-- Closing begins with the question that writing begins with. -/
theorem close_begins {question : AccessQuestion managed}
    (hpersist : ∃ next, persist scope = .ask scope question next) (retries : Nat) :
    ∃ next, close retries scope = .ask scope question next := by
  obtain ⟨next, hpersist⟩ := hpersist
  cases retries <;> unfold close closeAfter <;>
    exact ⟨_, congrArg (fun program => (Program.bind program _).bind _) hpersist⟩

/-- Closing is done where nothing is to be written. -/
theorem close_done (hpersist : persist scope = .done scope (.ok ())) (retries : Nat) :
    close retries scope = .done scope (.ok ()) := by
  cases retries <;> unfold close closeAfter <;>
    exact congrArg (fun program => (Program.bind program _).bind _) hpersist

/-- Closing begins with the write of the metadata where they changed. -/
theorem close_of_newMetadata (hchanged : scope.metadataChanged = true) (retries : Nat) :
    ∃ next, close retries scope = .ask scope (.replace scope.object) next := by
  apply close_begins
  rw [persist_eq]
  exact ⟨_, congrFun (if_pos hchanged) scope⟩

/-- Where the metadata did not change, closing begins with the write of the status, or is done. -/
theorem close_of_sameMetadata (hunchanged : scope.metadataChanged = false) (retries : Nat) :
    (∃ next, close retries scope = .ask scope (.replaceStatus scope.object) next) ∨
      close retries scope = .done scope (.ok ()) := by
  have hpersist : persist scope = persistStatus scope := by
    rw [persist_eq]
    exact congrFun (if_neg (Bool.eq_false_iff.mp hunchanged)) scope
  by_cases hclean : (scope.released || scope.object.status == scope.stored.status) = true
  · exact .inr (close_done (hpersist.trans (congrFun (if_pos hclean) scope)) retries)
  · exact .inl (close_begins ⟨_, hpersist.trans (congrFun (if_neg hclean) scope)⟩ retries)

/-- A scope that asks nothing when it is closed needs no write. -/
theorem close_of_exchanges_eq_nil {W : Type} {retries : Nat} {w : W}
    {answer : (question : AccessQuestion managed) → W → Outcome question.Answer × W}
    (hnothing : (close retries scope).exchanges (I := access managed) answer w = []) :
    close retries scope = .done scope (.ok ()) := by
  have hasks {question : AccessQuestion managed}
      (hbegins : ∃ next, close retries scope = .ask scope question next) : False := by
    obtain ⟨next, hnext⟩ := hbegins
    rw [hnext, Program.exchanges] at hnothing
    split at hnothing <;> simp at hnothing
  cases hchanged : scope.metadataChanged with
  | true => exact (hasks (close_of_newMetadata hchanged retries)).elim
  | false => exact (close_of_sameMetadata hchanged retries).resolve_left hasks

/-- No metadata was written. -/
def Unmarked (seen : List (Exchange (access managed))) : Prop :=
  ∀ exchange ∈ seen, ¬exchange.question.WritesMetadata

theorem Unmarked.snoc {seen : List (Exchange (access managed))} (hseen : Unmarked seen)
    {exchange : Exchange (access managed)} (hother : ¬exchange.question.WritesMetadata) :
    Unmarked (seen ++ [exchange]) := by
  intro later hmem
  rcases List.mem_append.mp hmem with hmem | hmem
  · exact hseen later hmem
  · rwa [List.mem_singleton.mp hmem]

theorem metadataChanged_rebased (hunchanged : scope.metadataChanged = false)
    (latest : managed.Resource) : (scope.rebased latest).metadataChanged = false := by
  simp only [metadataChanged, Bool.or_eq_false_iff, bne_eq_false_iff_eq] at hunchanged
  obtain ⟨⟨hfinalizers, howners⟩, hlabels⟩ := hunchanged
  have hfinalizer : scope.rebaseFinalizer latest.metadata = latest.metadata := by
    simp [rebaseFinalizer, Managed.hasFinalizer, Metadata.hasFinalizer, hfinalizers]
  have hadded : scope.addedOwners = [] := by
    simp [addedOwners, Metadata.owners, howners]
  have hset : scope.addedLabels = [] := by
    rw [List.eq_nil_iff_forall_not_mem]
    intro label hmem
    obtain ⟨hobject, hstored⟩ := mem_addedLabels_iff.mp hmem
    simp [Metadata.label?, hlabels] at hobject hstored
    exact hstored hobject
  have hmetadata : (scope.rebased latest).object.metadata = latest.metadata := by
    rw [metadata_rebased, rebaseLabels_eq_foldl, rebaseOwners_eq_foldl, hfinalizer, hadded, hset]
    rfl
  have hstored : (scope.rebased latest).stored = latest := rfl
  simp [metadataChanged, hmetadata, hstored]

theorem persist_unmarked (hunchanged : scope.metadataChanged = false)
    {early : List (Exchange (access managed))} (hearly : Unmarked early) :
    (persist scope).Ensures (.recording (access managed)) (fun left outcome seen => Unmarked seen ∧
      (¬outcome.Succeeded → left = scope)) early := by
  rw [persist_eq]
  simp only [Action.ensures_bind, Action.ensures_get, Outcome.follow_ok, hunchanged]
  unfold persistStatus
  simp only [Action.ensures_bind, Action.ensures_get, Outcome.follow_ok, Bool.false_eq_true,
    if_false]
  split
  · exact ⟨hearly, fun _ => rfl⟩
  · rw [Action.ensures_bind, Action.ensures_ask]
    rintro ending _ rfl
    have hseen : Unmarked (early ++ [⟨.replaceStatus scope.object, ending⟩]) := hearly.snoc id
    rcases ending with (error | saved) | _ | text
    · simp only [Outcome.resume_returned, Outcome.follow_ok]
      split
      · exact ⟨hseen, fun _ => rfl⟩
      · exact ⟨hseen, fun _ => rfl⟩
    · exact ⟨hseen, fun hfailed => absurd (Outcome.succeeded_ok _) hfailed⟩
    · exact ⟨hseen, fun _ => rfl⟩
    · exact ⟨hseen, fun _ => rfl⟩

theorem rebase_unmarked (hunchanged : scope.metadataChanged = false)
    {early : List (Exchange (access managed))} (hearly : Unmarked early) :
    (rebase scope).Ensures (.recording (access managed)) (fun left _ seen => Unmarked seen ∧
      left.metadataChanged = false) early := by
  unfold rebase
  simp only [Action.ensures_bind, Action.ensures_get, Outcome.follow_ok, Action.ensures_ask]
  rintro ending _ rfl
  have hseen : Unmarked (early ++ [⟨.fetch scope.object.metadata.namespaceAny
      scope.object.metadata.nameAny, ending⟩]) := hearly.snoc id
  rcases ending with (error | _ | latest) | _ | text
  · exact ⟨hseen, hunchanged⟩
  · exact ⟨hseen, hunchanged⟩
  · exact ⟨hseen, metadataChanged_rebased hunchanged latest⟩
  · exact ⟨hseen, hunchanged⟩
  · exact ⟨hseen, hunchanged⟩

/-- Where only the status changed, no attempt to close writes the metadata. -/
theorem closeAfter_unmarked (hunchanged : scope.metadataChanged = false) (attempts retries : Nat)
    {early : List (Exchange (access managed))} (hearly : Unmarked early) :
    (closeAfter attempts retries scope).Ensures (.recording (access managed))
      (fun _ _ seen => Unmarked seen) early := by
  induction retries generalizing attempts scope early with
  | zero =>
      unfold closeAfter
      simp only [Action.ensures_bind, Action.ensures_attempt]
      apply (persist_unmarked hunchanged hearly).mono
      rintro left outcome seen ⟨hseen, -⟩
      rcases outcome with (error | _) | _ | text
      · simp only [Outcome.resume_returned, Outcome.follow_ok]
        split <;> exact hseen
      · exact hseen
      · exact hseen
      · exact hseen
  | succ retries ih =>
      unfold closeAfter
      simp only [Action.ensures_bind, Action.ensures_attempt]
      apply (persist_unmarked hunchanged hearly).mono
      rintro left outcome seen ⟨hseen, hsame⟩
      rcases outcome with (error | _) | _ | text
      · obtain rfl := hsame (Outcome.not_succeeded_error error)
        simp only [Outcome.resume_returned, Outcome.follow_ok]
        split
        · rw [Action.ensures_bind]
          apply (rebase_unmarked hunchanged hseen).mono
          rintro left outcome seen ⟨hseen, hunchanged⟩
          rcases outcome with (error | _ | _) | _ | text
          · exact hseen
          · exact hseen
          · exact ih hunchanged (attempts + 1) hseen
          · exact hseen
          · exact hseen
        · exact hseen
      · exact hseen
      · exact hseen
      · exact hseen

end Scope

namespace World

variable {W : Type} {managed : Managed}

/-- Closing in a world, as a run in which every question is answered. -/
theorem run_replies (world : World W) {σ α : Type}
    (program : Program (Reconciler.access managed) σ α) (w : W) :
    program.run (world.replies managed) w =
      (((program.eval (world.access managed) w).1.1,
        .returned (program.eval (world.access managed) w).1.2),
        (program.eval (world.access managed) w).2) := by
  induction program generalizing w with
  | done state value => rfl
  | ask state question next ih => exact ih _ _

/-- The object is gone from some moment on, before closing or while it is under way: the exchanges
after that moment, `late`, are all about an object that is not there, and there are some unless
closing has nothing to ask at all.  There is only one, and closing succeeds unless this is the write
of the metadata, which is refused then.  So closing always succeeds where the metadata did not
change, and when the object is gone before closing begins it succeeds only there. -/
theorem vanished_closes_iff (world : World W) (retries : Nat) (scope : Scope managed) (w : W)
    {early late : List (Exchange (Reconciler.access managed))}
    (hsplit : (Scope.close retries scope).exchanges (world.replies managed) w = early ++ late)
    (hgone : ∀ exchange ∈ late, exchange.FoundNone) (hbefore : late = [] → early = []) :
    late.length ≤ 1 ∧
    ((world.closeScope retries scope w).1.2 = .ok () ↔
      ∀ exchange ∈ late, ¬exchange.question.WritesMetadata) ∧
    (scope.metadataChanged = false → (world.closeScope retries scope w).1.2 = .ok ()) ∧
    (early = [] →
      ((world.closeScope retries scope w).1.2 = .ok () ↔ scope.metadataChanged = false)) := by
  have hiff : late.length ≤ 1 ∧ ((world.closeScope retries scope w).1.2 = .ok () ↔
      ∀ exchange ∈ late, ¬exchange.question.WritesMetadata) := by
    rcases late with _ | ⟨exchange, later⟩
    · rw [hbefore rfl] at hsplit
      have hdone := Scope.close_of_exchanges_eq_nil hsplit
      simp [closeScope, hdone, Program.eval]
    · obtain ⟨answer, hending, hanswer⟩ := hgone exchange (List.mem_cons_self ..)
      obtain ⟨rfl, result, hlost, hran⟩ := (Scope.endsOn_closeAfter 0 retries scope).last
        (world.replies managed) w hsplit hending hanswer
      rw [run_replies] at hran
      have hclosed : (world.closeScope retries scope w).1.2 = result := Outcome.returned.inj hran
      simpa [hclosed] using hlost.ok_iff
  have hunchanged (hsame : scope.metadataChanged = false) :
      (world.closeScope retries scope w).1.2 = .ok () := by
    have hseen : Scope.Unmarked (early ++ late) := by
      rw [← hsplit]
      exact (Scope.closeAfter_unmarked hsame 0 retries (by simp [Scope.Unmarked])
        ).exchanges_recording (world.replies managed) w
    exact hiff.2.mpr fun exchange hmem => hseen exchange (List.mem_append_right early hmem)
  refine ⟨hiff.1, hiff.2, hunchanged, ?_⟩
  rintro rfl
  refine ⟨fun hclosed => ?_, hunchanged⟩
  -- Changed metadata are written first, and this write is among the late exchanges.
  by_contra hchanged
  obtain ⟨next, hnext⟩ := Scope.close_of_newMetadata (by simpa using hchanged) retries
  have hlate : ⟨.replace scope.object, (world.replies managed (.replace scope.object) w).1⟩ ∈
      late := by
    rw [List.nil_append, hnext] at hsplit
    rw [← hsplit]
    exact List.mem_cons_self ..
  exact hiff.2.mp hclosed _ hlate trivial

end World

/-- A store in which writes meet newer versions a number of times, until the object is gone. -/
def World.vanishing : World Nat where
  access
    | _, .fetch .., left => (.ok none, left)
    | _, .fetchCluster .., left => (.ok none, left)
    | _, .connect _, left => ((), left)
    | _, .replace _, left =>
      (.error (.api (.refused (if left = 0 then .notFound else .conflict))), left - 1)
    | _, .replaceStatus _, left =>
      (.error (.api (.refused (if left = 0 then .notFound else .conflict))), left - 1)
  outside _ _ _ _ left := (.expired, left)
  clock _ := 0
  now _ := ⟨0, 0⟩

/-- A scope in which the finalizer was put on an image. -/
def Bench.marked : Scope .image where
  stored := image.mapMetadata fun metadata => { metadata with finalizers := none }
  object := image
  cluster := none
  target := image.target none

namespace World

/-- The write of the metadata meets a newer version, and the image that is read again is gone. -/
theorem vanished_after_conflict : ∃ early late,
    (Scope.close 3 Bench.marked).exchanges (vanishing.replies .image) 1 = early ++ late ∧
    early ≠ [] ∧ late ≠ [] ∧ (∀ exchange ∈ late, exchange.FoundNone) ∧
    (vanishing.closeScope 3 Bench.marked 1).1.2 = .ok () := by
  have hsplit : (Scope.close 3 Bench.marked).exchanges (vanishing.replies .image) 1 =
      [⟨.replace Bench.image, .returned (.error (.api (.refused .conflict)))⟩] ++
        [⟨.fetch "default" "boot", .returned (.ok none)⟩] := rfl
  have hgone : ∀ exchange ∈ ([⟨.fetch "default" "boot", .returned (.ok none)⟩] :
      List (Exchange (Reconciler.access .image))), exchange.FoundNone := by
    simp [Exchange.FoundNone, AccessQuestion.FindsNone]
  refine ⟨_, _, hsplit, by simp, by simp, hgone, ?_⟩
  apply (vanished_closes_iff vanishing 3 Bench.marked 1 hsplit hgone (by simp)).2.1.mpr
  simp [AccessQuestion.WritesMetadata]

/-- The image is gone before it is closed, and the write of the finalizer fails over that. -/
theorem vanished_fails : ∃ late,
    (Scope.close 3 Bench.marked).exchanges (vanishing.replies .image) 0 = late ∧
    (∀ exchange ∈ late, exchange.FoundNone) ∧
    (vanishing.closeScope 3 Bench.marked 0).1.2 = .error (.api (.refused .notFound)) := by
  have hexchanges : (Scope.close 3 Bench.marked).exchanges (vanishing.replies .image) 0 =
      [⟨.replace Bench.image, .returned (.error (.api (.refused .notFound)))⟩] := rfl
  refine ⟨_, hexchanges, ?_, rfl⟩
  simp [Exchange.FoundNone, AccessQuestion.FindsNone, ApiStatus.notFound]

end World

end Reconciler
