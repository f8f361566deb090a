import Reconciler.Proofs.ImageReadiness
import Reconciler.Proofs.Requeues

/-!
# Images that come up again

A normal pass over an image waits for the next change only when it has found the image active and
left it ready.  A job or an image in a state that nobody knows has it look again after a while.
-/

namespace Reconciler

namespace BodyQuestion

/-- The question is how a job or an image is doing. -/
def Follows : BodyQuestion .image → Prop
  | .cloud (.getJob _) => True
  | .cloud (.getImage _) => True
  | _ => False

end BodyQuestion

namespace Exchange

/-- The call came back with the job. -/
def Polls (job : Job) : OfImage → Prop
  | ⟨.cloud (.getJob _), ending⟩ => ending = .returned (.ok job)
  | _ => False

/-- The call came back with the image. -/
def Shows (found : BootImage) : OfImage → Prop
  | ⟨.cloud (.getImage _), ending⟩ => ending = .returned (.ok found)
  | _ => False

theorem Polls.follows {job : Job} {exchange : OfImage} (hpolls : exchange.Polls job) :
    exchange.question.Follows := by
  rcases exchange with ⟨call | _ | _, ending⟩
  · cases call with
    | getJob => trivial
    | _ => exact hpolls.elim
  · exact hpolls.elim
  · exact hpolls.elim

theorem Shows.follows {found : BootImage} {exchange : OfImage} (hshows : exchange.Shows found) :
    exchange.question.Follows := by
  rcases exchange with ⟨call | _ | _, ending⟩
  · cases call with
    | getImage => trivial
    | _ => exact hshows.elim
  · exact hshows.elim
  · exact hshows.elim

theorem not_shows_of_asksJob {found : BootImage} {exchange : OfImage} (hasks : exchange.AsksJob) :
    ¬exchange.Shows found := by
  rcases exchange with ⟨call | _ | _, ending⟩
  · cases call with
    | getJob => exact id
    | _ => exact hasks.elim
  · exact hasks.elim
  · exact hasks.elim

end Exchange

namespace Image

/-- One of the exchanges came back with the job. -/
def Followed (job : Job) (seen : List OfImage) : Prop := ∃ exchange ∈ seen, exchange.Polls job

/-- One of the exchanges came back with the image. -/
def Sighted (found : BootImage) (seen : List OfImage) : Prop :=
  ∃ exchange ∈ seen, exchange.Shows found

variable {job : Job} {found : BootImage} {early late seen : List OfImage} {after : Image}
variable {outcome : Outcome (Except Error Requeue)} {settings : Settings}

theorem followed_append_iff :
    Followed job (early ++ late) ↔ Followed job early ∨ Followed job late := by
  simp only [Followed, List.mem_append, or_and_right, exists_or]

theorem sighted_append_iff :
    Sighted found (early ++ late) ↔ Sighted found early ∨ Sighted found late := by
  simp only [Sighted, List.mem_append, or_and_right, exists_or]

theorem not_followed_of_quiet (hquiet : ∀ exchange ∈ seen, ¬exchange.question.Follows) :
    ¬Followed job seen :=
  fun ⟨exchange, hmem, hpolls⟩ => hquiet exchange hmem hpolls.follows

theorem not_sighted_of_quiet (hquiet : ∀ exchange ∈ seen, ¬exchange.question.Follows) :
    ¬Sighted found seen :=
  fun ⟨exchange, hmem, hshows⟩ => hquiet exchange hmem hshows.follows

/-- A normal pass over an image does not lose sight of it. -/
structure Heeds (settings : Settings) (after : Image) (outcome : Outcome (Except Error Requeue))
    (seen : List OfImage) : Prop where
  rests : outcome = .returned (.ok .none) →
    after.standing.ready = true ∧ ∃ found, Sighted found seen ∧ found.state = .active
  job : ∀ job word, Followed job seen → job.state = .unknown word →
    Polled settings.jobPoll after.standing.ready outcome
  image : ∀ found word, Sighted found seen → found.state = .unknown word →
    Polled settings.imagePoll after.standing.ready outcome

/-- A pass that has not come to the image. -/
theorem Heeds.of_unsighted (hunsighted : ∀ found, ¬Sighted found seen)
    (hjob : ∀ job word, Followed job seen → job.state = .unknown word →
      Polled settings.jobPoll after.standing.ready outcome)
    (hended : outcome ≠ .returned (.ok .none)) : Heeds settings after outcome seen where
  rests hthis := absurd hthis hended
  job := hjob
  image found _ hsighted := absurd hsighted (hunsighted found)

/-- A pass that has looked at the image. -/
theorem Heeds.of_sighted (hunfollowed : ∀ job, ¬Followed job seen)
    (hsighted : ∀ other, Sighted other seen ↔ found = other)
    (hrests : outcome = .returned (.ok .none) →
      after.standing.ready = true ∧ found.state = .active)
    (hunknown : ∀ word, found.state = .unknown word →
      Polled settings.imagePoll after.standing.ready outcome) :
    Heeds settings after outcome seen where
  rests hended := ⟨(hrests hended).1, found, (hsighted found).mpr rfl, (hrests hended).2⟩
  job job _ hfollowed := absurd hfollowed (hunfollowed job)
  image other word hother hword := by
    obtain rfl := (hsighted other).mp hother
    exact hunknown word hword

/-- A job in a state that nobody knows is followed. -/
theorem reconcileJob_followed (surroundings : Surroundings) (image : Image) :
    (reconcileJob surroundings image).Ensures (.recording _) (fun after outcome seen =>
      ∀ job word, Followed job seen → job.state = .unknown word → after.standing.ready = false ∧
        outcome = .returned (.ok (some (.after surroundings.settings.jobPoll)))) [] := by
  unfold reconcileJob
  simp only [Action.ensures_bind, Action.ensures_get, Outcome.follow_ok]
  rcases Image.jobId image with _ | id
  · simp [Followed]
  · simp only [Action.ensures_bind, Body.ensures_attempt]
    rintro ending _ rfl
    have hfollowed {job : Job} (hthis : Followed job ([] ++ [⟨.cloud (.getJob id), ending⟩])) :
        ending = .returned (.ok job) := by
      simpa [Followed, Exchange.Polls] using hthis
    rcases ending with (error | polled) | _ | text
    · exact fun job _ hthis => absurd (hfollowed hthis) (by simp)
    · -- What is known of the job does not matter: the only other states are known.
      have hother {outcome : Outcome (Except Error (Option Requeue))} {after : Image}
          (hknown : ∀ word, polled.state ≠ .unknown word) (job : Job) (word : String)
          (hthis : Followed job ([] ++ [⟨.cloud (.getJob id), .returned (.ok polled)⟩]))
          (hword : job.state = .unknown word) : after.standing.ready = false ∧
            outcome = .returned (.ok (some (.after surroundings.settings.jobPoll))) := by
        cases hfollowed hthis
        exact absurd hword (hknown word)
      simp only [Outcome.resume_returned, Outcome.follow_ok]
      rcases hstate : polled.state with _ | _ | _ | _ | word
      · exact hother (by simp [hstate])
      · exact hother (by simp [hstate])
      · exact hother (by simp [hstate])
      · exact hother (by simp [hstate])
      · exact fun _ _ _ _ => ⟨rfl, rfl⟩
    · exact fun job _ hthis => absurd (hfollowed hthis) (by simp)
    · exact fun job _ hthis => absurd (hfollowed hthis) (by simp)

theorem asks_getOrCreate (now : Time.Instant) :
    Step.Asks (¬BodyQuestion.Follows ·) (getOrCreate now) := by
  unfold getOrCreate
  apply Step.Asks.get.bind
  intro image
  apply (Step.Asks.callFor id).bind
  intro listing
  split
  · exact Step.Asks.pure _
  · split
    · exact Step.Asks.pure _
    · exact (Step.Asks.ofExcept _).bind fun _ => (Step.Asks.callFor id).bind fun _ =>
        (Step.Asks.modify _).bind fun _ => Step.Asks.pure _

/-- An image that is looked at is ready if it is active.  Otherwise it is looked at again. -/
theorem reconcileImage_sighted (surroundings : Surroundings) (id : String) (image : Image) :
    (reconcileImage surroundings id image).Ensures (.recording _) (fun after outcome seen =>
      (∀ job, ¬Followed job seen) ∧ Heeds surroundings.settings after outcome seen) [] := by
  unfold reconcileImage
  rw [Action.ensures_bind, Body.ensures_callFor]
  rintro ending _ rfl
  have hunfollowed (job : Job) : ¬Followed job ([] ++ [⟨.cloud (.getImage id), ending⟩]) := by
    simp [Followed, Exchange.Polls]
  have hsighted {found : BootImage} : Sighted found ([] ++ [⟨.cloud (.getImage id), ending⟩]) ↔
      ending = .returned (.ok found) := by
    simp [Sighted, Exchange.Shows]
  have hunsighted (hfailed : ¬ending.Succeeded) {outcome : Outcome (Except Error Requeue)}
      (hended : outcome ≠ .returned (.ok .none)) : Heeds surroundings.settings image outcome
        ([] ++ [⟨.cloud (.getImage id), ending⟩]) :=
    .of_unsighted (fun found hthis => hfailed (by rw [hsighted.mp hthis]; trivial))
      (fun job _ hthis => absurd hthis (hunfollowed job)) hended
  rcases ending with (error | found) | _ | text
  · exact ⟨hunfollowed, hunsighted (Outcome.not_succeeded_error _) (by simp)⟩
  · rw [Outcome.mapError_ok, Outcome.follow_ok]
    simp only [Action.ensures_bind, update, Action.ensures_modify, Outcome.follow_ok]
    have hfound (other : BootImage) : Sighted other ([] ++
        [⟨.cloud (.getImage id), .returned (.ok found)⟩]) ↔ found = other :=
      hsighted.trans (by simp)
    rcases hstate : found.state with _ | _ | _ | _ | word
    · exact ⟨hunfollowed, .of_sighted hunfollowed hfound (by simp) (by simp [hstate])⟩
    · exact ⟨hunfollowed, .of_sighted hunfollowed hfound (by simp) (by simp [hstate])⟩
    · exact ⟨hunfollowed,
        .of_sighted hunfollowed hfound (fun _ => ⟨rfl, hstate⟩) (by simp [hstate])⟩
    · exact ⟨hunfollowed, .of_sighted hunfollowed hfound (by simp) (by simp [hstate])⟩
    · exact ⟨hunfollowed, .of_sighted hunfollowed hfound (by simp) fun _ _ => ⟨rfl, rfl⟩⟩
  · exact ⟨hunfollowed, hunsighted Outcome.not_succeeded_expired (by simp)⟩
  · exact ⟨hunfollowed, hunsighted (Outcome.not_succeeded_panicked _) (by simp)⟩

theorem owned_heeds (surroundings : Surroundings) (image : Image) :
    (owned surroundings image).Ensures (.recording _) (Heeds surroundings.settings) [] := by
  unfold owned
  rw [Action.ensures_bind]
  apply (((reconcileJob_ensures surroundings image).and
    (reconcileJob_followed surroundings image)).and
      ((yields_reconcileJob surroundings image).anywhere [])).mono
  rintro polled outcome polls ⟨⟨⟨-, hpolls⟩, hunknown⟩, hyields⟩
  have hpolling (found : BootImage) : ¬Sighted found polls := fun ⟨exchange, hmem, hshows⟩ =>
    Exchange.not_shows_of_asksJob (hpolls exchange hmem) hshows
  rcases outcome with (error | _ | requeue) | _ | text
  · exact .of_unsighted hpolling (fun job word hjob hword =>
      absurd (hunknown job word hjob hword).2 (by simp)) (by simp)
  · rw [Outcome.follow_ok]
    dsimp only
    rw [Action.ensures_bind]
    apply ((asks_getOrCreate surroundings.now polled).recording polls).mono
    rintro listed outcome _ ⟨listings, rfl, hquiet⟩
    -- The job that was polled is not one that nobody knows, as the pass has gone on.
    have hjob (after : Image) (outcome : Outcome (Except Error Requeue)) (job : Job) (word : String)
        (hfollowed : Followed job (polls ++ listings)) (hword : job.state = .unknown word) :
        Polled surroundings.settings.jobPoll after.standing.ready outcome :=
      (followed_append_iff.mp hfollowed).elim
        (fun hthis => absurd (hunknown job word hthis hword).2 (by simp))
        fun hthis => absurd hthis (not_followed_of_quiet hquiet)
    have hunsighted (found : BootImage) : ¬Sighted found (polls ++ listings) := by
      rw [sighted_append_iff]
      exact not_or.mpr ⟨hpolling found, not_sighted_of_quiet hquiet⟩
    rcases outcome with (error | _ | id) | _ | text
    · exact .of_unsighted hunsighted (hjob _ _) (by simp)
    · exact .of_unsighted hunsighted (hjob _ _) (by simp)
    · apply ((reconcileImage_sighted surroundings id listed).recording (polls ++ listings)).mono
      rintro after outcome _ ⟨late, rfl, hunfollowed, hheeds⟩
      refine ⟨fun hended => ?_, fun job word hfollowed hword => ?_,
        fun found word hsighted hword => ?_⟩
      · obtain ⟨hready, found, hsighted, hactive⟩ := hheeds.rests hended
        exact ⟨hready, found, sighted_append_iff.mpr (.inr hsighted), hactive⟩
      · rw [followed_append_iff, or_iff_left (hunfollowed job)] at hfollowed
        exact hjob _ _ job word hfollowed hword
      · rw [sighted_append_iff, or_iff_right (hunsighted found)] at hsighted
        exact hheeds.image found word hsighted hword
    · exact .of_unsighted hunsighted (hjob _ _) (by simp)
    · exact .of_unsighted hunsighted (hjob _ _) (by simp)
  · obtain rfl := hyields _ rfl requeue rfl
    exact .of_unsighted hpolling
      (fun job word hjob hword => ⟨(hunknown job word hjob hword).1, rfl⟩) (by simp)
  · exact .of_unsighted hpolling (fun job word hjob hword =>
      absurd (hunknown job word hjob hword).2 (by simp)) (by simp)
  · exact .of_unsighted hpolling (fun job word hjob hword =>
      absurd (hunknown job word hjob hword).2 (by simp)) (by simp)

theorem reconcileNormal_heeds (surroundings : Surroundings) (fetched : Image) :
    (reconcileNormal surroundings fetched).Ensures (.recording _)
      (Heeds surroundings.settings) [] := by
  have hidle {after : Image} {outcome : Outcome (Except Error Requeue)}
      (hended : outcome ≠ .returned (.ok .none)) : Heeds surroundings.settings after outcome [] :=
    .of_unsighted (fun _ => not_sighted_of_quiet (by simp))
      (fun job _ hfollowed => absurd hfollowed (not_followed_of_quiet (by simp))) hended
  rw [reconcileNormal_eq, Action.ensures_bind]
  apply (Body.takeOwnership_ensures surroundings.cluster fetched []).mono
  rintro marked outcome _ ⟨-, rfl⟩
  rcases outcome with (error | _ | _) | _ | text
  · exact hidle (by simp)
  · rw [Outcome.follow_ok, if_neg Bool.false_ne_true, Action.ensures_bind]
    apply (recordWorkspace_ensures surroundings.cluster marked []).mono
    rintro image _ _ ⟨-, rfl, rfl⟩
    rw [Outcome.follow_ok]
    exact owned_heeds surroundings image
  · exact hidle (by simp)
  · exact hidle (by simp)
  · exact hidle (by simp)

end Image

namespace World

variable {W : Type} {«namespace» name : String} {world : World W} {settings : Settings}
variable {w after : W} {visit : Visit .image}

theorem Stages.heeds_image (stages : world.Stages settings «namespace» name w visit after)
    (hnormal : visit.Normal) :
    Image.Heeds settings visit.left.object visit.ending visit.exchanges :=
  stages.of_reconcileNormal hnormal fun _ => Image.reconcileNormal_heeds _ visit.object

end World

end Reconciler
