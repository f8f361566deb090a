import Reconciler.Proofs.Vanished

/-!
# The attempts of closing

Closing is a number of attempts to write what changed, and the object is read again between them.
What is asked next, and how closing ends, follows from what was asked and answered so far.
-/

namespace Reconciler

/-- What comes after an answer: an attempt, the second half of one, an attempt that met a newer
version, one that failed, or nothing. -/
inductive Lead where
  | attempt
  | status
  | stale
  | failed (error : Error)
  | over
deriving DecidableEq

namespace Exchange

variable {managed : Managed}

/-- What the answer leads to. -/
def lead : Exchange (access managed) → Lead
  | ⟨.fetch .., .returned (.ok (some _))⟩ => .attempt
  | ⟨.fetch .., .returned (.error error)⟩ => .failed error
  | ⟨.replace _, .returned (.ok _)⟩ => .status
  | ⟨.replace _, .returned (.error error)⟩ => if error.isConflict then .stale else .failed error
  | ⟨.replaceStatus _, .returned (.error error)⟩ =>
    if error.isConflict then .stale else if error.isNotFound then .over else .failed error
  | _ => .over

/-- The object is read. -/
def rereads : Exchange (access managed) → Bool
  | ⟨.fetch .., _⟩ => true
  | _ => false

/-- The error that was answered. -/
def error? : Exchange (access managed) → Option Error
  | ⟨.fetch .., .returned (.error error)⟩ => some error
  | ⟨.replace _, .returned (.error error)⟩ => some error
  | ⟨.replaceStatus _, .returned (.error error)⟩ => some error
  | _ => none

/-- The copy of the object that was answered: what was read or saved. -/
def copy? : Exchange (access managed) → Option managed.Resource
  | ⟨.fetch .., .returned (.ok found)⟩ => found
  | ⟨.replace _, .returned (.ok saved)⟩ => some saved
  | ⟨.replaceStatus _, .returned (.ok saved)⟩ => some saved
  | _ => none

theorem lead_ne_stale {exchange : Exchange (access managed)} (hrereads : exchange.rereads = true) :
    exchange.lead ≠ .stale := by
  rcases exchange with ⟨_ | _ | _ | _ | _, (error | _ | found) | _ | text⟩ <;>
    simp [rereads, lead] at hrereads ⊢

/-- Reading the object again leads to an attempt if it is found, and to nothing more otherwise. -/
theorem read?_or_last {exchange : Exchange (access managed)} (hrereads : exchange.rereads = true) :
    exchange.read?.isSome = true ∨
      exchange.lead = .over ∨ ∃ error, exchange.lead = .failed error := by
  rcases exchange with ⟨_ | _ | _ | _ | _, (error | _ | found) | _ | text⟩ <;>
    simp [rereads, lead, read?] at hrereads ⊢

theorem rereads_of_read? {exchange : Exchange (access managed)}
    (hread : exchange.read?.isSome = true) : exchange.rereads = true := by
  unfold read? at hread
  split at hread
  · rfl
  · simp at hread

/-- An error that cannot be got over leads to nothing more. -/
theorem lead_of_error? {exchange : Exchange (access managed)} {error : Error}
    (herror : exchange.error? = some error)
    (hserious : exchange.rereads = true ∨ error.isConflict = false ∧ error.isNotFound = false) :
    exchange.lead = .failed error := by
  rcases exchange with ⟨_ | _ | _ | _ | _, (other | found) | _ | text⟩ <;>
    grind [rereads, lead, error?]

theorem error?_of_lead {exchange : Exchange (access managed)} {error : Error}
    (hlead : exchange.lead = .failed error) : exchange.error? = some error := by
  rcases exchange with ⟨_ | _ | _ | _ | _, (other | _ | found) | _ | text⟩ <;> grind [lead, error?]

end Exchange

namespace Scope

variable {managed : Managed}

/-- The scope after an answer. -/
def heard (scope : Scope managed) : Exchange (access managed) → Scope managed
  | ⟨.fetch .., .returned (.ok (some latest))⟩ => scope.rebased latest
  | ⟨.replace _, .returned (.ok saved)⟩ => scope.metadataSaved saved
  | ⟨.replaceStatus _, .returned (.ok saved)⟩ => scope.statusSaved saved
  | _ => scope

/-- The scope after a number of answers. -/
def along (scope : Scope managed) (seen : List (Exchange (access managed))) : Scope managed :=
  seen.foldl heard scope

/-- What the last answer leads to.  Closing begins with an attempt. -/
def leading (seen : List (Exchange (access managed))) : Lead :=
  (seen.getLast?.map (·.lead)).getD .attempt

/-- The write of the status, if it is needed. -/
def dueStatus (scope : Scope managed) : Option (AccessQuestion managed) :=
  if scope.released || scope.object.status == scope.stored.status then none
  else some (.replaceStatus scope.object)

/-- The first write of an attempt, if one is needed. -/
def due (scope : Scope managed) : Option (AccessQuestion managed) :=
  if scope.metadataChanged then some (.replace scope.object) else scope.dueStatus

/-- What closing asks next. -/
def next (retries : Nat) (scope : Scope managed) (seen : List (Exchange (access managed))) :
    Option (AccessQuestion managed) :=
  let now := scope.along seen
  match leading seen with
  | .attempt => now.due
  | .status => now.dueStatus
  | .stale =>
    if seen.countP (·.rereads) < retries then
      some (.fetch now.object.metadata.namespaceAny now.object.metadata.nameAny)
    else none
  | .failed _ => none
  | .over => none

/-- How closing ends. -/
def verdict (retries : Nat) (scope : Scope managed) (seen : List (Exchange (access managed))) :
    Except Error Unit :=
  match leading seen with
  | .stale => .error (.conflict (scope.along seen).object.metadata.key (retries + 1))
  | .failed error => .error error
  | .attempt => .ok ()
  | .status => .ok ()
  | .over => .ok ()

/-- What closing asks, one question after the other. -/
inductive Asked (retries : Nat) (scope : Scope managed) :
    List (Exchange (access managed)) → Prop
  | start : Asked retries scope []
  | snoc {seen : List (Exchange (access managed))} (question : AccessQuestion managed)
      (ending : Outcome question.Answer) (hasked : Asked retries scope seen)
      (hnext : scope.next retries seen = some question) :
      Asked retries scope (seen ++ [⟨question, ending⟩])

section

variable {retries : Nat} {scope left : Scope managed}
variable {early late seen : List (Exchange (access managed))} {exchange : Exchange (access managed)}

@[simp]
theorem along_nil : scope.along [] = scope := rfl

@[simp]
theorem along_snoc : scope.along (seen ++ [exchange]) = (scope.along seen).heard exchange := by
  simp [along]

@[simp]
theorem leading_nil : leading ([] : List (Exchange (access managed))) = .attempt := rfl

@[simp]
theorem leading_snoc : leading (seen ++ [exchange]) = exchange.lead := by
  simp [leading]

/-- How an attempt ends. -/
structure Attempted (retries : Nat) (scope : Scope managed)
    (early : List (Exchange (access managed))) (left : Scope managed)
    (outcome : Outcome (Except Error Unit)) (seen : List (Exchange (access managed))) : Prop where
  asked : Asked retries scope seen
  along : left = scope.along seen
  rereads : seen.countP (·.rereads) = early.countP (·.rereads)
  done : outcome = .returned (.ok ()) →
    scope.next retries seen = none ∧ scope.verdict retries seen = .ok ()
  failed : ∀ error, outcome = .returned (.error error) →
    leading seen = if error.isConflict then .stale else .failed error

theorem persistStatus_attempted (hasked : Asked retries scope early)
    (hlead : leading early = .status ∨
      leading early = .attempt ∧ (scope.along early).metadataChanged = false) :
    (persistStatus (scope.along early)).Ensures (.recording (access managed))
      (Attempted retries scope early) early := by
  have hnext : scope.next retries early = (scope.along early).dueStatus := by
    rcases hlead with hlead | ⟨hlead, hunchanged⟩
    · simp [next, hlead]
    · simp [next, hlead, due, hunchanged]
  have hverdict : scope.verdict retries early = .ok () := by
    rcases hlead with hlead | ⟨hlead, -⟩ <;> simp [verdict, hlead]
  unfold persistStatus
  simp only [Action.ensures_bind, Action.ensures_get, Outcome.follow_ok]
  rw [dueStatus] at hnext
  split at hnext
  · next hclean =>
    rw [if_pos hclean]
    exact ⟨hasked, rfl, rfl, fun _ => ⟨hnext, hverdict⟩, by simp⟩
  · next hdirty =>
    rw [if_neg hdirty, Action.ensures_bind, Action.ensures_ask]
    rintro ending _ rfl
    have hnow : Asked retries scope
        (early ++ [⟨.replaceStatus (scope.along early).object, ending⟩]) :=
      hasked.snoc (.replaceStatus (scope.along early).object) ending hnext
    rcases ending with (error | saved) | _ | text
    · simp only [Outcome.resume_returned, Outcome.follow_ok]
      split
      · next hnotFound =>
        have hconflict := Error.isConflict_eq_false hnotFound
        exact ⟨hnow, by simp [heard], by simp [Exchange.rereads],
          fun _ => by simp [next, verdict, Exchange.lead, hconflict, hnotFound], by simp⟩
      · next hnotFound =>
        refine ⟨hnow, by simp [heard], by simp [Exchange.rereads], by simp, ?_⟩
        rintro _ ⟨⟩
        simp [Exchange.lead, hnotFound]
    · exact ⟨hnow, by simp [heard], by simp [Exchange.rereads],
        fun _ => by simp [next, verdict, Exchange.lead], by simp⟩
    · exact ⟨hnow, by simp [heard], by simp [Exchange.rereads], by simp, by simp⟩
    · exact ⟨hnow, by simp [heard], by simp [Exchange.rereads], by simp, by simp⟩

theorem persist_attempted (hasked : Asked retries scope early) (hlead : leading early = .attempt) :
    (persist (scope.along early)).Ensures (.recording (access managed))
      (Attempted retries scope early) early := by
  rw [persist_eq]
  simp only [Action.ensures_bind, Action.ensures_get, Outcome.follow_ok]
  by_cases hchanged : (scope.along early).metadataChanged = true
  · have hnext : scope.next retries early = some (.replace (scope.along early).object) := by
      simp [next, hlead, due, hchanged]
    rw [if_pos hchanged]
    simp only [Action.ensures_bind, Action.ensures_ask]
    rintro ending _ rfl
    have hnow : Asked retries scope
        (early ++ [⟨.replace (scope.along early).object, ending⟩]) := hasked.snoc _ ending hnext
    rcases ending with (error | saved) | _ | text
    · refine ⟨hnow, by simp [heard], by simp [Exchange.rereads], by simp, ?_⟩
      rintro _ ⟨⟩
      simp [Exchange.lead]
    · have hstatus := persistStatus_attempted hnow (.inl (by simp [Exchange.lead]))
      rw [along_snoc] at hstatus
      apply hstatus.mono
      rintro _ _ _ ⟨hasked, hleft, hrereads, hdone, hfailed⟩
      exact ⟨hasked, hleft, by simpa [Exchange.rereads] using hrereads, hdone, hfailed⟩
    · exact ⟨hnow, by simp [heard], by simp [Exchange.rereads], by simp, by simp⟩
    · exact ⟨hnow, by simp [heard], by simp [Exchange.rereads], by simp, by simp⟩
  · rw [if_neg hchanged]
    exact persistStatus_attempted hasked (.inr ⟨hlead, by simpa using hchanged⟩)

theorem rebase_asked (hasked : Asked retries scope early) (hlead : leading early = .stale)
    (hfew : early.countP (·.rereads) < retries) :
    (rebase (scope.along early)).Ensures (.recording (access managed)) (fun left outcome seen =>
      Asked retries scope seen ∧ left = scope.along seen ∧
        seen.countP (·.rereads) = early.countP (·.rereads) + 1 ∧
        ∀ result, outcome = .returned result → leading seen = match result with
          | .ok true => .attempt
          | .ok false => .over
          | .error error => .failed error) early := by
  unfold rebase
  simp only [Action.ensures_bind, Action.ensures_get, Outcome.follow_ok, Action.ensures_ask]
  rintro ending _ rfl
  have hnext : scope.next retries early = some (.fetch
      (scope.along early).object.metadata.namespaceAny
      (scope.along early).object.metadata.nameAny) := by
    rw [next, hlead]
    exact if_pos hfew
  have hnow := hasked.snoc _ ending hnext
  have hcount (exchange : Exchange (access managed)) (hreads : exchange.rereads = true) :
      (early ++ [exchange]).countP (·.rereads) = early.countP (·.rereads) + 1 := by
    simp [hreads]
  rcases ending with (error | _ | latest) | _ | text
  · exact ⟨hnow, by simp [heard], hcount _ rfl, by rintro _ ⟨⟩; simp [Exchange.lead]⟩
  · exact ⟨hnow, by simp [heard], hcount _ rfl, by rintro _ ⟨⟩; simp [Exchange.lead]⟩
  · exact ⟨hnow, by simp [heard], hcount _ rfl, by rintro _ ⟨⟩; simp [Exchange.lead]⟩
  · exact ⟨hnow, by simp [heard], hcount _ rfl, by simp⟩
  · exact ⟨hnow, by simp [heard], hcount _ rfl, by simp⟩

/-- How closing goes: it asks what is to be asked next until there is nothing, and leaves the scope
and the verdict of what it was answered. -/
structure Followed (retries : Nat) (scope left : Scope managed)
    (outcome : Outcome (Except Error Unit)) (seen : List (Exchange (access managed))) : Prop where
  asked : Asked retries scope seen
  along : left = scope.along seen
  done : ∀ result, outcome = .returned result →
    scope.next retries seen = none ∧ scope.verdict retries seen = result

theorem Followed.of_returned {result : Except Error Unit} (hasked : Asked retries scope seen)
    (hnext : scope.next retries seen = none) (hverdict : scope.verdict retries seen = result) :
    Followed retries scope (scope.along seen) (.returned result) seen := by
  refine ⟨hasked, rfl, ?_⟩
  rintro _ ⟨⟩
  exact ⟨hnext, hverdict⟩

/-- An attempt that does not meet a newer version is the last one. -/
theorem Attempted.followed {left : Scope managed} {outcome : Outcome (Except Error Unit)}
    (hattempted : Attempted retries scope early left outcome seen)
    (hclear : ∀ error, outcome = .returned (.error error) → error.isConflict = false) :
    Followed retries scope left outcome seen := by
  obtain ⟨hasked, rfl, -, hdone, hfailed⟩ := hattempted
  rcases outcome with (error | _) | _ | text
  · have hended := hfailed error rfl
    rw [if_neg (by simp [hclear error rfl])] at hended
    exact .of_returned hasked (by simp [next, hended]) (by simp [verdict, hended])
  · exact .of_returned hasked (hdone rfl).1 (hdone rfl).2
  · exact ⟨hasked, rfl, by simp⟩
  · exact ⟨hasked, rfl, by simp⟩

theorem closeAfter_followed {attempts remaining : Nat} (hretries : attempts + remaining = retries)
    (hasked : Asked retries scope early) (hlead : leading early = .attempt)
    (hrereads : early.countP (·.rereads) = attempts) :
    (closeAfter attempts remaining (scope.along early)).Ensures (.recording (access managed))
      (Followed retries scope) early := by
  induction remaining generalizing attempts early with
  | zero =>
      unfold closeAfter
      simp only [Action.ensures_bind, Action.ensures_attempt]
      apply (persist_attempted hasked hlead).mono
      rintro left ((error | _) | _ | text) seen hattempted
      · simp only [Outcome.resume_returned, Outcome.follow_ok]
        by_cases hconflict : error.isConflict = true
        · obtain ⟨hasked, rfl, hcount, -, hfailed⟩ := hattempted
          have hended := hfailed error rfl
          rw [if_pos hconflict] at hended ⊢
          have hall : ¬seen.countP (·.rereads) < retries := by omega
          have hattempts : attempts = retries := hretries
          exact .of_returned hasked (by simp [next, hended, hall])
            (by simp [verdict, hended, hattempts])
        · rw [if_neg hconflict]
          exact hattempted.followed (by simpa using hconflict)
      · exact hattempted.followed (by simp)
      · exact hattempted.followed (by simp)
      · exact hattempted.followed (by simp)
  | succ remaining ih =>
      unfold closeAfter
      simp only [Action.ensures_bind, Action.ensures_attempt]
      apply (persist_attempted hasked hlead).mono
      rintro left ((error | _) | _ | text) seen hattempted
      · simp only [Outcome.resume_returned, Outcome.follow_ok]
        by_cases hconflict : error.isConflict = true
        · obtain ⟨hasked, rfl, hcount, -, hfailed⟩ := hattempted
          have hended := hfailed error rfl
          rw [if_pos hconflict] at hended ⊢
          rw [Action.ensures_bind]
          apply (rebase_asked hasked hended (by omega)).mono
          rintro left ((error | _ | _) | _ | text) seen ⟨hasked, rfl, hmore, hlead⟩
          · exact .of_returned hasked (by simp [next, hlead _ rfl]) (by simp [verdict, hlead _ rfl])
          · exact .of_returned hasked (by simp [next, hlead _ rfl]) (by simp [verdict, hlead _ rfl])
          · exact ih (by omega) hasked (hlead _ rfl) (by omega)
          · exact ⟨hasked, rfl, by simp⟩
          · exact ⟨hasked, rfl, by simp⟩
        · rw [if_neg hconflict]
          exact hattempted.followed (by simpa using hconflict)
      · exact hattempted.followed (by simp)
      · exact hattempted.followed (by simp)
      · exact hattempted.followed (by simp)

/-- Each question was the next one where it was asked. -/
theorem Asked.next_eq (hasked : Asked retries scope seen)
    (hsplit : seen = early ++ exchange :: late) :
    scope.next retries early = some exchange.question := by
  induction hasked generalizing late with
  | start => simp at hsplit
  | snoc question ending _ hnext ih =>
      rcases late.eq_nil_or_concat' with rfl | ⟨rest, last, rfl⟩
      · obtain ⟨rfl, hlast⟩ := List.append_inj' hsplit rfl
        obtain rfl := List.singleton_inj.mp hlast
        exact hnext
      · rw [← List.cons_append, ← List.append_assoc] at hsplit
        exact ih (List.append_inj' hsplit rfl).1

/-- Closing goes on as long as there is something to ask. -/
theorem Asked.head?_eq (hasked : Asked retries scope seen) (hdone : scope.next retries seen = none)
    (hsplit : seen = early ++ late) :
    late.head?.map (·.question) = scope.next retries early := by
  rcases late with _ | ⟨exchange, late⟩
  · rw [List.append_nil] at hsplit
    rw [← hsplit, hdone]
    rfl
  · exact (hasked.next_eq hsplit).symm

/-- After an answer that leads to nothing more, nothing more is asked. -/
theorem Asked.last (hasked : Asked retries scope seen) (hsplit : seen = early ++ exchange :: late)
    (hlead : exchange.lead = .over ∨ ∃ error, exchange.lead = .failed error) : late = [] := by
  rcases late with _ | ⟨later, rest⟩
  · rfl
  · rw [List.append_cons] at hsplit
    have hnext := hasked.next_eq hsplit
    rcases hlead with hlead | ⟨error, hlead⟩ <;> simp [next, hlead] at hnext

/-- The object is read again exactly after a write that met a newer version. -/
theorem rereads_of_next {question : AccessQuestion managed}
    (hnext : scope.next retries seen = some question) (ending : Outcome question.Answer) :
    Exchange.rereads ⟨question, ending⟩ = decide (leading seen = .stale) := by
  have hstatus {now : Scope managed} (hdue : now.dueStatus = some question) :
      Exchange.rereads ⟨question, ending⟩ = false := by
    simp only [dueStatus, Option.ite_none_left_eq_some, Option.some.injEq] at hdue
    obtain ⟨-, rfl⟩ := hdue
    rfl
  unfold next at hnext
  rcases hlead : leading seen with _ | _ | _ | error | _ <;> simp only [hlead] at hnext
  · rw [due] at hnext
    split at hnext
    · obtain rfl := Option.some.inj hnext
      rfl
    · exact hstatus hnext
  · exact hstatus hnext
  · split at hnext
    · obtain rfl := Option.some.inj hnext
      rfl
    · simp at hnext
  · simp at hnext
  · simp at hnext

theorem lt_of_next (hlead : leading seen = .stale) {question : AccessQuestion managed}
    (hnext : scope.next retries seen = some question) : seen.countP (·.rereads) < retries := by
  simp only [next, hlead, Option.ite_none_right_eq_some] at hnext
  exact hnext.1

/-- The object is read again at most as often as closing may. -/
theorem Asked.rereads_le (hasked : Asked retries scope seen) :
    seen.countP (·.rereads) ≤ retries := by
  induction hasked with
  | start => simp
  | @snoc seen question ending _ hnext ih =>
      rw [List.countP_append, List.countP_singleton, rereads_of_next hnext ending]
      by_cases hlead : leading seen = .stale
      · simpa [hlead, Nat.succ_le_iff] using lt_of_next hlead hnext
      · simpa [hlead] using ih

/-- Each refusal of a write is followed by reading the object again, up to the last one. -/
theorem Asked.countP_stale (hasked : Asked retries scope seen) :
    seen.countP (·.lead = .stale) =
      seen.countP (·.rereads) + if leading seen = .stale then 1 else 0 := by
  induction hasked with
  | start => simp
  | @snoc seen question ending _ hnext ih =>
      have hrereads := rereads_of_next hnext ending
      rw [List.countP_append, List.countP_append, ih, leading_snoc, List.countP_singleton,
        List.countP_singleton, hrereads]
      by_cases hlead : leading seen = .stale
      · have hanswered : Exchange.lead ⟨question, ending⟩ ≠ .stale :=
          Exchange.lead_ne_stale (by simpa [hlead] using hrereads)
        simp [hlead, hanswered]
      · simp [hlead]

theorem dueStatus_eq_some_iff {question : AccessQuestion managed} :
    scope.dueStatus = some question ↔ scope.object.status ≠ scope.stored.status ∧
      scope.released = false ∧ .replaceStatus scope.object = question := by
  simp [dueStatus, and_assoc, and_left_comm]

theorem due_eq_some_iff {question : AccessQuestion managed} :
    scope.due = some question ↔
      scope.metadataChanged = true ∧ .replace scope.object = question ∨
      scope.metadataChanged = false ∧ scope.dueStatus = some question := by
  cases hchanged : scope.metadataChanged <;> simp [due, hchanged]

theorem next_eq_replace_iff {sent : managed.Resource} :
    scope.next retries seen = some (.replace sent) ↔ leading seen = .attempt ∧
      (scope.along seen).metadataChanged = true ∧ (scope.along seen).object = sent := by
  rcases hlead : leading seen with _ | _ | _ | error | _ <;>
    simp [next, hlead, due_eq_some_iff, dueStatus_eq_some_iff]

theorem next_eq_replaceStatus_iff {sent : managed.Resource} :
    scope.next retries seen = some (.replaceStatus sent) ↔
      (leading seen = .status ∨
        leading seen = .attempt ∧ (scope.along seen).metadataChanged = false) ∧
      (scope.along seen).object.status ≠ (scope.along seen).stored.status ∧
      (scope.along seen).released = false ∧ (scope.along seen).object = sent := by
  rcases hlead : leading seen with _ | _ | _ | error | _ <;>
    simp [next, hlead, due_eq_some_iff, dueStatus_eq_some_iff]

theorem next_eq_fetch_iff {«namespace» name : String} :
    scope.next retries seen = some (.fetch «namespace» name) ↔ leading seen = .stale ∧
      seen.countP (·.rereads) < retries ∧
      (scope.along seen).object.metadata.namespaceAny = «namespace» ∧
      (scope.along seen).object.metadata.nameAny = name := by
  rcases hlead : leading seen with _ | _ | _ | error | _ <;>
    simp [next, hlead, due_eq_some_iff, dueStatus_eq_some_iff]

theorem Asked.of_append (hasked : Asked retries scope seen) (hsplit : seen = early ++ late) :
    Asked retries scope early := by
  induction hasked generalizing late with
  | start =>
      obtain ⟨rfl, -⟩ := List.nil_eq_append_iff.mp hsplit
      exact .start
  | @snoc seen question ending hasked hnext ih =>
      rcases late.eq_nil_or_concat' with rfl | ⟨rest, last, rfl⟩
      · rw [List.append_nil] at hsplit
        rw [← hsplit]
        exact hasked.snoc question ending hnext
      · rw [← List.append_assoc] at hsplit
        exact ih (List.append_inj' hsplit rfl).1

theorem metadataChanged_metadataSaved (saved : managed.Resource) :
    (scope.metadataSaved saved).metadataChanged = false := by
  simp [metadataChanged, metadataSaved]

/-- Metadata that did not change are not changed by what is heard, as far as closing goes on. -/
theorem metadataChanged_heard (hunchanged : scope.metadataChanged = false) :
    (scope.heard exchange).metadataChanged = false ∨ exchange.lead = .over := by
  unfold heard
  split
  · exact .inl (metadataChanged_rebased hunchanged _)
  · exact .inl (metadataChanged_metadataSaved _)
  · exact .inr rfl
  · exact .inl hunchanged

theorem metadataChanged_heard_of_status (hlead : exchange.lead = .status) :
    (scope.heard exchange).metadataChanged = false := by
  unfold Exchange.lead at hlead
  split at hlead
  any_goals grind
  exact metadataChanged_metadataSaved _

/-- Once the metadata were written there is no other write of them. -/
theorem Asked.written (hasked : Asked retries scope seen)
    (hsplit : seen = early ++ exchange :: late) (hlead : exchange.lead = .status) :
    (scope.along seen).metadataChanged = false ∨ leading seen = .over := by
  induction hasked generalizing late with
  | start => simp at hsplit
  | @snoc seen question ending _ hnext ih =>
      rw [along_snoc, leading_snoc]
      rcases late.eq_nil_or_concat' with rfl | ⟨rest, last, rfl⟩
      · obtain ⟨rfl, hlast⟩ := List.append_inj' hsplit rfl
        rw [List.singleton_inj.mp hlast]
        exact .inl (metadataChanged_heard_of_status hlead)
      · rw [← List.cons_append, ← List.append_assoc] at hsplit
        rcases ih (List.append_inj' hsplit rfl).1 with hunchanged | hover
        · exact metadataChanged_heard hunchanged
        · simp [next, hover] at hnext

theorem stored_heard : (scope.heard exchange).stored = exchange.copy?.getD scope.stored := by
  rcases exchange with ⟨_ | _ | _ | _ | _, (error | _ | saved) | _ | text⟩ <;> rfl

/-- The working copy is compared with the copy that was read or saved last. -/
theorem stored_along : (scope.along seen).stored =
    (seen.filterMap (·.copy?)).getLast?.getD scope.stored := by
  induction seen generalizing scope with
  | nil => rfl
  | cons exchange seen ih =>
      rw [List.filterMap_cons]
      refine ih.trans ?_
      rw [stored_heard]
      rcases exchange.copy? with _ | copy
      · rfl
      · rw [Option.getD_some]
        dsimp only
        rw [List.getLast?_cons, Option.getD_some]

/-- The number of attempts: one, and another one for each copy that was read again. -/
def attempts (seen : List (Exchange (access managed))) : Nat :=
  seen.countP (·.read?.isSome) + 1

theorem attempts_le (seen : List (Exchange (access managed))) :
    attempts seen ≤ seen.countP (·.rereads) + 1 :=
  Nat.add_le_add_right
    (List.countP_mono_left fun _ _ hread => Exchange.rereads_of_read? hread) 1

/-- All that reading the object again finds is tried. -/
theorem attempts_eq (hfound : ∀ exchange ∈ seen, exchange.rereads = true →
    exchange.read?.isSome = true) : attempts seen = seen.countP (·.rereads) + 1 :=
  congrArg (· + 1) (List.countP_congr fun exchange hmem =>
    ⟨Exchange.rereads_of_read?, hfound exchange hmem⟩)

/-- Where closing ends with a refused write, reading the object again has found it each time. -/
theorem Asked.found_of_stale (hasked : Asked retries scope seen) (hlead : leading seen = .stale) :
    ∀ exchange ∈ seen, exchange.rereads = true → exchange.read?.isSome = true := by
  intro exchange hmem hrereads
  obtain ⟨early, late, hsplit⟩ := List.append_of_mem hmem
  refine (Exchange.read?_or_last hrereads).resolve_right fun hlast => ?_
  obtain rfl := hasked.last hsplit hlast
  rw [hsplit, leading_snoc] at hlead
  exact Exchange.lead_ne_stale hrereads hlead

end

/-- Closing is bounded and asks for nothing that it does not need.  It ends with the scope `left`
and the `result` after what it has `seen`, and has the scope `scope.along early` after the answers
in `early`. -/
structure Frugal (retries : Nat) (scope : Scope managed) (seen : List (Exchange (access managed)))
    (left : Scope managed) (result : Except Error Unit) : Prop where
  rereads : seen.countP (·.rereads) ≤ retries
  attempts : attempts seen ≤ retries + 1
  /-- Closing gives up after all attempts were refused, with the object found again each time.  The
  error is its own; should a store answer with it, it is handed on like others. -/
  conflict : ∀ key, result = .error (.conflict key (retries + 1)) ↔
    (key = left.object.metadata.key ∧ Scope.attempts seen = retries + 1 ∧
      seen.countP (·.lead = .stale) = retries + 1 ∧
      ∀ exchange ∈ seen, exchange.rereads = true → exchange.read?.isSome = true) ∨
    ∃ exchange ∈ seen, exchange.error? = some (.conflict key (retries + 1))
  /-- An error that closing cannot get over is handed on at once. -/
  failure : ∀ early exchange late error, seen = early ++ exchange :: late →
    exchange.error? = some error →
    exchange.rereads = true ∨ error.isConflict = false ∧ error.isNotFound = false →
    late = [] ∧ result = .error error
  /-- What the working copy is compared with was read or saved last. -/
  copy : ∀ early late, seen = early ++ late → (scope.along early).stored =
    (early.filterMap (·.copy?)).getLast?.getD scope.stored
  /-- The metadata are written where an attempt begins, if they differ. -/
  metadata : ∀ early late sent, seen = early ++ late →
    (late.head?.map (·.question) = some (.replace sent) ↔ leading early = .attempt ∧
      (scope.along early).metadataChanged = true ∧ (scope.along early).object = sent)
  /-- The status is written after the metadata, or where these do not differ, if the status does and
  the object is not released. -/
  status : ∀ early late sent, seen = early ++ late →
    (late.head?.map (·.question) = some (.replaceStatus sent) ↔
      (leading early = .status ∨
        leading early = .attempt ∧ (scope.along early).metadataChanged = false) ∧
      (scope.along early).object.status ≠ (scope.along early).stored.status ∧
      (scope.along early).released = false ∧ (scope.along early).object = sent)
  /-- The object is read again after a write that was refused. -/
  again : ∀ early late «namespace» name, seen = early ++ late →
    (late.head?.map (·.question) = some (.fetch «namespace» name) ↔ leading early = .stale ∧
      early.countP (·.rereads) < retries ∧
      (scope.along early).object.metadata.namespaceAny = «namespace» ∧
      (scope.along early).object.metadata.nameAny = name)
  /-- Accepted metadata are not written again. -/
  once : ∀ early exchange late, seen = early ++ exchange :: late → exchange.lead = .status →
    ∀ later ∈ late, ¬later.question.WritesMetadata
  left : left = scope.along seen

section

variable {retries : Nat} {scope left : Scope managed} {result : Except Error Unit}
variable {early late seen : List (Exchange (access managed))} {exchange : Exchange (access managed)}

theorem exists_of_leading_failed {error : Error} (hlead : leading seen = .failed error) :
    ∃ exchange ∈ seen, exchange.error? = some error := by
  unfold leading at hlead
  rcases hlast : seen.getLast? with _ | last
  · simp [hlast] at hlead
  · rw [hlast] at hlead
    exact ⟨last, List.mem_of_getLast? hlast, Exchange.error?_of_lead hlead⟩

theorem Asked.failed_at_once (hasked : Asked retries scope seen) {error : Error}
    (hsplit : seen = early ++ exchange :: late) (herror : exchange.error? = some error)
    (hserious : exchange.rereads = true ∨ error.isConflict = false ∧ error.isNotFound = false) :
    late = [] ∧ scope.verdict retries seen = .error error := by
  have hlead := Exchange.lead_of_error? herror hserious
  obtain rfl := hasked.last hsplit (.inr ⟨error, hlead⟩)
  exact ⟨rfl, by rw [hsplit, verdict, leading_snoc, hlead]⟩

/-- Closing gives up exactly after it was refused as often as it may try. -/
theorem Asked.gives_up_iff (hasked : Asked retries scope seen)
    (hdone : scope.next retries seen = none) (key : String) :
    scope.verdict retries seen = .error (.conflict key (retries + 1)) ↔
      (key = (scope.along seen).object.metadata.key ∧ attempts seen = retries + 1 ∧
        seen.countP (·.lead = .stale) = retries + 1 ∧
        ∀ exchange ∈ seen, exchange.rereads = true → exchange.read?.isSome = true) ∨
      ∃ exchange ∈ seen, exchange.error? = some (.conflict key (retries + 1)) := by
  have hcount := hasked.countP_stale
  have hrereads := hasked.rereads_le
  constructor
  · intro hgives
    rcases hlead : leading seen with _ | _ | _ | error | _ <;> simp only [verdict, hlead] at hgives
    · simp at hgives
    · simp at hgives
    · have hfound := hasked.found_of_stale hlead
      have hall : ¬seen.countP (·.rereads) < retries := fun hfew => by
        simp [next, hlead, hfew] at hdone
      rw [if_pos hlead] at hcount
      rw [attempts_eq hfound]
      simp only [Except.error.injEq, Error.conflict.injEq] at hgives
      exact .inl ⟨hgives.1.symm, by omega, by omega, hfound⟩
    · obtain rfl := Except.error.inj hgives
      exact .inr (exists_of_leading_failed hlead)
    · simp at hgives
  · rintro (⟨rfl, -, hrefused, -⟩ | ⟨exchange, hmem, herror⟩)
    · have hlead : leading seen = .stale := by
        by_contra hother
        rw [if_neg hother] at hcount
        omega
      simp [verdict, hlead]
    · obtain ⟨early, late, hsplit⟩ := List.append_of_mem hmem
      exact (hasked.failed_at_once hsplit herror (.inr ⟨rfl, rfl⟩)).2

theorem Asked.not_written (hasked : Asked retries scope seen)
    (hsplit : seen = early ++ exchange :: late) (hlead : exchange.lead = .status) :
    ∀ later ∈ late, ¬later.question.WritesMetadata := by
  intro later hmem hwrites
  obtain ⟨before, after, rfl⟩ := List.append_of_mem hmem
  rw [← List.cons_append, ← List.append_assoc] at hsplit
  have hnext := hasked.next_eq hsplit
  obtain ⟨sent, hsent⟩ : ∃ sent, later.question = .replace sent := by
    unfold AccessQuestion.WritesMetadata at hwrites
    split at hwrites
    · exact ⟨_, ‹_›⟩
    · exact hwrites.elim
  rw [hsent, next_eq_replace_iff] at hnext
  rcases (hasked.of_append hsplit).written rfl hlead with hunchanged | hover
  · simp [hunchanged] at hnext
  · simp [hover] at hnext

theorem Followed.frugal (hfollowed : Followed retries scope left (.returned result) seen) :
    Frugal retries scope seen left result := by
  obtain ⟨hasked, rfl, hended⟩ := hfollowed
  obtain ⟨hdone, rfl⟩ := hended result rfl
  exact {
    rereads := hasked.rereads_le
    attempts := Nat.le_trans (attempts_le seen) (Nat.add_le_add_right hasked.rereads_le 1)
    conflict := hasked.gives_up_iff hdone
    failure := fun _ _ _ _ => hasked.failed_at_once
    copy := fun _ _ _ => stored_along
    metadata := fun _ _ _ hsplit => by
      rw [hasked.head?_eq hdone hsplit, next_eq_replace_iff]
    status := fun _ _ _ hsplit => by
      rw [hasked.head?_eq hdone hsplit, next_eq_replaceStatus_iff]
    again := fun _ _ _ _ hsplit => by
      rw [hasked.head?_eq hdone hsplit, next_eq_fetch_iff]
    once := fun _ _ _ hsplit hlead => hasked.not_written hsplit hlead
    left := rfl }

end

end Scope

/-- Closing in any world, with any scope and number of retries, is bounded and asks for nothing that
it does not need. -/
theorem World.close_frugal {W : Type} {managed : Managed} (world : World W) (retries : Nat)
    (scope : Scope managed) (w : W) :
    scope.Frugal retries ((Scope.close retries scope).exchanges (world.replies managed) w)
      (world.closeScope retries scope w).1.1 (world.closeScope retries scope w).1.2 := by
  have hstart : Scope.Asked retries scope [] := .start
  have hended := (Scope.closeAfter_followed (Nat.zero_add retries) hstart rfl rfl
    ).exchanges_recording (world.replies managed) w
  rw [run_replies] at hended
  exact hended.frugal

end Reconciler
