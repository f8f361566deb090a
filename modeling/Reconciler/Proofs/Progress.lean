import Reconciler.Proofs.ForeignUpdates
import Reconciler.Proofs.Interruption

/-!
# Partial progress survives

However a body comes to its end, its scope is closed once, with the object as the body left it.  So
where a question is not answered, or fails, what the body had done to the object before is stored,
and nothing else.
-/

namespace Reconciler

namespace Program

variable {I : Interface} {σ α W : Type}

/-- Once its first questions are answered so, the program is at another one, in this state. -/
inductive Pauses : Program I σ α → List (Exchange I) → σ → I.Question → Prop
  | here (state : σ) (question : I.Question) (next : I.Answer question → Program I σ α) :
      Pauses (.ask state question next) [] state question
  | later {first state : σ} {asked question : I.Question} {early : List (Exchange I)}
      (next : I.Answer asked → Program I σ α) (answer : I.Answer asked)
      (hpauses : Pauses (next answer) early state question) :
      Pauses (.ask first asked next) (⟨asked, .returned answer⟩ :: early) state question

/-- There is no other state that the program could be in then. -/
theorem Pauses.unique {program : Program I σ α} {early : List (Exchange I)} {left right : σ}
    {asked question : I.Question} (hleft : program.Pauses early left asked)
    (hright : program.Pauses early right question) : left = right ∧ asked = question := by
  induction hleft with
  | here =>
      cases hright
      exact ⟨rfl, rfl⟩
  | later next answer _ ih =>
      cases hright with
      | later _ _ hpauses => exact ih hpauses

end Program

variable {managed : Managed} {σ α W : Type}

/-- How a body ends that ends with this exchange: the question was not answered in time, broke down,
or failed. -/
def Exchange.CutsWith (exchange : Exchange (outside managed)) (error : Error) : Prop :=
  match exchange.ending with
  | .expired => error = .deadlineExceeded
  | .panicked text => error = .panicked text
  | .returned answer => exchange.question.Refuses answer error

/-- A program that is cut stops in the state that it was in. -/
theorem Program.Halts.cut {program : Program (outside managed) σ (Except Error α)}
    (hhalts : program.Halts)
    (answer : (question : BodyQuestion managed) → W → Outcome question.Answer × W) (w : W)
    {early late : List (Exchange (outside managed))} {exchange : Exchange (outside managed)}
    (hexchanges : program.exchanges answer w = early ++ exchange :: late)
    (hcut : ∃ error, exchange.CutsWith error) :
    late = [] ∧ program.Pauses early (program.run answer w).1.1 exchange.question ∧
      ∃ error, exchange.CutsWith error ∧ (program.run answer w).1.2.result = .error error := by
  induction program generalizing w early with
  | done state value => simp [Program.exchanges] at hexchanges
  | ask state question next ih =>
      -- A question that is not answered is the only one, so that nothing comes before or after it.
      have halone {ending : Outcome question.Answer}
          (hsplit : [⟨question, ending⟩] = early ++ exchange :: late) :
          early = [] ∧ exchange = ⟨question, ending⟩ ∧ late = [] := by
        simpa [List.append_eq_singleton_iff] using hsplit.symm
      rcases hreply : answer question w with ⟨reply | _ | text, after⟩
      · simp only [Program.exchanges, Program.run, hreply] at hexchanges ⊢
        obtain ⟨hrest, hrefused⟩ := hhalts reply
        cases early with
        | nil =>
            obtain ⟨rfl, rfl⟩ := List.cons.inj hexchanges
            obtain ⟨error, hrefuses, hended⟩ := hrefused hcut
            simp only [hended, Program.exchanges, Program.run]
            exact ⟨trivial, .here _ _ _, error, hrefuses, rfl⟩
        | cons first early =>
            obtain ⟨rfl, hlater⟩ := List.cons.inj hexchanges
            obtain ⟨hlast, hpauses, hended⟩ := ih reply hrest after hlater
            exact ⟨hlast, .later next reply hpauses, hended⟩
      · simp only [Program.exchanges, Program.run, hreply] at hexchanges ⊢
        obtain ⟨rfl, rfl, rfl⟩ := halone hexchanges
        exact ⟨rfl, .here _ _ _, _, rfl, rfl⟩
      · simp only [Program.exchanges, Program.run, hreply] at hexchanges ⊢
        obtain ⟨rfl, rfl, rfl⟩ := halone hexchanges
        exact ⟨rfl, .here _ _ _, _, rfl, rfl⟩

namespace World

variable {«namespace» name : String} {world : World W} {settings : Settings} {w after : W}
variable {visit : Visit managed}

/-- A pass runs its body, and closes its scope once.  Where the body is cut at a question, the scope
that is closed has the object as it was at that question, and the body ends with the error of the
question.  The pass answers the error of its body, or that of closing if the body succeeded.  If
closing succeeds and the object is still there, it is stored with the marks and the status that the
body left. -/
theorem progress_survives
    (hvisit : world.visit managed settings «namespace» name w = (some visit, after)) :
    (∃ (stages : world.Stages settings «namespace» name w visit after) (ready : W),
      stages.program.exchanges stages.answers stages.opened = visit.exchanges ∧
      stages.program.run stages.answers stages.opened =
        ((visit.left.object, visit.ending), ready) ∧
      world.closeScope settings.closeRetries visit.left ready =
        ((visit.final, visit.closed), after) ∧
      ∀ early exchange late, visit.exchanges = early ++ exchange :: late →
        (∃ error, exchange.CutsWith error) →
        late = [] ∧ stages.program.Pauses early visit.left.object exchange.question ∧
          ∃ error, exchange.CutsWith error ∧ visit.ending.result = .error error) ∧
    (∀ error, visit.ending.result = .error error →
      world.pass managed settings «namespace» name w = (.error error, after)) ∧
    (∀ requeue, visit.ending.result = .ok requeue →
      world.pass managed settings «namespace» name w =
        (visit.closed.map fun _ => requeue, after)) ∧
    (∀ (view : W → Timeline managed «namespace» name) others, world.Serves view others →
      others.Keeps (fun object => (managed.marks object, object.status)) →
      visit.closed = .ok () → ∀ stored, (view after).current = some stored →
        managed.marks stored = managed.marks visit.left.object ∧
          stored.status = visit.left.object.status) := by
  obtain ⟨stages⟩ := stages_of_visit hvisit
  obtain ⟨hexchanges, ready, hran, hclose⟩ := stages.runs
  have hhalts : stages.program.Halts := Managed.halts_body _ _ _
  have hpass := pass_eq_answer hvisit
  refine ⟨⟨stages, ready, hexchanges, hran, hclose, fun early exchange late hsplit hcut => ?_⟩,
    fun error hended => ?_, fun requeue hended => ?_, fun view others hserves hkeeps hclosed stored
      hstored => closed_of_visit hserves hvisit hkeeps hclosed hstored⟩
  · have hended := hhalts.cut stages.answers stages.opened (hexchanges.trans hsplit) hcut
    rwa [hran] at hended
  · rw [hpass, Visit.answer, hended]
    rcases visit.closed with _ | _ <;> rfl
  · rw [hpass, Visit.answer, hended]
    rcases visit.closed with _ | _ <;> rfl

end World

/-- A provider that breaks down when it is asked for its images while a job is on record. -/
def Bench.breaking : World Bench :=
  world cluster (fun n question => match n, question with
    | 3, .cloud .getAllImages => .panicked "index out of bounds"
    | n, question => provider (fun _ => []) (.returned (.ok ())) n question) fun _ => none

/-- The pass that breaks down has seen the job completed before, and this is stored. -/
theorem World.progress_survives_completed : ∃ visit early exchange stored,
    Bench.breaking.visit .image {} "default" "boot" (Bench.fresh.passed Bench.breaking) =
      (some visit, (Bench.fresh.passed Bench.breaking).passed Bench.breaking) ∧
    visit.exchanges = early ++ [exchange] ∧
    exchange.CutsWith (.panicked "index out of bounds") ∧
    Bench.breaking.pass .image {} "default" "boot" (Bench.fresh.passed Bench.breaking) =
      (.error (.panicked "index out of bounds"),
        (Bench.fresh.passed Bench.breaking).passed Bench.breaking) ∧
    ((Bench.fresh.passed Bench.breaking).passed Bench.breaking).timeline.current = some stored ∧
    (stored.status.map fun status => status.conditions.holds Image.imported) = some true := by
  obtain ⟨visit, hvisit, hbroken, hended, himported, hclosed⟩ : ∃ visit,
      Bench.breaking.visit .image {} "default" "boot" (Bench.fresh.passed Bench.breaking) =
        (some visit, _) ∧
      (visit.exchanges.any fun exchange =>
        exchange.ending matches .panicked "index out of bounds") = true ∧
      visit.ending = .panicked "index out of bounds" ∧
      (visit.left.object.status.map fun status => status.conditions.holds Image.imported) =
        some true ∧
      visit.closed = .ok () :=
    Bench.exists_visit (by decide +kernel)
  obtain ⟨stored, hstored, -⟩ : ∃ image,
      ((Bench.fresh.passed Bench.breaking).passed Bench.breaking).timeline.current = some image ∧
      True :=
    Bench.exists_current (by decide +kernel)
  obtain ⟨exchange, hmem, hpanicked⟩ := List.any_eq_true.mp hbroken
  obtain ⟨early, late, hsplit⟩ := List.append_of_mem hmem
  have hcuts : exchange.CutsWith (.panicked "index out of bounds") := by
    unfold Exchange.CutsWith
    split at hpanicked <;> simp_all
  obtain ⟨⟨_, _, _, _, _, hcut⟩, hfails, _, hstores⟩ := progress_survives hvisit
  obtain ⟨rfl, _, error, _, herror⟩ := hcut early exchange late hsplit ⟨_, hcuts⟩
  obtain ⟨_, hstatus⟩ :=
    hstores _ _ (Bench.serves _ _ _) Conduct.gentle_keeps hclosed stored hstored
  exact ⟨visit, early, exchange, stored, hvisit, hsplit, hcuts, hfails _ (by rw [hended]; rfl),
    hstored, by rw [hstatus]; exact himported⟩

end Reconciler
