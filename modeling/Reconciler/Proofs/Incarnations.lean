import Reconciler.Proofs.Closing
import Reconciler.Proofs.ForeignUpdates

/-!
# Incarnations of an object

An object that is removed may be created again under its name, with another uid, while a pass over
the old one is under way.  Each write of closing is about the object that was read last, which after
a conflict is the one that has the name then.
-/

namespace Reconciler

namespace Exchange

variable {managed : Managed}

/-- The object that the exchange asks to write. -/
def sent? : Exchange (access managed) → Option managed.Resource
  | ⟨.replace object, _⟩ => some object
  | ⟨.replaceStatus object, _⟩ => some object
  | _ => none

/-- The object that was read in the exchange. -/
def read? : Exchange (access managed) → Option managed.Resource
  | ⟨.fetch .., .returned (.ok (some object))⟩ => some object
  | _ => none

/-- The exchange is one of an API server with the timelines of the objects of a name. -/
def Served («namespace» name : String) (exchange : Exchange (access managed)) : Prop :=
  ∃ answer, exchange.ending = .returned answer ∧
    ∃ before after : Timeline managed «namespace» name,
      Timeline.Answers exchange.question answer before after

theorem read?_of_sent? {exchange : Exchange (access managed)} {sent : managed.Resource}
    (hsent : exchange.sent? = some sent) : exchange.read? = none := by
  rcases exchange with ⟨_ | _ | _ | _ | _, ending⟩
  · simp [sent?] at hsent
  · rfl
  · rfl
  · rfl
  · rfl

variable {«namespace» name : String}

/-- What is stored by a write of the metadata is still the object of its name and uid. -/
theorem Served.saved {sent saved : managed.Resource}
    (hserved : Served «namespace» name ⟨.replace sent, .returned (.ok saved)⟩)
    (hnamed : sent.metadata.Named «namespace» name) :
    saved.metadata.Named «namespace» name ∧ saved.metadata.uid = sent.metadata.uid := by
  obtain ⟨answer, hanswer, before, after, hwrites⟩ := hserved
  obtain rfl := Outcome.returned.inj hanswer
  generalize hended : (Except.ok saved : Except Error managed.Resource) = ended at hwrites
  cases hwrites with
  | refused _ error => simp at hended
  | elsewhere _ _ hother => exact absurd hnamed hother
  | accepted _ _ _ current stored version _ _ hstored _ hended' =>
      rcases hended' with rfl | ⟨error, rfl, -⟩
      · cases hended
        rw [hstored]
        exact ⟨hnamed, rfl⟩
      · simp at hended

/-- What is read under a name has it. -/
theorem Served.found {latest : managed.Resource}
    (hserved : Served «namespace» name
      ⟨.fetch «namespace» name, .returned (.ok (some latest))⟩) :
    latest.metadata.Named «namespace» name := by
  obtain ⟨answer, hanswer, before, after, -, hfound⟩ := hserved
  obtain rfl := Outcome.returned.inj hanswer
  have hcurrent : before.current = some latest := (hfound rfl rfl _ rfl).symm
  obtain ⟨writer, older, hversions⟩ := Timeline.versions_of_current hcurrent
  exact before.named ⟨writer, latest⟩ (hversions ▸ List.mem_cons_self ..)

end Exchange

namespace Scope

variable {managed : Managed} {uid : Option String}

/-- The exchange is a write of the object with this uid. -/
def WritesUid (uid : Option String) (exchange : Exchange (access managed)) : Prop :=
  ∃ sent, exchange.sent? = some sent ∧ sent.metadata.uid = uid

/-- What closing asks, from where an object with this uid was read last: it writes this object, and
reads it again only once it has done so.  It reads again either to write what it has found, or for
the last time. -/
inductive Course : Bool → Option String → List (Exchange (access managed)) → Prop
  | done (read : Bool) (uid : Option String) : Course read uid []
  | write (read : Bool) (uid : Option String) (exchange : Exchange (access managed))
      (late : List (Exchange (access managed))) (hwrites : WritesUid uid exchange)
      (hlate : Course false uid late) : Course read uid (exchange :: late)
  | lost (uid : Option String) (exchange : Exchange (access managed))
      (hunsent : exchange.sent? = none) : Course false uid [exchange]
  | again (uid : Option String) (exchange : Exchange (access managed)) (latest : managed.Resource)
      (late : List (Exchange (access managed))) (hread : exchange.read? = some latest)
      (hlate : Course true latest.metadata.uid late) : Course false uid (exchange :: late)

variable {read : Bool} {early late seen : List (Exchange (access managed))}

theorem Course.append (hearly : ∀ exchange ∈ early, WritesUid uid exchange) (hsome : early ≠ [])
    (hlate : Course false uid late) : Course read uid (early ++ late) := by
  induction early generalizing read with
  | nil => exact absurd rfl hsome
  | cons exchange rest ih =>
      obtain ⟨hwrites, hrest⟩ := List.forall_mem_cons.mp hearly
      refine .write read uid exchange _ hwrites ?_
      rcases hnothing : rest with _ | ⟨next, more⟩
      · exact hlate
      · rw [← hnothing]
        exact ih hrest (by simp [hnothing])

theorem Course.of_writes (hwrites : ∀ exchange ∈ seen, WritesUid uid exchange) :
    Course read uid seen := by
  by_cases hnothing : seen = []
  · rw [hnothing]
    exact .done read uid
  · rw [← List.append_nil seen]
    exact Course.append hwrites hnothing (.done false uid)

/-- An object that was read again is written, if anything is asked after it. -/
theorem Course.writes_of_read (hcourse : Course true uid late) (hsome : late ≠ []) :
    ∃ exchange ∈ late, WritesUid uid exchange := by
  cases hcourse with
  | done => exact absurd rfl hsome
  | write _ _ exchange _ hwrites _ => exact ⟨exchange, List.mem_cons_self .., hwrites⟩

/-- Closing writes only the object of one uid exactly when it goes on with no other. -/
theorem Course.writes_iff {own : Option String} (hcourse : Course read uid seen)
    (hown : uid = own) :
    (∀ exchange ∈ seen, ∀ sent, exchange.sent? = some sent → sent.metadata.uid = own) ↔
      ∀ exchange ∈ seen.dropLast, ∀ latest, exchange.read? = some latest →
        latest.metadata.uid = own := by
  induction hcourse with
  | done read uid => simp
  | write read uid exchange late hwrites _ ih =>
      obtain ⟨sent, hsent, huid⟩ := hwrites
      have hunread := Exchange.read?_of_sent? hsent
      by_cases hlast : late = []
      · simp [hlast, hsent, huid, hown]
      · rw [List.dropLast_cons_of_ne_nil hlast, List.forall_mem_cons, List.forall_mem_cons, ih hown]
        simp [hsent, huid, hown, hunread]
  | lost uid exchange hunsent => simp [hunsent]
  | again uid exchange latest late hread hlate ih =>
      have hunsent : exchange.sent? = none := by
        by_contra hsent
        obtain ⟨sent, hsent⟩ := Option.ne_none_iff_exists'.mp hsent
        simp [Exchange.read?_of_sent? hsent] at hread
      by_cases hlast : late = []
      · simp [hlast, hunsent]
      · rw [List.dropLast_cons_of_ne_nil hlast, List.forall_mem_cons, List.forall_mem_cons]
        -- What was read is written next, so each side tells what its uid is.
        obtain ⟨next, hnext, sent, hsent, huid⟩ := hlate.writes_of_read hlast
        constructor
        · rintro ⟨-, hwrites⟩
          have hlatest : latest.metadata.uid = own :=
            huid.symm.trans (hwrites next hnext sent hsent)
          refine ⟨?_, (ih hlatest).mp hwrites⟩
          rw [hread]
          rintro _ ⟨⟩
          exact hlatest
        · rintro ⟨hreading, hreads⟩
          exact ⟨by simp [hunsent], (ih (hreading latest hread)).mpr hreads⟩

section

variable {«namespace» name : String} {scope : Scope managed}

/-- The pass works on a copy of the object of the name that has the uid. -/
structure About («namespace» name : String) (uid : Option String) (scope : Scope managed) :
    Prop where
  named : scope.object.metadata.Named «namespace» name
  uid : scope.object.metadata.uid = uid

theorem About.metadataSaved {saved : managed.Resource} (habout : scope.About «namespace» name uid)
    (hserved : Exchange.Served «namespace» name
      ⟨.replace scope.object, .returned (.ok saved)⟩) :
    (scope.metadataSaved saved).About «namespace» name uid :=
  have hsaved := hserved.saved habout.named
  ⟨hsaved.1, hsaved.2.trans habout.uid⟩

theorem About.statusSaved (habout : scope.About «namespace» name uid) (saved : managed.Resource) :
    (scope.statusSaved saved).About «namespace» name uid :=
  ⟨habout.named, habout.uid⟩

theorem About.rebased {latest : managed.Resource}
    (hnamed : latest.metadata.Named «namespace» name) :
    (scope.rebased latest).About «namespace» name latest.metadata.uid := by
  obtain ⟨finalizers, references, labels, hmetadata⟩ := scope.metadata_rebased_eq latest
  constructor
  · rw [hmetadata]
    exact hnamed
  · rw [hmetadata]

/-- How writing a scope ends: it is about the same object still, and all that was asked were writes
of this object. -/
structure Wrote («namespace» name : String) (uid : Option String)
    (early : List (Exchange (access managed))) (scope : Scope managed)
    (outcome : Outcome (Except Error Unit)) (seen : List (Exchange (access managed))) : Prop where
  about : scope.About «namespace» name uid
  writes : ∃ late, seen = early ++ late ∧ (∀ exchange ∈ late, WritesUid uid exchange) ∧
    (outcome.Succeeded ∨ late ≠ [])

theorem About.wrote_nothing (habout : scope.About «namespace» name uid)
    (early : List (Exchange (access managed))) :
    Wrote «namespace» name uid early scope (.returned (.ok ())) early :=
  ⟨habout, [], by simp⟩

theorem About.wrote (habout : scope.About «namespace» name uid)
    {exchange : Exchange (access managed)} (hwrites : WritesUid uid exchange)
    (early : List (Exchange (access managed))) (outcome : Outcome (Except Error Unit)) :
    Wrote «namespace» name uid early scope outcome (early ++ [exchange]) :=
  ⟨habout, [exchange], rfl, by simpa using hwrites, .inr (by simp)⟩

theorem Wrote.after {outcome : Outcome (Except Error Unit)} {exchange : Exchange (access managed)}
    (hwrites : WritesUid uid exchange)
    (hwrote : Wrote «namespace» name uid (early ++ [exchange]) scope outcome seen) :
    Wrote «namespace» name uid early scope outcome seen := by
  obtain ⟨habout, late, hseen, hlate, -⟩ := hwrote
  exact ⟨habout, exchange :: late, by simp [hseen], List.forall_mem_cons.mpr ⟨hwrites, hlate⟩,
    .inr (by simp)⟩

theorem persistStatus_wrote (habout : scope.About «namespace» name uid)
    (early : List (Exchange (access managed))) :
    (persistStatus scope).Ensures (.noting (Exchange.Served «namespace» name))
      (Wrote «namespace» name uid early) early := by
  unfold persistStatus
  simp only [Action.ensures_bind, Action.ensures_get, Outcome.follow_ok]
  split
  · exact habout.wrote_nothing early
  · rw [Action.ensures_bind, Action.ensures_ask]
    rintro ending _ ⟨-, rfl⟩
    have hwrites : WritesUid uid ⟨.replaceStatus scope.object, ending⟩ :=
      ⟨scope.object, rfl, habout.uid⟩
    rcases ending with (error | saved) | _ | text
    · simp only [Outcome.resume_returned, Outcome.follow_ok]
      split
      · exact habout.wrote hwrites early _
      · exact habout.wrote hwrites early _
    · exact (habout.statusSaved saved).wrote hwrites early _
    · exact habout.wrote hwrites early _
    · exact habout.wrote hwrites early _

theorem persist_wrote (habout : scope.About «namespace» name uid)
    (early : List (Exchange (access managed))) :
    (persist scope).Ensures (.noting (Exchange.Served «namespace» name))
      (Wrote «namespace» name uid early) early := by
  rw [persist_eq]
  simp only [Action.ensures_bind, Action.ensures_get, Outcome.follow_ok]
  split
  · simp only [Action.ensures_bind, Action.ensures_ask]
    rintro ending _ ⟨hserved, rfl⟩
    have hwrites : WritesUid uid ⟨.replace scope.object, ending⟩ :=
      ⟨scope.object, rfl, habout.uid⟩
    rcases ending with (error | saved) | _ | text
    · exact habout.wrote hwrites early _
    · exact (persistStatus_wrote (habout.metadataSaved hserved) _).mono
        fun _ _ _ hwrote => hwrote.after hwrites
    · exact habout.wrote hwrites early _
    · exact habout.wrote hwrites early _
  · exact persistStatus_wrote habout early

/-- Reading an object again asks for it once, and the scope is about what was found then. -/
theorem rebase_reads (habout : scope.About «namespace» name uid)
    (early : List (Exchange (access managed))) :
    (rebase scope).Ensures (.noting (Exchange.Served «namespace» name)) (fun scope outcome seen =>
      ∃ exchange, seen = early ++ [exchange] ∧ exchange.sent? = none ∧
        (outcome = .returned (.ok true) → ∃ latest, exchange.read? = some latest ∧
          scope.About «namespace» name latest.metadata.uid)) early := by
  unfold rebase
  simp only [Action.ensures_bind, Action.ensures_get, Outcome.follow_ok, Action.ensures_ask]
  rintro ending _ ⟨hserved, rfl⟩
  rw [habout.named.1, habout.named.2] at hserved ⊢
  rcases ending with (error | _ | latest) | _ | text
  · exact ⟨_, rfl, rfl, (by simp)⟩
  · exact ⟨_, rfl, rfl, (by simp)⟩
  · exact ⟨_, rfl, rfl, fun _ => ⟨latest, rfl, About.rebased hserved.found⟩⟩
  · exact ⟨_, rfl, rfl, (by simp)⟩
  · exact ⟨_, rfl, rfl, (by simp)⟩

/-- The questions of closing come one after another as writes and readings may. -/
theorem closeAfter_course (habout : scope.About «namespace» name uid) (attempts retries : Nat)
    (read : Bool) (early : List (Exchange (access managed))) :
    (closeAfter attempts retries scope).Ensures (.noting (Exchange.Served «namespace» name))
      (fun _ _ seen => ∃ late, seen = early ++ late ∧ Course read uid late) early := by
  induction retries generalizing attempts scope read uid early with
  | zero =>
      unfold closeAfter
      simp only [Action.ensures_bind, Action.ensures_attempt]
      apply (persist_wrote habout early).mono
      rintro scope outcome seen ⟨-, late, hseen, hwrites, -⟩
      have hcourse : ∃ late, seen = early ++ late ∧ Course read uid late :=
        ⟨late, hseen, .of_writes hwrites⟩
      rcases outcome with (error | _) | _ | text
      · simp only [Outcome.resume_returned, Outcome.follow_ok]
        split
        · exact hcourse
        · exact hcourse
      · exact hcourse
      · exact hcourse
      · exact hcourse
  | succ retries ih =>
      unfold closeAfter
      simp only [Action.ensures_bind, Action.ensures_attempt]
      apply (persist_wrote habout early).mono
      rintro scope outcome seen ⟨hleft, late, rfl, hwrites, hsome⟩
      have hcourse : ∃ more, early ++ late = early ++ more ∧ Course read uid more :=
        ⟨late, rfl, .of_writes hwrites⟩
      rcases outcome with (error | _) | _ | text
      · simp only [Outcome.resume_returned, Outcome.follow_ok]
        split
        · have hnonempty := hsome.resolve_left (Outcome.not_succeeded_error error)
          rw [Action.ensures_bind]
          apply (rebase_reads hleft _).mono
          rintro scope outcome _ ⟨exchange, rfl, hunsent, hfound⟩
          have hlost : ∃ more, early ++ late ++ [exchange] = early ++ more ∧
              Course read uid more :=
            ⟨late ++ [exchange], by simp, .append hwrites hnonempty (.lost uid exchange hunsent)⟩
          rcases outcome with (error | _ | _) | _ | text
          · exact hlost
          · exact hlost
          · obtain ⟨latest, hread, habout⟩ := hfound rfl
            apply (ih habout (attempts + 1) true _).mono
            rintro _ _ _ ⟨rest, rfl, hrest⟩
            exact ⟨late ++ exchange :: rest, by simp,
              .append hwrites hnonempty (.again uid exchange latest rest hread hrest)⟩
          · exact hlost
          · exact hlost
        · exact hcourse
      · exact hcourse
      · exact hcourse
      · exact hcourse

end

end Scope

namespace World

variable {W : Type} {managed : Managed} {«namespace» name : String} {world : World W}
variable {settings : Settings} {w after : W} {visit : Visit managed}
variable {view : W → Timeline managed «namespace» name} {others : Conduct managed}

/-- How access to the API server is answered, which always comes to an end. -/
def replies (world : World W) (managed : Managed) (question : AccessQuestion managed) (w : W) :
    Outcome question.Answer × W :=
  (.returned (world.access managed question w).1, (world.access managed question w).2)

/-- What the pass over an object asks when it closes the scope, and how each question ends. -/
def closing (world : World W) (managed : Managed) (settings : Settings) («namespace» name : String)
    (w : W) : List (Exchange (Reconciler.access managed)) :=
  match world.access managed (.fetch «namespace» name) w with
  | (.ok (some object), fetched) =>
    match world.openScope object fetched with
    | (.ok opened, w) =>
      let answer := world.outside managed opened.target (some (world.clock w + settings.bodyLimit))
      let body := managed.body ⟨opened.cluster, settings, world.now w⟩ object opened.object
      let run := body.run answer w
      (Scope.close settings.closeRetries { opened with object := run.1.1 }).exchanges
        (world.replies managed) run.2
    | (.error _, _) => []
  | _ => []

/-- A pass closes the scope that its body left. -/
theorem Stages.closing_eq (stages : world.Stages settings «namespace» name w visit after) :
    ∃ ready, world.closing managed settings «namespace» name w =
        (Scope.close settings.closeRetries visit.left).exchanges (world.replies managed) ready ∧
      world.closeScope settings.closeRetries visit.left ready =
        ((visit.final, visit.closed), after) := by
  obtain ⟨-, ready, hran, hclose⟩ := stages.runs
  have hleft : { visit.opened with object := visit.left.object } = visit.left := by
    rw [stages.left_eq, stages.opened_eq]
  have hobject : visit.opened.object = visit.object := by rw [stages.opened_eq]
  refine ⟨ready, ?_, hclose⟩
  unfold Stages.program Stages.answers at hran
  unfold closing
  simp only [stages.fetch_eq, stages.open_eq, hobject, hran, hleft]

theorem Serves.served_replies (hserves : world.Serves view others)
    (question : AccessQuestion managed) (w : W) :
    Exchange.Served «namespace» name ⟨question, (world.replies managed question w).1⟩ := by
  obtain ⟨answer, hanswer, asked, answered, -, hanswers, -⟩ := hserves.access question w
  exact ⟨answer, hanswer, asked, answered, hanswers⟩

/-- The scope that a pass closes is about the object that it fetched. -/
theorem about_of_stages (hserves : world.Serves view others)
    (stages : world.Stages settings «namespace» name w visit after) :
    visit.left.About «namespace» name visit.object.metadata.uid := by
  have hserved := hserves.served_replies (.fetch «namespace» name) w
  simp only [replies, stages.fetch_eq] at hserved
  have hforeign := congrArg Object.metadata stages.edits.foreign
  obtain ⟨hspace, hcalled⟩ := hserved.found
  exact ⟨⟨(congrArg Metadata.namespaceAny hforeign).trans hspace,
    (congrArg Metadata.nameAny hforeign).trans hcalled⟩,
    congrArg (fun metadata => metadata.uid) hforeign⟩

/-- Whatever happens to the object in the meantime, also when it is removed and created again under
its name: closing writes no object of another uid than that of the fetched one exactly when it does
not go on with an object of another uid that it has read again. -/
theorem writes_own_incarnation_iff (hserves : world.Serves view others)
    (hvisit : world.visit managed settings «namespace» name w = (some visit, after)) :
    (∀ exchange ∈ world.closing managed settings «namespace» name w,
      ∀ sent, exchange.sent? = some sent → sent.metadata.uid = visit.object.metadata.uid) ↔
    ∀ exchange ∈ (world.closing managed settings «namespace» name w).dropLast,
      ∀ latest, exchange.read? = some latest →
        latest.metadata.uid = visit.object.metadata.uid := by
  obtain ⟨stages⟩ := stages_of_visit hvisit
  obtain ⟨ready, hclosing, -⟩ := stages.closing_eq
  have hensures := Scope.closeAfter_course (about_of_stages hserves stages) 0
    settings.closeRetries false []
  obtain ⟨seen, hseen, hcourse⟩ :=
    hensures.exchanges_noting (world.replies managed) hserves.served_replies ready
  rw [hclosing, Scope.close, hseen, List.nil_append]
  exact hcourse.writes_iff rfl

/-- The image is labelled while the pass is under way, so it is read again, and it is the same. -/
theorem writes_labelled_incarnation : ∃ visit,
    Bench.labelling.visit .image {} "default" "boot" Bench.fresh =
      (some visit, Bench.fresh.passed Bench.labelling) ∧
    ((Bench.labelling.closing .image {} "default" "boot" Bench.fresh).any
      (·.read?.isSome)) = true ∧
    ∀ exchange ∈ Bench.labelling.closing .image {} "default" "boot" Bench.fresh,
      ∀ sent, exchange.sent? = some sent → sent.metadata.uid = visit.object.metadata.uid := by
  obtain ⟨visit, hvisit, huid⟩ : ∃ visit,
      Bench.labelling.visit .image {} "default" "boot" Bench.fresh =
        (some visit, Bench.fresh.passed Bench.labelling) ∧
      visit.object.metadata.uid = some "image-uid" :=
    Bench.exists_visit (by decide +kernel)
  refine ⟨visit, hvisit, by decide +kernel, ?_⟩
  apply (writes_own_incarnation_iff (Bench.serves _ _ _) hvisit).mpr
  rw [huid]
  have hreads : ((Bench.labelling.closing .image {} "default" "boot" Bench.fresh).dropLast.all
      fun exchange => exchange.read?.all (·.metadata.uid == some "image-uid")) = true := by
    decide +kernel
  intro exchange hmem latest hread
  simpa [hread] using List.all_eq_true.mp hreads exchange hmem

end World

/-- Other writers who remove the image, or create it when there is none. -/
def Conduct.renewing : Conduct .image := fun before after => before = none ∨ after = none

namespace Bench

/-- Others remove the image. -/
def remove (bench : Bench) : Bench :=
  { bench with timeline := { bench.timeline with present := false } }

/-- Others create the image again when there is none. -/
def recreate (bench : Bench) : Bench :=
  match bench.timeline.current with
  | none =>
    let created := image.mapMetadata fun metadata => { metadata with uid := "image-uid-2" }
    ((bench.store .other created).map (·.2)).getD bench
  | some _ => bench

theorem drifts_remove (bench : Bench) :
    Timeline.Drifts Conduct.renewing bench.timeline bench.remove.timeline :=
  .single (.removed (.inr rfl) rfl rfl)

theorem drifts_recreate (bench : Bench) :
    Timeline.Drifts Conduct.renewing bench.timeline bench.recreate.timeline := by
  unfold recreate
  split
  · next hnone =>
    dsimp only
    generalize hstore : bench.store .other _ = created
    rcases created with _ | ⟨saved, after⟩
    · exact .refl
    · exact .single (.written saved (.inl hnone) (versions_of_store hstore).2)
  · exact .refl

/-- While a pass lists the images, somebody removes the image and creates it again. -/
def recreating : World Bench :=
  { world cluster (provider (fun _ => [⟨"img-1", "boot"⟩]) (.returned (.ok ()))) fun _ => none with
    outside
      | .image, _, _, question, bench =>
        (provider (fun _ => [⟨"img-1", "boot"⟩]) (.returned (.ok ())) bench.asked question,
          { (if bench.asked = 0 then bench.remove.recreate else bench) with
            asked := bench.asked + 1 })
      | .machine, _, _, _, bench => (.expired, bench) }

theorem serves_recreating : recreating.Serves timeline Conduct.renewing where
  access question bench := served_access Conduct.renewing cluster question bench
  outside target deadline question bench := by
    change Timeline.Drifts _ _ (if bench.asked = 0 then bench.remove.recreate else bench).timeline
    split
    · exact (drifts_remove bench).trans (drifts_recreate bench.remove)
    · exact .refl

end Bench

/-- Closing goes on with the image that was created in the place of the fetched one, and writes to
it what the pass found out about the other. -/
theorem World.writes_other_incarnation :
    Bench.recreating.Serves Bench.timeline Conduct.renewing ∧
    ∃ visit stored, Bench.recreating.visit .image {} "default" "boot" Bench.fresh =
      (some visit, Bench.fresh.passed Bench.recreating) ∧
    visit.object.metadata.uid = some "image-uid" ∧ visit.closed = .ok () ∧
    (∃ exchange ∈ Bench.recreating.closing .image {} "default" "boot" Bench.fresh,
      ∃ sent, exchange.sent? = some sent ∧ sent.metadata.uid = some "image-uid-2" ∧
        sent.status = visit.left.object.status) ∧
    (Bench.fresh.passed Bench.recreating).timeline.current = some stored ∧
    stored.metadata.uid = some "image-uid-2" ∧ Image.imageId stored = some "img-1" := by
  refine ⟨Bench.serves_recreating, ?_⟩
  obtain ⟨visit, hvisit, huid, hclosed, hstatus⟩ : ∃ visit,
      Bench.recreating.visit .image {} "default" "boot" Bench.fresh =
        (some visit, Bench.fresh.passed Bench.recreating) ∧
      visit.object.metadata.uid = some "image-uid" ∧ visit.closed = .ok () ∧
      (Bench.recreating.closing .image {} "default" "boot" Bench.fresh).any
        (fun exchange => exchange.sent?.any fun sent =>
          sent.metadata.uid == some "image-uid-2" &&
            sent.status == visit.left.object.status) = true :=
    Bench.exists_visit (by decide +kernel)
  obtain ⟨stored, hstored, huid2, hlocated⟩ : ∃ image,
      (Bench.fresh.passed Bench.recreating).timeline.current = some image ∧
      image.metadata.uid = some "image-uid-2" ∧ Image.imageId image = some "img-1" :=
    Bench.exists_current (by decide +kernel)
  obtain ⟨exchange, hmem, hsent⟩ := List.any_eq_true.mp hstatus
  obtain ⟨sent, hsome, hwritten⟩ := (Option.any_eq_true ..).mp hsent
  simp only [Bool.and_eq_true, beq_iff_eq] at hwritten
  exact ⟨visit, stored, hvisit, huid, hclosed,
    ⟨exchange, hmem, sent, hsome, hwritten.1, hwritten.2⟩, hstored, huid2, hlocated⟩

end Reconciler
