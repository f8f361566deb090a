import Reconciler.Proofs.Client

/-!
# Tokens and their margin

A client keeps the token that it got last and uses it until a minute before it expires.  What the
identity service issued is read off a record of all questions, with the time at which each of them
was answered; the record then tells which requests may carry which token, and when there has to be a
new one.
-/

namespace Reconciler.Http

/-- A question with its ending, and what the clock showed then. -/
structure Moment where
  exchange : Exchange network
  time : Nat

namespace Moment

/-- What the clock is asked about is told right. -/
def Truthful : Moment → Prop
  | ⟨⟨.now, .returned reading⟩, time⟩ => reading = time
  | ⟨⟨.later seconds, .returned reading⟩, time⟩ => reading = time + seconds * 1000
  | _ => True

/-- The time that was read. -/
def reading? : Moment → Option Nat
  | ⟨⟨.now, .returned reading⟩, _⟩ => some reading
  | _ => none

/-- What the identity service granted. -/
def grant? : Moment → Option TokenGrant
  | ⟨⟨.send request, .returned (some response)⟩, _⟩ =>
    if request.isAuthorised then none else (granted response).toOption
  | _ => none

/-- Why no token was got of the identity service's reply, or of there being none. -/
def failure? : Moment → Option CloudError
  | ⟨⟨.send request, .returned delivery⟩, _⟩ =>
    if request.isAuthorised then none
    else
      match delivered request granted delivery with
      | .error error => some error
      | .ok _ => none
  | _ => none

/-- The time at which an exchange with the identity service was completed. -/
def completed? : Moment → Option Nat
  | ⟨⟨.later _, .returned _⟩, time⟩ => some time
  | _ => none

end Moment

/-- A token that was issued, and when the exchange for it was completed. -/
structure Issue where
  grant : TokenGrant
  completed : Nat

namespace Issue

/-- The end of a token's use, which leaves out the last minute of its time. -/
def deadline (issue : Issue) : Nat := issue.completed + (issue.grant.expiresIn - 60) * 1000

/-- The token as it is kept. -/
def token (issue : Issue) : Token := ⟨issue.grant.accessToken, issue.deadline⟩

end Issue

/-- What two moments that follow each other issued. -/
def issue? (first second : Moment) : Option Issue :=
  first.grant?.bind fun grant => second.completed?.map fun time => ⟨grant, time⟩

/-- The tokens that were issued. -/
def issues : List Moment → List Issue
  | first :: second :: rest => (issue? first second).toList ++ issues (second :: rest)
  | _ => []

/-- The token that was issued last. -/
def issued (log : List Moment) : Option Issue := (issues log).getLast?

/-- The time that was read last, if nothing was asked after it. -/
def lastReading (log : List Moment) : Option Nat := log.getLast?.bind Moment.reading?

/-- At the end of the record the token may be used: it was issued last, and either just now or with
a deadline after the time that was read just now. -/
def Serves (log : List Moment) (value : String) : Prop :=
  ∃ issue, issued log = some issue ∧ issue.grant.accessToken = value ∧
    ((∃ before first second, log = before ++ [first, second] ∧ issue? first second = some issue) ∨
      ∃ reading, lastReading log = some reading ∧ reading < issue.deadline)

/-- At the end of the record a token is due: by the time that was read just now there is none to be
used, and there is a key to get one. -/
def Account.Due (account : Account) (log : List Moment) (apiKey : String) : Prop :=
  account.apiKey = some apiKey ∧
    ∃ reading, lastReading log = some reading ∧
      ∀ issue, issued log = some issue → issue.deadline ≤ reading

/-- What may happen after a record: requests carry a token that may be used, or get one when it is
due, and they do when it is due. -/
structure Account.Proper (account : Account) (log : List Moment) (moment : Moment) : Prop where
  sends : ∀ request, moment.exchange.question = .send request →
    (∃ method url document value,
        request = .authorised method url document value ∧ Serves log value) ∨
      ∃ apiKey, request = account.exchangeRequest apiKey ∧ account.Due log apiKey
  renews : ∀ apiKey, account.Due log apiKey →
    moment.exchange.question = .send (account.exchangeRequest apiKey)

theorem issues_append_singleton (log : List Moment) (moment : Moment) :
    issues (log ++ [moment]) = issues log ++ (log.getLast?.bind (issue? · moment)).toList := by
  match log with
  | [] => rfl
  | [first] => simp [issues]
  | first :: second :: rest =>
      have ih := issues_append_singleton (second :: rest) moment
      simp only [List.cons_append] at ih
      simp only [List.cons_append, issues, ih, List.append_assoc, List.getLast?_cons_cons]

theorem issued_append_of_not_completed {log : List Moment} {moment : Moment}
    (hmoment : moment.completed? = none) : issued (log ++ [moment]) = issued log := by
  have hnone : log.getLast?.bind (issue? · moment) = none := by
    simp [issue?, hmoment]
  rw [issued, issues_append_singleton, hnone, Option.toList_none, List.append_nil, issued]

theorem issued_append_pair {log : List Moment} {first second : Moment} {issue : Issue}
    (hissue : issue? first second = some issue) :
    issued (log ++ [first] ++ [second]) = some issue := by
  rw [issued, issues_append_singleton, List.getLast?_concat, Option.bind_some, hissue,
    Option.toList_some, List.getLast?_concat]

@[simp]
theorem lastReading_append (log : List Moment) (moment : Moment) :
    lastReading (log ++ [moment]) = moment.reading? := by
  rw [lastReading, List.getLast?_concat, Option.bind_some]

/-- Surroundings that keep a record with the times, on a clock that is told right. -/
def clocked : Environment network (List Moment) := fun question ending log after =>
  ∃ time, Moment.Truthful ⟨⟨question, ending⟩, time⟩ ∧ after = log ++ [⟨⟨question, ending⟩, time⟩]

namespace Account

variable {account : Account} {log : List Moment} {moment : Moment} {token : Option Token}

theorem Due.unique {apiKey other : String} (hdue : account.Due log apiKey)
    (hother : account.Due log other) : other = apiKey :=
  Option.some.inj (hother.1.symm.trans hdue.1)

theorem not_due_of_not_reading (hlast : lastReading log = none) (apiKey : String) :
    ¬account.Due log apiKey := by
  rintro ⟨-, reading, hreading, -⟩
  exact absurd (hlast.symm.trans hreading) nofun

/-- Everything in the record was proper when it happened. -/
def Orderly (account : Account) (log : List Moment) : Prop :=
  ∀ early moment late, log = early ++ moment :: late → account.Proper early moment

theorem orderly_nil : account.Orderly [] := by
  intro early moment late h
  exact absurd h.symm (List.append_ne_nil_of_right_ne_nil _ (List.cons_ne_nil _ _))

theorem Orderly.append (horderly : account.Orderly log) (hproper : account.Proper log moment) :
    account.Orderly (log ++ [moment]) := by
  intro early other late h
  rcases List.eq_nil_or_concat late with rfl | ⟨late, last, rfl⟩
  · obtain ⟨rfl, hsame⟩ := List.append_inj' h rfl
    cases hsame
    exact hproper
  · rw [List.concat_eq_append, ← List.cons_append, ← List.append_assoc] at h
    exact horderly early other late (List.append_inj' h rfl).1

/-- The record is orderly, no token is due at its end, and the token issued last is kept. -/
structure Keeping (account : Account) (token : Option Token) (log : List Moment) : Prop where
  orderly : account.Orderly log
  settled : ∀ apiKey, ¬account.Due log apiKey
  kept : token = (issued log).map Issue.token

theorem Keeping.append (hkeeping : account.Keeping token log) (hproper : account.Proper log moment)
    (hreading : moment.reading? = none) (hcompleted : moment.completed? = none) :
    account.Keeping token (log ++ [moment]) where
  orderly := hkeeping.orderly.append hproper
  settled := not_due_of_not_reading (by rw [lastReading_append, hreading])
  kept := by rw [issued_append_of_not_completed hcompleted, hkeeping.kept]

/-- What getting a token leaves, from a token and a record on: a token that may be used if it brings
one, and otherwise the token that was there, with the error of the exchange that failed. -/
structure Bears (account : Account) (token : Option Token) (log : List Moment)
    (left : Option Token) (outcome : Outcome (Except CloudError String)) (after : List Moment) :
    Prop where
  keeping : account.Keeping left after
  serves : ∀ value, outcome = .returned (.ok value) → Serves after value
  fails : ∃ late, after = log ++ late ∧
    (∀ moment ∈ late, ∀ error, moment.failure? = some error →
      outcome = .returned (.error error) ∧ left = token) ∧
    ∀ error, outcome = .returned (.error error) →
      (∃ moment ∈ late, moment.failure? = some error) ∨
        account.apiKey = none ∧ error = .auth "no IAM API key configured"

theorem Bears.of_passed {left : Option Token} {outcome : Outcome (Except CloudError String)}
    {after late : List Moment} (hkeeping : account.Keeping left after)
    (hserves : ∀ value, outcome = .returned (.ok value) → Serves after value)
    (hafter : after = log ++ late) (hpassed : ∀ moment ∈ late, moment.failure? = none)
    (hok : ∀ error, outcome ≠ .returned (.error error)) :
    account.Bears token log left outcome after where
  keeping := hkeeping
  serves := hserves
  fails := ⟨late, hafter,
    fun moment hmoment _ herror => absurd ((hpassed moment hmoment).symm.trans herror) nofun,
    fun error herror => absurd herror (hok error)⟩

theorem Bears.of_append {left : Option Token} {outcome : Outcome (Except CloudError String)}
    {after : List Moment} (hpassed : moment.failure? = none)
    (hbears : account.Bears token (log ++ [moment]) left outcome after) :
    account.Bears token log left outcome after := by
  obtain ⟨hkeeping, hserves, late, rfl, hfails, herrs⟩ := hbears
  refine ⟨hkeeping, hserves, moment :: late, List.append_assoc _ _ _, ?_, ?_⟩
  · rw [List.forall_mem_cons]
    exact ⟨fun error herror => absurd (hpassed.symm.trans herror) nofun, hfails⟩
  · intro error herror
    refine (herrs error herror).imp_left ?_
    rintro ⟨failed, hfailed, hfailure⟩
    exact ⟨failed, List.mem_cons_of_mem _ hfailed, hfailure⟩

/-- The request for a token that is due. -/
theorem proper_of_due {apiKey : String} {ending : Outcome (Option Response)} {time : Nat}
    (hdue : account.Due log apiKey) :
    account.Proper log ⟨⟨.send (account.exchangeRequest apiKey), ending⟩, time⟩ where
  sends := by
    rintro request ⟨⟩
    exact .inr ⟨apiKey, rfl, hdue⟩
  renews other hother := by rw [hdue.unique hother]

/-- Other questions than requests may come where no token is due. -/
theorem proper_of_settled (hsettled : ∀ apiKey, ¬account.Due log apiKey)
    (hquestion : ∀ request, moment.exchange.question ≠ .send request) :
    account.Proper log moment where
  sends request hrequest := absurd hrequest (hquestion request)
  renews apiKey hdue := absurd hdue (hsettled apiKey)

/-- A token that was granted is kept once the time to use it can be told. -/
theorem Keeping.complete {asked : Moment} {grant : TokenGrant}
    {ending : Outcome Nat} {time : Nat}
    (hasked : account.Keeping token (log ++ [asked])) (hgrant : asked.grant? = some grant)
    (hpassed : asked.failure? = none)
    (htruthful : Moment.Truthful ⟨⟨.later grant.lifetime, ending⟩, time⟩) :
    ending.resume
      (fun refreshAt => account.Bears token log (some ⟨grant.accessToken, refreshAt⟩)
        (.returned (.ok grant.accessToken))
        (log ++ [asked] ++ [⟨⟨.later grant.lifetime, ending⟩, time⟩]))
      fun outcome => account.Bears token log token outcome
        (log ++ [asked] ++ [⟨⟨.later grant.lifetime, ending⟩, time⟩]) := by
  have hproper : account.Proper (log ++ [asked]) ⟨⟨.later grant.lifetime, ending⟩, time⟩ :=
    proper_of_settled hasked.settled nofun
  have hpassed : ∀ moment ∈ [asked, ⟨⟨.later grant.lifetime, ending⟩, time⟩],
      moment.failure? = none :=
    List.forall_mem_cons.mpr ⟨hpassed, List.forall_mem_singleton.mpr rfl⟩
  rcases ending with refreshAt | _ | text
  · have hissue : issue? asked ⟨⟨.later grant.lifetime, .returned refreshAt⟩, time⟩ =
        some ⟨grant, time⟩ := by
      rw [issue?, hgrant]
      rfl
    have hissued : issued (log ++ [asked] ++
        [⟨⟨.later grant.lifetime, .returned refreshAt⟩, time⟩]) = some ⟨grant, time⟩ :=
      issued_append_pair hissue
    have hkeeping : account.Keeping (some ⟨grant.accessToken, refreshAt⟩)
        (log ++ [asked] ++ [⟨⟨.later grant.lifetime, .returned refreshAt⟩, time⟩]) := {
      orderly := hasked.orderly.append hproper
      settled := not_due_of_not_reading (lastReading_append _ _)
      kept := by
        rw [hissued, show refreshAt = time + grant.lifetime * 1000 from htruthful]
        rfl }
    refine .of_passed hkeeping ?_ (List.append_assoc _ _ _) hpassed nofun
    rintro value ⟨⟩
    exact ⟨_, hissued, rfl, .inl ⟨log, asked, _, List.append_assoc _ _ _, hissue⟩⟩
  · exact .of_passed (hasked.append hproper rfl rfl) nofun (List.append_assoc _ _ _) hpassed nofun
  · exact .of_passed (hasked.append hproper rfl rfl) nofun (List.append_assoc _ _ _) hpassed nofun

theorem exchange_bears {apiKey : String} (horderly : account.Orderly log)
    (hdue : account.Due log apiKey) (hkept : token = (issued log).map Issue.token) :
    (account.exchange apiKey token).Ensures clocked (account.Bears token log) log := by
  rw [ensures_exchange]
  intro ending _ hended
  obtain ⟨time, -, rfl⟩ := hended
  have hasked : account.Keeping token
      (log ++ [⟨⟨.send (account.exchangeRequest apiKey), ending⟩, time⟩]) := {
    orderly := horderly.append (proper_of_due hdue)
    settled := not_due_of_not_reading (lastReading_append _ _)
    kept := by rw [issued_append_of_not_completed rfl, hkept] }
  rcases ending with delivery | _ | text
  · rw [Outcome.resume_returned]
    rcases hdelivered : delivered (account.exchangeRequest apiKey) granted delivery
      with error | grant
    · have hfailure : Moment.failure? ⟨⟨.send (account.exchangeRequest apiKey),
          .returned delivery⟩, time⟩ = some error := by
        rw [Moment.failure?, isAuthorised_exchangeRequest, hdelivered]
        rfl
      refine ⟨hasked, nofun, _, rfl, ?_, ?_⟩
      · rw [List.forall_mem_singleton]
        intro failure hsame
        cases hfailure.symm.trans hsame
        exact ⟨rfl, rfl⟩
      · rintro failure ⟨⟩
        exact .inl ⟨_, List.mem_singleton_self _, hfailure⟩
    · rintro ending _ ⟨completed, htruthful, rfl⟩
      refine hasked.complete ?_ ?_ htruthful
      · rcases delivery with _ | response
        · cases hdelivered
        · rw [Moment.grant?, isAuthorised_exchangeRequest,
            show granted response = .ok grant from hdelivered]
          rfl
      · rw [Moment.failure?, isAuthorised_exchangeRequest, hdelivered]
        rfl
  · exact .of_passed hasked nofun rfl (List.forall_mem_singleton.mpr rfl) nofun
  · exact .of_passed hasked nofun rfl (List.forall_mem_singleton.mpr rfl) nofun

/-- Getting a token from where the last one is kept. -/
theorem bearer_bears (hkeeping : account.Keeping token log) :
    (account.bearer token).Ensures clocked (account.Bears token log) log := by
  rw [ensures_bearer]
  rintro ending _ ⟨time, -, rfl⟩
  have hproper : account.Proper log ⟨⟨.now, ending⟩, time⟩ :=
    proper_of_settled hkeeping.settled nofun
  have hissued : issued (log ++ [⟨⟨.now, ending⟩, time⟩]) = issued log :=
    issued_append_of_not_completed rfl
  have hpassed : ∀ moment ∈ [(⟨⟨.now, ending⟩, time⟩ : Moment)], moment.failure? = none :=
    List.forall_mem_singleton.mpr rfl
  rcases ending with reading | _ | text
  · rw [Outcome.resume_returned]
    have hreading := lastReading_append log ⟨⟨.now, .returned reading⟩, time⟩
    have hkept : token = (issued (log ++ [⟨⟨.now, .returned reading⟩, time⟩])).map Issue.token :=
      hissued ▸ hkeeping.kept
    have horderly := hkeeping.orderly.append hproper
    rcases husable : usable token reading with _ | kept
    · have hpast : ∀ issue, issued log = some issue → issue.deadline ≤ reading := by
        intro issue hissue
        exact usable_eq_none_iff.mp husable issue.token
          (by rw [hkeeping.kept, hissue, Option.map_some])
      rcases hkey : account.apiKey with _ | apiKey
      · refine ⟨⟨horderly, ?_, hkept⟩, nofun, _, rfl, ?_, ?_⟩
        · rintro apiKey ⟨hgiven, -⟩
          exact absurd (hkey.symm.trans hgiven) nofun
        · exact List.forall_mem_singleton.mpr nofun
        · rintro error ⟨⟩
          exact .inr ⟨hkey, rfl⟩
      · have hdue : account.Due (log ++ [⟨⟨.now, .returned reading⟩, time⟩]) apiKey :=
          ⟨hkey, reading, hreading, hissued ▸ hpast⟩
        exact (exchange_bears horderly hdue hkept).mono fun _ _ _ hbears => hbears.of_append rfl
    · obtain ⟨htoken, hbefore⟩ := usable_eq_some_iff.mp husable
      obtain ⟨issue, hissue, rfl⟩ := Option.map_eq_some_iff.mp (hkeeping.kept ▸ htoken)
      refine .of_passed ⟨horderly, ?_, hkept⟩ ?_ rfl hpassed nofun
      · rintro apiKey ⟨-, read, hread, hpast⟩
        cases hreading.symm.trans hread
        exact absurd (hpast issue (hissued.trans hissue)) (Nat.not_le.mpr hbefore)
      · rintro value ⟨⟩
        exact ⟨issue, hissued.trans hissue, rfl, .inr ⟨reading, hreading, hbefore⟩⟩
  · exact .of_passed (hkeeping.append hproper rfl rfl) nofun rfl hpassed nofun
  · exact .of_passed (hkeeping.append hproper rfl rfl) nofun rfl hpassed nofun

/-- A request goes out with a token that may be used. -/
theorem maintainsAt_keeping (url : String) : account.MaintainsAt clocked account.Keeping url := by
  intro α method document read token log hkeeping
  rw [ensures_requesting]
  refine (bearer_bears hkeeping).mono ?_
  rintro token ((error | value) | _ | text) log hbears
  · exact hbears.keeping
  · rintro ending _ ⟨time, -, rfl⟩
    have hproper : account.Proper log
        ⟨⟨.send (.authorised method url document value), ending⟩, time⟩ := {
      sends := by
        rintro request ⟨⟩
        exact .inl ⟨method, url, document, value, rfl, hbears.serves value rfl⟩
      renews := fun apiKey hdue => absurd hdue (hbears.keeping.settled apiKey) }
    have hafter := hbears.keeping.append hproper rfl rfl
    rcases ending with delivery | _ | text <;> exact hafter
  · exact hbears.keeping
  · exact hbears.keeping

/-- As long as no token was issued since, one stays due when the clock is read again. -/
theorem Due.again {early mid : List Moment} {reading : Moment} {apiKey : String} {now : Nat}
    (hdue : account.Due early apiKey) (hissued : issued (early ++ mid) = issued early)
    (hreading : reading.reading? = some now)
    (hforward : ∀ before, lastReading early = some before → before ≤ now) :
    account.Due (early ++ mid ++ [reading]) apiKey := by
  obtain ⟨hkey, before, hbefore, hpast⟩ := hdue
  have hcompleted : reading.completed? = none := by
    unfold Moment.reading? at hreading
    split at hreading
    · rfl
    · cases hreading
  refine ⟨hkey, now, (lastReading_append _ _).trans hreading, fun issue hissue => ?_⟩
  rw [issued_append_of_not_completed hcompleted, hissued] at hissue
  exact Nat.le_trans (hpast issue hissue) (hforward before hbefore)

end Account

/-- A token that was issued was asked for. -/
theorem asked_of_issued {log : List Moment} {issue : Issue} (hissue : issue ∈ issues log) :
    ∃ early request ending time late, log = early ++ ⟨⟨.send request, ending⟩, time⟩ :: late ∧
      request.isAuthorised = false := by
  induction log using issues.induct with
  | case1 first second rest ih =>
      rw [issues, List.mem_append, Option.mem_toList] at hissue
      rcases hissue with hfirst | hlater
      · obtain ⟨grant, hgrant, -⟩ := Option.bind_eq_some_iff.mp hfirst
        unfold Moment.grant? at hgrant
        split at hgrant
        · next request response time =>
          split at hgrant
          · cases hgrant
          · next hplain => exact ⟨[], request, _, time, _, rfl, Bool.eq_false_iff.mpr hplain⟩
        · cases hgrant
      · obtain ⟨early, request, ending, time, late, hsplit, hplain⟩ := ih hlater
        exact ⟨first :: early, request, ending, time, late, congrArg (first :: ·) hsplit, hplain⟩
  | case2 log hshort =>
      rcases log with _ | ⟨first, _ | ⟨second, rest⟩⟩
      · cases hissue
      · cases hissue
      · exact absurd rfl (hshort first second rest)

namespace Account

variable {account : Account} {log : List Moment}

/-- Without a key nothing is sent. -/
theorem Orderly.sends_nothing (horderly : account.Orderly log) (hkey : account.apiKey = none) :
    ∀ moment ∈ log, ∀ request, moment.exchange.question ≠ .send request := by
  have hnot_due (early : List Moment) (apiKey : String) : ¬account.Due early apiKey :=
    fun hdue => absurd (hkey.symm.trans hdue.1) nofun
  intro moment hmoment request hrequest
  obtain ⟨early, late, hsplit⟩ := List.append_of_mem hmoment
  rcases (horderly early moment late hsplit).sends request hrequest with
    ⟨_, _, _, value, -, issue, hissue, -⟩ | ⟨apiKey, -, hdue⟩
  · obtain ⟨before, asked, ending, time, after, hearly, hplain⟩ :=
      asked_of_issued (List.mem_of_getLast? hissue)
    have hproper := horderly before _ (after ++ moment :: late)
      (by rw [hsplit, hearly, List.append_assoc, List.cons_append])
    rcases hproper.sends asked rfl with ⟨_, _, _, _, rfl, -⟩ | ⟨apiKey, -, hdue⟩
    · rw [Request.isAuthorised_authorised] at hplain
      cases hplain
    · exact hnot_due _ apiKey hdue
  · exact hnot_due early apiKey hdue

end Account

/-- A world with a clock that is told right. -/
structure Clockwork (W : Type) where
  answer : (question : Question) → W → Outcome question.Answer × W
  clock : W → Nat
  truthful : ∀ question world, Moment.Truthful
    ⟨⟨question, (answer question world).1⟩, clock (answer question world).2⟩

section

variable {W : Type} {clockwork : Clockwork W} {provider : Provider} {token : Option Token}
  {seen : W × List Moment}

/-- The world with a record of what happened in it. -/
def Clockwork.recorded (clockwork : Clockwork W) (question : Question) (seen : W × List Moment) :
    Outcome question.Answer × W × List Moment :=
  let reply := clockwork.answer question seen.1
  (reply.1, reply.2, seen.2 ++ [⟨⟨question, reply.1⟩, clockwork.clock reply.2⟩])

theorem ensures_recorded {σ α : Type} {program : Program network σ α}
    {post : σ → Outcome α → List Moment → Prop}
    (hensures : program.Ensures clocked post seen.2) :
    post (program.run (I := network) clockwork.recorded seen).1.1
      (program.run (I := network) clockwork.recorded seen).1.2
      (program.run (I := network) clockwork.recorded seen).2.2 :=
  hensures.run clockwork.recorded Prod.snd
    (fun question seen => ⟨_, clockwork.truthful question seen.1, rfl⟩) seen

/-- What a client comes to that starts with no token: the one it keeps, and the record.  In between
the world may move on by itself. -/
inductive Provider.Session (provider : Provider) (clockwork : Clockwork W) :
    Option Token → W × List Moment → Prop where
  | start (world : W) : Session provider clockwork none (world, [])
  | wait {token : Option Token} {seen : W × List Moment} (later : W)
      (hsession : Session provider clockwork token seen) :
      Session provider clockwork token (later, seen.2)
  | bearer {token : Option Token} {seen : W × List Moment}
      (hsession : Session provider clockwork token seen) :
      Session provider clockwork
        ((provider.bearer token).run (I := network) clockwork.recorded seen).1.1
        ((provider.bearer token).run (I := network) clockwork.recorded seen).2
  | call {token : Option Token} {seen : W × List Moment} (pages : Nat) (managed : Managed)
      (target : managed.Target) (call : managed.Call)
      (hsession : Session provider clockwork token seen) :
      Session provider clockwork
        ((provider.call pages managed target call token).run (I := network)
          clockwork.recorded seen).1.1
        ((provider.call pages managed target call token).run (I := network)
          clockwork.recorded seen).2

open Account

theorem Provider.Session.keeping (hsession : provider.Session clockwork token seen) :
    provider.Keeping token seen.2 := by
  induction hsession with
  | start world => exact ⟨orderly_nil, not_due_of_not_reading rfl, rfl⟩
  | wait later hsession ih => exact ih
  | bearer hsession ih => exact (ensures_recorded (bearer_bears ih)).keeping
  | call pages managed target call hsession ih =>
      exact ensures_recorded
        (provider.call_maintains maintainsAt_keeping pages managed target call _ _ ih)

/-- Each token that is got or sent along is the one issued last, and it was issued just now or the
clock was read before its deadline.  A token is asked for when there is none to be used, and there
is a key, and only then; when that fails the client is left with what it had, and asks again the
next time.  Without a key it sends nothing. -/
theorem tokens_within_margin (hsession : provider.Session clockwork token seen) :
    let called := (provider.bearer token).run (I := network) clockwork.recorded seen
    provider.Keeping token seen.2 ∧
    provider.Bears token seen.2 called.1.1 called.1.2 called.2.2 ∧
    (∀ early mid reading next late apiKey now,
      seen.2 = early ++ mid ++ reading :: next :: late → provider.Due early apiKey →
      issued (early ++ mid) = issued early → reading.reading? = some now →
      (∀ before, lastReading early = some before → before ≤ now) →
      next.exchange.question = .send (provider.exchangeRequest apiKey)) ∧
    (provider.apiKey = none →
      ∀ moment ∈ seen.2, ∀ request, moment.exchange.question ≠ .send request) := by
  intro called
  have hkeeping := hsession.keeping
  refine ⟨hkeeping, ensures_recorded (bearer_bears hkeeping), ?_, hkeeping.orderly.sends_nothing⟩
  intro early mid reading next late apiKey now hsplit hdue hissued hreading hforward
  have hagain := hdue.again hissued hreading hforward
  refine (hkeeping.orderly (early ++ mid ++ [reading]) next late ?_).renews apiKey hagain
  rw [hsplit, List.append_assoc (early ++ mid), List.singleton_append]

end

/-- A world that counts milliseconds.  Requests take half a second, tokens last 61 seconds. -/
def stopwatch : Clockwork Nat where
  answer
    | .now, time => (.returned time, time)
    | .later seconds, time => (.returned (time + seconds * 1000), time)
    | .send _, time =>
      (.returned (some ⟨200, "\x7b\"access_token\": \"token\", \"expires_in\": 61\x7d"⟩),
        time + 500)
  clock time := time
  truthful question _ := by cases question <;> trivial

/-- A token got half a second after the start is used for a second, and then there is a new one. -/
theorem tokens_within_margin_at_deadline :
    let provider : Provider := ⟨⟨"https://iam.cloud.ibm.com", some "key"⟩, "us-south", "us-south"⟩
    let first := (provider.bearer none).run (I := network) stopwatch.recorded (0, [])
    let seen := (1500, first.2.2)
    let second := (provider.bearer first.1.1).run (I := network) stopwatch.recorded seen
    first.1.1 = some ⟨"token", 1500⟩ ∧ second.1.1 = some ⟨"token", 3000⟩ ∧
      provider.Session stopwatch first.1.1 seen ∧ provider.Keeping first.1.1 seen.2 ∧
      provider.Bears first.1.1 seen.2 second.1.1 second.1.2 second.2.2 := by
  intro provider first seen second
  have hsession : provider.Session stopwatch first.1.1 seen := .wait 1500 (.bearer (.start 0))
  have hsecond : second =
      (provider.bearer first.1.1).run (I := network) stopwatch.recorded seen := rfl
  obtain ⟨hkeeping, hbears, -, -⟩ := tokens_within_margin hsession
  rw [← hsecond] at hbears
  exact ⟨by decide +kernel, by decide +kernel, hsession, hkeeping, hbears⟩

end Reconciler.Http
