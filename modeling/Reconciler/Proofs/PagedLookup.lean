import Reconciler.Proofs.Versions

/-!
# Looking a name up page by page

A listing that comes in pages is searched while it is read.  What is found is what a search of all
its pages put together would find, and no page is asked for beyond the one that settles the search.
-/

namespace Reconciler

namespace Outcome

variable {ε α β γ : Type}

/-- The same end, with another value where the step succeeded. -/
def yielding (value : β) : Outcome (Except ε α) → Outcome (Except ε β)
  | .returned (.ok _) => .returned (.ok value)
  | .returned (.error error) => .returned (.error error)
  | .expired => .expired
  | .panicked text => .panicked text

theorem yielding_yielding (value : β) (other : γ) (outcome : Outcome (Except ε α)) :
    (outcome.yielding value).yielding other = outcome.yielding other := by
  rcases outcome with (error | value) | _ | text <;> rfl

theorem yielding_eq_ok_iff (value : β) (outcome : Outcome (Except ε Unit)) :
    outcome.yielding value = .returned (.ok value) ↔ outcome = .returned (.ok ()) := by
  rcases outcome with (error | _) | _ | text <;> simp [yielding]

end Outcome

namespace Program

variable {I : Interface} {σ α β W : Type}
  (answer : (question : I.Question) → W → Outcome (I.Answer question) × W)

theorem run_bind (program : Program I σ α) (next : σ → α → Program I σ β) (world : W) :
    (program.bind next).run answer world =
      match program.run answer world with
      | ((state, .returned value), after) => (next state value).run answer after
      | ((state, .expired), after) => ((state, .expired), after)
      | ((state, .panicked text), after) => ((state, .panicked text), after) := by
  induction program generalizing world with
  | done state value => rfl
  | ask state question answers ih =>
      simp only [bind, run]
      rcases answer question world with ⟨reply | _ | text, after⟩
      · exact ih reply after
      · rfl
      · rfl

theorem exchanges_bind (program : Program I σ α) (next : σ → α → Program I σ β) (world : W) :
    (program.bind next).exchanges answer world =
      program.exchanges answer world ++
        match program.run answer world with
        | ((state, .returned value), after) => (next state value).exchanges answer after
        | _ => [] := by
  induction program generalizing world with
  | done state value => rfl
  | ask state question answers ih =>
      simp only [bind, exchanges, run]
      rcases answer question world with ⟨reply | _ | text, after⟩
      · exact congrArg _ (ih reply after)
      · rfl
      · rfl

end Program

namespace Action

variable {I : Interface} {ε σ α β W : Type} {first : Action I ε σ α}
  {answer : (question : I.Question) → W → Outcome (I.Answer question) × W} {state reached : σ}
  {world after : W}

/-- After a step that succeeded comes the next one. -/
theorem bind_of_succeeded {value : α} (next : α → Action I ε σ β)
    (hfirst : (first state).run answer world = ((reached, .returned (.ok value)), after)) :
    ((first >>= next) state).run answer world = (next value reached).run answer after ∧
      ((first >>= next) state).exchanges answer world =
        (first state).exchanges answer world ++ (next value reached).exchanges answer after := by
  constructor
  · refine (Program.run_bind answer (first state) _ world).trans ?_
    rw [hfirst]
  · refine (Program.exchanges_bind answer (first state) _ world).trans ?_
    rw [hfirst]

/-- A step that failed is the last one. -/
theorem bind_of_failed {outcome : Outcome (Except ε α)} (next : α → Action I ε σ β)
    (hfirst : (first state).run answer world = ((reached, outcome), after))
    (hfailed : ¬outcome.Succeeded) (value : β) :
    ((first >>= next) state).run answer world = ((reached, outcome.yielding value), after) ∧
      ((first >>= next) state).exchanges answer world =
        (first state).exchanges answer world := by
  constructor
  · refine (Program.run_bind answer (first state) _ world).trans ?_
    rw [hfirst]
    rcases outcome with (error | value) | _ | text
    · rfl
    · exact absurd trivial hfailed
    · rfl
    · rfl
  · refine (Program.exchanges_bind answer (first state) _ world).trans ?_
    rw [hfirst]
    rcases outcome with (error | value) | _ | text
    · exact List.append_nil _
    · exact absurd trivial hfailed
    · exact List.append_nil _
    · exact List.append_nil _

end Action

namespace Http

namespace LoadBalancerPage

/-- The first load balancer of a name on the page. -/
def find? (name : String) (page : LoadBalancerPage) : Option LoadBalancer :=
  page.loadBalancers.find? (·.name == name)

/-- The page has a load balancer of the name. -/
def has (name : String) (page : LoadBalancerPage) : Bool := page.loadBalancers.any (·.name == name)

theorem has_eq_isSome (name : String) (page : LoadBalancerPage) :
    page.has name = (page.find? name).isSome := List.isSome_find?.symm

theorem findIdx_has_cons (name : String) (page : LoadBalancerPage) (pages : List LoadBalancerPage) :
    (page :: pages).findIdx (·.has name) =
      if (page.find? name).isSome then 0 else pages.findIdx (·.has name) + 1 := by
  rw [List.findIdx_cons, page.has_eq_isSome]
  cases (page.find? name).isSome <;> rfl

end LoadBalancerPage

variable {W : Type} {answer : (question : Question) → W → Outcome question.Answer × W}

/-- A listing followed from an address to its end brings these pages, and the end is either the last
page or a request that fails. -/
inductive Account.Lists (account : Account)
    (answer : (question : Question) → W → Outcome question.Answer × W) :
    (url : String) → Option Token → W → List LoadBalancerPage → Outcome (Except CloudError Unit) →
      Prop where
  | last {url token world page kept after}
      (hget : (account.get readLoadBalancerPage url token).run (I := network) answer world =
        ((kept, .returned (.ok page)), after))
      (hlast : page.next = none) :
      Lists account answer url token world [page] (.returned (.ok ()))
  | next {url token world page kept after link pages ending}
      (hget : (account.get readLoadBalancerPage url token).run (I := network) answer world =
        ((kept, .returned (.ok page)), after))
      (hlink : page.next = some link)
      (hrest : Lists account answer link kept after pages ending) :
      Lists account answer url token world (page :: pages) ending
  | failed {url token world kept outcome after}
      (hget : (account.get readLoadBalancerPage url token).run (I := network) answer world =
        ((kept, outcome), after))
      (hfailed : ¬outcome.Succeeded) :
      Lists account answer url token world [] (outcome.yielding ())

namespace Account

variable {account : Account} {url : String} {token : Option Token} {world : W}

/-- The requests for a page that arrives. -/
theorem get_page {page : LoadBalancerPage} {kept : Option Token} {after : W}
    (hget : (account.get readLoadBalancerPage url token).run (I := network) answer world =
      ((kept, .returned (.ok page)), after)) :
    ∃ dispatch : Dispatch, dispatch.url = url ∧ dispatch.page? = some page ∧
      dispatches ((account.get readLoadBalancerPage url token).exchanges (I := network) answer
        world) = [dispatch] := by
  have hsent := ensures_dispatches (account.get_dispatches readLoadBalancerPage url token []) answer
    world
  rw [hget] at hsent
  obtain ⟨-, hfailed⟩ | ⟨dispatch, hurl, houtcome, hsent⟩ := hsent
  · exact absurd trivial hfailed
  · refine ⟨dispatch, hurl, ?_, hsent⟩
    rw [Dispatch.page?, hurl, ← houtcome]

/-- The requests for a page that does not arrive. -/
theorem get_no_page {outcome : Outcome (Except CloudError LoadBalancerPage)}
    {kept : Option Token} {after : W}
    (hget : (account.get readLoadBalancerPage url token).run (I := network) answer world =
      ((kept, outcome), after)) (hfailed : ¬outcome.Succeeded) :
    let sent := dispatches
      ((account.get readLoadBalancerPage url token).exchanges (I := network) answer world)
    sent.map Dispatch.url <+: [url] ∧ sent.filterMap Dispatch.page? = [] := by
  intro sent
  have hsent := ensures_dispatches (account.get_dispatches readLoadBalancerPage url token []) answer
    world
  rw [hget] at hsent
  obtain ⟨hnone, -⟩ | ⟨dispatch, hurl, houtcome, hone⟩ := hsent
  · rw [show sent = [] from hnone]
    exact ⟨List.prefix_append [] _, rfl⟩
  · have hpage : dispatch.page? = none := by
      rw [Dispatch.page?, hurl, ← houtcome]
      rcases outcome with (error | page) | _ | text
      · rfl
      · exact absurd trivial hfailed
      · rfl
      · rfl
    rw [show sent = [dispatch] from hone]
    exact ⟨by simp [hurl], List.filterMap_cons_none hpage⟩

/-- The look-up after a page. -/
def findBeyond (account : Account) (name : String) (limit : Nat) (page : LoadBalancerPage) :
    Call (Option LoadBalancer) :=
  match page.find? name, page.next with
  | some loadBalancer, _ => return some loadBalancer
  | none, some next => account.findLoadBalancer name limit next
  | none, none => return none

theorem findLoadBalancer_succ (name : String) (limit : Nat) (url : String) :
    account.findLoadBalancer name (limit + 1) url =
      account.get readLoadBalancerPage url >>= account.findBeyond name limit := rfl

/-- What comes of looking for a name in a listing that starts at an address: what a search of all
its pages put together comes to, by requests for its pages up to the first one with the name. -/
structure Searched (name url : String) (pages : List LoadBalancerPage)
    (ending : Outcome (Except CloudError Unit))
    (outcome : Outcome (Except CloudError (Option LoadBalancer))) (sent : List Dispatch) :
    Prop where
  outcome_eq : outcome =
    match (pages.flatMap (·.loadBalancers)).find? (·.name == name) with
    | some loadBalancer => .returned (.ok (some loadBalancer))
    | none => ending.yielding none
  urls : sent.map Dispatch.url <+:
    (url :: pages.filterMap (·.next)).take (pages.findIdx (·.has name) + 1)
  brought : sent.filterMap Dispatch.page? = pages.take (pages.findIdx (·.has name) + 1)

namespace Searched

variable {name link : String} {page : LoadBalancerPage} {pages : List LoadBalancerPage}
  {ending : Outcome (Except CloudError Unit)}
  {outcome : Outcome (Except CloudError (Option LoadBalancer))} {dispatch : Dispatch}
  {sent : List Dispatch}

theorem found {loadBalancer : LoadBalancer} (hpage : dispatch.page? = some page)
    (hfind : page.find? name = some loadBalancer) :
    Searched name dispatch.url (page :: pages) ending (.returned (.ok (some loadBalancer)))
      [dispatch] := by
  have hreach : (page :: pages).findIdx (·.has name) = 0 := by
    rw [LoadBalancerPage.findIdx_has_cons, hfind, Option.isSome_some, if_pos rfl]
  refine ⟨?_, ?_, ?_⟩
  · rw [List.flatMap_cons, List.find?_append, show page.loadBalancers.find? _ = _ from hfind,
      Option.some_or]
  · rw [hreach]
    exact List.prefix_refl _
  · rw [hreach, List.filterMap_cons_some hpage]
    rfl

theorem last (hpage : dispatch.page? = some page) (hfind : page.find? name = none)
    (hlast : page.next = none) :
    Searched name dispatch.url [page] (.returned (.ok ())) (.returned (.ok none)) [dispatch] := by
  have hreach : [page].findIdx (·.has name) = 1 := by
    rw [LoadBalancerPage.findIdx_has_cons, hfind, Option.isSome_none, if_neg Bool.false_ne_true,
      List.findIdx_nil]
  refine ⟨?_, ?_, ?_⟩
  · rw [List.flatMap_singleton, show page.loadBalancers.find? _ = _ from hfind]
    rfl
  · rw [hreach, List.filterMap_cons_none hlast]
    exact List.prefix_refl _
  · rw [hreach, List.filterMap_cons_some hpage]
    rfl

theorem next (hpage : dispatch.page? = some page) (hfind : page.find? name = none)
    (hlink : page.next = some link) (hrest : Searched name link pages ending outcome sent) :
    Searched name dispatch.url (page :: pages) ending outcome (dispatch :: sent) := by
  have hreach : (page :: pages).findIdx (·.has name) = pages.findIdx (·.has name) + 1 := by
    rw [LoadBalancerPage.findIdx_has_cons, hfind, Option.isSome_none, if_neg Bool.false_ne_true]
  refine ⟨?_, ?_, ?_⟩
  · rw [List.flatMap_cons, List.find?_append, show page.loadBalancers.find? _ = _ from hfind,
      Option.none_or]
    exact hrest.outcome_eq
  · rw [hreach, List.filterMap_cons_some hlink, List.map_cons, List.take_succ_cons,
      List.prefix_cons_inj]
    exact hrest.urls
  · rw [hreach, List.filterMap_cons_some hpage, hrest.brought, List.take_succ_cons]

end Searched

theorem searched_of_lists (name : String) {pages : List LoadBalancerPage}
    {ending : Outcome (Except CloudError Unit)}
    (hlists : account.Lists answer url token world pages ending) {limit : Nat}
    (hlimit : pages.length < limit) :
    Searched name url pages ending
      ((account.findLoadBalancer name limit url token).run (I := network) answer world).1.2
      (dispatches ((account.findLoadBalancer name limit url token).exchanges (I := network) answer
        world)) := by
  induction hlists generalizing limit with
  | @last url token world page kept after hget hlast =>
      obtain ⟨limit, rfl⟩ := Nat.exists_eq_add_one_of_ne_zero (Nat.ne_zero_of_lt hlimit)
      obtain ⟨hrun, hexchanges⟩ :=
        Action.bind_of_succeeded (I := network) (account.findBeyond name limit) hget
      obtain ⟨dispatch, rfl, hpage, hsent⟩ := get_page hget
      rw [findLoadBalancer_succ, hrun, hexchanges, dispatches_append, hsent, findBeyond]
      rcases hfind : page.find? name with _ | loadBalancer
      · rw [hlast]
        exact .last hpage hfind hlast
      · exact .found hpage hfind
  | @next url token world page kept after link pages ending hget hlink hrest ih =>
      obtain ⟨limit, rfl⟩ := Nat.exists_eq_add_one_of_ne_zero (Nat.ne_zero_of_lt hlimit)
      obtain ⟨hrun, hexchanges⟩ :=
        Action.bind_of_succeeded (I := network) (account.findBeyond name limit) hget
      obtain ⟨dispatch, rfl, hpage, hsent⟩ := get_page hget
      rw [findLoadBalancer_succ, hrun, hexchanges, dispatches_append, hsent, findBeyond]
      rcases hfind : page.find? name with _ | loadBalancer
      · rw [hlink]
        exact .next hpage hfind hlink (ih (Nat.succ_lt_succ_iff.mp hlimit))
      · exact .found hpage hfind
  | @failed url token world kept outcome after hget hfailed =>
      obtain ⟨limit, rfl⟩ := Nat.exists_eq_add_one_of_ne_zero (Nat.ne_zero_of_lt hlimit)
      obtain ⟨hrun, hexchanges⟩ :=
        Action.bind_of_failed (I := network) (account.findBeyond name limit) hget hfailed none
      obtain ⟨hurls, hpages⟩ := get_no_page hget hfailed
      rw [findLoadBalancer_succ, hrun, hexchanges]
      exact ⟨(outcome.yielding_yielding () none).symm, hurls, hpages⟩

end Account

variable {provider : Provider} {limit : Nat} {region : Option String} {token : Option Token}
  {world : W} {pages : List LoadBalancerPage} {ending : Outcome (Except CloudError Unit)}

/-- A load balancer is found by name page by page as in the whole listing: the first one of that
name comes back, none exactly if the listing was read to its end without it, and a request that
fails before ends the search with its failure.  The pages up to the first match are requested in
their order, each once, and nothing beyond. -/
theorem lookup_eq_search (name : String)
    (hlists : provider.Lists answer
      (versioned (provider.vpcBase region) "/load_balancers?limit=50") token world pages ending)
    (hlimit : pages.length < limit) :
    let looked := provider.vpc limit region (.getLoadBalancerByName name) token
    let outcome := (looked.run (I := network) answer world).1.2
    let sent := dispatches (looked.exchanges (I := network) answer world)
    let listing := pages.flatMap (·.loadBalancers)
    let reach := pages.findIdx (·.has name) + 1
    outcome =
        (match listing.find? (·.name == name) with
        | some loadBalancer => .returned (.ok (some loadBalancer))
        | none => ending.yielding none) ∧
      (outcome = .returned (.ok none) ↔
        ending = .returned (.ok ()) ∧ ∀ loadBalancer ∈ listing, loadBalancer.name ≠ name) ∧
      sent.map Dispatch.url <+:
        (versioned (provider.vpcBase region) "/load_balancers?limit=50" ::
          pages.filterMap (·.next)).take reach ∧
      sent.filterMap Dispatch.page? = pages.take reach := by
  intro looked outcome sent listing reach
  obtain ⟨houtcome, hurls, hbrought⟩ := Account.searched_of_lists name hlists hlimit
  refine ⟨houtcome, ?_, hurls, hbrought⟩
  have hsearch : outcome = match listing.find? (·.name == name) with
      | some loadBalancer => .returned (.ok (some loadBalancer))
      | none => ending.yielding none := houtcome
  rcases hfind : listing.find? (·.name == name) with _ | found
  · have hnone : ∀ loadBalancer ∈ listing, loadBalancer.name ≠ name := by
      simpa using List.find?_eq_none.mp hfind
    rw [hsearch, hfind]
    exact (Outcome.yielding_eq_ok_iff none ending).trans (and_iff_left hnone).symm
  · have hname : found.name = name := by simpa using List.find?_some hfind
    rw [hsearch, hfind]
    refine iff_of_false (by simp) ?_
    rintro ⟨-, hnone⟩
    exact hnone found (List.mem_of_find?_eq_some hfind) hname

/-- The text of a listing's entry. -/
def entry (id name : String) : String :=
  "\x7b\"id\": \"" ++ id ++ "\", \"name\": \"" ++ name ++
    "\", \"provisioning_status\": \"active\"\x7d"

/-- An empty page, one with two names and one with the second name again. -/
def threePages : List String :=
  ["\x7b\"load_balancers\": [], \"next\": \x7b\"href\": \"https://lb/2\"\x7d\x7d",
    "\x7b\"load_balancers\": [" ++ entry "lb-1" "api" ++ ", " ++ entry "lb-2" "web" ++
      "], \"next\": \x7b\"href\": \"https://lb/3\"\x7d\x7d",
    "\x7b\"load_balancers\": [" ++ entry "lb-3" "web" ++ "]\x7d"]

theorem lookup_of_second_page :
    let first := versioned (usSouth.vpcBase none) "/load_balancers?limit=50"
    let kept : Token := ⟨"token", 60000⟩
    let second : LoadBalancerPage :=
      ⟨[⟨"lb-1", "api", .active, []⟩, ⟨"lb-2", "web", .active, []⟩], some "https://lb/3"⟩
    let third : LoadBalancerPage := ⟨[⟨"lb-3", "web", .active, []⟩], none⟩
    let pages := [⟨[], some "https://lb/2"⟩, second, third]
    let looked := usSouth.vpc 5 none (.getLoadBalancerByName "web") (some kept)
    usSouth.Lists scripted first (some kept) threePages pages (.returned (.ok ())) ∧
      (looked.run (I := network) scripted threePages).1.2 =
        .returned (.ok (some ⟨"lb-2", "web", .active, []⟩)) ∧
      (dispatches (looked.exchanges (I := network) scripted threePages)).filterMap
        Dispatch.page? = [⟨[], some "https://lb/2"⟩, second] := by
  intro first kept second third pages looked
  have hfirst : (usSouth.get readLoadBalancerPage first (some kept)).run (I := network) scripted
      threePages = ((some kept, .returned (.ok ⟨[], some "https://lb/2"⟩)), threePages.drop 1) := by
    decide +kernel
  have hsecond : (usSouth.get readLoadBalancerPage "https://lb/2" (some kept)).run (I := network)
      scripted (threePages.drop 1) =
        ((some kept, .returned (.ok second)), threePages.drop 2) := by decide +kernel
  have hthird : (usSouth.get readLoadBalancerPage "https://lb/3" (some kept)).run (I := network)
      scripted (threePages.drop 2) = ((some kept, .returned (.ok third)), []) := by decide +kernel
  have hlists : usSouth.Lists scripted first (some kept) threePages pages (.returned (.ok ())) :=
    .next hfirst rfl (.next hsecond rfl (.last hthird rfl))
  have hlimit : pages.length < 5 := by decide
  obtain ⟨houtcome, -, -, hbrought⟩ := lookup_eq_search "web" hlists hlimit
  refine ⟨hlists, ?_, ?_⟩
  · rw [houtcome]
    decide +kernel
  · rw [hbrought]
    decide +kernel

end Http

end Reconciler
