import Reconciler.Proofs.Dispatches

/-!
# Listings that come in pages

A load balancer is looked up by name in a listing whose pages say where the next one is.  After the
first page it is the provider that says where the requests go.
-/

namespace Reconciler.Http

namespace Dispatch

/-- The page of the listing that the request brought. -/
def page? (dispatch : Dispatch) : Option LoadBalancerPage :=
  match dispatch.outcome fun response =>
      accepted .get dispatch.url response >>= decoded readLoadBalancerPage with
  | .returned (.ok page) => some page
  | _ => none

/-- Where that page says the next one is. -/
def next? (dispatch : Dispatch) : Option String := dispatch.page?.bind (·.next)

end Dispatch

/-- The requests follow a listing from an address on. -/
inductive Follows : String → List Dispatch → Prop where
  | none (url : String) : Follows url []
  | page (dispatch : Dispatch) : Follows dispatch.url [dispatch]
  | next {dispatch : Dispatch} {link : String} {rest : List Dispatch}
      (hlink : dispatch.next? = some link) (hrest : Follows link rest) :
      Follows dispatch.url (dispatch :: rest)

/-- The requests that follow a listing go to its address and then to the links of all pages but the
last. -/
theorem Follows.urls {url : String} {trail : List Dispatch} (hfollows : Follows url trail)
    (htrail : trail ≠ []) :
    trail.map Dispatch.url = url :: trail.dropLast.filterMap Dispatch.next? := by
  induction hfollows with
  | none url => exact absurd rfl htrail
  | page dispatch => rfl
  | @next dispatch link rest hlink hrest ih =>
      rcases rest with _ | ⟨second, rest⟩
      · rfl
      · rw [List.map_cons, ih (List.cons_ne_nil _ _), List.dropLast_cons_cons,
          List.filterMap_cons_some hlink]

theorem Account.findLoadBalancer_follows {account : Account} (name : String) (pages : Nat)
    (url : String) (token : Option Token) (sent : List Dispatch) :
    (account.findLoadBalancer name pages url token).Ensures dispatching
      (fun _ _ after => ∃ trail, Follows url trail ∧ after = sent ++ trail) sent := by
  induction pages generalizing url token sent with
  | zero => exact ⟨[], .none url, (List.append_nil sent).symm⟩
  | succ pages ih =>
      unfold findLoadBalancer
      rw [get_eq, Action.ensures_bind]
      refine (requesting_dispatches _ _ _ _ token sent).mono ?_
      rintro token outcome after (⟨rfl, hfailed⟩ | ⟨dispatch, rfl, rfl, rfl⟩)
      · have hnone : ∃ trail, Follows url trail ∧ after = after ++ trail :=
          ⟨[], .none url, (List.append_nil after).symm⟩
        rcases outcome with (error | page) | _ | text
        · exact hnone
        · exact absurd trivial hfailed
        · exact hnone
        · exact hnone
      · have hlast : ∃ trail, Follows dispatch.url trail ∧ sent ++ [dispatch] = sent ++ trail :=
          ⟨[dispatch], .page dispatch, rfl⟩
        rcases houtcome : dispatch.outcome fun response =>
            accepted .get dispatch.url response >>= decoded readLoadBalancerPage
          with (error | page) | _ | text
        · exact hlast
        · rw [Outcome.follow_ok]
          generalize page.loadBalancers.find? _ = found
          rcases found with _ | loadBalancer
          · rcases hlink : page.next with _ | link
            · exact hlast
            · have hnext : dispatch.next? = some link := by
                rw [Dispatch.next?, Dispatch.page?, houtcome, Option.bind_some, hlink]
              refine (ih link token (sent ++ [dispatch])).mono ?_
              rintro _ _ _ ⟨trail, htrail, rfl⟩
              exact ⟨dispatch :: trail, .next hnext htrail, List.append_assoc _ _ _⟩
          · exact hlast
        · exact hlast
        · exact hlast

end Reconciler.Http
