import Reconciler.Proofs.ActiveMembers
import Reconciler.Proofs.Release

/-!
# The members that registering meets

Registering goes through the memberships of a machine in turn.  For each it looks up the load
balancer and lists the pool, and the member that it is about is the one in that listing, or one that
it creates.  It creates a member only in a load balancer that the lookup has just reported active,
and as long as a member that it meets is not active there is something to wait for.
-/

namespace Reconciler

open Machine (About Topic topic)

namespace Exchange

/-- The call came back with the load balancer. -/
def Reports (found : LoadBalancer) : OfMachine → Prop
  | ⟨.cloud (.getLoadBalancer _), ending⟩ => ending = .returned (.ok (some found))
  | ⟨.cloud (.getLoadBalancerByName _), ending⟩ => ending = .returned (.ok (some found))
  | _ => False

/-- The call asks for a member. -/
def Creates (loadBalancer : String) : OfMachine → Prop
  | ⟨.cloud (.createMember asked ..), _⟩ => asked = loadBalancer
  | _ => False

/-- The call made the member. -/
def Makes (member : PoolMember) : OfMachine → Prop
  | ⟨.cloud (.createMember ..), ending⟩ => ending = .returned (.ok member)
  | _ => False

/-- The members that the call came back with. -/
def listing? : OfMachine → Option (List PoolMember)
  | ⟨.cloud (.listMembers ..), .returned (.ok members)⟩ => some members
  | _ => none

theorem Creates.topic {loadBalancer : String} {exchange : OfMachine}
    (hcreates : exchange.Creates loadBalancer) : topic exchange.question = .joining := by
  rcases exchange with ⟨call | _ | _, ending⟩
  · cases call with
    | createMember => rfl
    | _ => exact hcreates.elim
  · exact hcreates.elim
  · exact hcreates.elim

theorem Creates.unique {loadBalancer other : String} {exchange : OfMachine}
    (hcreates : exchange.Creates loadBalancer) (hother : exchange.Creates other) :
    loadBalancer = other := by
  rcases exchange with ⟨call | _ | _, ending⟩
  · cases call with
    | createMember => exact Eq.trans (Eq.symm hcreates) hother
    | _ => exact hcreates.elim
  · exact hcreates.elim
  · exact hcreates.elim

theorem exists_creates {exchange : OfMachine} (hjoining : topic exchange.question = .joining) :
    ∃ loadBalancer, exchange.Creates loadBalancer := by
  rcases exchange with ⟨call | _ | _, ending⟩
  · cases call with
    | createMember loadBalancer => exact ⟨loadBalancer, rfl⟩
    | _ => exact absurd hjoining (by simp)
  · exact absurd hjoining (by simp)
  · exact absurd hjoining (by simp)

theorem Makes.topic {member : PoolMember} {exchange : OfMachine} (hmakes : exchange.Makes member) :
    topic exchange.question = .joining := by
  rcases exchange with ⟨call | _ | _, ending⟩
  · cases call with
    | createMember => rfl
    | _ => exact hmakes.elim
  · exact hmakes.elim
  · exact hmakes.elim

theorem Reports.listing? {found : LoadBalancer} {exchange : OfMachine}
    (hreports : exchange.Reports found) : exchange.listing? = none := by
  rcases exchange with ⟨call | _ | _, ending⟩
  · cases call with
    | getLoadBalancer | getLoadBalancerByName => rfl
    | _ => exact hreports.elim
  · exact hreports.elim
  · exact hreports.elim

theorem Reports.topic {found : LoadBalancer} {exchange : OfMachine}
    (hreports : exchange.Reports found) : topic exchange.question = .pool := by
  rcases exchange with ⟨call | _ | _, ending⟩
  · cases call with
    | getLoadBalancer | getLoadBalancerByName => rfl
    | _ => exact hreports.elim
  · exact hreports.elim
  · exact hreports.elim

theorem listing?_of_topic {exchange : OfMachine} (htopic : topic exchange.question ≠ .pool) :
    exchange.listing? = none := by
  rcases exchange with ⟨call | _ | _, ending⟩
  · cases call with
    | listMembers => exact absurd rfl htopic
    | _ => rfl
  · rfl
  · rfl

end Exchange

namespace Membership

/-- The answers to listing members, in the order of the calls. -/
def listings (seen : List OfMachine) : List (List PoolMember) := seen.filterMap Exchange.listing?

/-- Registering an address at these ports in turn met the member: the listing for its port has it,
or it was created. -/
def Meets (seen : List OfMachine) (address : String) (ports : List Int) (member : PoolMember) :
    Prop :=
  (∃ asked ∈ ports.zip (listings seen), asked.2.find? (fun member =>
    member.address == some address && member.port == asked.1) = some member) ∨
  ∃ exchange ∈ seen, exchange.Makes member

/-- Each exchange about joining comes right after two that lead to it. -/
def Led (leads : OfMachine → OfMachine → OfMachine → Prop) (seen : List OfMachine) : Prop :=
  ∀ early exchange late, seen = early ++ exchange :: late → topic exchange.question = .joining →
    ∃ before lookup listing, early = before ++ [lookup, listing] ∧ leads lookup listing exchange

/-- Each member that was asked for was asked for in a load balancer that the call before the listing
had reported active. -/
def Guarded (seen : List OfMachine) : Prop :=
  ∀ early exchange late loadBalancer, seen = early ++ exchange :: late →
    exchange.Creates loadBalancer →
    ∃ before lookup listing found, early = before ++ [lookup, listing] ∧ lookup.Reports found ∧
      found.id = loadBalancer ∧ found.status = .active

variable {early late seen : List OfMachine} {address : String} {port : Int} {ports : List Int}
variable {member : PoolMember}

section Led

variable {leads : OfMachine → OfMachine → OfMachine → Prop}

theorem led_of_quiet (hquiet : ∀ exchange ∈ seen, topic exchange.question ≠ .joining) :
    Led leads seen := by
  rintro early exchange late rfl hjoining
  exact absurd hjoining (hquiet exchange (by simp))

theorem Led.append (hearly : Led leads early) (hlate : Led leads late) :
    Led leads (early ++ late) := by
  intro start exchange rest hsplit hjoining
  rcases List.append_eq_append_iff.mp hsplit with ⟨more, rfl, hrest⟩ | ⟨more, hfirst, hrest⟩
  · obtain ⟨before, lookup, listing, rfl, hleads⟩ := hlate more exchange rest hrest hjoining
    exact ⟨early ++ before, lookup, listing, (List.append_assoc ..).symm, hleads⟩
  · rcases more with _ | ⟨first, more⟩
    · obtain ⟨before, lookup, listing, hnothing, -⟩ := hlate [] exchange rest hrest.symm hjoining
      simp at hnothing
    · obtain ⟨rfl, rfl⟩ := List.cons.inj hrest
      exact hearly start exchange more hfirst hjoining

theorem led_of_leads {lookup listing joining : OfMachine}
    (hlookup : topic lookup.question ≠ .joining) (hlisting : topic listing.question ≠ .joining)
    (hleads : leads lookup listing joining) : Led leads [lookup, listing, joining] := by
  rintro (_ | ⟨first, _ | ⟨second, _ | ⟨third, early⟩⟩⟩) exchange rest hsplit hjoining
  · obtain ⟨rfl, -⟩ := List.cons.inj hsplit
    exact absurd hjoining hlookup
  · simp only [List.cons_append, List.nil_append, List.cons.injEq] at hsplit
    obtain ⟨-, rfl, -⟩ := hsplit
    exact absurd hjoining hlisting
  · simp only [List.cons_append, List.nil_append, List.cons.injEq] at hsplit
    obtain ⟨rfl, rfl, rfl, -⟩ := hsplit
    exact ⟨[], lookup, listing, rfl, hleads⟩
  · simp at hsplit

end Led

/-- The lookup reported active where the member was asked for. -/
def Guards (lookup _listing creation : OfMachine) : Prop :=
  ∀ loadBalancer, creation.Creates loadBalancer →
    ∃ found, lookup.Reports found ∧ found.id = loadBalancer ∧ found.status = .active

theorem guarded_iff_led : Guarded seen ↔ Led Guards seen := by
  constructor
  · intro hguarded early exchange late hsplit hjoining
    obtain ⟨loadBalancer, hcreates⟩ := Exchange.exists_creates hjoining
    obtain ⟨before, lookup, listing, found, hearly, hreports, hid, hactive⟩ :=
      hguarded early exchange late loadBalancer hsplit hcreates
    refine ⟨before, lookup, listing, hearly, fun other hother => ?_⟩
    exact ⟨found, hreports, hid.trans (hcreates.unique hother), hactive⟩
  · intro hled early exchange late loadBalancer hsplit hcreates
    obtain ⟨before, lookup, listing, hearly, hguards⟩ :=
      hled early exchange late hsplit hcreates.topic
    obtain ⟨found, hfound⟩ := hguards loadBalancer hcreates
    exact ⟨before, lookup, listing, found, hearly, hfound⟩

theorem guarded_of_quiet (hquiet : ∀ exchange ∈ seen, topic exchange.question ≠ .joining) :
    Guarded seen :=
  guarded_iff_led.mpr (led_of_quiet hquiet)

theorem Guarded.append (hearly : Guarded early) (hlate : Guarded late) :
    Guarded (early ++ late) :=
  guarded_iff_led.mpr ((guarded_iff_led.mp hearly).append (guarded_iff_led.mp hlate))

theorem listings_append : listings (early ++ late) = listings early ++ listings late :=
  List.filterMap_append ..

theorem listings_eq_nil (hquiet : ∀ exchange ∈ seen, topic exchange.question ≠ .pool) :
    listings seen = [] :=
  List.filterMap_eq_nil_iff.mpr fun exchange hmem =>
    Exchange.listing?_of_topic (hquiet exchange hmem)

/-- What was asked before about other things makes no difference to the members that are met. -/
theorem meets_append_iff_of_quiet (hpool : ∀ exchange ∈ early, topic exchange.question ≠ .pool)
    (hjoining : ∀ exchange ∈ early, topic exchange.question ≠ .joining) :
    Meets (early ++ late) address ports member ↔ Meets late address ports member := by
  have hunmade : ¬∃ exchange ∈ early, exchange.Makes member := fun ⟨exchange, hmem, hmakes⟩ =>
    hjoining exchange hmem hmakes.topic
  simp only [Meets, listings_append, listings_eq_nil hpool, List.nil_append, List.mem_append,
    or_and_right, exists_or, or_iff_right hunmade]

theorem not_meets_of_quiet (hunlisted : listings seen = [])
    (hquiet : ∀ exchange ∈ seen, topic exchange.question ≠ .joining) :
    ¬Meets seen address ports member := by
  rintro (⟨_, hmem, -⟩ | ⟨exchange, hmem, hmakes⟩)
  · simp [hunlisted] at hmem
  · exact hquiet exchange hmem hmakes.topic

/-- The first listing is for the first port. -/
theorem meets_cons_append_iff (hlisted : (listings early).length = 1) :
    Meets (early ++ late) address (port :: ports) member ↔
      Meets early address [port] member ∨ Meets late address ports member := by
  obtain ⟨members, hmembers⟩ := List.length_eq_one_iff.mp hlisted
  simp only [Meets, listings_append, hmembers, List.singleton_append, List.zip_cons_cons,
    List.zip_nil_left, List.mem_append, List.mem_cons, List.not_mem_nil, or_false, or_and_right,
    exists_or, exists_eq_left]
  exact or_or_or_comm

theorem meets_iff_of_listings {members : List PoolMember} (hlistings : listings seen = [members]) :
    Meets seen address [port] member ↔ members.find? (fun member =>
      member.address == some address && member.port == port) = some member ∨
        ∃ exchange ∈ seen, exchange.Makes member := by
  simp [Meets, hlistings]

theorem meets_cons_iff (hlisted : (listings seen).length ≤ 1) :
    Meets seen address (port :: ports) member ↔ Meets seen address [port] member := by
  rcases hmembers : listings seen with _ | ⟨members, _ | ⟨others, rest⟩⟩
  · simp [Meets, hmembers]
  · simp [Meets, hmembers]
  · simp [hmembers] at hlisted

/-- How registering at these ports ends. -/
structure Joined (address : String) (ports : List Int) (outcome : Outcome (Except Error Bool))
    (seen : List OfMachine) : Prop where
  listed : (listings seen).length ≤ ports.length
  complete : outcome.Succeeded → (listings seen).length = ports.length
  fails : ¬outcome.Succeeded → ports ≠ []
  ends : (∀ exchange ∈ seen, exchange.WentWell) → outcome.Succeeded ∨
    ∃ error, outcome = .returned (.error error) ∧ isMissing error = true
  waits : (∀ exchange ∈ seen, exchange.WentWell) → ∀ member, Meets seen address ports member →
    member.status ≠ .active → outcome = .returned (.ok true) ∨
      ∃ error, outcome = .returned (.error error) ∧ isMissing error = true ∧ 1 < ports.length
  guarded : Guarded seen

/-- Registering that failed at a call. -/
theorem Joined.of_failed {outcome : Outcome (Except Error Bool)} {exchange : OfMachine}
    (hended : ¬outcome.Succeeded) (hmem : exchange ∈ seen) (hill : ¬exchange.WentWell)
    (hlisted : (listings seen).length ≤ 1) (hguarded : Guarded seen) :
    Joined address [port] outcome seen where
  listed := hlisted
  complete hthis := absurd hthis hended
  fails _ := by simp
  ends hwell := absurd (hwell exchange hmem) hill
  waits hwell := absurd (hwell exchange hmem) hill
  guarded := hguarded

/-- Registering at one port that came to its end. -/
theorem Joined.of_answered {waiting : Bool} {members : List PoolMember}
    (hlistings : listings seen = [members])
    (hwaits : ∀ member, Meets seen address [port] member → member.status ≠ .active →
      waiting = true) (hguarded : Guarded seen) :
    Joined address [port] (.returned (.ok waiting)) seen where
  listed := by rw [hlistings]; exact Nat.le_refl 1
  complete _ := by rw [hlistings]; rfl
  fails hended := absurd trivial hended
  ends _ := .inl trivial
  waits _ member hmeets hinactive := .inl (by rw [hwaits member hmeets hinactive])
  guarded := hguarded

/-- What is asked of one pool, and how that ends: the pool is listed, and a member is created if
there is none in it and the load balancer is active. -/
inductive Course (loadBalancer : LoadBalancer) (address : String) (port : Int) :
    Outcome (Except Error Bool) → List OfMachine → Prop
  | unlisted {pool : String} {ending : Outcome (Except CloudError (List PoolMember))}
      (hfailed : ¬ending.Succeeded) (outcome : Outcome (Except Error Bool))
      (hended : ¬outcome.Succeeded) :
      Course loadBalancer address port outcome
        [⟨.cloud (.listMembers loadBalancer.id pool), ending⟩]
  | found {pool : String} {members : List PoolMember} {member : PoolMember}
      (hfound : members.find? (fun member =>
        member.address == some address && member.port == port) = some member) :
      Course loadBalancer address port (.returned (.ok (member.status != .active)))
        [⟨.cloud (.listMembers loadBalancer.id pool), .returned (.ok members)⟩]
  | waiting {pool : String} {members : List PoolMember}
      (hnone : members.find? (fun member =>
        member.address == some address && member.port == port) = none) :
      Course loadBalancer address port (.returned (.ok true))
        [⟨.cloud (.listMembers loadBalancer.id pool), .returned (.ok members)⟩]
  | refused {pool : String} {members : List PoolMember} {weight : Option Int}
      {ending : Outcome (Except CloudError PoolMember)} (hactive : loadBalancer.status = .active)
      (hnone : members.find? (fun member =>
        member.address == some address && member.port == port) = none)
      (hfailed : ¬ending.Succeeded) (outcome : Outcome (Except Error Bool))
      (hended : ¬outcome.Succeeded) :
      Course loadBalancer address port outcome
        [⟨.cloud (.listMembers loadBalancer.id pool), .returned (.ok members)⟩,
          ⟨.cloud (.createMember loadBalancer.id pool address port weight), ending⟩]
  | created {pool : String} {members : List PoolMember} {weight : Option Int}
      {created : PoolMember} (hactive : loadBalancer.status = .active)
      (hnone : members.find? (fun member =>
        member.address == some address && member.port == port) = none) :
      Course loadBalancer address port (.returned (.ok (created.status != .active)))
        [⟨.cloud (.listMembers loadBalancer.id pool), .returned (.ok members)⟩,
          ⟨.cloud (.createMember loadBalancer.id pool address port weight),
            .returned (.ok created)⟩]

theorem ensureMember_course {σ : Type} (loadBalancer : LoadBalancer) (pool : Pool)
    (address : String) (port : Int) (weight : Option Int) (state : σ) :
    (ensureMember loadBalancer pool address port weight state).Ensures (.recording _)
      (fun _ outcome seen => Course loadBalancer address port outcome seen) [] := by
  unfold ensureMember
  simp only [Action.ensures_bind, Body.ensures_call]
  rintro ((error | members) | _ | text) _ rfl
  · exact .unlisted (Outcome.not_succeeded_error error) _ (Outcome.not_succeeded_error _)
  · simp only [Outcome.mapError_ok, Outcome.follow_ok]
    rcases hmember : List.find? (fun member : PoolMember =>
      member.address == some address && member.port == port) members with _ | member
    · dsimp only
      split
      · exact .waiting hmember
      · next hstatus =>
        have hactive : loadBalancer.status = .active := by simpa using hstatus
        simp only [Action.ensures_bind, Body.ensures_call]
        rintro ((error | created) | _ | text) _ rfl
        · exact .refused hactive hmember (Outcome.not_succeeded_error error) _
            (Outcome.not_succeeded_error _)
        · exact .created hactive hmember
        · exact .refused hactive hmember Outcome.not_succeeded_expired _
            Outcome.not_succeeded_expired
        · exact .refused hactive hmember (Outcome.not_succeeded_panicked text) _
            (Outcome.not_succeeded_panicked _)
    · exact .found hmember
  · exact .unlisted Outcome.not_succeeded_expired _ Outcome.not_succeeded_expired
  · exact .unlisted (Outcome.not_succeeded_panicked text) _ (Outcome.not_succeeded_panicked _)

variable {outcome : Outcome (Except Error Bool)} {loadBalancer : LoadBalancer}
variable {lookup : OfMachine}

/-- A pool that is asked after its load balancer was looked up. -/
theorem Course.joined (hcourse : Course loadBalancer address port outcome late)
    (hlookup : lookup.Reports loadBalancer) : Joined address [port] outcome (lookup :: late) := by
  have hlooked : topic lookup.question ≠ .joining := by
    rw [hlookup.topic]
    decide
  have hunlisted : listings (lookup :: late) = listings late :=
    List.filterMap_cons_none hlookup.listing?
  have hlisted {pool : String} {ending : Outcome (Except CloudError (List PoolMember))} :
      ∀ exchange ∈ [lookup, ⟨.cloud (.listMembers loadBalancer.id pool), ending⟩],
        topic exchange.question ≠ .joining :=
    List.forall_mem_cons.mpr ⟨hlooked, by simp⟩
  have hcreated {pool : String} {weight : Option Int} (hactive : loadBalancer.status = .active)
      {listed : Outcome (Except CloudError (List PoolMember))}
      {ending : Outcome (Except CloudError PoolMember)} :
      Guarded [lookup, ⟨.cloud (.listMembers loadBalancer.id pool), listed⟩,
        ⟨.cloud (.createMember loadBalancer.id pool address port weight), ending⟩] :=
    guarded_iff_led.mpr (led_of_leads hlooked (by simp)
      fun _ hcreates => ⟨loadBalancer, hlookup, hcreates, hactive⟩)
  cases hcourse with
  | @unlisted pool ending hfailed _ hended =>
      have hill : ¬(⟨.cloud (.listMembers loadBalancer.id pool), ending⟩ : OfMachine).WentWell :=
        (Managed.wentWell_iff id _).not.mpr hfailed
      refine .of_failed hended (by simp) hill ?_ (guarded_of_quiet hlisted)
      rw [hunlisted]
      exact List.length_filterMap_le ..
  | @found pool members member hfound =>
      refine .of_answered hunlisted (fun other hmeets hinactive => ?_) (guarded_of_quiet hlisted)
      rcases (meets_iff_of_listings hunlisted).mp hmeets with hlists | ⟨exchange, hmem, hmakes⟩
      · obtain rfl := Option.some.inj (hfound.symm.trans hlists)
        simpa using hinactive
      · exact absurd hmakes.topic (hlisted exchange hmem)
  | waiting => exact .of_answered hunlisted (fun _ _ _ => rfl) (guarded_of_quiet hlisted)
  | @refused pool members weight ending hactive hnone hfailed _ hended =>
      have hill : ¬(⟨.cloud (.createMember loadBalancer.id pool address port weight), ending⟩ :
          OfMachine).WentWell :=
        (Managed.wentWell_iff id _).not.mpr hfailed
      refine .of_failed hended (by simp) hill ?_ (hcreated hactive)
      rw [hunlisted]
      exact Nat.le_refl 1
  | @created pool members weight created hactive hnone =>
      refine .of_answered hunlisted (fun other hmeets hinactive => ?_) (hcreated hactive)
      rcases (meets_iff_of_listings hunlisted).mp hmeets with hlists | ⟨exchange, hmem, hmakes⟩
      · simp [hnone] at hlists
      · simp only [List.mem_cons, List.not_mem_nil, or_false] at hmem
        rcases hmem with rfl | rfl | rfl
        · exact absurd hmakes.topic hlooked
        · exact hmakes.elim
        · obtain rfl : created = other := by simpa [Exchange.Makes] using hmakes
          simpa using hinactive

/-- How looking for a load balancer ends: `resolved` says which one was found. -/
structure Looked {α : Type} (resolved : α → Option LoadBalancer)
    (outcome : Outcome (Except Error α)) (seen : List OfMachine) : Prop where
  reports : ∀ value loadBalancer, outcome = .returned (.ok value) →
    resolved value = some loadBalancer → ∃ lookup, seen = [lookup] ∧ lookup.Reports loadBalancer
  fails : ¬outcome.Succeeded → (∀ exchange ∈ seen, exchange.WentWell) →
    ∃ error, outcome = .returned (.error error) ∧ isMissing error = true
  unlisted : listings seen = []
  quiet : ∀ exchange ∈ seen, topic exchange.question ≠ .joining

/-- How registering at one port goes: nothing is found to register with, or the pool is asked after
its load balancer was looked up. -/
inductive Turn (address : String) (port : Int) :
    Outcome (Except Error Bool) → List OfMachine → Prop
  | lost {outcome : Outcome (Except Error Bool)} {seen : List OfMachine}
      (hended : ¬outcome.Succeeded) (hreason : (∀ exchange ∈ seen, exchange.WentWell) →
        ∃ error, outcome = .returned (.error error) ∧ isMissing error = true)
      (hunlisted : listings seen = [])
      (hquiet : ∀ exchange ∈ seen, topic exchange.question ≠ .joining) :
      Turn address port outcome seen
  | asked {loadBalancer : LoadBalancer} {lookup : OfMachine}
      {outcome : Outcome (Except Error Bool)} {late : List OfMachine}
      (hlookup : lookup.Reports loadBalancer)
      (hcourse : Course loadBalancer address port outcome late) :
      Turn address port outcome (lookup :: late)

theorem Looked.turn {α : Type} {resolved : α → Option LoadBalancer}
    {looked : Outcome (Except Error α)} (hlooked : Looked resolved looked seen)
    (hended : ¬outcome.Succeeded) (hreason : (∀ exchange ∈ seen, exchange.WentWell) →
      ∃ error, outcome = .returned (.error error) ∧ isMissing error = true) :
    Turn address port outcome seen :=
  .lost hended hreason hlooked.unlisted hlooked.quiet

theorem Turn.joined (hturn : Turn address port outcome seen) :
    Joined address [port] outcome seen := by
  cases hturn with
  | lost hended hreason hunlisted hquiet =>
      exact {
        listed := by simp [hunlisted]
        complete := fun hthis => absurd hthis hended
        fails := fun _ => by simp
        ends := fun hwell => .inr (hreason hwell)
        waits := fun _ member hmeets => absurd hmeets (not_meets_of_quiet hunlisted hquiet)
        guarded := guarded_of_quiet hquiet }
  | asked hlookup hcourse => exact hcourse.joined hlookup

/-- A call that looks for a load balancer. -/
theorem Looked.of_call {exchange : OfMachine}
    {ending : Outcome (Except CloudError (Option LoadBalancer))}
    (hunlisted : exchange.listing? = none) (hquiet : topic exchange.question ≠ .joining)
    (hwell : exchange.WentWell ↔ ending.Succeeded)
    (hreports : ∀ found, ending = .returned (.ok (some found)) → exchange.Reports found) :
    Looked id (ending.mapError .cloud) [exchange] where
  reports value loadBalancer hended hfound := by
    refine ⟨exchange, rfl, hreports loadBalancer ?_⟩
    rw [Outcome.mapError_eq_ok_iff.mp hended]
    exact congrArg _ (congrArg _ hfound)
  fails hended hall := by
    rw [Outcome.succeeded_mapError, ← hwell] at hended
    exact absurd (hall exchange (List.mem_singleton_self _)) hended
  unlisted := List.filterMap_cons_none hunlisted
  quiet := by simpa using hquiet

section

variable {σ : Type}

theorem findLoadBalancer_looked (reference : ResourceReference) (state : σ) :
    (findLoadBalancer reference state).Ensures (.recording _)
      (fun _ outcome seen => Looked id outcome seen) [] := by
  unfold findLoadBalancer
  rcases reference.id with _ | called
  · rcases reference.name with _ | called
    · exact ⟨by rintro _ _ ⟨⟩ ⟨⟩, fun hended => absurd trivial hended, rfl, by simp⟩
    · rw [Body.ensures_call]
      rintro ending _ rfl
      exact .of_call rfl (by simp) (Managed.wentWell_iff id _) fun _ => id
  · rw [Body.ensures_call]
    rintro ending _ rfl
    exact .of_call rfl (by simp) (Managed.wentWell_iff id _) fun _ => id

theorem registerOne_turn (membership : PoolMembership) (address : String) (state : σ) :
    (registerOne membership address state).Ensures (.recording _)
      (fun _ outcome seen => Turn address membership.port outcome seen) [] := by
  unfold registerOne
  rw [Action.ensures_bind]
  apply (findLoadBalancer_looked membership.loadBalancer state).mono
  rintro state ((error | _ | loadBalancer) | _ | text) early hlooked
  · exact hlooked.turn (Outcome.not_succeeded_error _) fun hwell =>
      by simpa using hlooked.fails (Outcome.not_succeeded_error _) hwell
  · exact hlooked.turn (Outcome.not_succeeded_error _) fun _ => ⟨_, rfl, rfl⟩
  · rw [Outcome.follow_ok]
    dsimp only
    rcases findPool loadBalancer membership.pool with _ | pool
    · exact hlooked.turn (Outcome.not_succeeded_error _) fun _ => ⟨_, rfl, rfl⟩
    · obtain ⟨lookup, rfl, hreports⟩ := hlooked.reports _ loadBalancer rfl rfl
      apply ((ensureMember_course loadBalancer pool address membership.port membership.weight
        state).recording [lookup]).mono
      rintro _ outcome _ ⟨late, rfl, hcourse⟩
      exact .asked hreports hcourse
  · exact hlooked.turn Outcome.not_succeeded_expired fun hwell =>
      by simpa using hlooked.fails Outcome.not_succeeded_expired hwell
  · exact hlooked.turn (Outcome.not_succeeded_panicked _) fun hwell =>
      by simpa using hlooked.fails (Outcome.not_succeeded_panicked _) hwell

theorem controlPlanePool_reports (cluster : VpcCluster) (state : σ) :
    (controlPlanePool cluster state).Ensures (.recording _)
      (fun _ outcome seen => Looked (fun located => some located.1) outcome seen) [] := by
  unfold controlPlanePool
  rcases cluster.controlPlaneLoadBalancer with _ | reference
  · exact ⟨by simp, fun _ _ => ⟨_, rfl, rfl⟩, rfl, by simp⟩
  · simp only [Action.ensures_bind, Body.ensures_call]
    rintro ending _ rfl
    have hcalled : Looked id (ending.mapError .cloud)
        [⟨.cloud (.getLoadBalancer reference.id), ending⟩] :=
      .of_call rfl (by simp) (Managed.wentWell_iff id _) fun _ => id
    obtain ⟨hreports, hfails, hunlisted, hquiet⟩ := hcalled
    rcases ending with (error | _ | loadBalancer) | _ | text
    · exact ⟨by simp, fun hended hwell => by simpa using hfails id hwell, hunlisted, hquiet⟩
    · exact ⟨by simp, fun _ _ => ⟨_, rfl, rfl⟩, hunlisted, hquiet⟩
    · simp only [Outcome.mapError_ok, Outcome.follow_ok]
      rcases loadBalancer.pools.head? with _ | pool
      · exact ⟨by simp, fun _ _ => ⟨_, rfl, rfl⟩, hunlisted, hquiet⟩
      · refine ⟨?_, fun hended => absurd trivial hended, hunlisted, hquiet⟩
        rintro _ _ ⟨⟩ ⟨⟩
        exact hreports _ loadBalancer rfl rfl
    · exact ⟨by simp, fun hended hwell => by simpa using hfails id hwell, hunlisted, hquiet⟩
    · exact ⟨by simp, fun hended hwell => by simpa using hfails id hwell, hunlisted, hquiet⟩

/-- Registering at a cluster's API server, with an address that can be used. -/
theorem registerControlPlane_turn (cluster : VpcCluster) {primary : Option String}
    {address : String} (husable : usableAddress primary = .ok address) (state : σ) :
    (registerControlPlane cluster primary state).Ensures (.recording _)
      (fun _ outcome seen => Turn address cluster.apiServerPort outcome seen) [] := by
  unfold registerControlPlane
  rw [Action.ensures_bind, Action.ensures_ofExcept, husable, Outcome.follow_ok, Action.ensures_bind]
  apply (controlPlanePool_reports cluster state).mono
  rintro state ((error | ⟨loadBalancer, pool⟩) | _ | text) early hlooked
  · exact hlooked.turn (Outcome.not_succeeded_error _) fun hwell =>
      by simpa using hlooked.fails (Outcome.not_succeeded_error _) hwell
  · obtain ⟨lookup, rfl, hreports⟩ := hlooked.reports _ loadBalancer rfl rfl
    apply ((ensureMember_course loadBalancer pool address cluster.apiServerPort none
      state).recording [lookup]).mono
    rintro _ outcome _ ⟨late, rfl, hcourse⟩
    exact .asked hreports hcourse
  · exact hlooked.turn Outcome.not_succeeded_expired fun hwell =>
      by simpa using hlooked.fails Outcome.not_succeeded_expired hwell
  · exact hlooked.turn (Outcome.not_succeeded_panicked _) fun hwell =>
      by simpa using hlooked.fails (Outcome.not_succeeded_panicked _) hwell

end

/-- Registering that ended at the first of its ports. -/
theorem Joined.stopped (hjoined : Joined address [port] outcome seen)
    (hended : ¬outcome.Succeeded) (ports : List Int) :
    Joined address (port :: ports) outcome seen where
  listed := Nat.le_trans hjoined.listed (by simp)
  complete hthis := absurd hthis hended
  fails _ := by simp
  ends := hjoined.ends
  waits hwell member hmeets hinactive := by
    rw [meets_cons_iff hjoined.listed] at hmeets
    rcases hjoined.waits hwell member hmeets hinactive with rfl | ⟨_, _, _, hmore⟩
    · exact absurd trivial hended
    · simp at hmore
  guarded := hjoined.guarded

/-- Registering at the first port and then at the rest of them. -/
theorem Joined.append {waiting : Bool} {rest : Outcome (Except Error Bool)}
    (hfirst : Joined address [port] (.returned (.ok waiting)) early)
    (hrest : Joined address ports rest late)
    (hanswered : ∀ more, rest = .returned (.ok more) → outcome = .returned (.ok (waiting || more)))
    (hfailed : ¬rest.Succeeded → outcome = rest) :
    Joined address (port :: ports) outcome (early ++ late) := by
  have hlisted : (listings early).length = 1 := hfirst.complete trivial
  have hsucceeded (hthis : rest.Succeeded) : ∃ more, rest = .returned (.ok more) := by
    rcases rest with (error | more) | _ | text
    · exact hthis.elim
    · exact ⟨more, rfl⟩
    · exact hthis.elim
    · exact hthis.elim
  have hmissing {error : Error} (hended : rest = .returned (.error error)) :
      outcome = .returned (.error error) ∧ 1 < (port :: ports).length := by
    have hnot : ¬rest.Succeeded := by simp [hended]
    refine ⟨(hfailed hnot).trans hended, ?_⟩
    have hports := List.length_pos_of_ne_nil (hrest.fails hnot)
    simpa using hports
  constructor
  case listed =>
    rw [listings_append, List.length_append, hlisted, List.length_cons, Nat.add_comm]
    exact Nat.add_le_add_right hrest.listed 1
  case complete =>
    intro hthis
    have hended : rest.Succeeded := by
      by_contra hnot
      exact hnot (hfailed hnot ▸ hthis)
    rw [listings_append, List.length_append, hlisted, hrest.complete hended, List.length_cons,
      Nat.add_comm]
  case fails => simp
  case ends =>
    intro hwell
    rcases hrest.ends fun exchange hmem => hwell exchange (List.mem_append_right _ hmem) with
      hended | ⟨error, hended, herror⟩
    · obtain ⟨more, rfl⟩ := hsucceeded hended
      exact .inl (by rw [hanswered more rfl]; trivial)
    · exact .inr ⟨error, (hmissing hended).1, herror⟩
  case waits =>
    intro hwell member hmeets hinactive
    have hearly : ∀ exchange ∈ early, exchange.WentWell := fun exchange hmem =>
      hwell exchange (List.mem_append_left _ hmem)
    have hlate : ∀ exchange ∈ late, exchange.WentWell := fun exchange hmem =>
      hwell exchange (List.mem_append_right _ hmem)
    rcases (meets_cons_append_iff hlisted).mp hmeets with hmeets | hmeets
    · have hwaiting : waiting = true := by
        simpa using hfirst.waits hearly member hmeets hinactive
      rcases hrest.ends hlate with hended | ⟨error, hended, herror⟩
      · obtain ⟨more, rfl⟩ := hsucceeded hended
        exact .inl (by rw [hanswered more rfl, hwaiting, Bool.true_or])
      · exact .inr ⟨error, (hmissing hended).1, herror, (hmissing hended).2⟩
    · rcases hrest.waits hlate member hmeets hinactive with hended | ⟨error, hended, herror, -⟩
      · exact .inl (by rw [hanswered true hended, Bool.or_true])
      · exact .inr ⟨error, (hmissing hended).1, herror, (hmissing hended).2⟩
  case guarded => exact hfirst.guarded.append hrest.guarded

theorem register_joined {σ : Type} (address : String) (memberships : List PoolMembership)
    (state : σ) :
    (register address memberships state).Ensures (.recording _)
      (fun _ outcome seen => Joined address (memberships.map (·.port)) outcome seen) [] := by
  induction memberships generalizing state with
  | nil =>
      refine ⟨Nat.le_refl 0, fun _ => rfl, fun hended => absurd trivial hended,
        fun _ => .inl trivial, fun _ member hmeets => ?_, guarded_of_quiet (by simp)⟩
      exact absurd hmeets (not_meets_of_quiet rfl (by simp))
  | cons membership rest ih =>
      unfold register
      rw [Action.ensures_bind]
      apply (registerOne_turn membership address state).mono
      rintro state ((error | waiting) | _ | text) early hturn
      all_goals have hfirst := hturn.joined
      · exact hfirst.stopped (Outcome.not_succeeded_error _) _
      · rw [Outcome.follow_ok, Action.ensures_bind]
        apply ((ih state).recording early).mono
        rintro _ ((error | more) | _ | text) _ ⟨late, rfl, hrest⟩
        · exact hfirst.append hrest (by simp) fun _ => rfl
        · exact hfirst.append hrest (by rintro _ ⟨⟩; rfl) fun hnot => absurd trivial hnot
        · exact hfirst.append hrest (by simp) fun _ => rfl
        · exact hfirst.append hrest (by simp) fun _ => rfl
      · exact hfirst.stopped Outcome.not_succeeded_expired _
      · exact hfirst.stopped (Outcome.not_succeeded_panicked _) _

end Membership

namespace Machine

/-- The ports that a running machine is registered at, in turn. -/
def ports (cluster : Option VpcCluster) (machine : Machine) : List Int :=
  if machine.spec.loadBalancerPoolMembers ≠ [] then
    machine.spec.loadBalancerPoolMembers.map (·.port)
  else if machine.isControlPlane then (cluster.map (·.apiServerPort)).toList else []

variable {cluster : Option VpcCluster} {machine : Machine} {found : Instance} {address : String}
variable {seen : List OfMachine}

theorem one_lt_length_ports (hports : 1 < (ports cluster machine).length) :
    1 < machine.spec.loadBalancerPoolMembers.length := by
  unfold ports at hports
  split at hports
  · simpa using hports
  · split at hports
    · rcases cluster with _ | known <;> simp at hports
    · simp at hports

/-- How a running machine is registered: what it meets that is not active has to be waited for, and
members are created in active load balancers only. -/
structure Registers (cluster : Option VpcCluster) (machine : Machine) (found : Instance)
    (outcome : Outcome (Except Error (Option Bool))) (seen : List OfMachine) : Prop where
  waits : (∀ exchange ∈ seen, exchange.WentWell) → ∀ address member,
    Membership.usableAddress found.primaryAddress = .ok address →
    Membership.Meets seen address (ports cluster machine) member → member.status ≠ .active →
    outcome = .returned (.ok (some true)) ∨ ∃ error, outcome = .returned (.error error) ∧
      Membership.isMissing error = true ∧ 1 < machine.spec.loadBalancerPoolMembers.length
  guarded : Membership.Guarded seen

theorem Registers.of_nothing_asked {outcome : Outcome (Except Error (Option Bool))} :
    Registers cluster machine found outcome [] where
  waits _ address member _ hmeets :=
    absurd hmeets (Membership.not_meets_of_quiet rfl (by simp))
  guarded := Membership.guarded_of_quiet (by simp)

theorem Registers.of_joined {outcome : Outcome (Except Error (Option Bool))}
    {joined : Outcome (Except Error Bool)}
    (husable : Membership.usableAddress found.primaryAddress = .ok address)
    (hjoined : Membership.Joined address (ports cluster machine) joined seen)
    (hanswered : ∀ waiting, joined = .returned (.ok waiting) →
      outcome = .returned (.ok (some waiting)))
    (hfailed : ∀ error, joined = .returned (.error error) → outcome = .returned (.error error)) :
    Registers cluster machine found outcome seen where
  waits hwell other member hother hmeets hinactive := by
    obtain rfl : address = other := Except.ok.inj (husable.symm.trans hother)
    rcases hjoined.waits hwell member hmeets hinactive with hended | ⟨error, hended, herror, hmore⟩
    · exact .inl (hanswered true hended)
    · exact .inr ⟨error, hfailed error hended, herror, one_lt_length_ports hmore⟩
  guarded := hjoined.guarded

theorem registerRunning_registers (surroundings : Surroundings) (found : Instance)
    (machine : Machine) :
    (registerRunning surroundings found machine).Ensures (.recording _)
      (fun _ outcome seen => Registers surroundings.cluster machine found outcome seen) [] := by
  unfold registerRunning
  rw [Action.ensures_bind, Action.ensures_get, Outcome.follow_ok]
  by_cases hdeclared : machine.spec.loadBalancerPoolMembers = []
  · rw [if_neg (by simp [hdeclared])]
    by_cases hcontrolPlane : machine.isControlPlane = true
    · rw [if_pos hcontrolPlane]
      rcases hcluster : surroundings.cluster with _ | cluster
      · exact .of_nothing_asked
      · dsimp only
        rw [Action.ensures_map]
        have hports : ports (some cluster) machine = [VpcCluster.apiServerPort cluster] := by
          simp [ports, hdeclared, hcontrolPlane]
        rcases husable : Membership.usableAddress found.primaryAddress with error | address
        · unfold Membership.registerControlPlane
          rw [Action.ensures_bind, Action.ensures_ofExcept, husable]
          exact .of_nothing_asked
        · apply (Membership.registerControlPlane_turn cluster husable machine).mono
          rintro _ ((error | waiting) | _ | text) seen hturn
          all_goals
            have hjoined := hturn.joined
            rw [← hports] at hjoined
            exact .of_joined husable hjoined (by simp) (by simp)
    · rw [if_neg hcontrolPlane]
      exact .of_nothing_asked
  · rw [if_pos (by simpa using hdeclared), Action.ensures_bind, Action.ensures_ofExcept]
    rcases husable : Membership.usableAddress found.primaryAddress with error | address
    · exact .of_nothing_asked
    · rw [Outcome.follow_ok, Action.ensures_map]
      have hports : ports surroundings.cluster machine =
          machine.spec.loadBalancerPoolMembers.map (·.port) := if_pos hdeclared
      apply (Membership.register_joined address machine.spec.loadBalancerPoolMembers machine).mono
      rintro _ ((error | waiting) | _ | text) seen hjoined
      all_goals
        rw [← hports] at hjoined
        exact .of_joined husable hjoined (by simp) (by simp)

end Machine

end Reconciler
