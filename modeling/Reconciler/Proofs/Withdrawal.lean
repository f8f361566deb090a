import Reconciler.Proofs.Enrolment

/-!
# An address is taken out of its pools

Deregistering goes through memberships in turn, or to the pool in front of a control plane, and
takes out every member with an address.  All other members stay, so that what registering added is
undone, and what is left does not depend on how often deregistering was cut off before.
-/

namespace Reconciler

open Machine (About Topic topic)
open Relation (ReflTransGen)
open Step (Asks)

namespace Roster

/-- No member of the pool has the address. -/
def Clear (roster : Roster) (place : Place) (address : String) : Prop :=
  ∀ id entry, roster place id = some entry → entry.address ≠ some address

/-- The roster without the members that have an address, in some of the pools. -/
def without (roster : Roster) (address : String) (there : Place → Prop) [DecidablePred there] :
    Roster :=
  fun place id =>
    (roster place id).filter fun entry => ¬(there place ∧ entry.address = some address)

/-- The members that do not have an address. -/
abbrev others (roster : Roster) (address : String) : Roster :=
  roster.without address fun _ => True

/-- None but members with an address go, in some of the pools.  All others stay where they are,
their statuses may change, and none come. -/
structure Wanes (may : ProvisioningStatus → ProvisioningStatus → Prop) (address : String)
    (there : Place → Prop) (before after : Roster) : Prop where
  stays : ∀ place id later, after place id = some later →
    ∃ entry, before place id = some entry ∧ entry.Becomes may later
  goes : ∀ place id entry, before place id = some entry → after place id = none →
    there place ∧ entry.address = some address

variable {may : ProvisioningStatus → ProvisioningStatus → Prop} {address : String}
variable {there more : Place → Prop} {before middle after roster : Roster}
variable {place : Place} {id : String}

theorem Wanes.of_waits (hwaits : Waits may before after) :
    Wanes may address there before after where
  stays _ _ _ hlater := hwaits.exists_entry hlater
  goes _ _ _ hentry hgone := by
    obtain ⟨later, hlater, -⟩ := hwaits.exists_later hentry
    simp [hgone] at hlater

theorem Wanes.refl (roster : Roster) : Wanes (ReflTransGen may) address there roster roster :=
  .of_waits (.refl (fun _ => .refl) roster)

theorem Wanes.closure (hwanes : Wanes may address there before after) :
    Wanes (ReflTransGen may) address there before after where
  stays place id later hlater := by
    obtain ⟨entry, hentry, hpoint, hmay⟩ := hwanes.stays place id later hlater
    exact ⟨entry, hentry, hpoint, .single hmay⟩
  goes := hwanes.goes

theorem Wanes.trans (hfirst : Wanes (ReflTransGen may) address there before middle)
    (hlast : Wanes (ReflTransGen may) address there middle after) :
    Wanes (ReflTransGen may) address there before after where
  stays place id later hlater := by
    obtain ⟨between, hbetween, hsame, hmore⟩ := hlast.stays place id later hlater
    obtain ⟨entry, hentry, hpoint, hchanged⟩ := hfirst.stays place id between hbetween
    exact ⟨entry, hentry, hsame.trans hpoint, hchanged.trans hmore⟩
  goes place id entry hentry hgone := by
    rcases hbetween : middle place id with _ | between
    · exact hfirst.goes place id entry hentry hbetween
    · obtain ⟨earlier, hearlier, hbecomes⟩ := hfirst.stays place id between hbetween
      obtain rfl := Option.some.inj (hearlier.symm.trans hentry)
      rw [← hbecomes.address_eq]
      exact hlast.goes place id between hbetween hgone

theorem Wanes.clear (hwanes : Wanes may address there before after)
    (hclear : before.Clear place address) : after.Clear place address := by
  intro id later hlater
  obtain ⟨entry, hentry, hbecomes⟩ := hwanes.stays place id later hlater
  rw [hbecomes.address_eq]
  exact hclear id entry hentry

theorem Wanes.eq_none (hwanes : Wanes may address there before after)
    (hnone : before place id = none) : after place id = none := by
  by_contra hlater
  obtain ⟨later, hlater⟩ := Option.ne_none_iff_exists'.mp hlater
  obtain ⟨entry, hentry, -⟩ := hwanes.stays place id later hlater
  simp [hnone] at hentry

theorem wanes_put (hthere : there place)
    (haddress : ∀ entry, roster place id = some entry → entry.address = some address) :
    Wanes (ReflTransGen may) address there roster (roster.put place id none) where
  stays elsewhere other later hlater := by
    by_cases hsame : elsewhere = place ∧ other = id
    · simp [hsame] at hlater
    · rw [put_other hsame] at hlater
      exact ⟨later, hlater, rfl, .refl⟩
  goes elsewhere other entry hentry hgone := by
    by_cases hsame : elsewhere = place ∧ other = id
    · obtain ⟨rfl, rfl⟩ := hsame
      exact ⟨hthere, haddress entry hentry⟩
    · simp [put_other hsame, hentry] at hgone

/-- Where members may go, nothing becomes of the others. -/
theorem Wanes.waits_without [DecidablePred more] (hwanes : Wanes may address there before after)
    (himp : ∀ place, there place → more place) :
    Waits may (before.without address more) (after.without address more) := by
  intro place id
  rcases hlater : after place id with _ | later
  · have hnone : before.without address more place id = none := by
      rcases hentry : before place id with _ | entry
      · simp [without, hentry]
      · obtain ⟨hthere, haddress⟩ := hwanes.goes place id entry hentry hlater
        simp [without, hentry, himp place hthere, haddress]
    rw [hnone, without, hlater]
    exact .none
  · obtain ⟨entry, hentry, hbecomes⟩ := hwanes.stays place id later hlater
    rw [without, without, hentry, hlater, Option.filter_some, Option.filter_some,
      hbecomes.address_eq]
    split
    · exact .some hbecomes
    · exact .none

theorem Wanes.waits_others (hwanes : Wanes may address there before after) :
    Waits may (before.others address) (after.others address) :=
  hwanes.waits_without fun _ _ => trivial

section Without

variable [DecidablePred there]

theorem without_eq_some_iff {entry : Enlisted} :
    roster.without address there place id = some entry ↔
      roster place id = some entry ∧ ¬(there place ∧ entry.address = some address) := by
  simp only [without, Option.filter_eq_some_iff, decide_eq_true_eq]

theorem without_eq_self (hclear : ∀ place, there place → roster.Clear place address) :
    roster.without address there = roster := by
  funext place id
  rcases hentry : roster place id with _ | entry
  · simp [without, hentry]
  · exact without_eq_some_iff.mpr ⟨hentry, fun ⟨hthere, haddress⟩ =>
      hclear place hthere id entry hentry haddress⟩

end Without

section Provided

variable {directory : Directory} {reported : ProvisioningStatus → Prop}

/-- What makes or removes no member leaves all that may not go by themselves. -/
theorem wanes_of_provided {question : BodyQuestion .machine} {ending : Outcome question.Answer}
    (hprovided : provided directory reported (Wanes may address there) question ending before after)
    (hjoining : topic question ≠ .joining) (hleaving : topic question ≠ .leaving) :
    Wanes (ReflTransGen may) address there before after := by
  obtain ⟨asked, hbefore, hafter⟩ := meanwhile_of_provided hprovided hjoining hleaving
  exact hbefore.closure.trans hafter.closure

theorem wanes_of_asks {σ α : Type} {topics : List Topic} {step : Step .machine σ α}
    (hasks : Asks (About topics) step) (hjoining : Topic.joining ∉ topics)
    (hleaving : Topic.leaving ∉ topics) (state : σ) (start : Roster) :
    (step state).Ensures (provided directory reported (Wanes may address there))
      (fun _ _ after => Wanes (ReflTransGen may) address there start after) start :=
  keeps_of_asks hasks hjoining hleaving
    (fun _ _ hmeanwhile hwanes => hwanes.trans hmeanwhile.closure) state (.refl start)

variable {loadBalancer pool member : String} {members : List PoolMember}

/-- To make a member with the address makes no difference to those of other addresses. -/
theorem waits_others_of_creation {port : Int} {weight : Option Int}
    {ending : Outcome (Except CloudError PoolMember)}
    (hprovided : provided directory reported (Wanes may address fun _ => True)
      (.cloud (.createMember loadBalancer pool address port weight)) ending before after) :
    Waits (ReflTransGen may) (before.others address) (after.others address) := by
  obtain ⟨asked, answered, hbefore, hanswers, hafter⟩ := hprovided
  have hsame : answered.others address = asked.others address := by
    rcases hanswers with ⟨id, status, hfree, rfl, -⟩ | ⟨-, rfl⟩
    · funext there other
      by_cases hsame : there = (loadBalancer, pool) ∧ other = id
      · obtain ⟨rfl, rfl⟩ := hsame
        simp [without, hfree]
      · simp only [without, put_other hsame]
    · rfl
  have hlast := hafter.closure.waits_others
  rw [hsame] at hlast
  exact hbefore.closure.waits_others.trans hlast

/-- A member with the address may be removed, and it is gone if that went well. -/
theorem wanes_of_deletion {ending : Outcome (Except CloudError Unit)}
    (hprovided : provided directory reported (Wanes may address there)
      (.cloud (.deleteMember loadBalancer pool member)) ending before after)
    (hthere : there (loadBalancer, pool))
    (haddress : ∀ entry, before (loadBalancer, pool) member = some entry →
      entry.address = some address) :
    Wanes (ReflTransGen may) address there before after ∧
      (Managed.machine.WentWell (.deleteMember loadBalancer pool member) ending →
        after (loadBalancer, pool) member = none) := by
  obtain ⟨asked, answered, hbefore, hanswers, hafter⟩ := hprovided
  have hasked : ∀ entry, asked (loadBalancer, pool) member = some entry →
      entry.address = some address := by
    intro entry hentry
    obtain ⟨earlier, hearlier, hbecomes⟩ := hbefore.stays _ _ entry hentry
    exact hbecomes.address_eq.trans (haddress earlier hearlier)
  rcases hanswers with rfl | ⟨hfailed, rfl⟩
  · exact ⟨(hbefore.closure.trans (wanes_put hthere hasked)).trans hafter.closure,
      fun _ => hafter.eq_none put_same⟩
  · exact ⟨hbefore.closure.trans hafter.closure, fun hwell => absurd hwell hfailed⟩

/-- A member of the pool has been listed with its address. -/
theorem exists_listed_of_provided
    (hprovided : provided directory reported (Wanes may address there)
      (.cloud (.listMembers loadBalancer pool)) (.returned (.ok members)) before after)
    {id : String} {later : Enlisted} (hlater : after (loadBalancer, pool) id = some later) :
    ∃ member ∈ members, member.id = id ∧ member.address = later.address := by
  obtain ⟨asked, answered, -, ⟨rfl, hlisted⟩, hafter⟩ := hprovided
  obtain ⟨entry, hentry, hbecomes⟩ := hafter.stays _ _ later hlater
  exact ⟨entry.member id, (hlisted members rfl id entry).mpr hentry, rfl, hbecomes.address_eq.symm⟩

/-- A member that has been listed has its address as long as it is there. -/
theorem address_of_listed
    (hprovided : provided directory reported (Wanes may address there)
      (.cloud (.listMembers loadBalancer pool)) (.returned (.ok members)) before after)
    {member : PoolMember} (hmember : member ∈ members) {later : Enlisted}
    (hlater : after (loadBalancer, pool) member.id = some later) :
    later.address = member.address := by
  obtain ⟨asked, answered, -, ⟨rfl, hlisted⟩, hafter⟩ := hprovided
  obtain ⟨entry, hentry, hbecomes⟩ := hafter.stays _ _ later hlater
  have hsame : some entry = some ⟨member.address, member.port, member.status⟩ :=
    hentry.symm.trans ((hlisted members rfl member.id _).mp hmember)
  rw [hbecomes.address_eq, Option.some.inj hsame]

end Provided

end Roster

/-- A lookup that came back led where the directory says. -/
def Exchange.Truthful (directory : Directory) : OfMachine → Prop
  | ⟨.cloud (.getLoadBalancer id), ending⟩ => ∀ found, ending = .returned (.ok found) →
    found.map LoadBalancer.outline = directory.byId id
  | ⟨.cloud (.getLoadBalancerByName name), ending⟩ => ∀ found, ending = .returned (.ok found) →
    found.map LoadBalancer.outline = directory.byName name
  | _ => True

theorem Directory.leads_noting (directory : Directory) :
    directory.Leads (fun _ => True) (.noting (Exchange.Truthful directory)) where
  byId := fun ⟨htruthful, _⟩ => ⟨htruthful _ rfl, fun _ _ => trivial⟩
  byName := fun ⟨htruthful, _⟩ => ⟨htruthful _ rfl, fun _ _ => trivial⟩

theorem Directory.Leads.truthful {S : Type} {directory : Directory}
    {reported : ProvisioningStatus → Prop} {environment : Environment (outside .machine) S}
    (hleads : directory.Leads reported environment) {exchange : OfMachine} {before after : S}
    (hasked : environment exchange.question exchange.ending before after) :
    exchange.Truthful directory := by
  rcases exchange with ⟨call | _ | _, ending⟩
  · cases call with
    | getLoadBalancer id =>
        rintro found rfl
        exact (hleads.byId hasked).1
    | getLoadBalancerByName name =>
        rintro found rfl
        exact (hleads.byName hasked).1
    | _ => trivial
  · trivial
  · trivial

/-- The question is a listing of the pool or the removal of a member from it. -/
def Place.Concerns (place : Place) : BodyQuestion .machine → Prop
  | .cloud (.listMembers loadBalancer pool) => (loadBalancer, pool) = place
  | .cloud (.deleteMember loadBalancer pool _) => (loadBalancer, pool) = place
  | _ => False

/-- A pool to take an address out of: how its load balancer is looked up, and where it is unless it
does not resolve. -/
structure Errand where
  lookup : Option (BodyQuestion .machine)
  place : Option Place

namespace Errand

/-- What is asked on an errand: the lookup, and then only what concerns the pool. -/
def Asks (errand : Errand) (questions : List (BodyQuestion .machine)) : Prop :=
  ∃ rest, questions = errand.lookup.toList ++ rest ∧
    ∀ question ∈ rest, ∃ place ∈ errand.place, place.Concerns question

/-- What is asked on errands in turn, up to where they are broken off. -/
inductive AskInTurn : List Errand → List (BodyQuestion .machine) → Prop
  | stopped (errands : List Errand) : AskInTurn errands []
  | next {errand : Errand} {errands : List Errand} {questions more : List (BodyQuestion .machine)}
      (hasks : errand.Asks questions) (hrest : AskInTurn errands more) :
      AskInTurn (errand :: errands) (questions ++ more)

theorem asks_lookup (errand : Errand) : errand.Asks errand.lookup.toList :=
  ⟨[], (List.append_nil _).symm, by simp⟩

theorem askInTurn_of_asks {errand : Errand} {errands : List Errand}
    {questions : List (BodyQuestion .machine)} (hasks : errand.Asks questions) :
    AskInTurn (errand :: errands) questions := by
  rw [← List.append_nil questions]
  exact .next hasks (.stopped errands)

end Errand

namespace Membership

open Roster (Waits Wanes provided)

/-- How taking an address out of some of the pools ends, and what it makes of the roster. -/
structure Withdrawn (may : ProvisioningStatus → ProvisioningStatus → Prop) (address : String)
    (there cleared : Place → Prop) (outcome : Outcome (Except Error Unit))
    (before after : Roster) : Prop where
  wanes : Wanes (ReflTransGen may) address there before after
  clear : outcome.Succeeded → ∀ place, cleared place → after.Clear place address

variable {σ : Type} {directory : Directory} {reported : ProvisioningStatus → Prop}
variable {may : ProvisioningStatus → ProvisioningStatus → Prop}
variable {there : Place → Prop}

theorem removeAll_withdrawn {loadBalancer : LoadBalancer} {pool : Pool} (address : String)
    (hthere : there (loadBalancer.id, pool.id)) (members : List PoolMember) (state : σ)
    (start : Roster)
    (haddress : ∀ member ∈ members, ∀ entry,
      start (loadBalancer.id, pool.id) member.id = some entry → entry.address = some address) :
    (removeAll loadBalancer pool members state).Ensures
      (provided directory reported (Wanes may address there)) (fun _ outcome after =>
        Wanes (ReflTransGen may) address there start after ∧
          (outcome.Succeeded → ∀ member ∈ members,
            after (loadBalancer.id, pool.id) member.id = none)) start := by
  induction members generalizing start with
  | nil => exact ⟨.refl start, fun _ => nofun⟩
  | cons member rest ih =>
      unfold removeAll
      rw [Action.ensures_bind, Body.ensures_attempt]
      intro ending after hprovided
      obtain ⟨hfirst, hrest⟩ := List.forall_mem_cons.mp haddress
      obtain ⟨hwanes, hgone⟩ := Roster.wanes_of_deletion hprovided hthere hfirst
      have hgoes (hwell : Managed.machine.WentWell
          (.deleteMember loadBalancer.id pool.id member.id) ending) :
          (removeAll loadBalancer pool rest state).Ensures
            (provided directory reported (Wanes may address there)) (fun _ outcome last =>
              Wanes (ReflTransGen may) address there start last ∧
                (outcome.Succeeded → ∀ other ∈ member :: rest,
                  last (loadBalancer.id, pool.id) other.id = none)) after := by
        refine (ih after fun other hother later hlater => ?_).mono ?_
        · obtain ⟨entry, hentry, hbecomes⟩ := hwanes.stays _ _ later hlater
          rw [hbecomes.address_eq]
          exact hrest other hother entry hentry
        · rintro _ _ last ⟨hlast, hothers⟩
          exact ⟨hwanes.trans hlast, fun hended =>
            List.forall_mem_cons.mpr ⟨hlast.eq_none (hgone hwell), hothers hended⟩⟩
      rcases ending with (error | _) | _ | text
      · rw [Outcome.resume_returned, Outcome.follow_ok]
        dsimp only
        split
        · next hmissing => exact hgoes (.inr ⟨trivial, error, rfl, hmissing⟩)
        · exact ⟨hwanes, False.elim⟩
      · exact hgoes (.inl trivial)
      · exact ⟨hwanes, False.elim⟩
      · exact ⟨hwanes, False.elim⟩

theorem removeMember_withdrawn {loadBalancer : LoadBalancer} {pool : Pool} (address : String)
    (hthere : there (loadBalancer.id, pool.id)) (state : σ) (start : Roster) :
    (removeMember loadBalancer pool address state).Ensures
      (provided directory reported (Wanes may address there)) (fun _ outcome after =>
        Withdrawn may address there (· = (loadBalancer.id, pool.id)) outcome start after)
      start := by
  unfold removeMember
  rw [Action.ensures_bind, Body.ensures_call]
  intro ending listed hlisting
  have hwanes := Roster.wanes_of_provided hlisting (by simp) (by simp)
  rcases ending with (error | members) | _ | text
  · exact ⟨hwanes, False.elim⟩
  · rw [Outcome.mapError_ok, Outcome.follow_ok]
    refine (removeAll_withdrawn address hthere _ state listed ?_).mono ?_
    · intro member hmember entry hentry
      obtain ⟨hmember, haddress⟩ := List.mem_filter.mp hmember
      exact (Roster.address_of_listed hlisting hmember hentry).trans (beq_iff_eq.mp haddress)
    · rintro _ _ after ⟨hremoved, hgone⟩
      refine ⟨hwanes.trans hremoved, ?_⟩
      rintro hended _ rfl id later hlater haddress
      obtain ⟨entry, hentry, hbecomes⟩ := hremoved.stays _ id later hlater
      obtain ⟨member, hmember, rfl, hsame⟩ := Roster.exists_listed_of_provided hlisting hentry
      have hnone := hgone hended member (List.mem_filter.mpr ⟨hmember, beq_iff_eq.mpr
        (hsame.trans (hbecomes.address_eq.symm.trans haddress))⟩)
      simp [hlater] at hnone
  · exact ⟨hwanes, False.elim⟩
  · exact ⟨hwanes, False.elim⟩

theorem Withdrawn.none_cleared {cleared : Place → Prop}
    {outcome : Outcome (Except Error Unit)} {before after : Roster}
    (hwanes : Wanes (ReflTransGen may) address there before after)
    (hnone : outcome.Succeeded → ∀ place, ¬cleared place) :
    Withdrawn may address there cleared outcome before after :=
  ⟨hwanes, fun hended place hcleared => absurd hcleared (hnone hended place)⟩

/-- What was cleared first stays clear. -/
theorem Withdrawn.append {first rest cleared : Place → Prop}
    {early outcome : Outcome (Except Error Unit)} {before middle after : Roster}
    (hfirst : Withdrawn may address there first early before middle) (hearly : early.Succeeded)
    (hrest : Withdrawn may address there rest outcome middle after)
    (hcleared : ∀ place, cleared place → first place ∨ rest place) :
    Withdrawn may address there cleared outcome before after where
  wanes := hfirst.wanes.trans hrest.wanes
  clear hended place hplace := by
    rcases hcleared place hplace with hplace | hplace
    · exact hrest.wanes.clear (hfirst.clear hearly place hplace)
    · exact hrest.clear hended place hplace

theorem deregister_withdrawn (address : String) (memberships : List PoolMembership)
    (hthere : ∀ place ∈ memberships.filterMap directory.place, there place) (state : σ)
    (start : Roster) :
    (deregister address memberships state).Ensures
      (provided directory reported (Wanes may address there)) (fun _ outcome after =>
        Withdrawn may address there (· ∈ memberships.filterMap directory.place) outcome start
          after) start := by
  induction memberships generalizing state start with
  | nil => exact .none_cleared (.refl start) (by simp)
  | cons membership rest ih =>
      have hrest : ∀ place ∈ rest.filterMap directory.place, there place := fun place hplace =>
        hthere place (List.filterMap_subset directory.place (List.subset_cons_self ..) hplace)
      have hthen {first : Place → Prop} {middle : Roster}
          (hfirst : Withdrawn may address there first (.returned (.ok ())) start middle)
          (hcleared : ∀ place ∈ (membership :: rest).filterMap directory.place,
            first place ∨ place ∈ rest.filterMap directory.place) (state : σ) :
          (deregister address rest state).Ensures
            (provided directory reported (Wanes may address there)) (fun _ outcome after =>
              Withdrawn may address there
                (· ∈ (membership :: rest).filterMap directory.place) outcome start after)
            middle :=
        (ih hrest state middle).mono fun _ _ _ hmore => hfirst.append trivial hmore hcleared
      apply deregister_cons_ensures Roster.leads_provided
        (Roster.wanes_of_asks (asks_findLoadBalancer _) (by decide) (by decide) state start)
      case hfails =>
        exact fun _ _ _ hwanes hended => ⟨hwanes, fun hthis => absurd hthis hended⟩
      case hskips =>
        exact fun hplace state looked hwanes =>
          hthen (.none_cleared hwanes fun _ _ => id) (by simp [hplace]) state
      case hremoves =>
        intro loadBalancer pool hplace state looked hwanes
        have hplaces : (membership :: rest).filterMap directory.place =
            (loadBalancer.id, pool.id) :: rest.filterMap directory.place :=
          List.filterMap_cons_some hplace
        apply (removeMember_withdrawn address (hthere _ (by simp [hplaces])) state looked).mono
        rintro state ((error | _) | _ | text) middle ⟨hremoved, hclear⟩
        · exact ⟨hwanes.trans hremoved, False.elim⟩
        · exact hthen ⟨hwanes.trans hremoved, hclear⟩ (by simp [hplaces]) state
        · exact ⟨hwanes.trans hremoved, False.elim⟩
        · exact ⟨hwanes.trans hremoved, False.elim⟩

theorem deregisterControlPlane_withdrawn (cluster : VpcCluster) (address : String)
    (hthere : ∀ place ∈ directory.controlPlane cluster, there place) (state : σ)
    (start : Roster) :
    (deregisterControlPlane cluster address state).Ensures
      (provided directory reported (Wanes may address there)) (fun _ outcome after =>
        Withdrawn may address there (· ∈ directory.controlPlane cluster) outcome start after)
      start := by
  apply deregisterControlPlane_ensures Roster.leads_provided
    (Roster.wanes_of_asks (asks_controlPlanePool cluster) (by decide) (by decide) state start)
  case hfails =>
    exact fun _ _ _ hwanes hended => ⟨hwanes, fun hthis => absurd hthis hended⟩
  case hskips => exact fun hplace _ _ hwanes => .none_cleared hwanes (by simp [hplace])
  case hremoves =>
    intro loadBalancer pool hplace state looked hwanes
    apply (removeMember_withdrawn address (hthere _ hplace) state looked).mono
    rintro _ outcome after ⟨hmore, hclear⟩
    refine ⟨hwanes.trans hmore, fun hended place hmem => hclear hended place ?_⟩
    exact Option.some.inj (hmem.symm.trans hplace)

/-- What asks for the load balancer of a reference. -/
def lookup (reference : ResourceReference) : Option (BodyQuestion .machine) :=
  match reference.id, reference.name with
  | some id, _ => some (.cloud (.getLoadBalancer id))
  | none, some name => some (.cloud (.getLoadBalancerByName name))
  | none, none => none

def controlPlaneLookup (cluster : VpcCluster) : Option (BodyQuestion .machine) :=
  cluster.controlPlaneLoadBalancer.map fun reference => .cloud (.getLoadBalancer reference.id)

/-- What says which pools an address is taken out of. -/
inductive Source where
  | declared (memberships : List PoolMembership)
  | controlPlane (cluster : VpcCluster)

namespace Source

variable {σ : Type} {directory : Directory}

def deregister (address : String) : Source → Calls σ Unit
  | .declared memberships => Membership.deregister address memberships
  | .controlPlane cluster => deregisterControlPlane cluster address

def errands (directory : Directory) : Source → List Errand
  | .declared memberships => memberships.map fun membership =>
    ⟨lookup membership.loadBalancer, directory.place membership⟩
  | .controlPlane cluster =>
    [⟨controlPlaneLookup cluster, directory.controlPlane cluster⟩]

/-- The pools that resolve. -/
def places (directory : Directory) (source : Source) : List Place :=
  (source.errands directory).filterMap (·.place)

end Source

section Errands

variable {σ : Type} {directory : Directory} {holds : OfMachine → Prop}

theorem findLoadBalancer_asks (reference : ResourceReference) (state : σ)
    (early : List OfMachine) :
    (findLoadBalancer reference state).Ensures (.noting holds) (fun _ _ seen =>
      ∃ late, seen = early ++ late ∧ late.map (·.question) = (lookup reference).toList) early := by
  unfold findLoadBalancer lookup
  rcases reference with ⟨_ | id, _ | name⟩
  · exact ⟨[], (List.append_nil early).symm, rfl⟩
  · refine (Body.ensures_call ..).mpr ?_
    rintro ending _ ⟨-, rfl⟩
    exact ⟨_, rfl, rfl⟩
  · refine (Body.ensures_call ..).mpr ?_
    rintro ending _ ⟨-, rfl⟩
    exact ⟨_, rfl, rfl⟩
  · refine (Body.ensures_call ..).mpr ?_
    rintro ending _ ⟨-, rfl⟩
    exact ⟨_, rfl, rfl⟩

theorem controlPlanePool_asks (cluster : VpcCluster) (state : σ) (early : List OfMachine) :
    (controlPlanePool cluster state).Ensures (.noting holds) (fun _ _ seen =>
      ∃ late, seen = early ++ late ∧
        late.map (·.question) = (controlPlaneLookup cluster).toList) early := by
  unfold controlPlanePool controlPlaneLookup
  rcases cluster.controlPlaneLoadBalancer with _ | reference
  · exact ⟨[], (List.append_nil early).symm, rfl⟩
  · simp only [Action.ensures_bind, Body.ensures_call]
    rintro ((error | _ | loadBalancer) | _ | text) _ ⟨-, rfl⟩
    · exact ⟨_, rfl, rfl⟩
    · exact ⟨_, rfl, rfl⟩
    · rw [Outcome.mapError_ok, Outcome.follow_ok]
      dsimp only
      rcases loadBalancer.pools.head? with _ | pool <;> exact ⟨_, rfl, rfl⟩
    · exact ⟨_, rfl, rfl⟩
    · exact ⟨_, rfl, rfl⟩

/-- On an errand to a pool that is there, its members are asked for and removed. -/
theorem removeMember_asks (errand : Errand) {loadBalancer : LoadBalancer} {pool : Pool}
    {late : List OfMachine} (hlate : late.map (·.question) = errand.lookup.toList)
    (hplace : errand.place = some (loadBalancer.id, pool.id)) (address : String) (state : σ)
    (early : List OfMachine) :
    (removeMember loadBalancer pool address state).Ensures (.noting holds) (fun _ _ seen =>
      ∃ more, seen = early ++ (late ++ more) ∧ errand.Asks ((late ++ more).map (·.question)))
      (early ++ late) := by
  have hdelete : ∀ member, Place.Concerns (loadBalancer.id, pool.id)
      (.cloud (.deleteMember loadBalancer.id pool.id member)) := fun _ => rfl
  have hlist : Place.Concerns (loadBalancer.id, pool.id)
      (.cloud (.listMembers loadBalancer.id pool.id)) := rfl
  have hconcerns : Step.Asks (Place.Concerns (loadBalancer.id, pool.id))
      (removeMember loadBalancer pool address : Calls σ Unit) :=
    asks_removeMember hdelete hlist address
  apply ((hconcerns state).noting (early ++ late)).mono
  rintro _ _ _ ⟨more, rfl, hmore⟩
  refine ⟨more, List.append_assoc .., more.map (·.question), ?_, ?_⟩
  · rw [List.map_append, hlate]
  · exact List.forall_mem_map.mpr fun exchange hmem => ⟨_, hplace, hmore exchange hmem⟩

theorem deregister_asksInTurn (address : String) (memberships : List PoolMembership) (state : σ)
    (early : List OfMachine) :
    (deregister address memberships state).Ensures (.noting (Exchange.Truthful directory))
      (fun _ _ seen => ∃ late, seen = early ++ late ∧
        Errand.AskInTurn ((Source.declared memberships).errands directory)
          (late.map (·.question))) early := by
  induction memberships generalizing state early with
  | nil => exact ⟨[], (List.append_nil early).symm, .stopped _⟩
  | cons membership rest ih =>
      let errand : Errand := ⟨lookup membership.loadBalancer, directory.place membership⟩
      have hstop {late : List OfMachine} (hasks : errand.Asks (late.map (·.question))) :
          ∃ more, early ++ late = early ++ more ∧
            Errand.AskInTurn ((Source.declared (membership :: rest)).errands directory)
              (more.map (·.question)) :=
        ⟨late, rfl, Errand.askInTurn_of_asks hasks⟩
      have hnext {late : List OfMachine} (hasks : errand.Asks (late.map (·.question)))
          (state : σ) :
          (deregister address rest state).Ensures (.noting (Exchange.Truthful directory))
            (fun _ _ seen => ∃ more, seen = early ++ more ∧
              Errand.AskInTurn ((Source.declared (membership :: rest)).errands directory)
                (more.map (·.question))) (early ++ late) := by
        apply (ih state (early ++ late)).mono
        rintro _ _ _ ⟨more, rfl, hmore⟩
        refine ⟨late ++ more, List.append_assoc .., ?_⟩
        rw [List.map_append]
        exact .next hasks hmore
      apply deregister_cons_ensures directory.leads_noting
        (findLoadBalancer_asks membership.loadBalancer state early)
      case hfails =>
        rintro _ _ _ ⟨late, rfl, hlate⟩ _
        exact hstop (hlate ▸ errand.asks_lookup)
      case hskips =>
        rintro _ state _ ⟨late, rfl, hlate⟩
        exact hnext (hlate ▸ errand.asks_lookup) state
      case hremoves =>
        rintro loadBalancer pool hplace state _ ⟨late, rfl, hlate⟩
        apply (removeMember_asks errand hlate hplace address state early).mono
        rintro state ((error | _) | _ | text) _ ⟨more, rfl, hmore⟩
        · exact hstop hmore
        · exact hnext hmore state
        · exact hstop hmore
        · exact hstop hmore

theorem deregisterControlPlane_asksInTurn (cluster : VpcCluster) (address : String) (state : σ)
    (early : List OfMachine) :
    (deregisterControlPlane cluster address state).Ensures (.noting (Exchange.Truthful directory))
      (fun _ _ seen => ∃ late, seen = early ++ late ∧
        Errand.AskInTurn ((Source.controlPlane cluster).errands directory)
          (late.map (·.question))) early := by
  let errand : Errand := ⟨controlPlaneLookup cluster, directory.controlPlane cluster⟩
  have hstop {late : List OfMachine} (hasks : errand.Asks (late.map (·.question))) :
      ∃ more, early ++ late = early ++ more ∧
        Errand.AskInTurn ((Source.controlPlane cluster).errands directory)
          (more.map (·.question)) :=
    ⟨late, rfl, Errand.askInTurn_of_asks hasks⟩
  apply deregisterControlPlane_ensures directory.leads_noting
    (controlPlanePool_asks cluster state early)
  case hfails =>
    rintro _ _ _ ⟨late, rfl, hlate⟩ _
    exact hstop (hlate ▸ errand.asks_lookup)
  case hskips =>
    rintro _ _ _ ⟨late, rfl, hlate⟩
    exact hstop (hlate ▸ errand.asks_lookup)
  case hremoves =>
    rintro loadBalancer pool hplace state _ ⟨late, rfl, hlate⟩
    apply (removeMember_asks errand hlate hplace address state early).mono
    rintro _ _ _ ⟨more, rfl, hmore⟩
    exact hstop hmore

end Errands

namespace Source

variable {σ : Type} {directory : Directory} {reported : ProvisioningStatus → Prop}
variable {may : ProvisioningStatus → ProvisioningStatus → Prop}

theorem mem_places_declared {memberships : List PoolMembership} {place : Place} :
    place ∈ (declared memberships).places directory ↔
      place ∈ memberships.filterMap directory.place := by
  simp [places, errands]

theorem mem_places_controlPlane {cluster : VpcCluster} {place : Place} :
    place ∈ (controlPlane cluster).places directory ↔
      place ∈ directory.controlPlane cluster := by
  rcases hplace : directory.controlPlane cluster with _ | known <;>
    simp [places, errands, hplace, eq_comm]

theorem deregister_withdrawn (source : Source) (address : String) (state : σ) (start : Roster) :
    (source.deregister address state).Ensures
      (provided directory reported (Wanes may address (· ∈ source.places directory)))
      (fun _ outcome after => Withdrawn may address (· ∈ source.places directory)
        (· ∈ source.places directory) outcome start after) start := by
  cases source with
  | declared memberships =>
      simp only [mem_places_declared]
      exact Membership.deregister_withdrawn address memberships (fun _ => id) state start
  | controlPlane cluster =>
      simp only [mem_places_controlPlane]
      exact deregisterControlPlane_withdrawn cluster address (fun _ => id) state start

theorem deregister_asksInTurn (source : Source) (address : String) (state : σ) :
    (source.deregister address state).Ensures (.noting (Exchange.Truthful directory))
      (fun _ _ seen => Errand.AskInTurn (source.errands directory) (seen.map (·.question))) [] := by
  cases source with
  | declared memberships =>
      apply (Membership.deregister_asksInTurn address memberships state []).mono
      rintro _ _ _ ⟨late, rfl, hlate⟩
      exact hlate
  | controlPlane cluster =>
      apply (deregisterControlPlane_asksInTurn cluster address state []).mono
      rintro _ _ _ ⟨late, rfl, hlate⟩
      exact hlate

theorem faithful_deregister (source : Source) (address : String) :
    (source.deregister address : Calls σ Unit).Faithful := by
  cases source with
  | declared memberships => exact Membership.faithful_deregister address memberships
  | controlPlane cluster => exact faithful_deregisterControlPlane cluster address

end Source

/-- What registers an address leaves the members of all others alone. -/
theorem register_waits_others {W : Type} {view : W → Roster}
    {answer : (question : BodyQuestion .machine) → W → Outcome question.Answer × W}
    {address : String}
    (hkeeps : ∀ question w, provided directory reported (Wanes may address fun _ => True) question
      (answer question w).1 (view w) (view (answer question w).2))
    (memberships : List PoolMembership) (state : σ) (w : W) :
    Waits (ReflTransGen may) ((view w).others address)
      ((view ((register address memberships state).run answer w).2).others address) := by
  have hled := (register_led address memberships state).exchanges_recording answer w
  have hstep : ∀ exchange ∈ (register address memberships state).exchanges answer w,
      ∀ before after, provided directory reported (Wanes may address fun _ => True)
        exchange.question exchange.ending before after →
      Waits (ReflTransGen may) ((view w).others address) (before.others address) →
      Waits (ReflTransGen may) ((view w).others address) (after.others address) := by
    intro exchange hmem before after hasked hbefore
    refine hbefore.trans ?_
    by_cases hjoining : topic exchange.question = .joining
    · obtain ⟨early, late, hsplit⟩ := List.append_of_mem hmem
      obtain ⟨_, _, _, -, _, _, _, _, _, _, -, -, -, -, rfl⟩ :=
        hled early exchange late hsplit hjoining
      exact Roster.waits_others_of_creation hasked
    · have hleaving := register_removes_nothing address memberships state w exchange hmem
      exact (Roster.wanes_of_provided hasked hjoining hleaving).waits_others
  have halong := Program.along_run hkeeps (register address memberships state) w
  exact halong.keeps hstep (Waits.refl (fun _ => .refl) _)

variable {W : Type} {view : W → Roster} {source : Source} {address : String}
variable {answer : (question : BodyQuestion .machine) → W → Outcome question.Answer × W}

/-- Deregistering undoes registering and nothing else.  However it ends, no members go but those
with the address in the pools that resolve, and for what does not resolve there is no question but
the lookup.  When it succeeds there are none of those left.  After registering the address for any
memberships, it leaves the members of all other addresses as they were before.  Where every call
goes well it leaves all but those members, also when it was cut off before. -/
theorem deregister_restores
    (hkeeps : ∀ question w,
      provided directory reported (Wanes may address (· ∈ source.places directory)) question
        (answer question w).1 (view w) (view (answer question w).2)) (state : σ) (w : W) :
    let program := source.deregister address state
    let run := program.run answer
    let seen := program.exchanges answer
    ((run w).1.2.Succeeded →
      ∀ place ∈ source.places directory, (view (run w).2).Clear place address) ∧
    Wanes (ReflTransGen may) address (· ∈ source.places directory) (view w) (view (run w).2) ∧
    Errand.AskInTurn (source.errands directory) ((seen w).map (·.question)) ∧
    (∀ (known : Directory)
      (earlier : (question : BodyQuestion .machine) → W → Outcome question.Answer × W),
      (∀ question w, provided known reported (Wanes may address fun _ => True) question
        (earlier question w).1 (view w) (view (earlier question w).2)) →
      ∀ (memberships : List PoolMembership) (start : σ) (first : W),
        Wanes (ReflTransGen may) address (fun _ => True)
          (view ((register address memberships start).run earlier first).2) (view w) →
        Waits (ReflTransGen may) ((view first).others address)
          ((view (run w).2).others address)) ∧
    ((∀ exchange ∈ seen w, exchange.WentWell) →
      Waits (ReflTransGen may) ((view w).without address (· ∈ source.places directory))
        (view (run w).2)) ∧
    (∀ later, Wanes (ReflTransGen may) address (· ∈ source.places directory) (view (run w).2)
        (view later) →
      (∀ exchange ∈ seen later, exchange.WentWell) →
      Waits (ReflTransGen may) ((view w).without address (· ∈ source.places directory))
        (view (run later).2)) := by
  intro program run seen
  have hrun (w : W) : Withdrawn may address (· ∈ source.places directory)
      (· ∈ source.places directory) (run w).1.2 (view w) (view (run w).2) :=
    (source.deregister_withdrawn address state (view w)).run answer view hkeeps w
  have hwell (w : W) (hall : ∀ exchange ∈ seen w, exchange.WentWell) :
      Waits (ReflTransGen may) ((view w).without address (· ∈ source.places directory))
        (view (run w).2) := by
    have hended := ((source.faithful_deregister address) state True).exchanges answer w
    rw [Exchange.foldl_tally] at hended
    have hclear := (hrun w).clear (by simpa using hended.2.mp ⟨trivial, hall⟩)
    have hwaits := (hrun w).wanes.waits_without fun place => id
    rwa [Roster.without_eq_self hclear] at hwaits
  refine ⟨(hrun w).clear, (hrun w).wanes, ?asks, ?restores, hwell w, ?again⟩
  case asks =>
    exact (source.deregister_asksInTurn address state).exchanges_noting answer
      (fun question w => Roster.leads_provided.truthful (hkeeps question w)) w
  case restores =>
    intro known earlier hearlier memberships start first hmeanwhile
    have hregistered := register_waits_others hearlier memberships start first
    exact (hregistered.trans hmeanwhile.waits_others).trans (hrun w).wanes.waits_others
  case again =>
    intro later hmeanwhile hall
    exact (((hrun w).wanes.trans hmeanwhile).waits_without fun _ => id).trans (hwell later hall)

/-- Deregistering that gets no answer when it removes a member of its second membership, the first
being of a load balancer that is gone, is made again and leaves the member with another address. -/
theorem deregister_restores_cut :
    let source := Source.declared
      (⟨.byName "gone", .byId "pool-1", 8080, none⟩ :: Desk.memberships)
    let registered := ((register "10.0.0.5" Desk.memberships ()).run Desk.answer (Desk.start 9)).2
    let run := (source.deregister "10.0.0.5" ()).run Desk.answer
    let cut := run (registered.waiting 3)
    cut.1.2 = .expired ∧
    (run (cut.2.waiting 20)).2.roster =
      registered.roster.without "10.0.0.5" (· ∈ source.places Desk.directory) := by
  refine ⟨by decide +kernel, ?_⟩
  have hrefl (there : Place → Prop) (roster : Roster) : Wanes Eq "10.0.0.5" there roster roster :=
    .of_waits (.refl (fun _ => rfl) roster)
  obtain ⟨-, -, -, -, -, hagain⟩ := deregister_restores (Desk.provided_answer (hrefl _)) ()
    (((register "10.0.0.5" Desk.memberships ()).run Desk.answer (Desk.start 9)).2.waiting 3)
  exact (hagain (Desk.waiting _ 20) (.refl _) (by decide +kernel)).eq

end Membership

end Reconciler
