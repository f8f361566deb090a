import Reconciler.Proofs.Joining
import Reconciler.Proofs.Roster

/-!
# Memberships are made once

Registering goes through a list of memberships and makes a member wherever a pool has none at the
address and port, as long as the load balancer is active.  Nothing else becomes of the roster, so
that a run that was cut off can be made again: together the two leave members at the same points as
one run that goes through.
-/

namespace Reconciler

open Machine (About Topic topic)
open Relation (ReflTransGen)
open Step (Asks)

namespace Roster

/-- Members stay where they are, and their statuses may change. -/
def Waits (may : ProvisioningStatus → ProvisioningStatus → Prop) (before after : Roster) : Prop :=
  ∀ place id, Option.Rel (Enlisted.Becomes may) (before place id) (after place id)

/-- Both have members at the same points. -/
def Alike (before after : Roster) : Prop :=
  ∀ place point, after.Holds place point ↔ before.Holds place point

/-- No member is removed, or altered in anything but its status.  Members are added for an address
at wanted spots that had none, one for each. -/
structure Enrols (may : ProvisioningStatus → ProvisioningStatus → Prop) (address : String)
    (wanted : List (Place × Int)) (before after : Roster) : Prop where
  kept : ∀ place id entry, before place id = some entry →
    ∃ later, after place id = some later ∧ entry.Becomes (ReflTransGen may) later
  joined : ∀ place id later, before place id = none → after place id = some later →
    later.address = some address ∧ (place, later.port) ∈ wanted ∧ ¬before.Holds place later.point
  once : ∀ place id other entry later, before place id = none → before place other = none →
    after place id = some entry → after place other = some later → entry.port = later.port →
    id = other

variable {may : ProvisioningStatus → ProvisioningStatus → Prop} {address : String}
variable {wanted more : List (Place × Int)} {before middle after : Roster}
variable {place : Place} {point : Option String × Int} {id : String}

theorem Waits.exists_later (hwaits : Waits may before after) {entry : Enlisted}
    (hentry : before place id = some entry) :
    ∃ later, after place id = some later ∧ entry.Becomes may later := by
  have hrel := hwaits place id
  rw [hentry] at hrel
  generalize after place id = found at hrel
  cases hrel with
  | some hlater => exact ⟨_, rfl, hlater⟩

theorem Waits.exists_entry (hwaits : Waits may before after) {later : Enlisted}
    (hlater : after place id = some later) :
    ∃ entry, before place id = some entry ∧ entry.Becomes may later := by
  have hrel := hwaits place id
  rw [hlater] at hrel
  generalize before place id = found at hrel
  cases hrel with
  | some hentry => exact ⟨_, rfl, hentry⟩

theorem Waits.refl (hrefl : ∀ status, may status status) (roster : Roster) :
    Waits may roster roster := by
  intro place id
  rcases roster place id with _ | entry
  · exact .none
  · exact .some ⟨rfl, hrefl _⟩

theorem Waits.trans (hfirst : Waits (ReflTransGen may) before middle)
    (hlast : Waits (ReflTransGen may) middle after) : Waits (ReflTransGen may) before after := by
  intro place id
  have hearly := hfirst place id
  have hlate := hlast place id
  generalize before place id = first, middle place id = between, after place id = last at *
  cases hearly with
  | none => exact hlate
  | some hchanged =>
      cases hlate with
      | some hmore => exact .some ⟨hmore.1.trans hchanged.1, hchanged.2.trans hmore.2⟩

/-- Where statuses do not change, nothing does. -/
theorem Waits.eq (hwaits : Waits (ReflTransGen Eq) before after) : after = before := by
  funext place id
  have hrel := hwaits place id
  generalize before place id = found, after place id = left at hrel
  cases hrel with
  | none => rfl
  | @some entry later hbecomes =>
      obtain ⟨hpoint, hsame⟩ := hbecomes
      rw [Relation.reflTransGen_eq_self] at hsame
      obtain ⟨haddress, hport⟩ := Prod.mk.inj hpoint
      rw [Option.some.injEq, Enlisted.mk.injEq]
      exact ⟨haddress, hport, hsame.symm⟩

theorem Waits.alike (hwaits : Waits may before after) : Alike before after := by
  intro place point
  constructor
  · rintro ⟨id, later, hlater, rfl⟩
    obtain ⟨entry, hentry, hpoint, -⟩ := hwaits.exists_entry hlater
    exact ⟨id, entry, hentry, hpoint.symm⟩
  · rintro ⟨id, entry, hentry, rfl⟩
    obtain ⟨later, hlater, hpoint, -⟩ := hwaits.exists_later hentry
    exact ⟨id, later, hlater, hpoint⟩

/-- Where members that are active remain so, there still is one. -/
theorem Waits.holdsActive (hwaits : Waits may before after)
    (hlasting : ∀ status, may .active status → status = .active)
    (hholds : before.HoldsActive place point) : after.HoldsActive place point := by
  obtain ⟨id, entry, hentry, rfl, hactive⟩ := hholds
  obtain ⟨later, hlater, hpoint, hmay⟩ := hwaits.exists_later hentry
  exact ⟨id, later, hlater, hpoint, hlasting _ (hactive ▸ hmay)⟩

theorem Waits.enrols (hwaits : Waits may before after) :
    Enrols may address wanted before after where
  kept place id entry hentry := by
    obtain ⟨later, hlater, hpoint, hmay⟩ := hwaits.exists_later hentry
    exact ⟨later, hlater, hpoint, .single hmay⟩
  joined place id later hnone hlater := by
    obtain ⟨entry, hentry, -⟩ := hwaits.exists_entry hlater
    simp [hnone] at hentry
  once place id other entry later hnone _ hentry := by
    obtain ⟨earlier, hearlier, -⟩ := hwaits.exists_entry hentry
    simp [hnone] at hearlier

theorem Enrols.refl (roster : Roster) : Enrols may address wanted roster roster where
  kept _ _ entry hentry := ⟨entry, hentry, rfl, .refl⟩
  joined _ _ _ hnone hlater := by simp [hnone] at hlater
  once _ _ _ _ _ hnone _ hentry := by simp [hnone] at hentry

theorem Enrols.mono (henrols : Enrols may address wanted before after) (hsubset : wanted ⊆ more) :
    Enrols may address more before after where
  kept := henrols.kept
  joined place id later hnone hlater := by
    obtain ⟨haddress, hwanted, hfree⟩ := henrols.joined place id later hnone hlater
    exact ⟨haddress, hsubset hwanted, hfree⟩
  once := henrols.once

theorem Enrols.holds (henrols : Enrols may address wanted before after)
    (hholds : before.Holds place point) : after.Holds place point := by
  obtain ⟨id, entry, hentry, rfl⟩ := hholds
  obtain ⟨later, hlater, hpoint, -⟩ := henrols.kept place id entry hentry
  exact ⟨id, later, hlater, hpoint⟩

theorem Enrols.holdsActive (henrols : Enrols may address wanted before after)
    (hlasting : ∀ status, may .active status → status = .active)
    (hholds : before.HoldsActive place point) : after.HoldsActive place point := by
  obtain ⟨id, entry, hentry, rfl, hactive⟩ := hholds
  obtain ⟨later, hlater, hpoint, hchanged⟩ := henrols.kept place id entry hentry
  refine ⟨id, later, hlater, hpoint, ?_⟩
  rw [hactive] at hchanged
  generalize later.status = status at hchanged
  induction hchanged with
  | refl => rfl
  | tail _ hmay ih => exact hlasting _ (ih ▸ hmay)

theorem Enrols.holds_or_wanted (henrols : Enrols may address wanted before after)
    (hholds : after.Holds place point) :
    before.Holds place point ∨ point.1 = some address ∧ (place, point.2) ∈ wanted := by
  obtain ⟨id, later, hlater, rfl⟩ := hholds
  rcases hbefore : before place id with _ | entry
  · obtain ⟨haddress, hwanted, -⟩ := henrols.joined place id later hbefore hlater
    exact .inr ⟨haddress, hwanted⟩
  · obtain ⟨same, hsame, hpoint, -⟩ := henrols.kept place id entry hbefore
    obtain rfl := Option.some.inj (hsame.symm.trans hlater)
    exact .inl ⟨id, entry, hbefore, hpoint.symm⟩

theorem Enrols.trans (hfirst : Enrols may address wanted before middle)
    (hlast : Enrols may address wanted middle after) : Enrols may address wanted before after where
  kept place id entry hentry := by
    obtain ⟨between, hbetween, hpoint, hchanged⟩ := hfirst.kept place id entry hentry
    obtain ⟨later, hlater, hsame, hmore⟩ := hlast.kept place id between hbetween
    exact ⟨later, hlater, hsame.trans hpoint, hchanged.trans hmore⟩
  joined place id later hnone hlater := by
    rcases hbetween : middle place id with _ | between
    · obtain ⟨haddress, hwanted, hfree⟩ := hlast.joined place id later hbetween hlater
      exact ⟨haddress, hwanted, fun hholds => hfree (hfirst.holds hholds)⟩
    · obtain ⟨same, hsame, hpoint, -⟩ := hlast.kept place id between hbetween
      obtain rfl := Option.some.inj (hsame.symm.trans hlater)
      obtain ⟨haddress, hport⟩ := Prod.mk.inj hpoint
      obtain ⟨hjoined, hwanted, hfree⟩ := hfirst.joined place id between hnone hbetween
      exact ⟨haddress.trans hjoined, hport ▸ hwanted, hpoint ▸ hfree⟩
  once place id other entry later hnone hother hentry hlater hport := by
    -- A member that joined first occupies the spot that a later one would need.
    have hapart {id other : String} {entry later between : Enlisted}
        (hnone : before place id = none) (hbetween : middle place id = some between)
        (hother : middle place other = none) (hentry : after place id = some entry)
        (hlater : after place other = some later) (hport : entry.port = later.port) : False := by
      obtain ⟨same, hsame, hpoint, -⟩ := hlast.kept place id between hbetween
      obtain rfl := Option.some.inj (hsame.symm.trans hentry)
      obtain ⟨haddress, -, hfree⟩ := hlast.joined place other later hother hlater
      have hjoined := (hfirst.joined place id between hnone hbetween).1
      refine hfree ⟨id, between, hbetween, hpoint.symm.trans ?_⟩
      exact Prod.ext ((congrArg Prod.fst hpoint).trans (hjoined.trans haddress.symm)) hport
    rcases hbetween : middle place id with _ | between
    · rcases hmeanwhile : middle place other with _ | meanwhile
      · exact hlast.once place id other entry later hbetween hmeanwhile hentry hlater hport
      · exact (hapart hother hmeanwhile hbetween hlater hentry hport.symm).elim
    · rcases hmeanwhile : middle place other with _ | meanwhile
      · exact (hapart hnone hbetween hmeanwhile hentry hlater hport).elim
      · obtain ⟨left, hleft, hpoint, -⟩ := hlast.kept place id between hbetween
        obtain ⟨right, hright, hsame, -⟩ := hlast.kept place other meanwhile hmeanwhile
        obtain rfl := Option.some.inj (hleft.symm.trans hentry)
        obtain rfl := Option.some.inj (hright.symm.trans hlater)
        refine hfirst.once place id other between meanwhile hnone hother hbetween hmeanwhile ?_
        exact (congrArg Prod.snd hpoint).symm.trans (hport.trans (congrArg Prod.snd hsame))

theorem enrols_put {port : Int} {status : ProvisioningStatus} (hfree : before place id = none)
    (hunheld : ¬before.Holds place (some address, port)) :
    Enrols may address [(place, port)] before
      (before.put place id (some ⟨some address, port, status⟩)) where
  kept there other entry hentry := by
    refine ⟨entry, ?_, rfl, .refl⟩
    rwa [put_other]
    rintro ⟨rfl, rfl⟩
    simp [hfree] at hentry
  joined there other later hnone hlater := by
    by_cases hsame : there = place ∧ other = id
    · obtain ⟨rfl, rfl⟩ := hsame
      obtain rfl : Enlisted.mk (some address) port status = later := by simpa using hlater
      exact ⟨rfl, List.mem_singleton_self _, hunheld⟩
    · rw [put_other hsame, hnone] at hlater
      cases hlater
  once there other another entry later hnone hmissing hentry hlater _ := by
    have hput {name : String} {found : Enlisted} (hnone : before there name = none)
        (hfound : before.put place id (some ⟨some address, port, status⟩) there name = some found) :
        name = id := by
      by_contra hname
      rw [put_other fun hsame => hname hsame.2, hnone] at hfound
      cases hfound
    rw [hput hnone hentry, hput hmissing hlater]

section Provided

variable {directory : Directory} {reported : ProvisioningStatus → Prop}

/-- What makes or removes no member leaves them all there. -/
theorem enrols_of_provided {question : BodyQuestion .machine} {ending : Outcome question.Answer}
    (hprovided : provided directory reported (Waits may) question ending before after)
    (hjoining : topic question ≠ .joining) (hleaving : topic question ≠ .leaving) :
    Enrols may address wanted before after := by
  obtain ⟨asked, hbefore, hafter⟩ := meanwhile_of_provided hprovided hjoining hleaving
  exact hbefore.enrols.trans hafter.enrols

theorem enrols_of_asks {σ α : Type} {topics : List Topic} {step : Step .machine σ α}
    (hasks : Asks (About topics) step) (hjoining : Topic.joining ∉ topics)
    (hleaving : Topic.leaving ∉ topics) (state : σ) (start : Roster) :
    (step state).Ensures (provided directory reported (Waits may))
      (fun _ _ after => Enrols may address wanted start after) start :=
  keeps_of_asks hasks hjoining hleaving
    (fun _ _ hwaits henrols => henrols.trans hwaits.enrols) state (.refl start)

variable {loadBalancer pool : String} {port : Int} {members : List PoolMember}

/-- A listing has a member exactly where the pool holds one. -/
theorem listed_iff_of_provided
    (hprovided : provided directory reported (Waits may) (.cloud (.listMembers loadBalancer pool))
      (.returned (.ok members)) before after) :
    (∃ member ∈ members, (member.address, member.port) = point) ↔
      after.Holds (loadBalancer, pool) point := by
  obtain ⟨asked, answered, -, ⟨rfl, hlisted⟩, hafter⟩ := hprovided
  rw [hafter.alike]
  constructor
  · rintro ⟨member, hmember, rfl⟩
    exact ⟨member.id, ⟨member.address, member.port, member.status⟩,
      (hlisted members rfl member.id _).mp hmember, rfl⟩
  · rintro ⟨id, entry, hentry, rfl⟩
    exact ⟨entry.member id, (hlisted members rfl id entry).mpr hentry, rfl⟩

/-- A member that is listed as active is an active one in the pool. -/
theorem holdsActive_of_provided
    (hprovided : provided directory reported (Waits may) (.cloud (.listMembers loadBalancer pool))
      (.returned (.ok members)) before after)
    (hlasting : ∀ status, may .active status → status = .active) {member : PoolMember}
    (hmember : member ∈ members) (hactive : member.status = .active) :
    after.HoldsActive (loadBalancer, pool) (member.address, member.port) := by
  obtain ⟨asked, answered, -, ⟨rfl, hlisted⟩, hafter⟩ := hprovided
  exact hafter.holdsActive hlasting ⟨member.id, ⟨member.address, member.port, member.status⟩,
    (hlisted members rfl member.id _).mp hmember, rfl, hactive⟩

variable {weight : Option Int} {ending : Outcome (Except CloudError PoolMember)}

/-- To make a member where there is none adds it to the roster, or nothing. -/
theorem enrols_of_creation
    (hprovided : provided directory reported (Waits may)
      (.cloud (.createMember loadBalancer pool address port weight)) ending before after)
    (hunheld : ¬before.Holds (loadBalancer, pool) (some address, port)) :
    Enrols may address [((loadBalancer, pool), port)] before after := by
  obtain ⟨asked, answered, hbefore, hanswers, hafter⟩ := hprovided
  rw [← hbefore.alike] at hunheld
  refine hbefore.enrols.trans (Enrols.trans ?_ hafter.enrols)
  rcases hanswers with ⟨id, status, hfree, rfl, -⟩ | ⟨-, rfl⟩
  · exact enrols_put hfree hunheld
  · exact .refl answered

/-- A member that was made is there, and it is active if it was made so and remains so. -/
theorem holds_of_creation {created : PoolMember}
    (hprovided : provided directory reported (Waits may)
      (.cloud (.createMember loadBalancer pool address port weight)) (.returned (.ok created))
      before after) :
    after.Holds (loadBalancer, pool) (some address, port) ∧
      ((∀ status, may .active status → status = .active) → created.status = .active →
        after.HoldsActive (loadBalancer, pool) (some address, port)) := by
  obtain ⟨asked, answered, -, ⟨id, status, -, rfl, hcreated⟩ | ⟨hfailed, -⟩, hafter⟩ := hprovided
  · obtain rfl := hcreated created rfl
    constructor
    · exact (hafter.alike ..).mpr ⟨id, _, put_same, rfl⟩
    · exact fun hlasting hactive => hafter.holdsActive hlasting ⟨id, _, put_same, rfl, hactive⟩
  · exact absurd trivial hfailed

end Provided

end Roster

/-- The spots that memberships want, up to the first one that does not resolve. -/
def Directory.wanted (directory : Directory) : List PoolMembership → List (Place × Int)
  | [] => []
  | membership :: rest =>
    match directory.place membership with
    | some place => (place, membership.port) :: directory.wanted rest
    | none => []

theorem Directory.mem_wanted {directory : Directory} {memberships : List PoolMembership}
    (hresolves : ∀ membership ∈ memberships, ∃ place, directory.place membership = some place)
    {membership : PoolMembership} (hmem : membership ∈ memberships) {place : Place}
    (hplace : directory.place membership = some place) :
    (place, membership.port) ∈ directory.wanted memberships := by
  induction memberships with
  | nil => cases hmem
  | cons first rest ih =>
      obtain ⟨⟨there, hthere⟩, hrest⟩ := List.forall_mem_cons.mp hresolves
      rw [wanted, hthere]
      rcases List.mem_cons.mp hmem with rfl | hmem
      · rw [Option.some.inj (hplace.symm.trans hthere)]
        exact List.mem_cons_self ..
      · exact List.mem_cons_of_mem _ (ih hrest hmem)

theorem Directory.wanted_subset_cons {directory : Directory} {membership : PoolMembership}
    {rest : List PoolMembership} :
    directory.wanted [membership] ⊆ directory.wanted (membership :: rest) := by
  unfold wanted
  split <;> simp [wanted]

namespace Membership

open Roster (Alike Enrols Waits provided)

/-- Registering came to the end of its memberships, or to one that does not resolve. -/
def Through (outcome : Outcome (Except Error Bool)) : Prop :=
  outcome.Succeeded ∨ ∃ error, outcome = .returned (.error error) ∧ isMissing error = true

/-- How registering at one spot ends, and what it makes of the roster. -/
structure Filled (reported : ProvisioningStatus → Prop)
    (may : ProvisioningStatus → ProvisioningStatus → Prop) (address : String) (spot : Place × Int)
    (outcome : Outcome (Except Error Bool)) (before after : Roster) : Prop where
  enrols : Enrols may address [spot] before after
  holds : (∀ status, reported status → status = .active) → outcome.Succeeded →
    after.Holds spot.1 (some address, spot.2)
  active : (∀ status, may .active status → status = .active) → outcome = .returned (.ok false) →
    after.HoldsActive spot.1 (some address, spot.2)
  resolved : Through outcome → outcome.Succeeded

/-- How registering at all spots that memberships want ends, and what it makes of the roster. -/
structure Enrolled (directory : Directory) (reported : ProvisioningStatus → Prop)
    (may : ProvisioningStatus → ProvisioningStatus → Prop) (address : String)
    (memberships : List PoolMembership) (outcome : Outcome (Except Error Bool))
    (before after : Roster) : Prop where
  enrols : Enrols may address (directory.wanted memberships) before after
  holds : (∀ status, reported status → status = .active) → Through outcome →
    ∀ spot ∈ directory.wanted memberships, after.Holds spot.1 (some address, spot.2)
  active : (∀ status, may .active status → status = .active) → outcome = .returned (.ok false) →
    ∀ spot ∈ directory.wanted memberships, after.HoldsActive spot.1 (some address, spot.2)
  resolves : outcome.Succeeded → ∀ membership ∈ memberships, ∃ place,
    directory.place membership = some place
  misses : Through outcome → ¬outcome.Succeeded →
    ∃ membership ∈ memberships, directory.place membership = none

variable {σ : Type} {directory : Directory} {reported : ProvisioningStatus → Prop}
variable {may : ProvisioningStatus → ProvisioningStatus → Prop} {address : String}
variable {spot : Place × Int} {membership : PoolMembership} {rest : List PoolMembership}
variable {outcome : Outcome (Except Error Bool)} {before middle after : Roster}

theorem Filled.of_cut (henrols : Enrols may address [spot] before after)
    (hended : ¬Through outcome) : Filled reported may address spot outcome before after where
  enrols := henrols
  holds _ hthis := absurd (.inl hthis) hended
  active _ hfalse := absurd (.inl (by rw [hfalse]; trivial)) hended
  resolved hthrough := absurd hthrough hended

theorem ensureMember_filled (loadBalancer : LoadBalancer) (pool : Pool) (address : String)
    (port : Int) (weight : Option Int) (hreported : reported loadBalancer.status) (state : σ)
    (start : Roster) :
    (ensureMember loadBalancer pool address port weight state).Ensures
      (provided directory reported (Waits may)) (fun _ outcome after =>
        Filled reported may address ((loadBalancer.id, pool.id), port) outcome start after)
      start := by
  unfold ensureMember
  rw [Action.ensures_bind, Body.ensures_call]
  intro ending listed hlisting
  have hlisted : Enrols may address [((loadBalancer.id, pool.id), port)] start listed :=
    Roster.enrols_of_provided hlisting (by simp) (by simp)
  rcases ending with (error | members) | _ | text
  · exact .of_cut hlisted (by simp [Through, isMissing])
  · rw [Outcome.mapError_ok, Outcome.follow_ok]
    rcases hfind : members.find? (fun member : PoolMember =>
      member.address == some address && member.port == port) with _ | member
    · dsimp only
      split
      · next hinactive =>
        refine ⟨hlisted, fun hactive => ?_, by simp, fun _ => trivial⟩
        simp [hactive _ hreported] at hinactive
      · have hunheld : ¬listed.Holds (loadBalancer.id, pool.id) (some address, port) := by
          rw [← Roster.listed_iff_of_provided hlisting]
          rintro ⟨member, hmember, hpoint⟩
          obtain ⟨haddress, hport⟩ := Prod.mk.inj hpoint
          simpa [haddress, hport] using List.find?_eq_none.mp hfind member hmember
        rw [Action.ensures_bind, Body.ensures_call]
        intro ending after hcreation
        have henrols := hlisted.trans (Roster.enrols_of_creation hcreation hunheld)
        rcases ending with (error | created) | _ | text
        · exact .of_cut henrols (by simp [Through, isMissing])
        · obtain ⟨hheld, hactive⟩ := Roster.holds_of_creation hcreation
          exact ⟨henrols, fun _ _ => hheld, fun hlasting hfalse =>
            hactive hlasting (by simpa using hfalse), fun _ => trivial⟩
        · exact .of_cut henrols (by simp [Through])
        · exact .of_cut henrols (by simp [Through])
    · obtain ⟨haddress, hport⟩ : member.address = some address ∧ member.port = port := by
        simpa using List.find?_some hfind
      have hmember := List.mem_of_find?_eq_some hfind
      refine ⟨hlisted, fun _ _ => ?_, fun hlasting hfalse => ?_, fun _ => trivial⟩
      · exact (Roster.listed_iff_of_provided hlisting).mp
          ⟨member, hmember, Prod.ext haddress hport⟩
      · rw [← haddress, ← hport]
        exact Roster.holdsActive_of_provided hlisting hlasting hmember (by simpa using hfalse)
  · exact .of_cut hlisted (by simp [Through])
  · exact .of_cut hlisted (by simp [Through])

theorem Filled.enrolled {place : Place} (hplace : directory.place membership = some place)
    (hfilled : Filled reported may address (place, membership.port) outcome before after) :
    Enrolled directory reported may address [membership] outcome before after := by
  have hwanted : directory.wanted [membership] = [(place, membership.port)] := by
    simp [Directory.wanted, hplace]
  constructor
  case enrols => exact hwanted ▸ hfilled.enrols
  case holds =>
    intro hactive hthrough
    simpa [hwanted] using hfilled.holds hactive (hfilled.resolved hthrough)
  case active =>
    intro hlasting hfalse
    simpa [hwanted] using hfilled.active hlasting hfalse
  case resolves => exact fun _ => List.forall_mem_singleton.mpr ⟨place, hplace⟩
  case misses => exact fun hthrough hnot => absurd (hfilled.resolved hthrough) hnot

theorem Enrolled.of_cut
    (henrols : Enrols may address (directory.wanted [membership]) before after)
    (hended : ¬Through outcome) :
    Enrolled directory reported may address [membership] outcome before after where
  enrols := henrols
  holds _ hthrough := absurd hthrough hended
  active _ hfalse := absurd (.inl (by rw [hfalse]; trivial)) hended
  resolves hthis := absurd (.inl hthis) hended
  misses hthrough := absurd hthrough hended

theorem Enrolled.of_missing
    (henrols : Enrols may address (directory.wanted [membership]) before after)
    (hplace : directory.place membership = none) (error : Error) :
    Enrolled directory reported may address [membership] (.returned (.error error)) before after
    where
  enrols := henrols
  holds := by simp [Directory.wanted, hplace]
  active := by simp
  resolves := by simp
  misses _ _ := ⟨membership, List.mem_singleton_self _, hplace⟩

theorem registerOne_enrolled (membership : PoolMembership) (address : String) (state : σ)
    (start : Roster) :
    (registerOne membership address state).Ensures (provided directory reported (Waits may))
      (fun _ outcome after =>
        Enrolled directory reported may address [membership] outcome start after) start := by
  unfold registerOne
  rw [Action.ensures_bind]
  apply ((Roster.enrols_of_asks (asks_findLoadBalancer _) (by decide) (by decide) state start).and
    (findLoadBalancer_led Roster.leads_provided membership.loadBalancer state start)).mono
  rintro state ((error | found) | _ | text) looked ⟨henrols, hfound, hfailed⟩
  · exact .of_cut henrols (by simpa [Through] using hfailed error rfl)
  · rw [Outcome.follow_ok]
    obtain ⟨houtline, hreported⟩ := hfound found rfl
    rcases found with _ | loadBalancer
    · exact .of_missing henrols (by simp [Directory.place, ← houtline]) _
    · have hpool := place_eq_findPool houtline
      dsimp only
      rcases hfind : findPool loadBalancer membership.pool with _ | pool
      · exact .of_missing henrols (by simp [hpool, hfind]) _
      · apply (ensureMember_filled loadBalancer pool address membership.port membership.weight
          (hreported _ rfl) state looked).mono
        intro _ _ _ hfilled
        have hplace : directory.place membership = some (loadBalancer.id, pool.id) := by
          simp [hpool, hfind]
        have hdone := hfilled.enrolled hplace
        exact { hdone with enrols := henrols.trans hdone.enrols }
  · exact .of_cut henrols (by simp [Through])
  · exact .of_cut henrols (by simp [Through])

/-- Registering that ended at the first of its memberships. -/
theorem Enrolled.stopped
    (hfirst : Enrolled directory reported may address [membership] outcome before after)
    (hended : ¬outcome.Succeeded) (rest : List PoolMembership) :
    Enrolled directory reported may address (membership :: rest) outcome before after where
  enrols := hfirst.enrols.mono Directory.wanted_subset_cons
  holds _ hthrough := by
    obtain ⟨other, hother, hplace⟩ := hfirst.misses hthrough hended
    rw [List.mem_singleton.mp hother] at hplace
    simp [Directory.wanted, hplace]
  active _ hfalse := absurd (by rw [hfalse]; trivial) hended
  resolves hthis := absurd hthis hended
  misses hthrough hnot := by
    obtain ⟨other, hother, hplace⟩ := hfirst.misses hthrough hnot
    exact ⟨other, List.mem_cons.mpr (.inl (List.mem_singleton.mp hother)), hplace⟩

/-- Registering at the first membership and then at the rest of them. -/
theorem Enrolled.append {waiting : Bool} {ending : Outcome (Except Error Bool)}
    (hfirst : Enrolled directory reported may address [membership] (.returned (.ok waiting)) before
      middle)
    (hrest : Enrolled directory reported may address rest ending middle after)
    (hsucceeded : outcome.Succeeded ↔ ending.Succeeded)
    (hthrough : Through outcome → Through ending)
    (hfalse : outcome = .returned (.ok false) → waiting = false ∧ ending = .returned (.ok false)) :
    Enrolled directory reported may address (membership :: rest) outcome before after := by
  obtain ⟨place, hplace⟩ := hfirst.resolves trivial membership (List.mem_singleton_self _)
  have hsingle : directory.wanted [membership] = [(place, membership.port)] := by
    simp [Directory.wanted, hplace]
  have hwanted : directory.wanted (membership :: rest) =
      (place, membership.port) :: directory.wanted rest := by
    simp [Directory.wanted, hplace]
  constructor
  case enrols =>
    refine (hfirst.enrols.mono ?_).trans (hrest.enrols.mono ?_)
    · simp [hsingle, hwanted]
    · simp [hwanted]
  case holds =>
    intro hactive hended
    rw [hwanted, List.forall_mem_cons]
    refine ⟨hrest.enrols.holds (hfirst.holds hactive (.inl trivial) _ ?_),
      hrest.holds hactive (hthrough hended)⟩
    simp [hsingle]
  case active =>
    intro hlasting hended
    obtain ⟨rfl, hending⟩ := hfalse hended
    rw [hwanted, List.forall_mem_cons]
    refine ⟨hrest.enrols.holdsActive hlasting (hfirst.active hlasting rfl _ ?_),
      hrest.active hlasting hending⟩
    simp [hsingle]
  case resolves =>
    exact fun hended => List.forall_mem_cons.mpr ⟨⟨place, hplace⟩,
      hrest.resolves (hsucceeded.mp hended)⟩
  case misses =>
    intro hended hnot
    obtain ⟨other, hother, hnone⟩ := hrest.misses (hthrough hended) (hsucceeded.not.mp hnot)
    exact ⟨other, List.mem_cons_of_mem _ hother, hnone⟩

theorem register_enrolled (address : String) (memberships : List PoolMembership) (state : σ)
    (start : Roster) :
    (register address memberships state).Ensures (provided directory reported (Waits may))
      (fun _ outcome after =>
        Enrolled directory reported may address memberships outcome start after) start := by
  induction memberships generalizing state start with
  | nil =>
      exact ⟨.refl start, fun _ _ => nofun, fun _ _ => nofun, fun _ => nofun,
        fun _ hnot => absurd trivial hnot⟩
  | cons membership rest ih =>
      unfold register
      rw [Action.ensures_bind]
      apply (registerOne_enrolled membership address state start).mono
      rintro state ((error | waiting) | _ | text) middle hfirst
      · exact hfirst.stopped (Outcome.not_succeeded_error _) _
      · rw [Outcome.follow_ok, Action.ensures_bind]
        apply (ih state middle).mono
        rintro _ ((error | more) | _ | text) _ hrest
        · exact hfirst.append hrest Iff.rfl id (by simp)
        · exact hfirst.append hrest Iff.rfl (fun _ => .inl trivial) (by simp)
        · exact hfirst.append hrest Iff.rfl id (by simp)
        · exact hfirst.append hrest Iff.rfl id (by simp)
      · exact hfirst.stopped Outcome.not_succeeded_expired _
      · exact hfirst.stopped (Outcome.not_succeeded_panicked _) _

/-- What leads to asking for a member of an address: its load balancer has just been looked up and
is active, and a listing of the pool has no such member at the port. -/
def Warrants (address : String) (lookup listing creation : OfMachine) : Prop :=
  ∃ found pool port weight members ending, lookup.Reports found ∧ found.status = .active ∧
    listing = ⟨.cloud (.listMembers found.id pool), .returned (.ok members)⟩ ∧
    (∀ member ∈ members, ¬(member.address = some address ∧ member.port = port)) ∧
    creation = ⟨.cloud (.createMember found.id pool address port weight), ending⟩

theorem Turn.led {port : Int} {seen : List OfMachine} (hturn : Turn address port outcome seen) :
    Led (Warrants address) seen := by
  cases hturn with
  | lost hended hreason hunlisted hquiet => exact led_of_quiet hquiet
  | @asked loadBalancer lookup _ late hlookup hcourse =>
      have hlooked : topic lookup.question ≠ .joining := by
        rw [hlookup.topic]
        decide
      have hlisted {pool : String} {ending : Outcome (Except CloudError (List PoolMember))} :
          Led (Warrants address)
            [lookup, ⟨.cloud (.listMembers loadBalancer.id pool), ending⟩] :=
        led_of_quiet (List.forall_mem_cons.mpr ⟨hlooked, by simp⟩)
      have hunlisted {members : List PoolMember} (hnone : members.find? (fun member =>
          member.address == some address && member.port == port) = none) :
          ∀ member ∈ members, ¬(member.address = some address ∧ member.port = port) :=
        fun member hmember => by simpa using List.find?_eq_none.mp hnone member hmember
      cases hcourse with
      | unlisted => exact hlisted
      | found => exact hlisted
      | waiting => exact hlisted
      | @refused pool members weight ending hactive hnone =>
          exact led_of_leads hlooked (by simp) ⟨loadBalancer, pool, port, weight, members, ending,
            hlookup, hactive, rfl, hunlisted hnone, rfl⟩
      | @created pool members weight created hactive hnone =>
          exact led_of_leads hlooked (by simp) ⟨loadBalancer, pool, port, weight, members, _,
            hlookup, hactive, rfl, hunlisted hnone, rfl⟩

theorem register_led (address : String) (memberships : List PoolMembership) (state : σ) :
    (register address memberships state).Ensures (.recording _)
      (fun _ _ seen => Led (Warrants address) seen) [] := by
  induction memberships generalizing state with
  | nil => exact led_of_quiet (by simp)
  | cons membership rest ih =>
      unfold register
      rw [Action.ensures_bind]
      apply (registerOne_turn membership address state).mono
      rintro state ((error | waiting) | _ | text) early hturn
      · exact hturn.led
      · rw [Outcome.follow_ok, Action.ensures_bind]
        apply ((ih state).recording early).mono
        rintro _ ((error | more) | _ | text) _ ⟨late, rfl, hrest⟩
        all_goals exact hturn.led.append hrest
      · exact hturn.led
      · exact hturn.led

section Runs

variable {W : Type} {view : W → Roster}
variable {answer : (question : BodyQuestion .machine) → W → Outcome question.Answer × W}

theorem register_removes_nothing (address : String) (memberships : List PoolMembership) (state : σ)
    (w : W) :
    ∀ exchange ∈ (register address memberships state).exchanges answer w,
      topic exchange.question ≠ .leaving := by
  have hquiet : ∃ late, (register address memberships state).exchanges answer w = [] ++ late ∧
      ∀ exchange ∈ late, topic exchange.question ≠ .leaving :=
    (Machine.quiet_of_asks (asks_register address memberships) (by decide) state
      []).exchanges_recording answer w
  simpa using hquiet

theorem through_of_well (memberships : List PoolMembership) (state : σ) (w : W)
    (hwell : ∀ exchange ∈ (register address memberships state).exchanges answer w,
      exchange.WentWell) :
    Through ((register address memberships state).run answer w).1.2 :=
  ((register_joined address memberships state).exchanges_recording answer w).ends hwell

variable (hkeeps : ∀ question w, provided directory reported (Waits may) question
  (answer question w).1 (view w) (view (answer question w).2))
include hkeeps

theorem enrolled_of_run (address : String) (memberships : List PoolMembership) (state : σ) (w : W) :
    Enrolled directory reported may address memberships
      ((register address memberships state).run answer w).1.2 (view w)
      (view ((register address memberships state).run answer w).2) :=
  (register_enrolled address memberships state (view w)).run answer view hkeeps w

/-- A run that goes through leaves members where there were some and where some were wanted. -/
theorem holds_iff_of_through (hactive : ∀ status, reported status → status = .active)
    {memberships : List PoolMembership} {state : σ} {w : W}
    (hthrough : Through ((register address memberships state).run answer w).1.2)
    (place : Place) (point : Option String × Int) :
    (view ((register address memberships state).run answer w).2).Holds place point ↔
      (view w).Holds place point ∨
        point.1 = some address ∧ (place, point.2) ∈ directory.wanted memberships := by
  have hrun := enrolled_of_run hkeeps address memberships state w
  constructor
  · exact hrun.enrols.holds_or_wanted
  · rintro (hheld | ⟨haddress, hwanted⟩)
    · exact hrun.enrols.holds hheld
    · rw [show point = (some address, point.2) from Prod.ext haddress rfl]
      exact hrun.holds hactive hthrough _ hwanted

/-- A run that was cut off and is made again leaves members at the same points as one run that goes
through from the start. -/
theorem alike_of_again (hactive : ∀ status, reported status → status = .active)
    {memberships : List PoolMembership} {state : σ} {w later whole : W}
    (hlater : Alike (view ((register address memberships state).run answer w).2) (view later))
    (hwhole : Alike (view w) (view whole))
    (hagain : Through ((register address memberships state).run answer later).1.2)
    (honce : Through ((register address memberships state).run answer whole).1.2) :
    Alike (view ((register address memberships state).run answer whole).2)
      (view ((register address memberships state).run answer later).2) := by
  have hcut := (enrolled_of_run hkeeps address memberships state w).enrols
  intro place point
  rw [holds_iff_of_through hkeeps hactive hagain, holds_iff_of_through hkeeps hactive honce,
    hlater, hwhole]
  constructor
  · rintro (hheld | hwanted)
    · exact hcut.holds_or_wanted hheld
    · exact .inr hwanted
  · exact Or.imp_left hcut.holds

/-- Registering creates each membership once.  Whatever the statuses of load balancers and members
and however a run ends, it asks for a member only in a load balancer that is active, right after a
listing of the pool without one, it asks to remove none, and it leaves every member as it was.
Where it answers that there is nothing to wait for, the pool of each membership has an active
member.  As long as load balancers are active, a run in which every call goes well leaves a member
at every spot that is wanted, and one that is cut off and run again leaves members at the same
points as one in which every call goes well from the start. -/
theorem register_once (address : String) (memberships : List PoolMembership) (state : σ) (w : W) :
    let program := register address memberships state
    let run := program.run answer
    let seen := program.exchanges answer
    Led (Warrants address) (seen w) ∧
    (∀ exchange ∈ seen w, topic exchange.question ≠ .leaving) ∧
    Enrols may address (directory.wanted memberships) (view w) (view (run w).2) ∧
    ((run w).1.2 = .returned (.ok false) → ∀ membership ∈ memberships,
      FoundActive (seen w) address membership ∧
      ∃ place, directory.place membership = some place ∧
        ((∀ status, may .active status → status = .active) →
          (view (run w).2).HoldsActive place (some address, membership.port))) ∧
    ((∀ status, reported status → status = .active) →
      (∀ exchange ∈ seen w, exchange.WentWell) →
      ∀ spot ∈ directory.wanted memberships,
        (view (run w).2).Holds spot.1 (some address, spot.2)) ∧
    ((∀ status, reported status → status = .active) → ∀ later whole,
      Alike (view (run w).2) (view later) → Alike (view w) (view whole) →
      (∀ exchange ∈ seen later, exchange.WentWell) →
      (∀ exchange ∈ seen whole, exchange.WentWell) →
      Alike (view (run whole).2) (view (run later).2)) := by
  intro program run seen
  have hrun := enrolled_of_run hkeeps address memberships state w
  refine ⟨?warranted, ?removes, hrun.enrols, ?active, ?filled, ?again⟩
  case warranted =>
    exact (register_led address memberships state).exchanges_recording answer w
  case removes => exact register_removes_nothing address memberships state w
  case active =>
    intro hfalse membership hmem
    have hresolves := hrun.resolves (by rw [hfalse]; trivial)
    obtain ⟨place, hplace⟩ := hresolves membership hmem
    refine ⟨(register_active address memberships state).exchanges_recording answer w hfalse
      membership hmem, place, hplace, fun hlasting => ?_⟩
    exact hrun.active hlasting hfalse _ (Directory.mem_wanted hresolves hmem hplace)
  case filled =>
    exact fun hactive hwell => hrun.holds hactive (through_of_well memberships state w hwell)
  case again =>
    intro hactive later whole hlater hwhole hagain honce
    exact alike_of_again hkeeps hactive hlater hwhole
      (through_of_well memberships state later hagain)
      (through_of_well memberships state whole honce)

end Runs

/-- A run that gets no answer when it asks for its first member has made it all the same.  Run
again, it finds this member, also by the name of its pool, and makes the other one. -/
theorem register_once_cut :
    let run := (register "10.0.0.5" Desk.memberships ()).run Desk.answer
    (run (Desk.start 2)).1.2 = .expired ∧
    (run ((run (Desk.start 2)).2.waiting 9)).1.2 = .returned (.ok false) ∧
    Alike (run (Desk.start 9)).2.roster (run ((run (Desk.start 2)).2.waiting 9)).2.roster := by
  refine ⟨by decide +kernel, by decide +kernel, ?_⟩
  have hrefl : ∀ roster, Waits Eq roster roster := Waits.refl fun _ => rfl
  obtain ⟨-, -, -, -, -, hagain⟩ :=
    register_once (Desk.provided_answer hrefl) "10.0.0.5" Desk.memberships () (Desk.start 2)
  exact hagain (fun _ => id) _ _ (fun _ _ => Iff.rfl) (fun _ _ => Iff.rfl) (by decide +kernel)
    (by decide +kernel)

end Membership

end Reconciler
