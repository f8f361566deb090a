import Reconciler.Proofs.Pools

/-!
# The roster of a provider

A roster says exactly what members the pools have.  Listings show it as it is, a creation puts a
member under a new id, and a deletion that goes well takes one away.  What else may happen to the
roster meanwhile is left open, and so is in which state load balancers are.
-/

namespace Reconciler

open Machine (About Topic topic)
open Step (Asks)

/-- What a pool has about a member beside its id. -/
structure Enlisted where
  address : Option String
  port : Int
  status : ProvisioningStatus
deriving DecidableEq

namespace Enlisted

/-- Where the member is reached. -/
def point (entry : Enlisted) : Option String × Int := (entry.address, entry.port)

/-- The member stays where it is, and its status may change. -/
def Becomes (may : ProvisioningStatus → ProvisioningStatus → Prop) (entry later : Enlisted) :
    Prop :=
  later.point = entry.point ∧ may entry.status later.status

/-- The member as it is listed. -/
def member (entry : Enlisted) (id : String) : PoolMember :=
  ⟨id, entry.address, entry.port, entry.status⟩

theorem Becomes.address_eq {may : ProvisioningStatus → ProvisioningStatus → Prop}
    {entry later : Enlisted} (hbecomes : entry.Becomes may later) :
    later.address = entry.address :=
  congrArg Prod.fst hbecomes.1

end Enlisted

/-- The members of all pools by their ids. -/
abbrev Roster := Place → String → Option Enlisted

namespace Roster

/-- The roster with another entry under an id. -/
def put (roster : Roster) (place : Place) (id : String) (entry : Option Enlisted) : Roster :=
  fun there other => if there = place ∧ other = id then entry else roster there other

/-- The pool has a member that is reached there. -/
def Holds (roster : Roster) (place : Place) (point : Option String × Int) : Prop :=
  ∃ id entry, roster place id = some entry ∧ entry.point = point

/-- One of the members that are reached there is active. -/
def HoldsActive (roster : Roster) (place : Place) (point : Option String × Int) : Prop :=
  ∃ id entry, roster place id = some entry ∧ entry.point = point ∧ entry.status = .active

/-- What a question does.  A member may be made or taken away though its call ended in any way. -/
def Answers (directory : Directory) (reported : ProvisioningStatus → Prop) :
    (question : BodyQuestion .machine) → Outcome question.Answer → Roster → Roster → Prop
  | .cloud (.getLoadBalancer id), ending, before, after =>
    after = before ∧ ∀ found, ending = .returned (.ok found) →
      found.map LoadBalancer.outline = directory.byId id ∧
        ∀ loadBalancer ∈ found, reported loadBalancer.status
  | .cloud (.getLoadBalancerByName name), ending, before, after =>
    after = before ∧ ∀ found, ending = .returned (.ok found) →
      found.map LoadBalancer.outline = directory.byName name ∧
        ∀ loadBalancer ∈ found, reported loadBalancer.status
  | .cloud (.listMembers loadBalancer pool), ending, before, after =>
    after = before ∧ ∀ members, ending = .returned (.ok members) → ∀ id entry,
      entry.member id ∈ members ↔ before (loadBalancer, pool) id = some entry
  | .cloud (.createMember loadBalancer pool address port _), ending, before, after =>
    (∃ id status, before (loadBalancer, pool) id = none ∧
      after = before.put (loadBalancer, pool) id (some ⟨some address, port, status⟩) ∧
      ∀ created, ending = .returned (.ok created) → created = ⟨id, some address, port, status⟩) ∨
    ¬ending.Succeeded ∧ after = before
  | .cloud (.deleteMember loadBalancer pool member), ending, before, after =>
    after = before.put (loadBalancer, pool) member none ∨
      ¬Managed.machine.WentWell (.deleteMember loadBalancer pool member) ending ∧ after = before
  | _, _, before, after => after = before

/-- A provider with a roster, at which load balancers and pools keep resolving. -/
def provided (directory : Directory) (reported : ProvisioningStatus → Prop)
    (meanwhile : Roster → Roster → Prop) : Environment (outside .machine) Roster :=
  fun question ending before after => ∃ asked answered, meanwhile before asked ∧
    Answers directory reported question ending asked answered ∧ meanwhile answered after

variable {roster : Roster} {place : Place} {id : String} {entry : Option Enlisted}

@[simp]
theorem put_same : roster.put place id entry place id = entry := if_pos ⟨rfl, rfl⟩

theorem put_other {there : Place} {other : String} (hother : ¬(there = place ∧ other = id)) :
    roster.put place id entry there other = roster there other := if_neg hother

/-- A question may always remain without an answer. -/
theorem Answers.expired {directory : Directory} {reported : ProvisioningStatus → Prop}
    {question : BodyQuestion .machine} {ending : Outcome question.Answer} {before after : Roster}
    (hanswers : Answers directory reported question ending before after) :
    Answers directory reported question .expired before after := by
  rcases question with call | _ | _
  · cases call with
    | getLoadBalancer id => exact ⟨hanswers.1, nofun⟩
    | getLoadBalancerByName name => exact ⟨hanswers.1, nofun⟩
    | listMembers loadBalancer pool => exact ⟨hanswers.1, nofun⟩
    | createMember loadBalancer pool address port weight =>
        rcases hanswers with ⟨id, status, hfree, hmade, -⟩ | ⟨-, hsame⟩
        · exact .inl ⟨id, status, hfree, hmade, nofun⟩
        · exact .inr ⟨Outcome.not_succeeded_expired, hsame⟩
    | deleteMember loadBalancer pool member =>
        rcases hanswers with hgone | ⟨-, hsame⟩
        · exact .inl hgone
        · exact .inr ⟨by simp [Managed.WentWell], hsame⟩
    | _ => exact hanswers
  · exact hanswers
  · exact hanswers

section Provided

variable {directory : Directory} {reported : ProvisioningStatus → Prop}
variable {meanwhile : Roster → Roster → Prop} {before after : Roster}

theorem leads_provided : directory.Leads reported (provided directory reported meanwhile) where
  byId := fun ⟨_, _, _, hanswers, _⟩ => hanswers.2 _ rfl
  byName := fun ⟨_, _, _, hanswers, _⟩ => hanswers.2 _ rfl

/-- What makes or removes no member leaves the roster to what happens meanwhile. -/
theorem meanwhile_of_provided {question : BodyQuestion .machine}
    {ending : Outcome question.Answer}
    (hprovided : provided directory reported meanwhile question ending before after)
    (hjoining : topic question ≠ .joining) (hleaving : topic question ≠ .leaving) :
    ∃ asked, meanwhile before asked ∧ meanwhile asked after := by
  obtain ⟨asked, answered, hbefore, hanswers, hafter⟩ := hprovided
  have hsame : answered = asked := by
    rcases question with call | _ | _
    · cases call with
      | getLoadBalancer id => exact hanswers.1
      | getLoadBalancerByName name => exact hanswers.1
      | listMembers loadBalancer pool => exact hanswers.1
      | createMember => exact absurd rfl hjoining
      | deleteMember => exact absurd rfl hleaving
      | _ => exact hanswers
    · exact hanswers
    · exact hanswers
  exact ⟨asked, hbefore, hsame ▸ hafter⟩

/-- What does not change meanwhile is kept by steps that make and remove no members. -/
theorem keeps_of_asks {σ α : Type} {topics : List Topic} {step : Step .machine σ α}
    (hasks : Asks (About topics) step) (hjoining : Topic.joining ∉ topics)
    (hleaving : Topic.leaving ∉ topics) {keeps : Roster → Prop}
    (hmeanwhile : ∀ before after, meanwhile before after → keeps before → keeps after)
    (state : σ) {start : Roster} (hkeeps : keeps start) :
    (step state).Ensures (provided directory reported meanwhile) (fun _ _ after => keeps after)
      start := by
  refine (hasks state).ensures ?_ hkeeps
  intro question ending before after hallowed hprovided hbefore
  obtain ⟨asked, hfirst, hlast⟩ := meanwhile_of_provided hprovided
    (fun hsame => hjoining (hsame ▸ hallowed)) fun hsame => hleaving (hsame ▸ hallowed)
  exact hmeanwhile _ _ hlast (hmeanwhile _ _ hfirst hbefore)

end Provided

end Roster

/-- A provider with room for a few members in each pool.  It answers a number of calls; what it is
asked after that it does, but it gives no answer. -/
structure Desk where
  entries : Roster
  calls : Nat

namespace Desk

def slots : List String := ["member-1", "member-2", "member-3"]

def loadBalancer : LoadBalancer :=
  ⟨"lb", "front", .active, [⟨"pool-1", "web"⟩, ⟨"pool-2", "api"⟩]⟩

/-- The one load balancer is found by its id and by its name. -/
def directory : Directory where
  byId id := if id = loadBalancer.id then some loadBalancer.outline else none
  byName name := if name = loadBalancer.name then some loadBalancer.outline else none

def roster (desk : Desk) : Roster := fun place id =>
  if id ∈ slots then desk.entries place id else none

def listing (desk : Desk) (place : Place) : List PoolMember :=
  slots.filterMap fun id => (desk.entries place id).map (·.member id)

def slot? (desk : Desk) (place : Place) : Option String :=
  slots.find? fun id => (desk.entries place id).isNone

/-- What the provider would answer, and its members after that.  A member can only be made as long
as there is room in the pool. -/
def serve (desk : Desk) : (question : BodyQuestion .machine) → Outcome question.Answer × Roster
  | .cloud (.getLoadBalancer id) =>
    (.returned (.ok (if id = loadBalancer.id then some loadBalancer else none)), desk.entries)
  | .cloud (.getLoadBalancerByName name) =>
    (.returned (.ok (if name = loadBalancer.name then some loadBalancer else none)), desk.entries)
  | .cloud (.listMembers loadBalancer pool) =>
    (.returned (.ok (desk.listing (loadBalancer, pool))), desk.entries)
  | .cloud (.createMember loadBalancer pool address port _) =>
    match desk.slot? (loadBalancer, pool) with
    | some id => (.returned (.ok ⟨id, some address, port, .active⟩),
        desk.entries.put (loadBalancer, pool) id (some ⟨some address, port, .active⟩))
    | none => (.expired, desk.entries)
  | .cloud (.deleteMember loadBalancer pool member) =>
    (.returned (.ok ()), desk.entries.put (loadBalancer, pool) member none)
  | _ => (.expired, desk.entries)

def answer (question : BodyQuestion .machine) (desk : Desk) : Outcome question.Answer × Desk :=
  match desk.calls with
  | 0 => (.expired, ⟨(desk.serve question).2, 0⟩)
  | calls + 1 => ((desk.serve question).1, ⟨(desk.serve question).2, calls⟩)

/-- The same members, with more answers to come. -/
def waiting (desk : Desk) (calls : Nat) : Desk := ⟨desk.entries, calls⟩

/-- There are a member with the address at another port and one with another address. -/
def start (calls : Nat) : Desk :=
  ⟨(Roster.put (fun _ _ => none) ("lb", "pool-1") "member-1"
      (some ⟨some "10.0.0.5", 9090, .active⟩)).put ("lb", "pool-2") "member-1"
      (some ⟨some "10.0.0.9", 6443, .createPending⟩), calls⟩

/-- The first pool is declared twice: by id and by name. -/
def memberships : List PoolMembership :=
  [⟨.byId "lb", .byId "pool-1", 8080, none⟩, ⟨.byName "front", .byName "web", 8080, none⟩,
    ⟨.byId "lb", .byName "api", 6443, none⟩]

variable {desk : Desk}

theorem roster_put {place : Place} {id : String} {entry : Option Enlisted} {calls : Nat}
    (hslot : id ∈ slots ∨ entry = none) :
    (Desk.mk (desk.entries.put place id entry) calls).roster = desk.roster.put place id entry := by
  funext there other
  simp only [roster]
  by_cases hsame : there = place ∧ other = id
  · obtain ⟨rfl, rfl⟩ := hsame
    rcases hslot with hslot | rfl <;> simp [*]
  · rw [Roster.put_other hsame, Roster.put_other hsame]
    rfl

theorem mem_listing_iff {place : Place} {id : String} {entry : Enlisted} :
    entry.member id ∈ desk.listing place ↔ desk.roster place id = some entry := by
  have hmember {other : String} {found : Enlisted} :
      found.member other = entry.member id ↔ found = entry ∧ other = id := by
    rcases found with ⟨address, port, status⟩
    rcases entry with ⟨known, asked, state⟩
    simp [Enlisted.member]
    tauto
  simp only [listing, roster, List.mem_filterMap, Option.map_eq_some_iff, hmember]
  constructor
  · rintro ⟨_, hslot, _, hentry, rfl, rfl⟩
    rw [if_pos hslot, hentry]
  · intro hentry
    split at hentry
    · next hslot => exact ⟨id, hslot, entry, hentry, rfl, rfl⟩
    · cases hentry

theorem leads_of_found (here : Prop) [Decidable here] :
    (if here then some loadBalancer else none).map LoadBalancer.outline =
        (if here then some loadBalancer.outline else none) ∧
      ∀ found ∈ if here then some loadBalancer else none, found.status = .active := by
  by_cases hhere : here <;> simp [hhere, loadBalancer]

theorem serve_answers (question : BodyQuestion .machine) (calls : Nat) :
    Roster.Answers directory (· = .active) question (desk.serve question).1 desk.roster
      (Desk.mk (desk.serve question).2 calls).roster := by
  rcases question with call | _ | _
  · cases call with
    | getLoadBalancer id =>
        refine ⟨rfl, ?_⟩
        rintro _ ⟨⟩
        exact leads_of_found (id = loadBalancer.id)
    | getLoadBalancerByName name =>
        refine ⟨rfl, ?_⟩
        rintro _ ⟨⟩
        exact leads_of_found (name = loadBalancer.name)
    | listMembers loadBalancer pool =>
        refine ⟨rfl, ?_⟩
        rintro _ ⟨⟩ id entry
        exact mem_listing_iff
    | createMember loadBalancer pool address port weight =>
        simp only [serve]
        rcases hslot : desk.slot? (loadBalancer, pool) with _ | id
        · exact .inr ⟨id, rfl⟩
        · have hfound := List.mem_of_find?_eq_some hslot
          refine .inl ⟨id, .active, ?_, roster_put (.inl hfound), ?_⟩
          · simpa [roster, hfound] using List.find?_some hslot
          · rintro _ ⟨⟩
            rfl
    | deleteMember loadBalancer pool member => exact .inl (roster_put (.inr rfl))
    | _ => rfl
  · rfl
  · rfl

theorem provided_answer {meanwhile : Roster → Roster → Prop}
    (hrefl : ∀ roster, meanwhile roster roster) (question : BodyQuestion .machine) (desk : Desk) :
    Roster.provided directory (· = .active) meanwhile question (answer question desk).1 desk.roster
      (answer question desk).2.roster := by
  refine ⟨_, _, hrefl _, ?_, hrefl _⟩
  unfold answer
  split
  · exact (serve_answers question 0).expired
  · exact serve_answers question _

end Desk

end Reconciler
