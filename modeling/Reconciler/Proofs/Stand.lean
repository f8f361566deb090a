import Reconciler.Proofs.Bench
import Reconciler.Proofs.Provider

/-!
# A stand for machines

A small world with the timeline of one machine and a provider whose state and answers are given.  It
is for statements about what the provider holds, as the bench for images is for statements about
what the API server holds.
-/

namespace Reconciler

namespace Timeline

variable {managed : Managed} {«namespace» name : String}

/-- A resource version that is longer than all before. -/
def nextVersion (timeline : Timeline managed «namespace» name) : String :=
  String.ofList (List.replicate (timeline.versions.length + 1) 'v')

/-- Writes an object over the newest version. -/
def write (timeline : Timeline managed «namespace» name) (sent : managed.Resource)
    (merge : managed.Resource → managed.Resource) :
    Except Error managed.Resource × Timeline managed «namespace» name :=
  match timeline.current with
  | none => (.error (.api (.refused .notFound)), timeline)
  | some current =>
    if sent.metadata.Named «namespace» name ∧
        sent.metadata.resourceVersion = current.metadata.resourceVersion then
      let saved := (merge current).withVersion timeline.nextVersion
      match timeline.put ⟨.engine, saved⟩ with
      | some after => (.ok saved, after)
      | none => (.error (.api .unreadable), timeline)
    else (.error (.api (.refused .conflict)), timeline)

theorem writes_write (timeline : Timeline managed «namespace» name) (sent : managed.Resource)
    (merge : managed.Resource → managed.Resource) :
    Writes sent merge (timeline.write sent merge).1 timeline (timeline.write sent merge).2 := by
  unfold write
  split
  · next hgone => exact .refused timeline _ fun _ _ => hgone
  · next current hcurrent =>
    split
    · next hfits =>
      dsimp only
      split
      · next after hput =>
        exact .accepted _ _ _ current _ _ hcurrent hfits.2 rfl (versions_of_put hput) (.inl rfl)
      · exact .refused timeline _ fun hnotFound => nomatch hnotFound
    · exact .refused timeline _ fun hnotFound => nomatch hnotFound

/-- Others ask for the deletion of the object. -/
def deleted (timeline : Timeline managed «namespace» name) :
    Timeline managed «namespace» name :=
  (timeline.current.bind fun current => timeline.put ⟨.other, (current.mapMetadata fun metadata =>
    { metadata with deletionTimestamp := some ⟨1, 0⟩ }).withVersion timeline.nextVersion⟩).getD
      timeline

end Timeline

/-- Nobody else writes. -/
def Conduct.nobody (managed : Managed) : Conduct managed := fun _ _ => False

theorem Conduct.nobody_keeps {γ : Type} {managed : Managed} (part : managed.Resource → γ) :
    (nobody managed).Keeps part := ⟨fun _ _ => False.elim, fun _ => id⟩

/-- The stand with the timeline of its machine and the state of the provider. -/
structure Stand (X : Type) where
  timeline : Timeline .machine "default" "node"
  cloud : X

namespace Stand

variable {X S : Type}

/-- The cluster of the machine. -/
def cluster : VpcCluster where
  metadata := { name := "cluster", uid := "cluster-uid" }
  spec := { region := "region", resourceGroup := none, vpc := none, controlPlaneEndpoint := none }
  status := some { ready := true, subnetId := "subnet" }

def access : (question : AccessQuestion .machine) → Stand X → question.Answer × Stand X
  | .fetch called name, stand =>
    (.ok (if called = "default" ∧ name = "node" then stand.timeline.current else none), stand)
  | .fetchCluster .., stand => (.ok (some cluster), stand)
  | .connect _, stand => ((), stand)
  | .replace sent, stand =>
    let (answer, timeline) :=
      stand.timeline.write sent fun current => { sent with status := current.status }
    (answer, { stand with timeline })
  | .replaceStatus sent, stand =>
    let (answer, timeline) :=
      stand.timeline.write sent fun current => { current with status := sent.status }
    (answer, { stand with timeline })

/-- The world around a stand, with a provider that has a clock and answers up to a reading of it. -/
def world (clock : X → Nat)
    (provider : Option Nat → (question : BodyQuestion .machine) → X → Outcome question.Answer × X) :
    World (Stand X) where
  access
    | .machine, question, stand => access question stand
    | .image, .fetch .., stand => (.ok none, stand)
    | .image, .fetchCluster .., stand => (.ok none, stand)
    | .image, .connect _, stand => ((), stand)
    | .image, .replace _, stand => (.error (.api .unreadable), stand)
    | .image, .replaceStatus _, stand => (.error (.api .unreadable), stand)
  outside
    | .machine, _, deadline, question, stand =>
      let (ending, cloud) := provider deadline question stand.cloud
      (ending, { stand with cloud })
    | .image, _, _, _, stand => (.expired, stand)
  clock stand := clock stand.cloud
  now _ := ⟨0, 0⟩

section

variable (clock : X → Nat)
variable (provider : Option Nat → (question : BodyQuestion .machine) → X →
  Outcome question.Answer × X)

/-- Whatever its provider answers, the stand serves passes over its machine. -/
theorem serves :
    (world clock provider).Serves timeline (Conduct.nobody .machine) where
  access question stand := by
    refine ⟨_, rfl, stand.timeline, _, .refl, ?_, .refl⟩
    cases question with
    | fetch called name =>
        refine ⟨rfl, ?_⟩
        rintro rfl rfl found ⟨⟩
        simp
    | fetchCluster called name => rfl
    | connect target => rfl
    | replace sent => exact stand.timeline.writes_write sent _
    | replaceStatus sent => exact stand.timeline.writes_write sent _
  outside _ _ _ _ := .refl

/-- The stand holds what can be read off its provider. -/
theorem surrounds {environment : Environment (outside .machine) S} {change : S → S → Prop}
    (read : X → S) (hprovider : ∀ deadline question state,
      environment question (provider deadline question state).1 (read state)
        (read (provider deadline question state).2)) (target : Managed.machine.Target) :
    (world clock provider).Surrounds target (fun stand => read stand.cloud) environment change where
  access question stand := by
    cases question <;> exact .refl
  outside deadline question stand := hprovider deadline question stand.cloud

end

/-- A machine that carries its marks and has nothing on record. -/
def machine (memberships : List PoolMembership) : Machine where
  metadata := {
    name := "node"
    «namespace» := "default"
    uid := "machine-uid"
    resourceVersion := "v"
    labels := (∅ : StringMap String).insert clusterNameLabel "cluster"
    finalizers := some [Machine.finalizer]
    ownerReferences := some
      [{ apiVersion := Kind.vpcCluster.apiVersion, kind := Kind.vpcCluster.name,
         name := "cluster", uid := "cluster-uid" }] }
  spec := {
    name := none
    zone := "zone"
    profile := "profile"
    image := .byId "image"
    sshKeys := []
    primaryNetworkInterface := none
    bootstrapDataSecretName := "boot"
    loadBalancerPoolMembers := memberships }
  status := none

/-- The pool that the machine declares. -/
def memberships : List PoolMembership := [⟨.byId "lb", .byId "pool", 6443, none⟩]

/-- The stand with a machine, as another writer has put it there. -/
def holding (machine : Machine) (hnamed : machine.metadata.Named "default" "node") (cloud : X) :
    Stand X where
  timeline := {
    versions := [⟨.other, machine⟩]
    present := true
    named := by simpa using hnamed
    distinct := by simp }
  cloud := cloud

/-- The stand with a machine that nothing has been done for yet. -/
def fresh (memberships : List PoolMembership) (cloud : X) : Stand X :=
  holding (machine memberships) ⟨rfl, rfl⟩ cloud

/-- The secret with the bootstrap data of the machine. -/
def secret : Secret where
  metadata := { name := "boot" }
  spec := {
    data := some ((∅ : StringMap (List UInt8)).insert Secret.bootstrapKey [120])
    stringData := none
    type := none
    immutable := none }
  status := none

/-- Others ask for the deletion of the machine. -/
def delete (stand : Stand X) : Stand X := { stand with timeline := stand.timeline.deleted }

/-- The stand after a pass over its machine. -/
def passed (world : World (Stand X)) (stand : Stand X) : Stand X :=
  (world.visit .machine {} "default" "node" stand).2

/-- A pass of which something is computed. -/
theorem exists_visit {world : World (Stand X)} {stand : Stand X} {holds : Visit .machine → Prop}
    [DecidablePred holds]
    (hcomputed : (world.visit .machine {} "default" "node" stand).1.any
      (fun visit => decide (holds visit)) = true) :
    ∃ visit, world.visit .machine {} "default" "node" stand = (some visit, stand.passed world) ∧
      holds visit := by
  rcases hvisit : world.visit .machine {} "default" "node" stand with ⟨_ | visit, after⟩
  · simp [hvisit] at hcomputed
  · exact ⟨visit, by rw [passed, hvisit], by simpa [hvisit] using hcomputed⟩

/-- What is stored on the stand, of which something is computed. -/
theorem exists_current {stand : Stand X} {holds : Machine → Prop} [DecidablePred holds]
    (hcomputed : stand.timeline.current.any (fun machine => decide (holds machine)) = true) :
    ∃ machine, stand.timeline.current = some machine ∧ holds machine := by
  obtain ⟨machine, hcurrent, hholds⟩ := (Option.any_eq_true ..).mp hcomputed
  exact ⟨machine, hcurrent, of_decide_eq_true hholds⟩

end Stand

end Reconciler
