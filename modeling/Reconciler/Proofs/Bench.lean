import Reconciler.Proofs.Passing

/-!
# A bench for images

A small world with the timeline of one image, a provider whose answers are given, and other writers
who come in while the provider is asked.  It serves passes as an API server does, so that statements
about such worlds can be tried on runs that are computed.
-/

namespace Reconciler

/-- Other writers who change an image that is there, but neither its marks nor its status. -/
def Conduct.gentle : Conduct .image := fun before after =>
  ∃ current object, before = some current ∧ after = some object ∧
    Managed.image.marks object = Managed.image.marks current ∧ object.status = current.status

theorem Conduct.gentle_keeps :
    gentle.Keeps fun image => (Managed.image.marks image, image.status) where
  kept := by
    rintro before after ⟨_, _, ⟨⟩, ⟨⟩, hmarks, hstatus⟩
    exact Prod.ext hmarks hstatus
  stays := by
    rintro after ⟨_, _, ⟨⟩, _⟩

/-- Puts a version on a timeline, if it has the name and a resource version of its own. -/
def Timeline.put {managed : Managed} {«namespace» name : String}
    (timeline : Timeline managed «namespace» name) (version : Version managed) :
    Option (Timeline managed «namespace» name) :=
  if hfits : version.object.metadata.Named «namespace» name ∧
      ((version :: timeline.versions).map (·.object.metadata.resourceVersion)).Nodup then
    some {
      versions := version :: timeline.versions
      present := !version.object.metadata.isDeleting ||
        !(version.object.metadata.finalizers.getD []).isEmpty
      named := List.forall_mem_cons.mpr ⟨hfits.1, timeline.named⟩
      distinct := hfits.2 }
  else none

theorem Timeline.versions_of_put {managed : Managed} {«namespace» name : String}
    {timeline after : Timeline managed «namespace» name} {version : Version managed}
    (hput : timeline.put version = some after) : after.versions = version :: timeline.versions := by
  unfold put at hput
  split at hput
  · rw [← Option.some.inj hput]
  · simp at hput

/-- The bench with the timeline of its image, and how often the provider was asked. -/
structure Bench where
  timeline : Timeline .image "default" "boot"
  asked : Nat

namespace Bench

/-- A resource version that is longer than all before. -/
def nextVersion (bench : Bench) : String :=
  String.ofList (List.replicate (bench.timeline.versions.length + 1) 'v')

/-- Stores an image if it can be. -/
def store (bench : Bench) (writer : Writer) (image : Image) : Option (Image × Bench) :=
  let saved := image.withVersion bench.nextVersion
  (bench.timeline.put ⟨writer, saved⟩).map fun timeline => (saved, { bench with timeline })

/-- Writes an image over the newest version. -/
def write (bench : Bench) (sent : Image) (merge : Image → Image) : Except Error Image × Bench :=
  match bench.timeline.current with
  | none => (.error (.api (.refused .notFound)), bench)
  | some current =>
    if sent.metadata.Named "default" "boot" ∧
        sent.metadata.resourceVersion = current.metadata.resourceVersion then
      match bench.store .engine (merge current) with
      | some (saved, bench) => (.ok saved, bench)
      | none => (.error (.api .unreadable), bench)
    else (.error (.api (.refused .conflict)), bench)

/-- Lets other writers change the metadata of the image, unless they touch its marks. -/
def meddle (change : Metadata → Metadata) (bench : Bench) : Bench :=
  match bench.timeline.current with
  | none => bench
  | some current =>
    if Managed.image.marks (current.mapMetadata change) = Managed.image.marks current then
      match bench.store .other (current.mapMetadata change) with
      | some (_, bench) => bench
      | none => bench
    else bench

def access (cluster : PowerVsCluster) :
    (question : AccessQuestion .image) → Bench → question.Answer × Bench
  | .fetch called name, bench =>
    (.ok (if called = "default" ∧ name = "boot" then bench.timeline.current else none), bench)
  | .fetchCluster .., bench => (.ok (some cluster), bench)
  | .connect _, bench => ((), bench)
  | .replace sent, bench => bench.write sent fun current => { sent with status := current.status }
  | .replaceStatus sent, bench =>
    bench.write sent fun current => { current with status := sent.status }

/-- The world around a bench.  The n-th question of a body is answered by `provider n`, and others
change the metadata of the image by `meddling n` meanwhile. -/
def world (cluster : PowerVsCluster)
    (provider : Nat → (question : BodyQuestion .image) → Outcome question.Answer)
    (meddling : Nat → Option (Metadata → Metadata)) : World Bench where
  access
    | .image, question, bench => access cluster question bench
    | .machine, .fetch .., bench => (.ok none, bench)
    | .machine, .fetchCluster .., bench => (.ok none, bench)
    | .machine, .connect _, bench => ((), bench)
    | .machine, .replace _, bench => (.error (.api .unreadable), bench)
    | .machine, .replaceStatus _, bench => (.error (.api .unreadable), bench)
  outside
    | .image, _, _, question, bench =>
      (provider bench.asked question,
        { (meddling bench.asked).elim bench bench.meddle with asked := bench.asked + 1 })
    | .machine, _, _, _, bench => (.expired, bench)
  clock _ := 0
  now _ := ⟨0, 0⟩

@[simp]
theorem world_fetch (cluster : PowerVsCluster)
    (provider : Nat → (question : BodyQuestion .image) → Outcome question.Answer)
    (meddling : Nat → Option (Metadata → Metadata)) (bench : Bench) :
    (world cluster provider meddling).access .image (.fetch "default" "boot") bench =
      (.ok bench.timeline.current, bench) := by
  simp [world, access]

theorem versions_of_store {bench after : Bench} {writer : Writer} {image saved : Image}
    (hstore : bench.store writer image = some (saved, after)) :
    saved = image.withVersion bench.nextVersion ∧
      after.timeline.versions = ⟨writer, saved⟩ :: bench.timeline.versions := by
  unfold store at hstore
  obtain ⟨timeline, hput, heq⟩ := Option.map_eq_some_iff.mp hstore
  obtain ⟨rfl, rfl⟩ := Prod.mk.injEq .. ▸ heq
  exact ⟨rfl, Timeline.versions_of_put hput⟩

theorem drifts_meddle (change : Metadata → Metadata) (bench : Bench) :
    Timeline.Drifts Conduct.gentle bench.timeline (bench.meddle change).timeline := by
  unfold meddle
  split
  · exact .refl
  · next current hcurrent =>
    split
    · next hgentle =>
      split
      · next saved after hstore =>
        obtain ⟨rfl, hversions⟩ := versions_of_store hstore
        refine .single (.written _ ?_ hversions)
        exact ⟨current, _, hcurrent, rfl, hgentle, rfl⟩
      · exact .refl
    · exact .refl

theorem writes_write (bench : Bench) (sent : Managed.image.Resource)
    (merge : Managed.image.Resource → Managed.image.Resource) :
    Timeline.Writes sent merge (bench.write sent merge).1 bench.timeline
      (bench.write sent merge).2.timeline := by
  unfold write
  split
  · next hgone => exact .refused bench.timeline _ fun _ _ => hgone
  · next current hcurrent =>
    split
    · next hfits =>
      split
      · next saved after hstore =>
        obtain ⟨rfl, hversions⟩ := versions_of_store hstore
        exact .accepted _ _ _ current _ _ hcurrent hfits.2 rfl hversions (.inl rfl)
      · exact .refused bench.timeline _ fun hnotFound => nomatch hnotFound
    · exact .refused bench.timeline _ fun hnotFound => nomatch hnotFound

/-- Nobody else comes in while the bench is accessed. -/
theorem served_access (others : Conduct .image) (cluster : PowerVsCluster)
    (question : AccessQuestion .image) (bench : Bench) :
    Timeline.served others question (.returned (access cluster question bench).1) bench.timeline
      (access cluster question bench).2.timeline := by
  refine ⟨_, rfl, bench.timeline, _, .refl, ?_, .refl⟩
  cases question with
  | fetch called name =>
      refine ⟨rfl, ?_⟩
      rintro rfl rfl found ⟨⟩
      simp
  | fetchCluster called name => rfl
  | connect target => rfl
  | replace sent => exact writes_write bench sent _
  | replaceStatus sent => exact writes_write bench sent _

/-- Whatever its provider answers, the bench serves passes over its image. -/
theorem serves (cluster : PowerVsCluster)
    (provider : Nat → (question : BodyQuestion .image) → Outcome question.Answer)
    (meddling : Nat → Option (Metadata → Metadata)) :
    (world cluster provider meddling).Serves timeline Conduct.gentle where
  access question bench := served_access Conduct.gentle cluster question bench
  outside target deadline question bench := by
    change Timeline.Drifts _ _ ((meddling bench.asked).elim bench bench.meddle).timeline
    cases meddling bench.asked with
    | none => exact .refl
    | some change => exact drifts_meddle change bench

/-- The bench with one image, as another writer has put it there. -/
def holding (image : Image) (hnamed : image.metadata.Named "default" "boot") : Bench where
  timeline := {
    versions := [⟨.other, image⟩]
    present := true
    named := by simpa using hnamed
    distinct := by simp }
  asked := 0

/-- The cluster of the image. -/
def cluster : PowerVsCluster where
  metadata := { name := "cluster", uid := "cluster-uid" }
  spec := { serviceInstanceId := "workspace", zone := "zone", region := none }
  status := none

/-- An image that carries its marks already. -/
def image : Image where
  metadata := {
    name := "boot"
    «namespace» := "default"
    uid := "image-uid"
    resourceVersion := "v"
    labels := (∅ : StringMap String).insert clusterNameLabel "cluster"
    finalizers := some [Image.finalizer]
    ownerReferences := some
      [{ apiVersion := Kind.powerVsCluster.apiVersion, kind := Kind.powerVsCluster.name,
         name := "cluster", uid := "cluster-uid" }] }
  spec := {
    clusterName := "cluster"
    serviceInstanceId := none
    zone := none
    object := "boot.ova"
    region := "region"
    bucket := "bucket"
    storageType := Image.defaultStorageType
    deletePolicy := .delete }
  status := none

/-- An image that nothing has been done for yet. -/
def fresh : Bench := holding image (by decide)

/-- Others ask for the deletion of the image. -/
def delete : Bench → Bench :=
  meddle fun metadata => { metadata with deletionTimestamp := some ⟨1, 0⟩ }

/-- A provider whose jobs are completed and whose images are active.  What it lists and how removing
an image ends are given. -/
def provider (listing : Nat → List ImageReference) (removal : Outcome (Except CloudError Unit)) :
    Nat → (question : BodyQuestion .image) → Outcome question.Answer
  | n, .cloud .getAllImages => .returned (.ok (listing n))
  | _, .cloud (.getImage id) => .returned (.ok ⟨id, "boot", .active⟩)
  | _, .cloud (.createImportJob _) => .returned (.ok "job-2")
  | _, .cloud (.getJob id) => .returned (.ok ⟨id, .completed, ""⟩)
  | _, .cloud (.deleteJob _) => .returned (.ok ())
  | _, .cloud (.deleteImage _) => removal
  | _, .secret .. => .returned (.ok none)
  | _, .publish .. => .returned (.ok ())

/-- The bench after a pass over its image. -/
def passed (world : World Bench) (bench : Bench) : Bench :=
  (world.visit .image {} "default" "boot" bench).2

/-- A pass of which something is computed. -/
theorem exists_visit {world : World Bench} {bench : Bench} {holds : Visit .image → Prop}
    [DecidablePred holds]
    (hcomputed : (world.visit .image {} "default" "boot" bench).1.any
      (fun visit => decide (holds visit)) = true) :
    ∃ visit, world.visit .image {} "default" "boot" bench = (some visit, bench.passed world) ∧
      holds visit := by
  rcases hvisit : world.visit .image {} "default" "boot" bench with ⟨_ | visit, after⟩
  · simp [hvisit] at hcomputed
  · exact ⟨visit, by rw [passed, hvisit], by simpa [hvisit] using hcomputed⟩

/-- What is stored on the bench, of which something is computed. -/
theorem exists_current {bench : Bench} {holds : Image → Prop} [DecidablePred holds]
    (hcomputed : bench.timeline.current.any (fun image => decide (holds image)) = true) :
    ∃ image, bench.timeline.current = some image ∧ holds image := by
  obtain ⟨image, hcurrent, hholds⟩ := (Option.any_eq_true ..).mp hcomputed
  exact ⟨image, hcurrent, of_decide_eq_true hholds⟩

end Bench

end Reconciler
