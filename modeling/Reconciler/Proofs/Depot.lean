import Reconciler.Proofs.Provider
import Reconciler.Proofs.Teardown

/-!
# Import jobs and their images

A provider imports images for jobs that the engine has started.  Others may bring images under the
same name and take images away; what the engine itself has removed is told apart.  No id is given
twice, so that what a pass leaves on record goes on to agree with what the provider holds.
-/

namespace Reconciler

open Relation (ReflTransGen)

/-- The import jobs and the images of one name. -/
structure Depot where
  /-- The jobs that are not over. -/
  running : List String
  /-- The jobs that are completed, each with the image that it has produced. -/
  products : List (String × String)
  /-- All images that there have been. -/
  images : List String
  /-- The images that others have taken away. -/
  lost : List String
  /-- The images that the engine has removed. -/
  removed : List String
  produced : ∀ product ∈ products, product.2 ∈ images
  held : removed ⊆ images

namespace Depot

/-- The image is there. -/
def Holds (depot : Depot) (image : String) : Prop :=
  image ∈ depot.images ∧ image ∉ depot.lost ∧ image ∉ depot.removed

instance (depot : Depot) : DecidablePred depot.Holds :=
  fun image => inferInstanceAs (Decidable (image ∈ depot.images ∧ _))

/-- No job has this id. -/
def Fresh (depot : Depot) (job : String) : Prop :=
  job ∉ depot.running ∧ ∀ product ∈ depot.products, product.1 ≠ job

instance (depot : Depot) : DecidablePred depot.Fresh :=
  fun job => inferInstanceAs (Decidable (job ∉ depot.running ∧ _))

def start (depot : Depot) (job : String) : Depot := { depot with running := job :: depot.running }

def stop (depot : Depot) (job : String) : Depot :=
  { depot with running := depot.running.filter (· ≠ job) }

def bring (depot : Depot) (image : String) : Depot :=
  { depot with
    images := image :: depot.images
    produced := fun product hmem => List.mem_cons_of_mem _ (depot.produced product hmem)
    held := fun _ hmem => List.mem_cons_of_mem _ (depot.held hmem) }

/-- A job is over and has produced an image. -/
def complete (depot : Depot) (job image : String) : Depot :=
  { (depot.stop job).bring image with
    products := (job, image) :: depot.products
    produced := List.forall_mem_cons.mpr
      ⟨List.mem_cons_self .., ((depot.stop job).bring image).produced⟩ }

def take (depot : Depot) (image : String) : Depot := { depot with lost := image :: depot.lost }

/-- The engine removes an image, if it is there. -/
def remove (depot : Depot) (image : String) : Depot :=
  if hholds : depot.Holds image then
    { depot with
      removed := image :: depot.removed
      held := List.cons_subset.mpr ⟨hholds.1, depot.held⟩ }
  else depot

/-- What happens beside the engine: jobs come to an end, and others bring images and take them
away. -/
inductive Turns (before : Depot) : Depot → Prop
  | ended (job : String) : Turns before (before.stop job)
  | completed (job image : String) (hrunning : job ∈ before.running)
      (hfresh : image ∉ before.images) : Turns before (before.complete job image)
  | brought (image : String) (hfresh : image ∉ before.images) : Turns before (before.bring image)
  | taken (image : String) (hholds : before.Holds image) : Turns before (before.take image)

/-- What a question does.  A job may be started though asking for it ended in any way, and likewise
something may be removed.  To delete a job leaves all images alone. -/
def Answers (called : String) :
    (question : BodyQuestion .image) → Outcome question.Answer → Depot → Depot → Prop
  | .cloud (.createImportJob request), ending, before, after =>
    (∃ job, before.Fresh job ∧ (∀ id, ending = .returned (.ok id) → id = job) ∧
      request.imageName = called ∧ after = before.start job) ∨
    ¬(request.imageName = called ∧ ending.Succeeded) ∧ after = before
  | .cloud (.deleteJob job), ending, before, after =>
    after = before.stop job ∨ ¬Managed.image.WentWell (.deleteJob job) ending ∧ after = before
  | .cloud .getAllImages, ending, before, after =>
    after = before ∧ ∀ listing : List ImageReference, ending = .returned (.ok listing) →
      ∀ image, ⟨image, called⟩ ∈ listing ↔ before.Holds image
  | .cloud (.getImage id), ending, before, after =>
    after = before ∧ ∀ found : BootImage, ending = .returned (.ok found) → found.id = id
  | .cloud (.deleteImage image), ending, before, after =>
    after = before.remove image ∨
      ¬Managed.image.WentWell (.deleteImage image) ending ∧ after = before
  | _, _, before, after => after = before

/-- A provider that imports images under a name. -/
def provided (called : String) : Environment (outside .image) Depot :=
  fun question ending before after => ∃ asked answered,
    ReflTransGen Turns before asked ∧ Answers called question ending asked answered ∧
      ReflTransGen Turns answered after

/-- The image that a question is to remove. -/
def doomed : BodyQuestion .image → Option String
  | .cloud (.deleteImage image) => some image
  | _ => none

/-- Time has gone on, and the engine has removed no other image than this one. -/
structure Grows (gone : Option String) (before after : Depot) : Prop where
  images : before.images ⊆ after.images
  lost : before.lost ⊆ after.lost
  removed : before.removed ⊆ after.removed
  spares : ∀ image ∈ after.removed, image ∈ before.removed ∨ gone = some image
  products : ∀ product ∈ after.products, product ∈ before.products ∨ product.2 ∉ before.images

section Grows

variable {gone : Option String} {before middle after : Depot} {image job called : String}

theorem Grows.refl (gone : Option String) (depot : Depot) : Grows gone depot depot where
  images _ := id
  lost _ := id
  removed _ := id
  spares _ := .inl
  products _ := .inl

theorem Grows.trans (hfirst : Grows gone before middle) (hlast : Grows gone middle after) :
    Grows gone before after where
  images := List.Subset.trans hfirst.images hlast.images
  lost := List.Subset.trans hfirst.lost hlast.lost
  removed := List.Subset.trans hfirst.removed hlast.removed
  spares image hmem := (hlast.spares image hmem).elim (hfirst.spares image) .inr
  products product hmem := (hlast.products product hmem).elim (hfirst.products product)
    fun hnew => .inr fun hold => hnew (hfirst.images hold)

theorem Grows.mono {more : Option String} (hgrows : Grows gone before after)
    (himp : ∀ id, gone = some id → more = some id) : Grows more before after :=
  { hgrows with spares := fun id hmem => (hgrows.spares id hmem).imp_right (himp id) }

/-- What changes neither images nor products lets nothing be removed. -/
theorem Grows.of_eq (himages : after.images = before.images) (hlost : after.lost = before.lost)
    (hremoved : after.removed = before.removed) (hproducts : after.products = before.products) :
    Grows gone before after where
  images := himages ▸ List.Subset.refl _
  lost := hlost ▸ List.Subset.refl _
  removed := hremoved ▸ List.Subset.refl _
  spares _ hmem := .inl (hremoved ▸ hmem)
  products _ hmem := .inl (hproducts ▸ hmem)

theorem grows_remove (depot : Depot) (image : String) :
    Grows (some image) depot (depot.remove image) := by
  unfold remove
  split
  · exact {
      images := List.Subset.refl _
      lost := List.Subset.refl _
      removed := List.subset_cons_self ..
      spares := fun other hmem => (List.mem_cons.mp hmem).symm.imp id fun hsame => by rw [hsame]
      products := fun _ => .inl }
  · exact .refl _ depot

theorem Turns.grows (hturns : Turns before after) : Grows gone before after := by
  cases hturns with
  | ended job => exact .of_eq rfl rfl rfl rfl
  | completed job image hrunning hfresh =>
      exact {
        images := List.subset_cons_self ..
        lost := List.Subset.refl _
        removed := List.Subset.refl _
        spares := fun _ => .inl
        products := List.forall_mem_cons.mpr ⟨.inr hfresh, fun _ => .inl⟩ }
  | brought image hfresh =>
      exact {
        images := List.subset_cons_self ..
        lost := List.Subset.refl _
        removed := List.Subset.refl _
        spares := fun _ => .inl
        products := fun _ => .inl }
  | taken image hholds =>
      exact {
        images := List.Subset.refl _
        lost := List.subset_cons_self ..
        removed := List.Subset.refl _
        spares := fun _ => .inl
        products := fun _ => .inl }

theorem grows_of_turns (gone : Option String) (hturns : ReflTransGen Turns before after) :
    Grows gone before after := by
  induction hturns with
  | refl => exact .refl gone before
  | tail _ hlast ih => exact ih.trans hlast.grows

theorem grows_of_answers {question : BodyQuestion .image} {ending : Outcome question.Answer}
    (hanswers : Answers called question ending before after) :
    Grows (doomed question) before after := by
  rcases question with call | _ | _
  · cases call with
    | createImportJob request =>
        rcases hanswers with ⟨job, -, -, -, rfl⟩ | ⟨-, rfl⟩
        · exact .of_eq rfl rfl rfl rfl
        · exact .refl _ after
    | getJob id =>
        obtain rfl : after = before := hanswers
        exact .refl _ after
    | deleteJob job =>
        rcases hanswers with rfl | ⟨-, rfl⟩
        · exact .of_eq rfl rfl rfl rfl
        · exact .refl _ after
    | getAllImages =>
        obtain ⟨rfl, -⟩ := hanswers
        exact .refl _ after
    | getImage id =>
        obtain ⟨rfl, -⟩ := hanswers
        exact .refl _ after
    | deleteImage image =>
        rcases hanswers with rfl | ⟨-, rfl⟩
        · exact grows_remove before image
        · exact .refl _ after
  · obtain rfl : after = before := hanswers
    exact .refl _ after
  · obtain rfl : after = before := hanswers
    exact .refl _ after

theorem grows_of_provided {question : BodyQuestion .image} {ending : Outcome question.Answer}
    (hprovided : provided called question ending before after) :
    Grows (doomed question) before after := by
  obtain ⟨asked, answered, hbefore, hanswers, hafter⟩ := hprovided
  exact (grows_of_turns _ hbefore).trans
    ((grows_of_answers hanswers).trans (grows_of_turns _ hafter))

/-- What is gone stays away. -/
theorem Grows.not_holds (hgrows : Grows gone before after) (hknown : image ∈ before.images)
    (hgone : ¬before.Holds image) : ¬after.Holds image := fun hholds =>
  hgone ⟨hknown, fun hlost => hholds.2.1 (hgrows.lost hlost),
    fun hremoved => hholds.2.2 (hgrows.removed hremoved)⟩

theorem not_holds_of_along {exchanges : List OfImage}
    (halong : (provided called).Along before exchanges after) (hknown : image ∈ before.images)
    (hgone : ¬before.Holds image) : ¬after.Holds image := by
  induction halong with
  | nothing => exact hgone
  | asked hasked _ ih =>
      have hgrows := grows_of_provided hasked
      exact ih (hgrows.images hknown) (hgrows.not_holds hknown hgone)

theorem not_holds_remove (depot : Depot) (image : String) : ¬(depot.remove image).Holds image := by
  unfold remove
  split
  · exact fun hholds => hholds.2.2 (List.mem_cons_self ..)
  · next hgone => exact hgone

/-- An image whose removal went well is gone. -/
theorem not_holds_of_provided {ending : Outcome (Except CloudError Unit)}
    (hprovided : provided called (.cloud (.deleteImage image)) ending before after)
    (hwell : Managed.image.WentWell (.deleteImage image) ending) (hknown : image ∈ before.images) :
    ¬after.Holds image := by
  obtain ⟨asked, answered, hbefore, hanswers, hafter⟩ := hprovided
  rcases hanswers with rfl | ⟨hnot, -⟩
  · have hasked := (grows_of_turns none hbefore).images hknown
    exact (grows_of_turns none hafter).not_holds
      ((grows_remove asked image).images hasked) (not_holds_remove asked image)
  · exact absurd hwell hnot

/-- Once its removal went well, an image is gone for the rest of the pass. -/
theorem not_holds_of_removed {exchanges : List OfImage}
    {ending : Outcome (Except CloudError Unit)}
    (halong : (provided called).Along before exchanges after)
    (hmem : ⟨.cloud (.deleteImage image), ending⟩ ∈ exchanges)
    (hwell : Managed.image.WentWell (.deleteImage image) ending) (hknown : image ∈ before.images) :
    image ∈ after.images ∧ ¬after.Holds image := by
  have hkeeps {early late : Depot} {asked : List OfImage}
      (hasked : (provided called).Along early asked late) (hthere : image ∈ early.images) :
      image ∈ late.images :=
    hasked.keeps (fun _ _ _ _ hstep hheld => (grows_of_provided hstep).images hheld) hthere
  obtain ⟨early, late, rfl⟩ := List.append_of_mem hmem
  obtain ⟨middle, hearly, hrest⟩ := halong.of_append
  have hmiddle := hkeeps hearly hknown
  cases hrest with
  | asked hremoved hlate =>
      have hremaining := (grows_of_provided hremoved).images hmiddle
      exact ⟨hkeeps hlate hremaining,
        not_holds_of_along hlate hremaining (not_holds_of_provided hremoved hwell hmiddle)⟩

/-- An image that was looked at has the id that was asked for. -/
theorem id_of_provided {id : String} {found : BootImage}
    (hprovided : provided called (.cloud (.getImage id)) (.returned (.ok found)) before after) :
    found.id = id := by
  obtain ⟨_, _, -, ⟨-, hfound⟩, -⟩ := hprovided
  exact hfound found rfl

/-- An image that is listed by the name has been there. -/
theorem mem_images_of_listed {listing : List ImageReference} {found : ImageReference}
    (hprovided : provided called (.cloud .getAllImages) (.returned (.ok listing)) before after)
    (hmem : found ∈ listing) (hcalled : found.name = called) : found.id ∈ after.images := by
  obtain ⟨asked, answered, -, ⟨rfl, hlisting⟩, hafter⟩ := hprovided
  have hholds := (hlisting listing rfl found.id).mp (hcalled ▸ hmem)
  exact (grows_of_turns none hafter).images hholds.1

/-- A job that was just started has produced nothing that was there before. -/
theorem not_mem_images_of_started {request : ImportRequest}
    (hprovided : provided called (.cloud (.createImportJob request)) (.returned (.ok job))
      before after) (hcalled : request.imageName = called)
    (hproduct : (job, image) ∈ after.products) : image ∉ before.images := by
  obtain ⟨asked, answered, hbefore, hanswers, hafter⟩ := hprovided
  rcases hanswers with ⟨started, hfresh, hsame, -, rfl⟩ | ⟨hnot, -⟩
  · obtain rfl := hsame job rfl
    rcases (grows_of_turns none hafter).products _ hproduct with hearlier | hnew
    · exact absurd rfl (hfresh.2 _ hearlier)
    · exact fun hold => hnew ((grows_of_turns none hbefore).images hold)
  · exact absurd ⟨hcalled, trivial⟩ hnot

end Grows

/-- What is on record of an image agrees with the depot: the recorded image has been there, and what
the recorded job has produced is another one, which the engine has not removed. -/
structure Agrees (depot : Depot) (image : Image) : Prop where
  known : ∀ id, image.imageId = some id → id ∈ depot.images
  unlocated : ∀ job, image.jobId = some job → ∀ id, (job, id) ∈ depot.products →
    image.imageId ≠ some id ∧ id ∉ depot.removed

section Agrees

variable {depot before after : Depot} {image other : Image}

theorem agrees_of_unrecorded (himage : image.imageId = none) (hjob : image.jobId = none) :
    depot.Agrees image where
  known := by simp [himage]
  unlocated := by simp [hjob]

theorem Agrees.congr (hagrees : depot.Agrees image) (himage : other.imageId = image.imageId)
    (hjob : other.jobId = image.jobId) : depot.Agrees other where
  known := himage ▸ hagrees.known
  unlocated := by
    rw [himage, hjob]
    exact hagrees.unlocated

/-- A record agrees with the depot as long as the engine removes no other image than the recorded
one. -/
theorem Agrees.grows {gone : Option String} (hagrees : before.Agrees image)
    (hgrows : Grows gone before after) (hgone : ∀ id, gone = some id → image.imageId = some id) :
    after.Agrees image where
  known id hid := hgrows.images (hagrees.known id hid)
  unlocated job hjob id hproduct := by
    have hother : image.imageId ≠ some id ∧ id ∉ before.removed := by
      rcases hgrows.products _ hproduct with hearlier | hnew
      · exact hagrees.unlocated job hjob id hearlier
      · exact ⟨fun hid => hnew (hagrees.known id hid), fun hmem => hnew (before.held hmem)⟩
    exact ⟨hother.1, fun hmem => (hgrows.spares id hmem).elim hother.2 fun hthis =>
      hother.1 (hgone id hthis)⟩

end Agrees

end Depot

end Reconciler
