import Reconciler.Json.Pointer
import Reconciler.Proofs.Agreement
import Reconciler.Proofs.StoredObjects

/-!
# Documents that fit their published schemas

What is written of a machine or an image has the form that the definition of its kind publishes, so
that the API server neither refuses it nor drops anything of it.  In return whatever has this form
is read, as long as there is no `null` in it.
-/

namespace Reconciler

namespace Definition

open Json OpenApi

/-- The schema that the definition publishes for a part of the objects of its kind. -/
def partSchema? (part : String) (definition : Definition) : Option Json :=
  ["spec", "versions", "0", "schema", "openAPIV3Schema", "properties", part].foldlM
    (fun found step => step? step found) definition.document

theorem step?_canonical (name : String) (members : List (String × Json)) :
    step? name (canonical (.object members)) = (named name members).getLast?.map canonical :=
  member?_canonical name members

theorem partSchema?_eq (part : String) (definition : Definition) : definition.partSchema? part =
    step? part (canonical (.object (Schema.properties
      [("spec", true, definition.spec), ("status", false, .nullable definition.status)]))) := by
  have hfirst (item : Json) : step? "0" (canonical (.array [item])) = some (canonical item) := by
    have hindex : index? "0" = some 0 := by decide +kernel
    rw [canonical, canonicalItems_eq, step?, hindex]
    rfl
  simp [partSchema?, document, version, schema, step?_canonical, hfirst, Schema.members]

theorem partSchema?_spec (definition : Definition) :
    definition.partSchema? "spec" = some (published definition.spec) := by
  rw [partSchema?_eq, step?_canonical]
  rfl

theorem partSchema?_status (definition : Definition) :
    definition.partSchema? "status" = some (published (.nullable definition.status)) := by
  rw [partSchema?_eq, step?_canonical]
  rfl

end Definition

namespace OpenApi

open Json Codec

/-- The schema describes one part of the objects of a kind.  What is written of the part is admitted
as it is and none of it is dropped, and formats are obeyed as far as the value allows.  What is
admitted of others is read. -/
structure Describes {α : Type} (schema : Json) (read : Reader α) (write : α → Json)
    (formatted : α → Prop) : Prop where
  admits_written : ∀ value, Admits bare schema (write value)
  prune_written : ∀ value, prune schema (write value) = write value
  admits_formatted : ∀ value, formatted value → Admits strict schema (write value)
  exists_read : ∀ document, Admits tolerant schema document → ∃ value, read document = some value

theorem Agrees.describes {α : Type} {schema : Schema} {read : Reader α} {write : α → Json}
    {obeys : Rules → α → Prop} {formatted : α → Prop} (hagrees : Agrees schema read write obeys)
    (hbare : ∀ value, obeys bare value) (hstrict : ∀ value, formatted value → obeys strict value) :
    Describes (published schema) read write formatted where
  admits_written value := hagrees.admits_write bare value (hbare value)
  prune_written value :=
    prune_eq_self id _ _ (hagrees.admits_write bare value (hbare value))
  admits_formatted value hformatted := hagrees.admits_write strict value (hstrict value hformatted)
  exists_read := hagrees.exists_read

theorem conditionObeys_strict {condition : Condition}
    (hyear : condition.lastTransitionTime.HasPlainYear) : ConditionObeys strict condition :=
  Time.Instant.isInternetTime_toString hyear

end OpenApi

namespace Managed

open OpenApi Codec

/-- The times of the status are of years with four digits. -/
def StatusDated (managed : Managed) (status : managed.Status) : Prop :=
  ∀ condition ∈ managed.conditions status, condition.lastTransitionTime.HasPlainYear

/-- The definition of the kind. -/
def definition : Managed → Definition
  | .machine => Definition.machine
  | .image => Definition.image

theorem describes_spec (managed : Managed) : Describes (published managed.definition.spec)
    (readSpec managed.kind) (writeSpec managed.kind) managed.SpecStorable :=
  match managed with
  | .machine => agrees_machineSpec.describes (fun _ _ _ => ⟨trivial, fun _ _ => trivial⟩)
      fun _ hstorable membership hmem => ⟨(hstorable membership hmem).port,
        (hstorable membership hmem).weight⟩
  | .image => agrees_imageSpec.describes (fun _ => trivial) fun _ _ => trivial

theorem describes_status (managed : Managed) :
    Describes (published (.nullable managed.definition.status)) (readStatus managed.kind)
      (writeStatus managed.kind) managed.StatusDated :=
  match managed with
  | .machine => agrees_machineStatus.nullable.describes (fun _ _ _ => trivial)
      fun _ hdated condition hmem => conditionObeys_strict (hdated condition hmem)
  | .image => agrees_imageStatus.nullable.describes (fun _ _ _ => trivial)
      fun _ hdated condition hmem => conditionObeys_strict (hdated condition hmem)

/-- The parts of a document of an object. -/
theorem member?_writeObject (managed : Managed) (object : managed.Resource) :
    (writeObject managed.kind object).member? "spec" = some (writeSpec managed.kind object.spec) ∧
      (writeObject managed.kind object).member? "status" =
        object.status.map (writeStatus managed.kind) := by
  rw [writeObject_eq, writeParts]
  refine ⟨rfl, ?_⟩
  rcases object.status with _ | status <;> rfl

/-- The published definition of a managed kind describes the specification and the status of its
objects, just as they stand in their documents. -/
theorem published_describes (managed : Managed) : ∃ definition specSchema statusSchema,
    Definition.of? managed.kind = some definition ∧
    definition.partSchema? "spec" = some specSchema ∧
    definition.partSchema? "status" = some statusSchema ∧
    Describes specSchema (readSpec managed.kind) (writeSpec managed.kind) managed.SpecStorable ∧
    Describes statusSchema (readStatus managed.kind) (writeStatus managed.kind)
      managed.StatusDated ∧
    ∀ object : managed.Resource,
      (writeObject managed.kind object).member? "spec" =
        some (writeSpec managed.kind object.spec) ∧
      (writeObject managed.kind object).member? "status" =
        object.status.map (writeStatus managed.kind) := by
  have hof : Definition.of? managed.kind = some managed.definition := by
    cases managed <;> rfl
  exact ⟨managed.definition, _, _, hof, managed.definition.partSchema?_spec,
    managed.definition.partSchema?_status, managed.describes_spec, managed.describes_status,
    managed.member?_writeObject⟩

/-- A condition since a leap second, which is given in an offset and with a fraction. -/
def leapSecond : Json :=
  .object
    [("type", .string "Ready"), ("status", .string "True"),
      ("lastTransitionTime", .string "2017-01-01t00:59:60.1234567891+01:00")]

theorem admits_leapSecond : Admits tolerant (published Definition.condition) leapSecond := by
  have htime : Time.IsInternetTime "2017-01-01t00:59:60.1234567891+01:00" := by
    refine ⟨⟨2017, 1, 1, 't', 0, 59, 60, some "1234567891".toList, .offset '+' 1 0⟩, ?_, ?_⟩
    · exact ⟨by decide, by decide, .inr rfl, by decide, by decide, by decide, by simp, .inl rfl,
        by decide, by decide⟩
    · decide +kernel
  refine (admits_record_iff (by decide)).mpr ⟨_, rfl, ?_, .inl trivial⟩
  simp only [List.forall_mem_cons]
  exact ⟨.inr ⟨_, rfl, admits_text_iff.mpr ⟨_, rfl⟩⟩,
    .inr ⟨_, rfl, admits_choice_iff.mpr ⟨_, rfl, by simp⟩⟩, .inl ⟨rfl, rfl⟩, .inl ⟨rfl, rfl⟩,
    .inl ⟨rfl, rfl⟩, .inr ⟨_, rfl, admits_instant_iff.mpr ⟨_, rfl, htime⟩⟩, List.forall_mem_nil _⟩

/-- The condition is read in a status where a member that nobody declared is `null` and others are
missing. -/
theorem published_describes_leapSecond : ∃ status : ImageStatus,
    readImageStatus (.object [("left", .null), ("conditions", .array [leapSecond])]) =
      some status := by
  obtain ⟨definition, _, statusSchema, hof, -, hstatus, -, hdescribes, -⟩ :=
    published_describes .image
  obtain rfl : Definition.image = definition := Option.some.inj hof
  obtain rfl := Option.some.inj (hstatus.symm.trans Definition.image.partSchema?_status)
  refine hdescribes.exists_read _ (admits_nullable_iff.mpr (.inr ?_))
  refine (admits_record_iff (by decide)).mpr ⟨_, rfl, ?_, .inl trivial⟩
  have hconditions : Admits tolerant (published (.list Definition.condition))
      (.array [leapSecond]) :=
    admits_list_iff.mpr ⟨_, rfl, by simpa using admits_leapSecond⟩
  simp only [List.forall_mem_cons]
  exact ⟨.inl ⟨rfl, rfl⟩, .inl ⟨rfl, rfl⟩, .inl ⟨rfl, rfl⟩, .inl ⟨rfl, rfl⟩, .inl ⟨rfl, rfl⟩,
    .inr ⟨_, rfl, admits_defaulting_iff.mpr hconditions⟩, List.forall_mem_nil _⟩

end Managed

end Reconciler
