import Reconciler.Proofs.InternetTimes
import Reconciler.Proofs.OpenApi
import Reconciler.Schema.Catalogue

/-!
# Schemas that agree with readers and writers

A schema agrees with the way its values are read and written if it admits whatever is written, and
whatever it admits is read, as long as there is no `null` in it.  That holds of every part of the
documents of machines and images, from the single words up to the specification and the status.
-/

namespace Reconciler

namespace OpenApi

open Json Json.FieldReader Codec

/-- What the formats ask: a number that fits, or a time of RFC 3339. -/
def Formatted : String → Json → Prop
  | "int32", .integer value => Fits 31 value
  | "int64", .integer value => Fits 63 value
  | "date-time", .string text => Time.IsInternetTime text
  | _, _ => True

/-- Types and words have to be right, and every member has to be declared. -/
def bare : Rules where
  null := False
  undeclared := False
  formatted _ _ := True

/-- Formats have to be right besides. -/
def strict : Rules := { bare with formatted := Formatted }

/-- Formats have to be right, but members that are not declared do not matter. -/
def tolerant : Rules := { strict with undeclared := True }

variable {rules : Rules} {schema : Schema} {name : String} {members : List (String × Json)}
variable {α : Type} {write : α → Json} {read : Reader α}

section Fields

variable (name : String) (default : Json) (schema : Schema)

@[simp]
theorem required_fst : (Schema.required name schema).1 = name := rfl

@[simp]
theorem optional_fst : (Schema.optional name schema).1 = name := rfl

@[simp]
theorem defaulted_fst : (Schema.defaulted name default schema).1 = name := rfl

end Fields

/-- What is written is admitted if the formats are obeyed, and what is admitted is read. -/
structure Agrees (schema : Schema) (read : Reader α) (write : α → Json)
    (obeys : Rules → α → Prop) : Prop where
  admits_write : ∀ rules value, obeys rules value → Admits rules (published schema) (write value)
  exists_read : ∀ document, Admits tolerant (published schema) document →
    ∃ value, read document = some value

namespace Agrees

variable {obeys : Rules → α → Prop} (hagrees : Agrees schema read write obeys)
include hagrees

theorem described (description : String) :
    Agrees (.described description schema) read write obeys where
  admits_write rules value hobeys :=
    admits_described_iff.mpr (hagrees.admits_write rules value hobeys)
  exists_read document hadmits := hagrees.exists_read document (admits_described_iff.mp hadmits)

/-- Where there is no `null`, it does not matter that there might be one. -/
theorem nullable : Agrees (.nullable schema) read write obeys where
  admits_write rules value hobeys :=
    admits_nullable_iff.mpr (.inr (hagrees.admits_write rules value hobeys))
  exists_read document hadmits := hagrees.exists_read document <|
    (admits_nullable_iff.mp hadmits).resolve_left fun hnull => hnull.2

theorem list : Agrees (.list schema) (Reader.list read) (writeList write)
    (fun rules items => ∀ item ∈ items, obeys rules item) where
  admits_write rules items hobeys := by
    refine admits_list_iff.mpr ⟨items.map write, rfl, List.forall_mem_map.mpr fun item hitem => ?_⟩
    exact hagrees.admits_write rules item (hobeys item hitem)
  exists_read document hadmits := by
    obtain ⟨items, rfl, hitems⟩ := admits_list_iff.mp hadmits
    exact exists_mapM fun item hitem => hagrees.exists_read item (hitems item hitem)

section Given

theorem given_required (value : α) (hnamed : named name members = [write value])
    (hobeys : obeys rules value) : Given rules (Schema.required name schema) members :=
  .inr ⟨_, hnamed, hagrees.admits_write rules value hobeys⟩

theorem given_defaulted (value : α) {default : Json} (hnamed : named name members = [write value])
    (hobeys : obeys rules value) : Given rules (Schema.defaulted name default schema) members :=
  .inr ⟨_, hnamed, admits_defaulting_iff.mpr (hagrees.admits_write rules value hobeys)⟩

theorem given_optional (value : Option α) (hnamed : named name members = (value.map write).toList)
    (hobeys : ∀ known ∈ value, obeys rules known) :
    Given rules (Schema.optional name schema) members := by
  rcases value with _ | known
  · exact .inl ⟨hnamed, rfl⟩
  · have hadmits := hagrees.admits_write rules known (hobeys known rfl)
    exact .inr ⟨write known, hnamed, admits_nullable_iff.mpr (.inr hadmits)⟩

end Given

theorem required (hgiven : Given tolerant (Schema.required name schema) members) :
    Accepts (required name read) (.named members) := by
  obtain ⟨-, hneeded⟩ | ⟨document, hnamed, hadmits⟩ := hgiven
  · contradiction
  · obtain ⟨value, hread⟩ := hagrees.exists_read document hadmits
    exact ⟨value, scans_required hnamed hread⟩

theorem defaulted {value : Json}
    (hgiven : Given tolerant (Schema.defaulted name value schema) members) (default : α) :
    Accepts (defaulted name default read) (.named members) := by
  obtain ⟨hnone, -⟩ | ⟨document, hnamed, hadmits⟩ := hgiven
  · exact ⟨default, scans_absent hnone default⟩
  · obtain ⟨value, hread⟩ := hagrees.exists_read document (admits_defaulting_iff.mp hadmits)
    exact ⟨value, scans_defaulted hnamed hread default⟩

theorem optional (hgiven : Given tolerant (Schema.optional name schema) members) :
    Accepts (optional name read) (.named members) := by
  obtain ⟨hnone, -⟩ | ⟨document, hnamed, hadmits⟩ := hgiven
  · exact ⟨none, scans_absent hnone none⟩
  · obtain ⟨value, hread⟩ := hagrees.nullable.exists_read document hadmits
    have hnull : document ≠ .null := by
      rintro rfl
      exact hadmits.1
    refine ⟨some value, scans_defaulted hnamed ?_ none⟩
    rw [nullable_of_ne_null hnull, hread]
    rfl

end Agrees

/-! ## Values -/

theorem agrees_text : Agrees .text Reader.text .string fun _ _ => True where
  admits_write _ text _ := admits_text_iff.mpr ⟨text, rfl⟩
  exists_read document hadmits := by
    obtain ⟨text, rfl⟩ := admits_text_iff.mp hadmits
    exact ⟨text, rfl⟩

theorem agrees_flag : Agrees .boolean Reader.flag .bool fun _ _ => True where
  admits_write _ flag _ := admits_boolean_iff.mpr ⟨flag, rfl⟩
  exists_read document hadmits := by
    obtain ⟨flag, rfl⟩ := admits_boolean_iff.mp hadmits
    exact ⟨flag, rfl⟩

theorem agrees_int64 : Agrees (.integer 64) Reader.int64 .integer
    fun rules value => rules.formatted "int64" (.integer value) where
  admits_write _ value hformatted := admits_integer_iff.mpr ⟨value, rfl, hformatted⟩
  exists_read document hadmits := by
    obtain ⟨value, rfl, hfits⟩ := admits_integer_iff.mp hadmits
    exact ⟨value, if_pos hfits⟩

theorem agrees_instant : Agrees .instant readInstant writeInstant
    fun rules instant => rules.formatted "date-time" (writeInstant instant) where
  admits_write _ instant hformatted := admits_instant_iff.mpr ⟨_, rfl, hformatted⟩
  exists_read document hadmits := by
    obtain ⟨text, rfl, htime⟩ := admits_instant_iff.mp hadmits
    exact Time.Instant.exists_ofString?_of_isInternetTime htime

/-- A word of a closed set is read by looking it up among the words of the schema. -/
theorem agrees_word {words : List String} {choices : List (String × α)} {word : α → String}
    (hwords : choices.map (·.1) = words) (hword : ∀ value, word value ∈ words) :
    Agrees (.choice words) (Reader.word choices) (fun value => .string (word value))
      fun _ _ => True where
  admits_write _ value _ := admits_choice_iff.mpr ⟨_, rfl, hword value⟩
  exists_read document hadmits := by
    obtain ⟨found, rfl, hfound⟩ := admits_choice_iff.mp hadmits
    obtain ⟨choice, hchoice, rfl⟩ := List.mem_map.mp (hwords ▸ hfound)
    obtain ⟨value, hvalue⟩ : ∃ value, choices.lookup choice.1 = some value := by
      refine Option.ne_none_iff_exists'.mp fun hnone => ?_
      exact absurd (List.lookup_eq_none_iff.mp hnone choice hchoice) (by simp)
    exact ⟨value, hvalue⟩

theorem agrees_addressType : Agrees (.choice ["InternalIP", "ExternalIP", "Hostname"])
    (Reader.word [("InternalIP", AddressType.internalIP), ("ExternalIP", .externalIP),
      ("Hostname", .hostname)]) (fun type => .string (addressTypeWord type)) fun _ _ => True :=
  agrees_word rfl fun type => by cases type <;> simp [addressTypeWord]

theorem agrees_conditionStatus : Agrees (.choice ["True", "False", "Unknown"]) readConditionStatus
    (fun status => .string status.word) fun _ _ => True :=
  agrees_word rfl fun status => by cases status <;> simp [ConditionStatus.word]

theorem agrees_severity :
    Agrees (.choice ["Info", "Warning", "Error"]) readSeverity writeSeverity fun _ _ => True :=
  agrees_word rfl fun severity => by cases severity <;> simp [ConditionSeverity.word]

theorem agrees_deletePolicy : Agrees (.choice ["delete", "retain"])
    (Reader.word [("delete", DeletePolicy.delete), ("retain", .retain)])
    (fun policy => .string (deletePolicyWord policy)) fun _ _ => True :=
  agrees_word rfl fun policy => by cases policy <;> simp [deletePolicyWord]

/-- Any word is a state of the provider. -/
theorem agrees_state {ofWord : String → α} {word : α → String} :
    Agrees .text (fun document => (Reader.text document).map ofWord)
      (fun state => .string (word state)) fun _ _ => True where
  admits_write _ state _ := admits_text_iff.mpr ⟨word state, rfl⟩
  exists_read document hadmits := by
    obtain ⟨text, rfl⟩ := admits_text_iff.mp hadmits
    exact ⟨ofWord text, rfl⟩

theorem agrees_instanceStatus :
    Agrees .text readInstanceStatus writeInstanceStatus fun _ _ => True := agrees_state

theorem agrees_imageState :
    Agrees .text readImageState writeImageState fun _ _ => True := agrees_state

/-! ## Records -/

theorem admits_record {fields : List (String × Bool × Schema)}
    (hdistinct : (fields.map (·.1)).Nodup) (hdeclared : Declared (fields.map (·.1)) members)
    (hgiven : ∀ field ∈ fields, Given rules field members) :
    Admits rules (published (.record fields)) (.object members) :=
  (admits_record_iff hdistinct).mpr ⟨members, rfl, hgiven, .inr hdeclared⟩

theorem agrees_reference :
    Agrees Definition.resourceReference readReference writeReference fun _ _ => True where
  admits_write rules reference _ := by
    refine admits_described_iff.mpr <| admits_record (by decide) (by simp) ?_
    simp only [List.forall_mem_cons]
    exact ⟨agrees_text.given_optional reference.id (by simp) (by simp),
      agrees_text.given_optional reference.name (by simp) (by simp), List.forall_mem_nil _⟩
  exists_read document hadmits := by
    obtain ⟨members, rfl, hgiven, -⟩ :=
      (admits_record_iff (by decide)).mp (admits_described_iff.mp hadmits)
    simp only [List.forall_mem_cons] at hgiven
    obtain ⟨hid, hname, -⟩ := hgiven
    exact exists_record_of_accepts <|
      (agrees_text.optional hid).bind fun _ =>
      (agrees_text.optional hname).bind fun _ => accepts_pure _ _

theorem agrees_networkInterface : Agrees (.record [Schema.optional "subnet" .text])
    readNetworkInterface writeNetworkInterface fun _ _ => True where
  admits_write rules interface _ := by
    refine admits_record (by decide) (by simp) ?_
    simp only [List.forall_mem_cons]
    exact ⟨agrees_text.given_optional interface.subnet (by simp) (by simp), List.forall_mem_nil _⟩
  exists_read document hadmits := by
    obtain ⟨members, rfl, hgiven, -⟩ := (admits_record_iff (by decide)).mp hadmits
    simp only [List.forall_mem_cons] at hgiven
    exact exists_record_of_accepts <| (agrees_text.optional hgiven.1).bind fun _ => accepts_pure _ _

/-- The numbers of the membership are as their formats ask. -/
structure MembershipObeys (rules : Rules) (membership : PoolMembership) : Prop where
  port : rules.formatted "int64" (.integer membership.port)
  weight : ∀ weight ∈ membership.weight, rules.formatted "int64" (.integer weight)

theorem agrees_membership :
    Agrees Definition.poolMembership readMembership writeMembership MembershipObeys where
  admits_write rules membership hobeys := by
    refine admits_record (by decide) (by simp) ?_
    simp only [List.forall_mem_cons]
    exact ⟨agrees_reference.given_required membership.loadBalancer (by simp) trivial,
      agrees_reference.given_required membership.pool (by simp) trivial,
      agrees_int64.given_required membership.port (by simp) hobeys.port,
      agrees_int64.given_optional membership.weight (by simp) hobeys.weight, List.forall_mem_nil _⟩
  exists_read document hadmits := by
    obtain ⟨members, rfl, hgiven, -⟩ := (admits_record_iff (by decide)).mp hadmits
    simp only [List.forall_mem_cons] at hgiven
    obtain ⟨hloadBalancer, hpool, hport, hweight, -⟩ := hgiven
    exact exists_record_of_accepts <|
      (agrees_reference.required hloadBalancer).bind fun _ =>
      (agrees_reference.required hpool).bind fun _ =>
      (agrees_int64.required hport).bind fun _ =>
      (agrees_int64.optional hweight).bind fun _ => accepts_pure _ _

theorem agrees_machineSpec :
    Agrees Definition.machineSpec readMachineSpec writeMachineSpec fun rules spec =>
      ∀ membership ∈ spec.loadBalancerPoolMembers, MembershipObeys rules membership where
  admits_write rules spec hobeys := by
    refine admits_described_iff.mpr <| admits_record (by decide) (by simp) ?_
    simp only [List.forall_mem_cons]
    exact ⟨(agrees_text.described _).given_optional spec.name (by simp) (by simp),
      agrees_text.given_required spec.zone (by simp) trivial,
      agrees_text.given_required spec.profile (by simp) trivial,
      agrees_reference.given_required spec.image (by simp) trivial,
      agrees_networkInterface.given_optional spec.primaryNetworkInterface (by simp) (by simp),
      agrees_reference.list.given_defaulted spec.sshKeys (by simp) (by simp),
      (agrees_text.described _).given_optional spec.bootstrapDataSecretName (by simp) (by simp),
      (agrees_membership.list.described _).given_defaulted spec.loadBalancerPoolMembers (by simp)
        hobeys, List.forall_mem_nil _⟩
  exists_read document hadmits := by
    obtain ⟨members, rfl, hgiven, -⟩ :=
      (admits_record_iff (by decide)).mp (admits_described_iff.mp hadmits)
    simp only [List.forall_mem_cons] at hgiven
    obtain ⟨hname, hzone, hprofile, himage, hinterface, hkeys, hsecret, hmemberships, -⟩ := hgiven
    -- The fields are read in another order than the schema has them.
    exact exists_record_of_accepts <|
      ((agrees_text.described _).optional hname).bind fun _ =>
      (agrees_text.required hzone).bind fun _ =>
      (agrees_text.required hprofile).bind fun _ =>
      (agrees_reference.required himage).bind fun _ =>
      (agrees_reference.list.defaulted hkeys _).bind fun _ =>
      (agrees_networkInterface.optional hinterface).bind fun _ =>
      ((agrees_text.described _).optional hsecret).bind fun _ =>
      ((agrees_membership.list.described _).defaulted hmemberships _).bind fun _ =>
      accepts_pure _ _

theorem agrees_address :
    Agrees Definition.machineAddress readAddress writeAddress fun _ _ => True where
  admits_write rules address _ := by
    refine admits_record (by decide) (by simp) ?_
    simp only [List.forall_mem_cons]
    exact ⟨agrees_addressType.given_required address.type (by simp) trivial,
      agrees_text.given_required address.address (by simp) trivial, List.forall_mem_nil _⟩
  exists_read document hadmits := by
    obtain ⟨members, rfl, hgiven, -⟩ := (admits_record_iff (by decide)).mp hadmits
    simp only [List.forall_mem_cons] at hgiven
    obtain ⟨htype, haddress, -⟩ := hgiven
    exact exists_record_of_accepts <|
      (agrees_addressType.required htype).bind fun _ =>
      (agrees_text.required haddress).bind fun _ => accepts_pure _ _

/-- The time of the condition is as its format asks. -/
def ConditionObeys (rules : Rules) (condition : Condition) : Prop :=
  rules.formatted "date-time" (writeInstant condition.lastTransitionTime)

theorem agrees_condition :
    Agrees Definition.condition readCondition writeCondition ConditionObeys where
  admits_write rules condition hobeys := by
    refine admits_record (by decide) (by simp) ?_
    simp only [List.forall_mem_cons]
    exact ⟨agrees_text.given_required condition.type (by simp) trivial,
      agrees_conditionStatus.given_required condition.status (by simp) trivial,
      (agrees_severity.described _).given_optional condition.severity (by simp) (by simp),
      agrees_text.given_optional condition.reason (by simp) (by simp),
      agrees_text.given_optional condition.message (by simp) (by simp),
      agrees_instant.given_required condition.lastTransitionTime (by simp) hobeys,
      List.forall_mem_nil _⟩
  exists_read document hadmits := by
    obtain ⟨members, rfl, hgiven, -⟩ := (admits_record_iff (by decide)).mp hadmits
    simp only [List.forall_mem_cons] at hgiven
    obtain ⟨htype, hstatus, hseverity, hreason, hmessage, htime, -⟩ := hgiven
    exact exists_record_of_accepts <|
      (agrees_text.required htype).bind fun _ =>
      (agrees_conditionStatus.required hstatus).bind fun _ =>
      ((agrees_severity.described _).optional hseverity).bind fun _ =>
      (agrees_text.optional hreason).bind fun _ =>
      (agrees_text.optional hmessage).bind fun _ =>
      (agrees_instant.required htime).bind fun _ => accepts_pure _ _

theorem agrees_machineStatus :
    Agrees Definition.machineStatus readMachineStatus writeMachineStatus fun rules status =>
      ∀ condition ∈ status.conditions, ConditionObeys rules condition where
  admits_write rules status hobeys := by
    refine admits_record (by decide) (by simp [Definition.ready, Definition.conditions]) ?_
    simp only [List.forall_mem_cons]
    exact ⟨agrees_flag.given_defaulted status.ready (by simp) trivial,
      (agrees_text.described _).given_optional status.providerId (by simp) (by simp),
      agrees_text.given_optional status.instanceId (by simp) (by simp),
      agrees_instanceStatus.given_optional status.instanceStatus (by simp) (by simp),
      (agrees_text.described _).given_optional status.region (by simp) (by simp),
      agrees_address.list.given_defaulted status.addresses (by simp) (by simp),
      agrees_text.given_optional status.failureReason (by simp) (by simp),
      agrees_text.given_optional status.failureMessage (by simp) (by simp),
      agrees_condition.list.given_defaulted status.conditions (by simp) hobeys,
      List.forall_mem_nil _⟩
  exists_read document hadmits := by
    obtain ⟨members, rfl, hgiven, -⟩ := (admits_record_iff (by decide)).mp hadmits
    simp only [List.forall_mem_cons] at hgiven
    obtain ⟨hready, hproviderId, hinstanceId, hstate, hregion, haddresses, hreason, hmessage,
      hconditions, -⟩ := hgiven
    exact exists_record_of_accepts <|
      (agrees_flag.defaulted hready _).bind fun _ =>
      (agrees_text.optional hinstanceId).bind fun _ =>
      ((agrees_text.described _).optional hregion).bind fun _ =>
      (agrees_instanceStatus.optional hstate).bind fun _ =>
      ((agrees_text.described _).optional hproviderId).bind fun _ =>
      (agrees_address.list.defaulted haddresses _).bind fun _ =>
      (agrees_text.optional hreason).bind fun _ =>
      (agrees_text.optional hmessage).bind fun _ =>
      (agrees_condition.list.defaulted hconditions _).bind fun _ => accepts_pure _ _

theorem agrees_imageSpec :
    Agrees Definition.imageSpec readImageSpec writeImageSpec fun _ _ => True where
  admits_write rules spec _ := by
    refine admits_described_iff.mpr <| admits_record (by decide) (by simp) ?_
    simp only [List.forall_mem_cons]
    exact ⟨(agrees_text.described _).given_required spec.clusterName (by simp) trivial,
      (agrees_text.described _).given_optional spec.serviceInstanceId (by simp) (by simp),
      agrees_text.given_optional spec.zone (by simp) (by simp),
      agrees_text.given_optional spec.bucket (by simp) (by simp),
      (agrees_text.described _).given_optional spec.object (by simp) (by simp),
      (agrees_text.described _).given_optional spec.region (by simp) (by simp),
      agrees_text.given_defaulted spec.storageType (by simp) trivial,
      (agrees_deletePolicy.described _).given_defaulted spec.deletePolicy (by simp) trivial,
      List.forall_mem_nil _⟩
  exists_read document hadmits := by
    obtain ⟨members, rfl, hgiven, -⟩ :=
      (admits_record_iff (by decide)).mp (admits_described_iff.mp hadmits)
    simp only [List.forall_mem_cons] at hgiven
    obtain ⟨hcluster, hworkspace, hzone, hbucket, hobject, hregion, hstorage, hpolicy, -⟩ := hgiven
    exact exists_record_of_accepts <|
      ((agrees_text.described _).required hcluster).bind fun _ =>
      ((agrees_text.described _).optional hworkspace).bind fun _ =>
      (agrees_text.optional hzone).bind fun _ =>
      ((agrees_text.described _).optional hobject).bind fun _ =>
      ((agrees_text.described _).optional hregion).bind fun _ =>
      (agrees_text.optional hbucket).bind fun _ =>
      (agrees_text.defaulted hstorage _).bind fun _ =>
      ((agrees_deletePolicy.described _).defaulted hpolicy _).bind fun _ => accepts_pure _ _

theorem agrees_workspace :
    Agrees Definition.workspace readWorkspace writeWorkspace fun _ _ => True where
  admits_write rules workspace _ := by
    refine admits_described_iff.mpr <| admits_record (by decide) (by simp) ?_
    simp only [List.forall_mem_cons]
    exact ⟨agrees_text.given_required workspace.serviceInstanceId (by simp) trivial,
      agrees_text.given_optional workspace.zone (by simp) (by simp),
      agrees_text.given_optional workspace.region (by simp) (by simp), List.forall_mem_nil _⟩
  exists_read document hadmits := by
    obtain ⟨members, rfl, hgiven, -⟩ :=
      (admits_record_iff (by decide)).mp (admits_described_iff.mp hadmits)
    simp only [List.forall_mem_cons] at hgiven
    obtain ⟨hservice, hzone, hregion, -⟩ := hgiven
    exact exists_record_of_accepts <|
      (agrees_text.required hservice).bind fun _ =>
      (agrees_text.optional hzone).bind fun _ =>
      (agrees_text.optional hregion).bind fun _ => accepts_pure _ _

theorem agrees_imageStatus :
    Agrees Definition.imageStatus readImageStatus writeImageStatus fun rules status =>
      ∀ condition ∈ status.conditions, ConditionObeys rules condition where
  admits_write rules status hobeys := by
    refine admits_record (by decide) (by simp [Definition.ready, Definition.conditions]) ?_
    simp only [List.forall_mem_cons]
    exact ⟨agrees_flag.given_defaulted status.ready (by simp) trivial,
      agrees_text.given_optional status.imageId (by simp) (by simp),
      agrees_imageState.given_optional status.imageState (by simp) (by simp),
      (agrees_text.described _).given_optional status.jobId (by simp) (by simp),
      agrees_workspace.given_optional status.workspace (by simp) (by simp),
      agrees_condition.list.given_defaulted status.conditions (by simp) hobeys,
      List.forall_mem_nil _⟩
  exists_read document hadmits := by
    obtain ⟨members, rfl, hgiven, -⟩ := (admits_record_iff (by decide)).mp hadmits
    simp only [List.forall_mem_cons] at hgiven
    obtain ⟨hready, himageId, hstate, hjobId, hworkspace, hconditions, -⟩ := hgiven
    exact exists_record_of_accepts <|
      (agrees_flag.defaulted hready _).bind fun _ =>
      (agrees_text.optional himageId).bind fun _ =>
      ((agrees_text.described _).optional hjobId).bind fun _ =>
      (agrees_imageState.optional hstate).bind fun _ =>
      (agrees_workspace.optional hworkspace).bind fun _ =>
      (agrees_condition.list.defaulted hconditions _).bind fun _ => accepts_pure _ _

end OpenApi

end Reconciler
