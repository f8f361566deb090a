import Reconciler.Proofs.Canonical
import Reconciler.Proofs.Documents
import Reconciler.Schema.Basic

/-!
# What a published schema admits

The API server knows a schema by its published form alone, a document with keywords.  It checks the
documents of a kind against it and drops the members that the schema does not declare.  Each kind of
schema comes down to a plain statement about the documents that its published form admits.
-/

namespace Reconciler

namespace Json

/-- A name that only one member has stands for that member. -/
theorem named_eq_singleton {name : String} {value : Json} {members : List (String × Json)}
    (hdistinct : (members.map (·.1)).Nodup) (hmem : (name, value) ∈ members) :
    named name members = [value] := by
  induction members with
  | nil => simp at hmem
  | cons member members ih =>
      obtain ⟨hother, hdistinct⟩ := List.nodup_cons.mp hdistinct
      rw [named_cons]
      rcases List.mem_cons.mp hmem with rfl | hmem
      · have hrest : named name members = [] := by
          rw [named, List.filterMap_eq_nil_iff]
          intro other hmem
          exact if_neg fun heq => hother (List.mem_map.mpr ⟨other, hmem, eq_of_beq heq⟩)
        rw [if_pos (beq_self_eq_true name), hrest]
      · rw [if_neg, ih hdistinct hmem]
        intro heq
        exact hother (List.mem_map.mpr ⟨_, hmem, (eq_of_beq heq).symm⟩)

theorem named_eq_nil_iff {name : String} {members : List (String × Json)} :
    named name members = [] ↔ name ∉ members.map (·.1) := by
  simp only [named, List.filterMap_eq_nil_iff, ite_eq_right_iff, reduceCtorEq, imp_false,
    beq_iff_eq, List.mem_map, not_exists, not_and]

theorem mem_named_iff {name : String} {value : Json} {members : List (String × Json)} :
    value ∈ named name members ↔ (name, value) ∈ members := by
  simp [named]

end Json

namespace OpenApi

open Json

/-! ## Keywords -/

/-- The text under a keyword. -/
def text? (keyword : String) (schema : Json) : Option String :=
  (schema.member? keyword).bind Reader.text

/-- The texts under a keyword. -/
def texts? (keyword : String) (schema : Json) : Option (List String) :=
  (schema.member? keyword).bind (Reader.list Reader.text)

/-- The schemas of the members that are declared for an object. -/
def properties (schema : Json) : List (String × Json) :=
  match schema.member? "properties" with
  | some (.object properties) => properties
  | _ => []

/-- The schema of the items of an array. -/
def item (schema : Json) : Json := (schema.member? "items").getD .null

/-! ## Admission -/

/-- What is asked of a document beside the types, the words and the members that its schema has. -/
structure Rules where
  /-- Whether `null` may stand where the schema says so. -/
  null : Prop
  /-- Whether there may be members that the schema does not declare. -/
  undeclared : Prop
  /-- What a format asks of a number or a text. -/
  formatted : String → Json → Prop

variable (rules : Rules)

/-- The schema is for documents of this type, and the document obeys its format. -/
def OfType (type : String) (schema document : Json) : Prop :=
  text? "type" schema = some type ∧
    ∀ format ∈ text? "format" schema, rules.formatted format document

/-- An object has every member that it has to have, and a declared one not more than once. -/
def Complete (schema : Json) (members : List (String × Json)) : Prop :=
  (∀ names ∈ texts? "required" schema, ∀ name ∈ names, named name members ≠ []) ∧
    ∀ name, ((properties schema).lookup name).isSome → (named name members).length ≤ 1

mutual

/-- The published schema admits the document. -/
def Admits (schema : Json) : Json → Prop
  | .null => rules.null ∧ (schema.member? "nullable").bind Reader.flag = some true
  | .bool value => OfType rules "boolean" schema (.bool value)
  | .integer value => OfType rules "integer" schema (.integer value)
  | .decimal negative coefficient exponent =>
    OfType rules "number" schema (.decimal negative coefficient exponent)
  | .string word =>
    OfType rules "string" schema (.string word) ∧ ∀ words ∈ texts? "enum" schema, word ∈ words
  | .array items => OfType rules "array" schema (.array items) ∧ AdmitsItems (item schema) items
  | .object members =>
    OfType rules "object" schema (.object members) ∧ Complete schema members ∧
      AdmitsMembers (properties schema) members
  | .illFormed => False

/-- The schema of the items admits each of them. -/
def AdmitsItems (schema : Json) : List Json → Prop
  | [] => True
  | document :: documents => Admits schema document ∧ AdmitsItems schema documents

/-- The schemas of the members admit each of them. -/
def AdmitsMembers (declared : List (String × Json)) : List (String × Json) → Prop
  | [] => True
  | (name, document) :: members =>
    (match declared.lookup name with
      | some schema => Admits schema document
      | none => rules.undeclared) ∧ AdmitsMembers declared members

end

mutual

/-- What the API server keeps of a document: it drops the members that are not declared. -/
def prune (schema : Json) : Json → Json
  | .array items => .array (pruneItems (item schema) items)
  | .object members => .object (pruneMembers (properties schema) members)
  | document => document

def pruneItems (schema : Json) : List Json → List Json
  | [] => []
  | document :: documents => prune schema document :: pruneItems schema documents

def pruneMembers (declared : List (String × Json)) : List (String × Json) → List (String × Json)
  | [] => []
  | (name, document) :: members =>
    match declared.lookup name with
    | some schema => (name, prune schema document) :: pruneMembers declared members
    | none => pruneMembers declared members

end

section Prune

variable {rules : Rules}

mutual

/-- Where all members are declared, none is dropped. -/
theorem prune_eq_self (hdeclared : ¬rules.undeclared) : ∀ schema document,
    Admits rules schema document → prune schema document = document
  | _, .array items, hadmits => by
    rw [prune, pruneItems_eq_self hdeclared _ items hadmits.2]
  | _, .object members, hadmits => by
    rw [prune, pruneMembers_eq_self hdeclared _ members hadmits.2.2]
  | _, .null, _ | _, .bool _, _ | _, .integer _, _ | _, .decimal .., _ | _, .string _, _
  | _, .illFormed, _ => rfl

theorem pruneItems_eq_self (hdeclared : ¬rules.undeclared) : ∀ schema documents,
    AdmitsItems rules schema documents → pruneItems schema documents = documents
  | _, [], _ => rfl
  | schema, document :: documents, ⟨hfirst, hrest⟩ => by
    rw [pruneItems, prune_eq_self hdeclared schema document hfirst,
      pruneItems_eq_self hdeclared schema documents hrest]

theorem pruneMembers_eq_self (hdeclared : ¬rules.undeclared) : ∀ declared members,
    AdmitsMembers rules declared members → pruneMembers declared members = members
  | _, [], _ => rfl
  | declared, (name, document) :: members, ⟨hfirst, hrest⟩ => by
    rw [pruneMembers]
    split at hfirst
    · next schema _ =>
      rw [prune_eq_self hdeclared schema document hfirst,
        pruneMembers_eq_self hdeclared declared members hrest]
    · exact absurd hfirst hdeclared

end

end Prune

section Published

variable {rules : Rules} {schema : Schema} {document : Json}

/-- The published form of a schema. -/
def published (schema : Schema) : Json := canonical schema.document

@[simp]
theorem member?_published (keyword : String) (schema : Schema) :
    (published schema).member? keyword =
      (named keyword schema.members).getLast?.map canonical :=
  member?_canonical keyword schema.members

theorem admits_text_iff : Admits rules (published .text) document ↔
    ∃ word, document = .string word := by
  cases document <;>
    simp [Admits, OfType, text?, texts?, Schema.members, canonical, Reader.text]

theorem admits_instant_iff : Admits rules (published .instant) document ↔
    ∃ word, document = .string word ∧ rules.formatted "date-time" (.string word) := by
  cases document <;>
    simp [Admits, OfType, text?, texts?, Schema.members, canonical, Reader.text]

theorem admits_integer_iff {bits : Nat} : Admits rules (published (.integer bits)) document ↔
    ∃ value, document = .integer value ∧
      rules.formatted ("int" ++ toString bits) (.integer value) := by
  cases document <;>
    simp [Admits, OfType, text?, Schema.members, canonical, Reader.text]

theorem admits_boolean_iff : Admits rules (published .boolean) document ↔
    ∃ value, document = .bool value := by
  cases document <;>
    simp [Admits, OfType, text?, Schema.members, canonical, Reader.text]

theorem texts?_published {keyword : String} {words : List String} {schema : Schema}
    (hnamed : named keyword schema.members = [.array (words.map .string)]) :
    texts? keyword (published schema) = some words := by
  have hwords : ((words.map Json.string).map canonical).mapM Reader.text = some words := by
    rw [List.map_map, List.mapM_map]
    exact mapM_eq_some fun _ _ => rfl
  rw [texts?, member?_published, hnamed]
  simp only [List.getLast?_singleton, Option.map_some, canonical, canonicalItems_eq]
  exact hwords

theorem admits_choice_iff {words : List String} :
    Admits rules (published (.choice words)) document ↔
      ∃ word, document = .string word ∧ word ∈ words := by
  have hwords : texts? "enum" (published (.choice words)) = some words :=
    texts?_published (by simp [Schema.members])
  cases document <;>
    simp [Admits, OfType, text?, hwords, Schema.members, canonical, Reader.text]

theorem admitsItems_iff {items : Json} {documents : List Json} :
    AdmitsItems rules items documents ↔ ∀ document ∈ documents, Admits rules items document := by
  induction documents with
  | nil => simp [AdmitsItems]
  | cons document documents ih => rw [AdmitsItems, ih, List.forall_mem_cons]

theorem admits_list_iff : Admits rules (published (.list schema)) document ↔
    ∃ items, document = .array items ∧ ∀ item ∈ items, Admits rules (published schema) item := by
  have hitem : item (published (.list schema)) = published schema := by
    rw [item, member?_published]
    rfl
  cases document <;>
    simp [Admits, OfType, text?, admitsItems_iff, hitem, Schema.members, canonical, Reader.text]

/-- The keywords that count for documents other than `null`. -/
def keywords : List String := ["type", "format", "enum", "required", "properties", "items"]

/-- A document is admitted as it is by a schema of the same keywords. -/
theorem admits_congr {left right : Json}
    (hsame : ∀ keyword ∈ keywords, left.member? keyword = right.member? keyword)
    (hnull : document = .null → left.member? "nullable" = right.member? "nullable") :
    Admits rules left document ↔ Admits rules right document := by
  simp only [keywords, List.forall_mem_cons] at hsame
  obtain ⟨htype, hformat, henum, hrequired, hproperties, hitems, -⟩ := hsame
  have htyped (type : String) (document : Json) :
      OfType rules type left document ↔ OfType rules type right document := by
    simp only [OfType, text?, htype, hformat]
  have hdeclared : properties left = properties right := by
    simp only [properties, hproperties]
  cases document with
  | null => simp only [Admits, hnull rfl]
  | string word => simp only [Admits, htyped, texts?, henum]
  | array items => simp only [Admits, htyped, item, hitems]
  | object members => simp only [Admits, htyped, Complete, texts?, hrequired, hdeclared]
  | _ => simp only [Admits, htyped]

/-- A keyword in front of the others does not matter if it is not one of those that count. -/
theorem admits_cons_iff {outer : Schema} {keyword : String} {value : Json}
    (hmembers : outer.members = (keyword, value) :: schema.members) (hidle : keyword ∉ keywords)
    (hnull : document = .null → keyword ≠ "nullable") :
    Admits rules (published outer) document ↔ Admits rules (published schema) document := by
  have hsame (other : String) (hother : keyword ≠ other) :
      (published outer).member? other = (published schema).member? other := by
    simp [hmembers, hother]
  refine admits_congr (fun other hmem => hsame other ?_) fun heq => hsame _ (hnull heq)
  rintro rfl
  exact hidle hmem

theorem admits_described_iff {description : String} :
    Admits rules (published (.described description schema)) document ↔
      Admits rules (published schema) document :=
  admits_cons_iff rfl (by decide) fun _ => by decide

theorem admits_defaulting_iff {default : Json} :
    Admits rules (published (.defaulting default schema)) document ↔
      Admits rules (published schema) document :=
  admits_cons_iff rfl (by decide) fun _ => by decide

@[simp]
theorem named_requiredMember (keyword : String) (fields : List (String × Bool × Schema)) :
    named keyword (Schema.requiredMember fields) =
      if "required" == keyword ∧ Schema.requiredNames fields ≠ [] then
        [.array ((Schema.requiredNames fields).map .string)] else [] := by
  unfold Schema.requiredMember
  split
  · next hnone => simp [hnone]
  · next hsome =>
    have hnames : Schema.requiredNames fields ≠ [] := hsome
    simp [hnames]

/-- What a schema says of `null` is always the same. -/
theorem eq_true_of_mem_nullable : ∀ (schema : Schema), ∀ value ∈ named "nullable" schema.members,
    value = .bool true
  | .nullable schema => by simpa [Schema.members] using eq_true_of_mem_nullable schema
  | .described _ schema => by simpa [Schema.members] using eq_true_of_mem_nullable schema
  | .defaulting _ schema => by simpa [Schema.members] using eq_true_of_mem_nullable schema
  | .text | .instant | .choice _ | .integer _ | .boolean | .list _ | .record _ => by
    simp [Schema.members]

/-- A schema that lets `null` stand admits what it admits without that. -/
theorem admits_nullable_iff : Admits rules (published (.nullable schema)) document ↔
    (document = .null ∧ rules.null) ∨ Admits rules (published schema) document := by
  by_cases hnull : document = .null
  · -- The keyword may be there several times, but whichever counts says the same.
    have hlast : ((named "nullable" (Schema.nullable schema).members).getLast?.map canonical).bind
        Reader.flag = some true := by
      obtain ⟨last, hlast⟩ : ∃ last,
          (named "nullable" (Schema.nullable schema).members).getLast? = some last := by
        simp [Schema.members, List.getLast?_cons]
      rw [hlast, eq_true_of_mem_nullable _ _ (List.mem_of_getLast? hlast)]
      rfl
    rw [hnull]
    simp only [Admits, member?_published, hlast]
    exact ⟨fun hboth => .inl ⟨trivial, hboth.1⟩, fun heither => ⟨heither.elim (·.2) (·.1), trivial⟩⟩
  · rw [or_iff_right fun hboth => hnull hboth.1]
    exact admits_cons_iff rfl (by decide) fun heq => absurd heq hnull

section Record

variable {fields : List (String × Bool × Schema)}

theorem properties_eq_map (fields : List (String × Bool × Schema)) :
    Schema.properties fields =
      fields.map fun field => (field.1, Json.object field.2.2.members) := by
  induction fields with
  | nil => rfl
  | cons field fields ih => rw [Schema.properties, ih, List.map_cons]

/-- What is declared under a name is what the last field of this name has. -/
theorem lookup_properties (name : String) (fields : List (String × Bool × Schema)) :
    (properties (published (.record fields))).lookup name =
      (named name (Schema.properties fields)).getLast?.map canonical := by
  have hproperties : (published (.record fields)).member? "properties" =
      some (canonical (.object (Schema.properties fields))) := by
    simp [Schema.members]
  rw [← member?_canonical, properties, hproperties]
  rfl

theorem mem_requiredNames {name : String} :
    name ∈ Schema.requiredNames fields ↔ ∃ schema, (name, true, schema) ∈ fields := by
  simp [Schema.requiredNames]

/-- The member that a field is about is there once and admitted, or it may be missing. -/
def Given (rules : Rules) (field : String × Bool × Schema) (members : List (String × Json)) :
    Prop :=
  (named field.1 members = [] ∧ field.2.1 = false) ∨
    ∃ document, named field.1 members = [document] ∧ Admits rules (published field.2.2) document

theorem given_iff {field : String × Bool × Schema} {members : List (String × Json)} :
    Given rules field members ↔
      ((field.2.1 = true → named field.1 members ≠ []) ∧ (named field.1 members).length ≤ 1) ∧
        ∀ document, (field.1, document) ∈ members →
          Admits rules (published field.2.2) document := by
  simp only [Given, ← mem_named_iff]
  rcases named field.1 members with _ | ⟨document, _ | ⟨other, rest⟩⟩ <;> simp

/-- The members have names out of these. -/
def Declared (names : List String) (members : List (String × Json)) : Prop :=
  ∀ member ∈ members, member.1 ∈ names

section Declared

variable {names : List String} {front back : List (String × Json)}

@[simp]
theorem declared_nil : Declared names [] := nofun

@[simp]
theorem declared_cons {member : String × Json} :
    Declared names (member :: back) ↔ member.1 ∈ names ∧ Declared names back :=
  List.forall_mem_cons

@[simp]
theorem declared_append :
    Declared names (front ++ back) ↔ Declared names front ∧ Declared names back :=
  List.forall_mem_append

@[simp]
theorem declared_optional {α : Type} {name : String} {write : α → Json} {value : Option α}
    (hname : name ∈ names) : Declared names (Json.optional name write value) := by
  rcases value with _ | known
  · exact nofun
  · exact declared_cons.mpr ⟨hname, declared_nil⟩

end Declared

theorem admitsMembers_iff {declared members : List (String × Json)} :
    AdmitsMembers rules declared members ↔ ∀ member ∈ members,
      (∀ schema ∈ declared.lookup member.1, Admits rules schema member.2) ∧
        (declared.lookup member.1 = none → rules.undeclared) := by
  induction members with
  | nil => simp [AdmitsMembers]
  | cons member members ih =>
      rw [AdmitsMembers, ih, List.forall_mem_cons]
      split
      · next hlookup => simp [hlookup]
      · next hlookup => simp [hlookup]

theorem lookup_eq_none_iff {name : String} :
    (properties (published (.record fields))).lookup name = none ↔ name ∉ fields.map (·.1) := by
  have hnames : (Schema.properties fields).map (·.1) = fields.map (·.1) := by
    rw [properties_eq_map, List.map_map]
    rfl
  rw [lookup_properties, Option.map_eq_none_iff, List.getLast?_eq_none_iff, named_eq_nil_iff,
    hnames]

/-- An object is complete if its members are: the keyword for those that have to be there is left
out where there are none. -/
theorem complete_iff {members : List (String × Json)} :
    Complete (published (.record fields)) members ↔ ∀ field ∈ fields,
      (field.2.1 = true → named field.1 members ≠ []) ∧ (named field.1 members).length ≤ 1 := by
  have hrequired : (∀ names ∈ texts? "required" (published (.record fields)), ∀ name ∈ names,
      named name members ≠ []) ↔ ∀ name ∈ Schema.requiredNames fields, named name members ≠ [] := by
    by_cases hnone : Schema.requiredNames fields = []
    · have htexts : texts? "required" (published (.record fields)) = none := by
        simp [texts?, Schema.members, hnone]
      simp [htexts, hnone]
    · have htexts : texts? "required" (published (.record fields)) =
          some (Schema.requiredNames fields) :=
        texts?_published (by simp [Schema.members, hnone])
      simp [htexts]
  have hdeclared : (∀ name, ((properties (published (.record fields))).lookup name).isSome →
      (named name members).length ≤ 1) ↔ ∀ field ∈ fields, (named field.1 members).length ≤ 1 := by
    simp only [Option.isSome_iff_ne_none, ne_eq, lookup_eq_none_iff, Decidable.not_not]
    exact List.forall_mem_map
  rw [Complete, hrequired, hdeclared]
  constructor
  · rintro ⟨hpresent, honce⟩ ⟨name, needed, schema⟩ hfield
    exact ⟨fun hneeded => hpresent name (mem_requiredNames.mpr ⟨schema, hneeded ▸ hfield⟩),
      honce _ hfield⟩
  · refine fun hall => ⟨fun name hname => ?_, fun field hfield => (hall field hfield).2⟩
    obtain ⟨schema, hfield⟩ := mem_requiredNames.mp hname
    exact (hall _ hfield).1 rfl

variable (hdistinct : (fields.map (·.1)).Nodup)
include hdistinct

theorem lookup_of_mem {field : String × Bool × Schema} (hfield : field ∈ fields) :
    (properties (published (.record fields))).lookup field.1 = some (published field.2.2) := by
  have hnamed : named field.1 (Schema.properties fields) = [.object field.2.2.members] := by
    apply named_eq_singleton
    · rw [properties_eq_map, List.map_map]
      exact hdistinct
    · rw [properties_eq_map]
      exact List.mem_map.mpr ⟨field, hfield, rfl⟩
  rw [lookup_properties, hnamed]
  rfl

/-- What is declared under a name is the schema of the field of this name. -/
theorem lookup_eq_some_iff {name : String} {declared : Json} :
    (properties (published (.record fields))).lookup name = some declared ↔
      ∃ field ∈ fields, field.1 = name ∧ published field.2.2 = declared := by
  constructor
  · intro hlookup
    have hname : name ∈ fields.map (·.1) := by
      refine Decidable.byContradiction fun hother => ?_
      rw [lookup_eq_none_iff.mpr hother] at hlookup
      contradiction
    obtain ⟨field, hfield, rfl⟩ := List.mem_map.mp hname
    exact ⟨field, hfield, rfl,
      Option.some.inj ((lookup_of_mem hdistinct hfield).symm.trans hlookup)⟩
  · rintro ⟨field, hfield, rfl, rfl⟩
    exact lookup_of_mem hdistinct hfield

/-- A record is an object with all its fields as they should be, and with others only if there may
be members that are not declared. -/
theorem admits_record_iff : Admits rules (published (.record fields)) document ↔
    ∃ members, document = .object members ∧ (∀ field ∈ fields, Given rules field members) ∧
      (rules.undeclared ∨ Declared (fields.map (·.1)) members) := by
  cases document with
  | object members =>
      have htype : OfType rules "object" (published (.record fields)) (.object members) := by
        simp [OfType, text?, Schema.members, canonical, Reader.text]
      rw [Admits, and_iff_right htype, complete_iff, admitsMembers_iff]
      constructor
      · rintro ⟨hcomplete, hmembers⟩
        refine ⟨members, rfl, fun field hfield => ?_, ?_⟩
        · refine given_iff.mpr ⟨hcomplete field hfield, fun document hmem => ?_⟩
          exact (hmembers _ hmem).1 _ (lookup_of_mem hdistinct hfield)
        · refine Classical.or_iff_not_imp_left.mpr fun hclosed member hmem => ?_
          exact Decidable.byContradiction fun hother =>
            hclosed ((hmembers member hmem).2 (lookup_eq_none_iff.mpr hother))
      · rintro ⟨_, ⟨⟩, hgiven, hclosed⟩
        refine ⟨fun field hfield => (given_iff.mp (hgiven field hfield)).1, fun member hmem => ?_⟩
        refine ⟨fun declared hlookup => ?_, fun hother => ?_⟩
        · obtain ⟨field, hfield, hname, rfl⟩ := (lookup_eq_some_iff hdistinct).mp hlookup
          exact (given_iff.mp (hgiven field hfield)).2 _ (hname ▸ hmem)
        · exact hclosed.resolve_right fun hall => lookup_eq_none_iff.mp hother (hall member hmem)
  | _ => simp [Admits, OfType, text?, Schema.members, canonical, Reader.text]

end Record

end Published

end OpenApi

end Reconciler
