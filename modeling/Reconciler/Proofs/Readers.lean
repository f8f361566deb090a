import Reconciler.Json.Reader

/-!
# What readers read

A reader takes a value off the front of its source, or refuses.  Three statements go through readers
step by step: what is read from a given source, that something is read from it, and what holds of
everything that is read at all.
-/

namespace Reconciler

section

variable {σ α β : Type}

/-- From this source the reader takes a value and leaves the rest. -/
def Scans (reader : StateT σ Option α) (source : σ) (value : α) (rest : σ) : Prop :=
  reader source = some (value, rest)

/-- Something is read from the source, which stays as it is. -/
def Accepts (reader : StateT σ Option α) (source : σ) : Prop :=
  ∃ value, Scans reader source value source

/-- Whatever is read satisfies the statement. -/
def Gives (holds : α → Prop) (reader : StateT σ Option α) : Prop :=
  ∀ source value rest, reader source = some (value, rest) → holds value

section Scans

variable {source middle rest : σ}

theorem Scans.bind {first : StateT σ Option α} {next : α → StateT σ Option β} {value : α} {last : β}
    (hfirst : Scans first source value middle) (hnext : Scans (next value) middle last rest) :
    Scans (first >>= next) source last rest := by
  change (first source >>= fun pair => next pair.1 pair.2) = _
  rw [hfirst]
  exact hnext

theorem scans_pure (value : α) (rest : σ) :
    Scans (pure value : StateT σ Option α) rest value rest := rfl

theorem scans_get (rest : σ) : Scans (get : StateT σ Option σ) rest rest rest := rfl

theorem scans_lift {read : Option α} {value : α} (hread : read = some value) (rest : σ) :
    Scans (StateT.lift read : StateT σ Option α) rest value rest := by
  rw [hread]
  rfl

theorem scans_set (source rest : σ) : Scans (set rest : StateT σ Option PUnit) source ⟨⟩ rest := rfl

end Scans

section Accepts

variable {source : σ}

theorem Accepts.bind {first : StateT σ Option α} {next : α → StateT σ Option β}
    (hfirst : Accepts first source) (hnext : ∀ value, Accepts (next value) source) :
    Accepts (first >>= next) source := by
  obtain ⟨value, hvalue⟩ := hfirst
  obtain ⟨last, hlast⟩ := hnext value
  exact ⟨last, hvalue.bind hlast⟩

theorem accepts_pure (value : α) (source : σ) : Accepts (pure value : StateT σ Option α) source :=
  ⟨value, scans_pure value source⟩

end Accepts

section Gives

variable {holds : α → Prop} {more : β → Prop}

theorem Gives.bind {first : StateT σ Option α} {next : α → StateT σ Option β}
    (hfirst : Gives holds first) (hnext : ∀ value, holds value → Gives more (next value)) :
    Gives more (first >>= next) := by
  intro source value rest hread
  obtain ⟨⟨before, middle⟩, hbefore, hafter⟩ := Option.bind_eq_some_iff.mp hread
  exact hnext before (hfirst _ _ _ hbefore) _ _ _ hafter

/-- What is read first may not matter. -/
theorem Gives.after {next : α → StateT σ Option β} (hnext : ∀ value, Gives more (next value))
    (first : StateT σ Option α) : Gives more (first >>= next) := by
  have hfirst : Gives (fun _ => True) first := fun _ _ _ _ => trivial
  exact hfirst.bind fun value _ => hnext value

end Gives

/-- What is read of a list is read of its items. -/
theorem mem_of_mapM {read : α → Option β} {documents : List α} {items : List β}
    (hread : documents.mapM read = some items) {item : β} (hitem : item ∈ items) :
    ∃ document ∈ documents, read document = some item := by
  induction documents generalizing items with
  | nil =>
      obtain rfl : [] = items := Option.some.inj hread
      simp at hitem
  | cons document documents ih =>
      rw [List.mapM_cons] at hread
      obtain ⟨first, hfirst, hlater⟩ := Option.bind_eq_some_iff.mp hread
      obtain ⟨rest, hrest, hsame⟩ := Option.bind_eq_some_iff.mp hlater
      obtain rfl := Option.some.inj hsame
      rcases List.mem_cons.mp hitem with rfl | hitem
      · exact ⟨document, List.mem_cons_self, hfirst⟩
      · obtain ⟨found, hmem, hfound⟩ := ih hrest hitem
        exact ⟨found, List.mem_cons_of_mem _ hmem, hfound⟩

/-- A list is read item by item. -/
theorem mapM_eq_some_map {read : α → Option β} {stored : α → β} {items : List α}
    (hread : ∀ item ∈ items, read item = some (stored item)) :
    items.mapM read = some (items.map stored) := by
  induction items with
  | nil => rfl
  | cons item items ih =>
      rw [List.mapM_cons, hread item List.mem_cons_self,
        ih fun item hitem => hread item (List.mem_cons_of_mem _ hitem)]
      rfl

/-- A list whose items are read as they are is read as it is. -/
theorem mapM_eq_some {read : α → Option α} {items : List α}
    (hread : ∀ item ∈ items, read item = some item) : items.mapM read = some items := by
  have hmap : items.mapM read = some (items.map id) := mapM_eq_some_map hread
  rwa [List.map_id] at hmap

/-- A list is read if its items are. -/
theorem exists_mapM {read : α → Option β} {documents : List α}
    (hread : ∀ document ∈ documents, ∃ value, read document = some value) :
    ∃ values, documents.mapM read = some values := by
  induction documents with
  | nil => exact ⟨[], rfl⟩
  | cons document documents ih =>
      obtain ⟨⟨value, hvalue⟩, hrest⟩ := List.forall_mem_cons.mp hread
      obtain ⟨values, hvalues⟩ := ih hrest
      refine ⟨value :: values, ?_⟩
      rw [List.mapM_cons, hvalue, hvalues]
      rfl

end

namespace Json

@[simp]
theorem named_append (name : String) (front back : List (String × Json)) :
    named name (front ++ back) = named name front ++ named name back :=
  List.filterMap_append ..

@[simp]
theorem named_nil (name : String) : named name [] = [] := rfl

@[simp]
theorem named_cons (name : String) (member : String × Json) (rest : List (String × Json)) :
    named name (member :: rest) =
      if member.1 == name then member.2 :: named name rest else named name rest := by
  rw [named, List.filterMap_cons]
  split <;> simp_all [named]

@[simp]
theorem named_optional {α : Type} (name other : String) (write : α → Json) (value : Option α) :
    named name (Json.optional other write value) =
      if other == name then (value.map write).toList else [] := by
  rcases value with _ | known
  · split <;> rfl
  · exact named_cons name (other, write known) []

namespace FieldReader

variable {α : Type} {read : Reader α} {name : String} {members : List (String × Json)}
variable {value : α} {document : Json}

/-- A member that stands at most once is taken. -/
theorem scans_take {found : Option Json} (hnamed : named name members = found.toList) :
    Scans (take name) (.named members) found (.named members) := by
  rw [Scans, take, hnamed]
  cases found <;> rfl

/-- A field that is there is read. -/
theorem scans_required (hnamed : named name members = [document])
    (hread : read document = some value) :
    Scans (required name read) (.named members) value (.named members) := by
  have htake : Scans (take name) (.named members) (some document) (.named members) :=
    scans_take hnamed
  exact htake.bind (scans_lift hread _)

theorem scans_defaulted (hnamed : named name members = [document])
    (hread : read document = some value) (default : α) :
    Scans (defaulted name default read) (.named members) value (.named members) := by
  have htake : Scans (take name) (.named members) (some document) (.named members) :=
    scans_take hnamed
  exact htake.bind (scans_lift hread _)

/-- A field that is absent has the value for its absence. -/
theorem scans_absent (hnamed : named name members = []) (default : α) :
    Scans (defaulted name default read) (.named members) default (.named members) := by
  have htake : Scans (take name) (.named members) none (.named members) := scans_take hnamed
  exact htake.bind (scans_pure default _)

theorem nullable_of_ne_null (hnull : document ≠ .null) :
    Reader.nullable read document = (read document).map some := by
  cases document with
  | null => exact absurd rfl hnull
  | _ => rfl

/-- A value that is not written as `null` may stand where `null` may. -/
theorem nullable_write {write : α → Json} {stored : α → α} {known : α}
    (hread : write known ≠ .null ∧ read (write known) = some (stored known)) :
    Reader.nullable read (write known) = some (some (stored known)) := by
  rw [nullable_of_ne_null hread.1, hread.2]
  rfl

/-- A field that was written where there is a value is read as what is stored of it. -/
theorem scans_optional {write : α → Json} {stored : α → α} {value : Option α}
    (hnamed : named name members = (value.map write).toList)
    (hread : ∀ known ∈ value, write known ≠ .null ∧ read (write known) = some (stored known)) :
    Scans (optional name read) (.named members) (value.map stored) (.named members) := by
  rcases value with _ | known
  · exact scans_absent hnamed none
  · exact scans_defaulted hnamed (nullable_write (hread known rfl)) none

/-- So is a field of which the last value counts. -/
theorem scans_latest {write : α → Json} {stored : α → α} {value : Option α}
    (hnamed : named name members = (value.map write).toList)
    (hread : ∀ known ∈ value, write known ≠ .null ∧ read (write known) = some (stored known)) :
    Scans (latest name read) (.named members) (value.map stored) (.named members) := by
  have hvalues : Scans (values name) (.named members) (value.map write).toList
      (.named members) := by
    rw [Scans, values, hnamed]
  rcases value with _ | known
  · exact hvalues.bind (scans_pure none _)
  · have hfound : [write known].mapM (Reader.nullable read) = some [some (stored known)] := by
      rw [List.mapM_cons, nullable_write (hread known rfl)]
      rfl
    exact hvalues.bind ((scans_lift hfound _).bind (scans_pure _ _))

theorem record_of_scans {fields : FieldReader α}
    (hscans : Scans fields (.named members) value (.named members)) :
    record fields (.object members) = some value := by
  rw [record, hscans]
  rfl

theorem exists_record_of_accepts {fields : FieldReader α}
    (haccepts : Accepts fields (.named members)) :
    ∃ value, record fields (.object members) = some value :=
  haccepts.imp fun _ => record_of_scans

section Gives

variable {holds : α → Prop} (hread : ∀ document value, read document = some value → holds value)
include hread

theorem holds_of_list (document : Json) (items : List α)
    (hfound : Reader.list read document = some items) : ∀ item ∈ items, holds item := by
  unfold Reader.list at hfound
  split at hfound
  · intro item hitem
    obtain ⟨document, -, hdocument⟩ := mem_of_mapM hfound hitem
    exact hread _ _ hdocument
  · simp at hfound

end Gives

end FieldReader

end Json

end Reconciler
