/-!
# Maps with text keys

A map is the list of its entries in the order of their keys, each key once, so that equal maps are
equal lists.
-/

namespace Reconciler

/-- Entries in strictly increasing order of their keys. -/
structure StringMap (α : Type) where
  entries : List (String × α)
  sorted : entries.Pairwise fun left right => left.1 < right.1

namespace StringMap

variable {α : Type}

instance [DecidableEq α] : DecidableEq (StringMap α) := fun left right =>
  if h : left.entries = right.entries then
    isTrue (by cases left; cases right; cases h; rfl)
  else isFalse fun equal => h (congrArg entries equal)

instance : Inhabited (StringMap α) := ⟨[], .nil⟩

def empty : StringMap α := ⟨[], .nil⟩

instance : EmptyCollection (StringMap α) := ⟨empty⟩

/-- The value of a key. -/
def get? (key : String) (map : StringMap α) : Option α := map.entries.lookup key

def contains (key : String) (map : StringMap α) : Bool := (map.get? key).isSome

/-- Puts an entry in its place in a sorted list, over any entry of the same key. -/
def insertEntry (key : String) (value : α) : List (String × α) → List (String × α)
  | [] => [(key, value)]
  | entry :: rest =>
    if key < entry.1 then (key, value) :: entry :: rest
    else if entry.1 < key then entry :: insertEntry key value rest
    else (key, value) :: rest

theorem lt_of_mem_insertEntry {bound key : String} {value : α} :
    ∀ {entries : List (String × α)}, bound < key → (∀ entry ∈ entries, bound < entry.1) →
      ∀ entry ∈ insertEntry key value entries, bound < entry.1
  | [], below, _ => by simpa [insertEntry] using below
  | first :: rest, below, all => by
    have restBelow := fun entry member => all entry (List.mem_cons_of_mem _ member)
    unfold insertEntry
    split
    · intro entry member
      rcases List.mem_cons.mp member with rfl | member
      · exact below
      · exact all entry member
    split
    · intro entry member
      rcases List.mem_cons.mp member with rfl | member
      · exact all _ (List.mem_cons_self ..)
      · exact lt_of_mem_insertEntry below restBelow entry member
    · intro entry member
      rcases List.mem_cons.mp member with rfl | member
      · exact below
      · exact restBelow entry member

theorem pairwise_insertEntry {key : String} {value : α} :
    ∀ {entries : List (String × α)}, (entries.Pairwise fun left right => left.1 < right.1) →
      (insertEntry key value entries).Pairwise fun left right => left.1 < right.1
  | [], _ => by simp [insertEntry]
  | first :: rest, sorted => by
    obtain ⟨firstBelow, restSorted⟩ := List.pairwise_cons.mp sorted
    unfold insertEntry
    split
    · next below =>
      refine List.pairwise_cons.mpr ⟨?_, sorted⟩
      intro entry member
      rcases List.mem_cons.mp member with rfl | member
      · exact below
      · exact String.lt_trans below (firstBelow entry member)
    split
    · next above =>
      exact List.pairwise_cons.mpr
        ⟨lt_of_mem_insertEntry above firstBelow, pairwise_insertEntry restSorted⟩
    · next notBelow notAbove =>
      have same : key = first.1 :=
        String.le_antisymm (String.not_lt.mp notAbove) (String.not_lt.mp notBelow)
      refine List.pairwise_cons.mpr ⟨?_, restSorted⟩
      intro entry member
      exact same ▸ firstBelow entry member

/-- Sets the value of a key. -/
def insert (key : String) (value : α) (map : StringMap α) : StringMap α :=
  ⟨insertEntry key value map.entries, pairwise_insertEntry map.sorted⟩

/-- Removes a key. -/
def erase (key : String) (map : StringMap α) : StringMap α :=
  ⟨map.entries.filter (·.1 != key), map.sorted.filter _⟩

/-- The map of a list of entries; of two entries with one key the later one counts. -/
def ofList (entries : List (String × α)) : StringMap α :=
  entries.foldl (fun map entry => map.insert entry.1 entry.2) empty

end StringMap

end Reconciler
