import Reconciler.StringMap

/-!
# Maps of entries

A map holds for a key what was put in for it last, and it is the map of its own entries.
-/

namespace Reconciler

namespace StringMap

variable {α : Type}

theorem mem_entries_iff (map : StringMap α) (key : String) (value : α) :
    (key, value) ∈ map.entries ↔ map.get? key = some value := by
  unfold get?
  constructor
  · intro hmem
    obtain ⟨before, after, hentries⟩ := List.append_of_mem hmem
    refine List.lookup_eq_some_iff.mpr ⟨before, after, hentries, fun entry hbefore => ?_⟩
    have hsorted := map.sorted
    rw [hentries] at hsorted
    have hlt := (List.pairwise_append.mp hsorted).2.2 entry hbefore _ (List.mem_cons_self ..)
    simpa using fun heq : key = entry.1 => String.lt_irrefl _ (heq ▸ hlt)
  · intro hlookup
    obtain ⟨before, after, hentries, _⟩ := List.lookup_eq_some_iff.mp hlookup
    rw [hentries]
    exact List.mem_append_right _ (List.mem_cons_self ..)

theorem lookup_insertEntry_self (key : String) (value : α) (entries : List (String × α)) :
    (insertEntry key value entries).lookup key = some value := by
  induction entries with
  | nil => simp [insertEntry]
  | cons entry rest ih =>
      unfold insertEntry
      split
      · simp
      · split
        · next _ hlt =>
          have hne : (key == entry.1) = false := by
            simpa using fun heq : key = entry.1 => String.lt_irrefl _ (heq ▸ hlt)
          rw [List.lookup_cons, hne]
          exact ih
        · simp

@[simp]
theorem get?_insert_self (key : String) (value : α) (map : StringMap α) :
    (map.insert key value).get? key = some value :=
  lookup_insertEntry_self key value map.entries

theorem filter_insertEntry (key : String) (value : α) (entries : List (String × α)) :
    (insertEntry key value entries).filter (·.1 != key) = entries.filter (·.1 != key) := by
  induction entries with
  | nil => simp [insertEntry]
  | cons entry rest ih =>
      unfold insertEntry
      split
      · simp
      · split
        · simp [List.filter_cons, ih]
        · next hnotBelow hnotAbove =>
          have hsame : entry.1 = key :=
            String.le_antisymm (String.not_lt.mp hnotBelow) (String.not_lt.mp hnotAbove)
          simp [hsame]

theorem ext {left right : StringMap α} (hentries : left.entries = right.entries) :
    left = right := by
  cases left
  cases right
  cases hentries
  rfl

@[simp]
theorem erase_insert (key : String) (value : α) (map : StringMap α) :
    (map.insert key value).erase key = map.erase key :=
  ext (filter_insertEntry key value map.entries)

theorem get?_erase {key other : String} (hne : other ≠ key) (map : StringMap α) :
    (map.erase key).get? other = map.get? other := by
  apply Option.ext
  intro value
  rw [← mem_entries_iff, ← mem_entries_iff]
  simp [erase, hne]

theorem get?_insert_of_ne {key other : String} (hne : other ≠ key) (value : α)
    (map : StringMap α) : (map.insert key value).get? other = map.get? other := by
  rw [← get?_erase hne, erase_insert, get?_erase hne]

/-- Of all entries of a key the last one counts. -/
theorem get?_ofList (key : String) (entries : List (String × α)) :
    (ofList entries).get? key =
      (entries.filterMap fun entry => if entry.1 == key then some entry.2 else none).getLast? := by
  suffices hgo : ∀ start : StringMap α,
      (entries.foldl (fun map entry => map.insert entry.1 entry.2) start).get? key =
        (entries.filterMap fun entry =>
          if entry.1 == key then some entry.2 else none).getLast?.or (start.get? key) by
    rw [ofList, hgo]
    exact Option.or_none
  induction entries with
  | nil => exact fun start => rfl
  | cons entry entries ih =>
      intro start
      rw [List.foldl_cons, ih, List.filterMap_cons]
      by_cases hkey : entry.1 = key
      · rw [← hkey, get?_insert_self, if_pos (beq_self_eq_true _), List.getLast?_cons]
        cases List.getLast? _ <;> rfl
      · rw [get?_insert_of_ne (Ne.symm hkey), if_neg (by simpa using hkey)]

/-- A map of entries has no others. -/
theorem mem_of_mem_ofList {entry : String × α} {entries : List (String × α)}
    (hmem : entry ∈ (ofList entries).entries) : entry ∈ entries := by
  have hget := (mem_entries_iff _ entry.1 entry.2).mp hmem
  rw [get?_ofList] at hget
  obtain ⟨found, hfound, hsame⟩ := List.mem_filterMap.mp (List.mem_of_getLast? hget)
  obtain ⟨hkey, hvalue⟩ := Option.ite_none_right_eq_some.mp hsame
  obtain rfl : found = entry := Prod.ext (eq_of_beq hkey) (Option.some.inj hvalue)
  exact hfound

/-- A key beyond all others comes last. -/
theorem insertEntry_of_forall_lt {key : String} (value : α) {entries : List (String × α)}
    (hbelow : ∀ entry ∈ entries, entry.1 < key) :
    insertEntry key value entries = entries ++ [(key, value)] := by
  induction entries with
  | nil => rfl
  | cons entry entries ih =>
      obtain ⟨hentry, hentries⟩ := List.forall_mem_cons.mp hbelow
      rw [insertEntry, if_neg (String.lt_asymm hentry), if_pos hentry, ih hentries,
        List.cons_append]

/-- A map is the map of its entries. -/
theorem ofList_entries (map : StringMap α) : ofList map.entries = map := by
  suffices hgo : ∀ (entries : List (String × α)) (start : StringMap α),
      ((start.entries ++ entries).Pairwise fun left right => left.1 < right.1) →
        (entries.foldl (fun map entry => map.insert entry.1 entry.2) start).entries =
          start.entries ++ entries by
    have hentries : (ofList map.entries).entries = map.entries := hgo _ empty map.sorted
    generalize ofList map.entries = other at hentries
    cases map
    cases other
    cases hentries
    rfl
  intro entries
  induction entries with
  | nil => simp
  | cons entry entries ih =>
      intro start hsorted
      have hbelow : ∀ early ∈ start.entries, early.1 < entry.1 := fun early hearly =>
        (List.pairwise_append.mp hsorted).2.2 early hearly entry List.mem_cons_self
      have hinsert : (start.insert entry.1 entry.2).entries = start.entries ++ [entry] :=
        insertEntry_of_forall_lt entry.2 hbelow
      rw [List.foldl_cons, ih _ (by rwa [hinsert, List.append_assoc, List.singleton_append]),
        hinsert, List.append_assoc, List.singleton_append]

end StringMap

end Reconciler
