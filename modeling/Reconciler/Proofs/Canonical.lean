import Reconciler.Json.Canonical
import Reconciler.Json.Limits
import Reconciler.Proofs.Maps
import Reconciler.Proofs.Readers

/-!
# Canonical documents

The canonical form of a document is a normal form: it is its own canonical form, and stands for a
name for what the document has last.  A document within limits stays there.
-/

namespace Reconciler.Json

theorem canonicalMembers_eq (members : List (String × Json)) :
    canonicalMembers members = members.map fun member => (member.1, canonical member.2) := by
  induction members with
  | nil => rfl
  | cons member members ih => rw [canonicalMembers, ih, List.map_cons]

theorem canonicalItems_eq (items : List Json) : canonicalItems items = items.map canonical := by
  induction items with
  | nil => rfl
  | cons item items ih => rw [canonicalItems, ih, List.map_cons]

theorem named_map (name : String) (change : Json → Json) (members : List (String × Json)) :
    named name (members.map fun member => (member.1, change member.2)) =
      (named name members).map change := by
  induction members with
  | nil => rfl
  | cons member members ih =>
      rw [List.map_cons, named_cons, named_cons, ih]
      split <;> rfl

/-- Of several members of a name the canonical form has the last one. -/
theorem member?_canonical (name : String) (members : List (String × Json)) :
    (canonical (.object members)).member? name = (named name members).getLast?.map canonical := by
  have hget := StringMap.get?_ofList name (canonicalMembers members)
  rw [canonicalMembers_eq] at hget
  change (StringMap.ofList (canonicalMembers members)).get? name = _
  rw [canonicalMembers_eq, hget, ← List.getLast?_map, ← named_map]
  rfl

/-! ## The normal form -/

/-- Sorted members whose values are in canonical form stay as they are. -/
theorem canonical_entries {map : StringMap Json}
    (hvalues : ∀ member ∈ map.entries, canonical member.2 = member.2) :
    canonical (.object map.entries) = .object map.entries := by
  have hmembers : canonicalMembers map.entries = map.entries := by
    rw [canonicalMembers_eq, List.map_congr_left fun member hmem => by rw [hvalues member hmem]]
    exact List.map_id _
  rw [canonical, hmembers, StringMap.ofList_entries]

mutual

theorem canonical_canonical : ∀ document : Json, document.canonical.canonical = document.canonical
  | .array items => by
    rw [canonical, canonical, canonicalItems_canonicalItems items]
  | .object members => by
    rw [canonical]
    exact canonical_entries fun member hmem =>
      canonical_of_mem_canonicalMembers members member (StringMap.mem_of_mem_ofList hmem)
  | .null | .bool _ | .integer _ | .decimal .. | .string _ | .illFormed => rfl

theorem canonicalItems_canonicalItems : ∀ items : List Json,
    canonicalItems (canonicalItems items) = canonicalItems items
  | [] => rfl
  | item :: items => by
    rw [canonicalItems, canonicalItems, canonical_canonical item,
      canonicalItems_canonicalItems items]

theorem canonical_of_mem_canonicalMembers : ∀ members : List (String × Json),
    ∀ member ∈ canonicalMembers members, canonical member.2 = member.2
  | [] => List.forall_mem_nil _
  | (_, value) :: members => List.forall_mem_cons.mpr
    ⟨canonical_canonical value, canonical_of_mem_canonicalMembers members⟩

end

/-! ## Limits -/

theorem membersWithinLimits_iff {depth : Nat} {members : List (String × Json)} :
    membersWithinLimits depth members = true ↔
      ∀ member ∈ members, member.2.withinLimits depth = true := by
  induction members with
  | nil => simp [membersWithinLimits]
  | cons member members ih => simp [membersWithinLimits, ih]

mutual

theorem withinLimits_canonical : ∀ (depth : Nat) (document : Json),
    document.withinLimits depth = true → document.canonical.withinLimits depth = true
  | depth + 1, .array items, hlimits => itemsWithinLimits_canonicalItems depth items hlimits
  | depth + 1, .object members, hlimits => by
    refine membersWithinLimits_iff.mpr fun member hmem => ?_
    exact membersWithinLimits_iff.mp (membersWithinLimits_canonicalMembers depth members hlimits)
      member (StringMap.mem_of_mem_ofList hmem)
  | _, .null, _ | _, .bool _, _ | _, .integer _, _ | _, .string _, _ => rfl
  | _, .decimal .., hlimits => hlimits

theorem itemsWithinLimits_canonicalItems : ∀ (depth : Nat) (items : List Json),
    itemsWithinLimits depth items = true → itemsWithinLimits depth (canonicalItems items) = true
  | _, [], _ => rfl
  | depth, item :: items, hlimits => by
    obtain ⟨hitem, hitems⟩ := Bool.and_eq_true_iff.mp hlimits
    exact Bool.and_eq_true_iff.mpr ⟨withinLimits_canonical depth item hitem,
      itemsWithinLimits_canonicalItems depth items hitems⟩

theorem membersWithinLimits_canonicalMembers : ∀ (depth : Nat) (members : List (String × Json)),
    membersWithinLimits depth members = true →
      membersWithinLimits depth (canonicalMembers members) = true
  | _, [], _ => rfl
  | depth, (_, value) :: members, hlimits => by
    obtain ⟨hvalue, hmembers⟩ := Bool.and_eq_true_iff.mp hlimits
    exact Bool.and_eq_true_iff.mpr ⟨withinLimits_canonical depth value hvalue,
      membersWithinLimits_canonicalMembers depth members hmembers⟩

end

end Reconciler.Json
