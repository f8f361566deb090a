import Reconciler.Condition

/-!
# Conditions at rest

Sorting conditions keeps the order of those of one type.  A condition that has been recorded is
therefore found again as it is, and to record it once more, at whatever time, changes nothing.
-/

namespace Reconciler

namespace Condition

theorem precedes_total (left right : Condition) : precedes left right || precedes right left := by
  unfold precedes
  by_cases hleft : left.type = readyType <;> by_cases hright : right.type = readyType
  · simp [hleft]
  · simp [hleft]
  · simp [hright]
  · simpa [hleft, hright] using String.le_total left.type right.type

theorem precedes_trans (first second third : Condition) (hfirst : precedes first second)
    (hsecond : precedes second third) : precedes first third := by
  unfold precedes at *
  by_cases hone : first.type = readyType
  · simp [hone]
  · by_cases htwo : second.type = readyType
    · simp [hone, htwo] at hfirst
    · by_cases hthree : third.type = readyType
      · simp [htwo, hthree] at hsecond
      · simp only [hone, htwo, hthree, if_false, decide_eq_true_eq] at *
        exact String.le_trans hfirst hsecond

theorem precedes_of_type_eq {left right : Condition} (htype : left.type = right.type) :
    precedes left right := by
  unfold precedes
  split
  · rfl
  · next hother =>
    rw [htype] at hother
    simp [hother, htype]

/-- Since when a condition has had its status, if it comes after an earlier one of its type. -/
def since (earlier : Option Condition) (condition : Condition) : Time.Instant :=
  match earlier with
  | some earlier =>
    if earlier.status == condition.status then earlier.lastTransitionTime
    else condition.lastTransitionTime
  | none => condition.lastTransitionTime

theorem sameState_trans {first second third : Condition} (hfirst : first.sameState second)
    (hsecond : second.sameState third) : first.sameState third := by
  simp only [sameState, Bool.and_eq_true, beq_iff_eq] at *
  simp [hfirst, hsecond]

end Condition

namespace Conditions

open Condition

variable {conditions : Conditions}

/-- Sorting leaves the conditions of one type in their order. -/
theorem filter_mergeSort (type : String) :
    (conditions.mergeSort precedes).filter (·.type == type) =
      conditions.filter (·.type == type) := by
  have hordered : (conditions.filter (·.type == type)).Pairwise (precedes · ·) :=
    List.pairwise_of_forall_mem_list fun left hleft right hright => by
      have hsame : left.type = right.type := by
        simp only [List.mem_filter, beq_iff_eq] at hleft hright
        rw [hleft.2, hright.2]
      exact precedes_of_type_eq hsame
  have hsublist := (List.sublist_mergeSort precedes_trans precedes_total hordered
    List.filter_sublist).filter (·.type == type)
  rw [List.filter_filter] at hsublist
  simp only [Bool.and_self] at hsublist
  have hlength := ((List.mergeSort_perm conditions precedes).filter (·.type == type)).length_eq
  exact (hsublist.eq_of_length hlength.symm).symm

theorem get?_mergeSort (type : String) :
    get? type (conditions.mergeSort precedes) = get? type conditions := by
  unfold get?
  rw [← List.head?_filter, filter_mergeSort, List.head?_filter]

theorem get?_replaceFirst (condition : Condition)
    (hthere : (get? condition.type conditions).isSome) :
    get? condition.type (replaceFirst condition conditions) = some condition := by
  induction conditions with
  | nil => simp [get?] at hthere
  | cons head rest ih =>
      unfold replaceFirst
      by_cases hsame : head.type = condition.type
      · simp [get?, hsame]
      · have hrest : (get? condition.type rest).isSome := by
          simpa [get?, hsame] using hthere
        simpa [get?, hsame] using ih hrest

/-- A condition that has been recorded is there, perhaps since an earlier time. -/
theorem get?_set_self (condition : Condition) (conditions : Conditions) :
    get? condition.type (conditions.set condition) = some
      { condition with
        lastTransitionTime := condition.since (get? condition.type conditions) } := by
  unfold set since
  rcases hfound : get? condition.type conditions with _ | found
  · dsimp only
    rw [get?_mergeSort, get?, List.find?_append]
    simp only [get?] at hfound
    simp [hfound]
  · dsimp only
    by_cases hsame : found.sameState condition
    · rw [if_pos hsame, hfound]
      simp only [sameState, Bool.and_eq_true, beq_iff_eq] at hsame
      obtain ⟨⟨⟨⟨htype, hstatus⟩, hseverity⟩, hreason⟩, hmessage⟩ := hsame
      simp [← htype, ← hstatus, ← hseverity, ← hreason, ← hmessage]
    · rw [if_neg hsame, get?_mergeSort]
      have hthere : (get? condition.type conditions).isSome := by rw [hfound]; rfl
      generalize (if found.status == condition.status then found.lastTransitionTime
        else condition.lastTransitionTime) = time
      exact get?_replaceFirst { condition with lastTransitionTime := time } hthere

theorem get?_set (condition : Condition) (conditions : Conditions) :
    ∃ found, get? condition.type (conditions.set condition) = some found ∧
      found.sameState condition :=
  ⟨_, get?_set_self condition conditions, by simp [sameState]⟩

/-- A condition that has been recorded holds if it says so. -/
theorem holds_set (condition : Condition) (conditions : Conditions) :
    holds condition.type (conditions.set condition) = (condition.status == .isTrue) := by
  obtain ⟨found, hfound, hstate⟩ := get?_set condition conditions
  have hstatus : found.status = condition.status := by
    simp only [sameState, Bool.and_eq_true, beq_iff_eq] at hstate
    simp [hstate]
  simp only [holds, hfound, hstatus]

@[simp]
theorem holds_markTrue (type : String) (now : Time.Instant) (conditions : Conditions) :
    holds type (conditions.markTrue type now) = true :=
  holds_set (observed type .isTrue none none none now) conditions

@[simp]
theorem holds_markFalse (type reason : String) (severity : ConditionSeverity) (message : String)
    (now : Time.Instant) (conditions : Conditions) :
    holds type (conditions.markFalse type reason severity message now) = false :=
  holds_set (observed type .isFalse severity reason message now) conditions

@[simp]
theorem holds_markUnknown (type reason message : String) (now : Time.Instant)
    (conditions : Conditions) :
    holds type (conditions.markUnknown type reason message now) = false :=
  holds_set (observed type .unknown none reason message now) conditions

theorem get?_replaceFirst_of_ne {type : String} {condition : Condition}
    (hother : condition.type ≠ type) :
    get? type (replaceFirst condition conditions) = get? type conditions := by
  induction conditions with
  | nil => rfl
  | cons head rest ih =>
      unfold replaceFirst
      by_cases hsame : head.type = condition.type
      · simp [get?, hsame, hother]
      · rw [if_neg (by simpa using hsame)]
        by_cases htype : head.type = type
        · simp [get?, htype]
        · simpa [get?, htype] using ih

/-- Conditions of other types are left alone. -/
theorem get?_set_of_ne {type : String} {condition : Condition} (hother : condition.type ≠ type)
    (conditions : Conditions) : get? type (conditions.set condition) = get? type conditions := by
  unfold set
  rcases get? condition.type conditions with _ | found
  · dsimp only
    rw [get?_mergeSort, get?, List.find?_append]
    simp [get?, hother]
  · dsimp only
    split
    · rfl
    · rw [get?_mergeSort]
      exact get?_replaceFirst_of_ne (by simpa using hother)

theorem holds_set_of_ne {type : String} {condition : Condition} (hother : condition.type ≠ type)
    (conditions : Conditions) :
    holds type (conditions.set condition) = holds type conditions := by
  simp only [holds, get?_set_of_ne hother]

theorem holds_markTrue_of_ne {type other : String} (hother : other ≠ type) (now : Time.Instant)
    (conditions : Conditions) :
    holds type (conditions.markTrue other now) = holds type conditions :=
  holds_set_of_ne hother conditions

theorem holds_markFalse_of_ne {type other : String} (hother : other ≠ type) (reason : String)
    (severity : ConditionSeverity) (message : String) (now : Time.Instant)
    (conditions : Conditions) :
    holds type (conditions.markFalse other reason severity message now) = holds type conditions :=
  holds_set_of_ne hother conditions

/-- To record what is recorded already changes nothing. -/
theorem set_set {earlier later : Condition} (hsame : earlier.sameState later)
    (conditions : Conditions) : (conditions.set earlier).set later = conditions.set earlier := by
  obtain ⟨found, hfound, hstate⟩ := get?_set earlier conditions
  have htype : earlier.type = later.type := by
    simp only [sameState, Bool.and_eq_true, beq_iff_eq] at hsame
    simp [hsame]
  rw [set, ← htype, hfound]
  exact if_pos (sameState_trans hstate hsame)

theorem markTrue_markTrue (type : String) (earlier later : Time.Instant) (conditions : Conditions) :
    (conditions.markTrue type earlier).markTrue type later = conditions.markTrue type earlier :=
  set_set (by simp [sameState, observed]) conditions

theorem markFalse_markFalse (type reason : String) (severity : ConditionSeverity)
    (message : String) (earlier later : Time.Instant) (conditions : Conditions) :
    (conditions.markFalse type reason severity message earlier).markFalse type reason severity
        message later = conditions.markFalse type reason severity message earlier :=
  set_set (by simp [sameState, observed]) conditions

theorem markUnknown_markUnknown (type reason message : String) (earlier later : Time.Instant)
    (conditions : Conditions) :
    (conditions.markUnknown type reason message earlier).markUnknown type reason message later =
      conditions.markUnknown type reason message earlier :=
  set_set (by simp [sameState, observed]) conditions

end Conditions

end Reconciler
