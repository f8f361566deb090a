import Mathlib.Data.List.DropRight
import Mathlib.Data.List.Sort
import Reconciler.Proofs.Conditions

/-!
# Conditions and their history

Conditions are set one after the other, each at a time of its own.  The list that comes of it is an
exact account of this history: for each type it has what was said last, since the time from which on
the status has been the same.
-/

namespace Reconciler

open Time Condition

/-- Something that is said of an object, at whatever time. -/
inductive Remark where
  | set (type : String) (status : ConditionStatus) (severity : Option ConditionSeverity)
      (reason message : Option String)
  | markTrue (type : String)
  | markFalse (type reason : String) (severity : ConditionSeverity) (message : String)
  | markUnknown (type reason message : String)

namespace Remark

def type : Remark → String
  | set type .. => type
  | markTrue type => type
  | markFalse type .. => type
  | markUnknown type .. => type

/-- Makes the remark at a time. -/
def apply (time : Instant) (conditions : Conditions) : Remark → Conditions
  | set type status severity reason message =>
    conditions.set ⟨type, status, severity, reason, message, time⟩
  | markTrue type => conditions.markTrue type time
  | markFalse type reason severity message =>
    conditions.markFalse type reason severity message time
  | markUnknown type reason message => conditions.markUnknown type reason message time

/-- What the remark says.  An empty message of a mark says nothing. -/
def condition (time : Instant) : Remark → Condition
  | set type status severity reason message => ⟨type, status, severity, reason, message, time⟩
  | markTrue type => ⟨type, .isTrue, none, none, none, time⟩
  | markFalse type reason severity message =>
    ⟨type, .isFalse, some severity, some reason, if message = "" then none else some message, time⟩
  | markUnknown type reason message =>
    ⟨type, .unknown, none, some reason, if message = "" then none else some message, time⟩

@[simp]
theorem type_condition (time : Instant) (remark : Remark) :
    (remark.condition time).type = remark.type := by
  cases remark <;> rfl

theorem filter_message (message : String) :
    (some message).filter (!·.isEmpty) = if message = "" then none else some message := by
  by_cases hempty : message = "" <;> simp [Option.filter, hempty]

theorem apply_eq_set (time : Instant) (conditions : Conditions) (remark : Remark) :
    remark.apply time conditions = conditions.set (remark.condition time) := by
  cases remark with
  | set => rfl
  | markTrue => rfl
  | markFalse => simp [apply, condition, Conditions.markFalse, observed, filter_message]
  | markUnknown => simp [apply, condition, Conditions.markUnknown, observed, filter_message]

/-- The same remark at two times says the same. -/
theorem sameState_condition (earlier later : Instant) (remark : Remark) :
    (remark.condition earlier).sameState (remark.condition later) = true := by
  cases remark <;> simp [condition, sameState]

end Remark

/-- A remark and the time at which it is made. -/
structure Conditions.Entry where
  remark : Remark
  time : Instant

namespace Conditions.Entry

def type (entry : Entry) : String := entry.remark.type

def condition (entry : Entry) : Condition := entry.remark.condition entry.time

@[simp]
theorem type_condition (entry : Entry) : entry.condition.type = entry.type :=
  Remark.type_condition entry.time entry.remark

end Conditions.Entry

/-- The order of conditions, in which no type comes twice. -/
def Condition.Before (left right : Condition) : Prop :=
  right.type ≠ readyType ∧ (left.type = readyType ∨ left.type < right.type)

/-- The condition says what was said last, and has its time from the first remark of the longest run
at the end in which the status is always the same. -/
structure Condition.Tells (condition : Condition) (history : List Condition) : Prop where
  state : ∃ last, history.getLast? = some last ∧ condition.sameState last = true
  since : ∃ first,
    (history.rtakeWhile (·.status == condition.status)).head? = some first ∧
      condition.lastTransitionTime = first.lastTransitionTime

namespace Condition

theorem before_of_precedes {left right : Condition} (hprecedes : precedes left right = true)
    (hother : left.type ≠ right.type) : left.Before right := by
  unfold precedes at hprecedes
  split at hprecedes
  · next hready => exact ⟨fun hright => hother (hready.trans hright.symm), .inl hready⟩
  · split at hprecedes
    · simp at hprecedes
    · next hright =>
        refine ⟨hright, .inr (Decidable.of_not_not fun hmore => hother ?_)⟩
        exact String.le_antisymm (by simpa using hprecedes) (String.not_lt.mp hmore)

theorem Before.type_ne {left right : Condition} (hbefore : left.Before right) :
    left.type ≠ right.type := by
  rintro hsame
  rcases hbefore with ⟨hright, hready | hless⟩
  · exact hright (hsame ▸ hready)
  · exact String.lt_irrefl _ (hsame ▸ hless)

instance : Std.Irrefl Before := ⟨fun _ hbefore => hbefore.type_ne rfl⟩

instance : Std.Antisymm Before where
  antisymm := by
    rintro left right ⟨hright, hready | hless⟩ ⟨hleft, hready' | hless'⟩
    · exact absurd hready hleft
    · exact absurd hready hleft
    · exact absurd hready' hright
    · exact absurd (String.lt_trans hless hless') (String.lt_irrefl _)

end Condition

namespace Conditions

variable {conditions : Conditions} {history : List Condition}

/-- The types are those of the list, in their order. -/
theorem types_replaceFirst (condition : Condition) (conditions : Conditions) :
    (replaceFirst condition conditions).map (·.type) = conditions.map (·.type) := by
  induction conditions with
  | nil => rfl
  | cons head rest ih =>
      unfold replaceFirst
      split
      · next hsame => simpa using (beq_iff_eq.mp hsame).symm
      · simp [ih]

theorem get?_eq_none_iff {type : String} :
    get? type conditions = none ↔ type ∉ conditions.map (·.type) := by
  simp [get?]

theorem nodup_types_set (condition : Condition) (hnodup : (conditions.map (·.type)).Nodup) :
    ((conditions.set condition).map (·.type)).Nodup := by
  have hsorted (conditions : Conditions) :
      ((conditions.mergeSort precedes).map (·.type)).Perm (conditions.map (·.type)) :=
    (List.mergeSort_perm conditions precedes).map _
  unfold set
  split
  · next hnone =>
    rw [(hsorted _).nodup_iff, List.map_append, List.nodup_append]
    refine ⟨hnodup, by simp, ?_⟩
    rintro type hmem _ hother rfl
    simp only [List.map_cons, List.map_nil, List.mem_singleton] at hother
    exact get?_eq_none_iff.mp hnone (hother ▸ hmem)
  · split
    · exact hnodup
    · rw [(hsorted _).nodup_iff, types_replaceFirst]
      exact hnodup

theorem precedes_set (condition : Condition) (hsorted : conditions.Pairwise (precedes · ·)) :
    (conditions.set condition).Pairwise (precedes · ·) := by
  unfold set
  split
  · exact List.pairwise_mergeSort precedes_trans precedes_total _
  · split
    · exact hsorted
    · exact List.pairwise_mergeSort precedes_trans precedes_total _

/-- Makes conditions out of what is said, one after the other. -/
def written (history : List Condition) : Conditions :=
  history.foldl (fun conditions condition => conditions.set condition) []

theorem written_concat (history : List Condition) (condition : Condition) :
    written (history ++ [condition]) = (written history).set condition := by
  simp [written]

theorem nodup_types_written (history : List Condition) :
    ((written history).map (·.type)).Nodup := by
  induction history using List.reverseRecOn with
  | nil => exact List.nodup_nil
  | append_singleton history condition ih =>
      rw [written_concat]
      exact nodup_types_set condition ih

theorem precedes_written (history : List Condition) :
    (written history).Pairwise (precedes · ·) := by
  induction history using List.reverseRecOn with
  | nil => exact .nil
  | append_singleton history condition ih =>
      rw [written_concat]
      exact precedes_set condition ih

theorem ordered_written (history : List Condition) : (written history).Pairwise Before :=
  (precedes_written history).imp₂ (fun _ _ => before_of_precedes)
    (List.pairwise_map.mp (nodup_types_written history))

/-- What a history of one type comes to. -/
def summary (history : List Condition) : Option Condition :=
  history.getLast?.map fun last =>
    { last with
      lastTransitionTime :=
        ((history.rtakeWhile (·.status == last.status)).head?.getD last).lastTransitionTime }

/-- A further remark keeps the time of the ones before it as long as the status stays. -/
theorem summary_concat (history : List Condition) (condition : Condition) :
    summary (history ++ [condition]) =
      some { condition with lastTransitionTime := condition.since (summary history) } := by
  simp only [summary, List.getLast?_concat, Option.map_some, List.rtakeWhile_concat,
    beq_self_eq_true, if_true, Option.some.injEq]
  rcases history.eq_nil_or_concat' with rfl | ⟨earlier, last, rfl⟩
  · rfl
  · by_cases hstatus : last.status = condition.status
    · simp [since, hstatus, List.rtakeWhile_concat_pos]
    · simp [since, hstatus, List.rtakeWhile_concat_neg]

/-- For each type the conditions have what its history comes to. -/
theorem get?_written (type : String) (history : List Condition) :
    get? type (written history) = summary (history.filter (·.type == type)) := by
  induction history using List.reverseRecOn with
  | nil => rfl
  | append_singleton history condition ih =>
      rw [written_concat, List.filter_append]
      by_cases hsame : condition.type = type
      · subst hsame
        rw [get?_set_self, ih]
        simpa using (summary_concat _ condition).symm
      · rw [get?_set_of_ne hsame, ih]
        simp [hsame]

theorem tells_of_summary {condition : Condition} (hsummary : summary history = some condition) :
    condition.Tells history := by
  obtain ⟨last, hlast, rfl⟩ := Option.map_eq_some_iff.mp hsummary
  refine ⟨⟨last, hlast, by simp [sameState]⟩, ?_⟩
  obtain ⟨earlier, rfl⟩ := List.getLast?_eq_some_iff.mp hlast
  simp

theorem get?_of_mem (hnodup : (conditions.map (·.type)).Nodup) {condition : Condition}
    (hmem : condition ∈ conditions) : get? condition.type conditions = some condition := by
  induction conditions with
  | nil => simp at hmem
  | cons head rest ih =>
      obtain ⟨hhead, hrest⟩ := List.nodup_cons.mp hnodup
      rcases List.mem_cons.mp hmem with rfl | hlater
      · simp [get?]
      · have hother : head.type ≠ condition.type := fun hsame =>
          hhead (List.mem_map.mpr ⟨condition, hlater, hsame.symm⟩)
        simpa [get?, hother] using ih hrest hlater

theorem mem_written_iff {condition : Condition} :
    condition ∈ written history ↔
      summary (history.filter (·.type == condition.type)) = some condition := by
  rw [← get?_written]
  exact ⟨get?_of_mem (nodup_types_written history), List.mem_of_find?_eq_some⟩

/-- Histories that say the same of each type lead to the same conditions, however what they say of
different types is ordered. -/
theorem written_congr {left right : List Condition}
    (hsame : ∀ type, left.filter (·.type == type) = right.filter (·.type == type)) :
    written left = written right :=
  (ordered_written left).eq_of_mem_iff (ordered_written right) fun condition => by
    rw [mem_written_iff, mem_written_iff, hsame]

/-- The conditions after a number of remarks, on an object that had none. -/
def recorded (history : List Entry) : Conditions :=
  history.foldl (fun conditions entry => entry.remark.apply entry.time conditions) []

theorem recorded_eq_written (history : List Entry) :
    recorded history = written (history.map (·.condition)) := by
  simp only [recorded, written, List.foldl_map, Remark.apply_eq_set]
  rfl

theorem filter_map_condition (type : String) (history : List Entry) :
    (history.map (·.condition)).filter (·.type == type) =
      (history.filter (·.type == type)).map (·.condition) := by
  rw [List.filter_map]
  congr 2
  funext entry
  simp

/-- The conditions are an exact account of a history. -/
structure Exact (history : List Entry) (conditions : Conditions) : Prop where
  once : (conditions.map (·.type)).Nodup
  ordered : conditions.Pairwise Before
  types : ∀ type, type ∈ conditions.map (·.type) ↔ type ∈ history.map (·.type)
  tells : ∀ condition ∈ conditions,
    condition.Tells ((history.filter (·.type == condition.type)).map (·.condition))

theorem mem_types_written_iff {type : String} :
    type ∈ (written history).map (·.type) ↔ type ∈ history.map (·.type) := by
  rw [← not_iff_not, ← get?_eq_none_iff, get?_written, summary, Option.map_eq_none_iff,
    List.getLast?_eq_none_iff, List.filter_eq_nil_iff]
  simp

theorem exact_recorded (history : List Entry) : Exact history (recorded history) := by
  rw [recorded_eq_written]
  refine ⟨nodup_types_written _, ordered_written _, fun type => ?_, fun condition hmem => ?_⟩
  · simp [mem_types_written_iff]
  · rw [← filter_map_condition]
    exact tells_of_summary (mem_written_iff.mp hmem)

/-- What is said of different types may be said in any order. -/
theorem recorded_congr {left right : List Entry}
    (hsame : ∀ type, left.filter (·.type == type) = right.filter (·.type == type)) :
    recorded left = recorded right := by
  rw [recorded_eq_written, recorded_eq_written]
  apply written_congr
  intro type
  rw [filter_map_condition, filter_map_condition, hsame]

/-- To make a remark again, whenever that is, changes nothing. -/
theorem recorded_again (before after : List Entry) (entry : Entry) (later : Instant) :
    recorded (before ++ entry :: { entry with time := later } :: after) =
      recorded (before ++ entry :: after) := by
  simp only [recorded, List.foldl_append, List.foldl_cons, Remark.apply_eq_set]
  rw [set_set (Remark.sameState_condition entry.time later entry.remark)]

/-- Whatever is said of an object that had no conditions, in whatever order and at whatever times,
its conditions are an exact account of it.  So remarks on different types may change places, and a
remark that is made again at another time changes nothing. -/
theorem exact_history (history : List Entry) :
    Exact history (recorded history) ∧
    (∀ before first second after, history = before ++ first :: second :: after →
      first.type ≠ second.type → recorded (before ++ second :: first :: after) = recorded history) ∧
    ∀ before entry after later, history = before ++ entry :: after →
      recorded (before ++ entry :: { entry with time := later } :: after) = recorded history := by
  refine ⟨exact_recorded history, ?_, ?_⟩
  · rintro before first second after rfl hother
    apply recorded_congr
    intro type
    by_cases hfirst : first.type = type
    · simp [hfirst, hfirst ▸ hother.symm]
    · simp [List.filter_cons, hfirst]
  · rintro before entry after later rfl
    exact recorded_again before after entry later

/-- An import that is waited for, then runs, and the summary in between. -/
theorem exact_history_imported :
    let history : List Entry :=
      [⟨.markFalse "ImageImported" "queued" .info "", ⟨10, 0⟩⟩, ⟨.markTrue "Ready", ⟨20, 0⟩⟩,
        ⟨.markFalse "ImageImported" "running" .info "half done", ⟨30, 0⟩⟩]
    (∃ condition ∈ recorded history, condition.type = "ImageImported" ∧
      condition.reason = some "running" ∧ condition.lastTransitionTime = ⟨10, 0⟩) ∧
    recorded (history.take 1 ++ history[2] :: [history[1]]) = recorded history := by
  intro history
  obtain ⟨hexact, hswap, -⟩ := exact_history history
  refine ⟨?_, hswap (history.take 1) history[1] history[2] [] rfl (by decide)⟩
  obtain ⟨condition, hmem, htype⟩ :=
    List.mem_map.mp
      ((hexact.types "ImageImported").mpr (by simp [history, Entry.type, Remark.type]))
  obtain ⟨⟨last, hlast, hstate⟩, first, hfirst, htime⟩ := hexact.tells condition hmem
  rw [htype] at hlast hfirst
  obtain rfl := Option.some.inj (hlast.symm.trans rfl)
  simp only [sameState, Bool.and_eq_true, beq_iff_eq] at hstate
  obtain ⟨⟨⟨⟨-, hstatus⟩, -⟩, hreason⟩, -⟩ := hstate
  rw [hstatus] at hfirst
  obtain rfl := Option.some.inj (hfirst.symm.trans rfl)
  exact ⟨condition, hmem, htype, hreason, htime⟩

end Conditions

end Reconciler
