import Reconciler.Controller

/-!
# Wrapped errors

An error is wrapped on its way out of a pass: a context says what was under way, a requeue how long
to wait.  Wrappers do not hide what they are around.  The error is counted as before, under a word
that shows nothing of what the error was made with, and it is missing things as before.  Its message
stands behind the texts of the contexts, and the outermost requeue is the one that counts.
-/

namespace Reconciler

namespace Text

/-- Nothing in the name closes it. -/
def IsName (name : String) : Prop := ∀ c ∈ name.toList, closesName c = false

instance (name : String) : Decidable (IsName name) :=
  List.decidableBAll (fun c => closesName c = false) name.toList

section

variable {name : String} (hname : IsName name)
include hname

/-- A text opens with the name that a closing mark follows in it. -/
theorem opening_append (rest : String) (hrest : ∀ c ∈ rest.toList.head?, closesName c = true) :
    opening (name ++ rest) = name := by
  have hstop : rest.toList.takeWhile (fun c => !closesName c) = [] := by
    rcases hchars : rest.toList with _ | ⟨c, chars⟩
    · rfl
    · have hc : closesName c = true := hrest c (by rw [hchars]; rfl)
      rw [List.takeWhile_cons_of_neg]
      simp [hc]
  rw [opening, String.toList_append, List.takeWhile_append_of_pos, hstop, List.append_nil,
    String.ofList_toList]
  exact fun c hc => by rw [hname c hc]; rfl

theorem opening_name : opening name = name := by
  simpa using opening_append hname "" (by simp)

theorem opening_tuple (parts : List String) : opening (tuple name parts) = name := by
  refine opening_append hname _ fun c hc => ?_
  rw [String.toList_append, String.toList_append] at hc
  obtain rfl : '(' = c := Option.some.inj hc
  rfl

theorem opening_record (parts : List (String × String)) : opening (record name parts) = name := by
  refine opening_append hname _ fun c hc => ?_
  rw [String.toList_append, String.toList_append] at hc
  obtain rfl : ' ' = c := Option.some.inj hc
  rfl

end

end Text

namespace Error

/-- The error is not around another one. -/
def IsLeaf : Error → Prop
  | .context .. => False
  | .requeue .. => False
  | _ => True

/-- The names of the errors that are not around other ones, in the order of their constructors. -/
def leafNames : List String :=
  ["SerializationError", "KubeError", "ResourceError", "CloudError", "ClusterNotFound",
    "MissingClusterName", "Conflict", "ImportFailed", "InvalidPrimaryIp", "MissingLoadBalancer",
    "MissingPool", "MissingBootstrapData", "UnknownTarget", "Elapsed", "Panicked"]

/-- The words that errors are counted under. -/
def labels : List String := leafNames.map Text.lowercase

theorem getElem?_leafNames {error : Error} (hleaf : error.IsLeaf) :
    leafNames[error.ctorIdx]? = some error.name := by
  cases error with
  | context | requeue => exact hleaf.elim
  | _ => rfl

theorem isLeaf_iff (error : Error) : error.IsLeaf ↔ error.ctorIdx < leafNames.length := by
  cases error with
  | context => exact iff_of_false id (Nat.lt_irrefl 15)
  | requeue => exact iff_of_false id (Nat.not_lt_of_le (Nat.le_succ 15))
  | _ => exact iff_of_true trivial (Nat.le_of_ble_eq_true rfl)

/-- Whatever an error is made with stands behind its name. -/
theorem opening_describe (library : String) {error : Error} (hleaf : error.IsLeaf) :
    Text.opening (error.describe library) = error.name := by
  have hnames : ∀ name ∈ leafNames, Text.IsName name := by decide +kernel
  have hname := hnames error.name (List.mem_of_getElem? (getElem?_leafNames hleaf))
  cases error with
  | context | requeue => exact hleaf.elim
  | api error => cases error <;> exact Text.opening_tuple hname _
  | clusterNotFound | missingPool => exact Text.opening_record hname _
  | invalidPrimaryAddress => exact Text.opening_name hname
  | _ => exact Text.opening_tuple hname _

theorem label_eq (error : Error) : error.label = Text.lowercase error.cause.name := by
  induction error with
  | context text source ih => exact ih
  | requeue after source ih => exact ih
  | _ => exact congrArg Text.lowercase (opening_describe "" trivial)

theorem cause_of_isLeaf {error : Error} (hleaf : error.IsLeaf) : error.cause = error := by
  cases error with
  | context | requeue => exact hleaf.elim
  | _ => rfl

/-- What is put around an error. -/
inductive Wrapper where
  | context (text : String)
  | requeue (after : Nat)
deriving DecidableEq

namespace Wrapper

def around : Wrapper → Error → Error
  | context text, error => .context text error
  | requeue after, error => .requeue after error

/-- What the wrapper puts in front of the message. -/
def text : Wrapper → String
  | context text => text ++ ": "
  | requeue _ => ""

/-- How long the wrapper asks to wait. -/
def after? : Wrapper → Option Nat
  | context _ => none
  | requeue after => some after

end Wrapper

/-- The error inside wrappers, the outermost of them first. -/
def wrapped (wrappers : List Wrapper) (error : Error) : Error := wrappers.foldr Wrapper.around error

variable (wrappers : List Wrapper) (error : Error)

theorem cause_wrapped : (wrapped wrappers error).cause = error.cause := by
  induction wrappers with
  | nil => rfl
  | cons wrapper wrappers ih => cases wrapper <;> exact ih

theorem label_wrapped : (wrapped wrappers error).label = error.label := by
  rw [label_eq, label_eq, cause_wrapped]

theorem isNotFound_wrapped : (wrapped wrappers error).isNotFound = error.isNotFound := by
  induction wrappers with
  | nil => rfl
  | cons wrapper wrappers ih => cases wrapper <;> exact ih

/-- The outermost wrapper that asks to wait counts, and otherwise what the error itself asks for. -/
theorem requeueAfter_wrapped :
    (wrapped wrappers error).requeueAfter =
      (wrappers.findSome? Wrapper.after?).or error.requeueAfter := by
  induction wrappers with
  | nil => rfl
  | cons wrapper wrappers ih =>
      cases wrapper with
      | context text => exact ih
      | requeue after => rfl

theorem message_wrapped (library : String) :
    (wrapped wrappers error).message library =
      String.join (wrappers.map Wrapper.text) ++ error.message library := by
  induction wrappers with
  | nil => simp [wrapped]
  | cons wrapper wrappers ih =>
      rw [List.map_cons, String.join_cons, String.append_assoc, ← ih]
      cases wrapper with
      | context text => rfl
      | requeue after => exact String.empty_append.symm

theorem requeueAfter_of_isLeaf {error : Error} (hleaf : error.IsLeaf) :
    error.requeueAfter = none := by
  cases error with
  | context | requeue => exact hleaf.elim
  | _ => rfl

/-- Wrappers change neither what an error is counted as nor whether something is missing.  The count
goes by the constructor of the error alone: its name in lower case, which is all that comes of the
description, whatever else that shows.  The object comes up again after the time that the outermost
requeue gives. -/
theorem wrappers_transparent (wrappers : List Wrapper) (leaf : Error) (hleaf : leaf.IsLeaf) :
    (wrapped wrappers leaf).label = leaf.label ∧
    (wrapped wrappers leaf).isNotFound = leaf.isNotFound ∧
    leaf.label = Text.lowercase leaf.name ∧
    (∀ library, leaf.label = Text.lowercase (Text.opening (leaf.describe library))) ∧
    (∀ other : Error, other.ctorIdx = leaf.ctorIdx → other.label = leaf.label) ∧
    leaf.label ∈ labels ∧
    (wrapped wrappers leaf).requeueAfter = wrappers.findSome? Wrapper.after? ∧
    (∀ library, (wrapped wrappers leaf).message library =
      String.join (wrappers.map Wrapper.text) ++ leaf.message library) ∧
    ∀ (manager : Manager) managed settings «namespace» name,
      (manager.errorPolicy managed settings «namespace» name (wrapped wrappers leaf)).1 =
        (wrappers.findSome? Wrapper.after?).getD settings.errorBackoff := by
  have hlabel : leaf.label = Text.lowercase leaf.name := by rw [label_eq, cause_of_isLeaf hleaf]
  have hrequeue : (wrapped wrappers leaf).requeueAfter = wrappers.findSome? Wrapper.after? := by
    rw [requeueAfter_wrapped, requeueAfter_of_isLeaf hleaf, Option.or_none]
  refine ⟨label_wrapped .., isNotFound_wrapped .., hlabel, ?_, ?_, ?_, hrequeue,
    fun library => message_wrapped .., ?_⟩
  · intro library
    rw [opening_describe library hleaf, hlabel]
  · intro other hsame
    have hother : other.IsLeaf := by rwa [isLeaf_iff, hsame, ← isLeaf_iff]
    have hnames := getElem?_leafNames hother
    rw [hsame, getElem?_leafNames hleaf] at hnames
    rw [label_eq, cause_of_isLeaf hother, hlabel, Option.some.inj hnames]
  · rw [hlabel]
    exact List.mem_map_of_mem (List.mem_of_getElem? (getElem?_leafNames hleaf))
  · intro manager managed settings «namespace» name
    exact congrArg (·.getD settings.errorBackoff) hrequeue

/-- A panic whose text looks like a description itself, in wrappers that ask to wait twice. -/
theorem wrappers_transparent_panicked :
    IsLeaf (.panicked "Context \x7b after (all)") ∧
    ∃ error : Error, error = .context "reconciling image" (.requeue 30 (.context "polling"
        (.requeue 120 (.panicked "Context \x7b after (all)")))) ∧
      error.label = "panicked" ∧ error.isNotFound = false ∧ error.requeueAfter = some 30 ∧
      error.message "" =
        "reconciling image: polling: Reconcile panicked: Context \x7b after (all)" ∧
      ∀ (manager : Manager) managed settings,
        (manager.errorPolicy managed settings "default" "boot" error).1 = 30 := by
  obtain ⟨hlabel, hmissing, hname, -, -, -, hrequeue, hmessage, hpolicy⟩ :=
    wrappers_transparent
      [.context "reconciling image", .requeue 30, .context "polling", .requeue 120]
      (.panicked "Context \x7b after (all)") trivial
  have hpanicked : Text.lowercase "Panicked" = "panicked" := by decide +kernel
  exact ⟨trivial, _, rfl, hlabel.trans (hname.trans hpanicked), hmissing, hrequeue,
    (hmessage "").trans (by decide +kernel), fun manager managed settings => hpolicy ..⟩

end Error

end Reconciler
