import Reconciler.Proofs.ConditionHistory
import Reconciler.Proofs.Freshness
import Reconciler.Proofs.Reads
import Reconciler.Proofs.Rest
import Reconciler.Proofs.StoredObjects

/-!
# Changes of a status

All that a pass does to the status of its object comes down to a few changes, one after the other:
what is recorded of the provider's resources, and what is said in the conditions.  No such change
brings in anything that could not be stored.
-/

namespace Reconciler

open Time

namespace Conditions

open Condition

variable {holds : Instant → Prop} {condition : Condition} {conditions : Conditions}

theorem mem_replaceFirst {later : Condition} (hmem : later ∈ replaceFirst condition conditions) :
    later = condition ∨ later ∈ conditions := by
  induction conditions with
  | nil => simp [replaceFirst] at hmem
  | cons head rest ih =>
      unfold replaceFirst at hmem
      split at hmem
      · exact (List.mem_cons.mp hmem).imp_right (List.mem_cons_of_mem _)
      · rcases List.mem_cons.mp hmem with rfl | hmem
        · exact .inr List.mem_cons_self
        · exact (ih hmem).imp_right (List.mem_cons_of_mem _)

/-- A condition that is set has its own time or keeps an earlier one. -/
theorem forall_time_set (hcondition : holds condition.lastTransitionTime)
    (hconditions : ∀ earlier ∈ conditions, holds earlier.lastTransitionTime) :
    ∀ later ∈ conditions.set condition, holds later.lastTransitionTime := by
  intro later hlater
  unfold set at hlater
  split at hlater
  · rcases List.mem_append.mp (List.mem_mergeSort.mp hlater) with hearlier | hnew
    · exact hconditions later hearlier
    · rwa [List.mem_singleton.mp hnew]
  · next existing hexisting =>
    split at hlater
    · exact hconditions later hlater
    · rcases mem_replaceFirst (List.mem_mergeSort.mp hlater) with rfl | hearlier
      · dsimp only
        split
        · exact hconditions existing (List.mem_of_find?_eq_some hexisting)
        · exact hcondition
      · exact hconditions later hearlier

end Conditions

/-- A change of the status of a machine. -/
inductive Machine.Change where
  | ready (ready : Bool)
  | instanceId (id : Option String)
  | region (region : Option String)
  /-- The provider reports a state by a word. -/
  | instanceStatus (word : String)
  | providerId (id : Option String)
  | addresses (addresses : List MachineAddress)
  | failure (reason message : Option String)
  | remark (remark : Remark) (time : Instant) (writable : time.Writable)

/-- A change of the status of an image. -/
inductive Image.Change where
  | ready (ready : Bool)
  | imageId (id : Option String)
  | jobId (id : Option String)
  /-- The provider reports a state by a word. -/
  | imageState (word : String)
  | workspace (workspace : Option Workspace)
  | remark (remark : Remark) (time : Instant) (writable : time.Writable)

def Machine.Change.apply (status : MachineStatus) : Change → MachineStatus
  | .ready value => { status with ready := value }
  | .instanceId value => { status with instanceId := value }
  | .region value => { status with region := value }
  | .instanceStatus word => { status with instanceStatus := some (.ofWord word) }
  | .providerId value => { status with providerId := value }
  | .addresses value => { status with addresses := value }
  | .failure reason message =>
    { status with failureReason := reason, failureMessage := message }
  | .remark said time _ => { status with conditions := said.apply time status.conditions }

def Image.Change.apply (status : ImageStatus) : Change → ImageStatus
  | .ready value => { status with ready := value }
  | .imageId value => { status with imageId := value }
  | .jobId value => { status with jobId := value }
  | .imageState word => { status with imageState := some (.ofWord word) }
  | .workspace value => { status with workspace := value }
  | .remark said time _ => { status with conditions := said.apply time status.conditions }

theorem Remark.forall_time_apply (remark : Remark) {time : Instant} {conditions : Conditions}
    (htime : time.Writable)
    (hconditions : ∀ earlier ∈ conditions, earlier.lastTransitionTime.Writable) :
    ∀ later ∈ remark.apply time conditions, later.lastTransitionTime.Writable := by
  have hcondition : (remark.condition time).lastTransitionTime = time := by cases remark <;> rfl
  rw [Remark.apply_eq_set]
  exact Conditions.forall_time_set (hcondition.symm ▸ htime) hconditions

theorem Machine.Change.storable_apply (change : Change) {status : MachineStatus}
    (hstorable : status.Storable) : (change.apply status).Storable := by
  obtain ⟨hstate, hconditions⟩ := hstorable
  cases change with
  | instanceStatus word =>
      refine ⟨?_, hconditions⟩
      rintro _ ⟨⟩
      rw [InstanceStatus.word_ofWord]
  | remark remark time htime => exact ⟨hstate, remark.forall_time_apply htime hconditions⟩
  | _ => exact ⟨hstate, hconditions⟩

theorem Image.Change.storable_apply (change : Change) {status : ImageStatus}
    (hstorable : status.Storable) : (change.apply status).Storable := by
  obtain ⟨hstate, hconditions⟩ := hstorable
  cases change with
  | imageState word =>
      refine ⟨?_, hconditions⟩
      rintro _ ⟨⟩
      rw [ImageState.word_ofWord]
  | remark remark time htime => exact ⟨hstate, remark.forall_time_apply htime hconditions⟩
  | _ => exact ⟨hstate, hconditions⟩

namespace Managed

/-- The changes of a status. -/
abbrev Change : Managed → Type
  | .machine => Machine.Change
  | .image => Image.Change

variable {managed : Managed}

/-- The status after a change. -/
def altered : (managed : Managed) → managed.Status → managed.Change → managed.Status
  | .machine => Machine.Change.apply
  | .image => Image.Change.apply

/-- The object after changes of its status, one after the other. -/
def changed (managed : Managed) (changes : List managed.Change) (object : managed.Resource) :
    managed.Resource :=
  changes.foldl (fun object change => object.mapStatus (managed.altered · change)) object

theorem statusStorable_altered (change : managed.Change) {status : managed.Status}
    (hstorable : managed.StatusStorable status) :
    managed.StatusStorable (managed.altered status change) :=
  match managed with
  | .machine => Machine.Change.storable_apply change hstorable
  | .image => Image.Change.storable_apply change hstorable

theorem statusStorable_default (managed : Managed) :
    managed.StatusStorable (default : managed.Status) :=
  match managed with
  | .machine => ⟨nofun, nofun⟩
  | .image => ⟨nofun, nofun⟩

/-- Changes of the status leave an object that can be stored. -/
theorem Storable.changed {object : managed.Resource} (hstorable : managed.Storable object)
    (changes : List managed.Change) : managed.Storable (managed.changed changes object) := by
  induction changes generalizing object with
  | nil => exact hstorable
  | cons change changes ih =>
      refine ih ⟨hstorable.metadata, hstorable.spec, ?_⟩
      rintro _ ⟨⟩
      apply statusStorable_altered
      rcases hstatus : object.status with _ | status
      · exact managed.statusStorable_default
      · exact hstorable.status status hstatus

/-- The status of the second object comes of the first one by changes. -/
def Reaches (managed : Managed) (first second : managed.Resource) : Prop :=
  ∃ changes, second.status = (managed.changed changes first).status

theorem changed_append (early late : List managed.Change) (object : managed.Resource) :
    managed.changed (early ++ late) object = managed.changed late (managed.changed early object) :=
  List.foldl_append

theorem changed_congr (changes : List managed.Change) {left right : managed.Resource}
    (hsame : left.status = right.status) :
    (managed.changed changes left).status = (managed.changed changes right).status := by
  induction changes generalizing left right with
  | nil => exact hsame
  | cons change changes ih =>
      apply ih
      exact congrArg (fun status => some (managed.altered (status.getD default) change)) hsame

theorem Reaches.of_status {first second : managed.Resource} (hsame : second.status = first.status) :
    managed.Reaches first second := ⟨[], hsame⟩

theorem Reaches.trans {first second third : managed.Resource}
    (hfirst : managed.Reaches first second) (hsecond : managed.Reaches second third) :
    managed.Reaches first third := by
  obtain ⟨early, hearly⟩ := hfirst
  obtain ⟨late, hlate⟩ := hsecond
  exact ⟨early ++ late, by rw [changed_append, hlate, changed_congr late hearly]⟩

end Managed

/-- The states that the provider reports are those of words. -/
def Exchange.Worded : {managed : Managed} → Exchange (outside managed) → Prop
  | .machine, exchange =>
    ∀ found, exchange.Observes found → InstanceStatus.ofWord found.status.word = found.status
  | .image, ⟨.cloud (.getImage _), .returned (.ok found)⟩ =>
    ImageState.ofWord found.state.word = found.state
  | .image, _ => True

namespace Step

variable {managed : Managed} {first : managed.Resource} {α β : Type}

/-- Where the status has come of another one by changes, the step goes on with such changes. -/
abbrev Alters (first : managed.Resource) (step : Body managed α) : Prop :=
  Action.Maintains (.such Exchange.Worded) (fun object _ => managed.Reaches first object) step

theorem Alters.of_keeps {step : Body managed α}
    (hkeeps : Keeps (fun object : managed.Resource => object.status) step) : Alters first step :=
  fun object _ hreaches => ((hkeeps object).anywhere ()).mono fun _ _ _ hafter =>
    hreaches.trans (.of_status hafter)

theorem Alters.pure (value : α) : Alters first (pure value : Body managed α) :=
  .of_keeps (.pure value)

theorem Alters.throw (error : Error) : Alters first (throw error : Body managed α) :=
  .of_keeps (.throw error)

end Step

namespace Managed

open Step (Alters)

variable (managed : Managed) {first : managed.Resource} {change : managed.Status → managed.Status}

end Managed

namespace Machine

open Step (Keeps Alters)

variable {first : Managed.machine.Resource}

section Now

variable {surroundings : Surroundings} (hnow : surroundings.now.Writable)
include hnow

end Now

end Machine

namespace Image

open Step (Keeps Alters)

variable {first : Managed.image.Resource}

section Now

variable {surroundings : Surroundings} (hnow : surroundings.now.Writable)
include hnow

end Now

end Image

namespace World

variable {W : Type} {managed : Managed} {«namespace» name : String} {world : World W}
variable {settings : Settings} {w after : W} {visit : Visit managed}

end World

end Reconciler
