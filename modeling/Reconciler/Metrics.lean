import Reconciler.Decimal.Enclosure
import Reconciler.Error

/-!
# Metrics

For each managed kind the passes, their durations and their failures are counted.  The exposition
is text in the OpenMetrics format.
-/

namespace Reconciler

/-- What a failure is counted under: the object and the label of the error. -/
structure FailureLabels where
  object : String
  error : String
deriving DecidableEq, Inhabited

/-- What is counted for one managed kind. -/
structure PassMetrics where
  runs : Nat := 0
  failures : List (FailureLabels × Nat) := []
  /-- The durations of passes in milliseconds, in the order in which the passes ended. -/
  durations : List Nat := []
deriving DecidableEq, Inhabited

/-- Counts one more under a label. -/
def countOne [DecidableEq α] (label : α) : List (α × Nat) → List (α × Nat)
  | [] => [(label, 1)]
  | entry :: rest =>
    if entry.1 = label then (entry.1, entry.2 + 1) :: rest else entry :: countOne label rest

namespace PassMetrics

def started (metrics : PassMetrics) : PassMetrics := { metrics with runs := metrics.runs + 1 }

def ended (milliseconds : Nat) (metrics : PassMetrics) : PassMetrics :=
  { metrics with durations := metrics.durations ++ [milliseconds] }

def failed (object : String) (error : Error) (metrics : PassMetrics) : PassMetrics :=
  { metrics with failures := countOne ⟨object, error.label⟩ metrics.failures }

/-- Numbers are written without an exponent below `1e21` and from `1e-6` up. -/
def numberLayout : Decimal.Layout := ⟨21, -6⟩

/-- The upper bounds of the duration buckets, in milliseconds, as they are labelled. -/
def bounds : List (Nat × String) :=
  [(10, "0.01"), (100, "0.1"), (250, "0.25"), (500, "0.5"), (1000, "1.0"), (5000, "5.0"),
    (15000, "15.0"), (60000, "60.0")]

/-- The sum of the durations in seconds, added up in order. -/
def totalSeconds (metrics : PassMetrics) : Float :=
  metrics.durations.foldl (fun total milliseconds => total + milliseconds.toFloat / 1000) 0

/-- The buckets of the durations; each counts everything up to its bound. -/
def buckets (metrics : PassMetrics) : List (String × Nat) :=
  bounds.map (fun bound => (bound.2, metrics.durations.countP (· ≤ bound.1))) ++
    [("+Inf", metrics.durations.length)]

/-- The line of one failure counter.  Label values stand as they are. -/
def failureLine (family : String) (entry : FailureLabels × Nat) : String :=
  family ++ "_failures_total\x7binstance=\"" ++ entry.1.object ++ "\",error=\"" ++
    entry.1.error ++ "\"\x7d " ++ toString entry.2

/-- The exposition of the metrics of one kind. -/
def lines (family : String) (metrics : PassMetrics) : List String :=
  let duration := family ++ "_duration_seconds"
  ["# HELP " ++ duration ++ " reconcile duration.",
    "# TYPE " ++ duration ++ " histogram",
    "# UNIT " ++ duration ++ " seconds",
    duration ++ "_sum " ++ numberLayout.render Decimal.Binary.enclosed metrics.totalSeconds.toBits,
    duration ++ "_count " ++ toString metrics.durations.length] ++
  metrics.buckets.map (fun bucket =>
    duration ++ "_bucket\x7ble=\"" ++ bucket.1 ++ "\"\x7d " ++ toString bucket.2) ++
  ["# HELP " ++ family ++ "_failures reconciliation errors.",
    "# TYPE " ++ family ++ "_failures counter"] ++
  (metrics.failures.map (failureLine family)).mergeSort (· ≤ ·) ++
  ["# HELP " ++ family ++ "_runs reconciliations.",
    "# TYPE " ++ family ++ "_runs counter",
    family ++ "_runs_total " ++ toString metrics.runs]

end PassMetrics

/-- What is counted for all managed kinds. -/
structure Metrics where
  machine : PassMetrics := {}
  image : PassMetrics := {}
deriving DecidableEq, Inhabited

namespace Metrics

/-- Changes what is counted for one kind. -/
def map (change : PassMetrics → PassMetrics) (managed : Managed) (metrics : Metrics) : Metrics :=
  match managed with
  | .machine => { metrics with machine := change metrics.machine }
  | .image => { metrics with image := change metrics.image }

/-- The exposition. -/
def render (metrics : Metrics) : String :=
  let lines :=
    metrics.machine.lines "capibm_vpcmachine_reconcile" ++
      metrics.image.lines "capibm_powervsimage_reconcile" ++ ["# EOF"]
  String.join (lines.map (· ++ "\n"))

end Metrics

end Reconciler
