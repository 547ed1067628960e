import Wireframe.Value.Display

/-! # Metrics

A collector counts what the renderer does. A counter with a set of labels exists once it has been
touched; a histogram keeps what was observed, from which its buckets, count and sum are read. Flow
edges are counted in doubles, since whoever reports them may report any amount; everything else is
counted one by one.
-/

namespace Wireframe

/-- The name of a sample and its labels, sorted by label. -/
structure SampleKey where
  name : String
  labels : List (String × String)
  deriving DecidableEq

structure Sample where
  key : SampleKey
  value : Number

inductive CounterError where
  /-- A counter would go down. -/
  | negative
  /-- An integer lies beyond the range of the doubles. -/
  | beyondDoubles
  deriving DecidableEq

def CounterError.message : CounterError → String
  | negative => "Counters can only be incremented by non-negative amounts."
  | beyondDoubles => "int too large to convert to float"

structure Collector where
  counts : List (SampleKey × Nat) := []
  /-- The flow edges, which may be reported in fractions. -/
  edges : List (SampleKey × Double) := []
  /-- The observed durations by target, in the order in which they were observed. -/
  durations : List (String × List Number) := []

/-- A table with the value at a key updated; a key that was not there has a start value. -/
def updateAt {κ β : Type} [DecidableEq κ] (key : κ) (start : β) (f : β → β) :
    List (κ × β) → List (κ × β)
  | [] => [(key, f start)]
  | (k, v) :: rest => if k = key then (k, f v) :: rest else (k, v) :: updateAt key start f rest

namespace Collector

def count (collector : Collector) (key : SampleKey) : Nat :=
  (collector.counts.lookup key).getD 0

def increment (collector : Collector) (key : SampleKey) : Collector :=
  { collector with counts := updateAt key 0 (· + 1) collector.counts }

/-- The counter of the passes of a target that ended in a status. -/
def passKey (target status : String) : SampleKey :=
  ⟨"mockup_render_passes_total", [("backend", target), ("status", status)]⟩

def planKey (target kind : String) : SampleKey :=
  ⟨"mockup_plans_materialized_total", [("backend", target), ("kind", kind)]⟩

def typeLabel (type : String) : String := if type = "" then "<none>" else type

def fallbackKey (type : String) : SampleKey :=
  ⟨"mockup_fallback_elements_total", [("element_type", typeLabel type)]⟩

def edgeKey (outcome : String) : SampleKey :=
  ⟨"mockup_flow_edges_total", [("outcome", outcome)]⟩

def errorKey (type component : String) : SampleKey :=
  ⟨"mockup_errors_total", [("component", component), ("error_type", type)]⟩

def recordPass (collector : Collector) (target status : String) : Collector :=
  collector.increment (passKey target status)

def observe (collector : Collector) (target : String) (duration : Number) : Collector :=
  { collector with durations := updateAt target [] (· ++ [duration]) collector.durations }

def recordRender (collector : Collector) (target status : String) (duration : Number) :
    Except CounterError Collector :=
  if duration.inRange then .ok ((collector.recordPass target status).observe target duration)
  else .error .beyondDoubles

def recordPlan (collector : Collector) (target kind : String) : Collector :=
  collector.increment (planKey target kind)

def recordFallback (collector : Collector) (type : String) : Collector :=
  collector.increment (fallbackKey type)

/-- Adds an amount of edges that had an outcome; the counter of nothing is not touched. -/
def addEdges (collector : Collector) (outcome : String) (amount : Double) : Collector :=
  if amount.isZero then collector
  else { collector with edges := updateAt (edgeKey outcome) 0 (· + amount) collector.edges }

def recordEdges (collector : Collector) (routed dropped : Nat) : Collector :=
  (collector.addEdges "routed" (Double.ofInt routed)).addEdges "dropped" (Double.ofInt dropped)

/-- Adds an amount of edges that had an outcome as it is reported from outside: a counter never goes
down. -/
def reportOutcome (collector : Collector) (outcome : String) (amount : Number) :
    Except CounterError Collector :=
  if amount.lt 0 then .error .negative
  else if amount.inRange then .ok (collector.addEdges outcome amount.toDouble)
  else .error .beyondDoubles

def recordError (collector : Collector) (type component : String) : Collector :=
  collector.increment (errorKey type component)

/-! ## Samples

What a collector reports: one sample per touched counter, and for the durations of each target the
cumulative buckets, the count and the sum. The count is that of the last bucket, in which every
observation but not-a-number lies. Samples are sorted by name and then by their labels. -/

def buckets : List (String × Number) :=
  let thousandths (n : Nat) : Number := .double (Double.ofDecimal false ⟨n, -3⟩)
  [("0.001", thousandths 1), ("0.005", thousandths 5), ("0.01", thousandths 10),
    ("0.05", thousandths 50), ("0.1", thousandths 100), ("0.5", thousandths 500),
    ("1.0", thousandths 1000), ("+Inf", .double (.infinite false))]

def durationName : String := "mockup_render_duration_seconds"

def countUpTo (seen : List Number) (bound : Number) : Nat :=
  (seen.filter fun duration => duration.lt bound || duration.same bound).length

def total (seen : List Number) : Number :=
  seen.foldl (· + ·) (.double (Double.zero false))

def durationSamples (entry : String × List Number) : List Sample :=
  let (target, seen) := entry
  buckets.map (fun (label, bound) =>
      ⟨⟨durationName ++ "_bucket", [("backend", target), ("le", label)]⟩,
        .int (countUpTo seen bound)⟩)
    ++ [⟨⟨durationName ++ "_count", [("backend", target)]⟩,
        .int (countUpTo seen (.double (.infinite false)))⟩,
      ⟨⟨durationName ++ "_sum", [("backend", target)]⟩, total seen⟩]

def labelsBefore : List (String × String) → List (String × String) → Bool
  | [], _ => true
  | _ :: _, [] => false
  | (k, v) :: rest, (k', v') :: rest' =>
      if k = k' then if v = v' then labelsBefore rest rest' else v < v' else k < k'

def before (a b : Sample) : Bool :=
  if a.key.name = b.key.name then labelsBefore a.key.labels b.key.labels
  else a.key.name < b.key.name

def samples (collector : Collector) : List Sample :=
  (collector.counts.map (fun entry => (⟨entry.1, .int entry.2⟩ : Sample))
    ++ collector.edges.map (fun entry => (⟨entry.1, .double entry.2⟩ : Sample))
    ++ collector.durations.flatMap durationSamples).mergeSort before

end Collector

end Wireframe
