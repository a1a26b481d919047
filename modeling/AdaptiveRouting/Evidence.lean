import AdaptiveRouting.Lib.Search
import AdaptiveRouting.Metrics
import Mathlib.Data.List.Destutter

/-!
# Evidence

Samples and their aggregates, publications, the requirements a policy declares, and the immutable
evidence snapshot an evaluation reads.
-/

namespace AdaptiveRouting

/-- Monotonic nanoseconds. -/
abbrev Ticks := UInt64

def ticksPerMillisecond : Ticks := 1000000

/-! ## Quality -/

inductive EvidenceQuality
  | primary | aggregated | operator | estimated
  deriving DecidableEq, Repr

namespace EvidenceQuality

def code (quality : EvidenceQuality) : UInt8 := quality.ctorIdx.toUInt8 + 1

def text : EvidenceQuality → Text
  | primary => "PRIMARY"
  | aggregated => "AGGREGATED"
  | operator => "OPERATOR"
  | estimated => "ESTIMATED"

def rank : EvidenceQuality → Nat
  | primary => 4
  | aggregated => 3
  | operator => 2
  | estimated => 1

end EvidenceQuality

def validEvidenceQuality (raw : UInt8) : Bool := 1 ≤ raw && raw ≤ 4

/-! ## Samples -/

structure EvidenceSample where
  path : PathId
  value : MetricValue
  acceptedAt : Ticks := 0
  observationSequence : UInt64 := 0
  deriving DecidableEq, Repr

structure EvidenceAggregate where
  value : MetricValue := {}
  sampleCount : UInt32 := 0
  oldestObservedAt : Ticks := 0
  newestObservedAt : Ticks := 0
  aggregation : AggregationKind := .mean
  ewmaAlphaBps : UInt32 := 0
  deriving DecidableEq, Repr

namespace EvidenceAggregate

def valid (a : EvidenceAggregate) : Bool := a.sampleCount != 0 && a.value.valid

def age (a : EvidenceAggregate) (now : Ticks) : Ticks :=
  if now ≥ a.newestObservedAt then now - a.newestObservedAt else 0

def window (a : EvidenceAggregate) : Ticks :=
  if a.newestObservedAt ≥ a.oldestObservedAt then a.newestObservedAt - a.oldestObservedAt else 0

end EvidenceAggregate

structure EvidencePublication where
  source : EvidenceSourceId
  sourceGeneration : EvidenceSourceGeneration
  quality : EvidenceQuality := .primary
  path : PathId
  value : MetricValue
  observationSequence : UInt64 := 0
  deriving DecidableEq, Repr

def EvidencePublication.wellFormed (p : EvidencePublication) : Bool :=
  p.source.valid && p.sourceGeneration.valid && p.path.valid && p.value.valid

/-! ## Requirements -/

structure EvidenceRequirement where
  kind : MetricKind := .pathLatency
  aggregation : AggregationKind := .mean
  ewmaAlphaBps : UInt32 := 2500
  minSamples : UInt32 := 1
  maxAge : Ticks := 0
  minWindow : Ticks := 0
  minQuality : EvidenceQuality := .aggregated
  required : Bool := true
  deriving DecidableEq, Repr

namespace EvidenceRequirement

def valid (r : EvidenceRequirement) : Bool :=
  validMetricKind r.kind.code && validAggregationKind r.aggregation.code && r.minSamples != 0 &&
    r.maxAge != 0 &&
    (match r.aggregation with
     | .ewma => !(r.ewmaAlphaBps == 0 || r.ewmaAlphaBps > basisPointsScale)
     | _ => r.ewmaAlphaBps == 0) &&
    validEvidenceQuality r.minQuality.code && r.minWindow ≤ r.maxAge

def render (r : EvidenceRequirement) : Text :=
  Text.concat [r.kind.text, " ", r.aggregation.text,
    if r.aggregation = .ewma then Text.concat [":", natText r.ewmaAlphaBps.toNat] else [],
    " min_samples=", natText r.minSamples.toNat,
    " max_age_ms=", natText (r.maxAge / ticksPerMillisecond).toNat,
    " min_window_ms=", natText (r.minWindow / ticksPerMillisecond).toNat,
    " min_quality=", r.minQuality.text,
    if r.required then " required" else " optional"]

end EvidenceRequirement

/-! ## Snapshots -/

structure EvidenceBinding where
  source : EvidenceSourceId
  sourceGeneration : EvidenceSourceGeneration
  path : PathId
  kind : MetricKind := .pathLatency
  deriving DecidableEq, Repr

/-- `operator<`: by source, source generation, path and kind. -/
def EvidenceBinding.before (a b : EvidenceBinding) : Bool :=
  if a.source ≠ b.source then a.source < b.source
  else if a.sourceGeneration ≠ b.sourceGeneration then a.sourceGeneration < b.sourceGeneration
  else if a.path ≠ b.path then a.path < b.path
  else a.kind.code < b.kind.code

structure ResolvedEvidence where
  path : PathId
  kind : MetricKind := .pathLatency
  quality : EvidenceQuality := .primary
  source : EvidenceSourceId
  sourceGeneration : EvidenceSourceGeneration
  aggregate : EvidenceAggregate
  deriving DecidableEq, Repr

/-- The order of the values: by path and kind. -/
def ResolvedEvidence.before (a : ResolvedEvidence) (path : PathId) (kind : MetricKind) : Bool :=
  a.path < path || (a.path == path && a.kind.code < kind.code)

structure EvidenceSnapshot where
  id : EvidenceSnapshotId
  generation : EvidenceGeneration
  epoch : CoordinatorEpoch
  capturedAt : Ticks := 0
  bindings : List EvidenceBinding := []
  values : List ResolvedEvidence := []
  deriving DecidableEq, Repr

/-- The value of a path and kind, by binary search. -/
def EvidenceSnapshot.find (s : EvidenceSnapshot) (path : PathId) (kind : MetricKind) :
    Option ResolvedEvidence :=
  match s.values[Search.lowerBound (fun element => element.before path kind) s.values]? with
  | some candidate => if candidate.path = path ∧ candidate.kind = kind then some candidate else none
  | none => none

theorem EvidenceSnapshot.find_mem {s : EvidenceSnapshot} {path : PathId} {kind : MetricKind}
    {r : ResolvedEvidence} (h : s.find path kind = some r) :
    r ∈ s.values ∧ r.path = path ∧ r.kind = kind := by
  unfold find at h
  split at h
  · rename_i candidate hget
    split at h
    · cases h
      exact ⟨List.mem_of_getElem? hget, ‹_›⟩
    · cases h
  · cases h

/-- `EvidenceSnapshotBuilder::add_value`, on the snapshot under construction. -/
def EvidenceSnapshot.addValue (s : EvidenceSnapshot) (value : ResolvedEvidence) : EvidenceSnapshot :=
  { s with values := s.values ++ [value] }

/-- `EvidenceSnapshotBuilder::finish`: both lists in their canonical order, the bindings without
repetitions. -/
def EvidenceSnapshot.finish (s : EvidenceSnapshot) : EvidenceSnapshot :=
  { s with
    bindings := (s.bindings.insertionSort fun a b => !b.before a).destutter (· ≠ ·)
    values := s.values.insertionSort fun a b => !b.before a.path a.kind }

end AdaptiveRouting
