import AdaptiveRouting.Digest
import Mathlib.Data.List.Sort

/-!
# Metrics

Bounded integer metric values tagged with kind, unit and semantics version, and the exact integer
arithmetic on them. 64-bit signed arithmetic is checked: an operation that leaves the range has no
result.
-/

namespace AdaptiveRouting

/-! ## Kinds -/

inductive MetricKind
  | pathUtilization | linkUtilization | pathLatency | queuePressure | packetLoss | errorRate
  | healthDegradation | congestionScore | pathQuality | operatorPolicySignal
  deriving DecidableEq, Repr

inductive MetricUnit
  | basisPoints | microseconds | ppm | count | flag
  deriving DecidableEq, Repr

inductive MetricOrientation
  | lowerIsBetter | higherIsBetter
  deriving DecidableEq, Repr

namespace MetricKind

def code (kind : MetricKind) : UInt8 := kind.ctorIdx.toUInt8 + 1

def text : MetricKind → Text
  | pathUtilization => "PATH_UTILIZATION"
  | linkUtilization => "LINK_UTILIZATION"
  | pathLatency => "PATH_LATENCY"
  | queuePressure => "QUEUE_PRESSURE"
  | packetLoss => "PACKET_LOSS"
  | errorRate => "ERROR_RATE"
  | healthDegradation => "HEALTH_DEGRADATION"
  | congestionScore => "CONGESTION_SCORE"
  | pathQuality => "PATH_QUALITY"
  | operatorPolicySignal => "OPERATOR_POLICY_SIGNAL"

instance : Ord MetricKind := ⟨fun a b => compare a.code b.code⟩

theorem code_injective {a b : MetricKind} (h : a.code = b.code) : a = b := by
  cases a <;> cases b <;> first | rfl | (revert h; decide)

instance : Std.TransOrd MetricKind where
  eq_swap := fun {a b} =>
    show compare a.code b.code = (compare b.code a.code).swap from Std.OrientedCmp.eq_swap
  isLE_trans := fun {a b c} (hab : (compare a.code b.code).isLE)
      (hbc : (compare b.code c.code).isLE) =>
    show (compare a.code c.code).isLE from Std.TransCmp.isLE_trans hab hbc

instance : Std.LawfulEqOrd MetricKind where
  compare_self := fun {a} => show compare a.code a.code = .eq from Std.ReflCmp.compare_self
  eq_of_compare := fun {a b} (h : compare a.code b.code = .eq) =>
    code_injective (Std.LawfulEqCmp.eq_of_compare h)

end MetricKind

def MetricUnit.code (unit : MetricUnit) : UInt8 := unit.ctorIdx.toUInt8 + 1

/-- `MetricKind`s outside the table do not exist as values. -/
def validMetricKind (raw : UInt8) : Bool := 1 ≤ raw && raw ≤ 10

structure MetricDescriptor where
  unit : MetricUnit
  orientation : MetricOrientation
  semanticsVersion : UInt32
  minimum : Int
  maximum : Int

def basisPointsScale : UInt32 := 10000

/-- `metric_table`. -/
def describeMetric : MetricKind → MetricDescriptor
  | .pathUtilization | .linkUtilization | .queuePressure | .healthDegradation | .congestionScore =>
    ⟨.basisPoints, .lowerIsBetter, 1, 0, 10000⟩
  | .pathLatency => ⟨.microseconds, .lowerIsBetter, 1, 0, 4000000000⟩
  | .packetLoss | .errorRate => ⟨.ppm, .lowerIsBetter, 1, 0, 1000000⟩
  | .pathQuality => ⟨.basisPoints, .higherIsBetter, 1, 0, 10000⟩
  | .operatorPolicySignal => ⟨.flag, .higherIsBetter, 1, 0, 1⟩

/-! ## Values -/

/-- What `decode` accepts: the unit and version of the kind, and a value in its range. -/
def metricDecodable (kind : MetricKind) (unit : MetricUnit) (semanticsVersion : UInt32)
    (value : Int) : Bool :=
  let descriptor := describeMetric kind
  descriptor.unit == unit && descriptor.semanticsVersion == semanticsVersion &&
    descriptor.minimum ≤ value && value ≤ descriptor.maximum

/-- A metric value: the invalid default, or one inside its kind's declared range. -/
structure MetricValue where
  kind : MetricKind := .pathUtilization
  unit : MetricUnit := .basisPoints
  semanticsVersion : UInt32 := 0
  value : Int := 0
  valid : Bool := false
  ok : (if valid then metricDecodable kind unit semanticsVersion value
    else kind == .pathUtilization && unit == .basisPoints && semanticsVersion == 0 &&
      value == 0) = true := by rfl
  deriving DecidableEq, Repr

namespace MetricValue

instance : Inhabited MetricValue := ⟨{}⟩

def decode (kind : MetricKind) (unit : MetricUnit) (semanticsVersion : UInt32) (value : Int) :
    Option MetricValue :=
  if h : metricDecodable kind unit semanticsVersion value = true then
    some ⟨kind, unit, semanticsVersion, value, true, h⟩
  else none

def make (kind : MetricKind) (value : Int) : Option MetricValue :=
  decode kind (describeMetric kind).unit (describeMetric kind).semanticsVersion value

def orientation (v : MetricValue) : MetricOrientation := (describeMetric v.kind).orientation

/-- Comparability, not equality. -/
def comparableWith (a b : MetricValue) : Bool :=
  a.valid && b.valid && a.kind == b.kind && a.unit == b.unit &&
    a.semanticsVersion == b.semanticsVersion

end MetricValue

def Digest.writeMetric (g : Digest) (value : MetricValue) : Digest :=
  if value.valid then
    ((((g.writeU8 1).writeU8 value.kind.code).writeU8 value.unit.code).writeU32
      value.semanticsVersion).writeI64 value.value
  else g.writeU8 0

/-! ## Checked arithmetic -/

def i64Min : Int := -9223372036854775808
def i64Max : Int := 9223372036854775807

def inI64 (n : Int) : Bool := i64Min ≤ n && n ≤ i64Max

def addOk (a b : Int) : Option Int := if inI64 (a + b) then some (a + b) else none

def multiplyOk (a b : Int) : Option Int := if inI64 (a * b) then some (a * b) else none

/-- A quotient clamped to the basis-point scale. -/
def clampBasisPoints (result : Int) : UInt32 :=
  if result ≤ 0 then 0
  else if result ≥ 10000 then basisPointsScale
  else result.toNat.toUInt32

/-- How much better `candidate` is than `current`, in basis points of `current`. -/
def relativeImprovementBps (current candidate : MetricValue) : Option UInt32 :=
  if !current.comparableWith candidate then none
  else
    let better := match current.orientation with
      | .lowerIsBetter => candidate.value < current.value
      | .higherIsBetter => candidate.value > current.value
    if !better then some 0
    else do
      let delta ← addOk candidate.value (-current.value)
      let delta := if delta < 0 then -delta else delta
      let base := if current.value < 0 then -current.value else current.value
      if base = 0 then return basisPointsScale
      let scaled ← multiplyOk delta 10000
      return clampBasisPoints (scaled.tdiv base)

/-- The value on a scale where 10000 is the best representable one and 0 the worst. -/
def normalizeToBasisPoints (value : MetricValue) : Option UInt32 :=
  if !value.valid then none
  else
    let descriptor := describeMetric value.kind
    let span := descriptor.maximum - descriptor.minimum
    if span ≤ 0 then none
    else
      let goodness := match descriptor.orientation with
        | .lowerIsBetter => descriptor.maximum - value.value
        | .higherIsBetter => value.value - descriptor.minimum
      if goodness ≤ 0 then some 0
      else do
        let scaled ← multiplyOk goodness 10000
        return clampBasisPoints (scaled.tdiv span)

/-! ## Aggregation -/

inductive AggregationKind
  | minimum | maximum | mean | median | percentile95 | ewma
  deriving DecidableEq, Repr

def AggregationKind.code (kind : AggregationKind) : UInt8 := kind.ctorIdx.toUInt8 + 1

def AggregationKind.text : AggregationKind → Text
  | .minimum => "MINIMUM"
  | .maximum => "MAXIMUM"
  | .mean => "MEAN"
  | .median => "MEDIAN"
  | .percentile95 => "PERCENTILE_95"
  | .ewma => "EWMA"

def validAggregationKind (raw : UInt8) : Bool := 1 ≤ raw && raw ≤ 6

/-- The order statistic at rank `ceil(percent * count / 100)`, counted from one. -/
def nearestRank (samples : List Int) (percent : Nat) : Option Int :=
  let count := samples.length
  let rank := (percent * count + 99) / 100
  let index := if rank = 0 then 0 else rank - 1
  let index := if index ≥ count then count - 1 else index
  (samples.insertionSort (· ≤ ·))[index]?

/-- The checked sum, in order. -/
def sumOk (samples : List Int) : Option Int := samples.foldlM addOk 0

/-- `ewma = floor((alpha * sample + (10000 - alpha) * ewma) / 10000)`. -/
def ewmaStep (alpha : Int) (ewma sample : Int) : Option Int := do
  let weightedSample ← multiplyOk alpha sample
  let weightedPrevious ← multiplyOk (10000 - alpha) ewma
  let total ← addOk weightedSample weightedPrevious
  return total.tdiv 10000

def aggregateSamples (aggregation : AggregationKind) (samples : List Int) (ewmaAlphaBps : UInt32) :
    Option Int :=
  match samples with
  | [] => none
  | first :: rest =>
    match aggregation with
    | .minimum => samples.min?
    | .maximum => samples.max?
    | .mean => (sumOk samples).map fun sum => sum.tdiv samples.length
    | .median => nearestRank samples 50
    | .percentile95 => nearestRank samples 95
    | .ewma =>
      if ewmaAlphaBps > basisPointsScale then none
      else rest.foldlM (ewmaStep ewmaAlphaBps.toNat) first

/-! ## Weighted score -/

structure ScoreTerm where
  kind : MetricKind := .pathLatency
  weightBps : UInt32 := 0
  deriving DecidableEq, Repr

def weightedScoreFormulaVersion : UInt32 := 1

/-- One term of the sum. -/
def weightedTerm (numerator : Int) (term : ScoreTerm × MetricValue) : Option Int :=
  if term.2.kind ≠ term.1.kind then none
  else do
    let normalized ← normalizeToBasisPoints term.2
    let weighted ← multiplyOk term.1.weightBps.toNat normalized.toNat
    addOk numerator weighted

/-- `(sum_i weight_i * normalize(value_i)) / 10000`, rounded half up. -/
def weightedScore (terms : List ScoreTerm) (values : List MetricValue) : Option UInt64 :=
  if terms.isEmpty || terms.length != values.length then none
  else do
    let numerator ← (terms.zip values).foldlM weightedTerm 0
    if numerator < 0 then none
    else
      let rounded := (numerator + 5000).tdiv 10000
      if rounded < 0 then none else return rounded.toNat.toUInt64

end AdaptiveRouting
