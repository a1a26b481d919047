import AdaptiveRouting.Lib.Guard
import AdaptiveRouting.Authority
import AdaptiveRouting.Evidence
import AdaptiveRouting.Lifecycle

/-!
# Adaptation policies

Scope, target, trigger conditions, hold-down, cooldown, dampening, churn bounds, objective and
emergency rule, with the structural validation of the whole.
-/

namespace AdaptiveRouting

/-! ## Scope and target -/

structure PolicyScope where
  fabric : FabricId
  nameSpace : RoutingNamespace
  site : Option (StrongId .siteId) := none
  pathClass : PathClass := default
  routes : List RouteId := []
  multipathSets : List MultipathSetId := []
  deriving DecidableEq, Repr

/-- `*` for an empty list, else the identities separated by commas. -/
def renderIds {d : IdDomain} : List (StrongId d) → Text
  | [] => "*"
  | ids => Text.join "," (ids.map (·.text))

namespace PolicyScope

def wellFormed (s : PolicyScope) : Bool :=
  s.fabric.valid && s.nameSpace.valid && !(hasDuplicates s.routes || hasDuplicates s.multipathSets)

/-- A site-restricted scope covers a route only when the route's site is known and the same. -/
def coversSite (s : PolicyScope) (site : Option (StrongId .siteId)) : Bool :=
  match s.site with
  | none => true
  | some required => site == some required

def coversRoute (s : PolicyScope) (fabric : FabricId) (nameSpace : RoutingNamespace)
    (site : Option (StrongId .siteId)) (route : RouteId) : Bool :=
  s.fabric == fabric && s.nameSpace == nameSpace && s.coversSite site &&
    (s.routes.isEmpty || s.routes.contains route)

def coversPathClass (s : PolicyScope) (value : PathClass) : Bool :=
  !s.pathClass.valid || (value.valid && value == s.pathClass)

def render (s : PolicyScope) : Text :=
  Text.concat ["fabric=", s.fabric.text, " namespace=", s.nameSpace.text,
    match s.site with
    | some site => Text.concat [" site=", site.text]
    | none => [],
    if s.pathClass.valid then Text.concat [" path_class=", s.pathClass.text] else [],
    " routes=", renderIds s.routes, " multipath_sets=", renderIds s.multipathSets]

end PolicyScope

structure PolicyTarget where
  route : RouteId
  multipathSet : Option MultipathSetId := none
  deriving DecidableEq, Repr

def PolicyTarget.wellFormed (t : PolicyTarget) : Bool := t.route.valid

def PolicyTarget.render (t : PolicyTarget) : Text :=
  Text.concat ["route=", t.route.text,
    match t.multipathSet with
    | some set => Text.concat [" multipath_set=", set.text]
    | none => []]

/-! ## Triggers -/

/-- Orientation aware "at least as bad as". -/
def atLeastAsBad (value reference : MetricValue) : Bool :=
  match (describeMetric value.kind).orientation with
  | .lowerIsBetter => value.value ≥ reference.value
  | .higherIsBetter => value.value ≤ reference.value

/-- Orientation aware "at least as good as". -/
def atLeastAsGood (value reference : MetricValue) : Bool :=
  match (describeMetric value.kind).orientation with
  | .lowerIsBetter => value.value ≤ reference.value
  | .higherIsBetter => value.value ≥ reference.value

structure ThresholdRule where
  kind : MetricKind := .pathUtilization
  switchValue : MetricValue
  clearValue : MetricValue
  deriving DecidableEq, Repr

def ThresholdRule.valid (r : ThresholdRule) : Bool :=
  r.switchValue.valid && r.clearValue.valid && r.switchValue.kind == r.kind &&
    r.clearValue.kind == r.kind && r.switchValue.comparableWith r.clearValue &&
    !atLeastAsGood r.switchValue r.clearValue && atLeastAsBad r.switchValue r.clearValue

def ThresholdRule.render (r : ThresholdRule) : Text :=
  Text.concat [r.kind.text,
    " switch>=", intText (if r.switchValue.valid then r.switchValue.value else 0),
    " clear<=", intText (if r.clearValue.valid then r.clearValue.value else 0)]

structure ImprovementRule where
  kind : MetricKind := .pathLatency
  switchImprovementBps : UInt32 := 0
  reverseImprovementBps : UInt32 := 0
  deriving DecidableEq, Repr

def ImprovementRule.valid (r : ImprovementRule) : Bool :=
  !(r.switchImprovementBps > basisPointsScale || r.reverseImprovementBps > basisPointsScale) &&
    (r.switchImprovementBps != 0 || r.reverseImprovementBps != 0)

def ImprovementRule.render (r : ImprovementRule) : Text :=
  Text.concat [r.kind.text, " switch_bps=", natText r.switchImprovementBps.toNat,
    " reverse_bps=", natText r.reverseImprovementBps.toNat]

/-- `HoldDownRule` and `CooldownRule`: a duration, zero when disabled. -/
structure DurationRule where
  duration : Ticks := 0
  deriving DecidableEq, Repr

def DurationRule.render (r : DurationRule) : Text :=
  Text.concat ["duration_ms=", natText (r.duration / ticksPerMillisecond).toNat]

structure DampeningRule where
  enabled : Bool := false
  penaltyIncrement : UInt32 := 0
  maxPenalty : UInt32 := 0
  penaltyDecayInterval : Ticks := 0
  penaltyDecayStep : UInt32 := 0
  holdDownEscalationStep : Ticks := 0
  maxEffectiveHoldDown : Ticks := 0
  deriving DecidableEq, Repr

def DampeningRule.valid (r : DampeningRule) : Bool :=
  if !r.enabled then
    r.penaltyIncrement == 0 && r.maxPenalty == 0 && r.penaltyDecayInterval == 0 &&
      r.penaltyDecayStep == 0 && r.holdDownEscalationStep == 0 && r.maxEffectiveHoldDown == 0
  else
    !(r.penaltyIncrement == 0 || r.maxPenalty < r.penaltyIncrement) &&
      !(r.penaltyDecayInterval == 0 || r.penaltyDecayStep == 0) &&
      !(r.holdDownEscalationStep == 0 || r.maxEffectiveHoldDown == 0)

def DampeningRule.render (r : DampeningRule) : Text :=
  if !r.enabled then "disabled"
  else
    Text.concat ["increment=", natText r.penaltyIncrement.toNat,
      " max_penalty=", natText r.maxPenalty.toNat,
      " decay_ms=", natText (r.penaltyDecayInterval / ticksPerMillisecond).toNat,
      " decay_step=", natText r.penaltyDecayStep.toNat,
      " escalation_ms=", natText (r.holdDownEscalationStep / ticksPerMillisecond).toNat,
      " max_hold_down_ms=", natText (r.maxEffectiveHoldDown / ticksPerMillisecond).toNat]

structure ChurnBounds where
  maxAdaptationsPerWindow : UInt32 := 0
  window : Ticks := 0
  deriving DecidableEq, Repr

def ChurnBounds.enabled (c : ChurnBounds) : Bool := c.maxAdaptationsPerWindow != 0

def ChurnBounds.valid (c : ChurnBounds) : Bool := !c.enabled || c.window != 0

def ChurnBounds.render (c : ChurnBounds) : Text :=
  if !c.enabled then "unbounded"
  else
    Text.concat ["max_per_window=", natText c.maxAdaptationsPerWindow.toNat,
      " window_ms=", natText (c.window / ticksPerMillisecond).toNat]

/-! ## Objective -/

inductive ObjectiveMode
  | lexicographic | weightedScore
  deriving DecidableEq, Repr

def ObjectiveMode.code (mode : ObjectiveMode) : UInt8 := mode.ctorIdx.toUInt8 + 1

def ObjectiveMode.text : ObjectiveMode → Text
  | .lexicographic => "LEXICOGRAPHIC"
  | .weightedScore => "WEIGHTED_SCORE"

/-- `ObjectiveTerm` and `ScoreTerm` are the same record. -/
abbrev ObjectiveTerm := ScoreTerm

structure ObjectiveSpec where
  mode : ObjectiveMode := .lexicographic
  terms : List ObjectiveTerm := []
  scoringVersion : UInt32 := weightedScoreFormulaVersion
  deriving DecidableEq, Repr

def ObjectiveSpec.valid (o : ObjectiveSpec) : Bool :=
  !o.terms.isEmpty && o.scoringVersion == weightedScoreFormulaVersion &&
    o.terms.all (fun term => validMetricKind term.kind.code &&
      (match o.mode with
       | .lexicographic => term.weightBps == 0
       | .weightedScore => !(term.weightBps == 0 || term.weightBps > basisPointsScale))) &&
    !hasDuplicates (o.terms.map (·.kind)) &&
    !(o.mode == .weightedScore &&
      o.terms.foldl (fun total term => total + term.weightBps.toUInt64) 0 !=
        basisPointsScale.toUInt64)

def ObjectiveSpec.render (o : ObjectiveSpec) : Text :=
  Text.concat (o.mode.text :: "(v" :: natText o.scoringVersion.toNat :: ")" ::
    o.terms.map fun term => Text.concat [" ", term.kind.text,
      if o.mode = .weightedScore then Text.concat [":", natText term.weightBps.toNat] else []])

structure CandidatePriority where
  path : PathId
  priority : UInt32 := 0
  deriving DecidableEq, Repr

structure EmergencyRule where
  enabled : Bool := false
  onCurrentPathUnauthorized : Bool := false
  onCurrentPathUnavailable : Bool := false
  onHardFailureSignal : Bool := false
  deriving DecidableEq, Repr

def EmergencyRule.valid (r : EmergencyRule) : Bool :=
  !r.enabled || (r.onCurrentPathUnauthorized || r.onCurrentPathUnavailable || r.onHardFailureSignal)

def EmergencyRule.render (r : EmergencyRule) : Text :=
  if !r.enabled then "disabled"
  else
    let names : List Text :=
      (if r.onCurrentPathUnauthorized then ["unauthorized"] else []) ++
      (if r.onCurrentPathUnavailable then ["unavailable"] else []) ++
      (if r.onHardFailureSignal then ["hard_failure"] else [])
    Text.concat ["enabled(", Text.join "," names, ")"]

/-! ## Semantics -/

def policySemanticsVersion : UInt32 := 1

structure PolicySemantics where
  semanticsVersion : UInt32 := policySemanticsVersion
  target : PolicyTarget
  thresholds : List ThresholdRule := []
  improvements : List ImprovementRule := []
  evidence : List EvidenceRequirement := []
  holdDown : DurationRule := {}
  cooldown : DurationRule := {}
  dampening : DampeningRule := {}
  churn : ChurnBounds := {}
  objective : ObjectiveSpec := {}
  emergency : EmergencyRule := {}
  priorities : List CandidatePriority := []
  deriving DecidableEq, Repr

namespace PolicySemantics

open Guard

def hasTrigger (s : PolicySemantics) : Bool := !s.thresholds.isEmpty || !s.improvements.isEmpty

/-- The first declared requirement for a metric. -/
def findRequirement (s : PolicySemantics) (kind : MetricKind) : Option EvidenceRequirement :=
  s.evidence.find? fun requirement => requirement.kind == kind

def priorityOf (s : PolicySemantics) (path : PathId) : UInt32 :=
  match s.priorities.find? fun entry => entry.path == path with
  | some entry => entry.priority
  | none => 0

/-- `PolicySemantics::valid`, with the reason of the first defect. -/
def check (s : PolicySemantics) : Except Text Unit := do
  refuseIf (s.semanticsVersion != policySemanticsVersion) "unsupported policy semantics version"
  refuseIf (!s.target.wellFormed) "policy target is not well formed"
  refuseIf (!s.hasTrigger) "policy declares no trigger condition"
  refuseIf (s.thresholds.any (!·.valid)) "threshold rule is inverted, degenerate or incomparable"
  refuseIf (s.improvements.any (!·.valid)) "improvement rule is out of range or requires nothing"
  refuseIf (hasDuplicates (s.improvements.map (·.kind))) "duplicate improvement rule for one metric"
  refuseIf (hasDuplicates (s.thresholds.map (·.kind))) "duplicate threshold rule for one metric"
  refuseIf s.evidence.isEmpty "policy declares no evidence requirement"
  refuseIf (s.evidence.any (!·.valid))
    "evidence requirement is malformed or lacks a freshness bound"
  refuseIf (hasDuplicates (s.evidence.map (·.kind)))
    "duplicate evidence requirement for one metric"
  refuseIf (!s.dampening.valid) "dampening rule is not bounded or is partially configured"
  refuseIf (s.dampening.enabled && s.holdDown.duration == 0)
    "dampening requires a non-zero base hold-down"
  refuseIf (s.dampening.enabled && s.dampening.maxEffectiveHoldDown < s.holdDown.duration)
    "dampening cap is below the base hold-down"
  refuseIf (!s.churn.valid) "churn bound has no window"
  refuseIf (!s.objective.valid) "objective specification is empty, duplicated or not normalized"
  refuseIf (!s.emergency.valid) "emergency override is enabled without a condition"
  refuseIf (s.priorities.any (!·.path.valid)) "candidate priority names an invalid path"
  refuseIf (hasDuplicates (s.priorities.map (·.path)))
    "duplicate candidate priority for one path"
  refuseIf (s.improvements.any fun rule => (s.findRequirement rule.kind).isNone)
    "improvement rule uses a metric with no evidence requirement"
  refuseIf (s.thresholds.any fun rule => (s.findRequirement rule.kind).isNone)
    "threshold rule uses a metric with no evidence requirement"
  refuseIf (s.objective.terms.any fun term => (s.findRequirement term.kind).isNone)
    "objective term uses a metric with no evidence requirement"

def render (s : PolicySemantics) : Text :=
  let bracket (name : Text) (value : Text) : Text := Text.concat [" ", name, "[", value, "]"]
  Text.concat ["semantics_version=", natText s.semanticsVersion.toNat,
    bracket "target" s.target.render,
    Text.concat (s.thresholds.map fun rule => bracket "threshold" rule.render),
    Text.concat (s.improvements.map fun rule => bracket "improvement" rule.render),
    Text.concat (s.evidence.map fun requirement => bracket "evidence" requirement.render),
    bracket "hold_down" s.holdDown.render, bracket "cooldown" s.cooldown.render,
    bracket "dampening" s.dampening.render, bracket "churn" s.churn.render,
    bracket "objective" s.objective.render, bracket "emergency" s.emergency.render,
    Text.concat (s.priorities.map fun entry =>
      bracket "priority" (Text.concat [entry.path.text, "=", natText entry.priority.toNat]))]

end PolicySemantics

/-! ## Policies -/

structure AdaptivePolicy where
  id : AdaptivePolicyId
  name : AdaptivePolicyName
  scope : PolicyScope
  semantics : PolicySemantics
  generation : AdaptivePolicyGeneration := {}
  lifecycle : PolicyLifecycle := .declared
  epoch : CoordinatorEpoch := {}
  owner : PublisherId := default
  authorityGeneration : AdaptiveAuthorityGeneration := {}
  declaredAt : Ticks := 0
  updatedAt : Ticks := 0
  deriving DecidableEq, Repr

structure PolicyUpdate where
  scope : PolicyScope
  semantics : PolicySemantics
  deriving DecidableEq, Repr

end AdaptiveRouting
