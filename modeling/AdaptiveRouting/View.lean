import AdaptiveRouting.Decision

/-!
# Semantic digests and snapshots

The digests of a policy and of a decision, the immutable point-in-time view of a policy and its
digest, and what an explanation can be asked about.
-/

namespace AdaptiveRouting

def digestEncodingVersion : UInt32 := 1

namespace Digest

def writeThreshold (g : Digest) (rule : ThresholdRule) : Digest :=
  ((g.writeU8 rule.kind.code).writeMetric rule.switchValue).writeMetric rule.clearValue

def writeImprovement (g : Digest) (rule : ImprovementRule) : Digest :=
  ((g.writeU8 rule.kind.code).writeU32 rule.switchImprovementBps).writeU32
    rule.reverseImprovementBps

def writeRequirement (g : Digest) (r : EvidenceRequirement) : Digest :=
  (((((((g.writeU8 r.kind.code).writeU8 r.aggregation.code).writeU32 r.ewmaAlphaBps).writeU32
    r.minSamples).writeU64 r.maxAge).writeU64 r.minWindow).writeU8 r.minQuality.code).writeBool
    r.required

def writeDampening (g : Digest) (r : DampeningRule) : Digest :=
  ((((((g.writeBool r.enabled).writeU32 r.penaltyIncrement).writeU32 r.maxPenalty).writeU64
    r.penaltyDecayInterval).writeU32 r.penaltyDecayStep).writeU64
    r.holdDownEscalationStep).writeU64 r.maxEffectiveHoldDown

def writeTerm (g : Digest) (term : ObjectiveTerm) : Digest :=
  (g.writeU8 term.kind.code).writeU32 term.weightBps

def writeEmergency (g : Digest) (r : EmergencyRule) : Digest :=
  (((g.writeBool r.enabled).writeBool r.onCurrentPathUnauthorized).writeBool
    r.onCurrentPathUnavailable).writeBool r.onHardFailureSignal

def writePriority (g : Digest) (entry : CandidatePriority) : Digest :=
  (g.writeId entry.path).writeU32 entry.priority

/-- The rules keyed by a metric, and the priorities, are digested in key order. -/
def writeSemantics (g : Digest) (s : PolicySemantics) : Digest :=
  let g := (g.writeTag "semantics").writeU32 s.semanticsVersion
  let g := writeOption writeId (g.writeId s.target.route) s.target.multipathSet
  let g := writeList writeThreshold g
    (s.thresholds.insertionSort fun a b => a.kind.code ≤ b.kind.code)
  let g := writeList writeImprovement g
    (s.improvements.insertionSort fun a b => a.kind.code ≤ b.kind.code)
  let g := writeList writeRequirement g
    (s.evidence.insertionSort fun a b => a.kind.code ≤ b.kind.code)
  let g := (g.writeU64 s.holdDown.duration).writeU64 s.cooldown.duration
  let g := g.writeDampening s.dampening
  let g := (g.writeU32 s.churn.maxAdaptationsPerWindow).writeU64 s.churn.window
  let g := (g.writeU8 s.objective.mode.code).writeU32 s.objective.scoringVersion
  let g := writeList writeTerm g s.objective.terms
  let g := g.writeEmergency s.emergency
  writeList writePriority g (s.priorities.insertionSort fun a b => !(b.path < a.path : Bool))

def writeScope (g : Digest) (s : PolicyScope) : Digest :=
  let g := ((g.writeTag "scope").writeId s.fabric).writeId s.nameSpace
  let g := writeOption writeId g s.site
  let g := writeOption writeId g (if s.pathClass.valid then some s.pathClass else none)
  let g := writeList writeId g (s.routes.insertionSort fun a b => !(b < a : Bool))
  writeList writeId g (s.multipathSets.insertionSort fun a b => !(b < a : Bool))

end Digest

/-- The digest of the semantic state of a policy: ticks, its owner and the epoch are left out. -/
def policySemanticDigest (policy : AdaptivePolicy) : Text :=
  let g := (({} : Digest).writeTag "adaptive-policy").writeU32 digestEncodingVersion
  let g := ((g.writeId policy.id).writeId policy.name).writeScope policy.scope
  let g := (g.writeSemantics policy.semantics).writeU8 policy.lifecycle.code
  (g.writeGeneration policy.generation).hex

namespace Digest

/-- A candidate of a decision's ranking. -/
def writeRanked (g : Digest) (entry : CandidateEvaluation) : Digest :=
  let g := (((g.writeId entry.path).writeBool entry.eligible).writeU8 entry.rejection.code).writeU8
    entry.quality.code
  let g := writeList writeMetric (writeOption writeU64 g entry.score) entry.metrics
  let g := ((g.writeU32 entry.priority).writeBool entry.currentPreference).writeBool
    entry.previousPreference
  writeOption writeU32 (g.writeU32 entry.requiredImprovementBps) entry.observedImprovementBps

end Digest

/-- The digest of what a decision says: identities, clock readings and counters derived from the
ranking are left out. -/
def decisionDigest (d : AdaptationDecision) : Text :=
  let g := (({} : Digest).writeTag "adaptation-decision").writeU32 digestEncodingVersion
  let g := (g.writeId d.policy).writeGeneration d.policyGeneration
  let g := (g.writeU8 d.lifecycle.code).writeU8 d.cause.code
  let g := (g.writeU16 d.outcome.code).writeU8 d.suppression.code
  let g := (g.writeGeneration d.epoch).writeGeneration d.authorityGeneration
  let g := (g.writeId d.route).writeGeneration d.routeGeneration
  let g := Digest.writeOption
    (fun g set => (g.writeId set).writeGeneration d.multipathSetGeneration) g d.multipathSet
  let g := ((g.writeGeneration d.evidenceGeneration).writeU64 d.evidenceWatermark.value).writeU64
    d.upstreamWatermark.value
  let g := ((g.writeBool d.hadCurrentPreference).writeId d.currentPreference).writeGeneration
    d.currentPreferenceAuthorityGeneration
  let g := (g.writeId d.targetPreference).writeGeneration d.targetPreferenceAuthorityGeneration
  let g := (g.writeGeneration d.adaptationGeneration).writeGeneration d.transitionGeneration
  let g := Digest.writeOption Digest.writeU64 g d.targetScore
  let g := Digest.writeOption Digest.writeU32 g d.improvementBps
  let g := g.writeU32 d.requiredImprovementBps
  (Digest.writeList Digest.writeRanked g d.ranking).hex

/-! ## Snapshots -/

structure CandidateView where
  binding : CandidateBinding
  eligible : Bool := false
  rejection : SuppressionReason := .none
  quality : EvidenceQuality := .estimated
  score : Option UInt64 := none
  metrics : List MetricValue := []
  priority : UInt32 := 0
  currentPreference : Bool := false
  previousPreference : Bool := false
  pathWatermark : UInt64 := 0
  deriving DecidableEq, Repr

structure AdaptationRecord where
  decision : AdaptationDecisionId := default
  lifecycle : DecisionLifecycle := .proposed
  outcome : Outcome := .noChange
  suppression : SuppressionReason := .none
  cause : AdaptationCause := .declared
  fromPath : PathId := default
  toPath : PathId := default
  adaptationGeneration : AdaptationGeneration := {}
  evidenceGeneration : EvidenceGeneration := {}
  epoch : CoordinatorEpoch := {}
  committedAt : Ticks := 0
  digest : Text := []
  deriving DecidableEq, Repr

/-- An immutable point-in-time view of one policy. -/
structure AdaptationSnapshot where
  id : SnapshotId
  epoch : CoordinatorEpoch
  authorityGeneration : AdaptiveAuthorityGeneration
  policy : AdaptivePolicyId
  policyGeneration : AdaptivePolicyGeneration
  policyName : AdaptivePolicyName
  scope : PolicyScope
  lifecycle : PolicyLifecycle
  semantics : PolicySemantics
  preference : RoutingPreference
  stable : StableState
  candidates : List CandidateView
  evidence : EvidenceSnapshot
  currentness : Currentness
  blockers : List Currentness
  holdDownActive : Bool
  holdDownRemaining : Ticks
  cooldownActive : Bool
  cooldownRemaining : Ticks
  dampeningPenalty : UInt32
  adaptationGeneration : AdaptationGeneration
  transitionGeneration : TransitionGeneration
  evidenceGeneration : EvidenceGeneration
  evidenceWatermark : Watermark
  upstreamWatermark : Watermark
  history : List AdaptationRecord
  digest : Text := []
  capturedAt : Ticks
  deriving DecidableEq, Repr

namespace Digest

def writeProposal (g : Digest) (p : WeightProposal) : Digest :=
  writeList (fun g (weight : PathWeight) => (g.writeId weight.path).writeU32 weight.weightBps)
    ((g.writeId p.set).writeGeneration p.baseGeneration) p.weights

def writePreference (g : Digest) (p : RoutingPreference) : Digest :=
  if p.established then
    let g := (((g.writeBool true).writeId p.preferredPath).writeGeneration
      p.pathAuthorityGeneration).writeGeneration p.routeGeneration
    let g := writeOption
      (fun g set => (g.writeId set).writeGeneration p.multipathSetGeneration) g p.multipathSet
    writeOption writeProposal g p.weightProposal
  else g.writeBool false

def writeStable (g : Digest) (s : StableState) : Digest :=
  if s.established then
    ((((g.writeBool true).writeId s.path).writeGeneration s.pathAuthorityGeneration).writeGeneration
      s.routeGeneration).writeGeneration s.adaptationGeneration
  else g.writeBool false

def writeCandidateView (g : Digest) (c : CandidateView) : Digest :=
  let g := ((g.writeId c.binding.path).writeGeneration
    c.binding.pathAuthority.generation).writeBool c.binding.pathAuthority.legal
  let g := (g.writeBool c.binding.available).writeBool c.binding.hardFailure
  let g := writeOption
    (fun g (m : MultipathBinding) => (g.writeId m.set).writeGeneration m.generation) g
    c.binding.multipath
  let g := ((g.writeGeneration c.binding.route.generation).writeBool c.eligible).writeU8
    c.rejection.code
  let g := writeOption writeU64 (g.writeU8 c.quality.code) c.score
  (((g.writeU32 c.priority).writeBool c.currentPreference).writeBool
    c.previousPreference).writeU64 c.pathWatermark

def writeRecord (g : Digest) (r : AdaptationRecord) : Digest :=
  let g := ((g.writeString r.digest).writeU8 r.lifecycle.code).writeU16 r.outcome.code
  let g := ((g.writeU8 r.suppression.code).writeId r.fromPath).writeId r.toPath
  (g.writeGeneration r.adaptationGeneration).writeGeneration r.evidenceGeneration

end Digest

/-- The digest of what a snapshot says about its policy. -/
def snapshotDigest (s : AdaptationSnapshot) : Text :=
  let g := (({} : Digest).writeTag "adaptation-snapshot").writeU32 digestEncodingVersion
  let g := (g.writeGeneration s.epoch).writeGeneration s.authorityGeneration
  let g := ((g.writeId s.policy).writeGeneration s.policyGeneration).writeId s.policyName
  let g := ((g.writeScope s.scope).writeU8 s.lifecycle.code).writeSemantics s.semantics
  let g := (g.writePreference s.preference).writeStable s.stable
  let g := Digest.writeList Digest.writeCandidateView g s.candidates
  let g := Digest.writeList (fun g (c : Currentness) => g.writeU8 c.code)
    (g.writeU8 s.currentness.code) s.blockers
  let g := (g.writeBool s.holdDownActive).writeU64 s.holdDownRemaining
  let g := (g.writeBool s.cooldownActive).writeU64 s.cooldownRemaining
  let g := ((g.writeU32 s.dampeningPenalty).writeGeneration s.adaptationGeneration).writeGeneration
    s.transitionGeneration
  (Digest.writeList Digest.writeRecord g s.history).hex

/-! ## Explanations -/

inductive ExplanationTopic
  | whyAdapted | whyNotAdapted | evidenceThreshold | staleEvidence | rejectedCandidate
  | candidateComparison | hysteresis | holdDown | staleGeneration | rollbackRefused
  | authorityOwner | governingEpoch
  deriving DecidableEq, Repr

end AdaptiveRouting
