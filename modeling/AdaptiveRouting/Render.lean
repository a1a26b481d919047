import AdaptiveRouting.View

/-!
# Renderings

What a peer or an operator reads of the engine's values: the names of suppression reasons, units and
currentness, and the lines of results, preferences, dependencies, registrations and snapshots.
-/

namespace AdaptiveRouting

/-! ## Names -/

def SuppressionReason.text : SuppressionReason → Text
  | .none => "NONE"
  | .belowThreshold => "BELOW_THRESHOLD"
  | .hysteresisNotCleared => "HYSTERESIS_NOT_CLEARED"
  | .holdDownActive => "HOLD_DOWN_ACTIVE"
  | .cooldownActive => "COOLDOWN_ACTIVE"
  | .insufficientSamples => "INSUFFICIENT_SAMPLES"
  | .staleEvidence => "STALE_EVIDENCE"
  | .noEligibleAlternative => "NO_ELIGIBLE_ALTERNATIVE"
  | .policySuspended => "POLICY_SUSPENDED"
  | .revalidationRequired => "REVALIDATION_REQUIRED"
  | .churnLimitReached => "CHURN_LIMIT_REACHED"
  | .currentPreferenceIneligible => "CURRENT_PREFERENCE_INELIGIBLE"
  | .noTriggerDeclared => "NO_TRIGGER_DECLARED"
  | .meritNotEstablished => "MERIT_NOT_ESTABLISHED"
  | .evidenceUnknown => "EVIDENCE_UNKNOWN"
  | .dampeningExtendedHoldDown => "DAMPENING_EXTENDED_HOLD_DOWN"
  | .policyNotActive => "POLICY_NOT_ACTIVE"
  | .policyRevoked => "POLICY_REVOKED"
  | .policyRetired => "POLICY_RETIRED"
  | .upstreamDependencyStale => "UPSTREAM_DEPENDENCY_STALE"
  | .reverseRequirementNotMet => "REVERSE_REQUIREMENT_NOT_MET"

def MetricUnit.text : MetricUnit → Text
  | .basisPoints => "BASIS_POINTS"
  | .microseconds => "MICROSECONDS"
  | .ppm => "PPM"
  | .count => "COUNT"
  | .flag => "FLAG"

def Currentness.text : Currentness → Text
  | .current => "CURRENT"
  | .staleEvidence => "STALE_EVIDENCE"
  | .stalePathAuthority => "STALE_PATH_AUTHORITY"
  | .staleMultipathSet => "STALE_MULTIPATH_SET"
  | .staleRoute => "STALE_ROUTE"
  | .stalePolicy => "STALE_POLICY"
  | .staleEpoch => "STALE_EPOCH"
  | .fencedPublisher => "FENCED_PUBLISHER"
  | .holdDownActive => "HOLD_DOWN_ACTIVE"
  | .cooldownActive => "COOLDOWN_ACTIVE"
  | .revalidationRequired => "REVALIDATION_REQUIRED"

def ExplanationTopic.text : ExplanationTopic → Text
  | .whyAdapted => "WHY_ADAPTED"
  | .whyNotAdapted => "WHY_NOT_ADAPTED"
  | .evidenceThreshold => "EVIDENCE_THRESHOLD"
  | .staleEvidence => "STALE_EVIDENCE"
  | .rejectedCandidate => "REJECTED_CANDIDATE"
  | .candidateComparison => "CANDIDATE_COMPARISON"
  | .hysteresis => "HYSTERESIS"
  | .holdDown => "HOLD_DOWN"
  | .staleGeneration => "STALE_GENERATION"
  | .rollbackRefused => "ROLLBACK_REFUSED"
  | .authorityOwner => "AUTHORITY_OWNER"
  | .governingEpoch => "GOVERNING_EPOCH"

/-! ## Lines -/

section
variable {g : GenerationDomain} {d : IdDomain}

/-- The number of a generation. -/
def Generation.text (generation : Generation g) : Text := natText generation.value.toNat

/-- A labelled part of a line that is there when the value is. -/
def part (present : Bool) (parts : List Text) : Text := if present then Text.concat parts else []

end

/-- `OperationResult::render`. -/
def OperationResult.render (r : OperationResult) : Text :=
  Text.concat [r.outcome.text,
    part (r.suppression != .none) [" suppression=", r.suppression.text],
    part r.policy.valid [" policy=", r.policy.text,
      part r.policyGeneration.valid ["@", r.policyGeneration.text]],
    part r.decision.valid [" decision=", r.decision.text],
    part r.adaptationGeneration.valid [" adaptation=", r.adaptationGeneration.text],
    part r.transitionGeneration.valid [" transition=", r.transitionGeneration.text],
    part r.evidenceGeneration.valid [" evidence=", r.evidenceGeneration.text],
    part r.epoch.valid [" epoch=", r.epoch.text],
    part (!r.detail.isEmpty) [" detail=", r.detail]]

def MetricValue.render (value : MetricValue) : Text :=
  if value.valid then
    Text.concat [value.kind.text, "=", intText value.value, value.unit.text, "(v",
      natText value.semanticsVersion.toNat, ")"]
  else "invalid"

def ticksPerMicrosecond : Ticks := 1000

def EvidenceAggregate.render (a : EvidenceAggregate) : Text :=
  if a.valid then
    Text.concat [a.value.render, " samples=", natText a.sampleCount.toNat, " window_us=",
      natText (a.window / ticksPerMicrosecond).toNat, " agg=", a.aggregation.text]
  else "absent"

def AuthorityScope.render (s : AuthorityScope) : Text :=
  Text.concat ["fabric=", s.fabric.text, " namespace=", s.nameSpace.text, " routes=",
    renderIds s.routes, " multipath_sets=", renderIds s.multipathSets]

def PublisherRegistration.render (r : PublisherRegistration) : Text :=
  Text.concat ["publisher=", r.publisher.text, " boot=", r.workerBoot.text, " epoch=", r.epoch.text,
    " authority=", r.authorityGeneration.text, " session=", r.session.text, " scope[",
    r.scope.render, "]"]

def FenceRecord.render (f : FenceRecord) : Text :=
  Text.concat ["publisher=", f.publisher.text, " boot=", f.workerBoot.text, " epoch=", f.epoch.text,
    " cause=", f.cause]

def WeightProposal.render (p : WeightProposal) : Text :=
  Text.concat ["set=", p.set.text, " base=", p.baseGeneration.text,
    Text.concat (p.weights.map fun weight =>
      Text.concat [" ", weight.path.text, "=", natText weight.weightBps.toNat])]

def RoutingPreference.render (p : RoutingPreference) : Text :=
  if !p.established then Text.concat ["route=", p.route.text, " preferred=<none>"]
  else
    Text.concat ["route=", p.route.text, " preferred=", p.preferredPath.text, "@",
      p.pathAuthorityGeneration.text,
      part p.previousPath.valid [" previous=", p.previousPath.text],
      (p.multipathSet.map fun set =>
        Text.concat [" set=", set.text, "@", p.multipathSetGeneration.text]).getD [],
      " route_generation=", p.routeGeneration.text, " adaptation=", p.adaptationGeneration.text,
      " transition=", p.transitionGeneration.text,
      (p.weightProposal.map fun proposal =>
        Text.concat [" weight_proposal[", proposal.render, "]"]).getD []]

def StableState.render (s : StableState) : Text :=
  if s.established then
    Text.concat ["path=", s.path.text, "@", s.pathAuthorityGeneration.text, " route_generation=",
      s.routeGeneration.text, " adaptation=", s.adaptationGeneration.text]
  else "<never stable>"

/-- A candidate of a dependency snapshot, with what is recorded at its index. -/
def DependencySnapshot.renderCandidate (s : DependencySnapshot) (path : PathId) (index : Nat) :
    Text :=
  Text.concat [" candidate[", path.text,
    (s.candidatePathAuthority[index]?.map fun authority =>
      Text.concat ["@", authority.generation.text]).getD [],
    (s.candidatePathWatermarks[index]?.map fun watermark =>
      Text.concat [" wm=", natText watermark.toNat]).getD [],
    "]"]

def DependencySnapshot.render (s : DependencySnapshot) : Text :=
  Text.concat ["evaluation=", s.evaluation.text, " policy=", s.policy.text, "@",
    s.policyGeneration.text, " evidence=", s.evidenceGeneration.text, " evidence_watermark=",
    natText s.evidenceWatermark.value.toNat, " upstream_watermark=",
    natText s.upstreamWatermark.value.toNat, " epoch=", s.epoch.text, " authority=",
    s.authorityGeneration.text, " route_generation=", s.routeGeneration.text,
    (s.multipathSet.map fun set =>
      Text.concat [" set=", set.text, "@", s.multipathSetGeneration.text]).getD [],
    Text.concat (s.candidates.mapIdx fun index path => s.renderCandidate path index)]

/-! ## Snapshots -/

def CandidateView.render (c : CandidateView) : Text :=
  Text.concat ["\n  candidate[", c.binding.render, if c.eligible then " ELIGIBLE" else " INELIGIBLE",
    part (c.rejection != .none) [":", c.rejection.text],
    (c.score.map fun score => Text.concat [" score=", natText score.toNat]).getD [],
    part c.currentPreference [" current"], part c.previousPreference [" previous"], "]"]

def AdaptationRecord.render (r : AdaptationRecord) : Text :=
  Text.concat ["\n  history[", r.lifecycle.text, " ", r.outcome.text, " ", r.fromPath.text, "->",
    r.toPath.text, " digest=", r.digest, "]"]

namespace AdaptationSnapshot

/-- A timer: whether it runs, and for how long. -/
def renderTimer (active : Bool) (remaining : Ticks) : Text :=
  Text.concat [if active then "active" else "clear", " remaining_ms=",
    natText (remaining / ticksPerMillisecond).toNat]

/-- The policy, its definition and its preference. -/
def renderPolicy (s : AdaptationSnapshot) : Text :=
  Text.concat ["snapshot=", s.id.text, " policy=", s.policy.text, "@", s.policyGeneration.text,
    " name=", s.policyName.text, " lifecycle=", s.lifecycle.text, " epoch=", s.epoch.text,
    " authority=", s.authorityGeneration.text, "\n  scope[", s.scope.render, "]\n  semantics[",
    s.semantics.render, "]\n  preference[", s.preference.render, "]\n  stable[", s.stable.render, "]"]

/-- The currentness, the timers and the generations. -/
def renderStatus (s : AdaptationSnapshot) : Text :=
  Text.concat ["\n  currentness=", s.currentness.text,
    Text.concat (s.blockers.map fun blocker => Text.concat [" blocker=", blocker.text]),
    "\n  hold_down=", renderTimer s.holdDownActive s.holdDownRemaining,
    " cooldown=", renderTimer s.cooldownActive s.cooldownRemaining,
    " dampening_penalty=", natText s.dampeningPenalty.toNat, "\n  adaptation=",
    s.adaptationGeneration.text, " transition=", s.transitionGeneration.text, " evidence=",
    s.evidenceGeneration.text, " evidence_watermark=", natText s.evidenceWatermark.value.toNat,
    " upstream_watermark=", natText s.upstreamWatermark.value.toNat]

def render (s : AdaptationSnapshot) : Text :=
  Text.concat [s.renderPolicy, s.renderStatus, Text.concat (s.candidates.map CandidateView.render),
    Text.concat (s.history.map AdaptationRecord.render), "\n  digest=", s.digest]

end AdaptationSnapshot

end AdaptiveRouting
