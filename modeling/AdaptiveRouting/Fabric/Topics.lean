import AdaptiveRouting.Fabric.Explain
import AdaptiveRouting.Render

/-!
# What is explained

`build_explanation`, topic by topic: the entries a topic has, in the order they are added. Entries
beyond the bound are dropped, and a marker takes the place of the last one that is kept when the bound
is reached (`markTruncated`).
-/

namespace AdaptiveRouting

def boolText (flag : Bool) : Text := if flag then "true" else "false"

/-- The marker of an answer that was cut short; a bound of zero keeps nothing to replace. -/
def markTruncated (maxEntries : UInt64) (entries : List ExplanationEntry) : List ExplanationEntry :=
  if maxEntries != 0 && reaches entries.length maxEntries then
    entries.dropLast ++ [{ key := "truncated", value := "explanation entry limit reached" }]
  else entries

section
variable (s : State) (record : PolicyRecord) (inputs : EvaluationInputs)

/-! ## Decisions -/

/-- The last committed adaptation of a history. -/
def lastCommitted (history : List AdaptationRecord) : Option AdaptationRecord :=
  (history.filter (·.lifecycle == .committed)).getLast?

/-- What the journal adds about a decision it still holds. -/
def journalEntries (decision : AdaptationDecision) : List ExplanationEntry :=
  (decision.improvementBps.map fun bps : UInt32 =>
    { key := "observed_improvement_bps", value := natText bps.toNat }).toList ++
  [{ key := "required_improvement_bps", value := natText decision.requiredImprovementBps.toNat }] ++
  (decision.targetScore.map fun score : UInt64 =>
    { key := "target_score", value := natText score.toNat }).toList

def adaptedEntries (last : AdaptationRecord) : List ExplanationEntry :=
  [{ key := "adapted", value := Text.concat [last.fromPath.text, " -> ", last.toPath.text] },
   { key := "cause", value := last.cause.text },
   { key := "adaptation_generation", value := last.adaptationGeneration.text },
   { key := "evidence_generation", value := last.evidenceGeneration.text },
   { key := "decision_digest", value := last.digest }] ++
  ((s.decisionJournal.find? (·.id == last.decision)).map journalEntries).getD []

def lastEntries (last : Option AdaptationRecord) : List ExplanationEntry :=
  match last with
  | some last =>
    [{ key := "last_outcome", value := last.outcome.text },
     { key := "last_suppression", value := last.suppression.text },
     { key := "last_decision", value := last.decision.text }]
  | none => [{ key := "last_outcome", value := "never evaluated" }]

def standingEntries : List ExplanationEntry :=
  [{ key := "lifecycle", value := record.policy.lifecycle.text },
   { key := "hold_down_active", value := boolText record.timing.holdDownActive },
   { key := "cooldown_active", value := boolText record.timing.cooldownActive },
   { key := "candidate_count", value := natText record.candidates.length }]

/-! ## Evidence -/

/-- A key for the metric of a candidate. -/
def metricKey (label : Text) (path : PathId) (kind : MetricKind) : Text :=
  Text.concat [label, ".", path.text, ".", kind.text]

def thresholdEntries (label : Text) : List ExplanationEntry :=
  record.policy.semantics.thresholds.map fun rule =>
    { key := Text.concat [label, ".", rule.kind.text], value := rule.render }

def improvementEntries : List ExplanationEntry :=
  record.policy.semantics.improvements.map fun rule =>
    { key := Text.concat ["improvement.", rule.kind.text], value := rule.render }

/-- One entry for every candidate and requirement. -/
def evidenceEntries (label : Text)
    (value : PathId → EvidenceRequirement → Text) : List ExplanationEntry :=
  record.candidates.flatMap fun candidate =>
    record.policy.semantics.evidence.map fun requirement =>
      { key := metricKey label candidate.binding.path requirement.kind
        value := value candidate.binding.path requirement }

/-- The aggregate that is resolved for a candidate's metric. -/
def EvaluationInputs.resolved (path : PathId) (kind : MetricKind) : Option EvidenceAggregate :=
  ((inputs.evidence.find path kind).map (·.aggregate)).filter (·.valid)

def valueText (path : PathId) (requirement : EvidenceRequirement) : Text :=
  match inputs.resolved path requirement.kind with
  | none => "absent"
  | some aggregate =>
    Text.concat [aggregate.render, " age_ms=", ticksMs (aggregate.age inputs.now)]

/-- An aggregate that does not meet its requirement's bounds. -/
def staleAggregate (now : Ticks) (requirement : EvidenceRequirement) (aggregate : EvidenceAggregate) :
    Bool :=
  aggregate.age now > requirement.maxAge || aggregate.sampleCount < requirement.minSamples ||
    aggregate.window < requirement.minWindow

def freshnessText (path : PathId) (requirement : EvidenceRequirement) : Text :=
  match inputs.resolved path requirement.kind with
  | none => "no sample retained"
  | some aggregate =>
    Text.concat [if staleAggregate inputs.now requirement aggregate then "stale" else "current",
      " age_ms=", ticksMs (aggregate.age inputs.now), " max_age_ms=", ticksMs requirement.maxAge,
      " samples=", natText aggregate.sampleCount.toNat, " min_samples=",
      natText requirement.minSamples.toNat, " window_ms=", ticksMs aggregate.window,
      " min_window_ms=", ticksMs requirement.minWindow]

/-! ## Candidates -/

def rankedText (ranked : CandidateEvaluation) : Text :=
  Text.concat [
    if ranked.eligible then "eligible" else Text.concat ["ineligible:", ranked.rejection.text],
    " quality=", ranked.quality.text, " priority=", natText ranked.priority.toNat,
    (ranked.score.map fun score => Text.concat [" score=", natText score.toNat]).getD [],
    Text.concat (ranked.metrics.map fun metric => Text.concat [" ", metric.render]),
    (ranked.observedImprovementBps.map fun bps =>
      Text.concat [" improvement_bps=", natText bps.toNat]).getD [],
    part ranked.currentPreference [" current"], part ranked.previousPreference [" previous"]]

def rankingEntries (ranking : List CandidateEvaluation) : List ExplanationEntry :=
  ranking.mapIdx fun index ranked =>
    { key := Text.concat ["rank", natText (index + 1), ".", ranked.path.text]
      value := rankedText ranked }

/-- The evaluation an explanation compares the candidates by. -/
def explainedTicket : EvaluationTicket :=
  inputs.evaluate (s.buildDependencies inputs.now record default)

/-! ## State -/

def hysteresisEntries : List ExplanationEntry :=
  thresholdEntries record "band" ++ improvementEntries record ++
    [{ key := "reverse_target"
       value := if record.preference.previousPath.valid then record.preference.previousPath.text
        else "none" },
     { key := "dampening_penalty", value := natText record.timing.dampeningPenalty.toNat }]

def generationEntries : List ExplanationEntry :=
  [{ key := "policy_generation", value := record.policy.generation.text },
   { key := "evidence_generation", value := s.evidenceGeneration.text },
   { key := "evidence_watermark", value := natText s.evidenceWatermark.value.toNat },
   { key := "upstream_watermark", value := natText s.upstreamWatermark.value.toNat },
   { key := "adaptation_generation", value := record.preference.adaptationGeneration.text },
   { key := "transition_generation", value := record.preference.transitionGeneration.text }] ++
  record.candidates.map fun candidate =>
    { key := Text.concat ["candidate.", candidate.binding.path.text]
      value := Text.concat ["authority_generation=", candidate.binding.pathAuthority.generation.text,
        " route_generation=", candidate.binding.route.generation.text, " path_watermark=",
        natText candidate.pathWatermark.toNat] }

/-- The anchor a rollback would restore. -/
def anchorEntries : List ExplanationEntry :=
  if record.stable.established then
    let found := record.findCandidate record.stable.path
    [{ key := "stable_path", value := record.stable.path.text },
     { key := "stable_path_is_candidate", value := boolText found.isSome }] ++
    (found.map fun candidate : CandidateRecord =>
      [{ key := "stable_path_legal", value := boolText candidate.binding.pathAuthority.legal },
       { key := "stable_path_available", value := boolText candidate.binding.available }]).getD []
  else []

def rollbackEntries : List ExplanationEntry :=
  [{ key := "stable_established", value := boolText record.stable.established }] ++
    anchorEntries record ++
    [{ key := "current_preference"
       value := if record.preference.established then record.preference.preferredPath.text
        else "none" }]

def ownerEntries : List ExplanationEntry :=
  (s.registrations.toList.map fun entry =>
    { key := Text.concat ["publisher.", entry.1.text], value := entry.2.render }) ++
  (s.fences.map fun fence =>
    { key := Text.concat ["fence.", fence.workerBoot.text], value := fence.render }) ++
  [{ key := "policy_owner", value := record.policy.owner.text }]

def epochEntries : List ExplanationEntry :=
  [{ key := "epoch", value := s.epoch.text },
   { key := "authority_generation", value := s.authorityGeneration.text },
   { key := "policy_epoch", value := record.policy.epoch.text },
   { key := "epoch_matches_policy", value := boolText (s.epoch == record.policy.epoch) }]

/-! ## Explanations -/

/-- The explanation of a topic, with all the entries it has. -/
def topicExplanation (now : Ticks) : ExplanationTopic → Explanation
  | .whyAdapted =>
    match lastCommitted record.history with
    | none =>
      { topic := .whyAdapted, policy := record.policy.id
        entries := [{ key := "adapted", value := "never" }] }
    | some last =>
      { topic := .whyAdapted, policy := record.policy.id, decision := last.decision
        outcome := last.outcome, entries := adaptedEntries s last }
  | .whyNotAdapted =>
    let explanation : Explanation :=
      { policy := record.policy.id
        entries := lastEntries record.history.getLast? ++ standingEntries record }
    match record.history.getLast? with
    | none => explanation
    | some last => { explanation with
        decision := last.decision, outcome := last.outcome, suppression := last.suppression }
  | .evidenceThreshold =>
    { topic := .evidenceThreshold, policy := record.policy.id
      entries := thresholdEntries record "threshold" ++ improvementEntries record ++
        evidenceEntries record "value" (valueText inputs) }
  | .staleEvidence =>
    { topic := .staleEvidence, policy := record.policy.id
      entries := evidenceEntries record "freshness" (freshnessText inputs) }
  | .rejectedCandidate => comparison .rejectedCandidate
  | .candidateComparison => comparison .candidateComparison
  | .hysteresis =>
    { topic := .hysteresis, policy := record.policy.id, entries := hysteresisEntries record }
  | .holdDown =>
    { topic := .holdDown, policy := record.policy.id, entries := holdDownEntries now record }
  | .staleGeneration =>
    { topic := .staleGeneration, policy := record.policy.id, entries := generationEntries s record }
  | .rollbackRefused =>
    { topic := .rollbackRefused, policy := record.policy.id, entries := rollbackEntries record }
  | .authorityOwner =>
    { topic := .authorityOwner, policy := record.policy.id, entries := ownerEntries s record }
  | .governingEpoch =>
    { topic := .governingEpoch, policy := record.policy.id, entries := epochEntries s record }
where
  comparison (topic : ExplanationTopic) : Explanation :=
    let ticket := explainedTicket s record inputs
    { topic, policy := record.policy.id, outcome := ticket.outcome, suppression := ticket.suppression
      entries := rankingEntries ticket.ranking }

end

/-- `build_explanation`. -/
def buildExplanation (limits : Limits) (s : State) (record : PolicyRecord) (inputs : EvaluationInputs)
    (now : Ticks) (topic : ExplanationTopic) : Explanation :=
  let explanation := topicExplanation s record inputs now topic
  { explanation with
    entries := markTruncated limits.maxExplanationEntries
      (explanation.entries.foldl (addEntry limits.maxExplanationEntries) []) }

/-- `explain`, with the identity of the evidence snapshot it captures. -/
def State.explain (limits : Limits) (s : State) (now : Ticks) (evidence : EvidenceSnapshotId)
    (topic : ExplanationTopic) (policy : AdaptivePolicyId) : Explanation :=
  match s.policies[policy]? with
  | none =>
    { topic, policy, outcome := .notFound
      entries := addEntry limits.maxExplanationEntries []
        { key := "error", value := "policy does not exist" } }
  | some record => buildExplanation limits s record (s.copyInputs now evidence record) now topic

/-- `Explanation::render`. -/
def Explanation.render (explanation : Explanation) : Text :=
  Text.concat [explanation.topic.text,
    part explanation.policy.valid [" policy=", explanation.policy.text],
    part explanation.decision.valid [" decision=", explanation.decision.text],
    " outcome=", explanation.outcome.text,
    part (explanation.suppression != .none) [" suppression=", explanation.suppression.text],
    Text.concat (explanation.entries.map fun entry =>
      Text.concat ["\n  ", entry.key, ": ", entry.value])]

end AdaptiveRouting
