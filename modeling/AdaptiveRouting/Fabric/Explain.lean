import AdaptiveRouting.Fabric.Query

/-!
# Explanations

What an explanation says on the topic HOLD_DOWN: the declared hold-down and the one a penalty extends,
and what is left of the hold-down and the cooldown that run. What it says of a decision, which is
looked for in the journal. Entries beyond the bound are dropped.
-/

namespace AdaptiveRouting

structure ExplanationEntry where
  key : Text
  value : Text
  deriving DecidableEq, Repr

def ticksMs (value : Ticks) : Text :=
  Text.concat [natText (value / ticksPerMillisecond).toNat, "ms"]

def addEntry (maxEntries : UInt64) (entries : List ExplanationEntry) (entry : ExplanationEntry) :
    List ExplanationEntry :=
  if reaches entries.length maxEntries then entries else entries ++ [entry]

/-- The hold-down an explanation states as the effective one. -/
def explainedHoldDown (semantics : PolicySemantics) (penalty : UInt32) : Ticks :=
  if semantics.dampening.enabled then
    min (semantics.holdDown.duration + penalty.toUInt64 * semantics.dampening.holdDownEscalationStep)
      semantics.dampening.maxEffectiveHoldDown
  else semantics.holdDown.duration

/-- What `build_explanation` says on the topic HOLD_DOWN. -/
def holdDownEntries (now : Ticks) (record : PolicyRecord) : List ExplanationEntry :=
  let semantics := record.policy.semantics
  let timing := record.timing
  let flag (active : Bool) : Text := if active then "true" else "false"
  let remaining (active : Bool) (deadline : Ticks) : Text :=
    if active && deadline > now then ticksMs (deadline - now) else "0ms"
  [{ key := "hold_down_declared_ms", value := ticksMs semantics.holdDown.duration },
   { key := "hold_down_effective_ms"
     value := ticksMs (explainedHoldDown semantics timing.dampeningPenalty) },
   { key := "hold_down_active", value := flag timing.holdDownActive },
   { key := "hold_down_remaining_ms"
     value := remaining timing.holdDownActive timing.holdDownDeadline },
   { key := "cooldown_declared_ms", value := ticksMs semantics.cooldown.duration },
   { key := "cooldown_active", value := flag timing.cooldownActive },
   { key := "cooldown_remaining_ms"
     value := remaining timing.cooldownActive timing.cooldownDeadline }]

/-! ## Decisions -/

structure Explanation where
  topic : ExplanationTopic := .whyNotAdapted
  policy : AdaptivePolicyId := default
  decision : AdaptationDecisionId := default
  outcome : Outcome := .noChange
  suppression : SuppressionReason := .none
  entries : List ExplanationEntry := []
  deriving DecidableEq, Repr

def Explanation.find (explanation : Explanation) (key : Text) : Option Text :=
  (explanation.entries.find? (·.key == key)).map (·.value)

/-- The entries an explanation has of a decision, in the order they are added. -/
def decisionEntries (decision : AdaptationDecision) : List ExplanationEntry :=
  [{ key := "lifecycle", value := decision.lifecycle.text },
   { key := "cause", value := decision.cause.text },
   { key := "epoch", value := natText decision.epoch.value.toNat },
   { key := "route", value := decision.route.text },
   { key := "current_preference"
     value := if decision.hadCurrentPreference then decision.currentPreference.text else "none" },
   { key := "target_preference", value := decision.targetPreference.text },
   { key := "policy_generation", value := natText decision.policyGeneration.value.toNat },
   { key := "evidence_generation", value := natText decision.evidenceGeneration.value.toNat },
   { key := "evidence_snapshot", value := decision.evidenceSnapshot.text },
   { key := "adaptation_generation", value := natText decision.adaptationGeneration.value.toNat },
   { key := "transition_generation", value := natText decision.transitionGeneration.value.toNat },
   { key := "required_improvement_bps", value := natText decision.requiredImprovementBps.toNat }] ++
  (decision.improvementBps.map fun bps : UInt32 =>
    { key := "observed_improvement_bps", value := natText bps.toNat }).toList ++
  (decision.targetScore.map fun score : UInt64 =>
    { key := "target_score", value := natText score.toNat }).toList ++
  [{ key := "candidates_considered", value := natText decision.candidatesConsidered.toNat },
   { key := "candidates_eligible", value := natText decision.candidatesEligible.toNat },
   { key := "decision_digest", value := decision.digest },
   { key := "authority", value := decision.provenance.render }]

/-- `explain_decision`. -/
def State.explainDecision (limits : Limits) (s : State) (decision : AdaptationDecisionId) :
    Explanation :=
  match s.decisionJournal.find? (·.id == decision) with
  | some entry =>
    { topic := .whyAdapted, decision, policy := entry.policy, outcome := entry.outcome
      suppression := entry.suppression
      entries := (decisionEntries entry).foldl (addEntry limits.maxExplanationEntries) [] }
  | none =>
    { topic := .whyAdapted, decision, outcome := .notFound
      entries := addEntry limits.maxExplanationEntries []
        { key := "error"
          value := "decision is not retained in the bounded journal and no policy history names it" } }

end AdaptiveRouting
