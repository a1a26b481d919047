import AdaptiveRouting.Fabric.Authority

/-!
# Recovery

The durable state a store holds, how it is built from the engine's state and how it is applied:
recovery replaces the whole state, takes the next epoch, and restores no registration and no fence.
-/

namespace AdaptiveRouting

def persistenceFormatVersion : UInt32 := 1

/-! ## Durable state -/

/-- Restart-safe timing: remaining durations and ages, never absolute ticks. -/
structure DurableTiming where
  policy : AdaptivePolicyId
  holdDownActive : Bool := false
  holdDownRemaining : Ticks := 0
  holdDownPolicyGeneration : AdaptivePolicyGeneration := {}
  holdDownLockedPath : PathId := default
  cooldownActive : Bool := false
  cooldownRemaining : Ticks := 0
  dampeningPenalty : UInt32 := 0
  dampeningDecayRemaining : Ticks := 0
  churnAges : List Ticks := []
  deriving DecidableEq, Repr

structure DurableState where
  formatVersion : UInt32 := persistenceFormatVersion
  epoch : CoordinatorEpoch := {}
  authorityGeneration : AdaptiveAuthorityGeneration := {}
  evidenceGeneration : EvidenceGeneration := {}
  evidenceWatermark : Watermark := {}
  upstreamWatermark : Watermark := {}
  policies : List AdaptivePolicy := []
  revocations : List RevocationRecord := []
  preferences : List (AdaptivePolicyId × RoutingPreference) := []
  stableStates : List (AdaptivePolicyId × StableState) := []
  timings : List DurableTiming := []
  history : List (AdaptivePolicyId × AdaptationRecord) := []
  deriving DecidableEq, Repr

/-- The remaining durations of a policy's timing. -/
def durableTiming (now : Ticks) (policy : AdaptivePolicyId) (record : PolicyRecord) :
    DurableTiming :=
  let timing := record.timing
  let holdDownActive := timing.holdDownActive && timing.holdDownDeadline > now
  let cooldownActive := timing.cooldownActive && timing.cooldownDeadline > now
  { policy, holdDownActive
    holdDownRemaining := if holdDownActive then timing.holdDownDeadline - now else 0
    holdDownPolicyGeneration := record.policy.generation
    holdDownLockedPath := timing.holdDownLockedPath, cooldownActive
    cooldownRemaining := if cooldownActive then timing.cooldownDeadline - now else 0
    dampeningPenalty := timing.dampeningPenalty
    dampeningDecayRemaining :=
      if timing.dampeningLastDecay > now then timing.dampeningLastDecay - now else 0
    churnAges := timing.churnCommits.map fun stamp => if now ≥ stamp then now - stamp else 0 }

namespace State

def buildDurable (s : State) (now : Ticks) : DurableState where
  epoch := s.epoch
  authorityGeneration := s.authorityGeneration
  evidenceGeneration := s.evidenceGeneration
  evidenceWatermark := s.evidenceWatermark
  upstreamWatermark := s.upstreamWatermark
  policies := s.policies.values.map (·.policy)
  revocations := s.revocations.values
  preferences := s.policies.toList.map fun entry => (entry.1, entry.2.preference)
  stableStates := s.policies.toList.map fun entry => (entry.1, entry.2.stable)
  timings := s.policies.toList.map fun entry => durableTiming now entry.1 entry.2
  history := s.policies.toList.flatMap fun entry =>
    entry.2.history.map fun record => (entry.1, record)

end State

/-- What a store holds of a durable state: the history without its commit times. -/
def DurableState.stored (d : DurableState) : DurableState :=
  { d with history := d.history.map fun entry => (entry.1, { entry.2 with committedAt := 0 }) }

/-! ## Applying a durable state -/

/-- More records than the configured limits allow. -/
def DurableState.exceedsLimits (d : DurableState) (limits : Limits) : Bool :=
  exceeds d.policies.length limits.maxPolicies ||
    exceeds d.revocations.length limits.maxRevocations ||
    exceeds d.history.length limits.maxDecisionHistory

namespace State

/-- A recovered policy, without candidates; under conservative recovery it must be revalidated. -/
def recoveredRecord (conservative : Bool) (policy : AdaptivePolicy) : PolicyRecord where
  policy := if conservative && !policy.lifecycle.terminal
    then { policy with lifecycle := .revalidationRequired } else policy
  preference :=
    { route := policy.semantics.target.route
      multipathSet := policy.semantics.target.multipathSet
      adaptationGeneration := .first, transitionGeneration := .first }

def restorePolicy (conservative : Bool) (s : State) (policy : AdaptivePolicy) : State :=
  { s with
    policies := s.policies.insertIfNew policy.id (recoveredRecord conservative policy)
    policyNames := s.policyNames.insertIfNew policy.name policy.id }

/-- Edits a policy's record, when there is one. -/
def editRecord (s : State) (policy : AdaptivePolicyId) (f : PolicyRecord → PolicyRecord) : State :=
  { s with policies := s.policies.modify policy f }

def restorePreference (s : State) (entry : AdaptivePolicyId × RoutingPreference) : State :=
  s.editRecord entry.1 fun record => { record with
    preference := { entry.2 with provenance := { entry.2.provenance with cause := .recovered } } }

def restoreStable (s : State) (entry : AdaptivePolicyId × StableState) : State :=
  s.editRecord entry.1 fun record => { record with stable := entry.2 }

/-- Remaining durations are re-armed against the clock. -/
def restoreTiming (now : Ticks) (s : State) (timing : DurableTiming) : State :=
  s.editRecord timing.policy fun record => { record with
    timing :=
      { holdDownActive := timing.holdDownActive
        holdDownDeadline := now + timing.holdDownRemaining
        holdDownLockedPath := timing.holdDownLockedPath
        cooldownActive := timing.cooldownActive
        cooldownDeadline := now + timing.cooldownRemaining
        dampeningPenalty := timing.dampeningPenalty
        dampeningLastDecay := now + timing.dampeningDecayRemaining
        churnCommits := record.timing.churnCommits ++
          timing.churnAges.map fun age => if now ≥ age then now - age else 0 } }

def restoreRevocation (s : State) (revocation : RevocationRecord) : State :=
  if s.policies.contains revocation.policy then
    { s.editRecord revocation.policy fun record => { record with revocation := some revocation } with
      revocations := s.revocations.insertIfNew revocation.policy revocation }
  else s

def restoreHistory (limits : Limits) (s : State) (entry : AdaptivePolicyId × AdaptationRecord) :
    State :=
  let record := entry.2
  let decision : AdaptationDecision :=
    { id := record.decision, policy := entry.1, lifecycle := record.lifecycle
      outcome := record.outcome, suppression := record.suppression, cause := record.cause
      currentPreference := record.fromPath, targetPreference := record.toPath
      adaptationGeneration := record.adaptationGeneration
      evidenceGeneration := record.evidenceGeneration, epoch := record.epoch
      committedAt := record.committedAt, digest := record.digest
      provenance := { cause := .recovered } }
  { s.editRecord entry.1 fun owner => { owner with
      history := keepLast limits.maxHistoryPerPolicy (owner.history ++ [record]) } with
    decisionJournal := s.decisionJournal ++ [decision] }

/-- The state recovery builds under the next epoch and authority generation. -/
def recoveredState (config : EngineConfig) (now : Ticks) (durable : DurableState)
    (epoch : CoordinatorEpoch) (authority : AdaptiveAuthorityGeneration) : State :=
  let s : State :=
    { epoch, authorityGeneration := authority, evidenceGeneration := durable.evidenceGeneration
      evidenceWatermark := durable.evidenceWatermark
      upstreamWatermark := durable.upstreamWatermark }
  let s := durable.policies.foldl (restorePolicy config.conservativeRecovery) s
  let s := durable.preferences.foldl restorePreference s
  let s := durable.stableStates.foldl restoreStable s
  let s := durable.timings.foldl (restoreTiming now) s
  let s := durable.revocations.foldl restoreRevocation s
  let s := durable.history.foldl (restoreHistory config.limits) s
  let s := { s with decisionJournal := keepLast config.limits.maxDecisionHistory s.decisionJournal }
  s.policies.keys.foldl (fun s policy => s.reindexPolicy config.limits policy) s

/-- `apply_durable`. -/
def applyDurable (s : State) (config : EngineConfig) (now : Ticks) (durable : DurableState)
    (origin : Text) : State × OperationResult :=
  if durable.formatVersion ≠ persistenceFormatVersion then
    (s, s.makeResult .unsupportedVersion "durable state carries an unsupported format" default)
  else if durable.exceedsLimits config.limits then
    (s, s.makeResult .resourceLimit "durable state exceeds a configured resource limit" default)
  else
    match durable.epoch.next, durable.authorityGeneration.next with
    | some epoch, some authority =>
      let s := recoveredState config now durable epoch authority
      (s, s.makeResult .policyUpdated
        (Text.concat ["recovered ", natText s.policies.size, " policy record(s) from ", origin,
          "; epoch is now ", natText s.epoch.value.toNat,
          " and every recovered policy requires revalidation"]) default)
    | _, _ =>
      (s, s.makeResult .generationOverflow "durable epoch or authority generation is exhausted"
        default)

/-- `decode_store`, from what the store's bytes decode to: a durable state, or the text of the
refusal. -/
def decodeStore (s : State) (config : EngineConfig) (now : Ticks)
    (decoded : Except Text DurableState) (origin : Text) : State × OperationResult :=
  match decoded with
  | .error refusal =>
    (s, s.makeResult .corruptStore (Text.concat ["store rejected: ", refusal]) default)
  | .ok durable => s.applyDurable config now durable origin

end State

end AdaptiveRouting
