import AdaptiveRouting.Fabric.Store

/-!
# Loading a store

The readers of the store's records and `decode_durable_state`, with the status and the text of every
refusal. A store is checked from the outside in: its size, its magic number and version, its integrity
trailer, and then its records in the order in which they were written.
-/

namespace AdaptiveRouting

open Codecs Guard

/-! ## The byte reader -/

/-- A reader that refuses with `nullopt` or `false`. -/
abbrev Get := Reader Unit

def getU8 : Get UInt8 := word () 1 Nat.toUInt8

def getU16 : Get UInt16 := word () 2 Nat.toUInt16

def getU32 : Get UInt32 := word () 4 Nat.toUInt32

def getU64 : Get UInt64 := word () 8 Nat.toUInt64

def getI64 : Get Int := do
  let raw ← getU64
  return raw.toBitVec.toInt

def getBool : Get Bool := do
  let raw ← getU8
  refuseIf (raw > 1) ()
  return raw == 1

def getSize : Get Nat := do
  let raw ← getU64
  return raw.toNat

def getBytes (limit : Nat) : Get Text := sized getSize limit ()

def getString (limit : Nat) : Get Text := getBytes limit

section
variable {α : Type} {d : IdDomain} {g : GenerationDomain}

def getList (limit : UInt64) (get : Get α) : Get (List α) :=
  counted getSize limit.toNat () fun _ => get

def getOption (get : Get α) : Get (Option α) := do
  let present ← getBool
  if present then
    let value ← get
    return some value
  else return none

def getId : Get (StrongId d) := do
  let text ← getString 4096
  orRefuse (StrongId.parse text) ()

/-- An identity that may be the empty one. -/
def getMaybeId : Get (StrongId d) := do
  let text ← getString 4096
  if text.isEmpty then return default else orRefuse (StrongId.parse text) ()

def getOptionalId : Get (StrongId d) := do
  let present ← getBool
  if present then getId else return default

/-- A generation that may be zero. -/
def getMaybeGeneration : Get (Generation g) := do
  let raw ← getU64
  return ⟨raw⟩

end

/-! ## Enumerations -/

def metricKinds : Enumeration UInt8 MetricKind where
  values := (List.range 10).map .ofNat
  code := MetricKind.code
  complete kind := by cases kind <;> decide
  distinct := by decide

def metricUnits : Enumeration UInt8 MetricUnit where
  values := (List.range 5).map .ofNat
  code := MetricUnit.code
  complete unit := by cases unit <;> decide
  distinct := by decide

def aggregationKinds : Enumeration UInt8 AggregationKind where
  values := (List.range 6).map .ofNat
  code := AggregationKind.code
  complete kind := by cases kind <;> decide
  distinct := by decide

def evidenceQualities : Enumeration UInt8 EvidenceQuality where
  values := (List.range 4).map .ofNat
  code := EvidenceQuality.code
  complete quality := by cases quality <;> decide
  distinct := by decide

def objectiveModes : Enumeration UInt8 ObjectiveMode where
  values := (List.range 2).map .ofNat
  code := ObjectiveMode.code
  complete mode := by cases mode <;> decide
  distinct := by decide

def policyLifecycles : Enumeration UInt8 PolicyLifecycle where
  values := (List.range 7).map .ofNat
  code := PolicyLifecycle.code
  complete lifecycle := by cases lifecycle <;> decide
  distinct := by decide

def revocationReasons : Enumeration UInt8 RevocationReason where
  values := (List.range 5).map .ofNat
  code := RevocationReason.code
  complete reason := by cases reason <;> decide
  distinct := by decide

def adaptationCauses : Enumeration UInt8 AdaptationCause where
  values := (List.range 14).map .ofNat
  code := AdaptationCause.code
  complete cause := by cases cause <;> decide
  distinct := by decide

def decisionLifecycles : Enumeration UInt8 DecisionLifecycle where
  values := (List.range 9).map .ofNat
  code := DecisionLifecycle.code
  complete lifecycle := by cases lifecycle <;> decide
  distinct := by decide

def suppressionReasons : Enumeration UInt8 SuppressionReason where
  values := (List.range 21).map .ofNat
  code := SuppressionReason.code
  complete reason := by cases reason <;> decide
  distinct := by decide

/-- `outcome_table`. -/
def outcomes : Enumeration UInt16 Outcome where
  values := (List.range 46).map .ofNat
  code := Outcome.code
  complete outcome := by cases outcome <;> decide
  distinct := by decide +kernel

/-! ## Policies -/

def defaultLimits : Limits := {}

def getMetric : Get MetricValue := do
  let present ← getBool
  if present then
    let kind ← metricKinds.read getU8 ()
    let unit ← metricUnits.read getU8 ()
    let version ← getU32
    let value ← getI64
    orRefuse (MetricValue.decode kind unit version value) ()
  else return default

def getScope : Get PolicyScope := do
  let fabric ← getId
  let nameSpace ← getId
  let site ← getOption getId
  let pathClass ← getOptionalId
  let routes ← getList defaultLimits.maxScopeRoutes getId
  let multipathSets ← getList defaultLimits.maxScopeMultipathSets getId
  let scope : PolicyScope := { fabric, nameSpace, site, pathClass, routes, multipathSets }
  refuseIf (!scope.wellFormed) ()
  return scope

def getRequirement : Get EvidenceRequirement := do
  let kind ← metricKinds.read getU8 ()
  let aggregation ← aggregationKinds.read getU8 ()
  let ewmaAlphaBps ← getU32
  let minSamples ← getU32
  let maxAge ← getU64
  let minWindow ← getU64
  let minQuality ← evidenceQualities.read getU8 ()
  let required ← getBool
  let requirement : EvidenceRequirement :=
    { kind, aggregation, ewmaAlphaBps, minSamples, maxAge, minWindow, minQuality, required }
  refuseIf (!requirement.valid) ()
  return requirement

def getThreshold : Get ThresholdRule := do
  let kind ← metricKinds.read getU8 ()
  let switchValue ← getMetric
  let clearValue ← getMetric
  return { kind, switchValue, clearValue }

def getImprovement : Get ImprovementRule := do
  let kind ← metricKinds.read getU8 ()
  let switchImprovementBps ← getU32
  let reverseImprovementBps ← getU32
  return { kind, switchImprovementBps, reverseImprovementBps }

def getDampening : Get DampeningRule := do
  let enabled ← getBool
  let penaltyIncrement ← getU32
  let maxPenalty ← getU32
  let penaltyDecayInterval ← getU64
  let penaltyDecayStep ← getU32
  let holdDownEscalationStep ← getU64
  let maxEffectiveHoldDown ← getU64
  return { enabled, penaltyIncrement, maxPenalty, penaltyDecayInterval, penaltyDecayStep,
           holdDownEscalationStep, maxEffectiveHoldDown }

def getTerm : Get ObjectiveTerm := do
  let kind ← metricKinds.read getU8 ()
  let weightBps ← getU32
  return { kind, weightBps }

def getEmergency : Get EmergencyRule := do
  let enabled ← getBool
  let onCurrentPathUnauthorized ← getBool
  let onCurrentPathUnavailable ← getBool
  let onHardFailureSignal ← getBool
  return { enabled, onCurrentPathUnauthorized, onCurrentPathUnavailable, onHardFailureSignal }

def getPriority : Get CandidatePriority := do
  let path ← getId
  let priority ← getU32
  return { path, priority }

def getSemantics : Get PolicySemantics := do
  let semanticsVersion ← getU32
  let route ← getId
  let multipathSet ← getOption getId
  let thresholds ← getList defaultLimits.maxThresholdsPerPolicy getThreshold
  let improvements ← getList defaultLimits.maxObjectiveTerms getImprovement
  let evidence ← getList defaultLimits.maxEvidenceRequirementsPerPolicy getRequirement
  let holdDown ← getU64
  let cooldown ← getU64
  let dampening ← getDampening
  let maxAdaptationsPerWindow ← getU32
  let window ← getU64
  let mode ← objectiveModes.read getU8 ()
  let scoringVersion ← getU32
  let terms ← getList defaultLimits.maxObjectiveTerms getTerm
  let emergency ← getEmergency
  let priorities ← getList defaultLimits.maxCandidatesPerPolicy getPriority
  return { semanticsVersion, target := { route, multipathSet }, thresholds, improvements, evidence
           holdDown := { duration := holdDown }, cooldown := { duration := cooldown }, dampening
           churn := { maxAdaptationsPerWindow, window }, objective := { mode, scoringVersion, terms }
           emergency, priorities }

/-! ## Refusals -/

inductive StoreDecodeStatus
  | empty | badMagic | badVersion | truncated | integrity | malformed | trailingBytes
  | duplicatePolicy | invalidGeneration | impossibleLifecycle | malformedMetric
  | malformedEvidenceBinding | invalidPreferredCandidate | timingWithoutPolicy | absurdCount
  | tooLarge | malformedTiming
  deriving DecidableEq, Repr

def StoreDecodeStatus.text : StoreDecodeStatus → Text
  | empty => "EMPTY"
  | badMagic => "BAD_MAGIC"
  | badVersion => "BAD_VERSION"
  | truncated => "TRUNCATED"
  | integrity => "INTEGRITY"
  | malformed => "MALFORMED"
  | trailingBytes => "TRAILING_BYTES"
  | duplicatePolicy => "DUPLICATE_POLICY"
  | invalidGeneration => "INVALID_GENERATION"
  | impossibleLifecycle => "IMPOSSIBLE_LIFECYCLE"
  | malformedMetric => "MALFORMED_METRIC"
  | malformedEvidenceBinding => "MALFORMED_EVIDENCE_BINDING"
  | invalidPreferredCandidate => "INVALID_PREFERRED_CANDIDATE"
  | timingWithoutPolicy => "TIMING_WITHOUT_POLICY"
  | absurdCount => "ABSURD_COUNT"
  | tooLarge => "TOO_LARGE"
  | malformedTiming => "MALFORMED_TIMING"

/-- The status of a store that is not loaded, and a text. -/
structure StoreRefusal where
  status : StoreDecodeStatus
  detail : Text := []
  deriving DecidableEq, Repr

abbrev Load := Reader StoreRefusal

section
variable {α : Type} {g : GenerationDomain}

def readAs (get : Get α) (status : StoreDecodeStatus) (detail : Text := []) : Load α :=
  refusing { status, detail } get

abbrev denyIf (c : Bool) (status : StoreDecodeStatus) (detail : Text := []) :
    Except StoreRefusal Unit :=
  refuseIf c { status, detail }

/-- A generation that may not be zero. -/
def parseGeneration (raw : UInt64) (detail : Text) : Except StoreRefusal (Generation g) :=
  orRefuse (Generation.fromValue raw) { status := .invalidGeneration, detail }

def maxPersistenceRecordBytes : Nat := 0x1000000

def maxStoreBytes : Nat := 0x4000000

/-- The records of a section, each behind its length. -/
def getRecords (count : Load Nat) (limit : UInt64) (absurd tooLong : Text)
    (get : List α → Load α) : Load (List α) :=
  counted count limit.toNat { status := .absurdCount, detail := absurd } fun ahead =>
    record (readAs (getBytes maxPersistenceRecordBytes) .truncated tooLong) (get ahead)

/-- The policy a record belongs to. -/
def ownerIn (policies : List AdaptivePolicy) (policy : AdaptivePolicyId) (detail : Text) :
    Except StoreRefusal AdaptivePolicy :=
  orRefuse (policies.find? (·.id == policy)) { status := .timingWithoutPolicy, detail }

end

/-! ## Records -/

/-- A policy record, in view of the policies ahead of it. -/
def getPolicy (ahead : List AdaptivePolicy) : Load AdaptivePolicy := do
  let id ← readAs getId .malformed "policy record could not be decoded"
  let name ← readAs getId .malformed "policy record could not be decoded"
  let scope ← readAs getScope .malformed "policy record could not be decoded"
  let semantics ← readAs getSemantics .malformed "policy record could not be decoded"
  let rawGeneration ← readAs getU64 .impossibleLifecycle
    "policy record carries an invalid lifecycle or generation"
  let lifecycle ← readAs (policyLifecycles.read getU8 ()) .impossibleLifecycle
    "policy record carries an invalid lifecycle or generation"
  let rawEpoch ← readAs getU64 .impossibleLifecycle
    "policy record carries an invalid lifecycle or generation"
  let generation ← parseGeneration rawGeneration "policy record carries a zero generation"
  let epoch ← parseGeneration rawEpoch "policy record carries a zero generation"
  let owner ← readAs getId .malformed "policy owner is missing"
  let rawAuthority ← readAs getU64 .truncated "policy record is truncated"
  let declaredAt ← readAs getU64 .truncated "policy record is truncated"
  let updatedAt ← readAs getU64 .truncated "policy record is truncated"
  let authorityGeneration ← parseGeneration rawAuthority
    "policy record carries a zero authority generation"
  finish { status := .malformed, detail := "policy record carries trailing bytes" }
  denyIf (semantics.semanticsVersion != policySemanticsVersion || !semantics.check.isOk) .malformed
    "policy semantics are not valid under this semantics version"
  denyIf (ahead.any (·.id == id)) .duplicatePolicy
    "the store names the same policy twice"
  return { id, name, scope, semantics, generation, lifecycle, epoch, owner, authorityGeneration,
           declaredAt, updatedAt }

def getRevocation : Load RevocationRecord := do
  let policy ← readAs getId .malformed "revocation record could not be decoded"
  -- Where one of the three words is missing, so is the length of the publisher.
  let rawGeneration ← readAs getU64 .malformed "revocation record names no publisher"
  let rawAuthority ← readAs getU64 .malformed "revocation record names no publisher"
  let rawEpoch ← readAs getU64 .malformed "revocation record names no publisher"
  let publisher ← readAs getId .malformed "revocation record names no publisher"
  let reason ← readAs (revocationReasons.read getU8 ()) .malformed
    "revocation record carries an invalid enum or generation"
  let generation ← parseGeneration rawGeneration "revocation record carries a zero generation"
  let authorityGeneration ← parseGeneration rawAuthority
    "revocation record carries a zero generation"
  let epoch ← parseGeneration rawEpoch "revocation record carries a zero generation"
  let detail ← readAs (getString 4096) .malformed
    "revocation record is truncated or carries trailing bytes"
  finish { status := .malformed
           detail := "revocation record is truncated or carries trailing bytes" }
  return { policy, generation, authorityGeneration, epoch, publisher, reason, detail }

/-- Provenance of facts that may never have been established. -/
def getProvenance : Get AdaptationProvenance := do
  let publisher ← getMaybeId
  let workerBoot ← getMaybeId
  let epoch ← getMaybeGeneration
  let attempt ← getMaybeId
  let policyGeneration ← getMaybeGeneration
  let cause ← adaptationCauses.read getU8 ()
  return { publisher, workerBoot, epoch, attempt, policyGeneration, cause }

def getWeight : Load PathWeight := do
  let path ← readAs getId .malformed
  let weightBps ← readAs getU32 .malformedMetric
  denyIf (weightBps > basisPointsScale) .malformedMetric
  return { path, weightBps }

def getProposal : Load WeightProposal := do
  let set ← readAs getId .malformed
  let rawBase ← readAs getU64 .absurdCount
  let count ← readAs getSize .absurdCount
  denyIf (exceeds count defaultLimits.maxCandidatesPerPolicy) .absurdCount
  let baseGeneration ← parseGeneration rawBase []
  let weights ← items (fun _ => getWeight) count []
  let proposal : WeightProposal := { set, baseGeneration, weights }
  denyIf (!proposal.wellFormed) .malformed "weight proposal is not well formed"
  return proposal

/-- A proposal behind its presence flag. -/
def getWeightProposal : Load (Option WeightProposal) := do
  let present ← readAs getBool .truncated
  if present then
    let proposal ← getProposal
    return some proposal
  else return none

def getPreference (policies : List AdaptivePolicy) : Load (AdaptivePolicyId × RoutingPreference) := do
  let policy ← readAs getId .malformed "preference record could not be decoded"
  let route ← readAs getId .malformed "preference record could not be decoded"
  let multipathSet ← readAs (getOption getId) .malformed "preference record could not be decoded"
  let multipathSetGeneration ← readAs getMaybeGeneration .truncated
  let established ← readAs getBool .truncated
  let preferredPath ← readAs getMaybeId .malformed
    "preference record carries a malformed preferred path"
  let pathAuthorityGeneration ← readAs getMaybeGeneration .truncated
  denyIf (established && !preferredPath.valid) .invalidPreferredCandidate
    "an established preference carries no preferred path"
  denyIf (established && !pathAuthorityGeneration.valid) .invalidPreferredCandidate
    "an established preference carries no path authority generation"
  let previousPath ← readAs getOptionalId .malformed
  let routeGeneration ← readAs getMaybeGeneration .truncated
  let rawAdaptation ← readAs getU64 .truncated
  let rawTransition ← readAs getU64 .truncated
  let adaptationGeneration ← parseGeneration rawAdaptation
    "preference record carries a zero generation"
  let transitionGeneration ← parseGeneration rawTransition
    "preference record carries a zero generation"
  let transition ← readAs getMaybeId .malformed
    "preference record carries a malformed transition identity"
  let weightProposal ← getWeightProposal
  let decision ← readAs getOptionalId .malformed
  let provenance ← readAs getProvenance .malformed
  let committedAt ← readAs getU64 .malformed
    "preference record is truncated or carries trailing bytes"
  finish { status := .malformed
           detail := "preference record is truncated or carries trailing bytes" }
  let owner ← ownerIn policies policy
    "preference state names a policy the store does not contain"
  denyIf (owner.semantics.target.route != route) .invalidPreferredCandidate
    "preference names a route the owning policy does not target"
  return (policy,
    { route, multipathSet, multipathSetGeneration, preferredPath, pathAuthorityGeneration
      previousPath, routeGeneration, adaptationGeneration, transitionGeneration, transition
      weightProposal, decision, provenance, committedAt, established })

def getStable (policies : List AdaptivePolicy) : Load (AdaptivePolicyId × StableState) := do
  let policy ← readAs getId .malformed
  let established ← readAs getBool .truncated
  let path ← readAs getMaybeId .malformed "stable-state record carries a malformed path"
  let pathAuthorityGeneration ← readAs getMaybeGeneration .truncated
  denyIf (established && !pathAuthorityGeneration.valid) .invalidGeneration
    "an established stable state carries no path authority generation"
  let routeGeneration ← readAs getMaybeGeneration .truncated
  let multipathSetGeneration ← readAs getMaybeGeneration .truncated
  let adaptationGeneration ← readAs getMaybeGeneration .truncated
  let stabilizedAt ← readAs getU64 .truncated
  finish { status := .malformed, detail := "stable-state record carries trailing bytes" }
  let _ ← ownerIn policies policy "stable state names a policy the store does not contain"
  return (policy,
    { established, path, pathAuthorityGeneration, routeGeneration, multipathSetGeneration
      adaptationGeneration, stabilizedAt })

def getTiming (policies : List AdaptivePolicy) : Load DurableTiming := do
  let policy ← readAs getId .malformed
  let _ ← ownerIn policies policy "timing state names a policy the store does not contain"
  let holdDownActive ← readAs getBool .malformedTiming
  let holdDownRemaining ← readAs getU64 .malformedTiming
  let holdDownPolicyGeneration ← readAs getMaybeGeneration .malformedTiming
  let holdDownLockedPath ← readAs getOptionalId .malformedTiming
  let cooldownActive ← readAs getBool .malformedTiming
  let cooldownRemaining ← readAs getU64 .malformedTiming
  let dampeningPenalty ← readAs getU32 .malformedTiming "dampening penalty is out of range"
  let dampeningDecayRemaining ← readAs getU64 .malformedTiming "dampening penalty is out of range"
  denyIf (dampeningPenalty.toUInt64 > defaultLimits.maxDampeningPenalty) .malformedTiming
    "dampening penalty is out of range"
  let churnAges ← counted (readAs getSize .absurdCount) defaultLimits.maxAdaptationsPerWindow.toNat
    { status := .absurdCount } fun _ => readAs getU64 .malformedTiming
  finish { status := .malformedTiming, detail := "timing record carries trailing bytes" }
  denyIf (!holdDownActive && holdDownRemaining != 0) .malformedTiming
    "hold-down remainder is present while hold-down is inactive"
  denyIf (!cooldownActive && cooldownRemaining != 0) .malformedTiming
    "cooldown remainder is present while cooldown is inactive"
  return { policy, holdDownActive, holdDownRemaining, holdDownPolicyGeneration, holdDownLockedPath
           cooldownActive, cooldownRemaining, dampeningPenalty, dampeningDecayRemaining, churnAges }

def getHistoryEntry (policies : List AdaptivePolicy) :
    Load (AdaptivePolicyId × AdaptationRecord) := do
  let policy ← readAs getId .malformed "history record could not be decoded"
  let decision ← readAs getId .malformed "history record could not be decoded"
  let lifecycle ← readAs (decisionLifecycles.read getU8 ()) .impossibleLifecycle
    "history record carries an invalid lifecycle or outcome"
  let outcome ← readAs (outcomes.read getU16 ()) .impossibleLifecycle
    "history record carries an invalid lifecycle or outcome"
  let suppression ← readAs (suppressionReasons.read getU8 ()) .impossibleLifecycle
    "history record carries an invalid lifecycle or outcome"
  let cause ← readAs (adaptationCauses.read getU8 ()) .impossibleLifecycle
    "history record carries an invalid lifecycle or outcome"
  let fromPath ← readAs getOptionalId .malformed
  let toPath ← readAs getOptionalId .malformed
  let adaptationGeneration ← readAs getMaybeGeneration .truncated
  let evidenceGeneration ← readAs getMaybeGeneration .truncated
  let epoch ← readAs getMaybeGeneration .truncated
  let digest ← readAs (getString 4096) .malformed
    "history record is truncated or carries trailing bytes"
  finish { status := .malformed
           detail := "history record is truncated or carries trailing bytes" }
  let _ ← ownerIn policies policy "history names a policy the store does not contain"
  return (policy,
    { decision, lifecycle, outcome, suppression, cause, fromPath, toPath, adaptationGeneration
      evidenceGeneration, epoch, digest })

/-! ## The store -/

/-- The counters and the six sections. -/
def getSections : Load DurableState := do
  let rawEpoch ← readAs getU64 .truncated "store header is truncated"
  let rawAuthority ← readAs getU64 .truncated "store header is truncated"
  let rawEvidence ← readAs getU64 .truncated "store header is truncated"
  let evidenceWatermark ← readAs getU64 .truncated "store header is truncated"
  let upstreamWatermark ← readAs getU64 .truncated "store header is truncated"
  let epoch ← parseGeneration rawEpoch "store header carries an invalid generation"
  let authorityGeneration ← parseGeneration rawAuthority
    "store header carries an invalid generation"
  let evidenceGeneration ← parseGeneration rawEvidence
    "store header carries an invalid generation"
  denyIf (evidenceWatermark != 0 && rawEvidence == 0) .malformedEvidenceBinding
    "evidence watermark is set without an evidence generation"
  let policies ← getRecords (readAs getSize .truncated "policy record count is missing")
    defaultLimits.maxPolicies "policy record count exceeds the configured maximum"
    "policy record is truncated or exceeds the record bound" getPolicy
  let revocations ← getRecords (readAs getSize .truncated) defaultLimits.maxRevocations
    "revocation count exceeds the configured maximum" [] fun _ => getRevocation
  let preferences ← getRecords (readAs getSize .truncated) defaultLimits.maxPolicies
    "preference count exceeds the configured maximum" [] fun _ => getPreference policies
  let stableStates ← getRecords
    (readAs getSize .absurdCount "stable-state count exceeds the configured maximum")
    defaultLimits.maxPolicies "stable-state count exceeds the configured maximum" []
    fun _ => getStable policies
  let timings ← getRecords
    (readAs getSize .absurdCount "timing count exceeds the configured maximum")
    defaultLimits.maxPolicies "timing count exceeds the configured maximum" []
    fun _ => getTiming policies
  let history ← getRecords
    (readAs getSize .absurdCount "history count exceeds the configured maximum")
    defaultLimits.maxDecisionHistory "history count exceeds the configured maximum" []
    fun _ => getHistoryEntry policies
  return { epoch, authorityGeneration, evidenceGeneration, evidenceWatermark := ⟨evidenceWatermark⟩
           upstreamWatermark := ⟨upstreamWatermark⟩, policies, revocations, preferences, stableStates
           timings, history }

/-- What lies between the version and the integrity trailer. -/
def getBody : Load DurableState := do
  let durable ← getSections
  finish { status := .trailingBytes
           detail := "store carries trailing bytes after the last record" }
  return durable

def decodeDurableState (bytes : Text) : Except StoreRefusal DurableState := do
  denyIf bytes.isEmpty .empty "store is empty"
  denyIf (bytes.length > maxStoreBytes) .tooLarge "store exceeds the configured maximum size"
  denyIf (bytes.length < 16) .truncated "store header is incomplete"
  denyIf (number (bytes.take 4) != storeMagic.toNat) .badMagic "store magic does not match"
  denyIf (number ((bytes.drop 4).take 4) != persistenceFormatVersion.toNat) .badVersion
    "store format version is not supported"
  let content := bytes.take (bytes.length - 8)
  denyIf (number (bytes.drop (bytes.length - 8)) != (storeIntegrity content).toNat) .integrity
    "store integrity trailer does not match the content"
  let read ← getBody.run (content.drop 8)
  return read.1

/-- The refusal of a store, as recovery reports it. -/
def StoreRefusal.text (refusal : StoreRefusal) : Text :=
  Text.concat [refusal.status.text,
    if refusal.detail.isEmpty then [] else Text.concat [" (", refusal.detail, ")"]]

end AdaptiveRouting
