import AdaptiveRouting.Fabric.Durable
import AdaptiveRouting.Lib.Codec

/-!
# The store

The bytes of a durable state: a magic number and the format version, the counters, six counted lists
of length-prefixed records, and an integrity trailer over everything ahead of it.
-/

namespace AdaptiveRouting

open Codecs

/-! ## The byte writer -/

def putU8 (value : UInt8) : Text := littleEndian 1 value.toNat

def putU16 (value : UInt16) : Text := littleEndian 2 value.toNat

def putU32 (value : UInt32) : Text := littleEndian 4 value.toNat

def putU64 (value : UInt64) : Text := littleEndian 8 value.toNat

/-- A signed number, as its two's complement. -/
def putI64 (value : Int) : Text := putU64 (UInt64.ofInt value)

def putBool (value : Bool) : Text := putU8 (if value then 1 else 0)

/-- The bytes behind their length. -/
def putBytes (bytes : Text) : Text := putU64 bytes.length.toUInt64 ++ bytes

def putString (text : Text) : Text := putBytes text

section
variable {α : Type} {d : IdDomain} {g : GenerationDomain}

/-- The number of values, and the values. -/
def putList (put : α → Text) (values : List α) : Text :=
  putU64 values.length.toUInt64 ++ values.flatMap put

/-- A presence flag, and the value behind it. -/
def putOption (put : α → Text) : Option α → Text
  | none => putBool false
  | some value => putBool true ++ put value

def putId (id : StrongId d) : Text := putString id.text

def putOptionalId (id : StrongId d) : Text :=
  putBool id.valid ++ if id.valid then putId id else []

def putGeneration (generation : Generation g) : Text := putU64 generation.value

end

/-! ## Policies -/

def putMetric (value : MetricValue) : Text :=
  putBool value.valid ++ if value.valid then
    putU8 value.kind.code ++ putU8 value.unit.code ++ putU32 value.semanticsVersion ++
      putI64 value.value
  else []

def putScope (scope : PolicyScope) : Text :=
  putId scope.fabric ++ putId scope.nameSpace ++ putOption putId scope.site ++
    putOptionalId scope.pathClass ++ putList putId scope.routes ++ putList putId scope.multipathSets

def putRequirement (requirement : EvidenceRequirement) : Text :=
  putU8 requirement.kind.code ++ putU8 requirement.aggregation.code ++
    putU32 requirement.ewmaAlphaBps ++ putU32 requirement.minSamples ++ putU64 requirement.maxAge ++
    putU64 requirement.minWindow ++ putU8 requirement.minQuality.code ++ putBool requirement.required

def putThreshold (rule : ThresholdRule) : Text :=
  putU8 rule.kind.code ++ putMetric rule.switchValue ++ putMetric rule.clearValue

def putImprovement (rule : ImprovementRule) : Text :=
  putU8 rule.kind.code ++ putU32 rule.switchImprovementBps ++ putU32 rule.reverseImprovementBps

def putDampening (rule : DampeningRule) : Text :=
  putBool rule.enabled ++ putU32 rule.penaltyIncrement ++ putU32 rule.maxPenalty ++
    putU64 rule.penaltyDecayInterval ++ putU32 rule.penaltyDecayStep ++
    putU64 rule.holdDownEscalationStep ++ putU64 rule.maxEffectiveHoldDown

def putTerm (term : ObjectiveTerm) : Text := putU8 term.kind.code ++ putU32 term.weightBps

def putEmergency (rule : EmergencyRule) : Text :=
  putBool rule.enabled ++ putBool rule.onCurrentPathUnauthorized ++
    putBool rule.onCurrentPathUnavailable ++ putBool rule.onHardFailureSignal

def putPriority (entry : CandidatePriority) : Text := putId entry.path ++ putU32 entry.priority

def putSemantics (s : PolicySemantics) : Text :=
  putU32 s.semanticsVersion ++ putId s.target.route ++ putOption putId s.target.multipathSet ++
    putList putThreshold s.thresholds ++ putList putImprovement s.improvements ++
    putList putRequirement s.evidence ++ putU64 s.holdDown.duration ++ putU64 s.cooldown.duration ++
    putDampening s.dampening ++ putU32 s.churn.maxAdaptationsPerWindow ++ putU64 s.churn.window ++
    putU8 s.objective.mode.code ++ putU32 s.objective.scoringVersion ++
    putList putTerm s.objective.terms ++ putEmergency s.emergency ++
    putList putPriority s.priorities

def putPolicy (policy : AdaptivePolicy) : Text :=
  putId policy.id ++ putId policy.name ++ putScope policy.scope ++ putSemantics policy.semantics ++
    putGeneration policy.generation ++ putU8 policy.lifecycle.code ++ putGeneration policy.epoch ++
    putId policy.owner ++ putGeneration policy.authorityGeneration ++ putU64 policy.declaredAt ++
    putU64 policy.updatedAt

/-! ## The other records -/

def putRevocation (r : RevocationRecord) : Text :=
  putId r.policy ++ putGeneration r.generation ++ putGeneration r.authorityGeneration ++
    putGeneration r.epoch ++ putId r.publisher ++ putU8 r.reason.code ++ putString r.detail

def putProvenance (p : AdaptationProvenance) : Text :=
  putId p.publisher ++ putId p.workerBoot ++ putGeneration p.epoch ++ putId p.attempt ++
    putGeneration p.policyGeneration ++ putU8 p.cause.code

def putWeight (weight : PathWeight) : Text := putId weight.path ++ putU32 weight.weightBps

def putProposal (proposal : WeightProposal) : Text :=
  putId proposal.set ++ putGeneration proposal.baseGeneration ++ putList putWeight proposal.weights

def putPreference (entry : AdaptivePolicyId × RoutingPreference) : Text :=
  let p := entry.2
  putId entry.1 ++ putId p.route ++ putOption putId p.multipathSet ++
    putGeneration p.multipathSetGeneration ++ putBool p.established ++ putId p.preferredPath ++
    putGeneration p.pathAuthorityGeneration ++ putOptionalId p.previousPath ++
    putGeneration p.routeGeneration ++ putGeneration p.adaptationGeneration ++
    putGeneration p.transitionGeneration ++ putId p.transition ++
    putOption putProposal p.weightProposal ++ putOptionalId p.decision ++
    putProvenance p.provenance ++ putU64 p.committedAt

def putStable (entry : AdaptivePolicyId × StableState) : Text :=
  let s := entry.2
  putId entry.1 ++ putBool s.established ++ putId s.path ++ putGeneration s.pathAuthorityGeneration ++
    putGeneration s.routeGeneration ++ putGeneration s.multipathSetGeneration ++
    putGeneration s.adaptationGeneration ++ putU64 s.stabilizedAt

def putTiming (t : DurableTiming) : Text :=
  putId t.policy ++ putBool t.holdDownActive ++ putU64 t.holdDownRemaining ++
    putGeneration t.holdDownPolicyGeneration ++ putOptionalId t.holdDownLockedPath ++
    putBool t.cooldownActive ++ putU64 t.cooldownRemaining ++ putU32 t.dampeningPenalty ++
    putU64 t.dampeningDecayRemaining ++ putList putU64 t.churnAges

/-- A decision of the history, without the time of its commit. -/
def putHistoryEntry (entry : AdaptivePolicyId × AdaptationRecord) : Text :=
  let r := entry.2
  putId entry.1 ++ putId r.decision ++ putU8 r.lifecycle.code ++ putU16 r.outcome.code ++
    putU8 r.suppression.code ++ putU8 r.cause.code ++ putOptionalId r.fromPath ++
    putOptionalId r.toPath ++ putGeneration r.adaptationGeneration ++
    putGeneration r.evidenceGeneration ++ putGeneration r.epoch ++ putString r.digest

/-! ## The store -/

def storeMagic : UInt32 := 0x50465241

/-- Each record behind its length. -/
def putRecords {α : Type} (put : α → Text) (values : List α) : Text :=
  putList (fun value => putBytes (put value)) values

/-- One byte of the integrity trailer's two lanes. -/
def integrityLanes (lanes : UInt64 × UInt64) (byte : UInt8) : UInt64 × UInt64 :=
  let high := lanes.2 + byte.toUInt64
  (mix lanes.1 byte, (high ^^^ high <<< 13) * fnvPrime)

def storeIntegrity (bytes : Text) : UInt64 :=
  let lanes := bytes.foldl integrityLanes (fnvOffsetA, fnvOffsetB)
  lanes.1 ^^^ lanes.2

def putBody (d : DurableState) : Text :=
  putGeneration d.epoch ++ putGeneration d.authorityGeneration ++
    putGeneration d.evidenceGeneration ++ putU64 d.evidenceWatermark.value ++
    putU64 d.upstreamWatermark.value ++ putRecords putPolicy d.policies ++
    putRecords putRevocation d.revocations ++ putRecords putPreference d.preferences ++
    putRecords putStable d.stableStates ++ putRecords putTiming d.timings ++
    putRecords putHistoryEntry d.history

def encodeDurableState (d : DurableState) : Text :=
  let bytes := putU32 storeMagic ++ putU32 persistenceFormatVersion ++ putBody d
  bytes ++ putU64 (storeIntegrity bytes)

/-- `encode_store`, at a reading of the clock. -/
def State.encodeStore (s : State) (now : Ticks) : Text := encodeDurableState (s.buildDurable now)

end AdaptiveRouting
