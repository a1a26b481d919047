import AdaptiveRouting.View
import Std.Data.ExtTreeMap
import Std.Data.ExtTreeSet

/-!
# Engine state

The records the engine keeps for every policy, evidence series and mutation attempt, the complete
state with its reverse indexes, the configured limits, and the engine around the state.
-/

namespace AdaptiveRouting

/-! ## Records -/

structure EvidenceKey where
  source : EvidenceSourceId
  path : PathId
  kind : MetricKind := .pathLatency
  deriving DecidableEq, Repr

namespace EvidenceKey

/-- By source, path and kind. -/
instance : Ord EvidenceKey :=
  ⟨compareLex (compareOn source) (compareLex (compareOn path) (compareOn kind))⟩

instance : Std.TransOrd EvidenceKey :=
  inferInstanceAs (Std.TransCmp
    (compareLex (compareOn source) (compareLex (compareOn path) (compareOn kind))))

instance : Std.LawfulEqOrd EvidenceKey where
  compare_self := fun {a} =>
    show compareLex (compareOn source) (compareLex (compareOn path) (compareOn kind)) a a = .eq from
      Std.ReflCmp.compare_self
  eq_of_compare := fun {a b} h => by
    change compareLex (compareOn source) (compareLex (compareOn path) (compareOn kind)) a b = .eq at h
    simp only [compareLex_eq_eq, compareOn, Std.LawfulEqCmp.compare_eq_iff_eq] at h
    cases a
    cases b
    obtain ⟨rfl, rfl, rfl⟩ := h
    rfl

end EvidenceKey

structure EvidenceSeries where
  source : EvidenceSourceId
  sourceGeneration : EvidenceSourceGeneration
  quality : EvidenceQuality := .primary
  path : PathId
  kind : MetricKind := .pathLatency
  samples : List EvidenceSample := []
  totalPublished : UInt64 := 0
  deriving DecidableEq, Repr

structure CandidateRecord where
  binding : CandidateBinding
  pathWatermark : UInt64 := 0
  deriving DecidableEq, Repr

structure TimingState where
  holdDownActive : Bool := false
  holdDownDeadline : Ticks := 0
  holdDownLockedPath : PathId := default
  cooldownActive : Bool := false
  cooldownDeadline : Ticks := 0
  dampeningPenalty : UInt32 := 0
  dampeningLastDecay : Ticks := 0
  churnCommits : List Ticks := []
  deriving DecidableEq, Repr

structure PolicyRecord where
  policy : AdaptivePolicy
  candidates : List CandidateRecord := []
  preference : RoutingPreference := {}
  stable : StableState := {}
  timing : TimingState := {}
  history : List AdaptationRecord := []
  revocation : Option RevocationRecord := none
  deriving DecidableEq, Repr

namespace PolicyRecord

def candidateIdx (r : PolicyRecord) (path : PathId) : Option Nat :=
  Search.findIdx (fun candidate => candidate.binding.path) r.candidates path

/-- `find_candidate`, a binary search of the candidates by path. -/
def findCandidate (r : PolicyRecord) (path : PathId) : Option CandidateRecord :=
  (r.candidateIdx path).bind fun index => r.candidates[index]?

/-- Writes through the pointer `find_candidate` returns, if any. -/
def modifyCandidate (r : PolicyRecord) (path : PathId) (f : CandidateRecord → CandidateRecord) :
    PolicyRecord :=
  match r.candidateIdx path with
  | some index => { r with candidates := r.candidates.modify index f }
  | none => r

end PolicyRecord

structure AttemptRecord where
  attempt : MutationAttemptId
  fingerprint : Text
  outcome : Outcome := .noChange
  detail : Text := []
  deriving DecidableEq, Repr

/-! ## State -/

abbrev PolicyIndex (d : IdDomain) := Std.ExtTreeMap (StrongId d) (Std.ExtTreeSet AdaptivePolicyId)

structure State where
  epoch : CoordinatorEpoch := {}
  authorityGeneration : AdaptiveAuthorityGeneration := {}
  evidenceGeneration : EvidenceGeneration := {}
  evidenceWatermark : Watermark := {}
  upstreamWatermark : Watermark := {}
  policies : Std.ExtTreeMap AdaptivePolicyId PolicyRecord := {}
  policyNames : Std.ExtTreeMap AdaptivePolicyName AdaptivePolicyId := {}
  registrations : Std.ExtTreeMap PublisherId PublisherRegistration := {}
  liveBoots : Std.ExtTreeMap WorkerBootId PublisherId := {}
  fencedBoots : Std.ExtTreeSet WorkerBootId := {}
  fences : List FenceRecord := []
  revocations : Std.ExtTreeMap AdaptivePolicyId RevocationRecord := {}
  evidence : Std.ExtTreeMap EvidenceKey EvidenceSeries := {}
  attempts : Std.ExtTreeMap MutationAttemptId AttemptRecord := {}
  attemptOrder : List MutationAttemptId := []
  snapshots : Std.ExtTreeMap SnapshotId AdaptationSnapshot := {}
  snapshotOrder : List SnapshotId := []
  decisionJournal : List AdaptationDecision := []
  policiesByPath : PolicyIndex .pathId := {}
  policiesByRoute : PolicyIndex .routeId := {}
  policiesBySet : PolicyIndex .multipathSetId := {}
  policiesBySource : PolicyIndex .evidenceSourceId := {}

/-- Pops the front of a queue while it is longer than the bound. -/
def keepLast {α : Type} (bound : UInt64) (queue : List α) : List α :=
  queue.drop (queue.length - bound.toNat)

/-! ## Limits and configuration -/

/-- The limits the modelled entry points consult. -/
structure Limits where
  maxPolicies : UInt64 := 100000
  maxCandidatesPerPolicy : UInt64 := 32
  maxTotalCandidates : UInt64 := 1000000
  maxEvidenceSources : UInt64 := 4096
  maxEvidenceSamplesPerSeries : UInt64 := 64
  maxEvidenceRequirementsPerPolicy : UInt64 := 8
  maxThresholdsPerPolicy : UInt64 := 8
  maxObjectiveTerms : UInt64 := 8
  maxHistoryPerPolicy : UInt64 := 32
  maxDecisionHistory : UInt64 := 4096
  maxSimultaneousEvaluations : UInt64 := 256
  maxPendingTransitions : UInt64 := 256
  maxFrameBytes : UInt64 := 0x100000
  maxBatchSize : UInt64 := 256
  maxPublishers : UInt64 := 64
  maxExplanationEntries : UInt64 := 512
  maxAttempts : UInt64 := 8192
  maxRevocations : UInt64 := 4096
  maxSnapshotHistory : UInt64 := 16
  maxScopeRoutes : UInt64 := 256
  maxScopeMultipathSets : UInt64 := 256
  maxAdaptationsPerWindow : UInt64 := 64
  maxDampeningPenalty : UInt64 := 1024
  maxReceiveStallMillis : UInt64 := 30000
  maxPoliciesPerPath : UInt64 := 4096
  deriving DecidableEq, Repr

/-- A size against a limit: `size >= limit`. -/
def reaches (size : Nat) (limit : UInt64) : Bool := limit.toNat ≤ size

/-- `size > limit`. -/
def exceeds (size : Nat) (limit : UInt64) : Bool := limit.toNat < size

structure EngineConfig where
  limits : Limits := {}
  idPrefix : Text := "arf"
  conservativeRecovery : Bool := true
  deriving DecidableEq, Repr

/-- The guarded state, the identity factory and the number of outstanding evaluations. -/
structure Engine where
  state : State
  ids : IdFactory
  outstanding : UInt64 := 0

/-- A new engine in a process with the given nonce. -/
def Engine.start (config : EngineConfig) (nonce : Text) : Engine where
  state := { epoch := .first, authorityGeneration := .first, evidenceGeneration := .first }
  ids := { idPrefix := config.idPrefix, nonce }

end AdaptiveRouting
