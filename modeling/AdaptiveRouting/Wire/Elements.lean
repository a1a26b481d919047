import AdaptiveRouting.Wire

/-!
# Elements of the payloads

What the messages of the wire carry: scopes, semantics, bindings, publications, notifications, candidate
evaluations and tickets. Every string and every list is bounded before it is read. A generation must be
non-zero, or it travels behind a presence flag.
-/

namespace AdaptiveRouting

open Codecs Guard

namespace Wire

def maxStringBytes : Nat := 4096

def maxElements : UInt64 := 4096

/-! ## Counters -/

section
variable {g : GenerationDomain}

def getGeneration : Get (Generation g) := do
  let raw ← getU64
  orRefuse (Generation.fromValue raw) ()

/-- A generation that is informational and may be absent. -/
def putOptionalGeneration (generation : Generation g) : Text :=
  putBool generation.valid ++ if generation.valid then putGeneration generation else []

def getOptionalGeneration : Get (Generation g) := do
  let present ← getBool
  if present then getGeneration else return default

def putWatermark (watermark : Watermark) : Text := putU64 watermark.value

def getWatermark : Get Watermark := do
  let raw ← getU64
  return ⟨raw⟩

end

/-! ## Enumerations -/

def policyEvents : Enumeration UInt8 PolicyEvent where
  values := (List.range 8).map .ofNat
  code := PolicyEvent.code
  complete event := by cases event <;> decide
  distinct := by decide

def upstreamEvents : Enumeration UInt8 UpstreamEvent where
  values := (List.range 12).map .ofNat
  code := UpstreamEvent.code
  complete event := by cases event <;> decide
  distinct := by decide

/-! ## Scopes -/

/-- The format is the store's. -/
def encodeScope (scope : PolicyScope) : Text := putScope scope

def decodeScope : Get PolicyScope := do
  let fabric ← getId
  let nameSpace ← getId
  let site ← getOption getId
  let pathClass ← getOptionalId
  let routes ← getList maxElements getId
  let multipathSets ← getList maxElements getId
  let scope : PolicyScope := { fabric, nameSpace, site, pathClass, routes, multipathSets }
  refuseIf (!scope.wellFormed) ()
  return scope

def encodeAuthorityScope (scope : AuthorityScope) : Text :=
  putId scope.fabric ++ putId scope.nameSpace ++ putList putId scope.routes ++
    putList putId scope.multipathSets

def decodeAuthorityScope : Get AuthorityScope := do
  let fabric ← getId
  let nameSpace ← getId
  let routes ← getList maxElements getId
  let multipathSets ← getList maxElements getId
  let scope : AuthorityScope := { fabric, nameSpace, routes, multipathSets }
  refuseIf (!scope.wellFormed) ()
  return scope

/-! ## Semantics -/

/-- The format is the store's. -/
def encodeSemantics (semantics : PolicySemantics) : Text := putSemantics semantics

def decodeSemanticsBody : Get PolicySemantics := do
  let semanticsVersion ← getU32
  let route ← getId
  let multipathSet ← getOption getId
  let thresholds ← getList maxElements getThreshold
  let improvements ← getList maxElements getImprovement
  let evidence ← getList maxElements getRequirement
  let holdDown ← getU64
  let cooldown ← getU64
  let dampening ← getDampening
  let maxAdaptationsPerWindow ← getU32
  let window ← getU64
  let mode ← objectiveModes.read getU8 ()
  let scoringVersion ← getU32
  let terms ← getList maxElements getTerm
  let emergency ← getEmergency
  let priorities ← getList maxElements getPriority
  return { semanticsVersion, target := { route, multipathSet }, thresholds, improvements, evidence
           holdDown := { duration := holdDown }, cooldown := { duration := cooldown }, dampening
           churn := { maxAdaptationsPerWindow, window }, objective := { mode, scoringVersion, terms }
           emergency, priorities }

def decodeSemantics : Get PolicySemantics := do
  let semantics ← decodeSemanticsBody
  refuseIf (semantics.semanticsVersion != policySemanticsVersion) ()
  refuseIf (!semantics.check.isOk) ()
  return semantics

/-! ## Bindings -/

def encodeUpstreamProvenance (provenance : UpstreamProvenance) : Text :=
  putId provenance.publisher ++ putId provenance.workerBoot ++ putGeneration provenance.epoch ++
    putId provenance.attempt ++ putString provenance.origin

def decodeUpstreamProvenance : Get UpstreamProvenance := do
  let publisher ← getId
  let workerBoot ← getId
  let epoch ← getGeneration
  let attempt ← getId
  let origin ← getString maxStringBytes
  return { publisher, workerBoot, epoch, attempt, origin }

def encodePathAuthority (binding : PathAuthorityBinding) : Text :=
  putId binding.path ++ putGeneration binding.generation ++ putBool binding.legal ++
    putString binding.denialReason

def decodePathAuthority : Get PathAuthorityBinding := do
  let path ← getId
  let generation ← getGeneration
  let legal ← getBool
  let denialReason ← getString maxStringBytes
  return { path, generation, legal, denialReason }

def encodeMultipath (binding : MultipathBinding) : Text :=
  putId binding.set ++ putGeneration binding.generation ++ putBool binding.current ++
    putList putId binding.members

def decodeMultipath : Get MultipathBinding := do
  let set ← getId
  let generation ← getGeneration
  let current ← getBool
  let members ← getList maxElements getId
  return { set, generation, members, current }

def encodeRoute (binding : RouteBinding) : Text :=
  putId binding.route ++ putGeneration binding.generation ++ putOptionalId binding.site ++
    putBool binding.current ++ putString binding.state

def decodeRoute : Get RouteBinding := do
  let route ← getId
  let generation ← getGeneration
  let site ← getOptionalId
  let current ← getBool
  let state ← getString maxStringBytes
  return { route, generation, site, current, state }

def encodeWeighted (binding : WeightedPolicyBinding) : Text :=
  putId binding.set ++ putGeneration binding.generation ++ putBool binding.current

def decodeWeighted : Get WeightedPolicyBinding := do
  let set ← getId
  let generation ← getGeneration
  let current ← getBool
  return { set, generation, current }

def encodeBinding (binding : CandidateBinding) : Text :=
  putId binding.path ++ encodePathAuthority binding.pathAuthority ++
    putOption encodeMultipath binding.multipath ++ encodeRoute binding.route ++
    putOption encodeWeighted binding.weighted ++ putOptionalId binding.pathClass ++
    putBool binding.available ++ putBool binding.hardFailure

def decodeBinding : Get CandidateBinding := do
  let path ← getId
  let pathAuthority ← decodePathAuthority
  let multipath ← getOption decodeMultipath
  let route ← decodeRoute
  let weighted ← getOption decodeWeighted
  let pathClass ← getOptionalId
  let available ← getBool
  let hardFailure ← getBool
  let binding : CandidateBinding :=
    { path, pathAuthority, multipath, route, weighted, pathClass, available, hardFailure }
  refuseIf (!binding.wellFormed) ()
  return binding

/-! ## Publications and notifications -/

def encodePublication (publication : EvidencePublication) : Text :=
  putId publication.source ++ putGeneration publication.sourceGeneration ++
    putU8 publication.quality.code ++ putId publication.path ++ putMetric publication.value ++
    putU64 publication.observationSequence

def decodePublication : Get EvidencePublication := do
  let source ← getId
  let sourceGeneration ← getGeneration
  let quality ← evidenceQualities.read getU8 ()
  let path ← getId
  let value ← getMetric
  let observationSequence ← getU64
  let publication : EvidencePublication :=
    { source, sourceGeneration, quality, path, value, observationSequence }
  refuseIf (!publication.wellFormed) ()
  return publication

def encodeNotification (notification : UpstreamNotification) : Text :=
  putU8 notification.event.code ++ putId notification.policy ++
    encodeBinding notification.binding ++ encodeUpstreamProvenance notification.provenance ++
    putOption putU64 notification.expectedPreviousGeneration

def decodeNotification : Get UpstreamNotification := do
  let event ← upstreamEvents.read getU8 ()
  let policy ← getId
  let binding ← decodeBinding
  let provenance ← decodeUpstreamProvenance
  let expectedPreviousGeneration ← getOption getU64
  return { event, policy, binding, provenance, expectedPreviousGeneration }

/-! ## Tickets -/

def encodeCandidateEvaluation (evaluation : CandidateEvaluation) : Text :=
  putId evaluation.path ++ putBool evaluation.eligible ++ putU8 evaluation.rejection.code ++
    putU16 evaluation.rejectionOutcome.code ++ putU8 evaluation.quality.code ++
    putOption putU64 evaluation.score ++ putList putMetric evaluation.metrics ++
    putU32 evaluation.priority ++ putBool evaluation.currentPreference ++
    putBool evaluation.previousPreference ++ putU32 evaluation.requiredImprovementBps ++
    putOption putU32 evaluation.observedImprovementBps ++
    putOptionalGeneration evaluation.pathAuthorityGeneration ++
    putOptionalGeneration evaluation.routeGeneration ++
    putOptionalGeneration evaluation.multipathSetGeneration

def decodeCandidateEvaluation : Get CandidateEvaluation := do
  let path ← getId
  let eligible ← getBool
  let rejection ← suppressionReasons.read getU8 ()
  let rejectionOutcome ← outcomes.read getU16 ()
  let quality ← evidenceQualities.read getU8 ()
  let score ← getOption getU64
  let metrics ← getList maxElements getMetric
  let priority ← getU32
  let currentPreference ← getBool
  let previousPreference ← getBool
  let requiredImprovementBps ← getU32
  let observedImprovementBps ← getOption getU32
  let pathAuthorityGeneration ← getOptionalGeneration
  let routeGeneration ← getOptionalGeneration
  let multipathSetGeneration ← getOptionalGeneration
  return { path, eligible, rejection, rejectionOutcome, quality, score, metrics, priority
           currentPreference, previousPreference, requiredImprovementBps, observedImprovementBps
           pathAuthorityGeneration, multipathSetGeneration, routeGeneration }

def decodeWeight : Get PathWeight := do
  let path ← getId
  let weightBps ← getU32
  return { path, weightBps }

def decodeProposal : Get WeightProposal := do
  let set ← getId
  let baseGeneration ← getGeneration
  let weights ← getList maxElements decodeWeight
  let proposal : WeightProposal := { set, baseGeneration, weights }
  refuseIf (!proposal.wellFormed) ()
  return proposal

def encodeDependencies (dependencies : DependencySnapshot) : Text :=
  putId dependencies.evaluation ++ putId dependencies.policy ++
    putGeneration dependencies.policyGeneration ++ putGeneration dependencies.evidenceGeneration ++
    putWatermark dependencies.evidenceWatermark ++ putWatermark dependencies.upstreamWatermark ++
    putGeneration dependencies.epoch ++ putGeneration dependencies.authorityGeneration ++
    putOptionalGeneration dependencies.routeGeneration ++
    putOption putId dependencies.multipathSet ++
    putOptionalGeneration dependencies.multipathSetGeneration ++
    putList encodePathAuthority dependencies.candidatePathAuthority ++
    putList putU64 dependencies.candidatePathWatermarks ++ putList putId dependencies.candidates ++
    putU64 dependencies.capturedAt

def decodeDependencies : Get DependencySnapshot := do
  let evaluation ← getId
  let policy ← getId
  let policyGeneration ← getGeneration
  let evidenceGeneration ← getGeneration
  let evidenceWatermark ← getWatermark
  let upstreamWatermark ← getWatermark
  let epoch ← getGeneration
  let authorityGeneration ← getGeneration
  let routeGeneration ← getOptionalGeneration
  let multipathSet ← getOption getId
  let multipathSetGeneration ← getOptionalGeneration
  let candidatePathAuthority ← getList maxElements decodePathAuthority
  let candidatePathWatermarks ← getList maxElements getU64
  let candidates ← getList maxElements getId
  let capturedAt ← getU64
  return { evaluation, policy, policyGeneration, evidenceGeneration, evidenceWatermark
           upstreamWatermark, epoch, authorityGeneration, routeGeneration, multipathSet
           multipathSetGeneration, candidatePathAuthority, candidatePathWatermarks, candidates
           capturedAt }

def encodeTicket (ticket : EvaluationTicket) : Text :=
  encodeDependencies ticket.dependencies ++ putU8 ticket.lifecycle.code ++
    putOptionalId ticket.decision ++ putOptionalId ticket.evidenceSnapshot ++
    putU16 ticket.outcome.code ++ putU8 ticket.suppression.code ++ putString ticket.detail ++
    putOptionalId ticket.currentPreference ++ putOptionalId ticket.targetPreference ++
    putOptionalGeneration ticket.targetPathAuthorityGeneration ++
    putOptionalGeneration ticket.adaptationGeneration ++
    putOptionalGeneration ticket.transitionGeneration ++ putOption putU64 ticket.targetScore ++
    putOption putU32 ticket.improvementBps ++ putU32 ticket.requiredImprovementBps ++
    putOption putProposal ticket.weightProposal ++ putBool ticket.rollback ++
    putBool ticket.emergency ++ putList encodeCandidateEvaluation ticket.ranking ++
    putU64 ticket.evaluatedAt

/-- The fields of `decode_ticket`, ahead of its check that nothing is left. -/
def decodeTicketFields : Get EvaluationTicket := do
  let dependencies ← decodeDependencies
  let lifecycle ← decisionLifecycles.read getU8 ()
  let decision ← getOptionalId
  let evidenceSnapshot ← getOptionalId
  let outcome ← outcomes.read getU16 ()
  let suppression ← suppressionReasons.read getU8 ()
  let detail ← getString maxStringBytes
  let currentPreference ← getOptionalId
  let targetPreference ← getOptionalId
  let targetPathAuthorityGeneration ← getOptionalGeneration
  let adaptationGeneration ← getOptionalGeneration
  let transitionGeneration ← getOptionalGeneration
  let targetScore ← getOption getU64
  let improvementBps ← getOption getU32
  let requiredImprovementBps ← getU32
  let weightProposal ← getOption decodeProposal
  let rollback ← getBool
  let emergency ← getBool
  let ranking ← getList maxElements decodeCandidateEvaluation
  let evaluatedAt ← getU64
  return { dependencies, lifecycle, decision, evidenceSnapshot, outcome, suppression, detail
           currentPreference, targetPreference, targetPathAuthorityGeneration, adaptationGeneration
           transitionGeneration, targetScore, improvementBps, requiredImprovementBps, weightProposal
           rollback, emergency, ranking, evaluatedAt }

def decodeTicket : Get EvaluationTicket := do
  let ticket ← decodeTicketFields
  finish ()
  return ticket

end Wire

end AdaptiveRouting
