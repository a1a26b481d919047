import AdaptiveRouting.Fabric.Authority

/-!
# Evidence operations

Publication of a batch (validated in full, then applied), the aggregate a requirement resolves to,
and the capture of the evidence snapshot an evaluation reads.
-/

namespace AdaptiveRouting

open Guard

/-! ## Publication -/

def EvidencePublication.key (p : EvidencePublication) : EvidenceKey :=
  { source := p.source, path := p.path, kind := p.value.kind }

/-- What the validation pass carries for a series of the batch. -/
structure BatchKeyState where
  sourceGeneration : UInt64 := 0
  lastSequence : UInt64 := 0
  quality : EvidenceQuality := .primary
  deriving DecidableEq, Repr

abbrev BatchState := Std.ExtTreeMap EvidenceKey BatchKeyState

def fingerprintEvidence (publications : List EvidencePublication) : Text :=
  (publications.foldl (fun g p =>
    ((((((g.writeString p.source.text).writeU64 p.sourceGeneration.value).writeU8
      p.quality.code).writeString p.path.text).writeU8 p.value.kind.code).writeI64
      p.value.value).writeU64 p.observationSequence)
    (({} : Digest).writeTag "evidence-batch")).hex

/-- The publications of a batch with the readings they are accepted at: the clock is read for each. -/
def acceptances (clock : Nat → Ticks) (publications : List EvidencePublication) :
    List (Ticks × EvidencePublication) :=
  publications.zipIdx.map fun entry => (clock entry.2, entry.1)

namespace State

/-- Some policy in the caller's scope binds the path. -/
def bindsPath (s : State) (scope : AuthorityScope) (path : PathId) : Bool :=
  match s.policiesByPath[path]? with
  | none => false
  | some dependents => dependents.toList.any fun policy =>
    match s.policies[policy]? with
    | none => false
    | some record => scope.coversRoute record.policy.scope.fabric record.policy.scope.nameSpace
        record.policy.semantics.target.route

/-- The validation of one publication against the store and the batch so far. -/
def validatePublication (s : State) (limits : Limits) (scope : AuthorityScope) (batch : BatchState)
    (p : EvidencePublication) : Except OperationResult BatchState := do
  refuseIf (!p.wellFormed)
    (s.makeResult .malformedRequest
      ("evidence publication is malformed: source, source generation, path and a " ++
        "bounded metric value are required" : String) default)
  refuseIf (!validEvidenceQuality p.quality.code)
    (s.makeResult .malformedRequest "evidence quality class is unknown" default)
  refuseIf (!s.bindsPath scope p.path)
    (s.makeResult .unauthorizedScope
      (Text.concat ["no policy in the caller authority scope binds path ", p.path.text]) default)
  let entry := batch[p.key]?
  let stored := s.evidence[p.key]?
  let storedGeneration := (stored.map (·.sourceGeneration.value)).getD 0
  let batchGeneration := (entry.map (·.sourceGeneration)).getD 0
  let effective := max storedGeneration batchGeneration
  refuseIf (effective != 0 && p.sourceGeneration.value < effective)
    (s.makeResult .staleEvidence "evidence arrives from a superseded source incarnation" default)
  let newIncarnation := effective != 0 && p.sourceGeneration.value > effective
  let storedQuality := match stored with
    | some series =>
      if p.sourceGeneration.value = storedGeneration then series.quality
      else (entry.map (·.quality)).getD p.quality
    | none => (entry.map (·.quality)).getD p.quality
  refuseIf (!newIncarnation && effective != 0 && storedQuality != p.quality)
    (s.makeResult .malformedRequest
      "evidence quality class changed without a source generation change" default)
  let lastSequence :=
    if newIncarnation then 0
    else match entry with
      | some tracker => tracker.lastSequence
      | none =>
        ((stored.bind fun series => series.samples.getLast?).map (·.observationSequence)).getD 0
  refuseIf (lastSequence != 0 && p.observationSequence ≤ lastSequence)
    (s.makeResult .staleEvidence "evidence observation sequence is not strictly increasing" default)
  let distinct := ((s.evidence.keys ++ batch.keys).map (·.source)).dedup
  refuseIf (stored.isNone && entry.isNone && !distinct.contains p.source &&
      reaches distinct.length limits.maxEvidenceSources)
    (s.makeResult .resourceLimit "evidence source limit reached" default)
  return batch.insert p.key
    { sourceGeneration := p.sourceGeneration.value, quality := p.quality
      lastSequence := p.observationSequence }

/-- The samples of one publication enter its series; a new source incarnation drops the old ones. -/
def applyPublication (limits : Limits) (s : State) (accepted : Ticks × EvidencePublication) : State :=
  let (now, p) := accepted
  let fresh : EvidenceSeries :=
    { source := p.source, sourceGeneration := p.sourceGeneration, quality := p.quality
      path := p.path, kind := p.value.kind }
  let (series, watermark) := match s.evidence[p.key]? with
    | none => (fresh, s.evidenceWatermark)
    | some series =>
      if series.sourceGeneration < p.sourceGeneration then
        ({ series with
            samples := [], sourceGeneration := p.sourceGeneration, quality := p.quality },
          s.evidenceWatermark.next.getD s.evidenceWatermark)
      else (series, s.evidenceWatermark)
  let sample : EvidenceSample :=
    { path := p.path, value := p.value, acceptedAt := now
      observationSequence := p.observationSequence }
  { s with
    evidenceWatermark := watermark
    evidence := s.evidence.insert p.key { series with
      samples := keepLast limits.maxEvidenceSamplesPerSeries (series.samples ++ [sample])
      totalPublished := series.totalPublished + 1 } }

/-- The publishing sources become relevant to the policies that bind the published paths. -/
def indexSources (s : State) (publications : List EvidencePublication) : State :=
  { s with
    policiesBySource := publications.foldl (fun index p =>
      match s.policiesByPath[p.path]? with
      | none => index
      | some dependents => dependents.toList.foldl
          (fun index policy => PolicyIndex.add index p.source policy) index) s.policiesBySource }

/-- What `publish_evidence` refuses; the fingerprint. -/
def publishChecks (s : State) (limits : Limits) (request : PublishEvidenceRequest) :
    Except OperationResult Text := do
  refuseIf request.publications.isEmpty
    (s.makeResult .malformedRequest "no evidence publication supplied" default)
  refuseIf (exceeds request.publications.length limits.maxBatchSize)
    (s.makeResult .resourceLimit "evidence batch exceeds the configured maximum" default)
  let registration ← s.requireCaller request.context none none default
  let fingerprint := fingerprintEvidence request.publications
  s.refuseReplay request.context.attempt fingerprint
  let _ ← request.publications.foldlM (s.validatePublication limits registration.scope) {}
  return fingerprint

def publishEvidence (s : State) (limits : Limits) (clock : Nat → Ticks)
    (request : PublishEvidenceRequest) : State × OperationResult :=
  match s.publishChecks limits request with
  | .error answer => (s, answer)
  | .ok fingerprint =>
    let s := (acceptances clock request.publications).foldl (applyPublication limits) s
    match s.evidenceGeneration.next with
    | none => (s, s.makeResult .generationOverflow "evidence generation is exhausted" default)
    | some generation =>
      let s := (({ s with evidenceGeneration := generation } : State).indexSources
        request.publications).recordAttempt limits request.context.attempt fingerprint
        .policyUpdated "evidence published"
      (s, { s.makeResult .policyUpdated (Text.concat ["evidence published: ",
              natText request.publications.length, " sample(s)"]) default with mutated := true })

/-! ## Aggregation -/

/-- The series a requirement is resolved from: usable ones by quality, then by source. -/
def chooseSeries (s : State) (path : PathId) (requirement : EvidenceRequirement) :
    Option EvidenceSeries :=
  s.evidence.toList.foldl (fun chosen entry =>
    if entry.1.path != path || entry.1.kind != requirement.kind ||
        entry.2.quality.rank < requirement.minQuality.rank || entry.2.samples.isEmpty then chosen
    else match chosen with
      | none => some entry.2
      | some best =>
        if entry.2.quality.rank > best.quality.rank ||
            (entry.2.quality.rank == best.quality.rank && entry.1.source < best.source) then
          some entry.2
        else chosen) none

/-- `aggregate_for`: the aggregate in observation order, and the series it came from. -/
def aggregateFor (s : State) (path : PathId) (requirement : EvidenceRequirement) :
    Option (EvidenceAggregate × EvidenceSeries) := do
  let series ← s.chooseSeries path requirement
  let ordered := series.samples.insertionSort fun a b =>
    a.observationSequence ≤ b.observationSequence
  let values := ordered.map (·.value.value)
  let aggregated ← aggregateSamples requirement.aggregation values requirement.ewmaAlphaBps
  let value ← MetricValue.make requirement.kind aggregated
  let oldest ← ordered.head?
  let newest ← ordered.getLast?
  return ({ value, sampleCount := values.length.toUInt32, oldestObservedAt := oldest.acceptedAt
            newestObservedAt := newest.acceptedAt, aggregation := requirement.aggregation
            ewmaAlphaBps := requirement.ewmaAlphaBps }, series)

/-! ## Capture -/

/-- The evidence a record's candidates resolve for its declared requirements. -/
def resolveEvidence (s : State) (record : PolicyRecord) : List ResolvedEvidence :=
  record.candidates.flatMap fun candidate =>
    record.policy.semantics.evidence.filterMap fun requirement =>
      (s.aggregateFor candidate.binding.path requirement).map fun (aggregate, series) =>
        { path := candidate.binding.path, kind := requirement.kind, quality := series.quality
          source := series.source, sourceGeneration := series.sourceGeneration, aggregate }

/-- `capture_evidence_locked`, with the minted identity. -/
def captureEvidence (s : State) (now : Ticks) (id : EvidenceSnapshotId) (record : PolicyRecord) :
    EvidenceSnapshot :=
  let values := s.resolveEvidence record
  ({ id, generation := s.evidenceGeneration, epoch := s.epoch, capturedAt := now, values
     bindings := (values.filter (·.source.valid)).map fun resolved =>
      { source := resolved.source, sourceGeneration := resolved.sourceGeneration
        path := resolved.path, kind := resolved.kind } } : EvidenceSnapshot).finish

end State

end AdaptiveRouting
