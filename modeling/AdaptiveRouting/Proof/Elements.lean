import AdaptiveRouting.Proof.Format
import AdaptiveRouting.Wire.Elements

/-!
# The format of the elements

Every reader of an element is canonical for its writer: it accepts the encodings of the elements that
meet its rules and bounds (`PolicyScope.OnWire` and its siblings) and no other bytes. A record's reader is
taken apart field by field with `Parses.field`.
-/

namespace AdaptiveRouting

open Codecs Guard

namespace Wire

/-! ## Bounds -/

/-- A text within the bound on strings. -/
abbrev Short (text : Text) : Prop := text.length ≤ maxStringBytes

/-- A list within the bound on elements, all of which satisfy `P`. -/
abbrev Bounded {α : Type} (P : α → Prop) (values : List α) : Prop :=
  values.length ≤ maxElements.toNat ∧ ∀ a ∈ values, P a

theorem getText_canonical : Canonical Short putString (getString maxStringBytes) :=
  getBytes_canonical (by decide)

theorem getElements_canonical {α : Type} {P : α → Prop} {put : α → Text} {get : Get α}
    (hget : Canonical P put get) :
    Canonical (Bounded P) (putList put) (getList maxElements get) :=
  getList_canonical hget maxElements

/-! ## Counters -/

section
variable {g : GenerationDomain}

theorem fromValue_iff {raw : UInt64} {generation : Generation g} :
    Generation.fromValue raw = some generation ↔
      generation.valid = true ∧ generation.value = raw := by
  unfold Generation.fromValue
  split
  · rename_i hzero
    refine iff_of_false nofun ?_
    intro h
    simp [Generation.valid, h.2, hzero] at h
  · rename_i hraw
    constructor
    · intro h
      cases h
      exact ⟨by simpa [Generation.valid] using hraw, rfl⟩
    · intro h
      obtain ⟨-, rfl⟩ := h
      rfl

theorem getGeneration_canonical :
    Canonical (fun generation : Generation g => generation.valid = true) putGeneration
      getGeneration := by
  intro bytes generation rest
  unfold getGeneration
  constructor
  · intro h
    obtain ⟨raw, rest', -, rfl, hk⟩ := getU64_canonical.bind h
    obtain ⟨hraw, rfl⟩ := run_lift.1 hk
    obtain ⟨hvalid, rfl⟩ := fromValue_iff.1 (orRefuse_ok hraw)
    exact ⟨hvalid, rfl⟩
  · intro h
    obtain ⟨hvalid, rfl⟩ := h
    unfold putGeneration
    rw [getU64_canonical.run_put trivial, fromValue_iff.2 ⟨hvalid, rfl⟩]
    rfl

theorem getOptionalGeneration_canonical :
    Canonical (fun _ : Generation g => True) putOptionalGeneration getOptionalGeneration := by
  intro bytes generation rest
  unfold getOptionalGeneration
  constructor
  · intro h
    obtain ⟨present, rest', -, rfl, hk⟩ := getBool_canonical.bind h
    cases present with
    | false =>
      cases hk
      exact ⟨trivial, rfl⟩
    | true =>
      obtain ⟨hvalid, rfl⟩ := (getGeneration_canonical _ _ _).1 hk
      exact ⟨trivial, by simp [putOptionalGeneration, hvalid]⟩
  · intro h
    obtain ⟨-, rfl⟩ := h
    unfold putOptionalGeneration
    rw [List.append_assoc, getBool_canonical.run_put trivial]
    by_cases hvalid : generation.valid = true
    · simp only [hvalid, if_true]
      exact (getGeneration_canonical _ _ _).2 ⟨hvalid, rfl⟩
    · have hzero : generation = default :=
        Generation.ext (show generation.value = 0 by simpa [Generation.valid] using hvalid)
      rw [hzero]
      rfl

theorem getWatermark_canonical : Canonical (fun _ => True) putWatermark getWatermark :=
  Parses.canonical (.field getU64_canonical Watermark.value fun _ => .done _)
    (fun _ => rfl) (by simp [putWatermark]) (by simp)

end

theorem policyEvents_canonical :
    Canonical (fun _ => True) (fun event => putU8 event.code) (policyEvents.read getU8 ()) :=
  policyEvents.canonical getU8_canonical ()

theorem upstreamEvents_canonical :
    Canonical (fun _ => True) (fun event => putU8 event.code) (upstreamEvents.read getU8 ()) :=
  upstreamEvents.canonical getU8_canonical ()

end Wire

open Wire

/-! ## Scopes -/

/-- A scope that a payload carries. -/
structure PolicyScope.OnWire (s : PolicyScope) : Prop where
  wellFormed : s.wellFormed = true
  site : ∀ site ∈ s.site, site.valid = true
  routes : Bounded (fun route => route.valid = true) s.routes
  multipathSets : Bounded (fun set => set.valid = true) s.multipathSets

theorem Wire.decodeScope_canonical : Canonical PolicyScope.OnWire encodeScope decodeScope := by
  refine Parses.canonical (.field getId_canonical PolicyScope.fabric fun _ =>
    .field getId_canonical PolicyScope.nameSpace fun _ =>
    .field (getOption_canonical getId_canonical) PolicyScope.site fun _ =>
    .field getOptionalId_canonical PolicyScope.pathClass fun _ =>
    .field (getElements_canonical getId_canonical) PolicyScope.routes fun _ =>
    .field (getElements_canonical getId_canonical) PolicyScope.multipathSets fun _ =>
    .guard PolicyScope.wellFormed (.done _)) (fun _ => rfl) ?_ ?_
  · intro s
    simp [encodeScope, putScope]
  · intro s
    constructor
    · intro h
      obtain ⟨-, -, hsite, -, hroutes, hsets, hformed, -⟩ := h
      exact ⟨hformed, hsite, hroutes, hsets⟩
    · intro h
      have hids : (s.fabric.valid = true ∧ s.nameSpace.valid = true) := by
        have hformed := h.wellFormed
        simp only [PolicyScope.wellFormed, Bool.and_eq_true] at hformed
        exact hformed.1
      exact ⟨hids.1, hids.2, h.site, trivial, h.routes, h.multipathSets, h.wellFormed, trivial⟩

/-- A publisher's scope that a payload carries. -/
structure AuthorityScope.OnWire (s : AuthorityScope) : Prop where
  wellFormed : s.wellFormed = true
  routes : Bounded (fun route => route.valid = true) s.routes
  multipathSets : Bounded (fun set => set.valid = true) s.multipathSets

theorem Wire.decodeAuthorityScope_canonical :
    Canonical AuthorityScope.OnWire encodeAuthorityScope decodeAuthorityScope := by
  refine Parses.canonical (.field getId_canonical AuthorityScope.fabric fun _ =>
    .field getId_canonical AuthorityScope.nameSpace fun _ =>
    .field (getElements_canonical getId_canonical) AuthorityScope.routes fun _ =>
    .field (getElements_canonical getId_canonical) AuthorityScope.multipathSets fun _ =>
    .guard AuthorityScope.wellFormed (.done _)) (fun _ => rfl) ?_ ?_
  · intro s
    simp [encodeAuthorityScope]
  · intro s
    constructor
    · intro h
      obtain ⟨-, -, hroutes, hsets, hformed, -⟩ := h
      exact ⟨hformed, hroutes, hsets⟩
    · intro h
      have hids : s.fabric.valid = true ∧ s.nameSpace.valid = true := by
        have hformed := h.wellFormed
        simp only [AuthorityScope.wellFormed, Bool.and_eq_true] at hformed
        exact hformed.1.1
      exact ⟨hids.1, hids.2, h.routes, h.multipathSets, h.wellFormed, trivial⟩

/-! ## Semantics -/

/-- Semantics that a payload carries. -/
structure PolicySemantics.OnWire (s : PolicySemantics) : Prop where
  route : s.target.route.valid = true
  multipathSet : ∀ set ∈ s.target.multipathSet, set.valid = true
  thresholds : Bounded (fun _ => True) s.thresholds
  improvements : Bounded (fun _ => True) s.improvements
  evidence : Bounded (fun requirement => requirement.valid = true) s.evidence
  terms : Bounded (fun _ => True) s.objective.terms
  priorities : Bounded (fun entry => entry.path.valid = true) s.priorities
  version : s.semanticsVersion = policySemanticsVersion
  check : s.check.isOk = true

theorem Wire.decodeSemantics_canonical :
    Canonical PolicySemantics.OnWire encodeSemantics decodeSemantics := by
  have hbody : Canonical _ putSemantics decodeSemanticsBody := Parses.canonical
    (.field getU32_canonical PolicySemantics.semanticsVersion fun _ =>
    .field getId_canonical (fun s => s.target.route) fun _ =>
    .field (getOption_canonical getId_canonical) (fun s => s.target.multipathSet) fun _ =>
    .field (getElements_canonical getThreshold_canonical) PolicySemantics.thresholds fun _ =>
    .field (getElements_canonical getImprovement_canonical) PolicySemantics.improvements fun _ =>
    .field (getElements_canonical getRequirement_canonical) PolicySemantics.evidence fun _ =>
    .field getU64_canonical (fun s => s.holdDown.duration) fun _ =>
    .field getU64_canonical (fun s => s.cooldown.duration) fun _ =>
    .field getDampening_canonical PolicySemantics.dampening fun _ =>
    .field getU32_canonical (fun s => s.churn.maxAdaptationsPerWindow) fun _ =>
    .field getU64_canonical (fun s => s.churn.window) fun _ =>
    .field objectiveModes_canonical (fun s => s.objective.mode) fun _ =>
    .field getU32_canonical (fun s => s.objective.scoringVersion) fun _ =>
    .field (getElements_canonical getTerm_canonical) (fun s => s.objective.terms) fun _ =>
    .field getEmergency_canonical PolicySemantics.emergency fun _ =>
    .field (getElements_canonical getPriority_canonical) PolicySemantics.priorities fun _ =>
    .done _) (fun _ => rfl) (by simp [putSemantics]) (fun _ => Iff.rfl)
  refine Parses.canonical (.field hbody (fun s => s) fun _ =>
    .guard (fun s : PolicySemantics => s.semanticsVersion == policySemanticsVersion)
      (.guard (fun s : PolicySemantics => s.check.isOk) (.done _))) (fun _ => rfl) ?_ ?_
  · intro s
    simp [encodeSemantics]
  · intro s
    constructor
    · intro h
      obtain ⟨⟨-, hroute, hset, hthresholds, himprovements, hevidence, -, -, -, -, -, -, -, hterms, -,
        hpriorities, -⟩, hversion, hcheck, -⟩ := h
      exact ⟨hroute, hset, hthresholds, himprovements, hevidence, hterms, hpriorities,
        by simpa using hversion, hcheck⟩
    · intro h
      exact ⟨⟨trivial, h.route, h.multipathSet, h.thresholds, h.improvements, h.evidence, trivial,
        trivial, trivial, trivial, trivial, trivial, trivial, h.terms, trivial, h.priorities, trivial⟩,
        by simpa using h.version, h.check, trivial⟩

/-! ## Bindings -/

/-- Provenance that a payload carries. -/
structure UpstreamProvenance.OnWire (p : UpstreamProvenance) : Prop where
  publisher : p.publisher.valid = true
  workerBoot : p.workerBoot.valid = true
  epoch : p.epoch.valid = true
  attempt : p.attempt.valid = true
  origin : Short p.origin

theorem Wire.decodeUpstreamProvenance_canonical :
    Canonical UpstreamProvenance.OnWire encodeUpstreamProvenance decodeUpstreamProvenance := by
  refine Parses.canonical (.field getId_canonical UpstreamProvenance.publisher fun _ =>
    .field getId_canonical UpstreamProvenance.workerBoot fun _ =>
    .field getGeneration_canonical UpstreamProvenance.epoch fun _ =>
    .field getId_canonical UpstreamProvenance.attempt fun _ =>
    .field getText_canonical UpstreamProvenance.origin fun _ => .done _) (fun _ => rfl) ?_ ?_
  · intro p
    simp [encodeUpstreamProvenance]
  · intro p
    constructor
    · intro h
      obtain ⟨hpublisher, hboot, hepoch, hattempt, horigin, -⟩ := h
      exact ⟨hpublisher, hboot, hepoch, hattempt, horigin⟩
    · intro h
      exact ⟨h.publisher, h.workerBoot, h.epoch, h.attempt, h.origin, trivial⟩

/-- A path's authority that a payload carries. -/
structure PathAuthorityBinding.OnWire (b : PathAuthorityBinding) : Prop where
  path : b.path.valid = true
  generation : b.generation.valid = true
  denialReason : Short b.denialReason

theorem Wire.decodePathAuthority_canonical :
    Canonical PathAuthorityBinding.OnWire encodePathAuthority decodePathAuthority := by
  refine Parses.canonical (.field getId_canonical PathAuthorityBinding.path fun _ =>
    .field getGeneration_canonical PathAuthorityBinding.generation fun _ =>
    .field getBool_canonical PathAuthorityBinding.legal fun _ =>
    .field getText_canonical PathAuthorityBinding.denialReason fun _ => .done _) (fun _ => rfl) ?_ ?_
  · intro b
    simp [encodePathAuthority]
  · intro b
    constructor
    · intro h
      obtain ⟨hpath, hgeneration, -, hreason, -⟩ := h
      exact ⟨hpath, hgeneration, hreason⟩
    · intro h
      exact ⟨h.path, h.generation, trivial, h.denialReason, trivial⟩

/-- A multipath binding that a payload carries. -/
structure MultipathBinding.OnWire (b : MultipathBinding) : Prop where
  set : b.set.valid = true
  generation : b.generation.valid = true
  members : Bounded (fun path => path.valid = true) b.members

theorem Wire.decodeMultipath_canonical :
    Canonical MultipathBinding.OnWire encodeMultipath decodeMultipath := by
  refine Parses.canonical (.field getId_canonical MultipathBinding.set fun _ =>
    .field getGeneration_canonical MultipathBinding.generation fun _ =>
    .field getBool_canonical MultipathBinding.current fun _ =>
    .field (getElements_canonical getId_canonical) MultipathBinding.members fun _ => .done _)
    (fun _ => rfl) ?_ ?_
  · intro b
    simp [encodeMultipath]
  · intro b
    constructor
    · intro h
      obtain ⟨hset, hgeneration, -, hmembers, -⟩ := h
      exact ⟨hset, hgeneration, hmembers⟩
    · intro h
      exact ⟨h.set, h.generation, trivial, h.members, trivial⟩

/-- A route binding that a payload carries. -/
structure RouteBinding.OnWire (b : RouteBinding) : Prop where
  route : b.route.valid = true
  generation : b.generation.valid = true
  state : Short b.state

theorem Wire.decodeRoute_canonical : Canonical RouteBinding.OnWire encodeRoute decodeRoute := by
  refine Parses.canonical (.field getId_canonical RouteBinding.route fun _ =>
    .field getGeneration_canonical RouteBinding.generation fun _ =>
    .field getOptionalId_canonical RouteBinding.site fun _ =>
    .field getBool_canonical RouteBinding.current fun _ =>
    .field getText_canonical RouteBinding.state fun _ => .done _) (fun _ => rfl) ?_ ?_
  · intro b
    simp [encodeRoute]
  · intro b
    constructor
    · intro h
      obtain ⟨hroute, hgeneration, -, -, hstate, -⟩ := h
      exact ⟨hroute, hgeneration, hstate⟩
    · intro h
      exact ⟨h.route, h.generation, trivial, trivial, h.state, trivial⟩

/-- A weight policy's binding that a payload carries. -/
structure WeightedPolicyBinding.OnWire (b : WeightedPolicyBinding) : Prop where
  set : b.set.valid = true
  generation : b.generation.valid = true

theorem Wire.decodeWeighted_canonical :
    Canonical WeightedPolicyBinding.OnWire encodeWeighted decodeWeighted := by
  refine Parses.canonical (.field getId_canonical WeightedPolicyBinding.set fun _ =>
    .field getGeneration_canonical WeightedPolicyBinding.generation fun _ =>
    .field getBool_canonical WeightedPolicyBinding.current fun _ => .done _) (fun _ => rfl) ?_ ?_
  · intro b
    simp [encodeWeighted]
  · intro b
    constructor
    · intro h
      exact ⟨h.1, h.2.1⟩
    · intro h
      exact ⟨h.set, h.generation, trivial, trivial⟩

/-- A candidate's binding that a payload carries; it is well formed. -/
structure CandidateBinding.OnWire (b : CandidateBinding) : Prop where
  path : b.path.valid = true
  pathAuthority : b.pathAuthority.OnWire
  multipath : ∀ multipath ∈ b.multipath, multipath.OnWire
  route : b.route.OnWire
  weighted : ∀ weighted ∈ b.weighted, weighted.OnWire

theorem CandidateBinding.OnWire.wellFormed {b : CandidateBinding} (h : b.OnWire) :
    b.wellFormed = true := by
  simp [CandidateBinding.wellFormed, PathAuthorityBinding.wellFormed, RouteBinding.wellFormed, h.path,
    h.pathAuthority.path, h.pathAuthority.generation, h.route.route, h.route.generation]

theorem Wire.decodeBinding_canonical :
    Canonical CandidateBinding.OnWire encodeBinding decodeBinding := by
  refine Parses.canonical (.field getId_canonical CandidateBinding.path fun _ =>
    .field decodePathAuthority_canonical CandidateBinding.pathAuthority fun _ =>
    .field (getOption_canonical decodeMultipath_canonical) CandidateBinding.multipath fun _ =>
    .field decodeRoute_canonical CandidateBinding.route fun _ =>
    .field (getOption_canonical decodeWeighted_canonical) CandidateBinding.weighted fun _ =>
    .field getOptionalId_canonical CandidateBinding.pathClass fun _ =>
    .field getBool_canonical CandidateBinding.available fun _ =>
    .field getBool_canonical CandidateBinding.hardFailure fun _ =>
    .guard CandidateBinding.wellFormed (.done _)) (fun _ => rfl) ?_ ?_
  · intro b
    simp [encodeBinding]
  · intro b
    constructor
    · intro h
      obtain ⟨hpath, hauthority, hmultipath, hroute, hweighted, -⟩ := h
      exact ⟨hpath, hauthority, hmultipath, hroute, hweighted⟩
    · intro h
      exact ⟨h.path, h.pathAuthority, h.multipath, h.route, h.weighted, trivial, trivial, trivial,
        h.wellFormed, trivial⟩

/-! ## Publications and notifications -/

theorem Wire.decodePublication_canonical :
    Canonical (fun publication : EvidencePublication => publication.wellFormed = true)
      encodePublication decodePublication := by
  refine Parses.canonical (.field getId_canonical EvidencePublication.source fun _ =>
    .field getGeneration_canonical EvidencePublication.sourceGeneration fun _ =>
    .field evidenceQualities_canonical EvidencePublication.quality fun _ =>
    .field getId_canonical EvidencePublication.path fun _ =>
    .field getMetric_canonical EvidencePublication.value fun _ =>
    .field getU64_canonical EvidencePublication.observationSequence fun _ =>
    .guard EvidencePublication.wellFormed (.done _)) (fun _ => rfl) ?_ ?_
  · intro p
    simp [encodePublication]
  · intro p
    constructor
    · intro h
      exact h.2.2.2.2.2.2.1
    · intro h
      have hfields := h
      simp only [EvidencePublication.wellFormed, Bool.and_eq_true] at hfields
      obtain ⟨⟨⟨hsource, hgeneration⟩, hpath⟩, -⟩ := hfields
      exact ⟨hsource, hgeneration, trivial, hpath, trivial, trivial, h, trivial⟩

/-- A notification that a payload carries. -/
structure UpstreamNotification.OnWire (n : UpstreamNotification) : Prop where
  policy : n.policy.valid = true
  binding : n.binding.OnWire
  provenance : n.provenance.OnWire

theorem Wire.decodeNotification_canonical :
    Canonical UpstreamNotification.OnWire encodeNotification decodeNotification := by
  refine Parses.canonical (.field upstreamEvents_canonical UpstreamNotification.event fun _ =>
    .field getId_canonical UpstreamNotification.policy fun _ =>
    .field decodeBinding_canonical UpstreamNotification.binding fun _ =>
    .field decodeUpstreamProvenance_canonical UpstreamNotification.provenance fun _ =>
    .field (getOption_canonical getU64_canonical)
      UpstreamNotification.expectedPreviousGeneration fun _ => .done _) (fun _ => rfl) ?_ ?_
  · intro n
    simp [encodeNotification]
  · intro n
    constructor
    · intro h
      obtain ⟨-, hpolicy, hbinding, hprovenance, -⟩ := h
      exact ⟨hpolicy, hbinding, hprovenance⟩
    · intro h
      exact ⟨trivial, h.policy, h.binding, h.provenance, fun _ _ => trivial, trivial⟩

/-! ## Tickets -/

/-- A candidate's evaluation that a payload carries. -/
structure CandidateEvaluation.OnWire (e : CandidateEvaluation) : Prop where
  path : e.path.valid = true
  metrics : Bounded (fun _ => True) e.metrics

theorem Wire.decodeCandidateEvaluation_canonical :
    Canonical CandidateEvaluation.OnWire encodeCandidateEvaluation decodeCandidateEvaluation := by
  refine Parses.canonical (.field getId_canonical CandidateEvaluation.path fun _ =>
    .field getBool_canonical CandidateEvaluation.eligible fun _ =>
    .field suppressionReasons_canonical CandidateEvaluation.rejection fun _ =>
    .field outcomes_canonical CandidateEvaluation.rejectionOutcome fun _ =>
    .field evidenceQualities_canonical CandidateEvaluation.quality fun _ =>
    .field (getOption_canonical getU64_canonical) CandidateEvaluation.score fun _ =>
    .field (getElements_canonical getMetric_canonical) CandidateEvaluation.metrics fun _ =>
    .field getU32_canonical CandidateEvaluation.priority fun _ =>
    .field getBool_canonical CandidateEvaluation.currentPreference fun _ =>
    .field getBool_canonical CandidateEvaluation.previousPreference fun _ =>
    .field getU32_canonical CandidateEvaluation.requiredImprovementBps fun _ =>
    .field (getOption_canonical getU32_canonical)
      CandidateEvaluation.observedImprovementBps fun _ =>
    .field getOptionalGeneration_canonical CandidateEvaluation.pathAuthorityGeneration fun _ =>
    .field getOptionalGeneration_canonical CandidateEvaluation.routeGeneration fun _ =>
    .field getOptionalGeneration_canonical CandidateEvaluation.multipathSetGeneration fun _ =>
    .done _) (fun _ => rfl) ?_ ?_
  · intro e
    unfold encodeCandidateEvaluation
    simp only [List.append_assoc, List.append_nil]
  · intro e
    constructor
    · intro h
      exact ⟨h.1, h.2.2.2.2.2.2.1⟩
    · intro h
      exact ⟨h.path, trivial, trivial, trivial, trivial, fun _ _ => trivial, h.metrics, trivial, trivial,
        trivial, trivial, fun _ _ => trivial, trivial, trivial, trivial, trivial⟩

/-- A weight proposal that a payload carries. -/
structure WeightProposal.OnWire (p : WeightProposal) : Prop where
  wellFormed : p.wellFormed = true
  weights : p.weights.length ≤ maxElements.toNat

theorem Wire.decodeWeight_canonical :
    Canonical (fun weight : PathWeight => weight.path.valid = true) putWeight decodeWeight :=
  Parses.canonical (.field getId_canonical PathWeight.path fun _ =>
    .field getU32_canonical PathWeight.weightBps fun _ => .done _) (fun _ => rfl)
    (by simp [putWeight]) (by simp)

theorem Wire.decodeProposal_canonical :
    Canonical WeightProposal.OnWire putProposal decodeProposal := by
  refine Parses.canonical (.field getId_canonical WeightProposal.set fun _ =>
    .field getGeneration_canonical WeightProposal.baseGeneration fun _ =>
    .field (getElements_canonical decodeWeight_canonical) WeightProposal.weights fun _ =>
    .guard WeightProposal.wellFormed (.done _)) (fun _ => rfl) ?_ ?_
  · intro p
    simp [putProposal]
  · intro p
    constructor
    · intro h
      exact ⟨h.2.2.2.1, h.2.2.1.1⟩
    · intro h
      have hfields := h.wellFormed
      simp only [WeightProposal.wellFormed, Bool.and_eq_true, List.all_eq_true] at hfields
      obtain ⟨⟨⟨hset, hbase⟩, -⟩, hweights⟩ := hfields
      exact ⟨hset, hbase, ⟨h.weights, fun weight hweight => (hweights weight hweight).1⟩,
        h.wellFormed, trivial⟩

/-- Dependencies that a payload carries. -/
structure DependencySnapshot.OnWire (d : DependencySnapshot) : Prop where
  evaluation : d.evaluation.valid = true
  policy : d.policy.valid = true
  policyGeneration : d.policyGeneration.valid = true
  evidenceGeneration : d.evidenceGeneration.valid = true
  epoch : d.epoch.valid = true
  authorityGeneration : d.authorityGeneration.valid = true
  multipathSet : ∀ set ∈ d.multipathSet, set.valid = true
  candidatePathAuthority : Bounded PathAuthorityBinding.OnWire d.candidatePathAuthority
  candidatePathWatermarks : Bounded (fun _ => True) d.candidatePathWatermarks
  candidates : Bounded (fun path => path.valid = true) d.candidates

theorem Wire.decodeDependencies_canonical :
    Canonical DependencySnapshot.OnWire encodeDependencies decodeDependencies := by
  refine Parses.canonical (.field getId_canonical DependencySnapshot.evaluation fun _ =>
    .field getId_canonical DependencySnapshot.policy fun _ =>
    .field getGeneration_canonical DependencySnapshot.policyGeneration fun _ =>
    .field getGeneration_canonical DependencySnapshot.evidenceGeneration fun _ =>
    .field getWatermark_canonical DependencySnapshot.evidenceWatermark fun _ =>
    .field getWatermark_canonical DependencySnapshot.upstreamWatermark fun _ =>
    .field getGeneration_canonical DependencySnapshot.epoch fun _ =>
    .field getGeneration_canonical DependencySnapshot.authorityGeneration fun _ =>
    .field getOptionalGeneration_canonical DependencySnapshot.routeGeneration fun _ =>
    .field (getOption_canonical getId_canonical) DependencySnapshot.multipathSet fun _ =>
    .field getOptionalGeneration_canonical DependencySnapshot.multipathSetGeneration fun _ =>
    .field (getElements_canonical decodePathAuthority_canonical)
      DependencySnapshot.candidatePathAuthority fun _ =>
    .field (getElements_canonical getU64_canonical)
      DependencySnapshot.candidatePathWatermarks fun _ =>
    .field (getElements_canonical getId_canonical) DependencySnapshot.candidates fun _ =>
    .field getU64_canonical DependencySnapshot.capturedAt fun _ => .done _) (fun _ => rfl) ?_ ?_
  · intro d
    unfold encodeDependencies
    simp only [List.append_assoc, List.append_nil]
  · intro d
    constructor
    · intro h
      obtain ⟨hevaluation, hpolicy, hgeneration, hevidence, -, -, hepoch, hauthority, -, hset, -,
        hbindings, hwatermarks, hcandidates, -⟩ := h
      exact ⟨hevaluation, hpolicy, hgeneration, hevidence, hepoch, hauthority, hset, hbindings,
        hwatermarks, hcandidates⟩
    · intro h
      exact ⟨h.evaluation, h.policy, h.policyGeneration, h.evidenceGeneration, trivial, trivial,
        h.epoch, h.authorityGeneration, trivial, h.multipathSet, trivial, h.candidatePathAuthority,
        h.candidatePathWatermarks, h.candidates, trivial, trivial⟩

/-- A ticket that a payload carries. -/
structure EvaluationTicket.OnWire (t : EvaluationTicket) : Prop where
  dependencies : t.dependencies.OnWire
  detail : Short t.detail
  weightProposal : ∀ proposal ∈ t.weightProposal, proposal.OnWire
  ranking : Bounded CandidateEvaluation.OnWire t.ranking

theorem Wire.decodeTicketFields_canonical :
    Canonical EvaluationTicket.OnWire encodeTicket decodeTicketFields := by
  refine Parses.canonical (.field decodeDependencies_canonical EvaluationTicket.dependencies fun _ =>
    .field decisionLifecycles_canonical EvaluationTicket.lifecycle fun _ =>
    .field getOptionalId_canonical EvaluationTicket.decision fun _ =>
    .field getOptionalId_canonical EvaluationTicket.evidenceSnapshot fun _ =>
    .field outcomes_canonical EvaluationTicket.outcome fun _ =>
    .field suppressionReasons_canonical EvaluationTicket.suppression fun _ =>
    .field getText_canonical EvaluationTicket.detail fun _ =>
    .field getOptionalId_canonical EvaluationTicket.currentPreference fun _ =>
    .field getOptionalId_canonical EvaluationTicket.targetPreference fun _ =>
    .field getOptionalGeneration_canonical EvaluationTicket.targetPathAuthorityGeneration fun _ =>
    .field getOptionalGeneration_canonical EvaluationTicket.adaptationGeneration fun _ =>
    .field getOptionalGeneration_canonical EvaluationTicket.transitionGeneration fun _ =>
    .field (getOption_canonical getU64_canonical) EvaluationTicket.targetScore fun _ =>
    .field (getOption_canonical getU32_canonical) EvaluationTicket.improvementBps fun _ =>
    .field getU32_canonical EvaluationTicket.requiredImprovementBps fun _ =>
    .field (getOption_canonical decodeProposal_canonical) EvaluationTicket.weightProposal fun _ =>
    .field getBool_canonical EvaluationTicket.rollback fun _ =>
    .field getBool_canonical EvaluationTicket.emergency fun _ =>
    .field (getElements_canonical decodeCandidateEvaluation_canonical)
      EvaluationTicket.ranking fun _ =>
    .field getU64_canonical EvaluationTicket.evaluatedAt fun _ => .done _) (fun _ => rfl) ?_ ?_
  · intro t
    unfold encodeTicket
    simp only [List.append_assoc, List.append_nil]
  · intro t
    constructor
    · intro h
      obtain ⟨hdependencies, -, -, -, -, -, hdetail, -, -, -, -, -, -, -, -, hproposal, -, -, hranking,
        -⟩ := h
      exact ⟨hdependencies, hdetail, hproposal, hranking⟩
    · intro h
      exact ⟨h.dependencies, trivial, trivial, trivial, trivial, trivial, h.detail, trivial, trivial,
        trivial, trivial, trivial, fun _ _ => trivial, fun _ _ => trivial, trivial, h.weightProposal,
        trivial, trivial, h.ranking, trivial, trivial⟩

theorem Wire.decodeTicket_exact : Exact EvaluationTicket.OnWire encodeTicket decodeTicket :=
  decodeTicketFields_canonical.exact ()

end AdaptiveRouting
