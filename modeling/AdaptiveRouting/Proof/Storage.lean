import AdaptiveRouting.Proof.Format
import AdaptiveRouting.Proof.Scenario

/-!
# The records of a store

Each record is read back from its own bytes and from no others (`getPolicy_exact` and its siblings).
The whole store follows: `decodeDurableState` accepts the bytes of the storable durable states, and
returns what was encoded but for the commit times of the history (`decodeDurableState_ok_iff`).
-/

namespace AdaptiveRouting

open Codecs Guard

/-! ## Policies -/

theorem getPolicy_exact (ahead : List AdaptivePolicy) :
    Exact (fun policy => policy.Storable ∧ ∀ other ∈ ahead, other.id ≠ policy.id) putPolicy
      (getPolicy ahead) := by
  intro bytes policy rest
  unfold getPolicy
  constructor
  · intro h
    obtain ⟨id, r₁, hid, e₁, h⟩ := (reading_canonical getId_canonical _ _).bind h
    obtain ⟨name, r₂, hname, e₂, h⟩ := (reading_canonical getId_canonical _ _).bind h
    obtain ⟨scope, r₃, hscope, e₃, h⟩ := (reading_canonical getScope_canonical _ _).bind h
    obtain ⟨semantics, r₄, hsemantics, e₄, h⟩ :=
      (reading_canonical getSemantics_canonical _ _).bind h
    obtain ⟨rawGeneration, r₅, -, e₅, h⟩ := (reading_canonical getU64_canonical _ _).bind h
    obtain ⟨lifecycle, r₆, -, e₆, h⟩ :=
      (reading_canonical policyLifecycles_canonical _ _).bind h
    obtain ⟨rawEpoch, r₇, -, e₇, h⟩ := (reading_canonical getU64_canonical _ _).bind h
    obtain ⟨generation, hparse, h⟩ := lift_bind_ok h
    obtain ⟨hgeneration, w₁⟩ := parseGeneration_ok hparse
    obtain ⟨epoch, hparse, h⟩ := lift_bind_ok h
    obtain ⟨hepoch, w₂⟩ := parseGeneration_ok hparse
    obtain ⟨owner, r₈, howner, e₈, h⟩ := (reading_canonical getId_canonical _ _).bind h
    obtain ⟨rawAuthority, r₉, -, e₉, h⟩ := (reading_canonical getU64_canonical _ _).bind h
    obtain ⟨declaredAt, r₁₀, -, e₁₀, h⟩ := (reading_canonical getU64_canonical _ _).bind h
    obtain ⟨updatedAt, r₁₁, -, e₁₁, h⟩ := (reading_canonical getU64_canonical _ _).bind h
    obtain ⟨authority, hparse, h⟩ := lift_bind_ok h
    obtain ⟨hauthority, w₃⟩ := parseGeneration_ok hparse
    obtain ⟨e₁₂, h⟩ := finish_bind_ok h
    obtain ⟨hcheck, h⟩ := guard_bind_ok h
    obtain ⟨hfresh, h⟩ := guard_bind_ok h
    cases h
    simp only [Bool.or_eq_false_iff, bne_eq_false_iff_eq, Bool.not_eq_false'] at hcheck
    refine ⟨⟨⟨hid, hname, hscope, hsemantics, hgeneration, hepoch, howner, hauthority, hcheck.1,
      hcheck.2⟩, by simpa using hfresh⟩, ?_, rfl⟩
    simp [putPolicy, e₁, e₂, e₃, e₄, e₅, e₆, e₇, e₈, e₉, e₁₀, e₁₁, e₁₂, w₁, w₂, w₃]
  · intro h
    obtain ⟨⟨hp, hfresh⟩, rfl, rfl⟩ := h
    rw [← List.append_nil (putPolicy policy)]
    simp only [putPolicy, List.append_assoc]
    rw [(reading_canonical getId_canonical _ _).run_put hp.id,
      (reading_canonical getId_canonical _ _).run_put hp.name,
      (reading_canonical getScope_canonical _ _).run_put hp.scope,
      (reading_canonical getSemantics_canonical _ _).run_put hp.semantics,
      reading_generation, (reading_canonical policyLifecycles_canonical _ _).run_put trivial,
      reading_generation, lift_bind_of (parseGeneration_of hp.generation _),
      lift_bind_of (parseGeneration_of hp.epoch _),
      (reading_canonical getId_canonical _ _).run_put hp.owner, reading_generation,
      (reading_canonical getU64_canonical _ _).run_put trivial,
      (reading_canonical getU64_canonical _ _).run_put trivial,
      lift_bind_of (parseGeneration_of hp.authorityGeneration _), finish_bind_of,
      guard_bind_of (by simp [hp.version, hp.check]),
      guard_bind_of (by simpa using hfresh)]
    rfl

/-! ## Revocations -/

/-- A revocation that a store can hold. -/
structure RevocationRecord.Storable (r : RevocationRecord) : Prop where
  policy : r.policy.valid = true
  generation : r.generation.valid = true
  authorityGeneration : r.authorityGeneration.valid = true
  epoch : r.epoch.valid = true
  publisher : r.publisher.valid = true
  detail : r.detail.length ≤ 4096

theorem getRevocation_exact : Exact RevocationRecord.Storable putRevocation getRevocation := by
  intro bytes revocation rest
  unfold getRevocation getString
  constructor
  · intro h
    obtain ⟨policy, r₁, hpolicy, e₁, h⟩ := (reading_canonical getId_canonical _ _).bind h
    obtain ⟨rawGeneration, r₂, -, e₂, h⟩ := (reading_canonical getU64_canonical _ _).bind h
    obtain ⟨rawAuthority, r₃, -, e₃, h⟩ := (reading_canonical getU64_canonical _ _).bind h
    obtain ⟨rawEpoch, r₄, -, e₄, h⟩ := (reading_canonical getU64_canonical _ _).bind h
    obtain ⟨publisher, r₅, hpublisher, e₅, h⟩ := (reading_canonical getId_canonical _ _).bind h
    obtain ⟨reason, r₆, -, e₆, h⟩ := (reading_canonical revocationReasons_canonical _ _).bind h
    obtain ⟨generation, hparse, h⟩ := lift_bind_ok h
    obtain ⟨hgeneration, w₁⟩ := parseGeneration_ok hparse
    obtain ⟨authority, hparse, h⟩ := lift_bind_ok h
    obtain ⟨hauthority, w₂⟩ := parseGeneration_ok hparse
    obtain ⟨epoch, hparse, h⟩ := lift_bind_ok h
    obtain ⟨hepoch, w₃⟩ := parseGeneration_ok hparse
    obtain ⟨detail, r₇, hdetail, e₇, h⟩ :=
      (reading_canonical (getBytes_canonical (by decide)) _ _).bind h
    obtain ⟨e₈, h⟩ := finish_bind_ok h
    cases h
    refine ⟨⟨hpolicy, hgeneration, hauthority, hepoch, hpublisher, hdetail⟩, ?_, rfl⟩
    simp [putRevocation, putString, e₁, e₂, e₃, e₄, e₅, e₆, e₇, e₈, w₁, w₂, w₃]
  · intro h
    obtain ⟨hr, rfl, rfl⟩ := h
    rw [← List.append_nil (putRevocation revocation)]
    simp only [putRevocation, putString, List.append_assoc]
    rw [(reading_canonical getId_canonical _ _).run_put hr.policy, reading_generation,
      reading_generation, reading_generation,
      (reading_canonical getId_canonical _ _).run_put hr.publisher,
      (reading_canonical revocationReasons_canonical _ _).run_put trivial,
      lift_bind_of (parseGeneration_of hr.generation _),
      lift_bind_of (parseGeneration_of hr.authorityGeneration _),
      lift_bind_of (parseGeneration_of hr.epoch _),
      (reading_canonical (getBytes_canonical (by decide)) _ _).run_put hr.detail, finish_bind_of]
    rfl

/-! ## Preferences -/

theorem getProvenance_canonical : Canonical (fun _ => True) putProvenance getProvenance := by
  intro bytes provenance rest
  unfold getProvenance
  constructor
  · intro h
    obtain ⟨publisher, r₁, -, e₁, h⟩ := getMaybeId_canonical.bind h
    obtain ⟨boot, r₂, -, e₂, h⟩ := getMaybeId_canonical.bind h
    obtain ⟨epoch, r₃, -, e₃, h⟩ := getMaybeGeneration_canonical.bind h
    obtain ⟨attempt, r₄, -, e₄, h⟩ := getMaybeId_canonical.bind h
    obtain ⟨generation, r₅, -, e₅, h⟩ := getMaybeGeneration_canonical.bind h
    obtain ⟨cause, r₆, -, e₆, h⟩ := adaptationCauses_canonical.bind h
    cases h
    exact ⟨trivial, by simp [putProvenance, e₁, e₂, e₃, e₄, e₅, e₆]⟩
  · intro h
    obtain ⟨-, rfl⟩ := h
    simp only [putProvenance, List.append_assoc]
    rw [getMaybeId_canonical.run_put trivial, getMaybeId_canonical.run_put trivial,
      getMaybeGeneration_canonical.run_put trivial, getMaybeId_canonical.run_put trivial,
      getMaybeGeneration_canonical.run_put trivial, adaptationCauses_canonical.run_put trivial]
    rfl

/-- A weight that a store can hold. -/
def PathWeight.Storable (weight : PathWeight) : Prop :=
  weight.path.valid = true ∧ weight.weightBps ≤ basisPointsScale

theorem getWeight_canonical : Canonical PathWeight.Storable putWeight getWeight := by
  intro bytes weight rest
  unfold getWeight
  constructor
  · intro h
    obtain ⟨path, r₁, hpath, e₁, h⟩ := (reading_canonical getId_canonical _ _).bind h
    obtain ⟨bps, r₂, -, e₂, h⟩ := (reading_canonical getU32_canonical _ _).bind h
    obtain ⟨hbps, h⟩ := guard_bind_ok h
    cases h
    exact ⟨⟨hpath, by simpa using hbps⟩, by simp [putWeight, e₁, e₂]⟩
  · intro h
    obtain ⟨⟨hpath, hbps⟩, rfl⟩ := h
    simp only [putWeight, List.append_assoc]
    rw [(reading_canonical getId_canonical _ _).run_put hpath,
      (reading_canonical getU32_canonical _ _).run_put trivial,
      guard_bind_of (by simpa using hbps)]
    rfl

/-- A weight proposal that a store can hold. -/
structure WeightProposal.Storable (proposal : WeightProposal) : Prop where
  wellFormed : proposal.wellFormed = true
  weights : proposal.weights.length ≤ defaultLimits.maxCandidatesPerPolicy.toNat

theorem WeightProposal.wellFormed_iff {proposal : WeightProposal} :
    proposal.wellFormed = true ↔ proposal.set.valid = true ∧
      proposal.baseGeneration.valid = true ∧ proposal.weights ≠ [] ∧
        ∀ weight ∈ proposal.weights, weight.Storable := by
  simp [WeightProposal.wellFormed, PathWeight.Storable, and_assoc]

theorem getProposal_canonical : Canonical WeightProposal.Storable putProposal getProposal := by
  intro bytes proposal rest
  unfold getProposal
  constructor
  · intro h
    obtain ⟨set, r₁, hset, e₁, h⟩ := (reading_canonical getId_canonical _ _).bind h
    obtain ⟨rawBase, r₂, -, e₂, h⟩ := (reading_canonical getU64_canonical _ _).bind h
    obtain ⟨count, r₃, hcount, e₃, h⟩ := (reading_canonical getSize_canonical _ _).bind h
    obtain ⟨hle, h⟩ := guard_bind_ok h
    obtain ⟨base, hparse, h⟩ := lift_bind_ok h
    obtain ⟨hbase, w₁⟩ := parseGeneration_ok hparse
    obtain ⟨weights, r₄, hweights, h⟩ := run_bind_ok h
    obtain ⟨elements, hread, hlength, -, e₄⟩ :=
      (items_canonical (fun _ => getWeight_canonical) _ _ _ _ _).1 hweights
    obtain ⟨hformed, h⟩ := guard_bind_ok h
    cases h
    subst hread hlength
    refine ⟨⟨by simpa using hformed, by simpa [exceeds] using hle⟩, ?_⟩
    simp [putProposal, putList, e₁, e₂, e₃, e₄, w₁]
  · intro h
    obtain ⟨hp, rfl⟩ := h
    obtain ⟨hset, hbase, -, hweights⟩ := WeightProposal.wellFormed_iff.1 hp.wellFormed
    simp only [putProposal, putList, List.append_assoc]
    rw [(reading_canonical getId_canonical _ _).run_put hset, reading_generation,
      (reading_canonical getSize_canonical _ _).run_put
        (Nat.lt_of_le_of_lt hp.weights (UInt64.toNat_lt _)),
      guard_bind_of (by simpa [exceeds] using hp.weights),
      lift_bind_of (parseGeneration_of hbase _),
      run_bind_of ((items_canonical (fun _ => getWeight_canonical) _ _ _ _ _).2
        ⟨proposal.weights, rfl, rfl, each_const.2 hweights, rfl⟩),
      guard_bind_of (by simpa using hp.wellFormed)]
    rfl

theorem getWeightProposal_canonical :
    Canonical (fun value => ∀ proposal ∈ value, proposal.Storable) (putOption putProposal)
      getWeightProposal := by
  intro bytes value rest
  unfold getWeightProposal
  constructor
  · intro h
    obtain ⟨present, r₁, -, e₁, h⟩ := (reading_canonical getBool_canonical _ _).bind h
    cases present with
    | false =>
      cases h
      exact ⟨by simp, e₁⟩
    | true =>
      obtain ⟨proposal, r₂, hproposal, e₂, h⟩ := getProposal_canonical.bind h
      cases h
      exact ⟨by simpa using hproposal, by simp [putOption, e₁, e₂]⟩
  · intro h
    obtain ⟨hvalue, rfl⟩ := h
    cases value with
    | none => exact (reading_canonical getBool_canonical _ _).run_put trivial
    | some proposal =>
      unfold putOption
      rw [List.append_assoc, (reading_canonical getBool_canonical _ _).run_put trivial]
      exact getProposal_canonical.run_put (hvalue proposal rfl)

theorem ownerIn_of {policies : List AdaptivePolicy} {policy : AdaptivePolicyId}
    {owner : AdaptivePolicy} (h : policies.find? (·.id == policy) = some owner) (detail : Text) :
    ownerIn policies policy detail = .ok owner :=
  orRefuse_of h

/-- A preference that a store of these policies can hold. -/
structure RoutingPreference.Storable (policies : List AdaptivePolicy)
    (entry : AdaptivePolicyId × RoutingPreference) : Prop where
  route : entry.2.route.valid = true
  multipathSet : ∀ set ∈ entry.2.multipathSet, set.valid = true
  established : entry.2.established = true →
    entry.2.preferredPath.valid = true ∧ entry.2.pathAuthorityGeneration.valid = true
  adaptationGeneration : entry.2.adaptationGeneration.valid = true
  transitionGeneration : entry.2.transitionGeneration.valid = true
  weightProposal : ∀ proposal ∈ entry.2.weightProposal, proposal.Storable
  owner : entry.1.valid = true ∧ ∃ policy, policies.find? (·.id == entry.1) = some policy ∧
    policy.semantics.target.route = entry.2.route

theorem getPreference_exact (policies : List AdaptivePolicy) :
    Exact (RoutingPreference.Storable policies) putPreference (getPreference policies) := by
  intro bytes entry rest
  unfold getPreference
  constructor
  · intro h
    obtain ⟨policy, r₁, hpolicy, e₁, h⟩ := (reading_canonical getId_canonical _ _).bind h
    obtain ⟨route, r₂, hroute, e₂, h⟩ := (reading_canonical getId_canonical _ _).bind h
    obtain ⟨set, r₃, hset, e₃, h⟩ :=
      (reading_canonical (getOption_canonical getId_canonical) _ _).bind h
    obtain ⟨setGeneration, r₄, -, e₄, h⟩ :=
      (reading_canonical getMaybeGeneration_canonical _ _).bind h
    obtain ⟨established, r₅, -, e₅, h⟩ := (reading_canonical getBool_canonical _ _).bind h
    obtain ⟨path, r₆, -, e₆, h⟩ := (reading_canonical getMaybeId_canonical _ _).bind h
    obtain ⟨authority, r₇, -, e₇, h⟩ :=
      (reading_canonical getMaybeGeneration_canonical _ _).bind h
    obtain ⟨hpath, h⟩ := guard_bind_ok h
    obtain ⟨hauthority, h⟩ := guard_bind_ok h
    obtain ⟨previous, r₈, -, e₈, h⟩ := (reading_canonical getOptionalId_canonical _ _).bind h
    obtain ⟨routeGeneration, r₉, -, e₉, h⟩ :=
      (reading_canonical getMaybeGeneration_canonical _ _).bind h
    obtain ⟨rawAdaptation, r₁₀, -, e₁₀, h⟩ := (reading_canonical getU64_canonical _ _).bind h
    obtain ⟨rawTransition, r₁₁, -, e₁₁, h⟩ := (reading_canonical getU64_canonical _ _).bind h
    obtain ⟨adaptation, hparse, h⟩ := lift_bind_ok h
    obtain ⟨hadaptation, w₁⟩ := parseGeneration_ok hparse
    obtain ⟨transitionGeneration, hparse, h⟩ := lift_bind_ok h
    obtain ⟨htransition, w₂⟩ := parseGeneration_ok hparse
    obtain ⟨transition, r₁₂, -, e₁₂, h⟩ := (reading_canonical getMaybeId_canonical _ _).bind h
    obtain ⟨proposal, r₁₃, hproposal, e₁₃, h⟩ := getWeightProposal_canonical.bind h
    obtain ⟨decision, r₁₄, -, e₁₄, h⟩ := (reading_canonical getOptionalId_canonical _ _).bind h
    obtain ⟨provenance, r₁₅, -, e₁₅, h⟩ := (reading_canonical getProvenance_canonical _ _).bind h
    obtain ⟨committedAt, r₁₆, -, e₁₆, h⟩ := (reading_canonical getU64_canonical _ _).bind h
    obtain ⟨e₁₇, h⟩ := finish_bind_ok h
    obtain ⟨owner, howner, h⟩ := lift_bind_ok h
    obtain ⟨hroutes, h⟩ := guard_bind_ok h
    cases h
    have hestablished : established = true → path.valid = true ∧ authority.valid = true := by
      rintro rfl
      exact ⟨by simpa using hpath, by simpa using hauthority⟩
    refine ⟨⟨hroute, hset, hestablished, hadaptation, htransition, hproposal, hpolicy, owner,
      orRefuse_ok howner, by simpa using hroutes⟩, ?_, rfl⟩
    simp [putPreference, e₁, e₂, e₃, e₄, e₅, e₆, e₇, e₈, e₉, e₁₀, e₁₁, e₁₂, e₁₃, e₁₄, e₁₅, e₁₆, e₁₇,
      w₁, w₂]
  · intro h
    obtain ⟨hp, rfl, rfl⟩ := h
    obtain ⟨hpolicy, owner, hfind, hroute⟩ := hp.owner
    rw [← List.append_nil (putPreference entry)]
    simp only [putPreference, List.append_assoc]
    rw [(reading_canonical getId_canonical _ _).run_put hpolicy,
      (reading_canonical getId_canonical _ _).run_put hp.route,
      (reading_canonical (getOption_canonical getId_canonical) _ _).run_put hp.multipathSet,
      (reading_canonical getMaybeGeneration_canonical _ _).run_put trivial,
      (reading_canonical getBool_canonical _ _).run_put trivial,
      (reading_canonical getMaybeId_canonical _ _).run_put trivial,
      (reading_canonical getMaybeGeneration_canonical _ _).run_put trivial,
      guard_bind_of (by simpa using fun h => (hp.established h).1),
      guard_bind_of (by simpa using fun h => (hp.established h).2),
      (reading_canonical getOptionalId_canonical _ _).run_put trivial,
      (reading_canonical getMaybeGeneration_canonical _ _).run_put trivial,
      reading_generation, reading_generation,
      lift_bind_of (parseGeneration_of hp.adaptationGeneration _),
      lift_bind_of (parseGeneration_of hp.transitionGeneration _),
      (reading_canonical getMaybeId_canonical _ _).run_put trivial,
      getWeightProposal_canonical.run_put hp.weightProposal,
      (reading_canonical getOptionalId_canonical _ _).run_put trivial,
      (reading_canonical getProvenance_canonical _ _).run_put trivial,
      (reading_canonical getU64_canonical _ _).run_put trivial, finish_bind_of,
      lift_bind_of (ownerIn_of hfind _), guard_bind_of (by simpa using hroute)]
    rfl

/-! ## Stable states and timing -/

/-- A rollback anchor that a store of these policies can hold. -/
structure StableState.Storable (policies : List AdaptivePolicy)
    (entry : AdaptivePolicyId × StableState) : Prop where
  established : entry.2.established = true → entry.2.pathAuthorityGeneration.valid = true
  owner : entry.1.valid = true ∧ ∃ policy, policies.find? (·.id == entry.1) = some policy

theorem getStable_exact (policies : List AdaptivePolicy) :
    Exact (StableState.Storable policies) putStable (getStable policies) := by
  intro bytes entry rest
  unfold getStable
  constructor
  · intro h
    obtain ⟨policy, r₁, hpolicy, e₁, h⟩ := (reading_canonical getId_canonical _ _).bind h
    obtain ⟨established, r₂, -, e₂, h⟩ := (reading_canonical getBool_canonical _ _).bind h
    obtain ⟨path, r₃, -, e₃, h⟩ := (reading_canonical getMaybeId_canonical _ _).bind h
    obtain ⟨authority, r₄, -, e₄, h⟩ :=
      (reading_canonical getMaybeGeneration_canonical _ _).bind h
    obtain ⟨hauthority, h⟩ := guard_bind_ok h
    obtain ⟨route, r₅, -, e₅, h⟩ := (reading_canonical getMaybeGeneration_canonical _ _).bind h
    obtain ⟨set, r₆, -, e₆, h⟩ := (reading_canonical getMaybeGeneration_canonical _ _).bind h
    obtain ⟨adaptation, r₇, -, e₇, h⟩ :=
      (reading_canonical getMaybeGeneration_canonical _ _).bind h
    obtain ⟨stabilizedAt, r₈, -, e₈, h⟩ := (reading_canonical getU64_canonical _ _).bind h
    obtain ⟨e₉, h⟩ := finish_bind_ok h
    obtain ⟨owner, howner, h⟩ := lift_bind_ok h
    cases h
    refine ⟨⟨?_, hpolicy, owner, orRefuse_ok howner⟩, ?_, rfl⟩
    · rintro rfl
      simpa using hauthority
    · simp [putStable, e₁, e₂, e₃, e₄, e₅, e₆, e₇, e₈, e₉]
  · intro h
    obtain ⟨hs, rfl, rfl⟩ := h
    obtain ⟨hpolicy, owner, hfind⟩ := hs.owner
    rw [← List.append_nil (putStable entry)]
    simp only [putStable, List.append_assoc]
    rw [(reading_canonical getId_canonical _ _).run_put hpolicy,
      (reading_canonical getBool_canonical _ _).run_put trivial,
      (reading_canonical getMaybeId_canonical _ _).run_put trivial,
      (reading_canonical getMaybeGeneration_canonical _ _).run_put trivial,
      guard_bind_of (by simpa using hs.established),
      (reading_canonical getMaybeGeneration_canonical _ _).run_put trivial,
      (reading_canonical getMaybeGeneration_canonical _ _).run_put trivial,
      (reading_canonical getMaybeGeneration_canonical _ _).run_put trivial,
      (reading_canonical getU64_canonical _ _).run_put trivial, finish_bind_of,
      lift_bind_of (ownerIn_of hfind _)]
    rfl

/-- Timing that a store of these policies can hold. -/
structure DurableTiming.Storable (policies : List AdaptivePolicy) (t : DurableTiming) : Prop where
  owner : t.policy.valid = true ∧ ∃ policy, policies.find? (·.id == t.policy) = some policy
  penalty : t.dampeningPenalty.toUInt64 ≤ defaultLimits.maxDampeningPenalty
  churnAges : t.churnAges.length ≤ defaultLimits.maxAdaptationsPerWindow.toNat
  holdDown : t.holdDownActive = false → t.holdDownRemaining = 0
  cooldown : t.cooldownActive = false → t.cooldownRemaining = 0

theorem getChurnAges_canonical :
    Canonical (fun ages : List Ticks => ages.length ≤ defaultLimits.maxAdaptationsPerWindow.toNat)
      (putList putU64)
      (counted (readAs getSize .absurdCount) defaultLimits.maxAdaptationsPerWindow.toNat
        { status := .absurdCount } fun _ => readAs getU64 .malformedTiming) := by
  have hcounted := counted_canonical (reading_canonical getSize_canonical .absurdCount [])
    (fun n hn => Nat.lt_of_le_of_lt hn defaultLimits.maxAdaptationsPerWindow.toNat_lt)
    { status := .absurdCount }
    (fun _ : List Ticks => reading_canonical getU64_canonical .malformedTiming [])
  exact hcounted.congr (fun ages => by simp [each_const]) fun _ => rfl

theorem getTiming_exact (policies : List AdaptivePolicy) :
    Exact (DurableTiming.Storable policies) putTiming (getTiming policies) := by
  intro bytes timing rest
  unfold getTiming
  constructor
  · intro h
    obtain ⟨policy, r₁, hpolicy, e₁, h⟩ := (reading_canonical getId_canonical _ _).bind h
    obtain ⟨owner, howner, h⟩ := lift_bind_ok h
    obtain ⟨active, r₂, -, e₂, h⟩ := (reading_canonical getBool_canonical _ _).bind h
    obtain ⟨remaining, r₃, -, e₃, h⟩ := (reading_canonical getU64_canonical _ _).bind h
    obtain ⟨generation, r₄, -, e₄, h⟩ :=
      (reading_canonical getMaybeGeneration_canonical _ _).bind h
    obtain ⟨locked, r₅, -, e₅, h⟩ := (reading_canonical getOptionalId_canonical _ _).bind h
    obtain ⟨cooling, r₆, -, e₆, h⟩ := (reading_canonical getBool_canonical _ _).bind h
    obtain ⟨cooldown, r₇, -, e₇, h⟩ := (reading_canonical getU64_canonical _ _).bind h
    obtain ⟨penalty, r₈, -, e₈, h⟩ := (reading_canonical getU32_canonical _ _).bind h
    obtain ⟨decay, r₉, -, e₉, h⟩ := (reading_canonical getU64_canonical _ _).bind h
    obtain ⟨hpenalty, h⟩ := guard_bind_ok h
    obtain ⟨ages, r₁₀, hages, e₁₀, h⟩ := getChurnAges_canonical.bind h
    obtain ⟨e₁₁, h⟩ := finish_bind_ok h
    obtain ⟨hhold, h⟩ := guard_bind_ok h
    obtain ⟨hcool, h⟩ := guard_bind_ok h
    cases h
    refine ⟨⟨⟨hpolicy, owner, orRefuse_ok howner⟩, by simpa using hpenalty, hages, ?_, ?_⟩, ?_, rfl⟩
    · rintro rfl
      simpa using hhold
    · rintro rfl
      simpa using hcool
    · simp [putTiming, e₁, e₂, e₃, e₄, e₅, e₆, e₇, e₈, e₉, e₁₀, e₁₁]
  · intro h
    obtain ⟨ht, rfl, rfl⟩ := h
    obtain ⟨hpolicy, owner, hfind⟩ := ht.owner
    rw [← List.append_nil (putTiming timing)]
    simp only [putTiming, List.append_assoc]
    rw [(reading_canonical getId_canonical _ _).run_put hpolicy, lift_bind_of (ownerIn_of hfind _),
      (reading_canonical getBool_canonical _ _).run_put trivial,
      (reading_canonical getU64_canonical _ _).run_put trivial,
      (reading_canonical getMaybeGeneration_canonical _ _).run_put trivial,
      (reading_canonical getOptionalId_canonical _ _).run_put trivial,
      (reading_canonical getBool_canonical _ _).run_put trivial,
      (reading_canonical getU64_canonical _ _).run_put trivial,
      (reading_canonical getU32_canonical _ _).run_put trivial,
      (reading_canonical getU64_canonical _ _).run_put trivial,
      guard_bind_of (by simpa using ht.penalty), getChurnAges_canonical.run_put ht.churnAges,
      finish_bind_of, guard_bind_of (by simpa using ht.holdDown),
      guard_bind_of (by simpa using ht.cooldown)]
    rfl

/-! ## History -/

/-- A decision that the history of a store of these policies can hold. -/
structure AdaptationRecord.Storable (policies : List AdaptivePolicy)
    (entry : AdaptivePolicyId × AdaptationRecord) : Prop where
  decision : entry.2.decision.valid = true
  digest : entry.2.digest.length ≤ 4096
  owner : entry.1.valid = true ∧ ∃ policy, policies.find? (·.id == entry.1) = some policy

theorem getHistoryEntry_exact (policies : List AdaptivePolicy) :
    Exact (fun entry => AdaptationRecord.Storable policies entry ∧ entry.2.committedAt = 0)
      putHistoryEntry (getHistoryEntry policies) := by
  intro bytes entry rest
  unfold getHistoryEntry getString
  constructor
  · intro h
    obtain ⟨policy, r₁, hpolicy, e₁, h⟩ := (reading_canonical getId_canonical _ _).bind h
    obtain ⟨decision, r₂, hdecision, e₂, h⟩ := (reading_canonical getId_canonical _ _).bind h
    obtain ⟨lifecycle, r₃, -, e₃, h⟩ :=
      (reading_canonical decisionLifecycles_canonical _ _).bind h
    obtain ⟨outcome, r₄, -, e₄, h⟩ := (reading_canonical outcomes_canonical _ _).bind h
    obtain ⟨suppression, r₅, -, e₅, h⟩ :=
      (reading_canonical suppressionReasons_canonical _ _).bind h
    obtain ⟨cause, r₆, -, e₆, h⟩ := (reading_canonical adaptationCauses_canonical _ _).bind h
    obtain ⟨fromPath, r₇, -, e₇, h⟩ := (reading_canonical getOptionalId_canonical _ _).bind h
    obtain ⟨toPath, r₈, -, e₈, h⟩ := (reading_canonical getOptionalId_canonical _ _).bind h
    obtain ⟨adaptation, r₉, -, e₉, h⟩ :=
      (reading_canonical getMaybeGeneration_canonical _ _).bind h
    obtain ⟨evidence, r₁₀, -, e₁₀, h⟩ :=
      (reading_canonical getMaybeGeneration_canonical _ _).bind h
    obtain ⟨epoch, r₁₁, -, e₁₁, h⟩ :=
      (reading_canonical getMaybeGeneration_canonical _ _).bind h
    obtain ⟨digest, r₁₂, hdigest, e₁₂, h⟩ :=
      (reading_canonical (getBytes_canonical (by decide)) _ _).bind h
    obtain ⟨e₁₃, h⟩ := finish_bind_ok h
    obtain ⟨owner, howner, h⟩ := lift_bind_ok h
    cases h
    refine ⟨⟨⟨hdecision, hdigest, hpolicy, owner, orRefuse_ok howner⟩, rfl⟩, ?_, rfl⟩
    simp [putHistoryEntry, putString, e₁, e₂, e₃, e₄, e₅, e₆, e₇, e₈, e₉, e₁₀, e₁₁, e₁₂, e₁₃]
  · intro h
    obtain ⟨⟨hr, hcommitted⟩, rfl, rfl⟩ := h
    obtain ⟨hpolicy, owner, hfind⟩ := hr.owner
    rw [← List.append_nil (putHistoryEntry entry)]
    simp only [putHistoryEntry, putString, List.append_assoc]
    rw [(reading_canonical getId_canonical _ _).run_put hpolicy,
      (reading_canonical getId_canonical _ _).run_put hr.decision,
      (reading_canonical decisionLifecycles_canonical _ _).run_put trivial,
      (reading_canonical outcomes_canonical _ _).run_put trivial,
      (reading_canonical suppressionReasons_canonical _ _).run_put trivial,
      (reading_canonical adaptationCauses_canonical _ _).run_put trivial,
      (reading_canonical getOptionalId_canonical _ _).run_put trivial,
      (reading_canonical getOptionalId_canonical _ _).run_put trivial,
      (reading_canonical getMaybeGeneration_canonical _ _).run_put trivial,
      (reading_canonical getMaybeGeneration_canonical _ _).run_put trivial,
      (reading_canonical getMaybeGeneration_canonical _ _).run_put trivial,
      (reading_canonical (getBytes_canonical (by decide)) _ _).run_put hr.digest, finish_bind_of,
      lift_bind_of (ownerIn_of hfind _), ← hcommitted]
    rfl

/-! ## Sections -/

section
variable {α : Type} {P : List α → α → Prop} {put : α → Text} {count : Load Nat}
  {get : List α → Load α}

/-- The length of a record in a store. -/
def Recordable (bytes : Text) : Prop := bytes.length ≤ maxPersistenceRecordBytes

theorem getRecords_canonical (hcount : Canonical Countable (fun n => putU64 n.toUInt64) count)
    (hget : ∀ ahead, Exact (P ahead) put (get ahead)) (limit : UInt64) (absurd tooLong : Text) :
    Canonical
      (fun values => values.length ≤ limit.toNat ∧
        Each (fun ahead a => P ahead a ∧ Recordable (put a)) [] values)
      (putRecords put) (getRecords count limit absurd tooLong get) := by
  have hbytes := reading_canonical
    (getBytes_canonical (show Countable maxPersistenceRecordBytes by decide)) .truncated tooLong
  exact counted_canonical hcount (fun n hn => Nat.lt_of_le_of_lt hn limit.toNat_lt) _
    fun ahead => (hget ahead).record hbytes

/-- A section none of whose records looks at those ahead of it. -/
theorem getSection_canonical {P : α → Prop} {get : Load α}
    (hcount : Canonical Countable (fun n => putU64 n.toUInt64) count) (hget : Exact P put get)
    (limit : UInt64) (absurd tooLong : Text) :
    Canonical
      (fun values => values.length ≤ limit.toNat ∧ ∀ a ∈ values, P a ∧ Recordable (put a))
      (putRecords put) (getRecords count limit absurd tooLong fun _ => get) :=
  (getRecords_canonical hcount (fun _ => hget) limit absurd tooLong).congr
    (fun _ => and_congr_right fun _ => each_const) fun _ => rfl

theorem getPolicies_canonical (hcount : Canonical Countable (fun n => putU64 n.toUInt64) count)
    (limit : UInt64) (absurd tooLong : Text) :
    Canonical
      (fun policies => policies.length ≤ limit.toNat ∧
        (∀ policy ∈ policies, policy.Storable ∧ Recordable (putPolicy policy)) ∧
          (policies.map (·.id)).Nodup)
      (putRecords putPolicy) (getRecords count limit absurd tooLong getPolicy) := by
  refine (getRecords_canonical hcount getPolicy_exact limit absurd tooLong).congr
    (fun policies => and_congr_right fun _ => ?_) fun _ => rfl
  rw [each_congr fun _ _ => and_right_comm, each_distinct AdaptivePolicy.id fun policy =>
    policy.Storable ∧ Recordable (putPolicy policy)]
  simp

end

/-! ## The store -/

/-- A durable state whose records keep the bounds of the format and the rules across records. -/
structure DurableState.Coherent (d : DurableState) : Prop where
  formatVersion : d.formatVersion = persistenceFormatVersion
  epoch : d.epoch.valid = true
  authorityGeneration : d.authorityGeneration.valid = true
  evidenceGeneration : d.evidenceGeneration.valid = true
  policies : d.policies.length ≤ defaultLimits.maxPolicies.toNat ∧
    (∀ policy ∈ d.policies, policy.Storable ∧ Recordable (putPolicy policy)) ∧
      (d.policies.map (·.id)).Nodup
  revocations : d.revocations.length ≤ defaultLimits.maxRevocations.toNat ∧
    ∀ revocation ∈ d.revocations, revocation.Storable ∧ Recordable (putRevocation revocation)
  preferences : d.preferences.length ≤ defaultLimits.maxPolicies.toNat ∧
    ∀ entry ∈ d.preferences,
      RoutingPreference.Storable d.policies entry ∧ Recordable (putPreference entry)
  stableStates : d.stableStates.length ≤ defaultLimits.maxPolicies.toNat ∧
    ∀ entry ∈ d.stableStates, StableState.Storable d.policies entry ∧ Recordable (putStable entry)
  timings : d.timings.length ≤ defaultLimits.maxPolicies.toNat ∧
    ∀ timing ∈ d.timings, timing.Storable d.policies ∧ Recordable (putTiming timing)
  history : d.history.length ≤ defaultLimits.maxDecisionHistory.toNat ∧
    ∀ entry ∈ d.history,
      AdaptationRecord.Storable d.policies entry ∧ Recordable (putHistoryEntry entry)

/-- A durable state that a store can hold. -/
structure DurableState.Storable (d : DurableState) : Prop extends d.Coherent where
  size : (encodeDurableState d).length ≤ maxStoreBytes

theorem DurableState.stored_eq_iff {d : DurableState} :
    d.stored = d ↔ ∀ entry ∈ d.history, entry.2.committedAt = 0 := by
  constructor
  · intro h entry hentry
    have hhistory := congrArg DurableState.history h
    rw [← hhistory] at hentry
    obtain ⟨other, -, rfl⟩ := List.mem_map.1 hentry
    rfl
  · intro h
    have hmap : d.history.map (fun entry => (entry.1, { entry.2 with committedAt := 0 })) =
        d.history.map id := by
      refine List.map_congr_left fun entry hentry => ?_
      rw [← h entry hentry]
      rfl
    unfold DurableState.stored
    rw [hmap, List.map_id]

theorem getSections_canonical :
    Canonical (fun d => d.Coherent ∧ d.stored = d) putBody getSections := by
  intro bytes d rest
  unfold getSections
  constructor
  · intro h
    obtain ⟨rawEpoch, r₁, -, e₁, h⟩ := (reading_canonical getU64_canonical _ _).bind h
    obtain ⟨rawAuthority, r₂, -, e₂, h⟩ := (reading_canonical getU64_canonical _ _).bind h
    obtain ⟨rawEvidence, r₃, -, e₃, h⟩ := (reading_canonical getU64_canonical _ _).bind h
    obtain ⟨evidenceMark, r₄, -, e₄, h⟩ := (reading_canonical getU64_canonical _ _).bind h
    obtain ⟨upstreamMark, r₅, -, e₅, h⟩ := (reading_canonical getU64_canonical _ _).bind h
    obtain ⟨epoch, hparse, h⟩ := lift_bind_ok h
    obtain ⟨hepoch, w₁⟩ := parseGeneration_ok hparse
    obtain ⟨authority, hparse, h⟩ := lift_bind_ok h
    obtain ⟨hauthority, w₂⟩ := parseGeneration_ok hparse
    obtain ⟨evidence, hparse, h⟩ := lift_bind_ok h
    obtain ⟨hevidence, w₃⟩ := parseGeneration_ok hparse
    obtain ⟨-, h⟩ := guard_bind_ok h
    obtain ⟨policies, r₆, hpolicies, e₆, h⟩ :=
      (getPolicies_canonical (reading_canonical getSize_canonical _ _) _ _ _).bind h
    obtain ⟨revocations, r₇, hrevocations, e₇, h⟩ :=
      (getSection_canonical (reading_canonical getSize_canonical _ _) getRevocation_exact
        _ _ _).bind h
    obtain ⟨preferences, r₈, hpreferences, e₈, h⟩ :=
      (getSection_canonical (reading_canonical getSize_canonical _ _) (getPreference_exact policies)
        _ _ _).bind h
    obtain ⟨stableStates, r₉, hstable, e₉, h⟩ :=
      (getSection_canonical (reading_canonical getSize_canonical _ _) (getStable_exact policies)
        _ _ _).bind h
    obtain ⟨timings, r₁₀, htimings, e₁₀, h⟩ :=
      (getSection_canonical (reading_canonical getSize_canonical _ _) (getTiming_exact policies)
        _ _ _).bind h
    obtain ⟨history, r₁₁, hhistory, e₁₁, h⟩ :=
      (getSection_canonical (reading_canonical getSize_canonical _ _)
        (getHistoryEntry_exact policies) _ _ _).bind h
    cases h
    refine ⟨⟨⟨rfl, hepoch, hauthority, hevidence, hpolicies, hrevocations, hpreferences, hstable,
      htimings, hhistory.1, fun entry hentry => ?_⟩, ?_⟩, ?_⟩
    · obtain ⟨⟨hstorable, -⟩, hsize⟩ := hhistory.2 entry hentry
      exact ⟨hstorable, hsize⟩
    · exact DurableState.stored_eq_iff.2 fun entry hentry => (hhistory.2 entry hentry).1.2
    · simp [putBody, e₁, e₂, e₃, e₄, e₅, e₆, e₇, e₈, e₉, e₁₀, e₁₁, w₁, w₂, w₃]
  · intro h
    obtain ⟨⟨hd, hstored⟩, rfl⟩ := h
    have hhistory : ∀ entry ∈ d.history, (AdaptationRecord.Storable d.policies entry ∧
        entry.2.committedAt = 0) ∧ Recordable (putHistoryEntry entry) := by
      intro entry hentry
      obtain ⟨hstorable, hsize⟩ := hd.history.2 entry hentry
      exact ⟨⟨hstorable, DurableState.stored_eq_iff.1 hstored entry hentry⟩, hsize⟩
    simp only [putBody, List.append_assoc]
    rw [reading_generation, reading_generation, reading_generation,
      (reading_canonical getU64_canonical _ _).run_put trivial,
      (reading_canonical getU64_canonical _ _).run_put trivial,
      lift_bind_of (parseGeneration_of hd.epoch _),
      lift_bind_of (parseGeneration_of hd.authorityGeneration _),
      lift_bind_of (parseGeneration_of hd.evidenceGeneration _),
      guard_bind_of (by
        have hvalid := hd.evidenceGeneration
        simp only [Generation.valid, bne_iff_ne, ne_eq] at hvalid
        simp [hvalid]),
      (getPolicies_canonical (reading_canonical getSize_canonical _ _) _ _ _).run_put hd.policies,
      (getSection_canonical (reading_canonical getSize_canonical _ _) getRevocation_exact
        _ _ _).run_put hd.revocations,
      (getSection_canonical (reading_canonical getSize_canonical _ _)
        (getPreference_exact d.policies) _ _ _).run_put hd.preferences,
      (getSection_canonical (reading_canonical getSize_canonical _ _) (getStable_exact d.policies)
        _ _ _).run_put hd.stableStates,
      (getSection_canonical (reading_canonical getSize_canonical _ _) (getTiming_exact d.policies)
        _ _ _).run_put hd.timings,
      (getSection_canonical (reading_canonical getSize_canonical _ _)
        (getHistoryEntry_exact d.policies) _ _ _).run_put ⟨hd.history.1, hhistory⟩]
    have hversion := hd.formatVersion
    cases d
    cases hversion
    rfl

theorem getBody_exact : Exact (fun d => d.Coherent ∧ d.stored = d) putBody getBody :=
  getSections_canonical.exact _

/-- What the integrity trailer covers. -/
def contentOf (d : DurableState) : Text :=
  putU32 storeMagic ++ putU32 persistenceFormatVersion ++ putBody d

theorem encodeDurableState_eq (d : DurableState) :
    encodeDurableState d = contentOf d ++ putU64 (storeIntegrity (contentOf d)) := rfl

theorem putU64_length (value : UInt64) : (putU64 value).length = 8 := littleEndian_length 8 _

theorem putU32_length (value : UInt32) : (putU32 value).length = 4 := littleEndian_length 4 _

theorem contentOf_length (d : DurableState) : (contentOf d).length = 8 + (putBody d).length := by
  simp only [contentOf, List.length_append, putU32_length]

theorem encodeDurableState_length (d : DurableState) :
    (encodeDurableState d).length = 16 + (putBody d).length := by
  rw [encodeDurableState_eq, List.length_append, contentOf_length, putU64_length]
  omega

/-- A store is its content and the integrity of it. -/
theorem eq_encodeDurableState {bytes : Text} {d : DurableState} (hlong : 16 ≤ bytes.length)
    (hmagic : number (bytes.take 4) = storeMagic.toNat)
    (hversion : number ((bytes.drop 4).take 4) = persistenceFormatVersion.toNat)
    (hintegrity : number (bytes.drop (bytes.length - 8)) =
      (storeIntegrity (bytes.take (bytes.length - 8))).toNat)
    (hbody : (bytes.take (bytes.length - 8)).drop 8 = putBody d) : bytes = encodeDurableState d := by
  have hfour : (bytes.take 4).length = 4 := by
    rw [List.length_take]
    omega
  have hnext : ((bytes.drop 4).take 4).length = 4 := by
    rw [List.length_take, List.length_drop]
    omega
  have hlast : (bytes.drop (bytes.length - 8)).length = 8 := by
    rw [List.length_drop]
    omega
  have hhead : (bytes.take (bytes.length - 8)).take 8 =
      putU32 storeMagic ++ putU32 persistenceFormatVersion := by
    rw [List.take_take, Nat.min_eq_left (by omega), List.take_add (i := 4) (j := 4)]
    exact congrArg₂ (· ++ ·) (eq_littleEndian hfour hmagic) (eq_littleEndian hnext hversion)
  have hcontent : bytes.take (bytes.length - 8) = contentOf d := by
    rw [← List.take_append_drop 8 (bytes.take (bytes.length - 8)), hhead, hbody]
    rfl
  calc bytes
      = bytes.take (bytes.length - 8) ++ bytes.drop (bytes.length - 8) :=
        (List.take_append_drop ..).symm
    _ = contentOf d ++ putU64 (storeIntegrity (contentOf d)) := by
        rw [eq_littleEndian hlast hintegrity, hcontent]
        rfl

theorem number_putU32 (value : UInt32) : number (putU32 value) = value.toNat :=
  number_littleEndian value.toNat_lt

theorem number_putU64 (value : UInt64) : number (putU64 value) = value.toNat :=
  number_littleEndian value.toNat_lt

/-- The store accepts the bytes of the storable states, as they are stored, and no others. -/
theorem decodeDurableState_ok_iff {bytes : Text} {d : DurableState} :
    decodeDurableState bytes = .ok d ↔
      d.Storable ∧ d.stored = d ∧ bytes = encodeDurableState d := by
  unfold decodeDurableState
  constructor
  · intro h
    obtain ⟨-, h⟩ := seq_ok h
    obtain ⟨hlarge, h⟩ := seq_ok h
    obtain ⟨hshort, h⟩ := seq_ok h
    obtain ⟨hmagic, h⟩ := seq_ok h
    obtain ⟨hversion, h⟩ := seq_ok h
    obtain ⟨hintegrity, h⟩ := seq_ok h
    obtain ⟨⟨d, rest⟩, hbody, h⟩ := bind_ok h
    cases h
    obtain ⟨⟨hcoherent, hstored⟩, hput, -⟩ := (getBody_exact _ _ _).1 hbody
    have hbytes : bytes = encodeDurableState d :=
      eq_encodeDurableState (by simpa using hshort) (by simpa using hmagic)
        (by simpa using hversion) (by simpa using hintegrity) hput
    have hsize : bytes.length ≤ maxStoreBytes := by simpa using hlarge
    exact ⟨⟨hcoherent, hbytes ▸ hsize⟩, hstored, hbytes⟩
  · intro h
    obtain ⟨hd, hstored, rfl⟩ := h
    have hlength := encodeDurableState_length d
    have hcut : (encodeDurableState d).length - 8 = (contentOf d).length := by
      rw [hlength, contentOf_length]
      omega
    have hcontent : (encodeDurableState d).take ((encodeDurableState d).length - 8) = contentOf d := by
      rw [hcut]
      exact List.take_left
    have htrailer : (encodeDurableState d).drop ((encodeDurableState d).length - 8) =
        putU64 (storeIntegrity (contentOf d)) := by
      rw [hcut]
      exact List.drop_left
    have hwords : encodeDurableState d = putU32 storeMagic ++ (putU32 persistenceFormatVersion ++
        (putBody d ++ putU64 (storeIntegrity (contentOf d)))) := by
      rw [encodeDurableState_eq, contentOf, List.append_assoc, List.append_assoc]
    have hmagic : (encodeDurableState d).take 4 = putU32 storeMagic := by
      rw [hwords]
      exact List.take_left' (putU32_length _)
    have hversion : ((encodeDurableState d).drop 4).take 4 = putU32 persistenceFormatVersion := by
      rw [hwords, List.drop_left' (putU32_length _)]
      exact List.take_left' (putU32_length _)
    have hbody : (contentOf d).drop 8 = putBody d := List.drop_left' rfl
    rw [seq_of (by simp [← List.length_eq_zero_iff, hlength]), seq_of (by simpa using hd.size),
      seq_of (by simp [hlength]), seq_of (by simp [hmagic, number_putU32]),
      seq_of (by simp [hversion, number_putU32]),
      seq_of (by simp only [hcontent, htrailer, number_putU64, bne_self_eq_false]),
      hcontent, hbody, bind_of ((getBody_exact _ _ _).2 ⟨⟨hd.toCoherent, hstored⟩, rfl, rfl⟩)]
    rfl

/-! ## The bijection -/

theorem encodeDurableState_stored (d : DurableState) :
    encodeDurableState d.stored = encodeDurableState d := by
  have hhistory : putRecords putHistoryEntry d.stored.history =
      putRecords putHistoryEntry d.history := by
    simp [putRecords, putList, DurableState.stored, List.flatMap_map, putHistoryEntry]
  have hbody : putBody d.stored = putBody d := by
    unfold putBody
    rw [hhistory]
    rfl
  rw [encodeDurableState_eq, encodeDurableState_eq, contentOf, contentOf, hbody]

theorem AdaptationRecord.storable_uncommitted {policies : List AdaptivePolicy}
    {entry : AdaptivePolicyId × AdaptationRecord} :
    AdaptationRecord.Storable policies (entry.1, { entry.2 with committedAt := 0 }) ↔
      AdaptationRecord.Storable policies entry :=
  ⟨fun h => ⟨h.decision, h.digest, h.owner⟩, fun h => ⟨h.decision, h.digest, h.owner⟩⟩

theorem DurableState.stored_history {d : DurableState} :
    (d.stored.history.length ≤ defaultLimits.maxDecisionHistory.toNat ∧
      ∀ entry ∈ d.stored.history, AdaptationRecord.Storable d.policies entry ∧
        Recordable (putHistoryEntry entry)) ↔
      d.history.length ≤ defaultLimits.maxDecisionHistory.toNat ∧
        ∀ entry ∈ d.history, AdaptationRecord.Storable d.policies entry ∧
          Recordable (putHistoryEntry entry) := by
  unfold DurableState.stored
  rw [List.length_map, List.forall_mem_map]
  refine and_congr_right fun _ => forall₂_congr fun entry _ => ?_
  rw [AdaptationRecord.storable_uncommitted]
  exact Iff.rfl

/-- Commit times do not matter to the store. -/
theorem DurableState.stored_storable {d : DurableState} : d.stored.Storable ↔ d.Storable := by
  constructor
  · intro h
    refine ⟨⟨h.formatVersion, h.epoch, h.authorityGeneration, h.evidenceGeneration, h.policies,
      h.revocations, h.preferences, h.stableStates, h.timings, stored_history.1 h.history⟩, ?_⟩
    rw [← encodeDurableState_stored]
    exact h.size
  · intro h
    refine ⟨⟨h.formatVersion, h.epoch, h.authorityGeneration, h.evidenceGeneration, h.policies,
      h.revocations, h.preferences, h.stableStates, h.timings, stored_history.2 h.history⟩, ?_⟩
    rw [encodeDurableState_stored]
    exact h.size

theorem DurableState.stored_stored (d : DurableState) : d.stored.stored = d.stored :=
  DurableState.stored_eq_iff.2 fun entry hentry => by
    obtain ⟨other, -, rfl⟩ := List.mem_map.1 hentry
    rfl

/-- What was written is read back, but for the commit times of the history. -/
theorem decode_encode {d : DurableState} :
    decodeDurableState (encodeDurableState d) = .ok d.stored ↔ d.Storable := by
  rw [decodeDurableState_ok_iff, DurableState.stored_storable]
  exact and_iff_left ⟨d.stored_stored, (encodeDurableState_stored d).symm⟩

/-- No store is accepted whose bytes are the first of another's. -/
theorem eq_of_leading {d e : DurableState} (hd : d.Storable) (he : e.Storable)
    (hleading : encodeDurableState e <+: encodeDurableState d) :
    encodeDurableState e = encodeDurableState d := by
  obtain ⟨rest, hrest⟩ := hleading
  rw [← encodeDurableState_stored e, ← encodeDurableState_stored d] at hrest ⊢
  have hbodies : putBody e.stored ++ (putU64 (storeIntegrity (contentOf e.stored)) ++ rest) =
      putBody d.stored ++ putU64 (storeIntegrity (contentOf d.stored)) := by
    simpa only [encodeDurableState_eq, contentOf, List.append_assoc, List.append_cancel_left_eq]
      using hrest
  obtain ⟨hstored, -⟩ := getSections_canonical.delimited
    ⟨(DurableState.stored_storable.2 he).toCoherent, e.stored_stored⟩
    ⟨(DurableState.stored_storable.2 hd).toCoherent, d.stored_stored⟩ _ _ hbodies
  rw [hstored]

/-- The store format is a bijection between the storable states, as they are stored, and the byte
strings that are accepted; and it is free of prefixes. -/
theorem store_format_bijective :
    (∀ d : DurableState,
      d.Storable ↔ decodeDurableState (encodeDurableState d) = .ok d.stored) ∧
    (∀ bytes d, decodeDurableState bytes = .ok d → encodeDurableState d = bytes) ∧
    ∀ d : DurableState, d.Storable → ∀ bytes, bytes <+: encodeDurableState d →
      bytes ≠ encodeDurableState d → ∀ e, decodeDurableState bytes ≠ .ok e := by
  refine ⟨fun d => decode_encode.symm, fun bytes d h => ?_, fun d hd bytes hleading hne e h => ?_⟩
  · exact (decodeDurableState_ok_iff.1 h).2.2.symm
  · obtain ⟨he, -, rfl⟩ := decodeDurableState_ok_iff.1 h
    exact hne (eq_of_leading hd he hleading)

/-- The store of the deployment is one: it holds a policy with its preference. -/
theorem settled_store_is_storable :
    ((Scenario.after Scenario.settled).state.buildDurable 2).policies.length = 1 ∧
      ((Scenario.after Scenario.settled).state.buildDurable 2).Storable :=
  ⟨by decide +kernel, (store_format_bijective.1 _).2 (by decide +kernel)⟩

end AdaptiveRouting
