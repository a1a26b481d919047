import AdaptiveRouting.Fabric.Load

/-!
# The store format

Every reader is canonical for the writer it mirrors: it accepts the encodings of the storable values
and no other bytes (`getPolicy_canonical` and its siblings). The whole store is then read back from its
bytes and written back to them (`decodeDurableState_ok_iff`).
-/

namespace AdaptiveRouting

open Codecs Guard

/-! ## Words and texts -/

theorem getU8_canonical : Canonical (fun _ => True) putU8 getU8 :=
  word_canonical () (fun _ => UInt8.ofNat_toNat) (fun value => value.toNat_lt)
    fun _ h => UInt8.toNat_ofNat_of_lt' h

theorem getU16_canonical : Canonical (fun _ => True) putU16 getU16 :=
  word_canonical () (fun _ => UInt16.ofNat_toNat) (fun value => value.toNat_lt)
    fun _ h => UInt16.toNat_ofNat_of_lt' h

theorem getU32_canonical : Canonical (fun _ => True) putU32 getU32 :=
  word_canonical () (fun _ => UInt32.ofNat_toNat) (fun value => value.toNat_lt)
    fun _ h => UInt32.toNat_ofNat_of_lt' h

theorem getU64_canonical : Canonical (fun _ => True) putU64 getU64 :=
  word_canonical () (fun _ => UInt64.ofNat_toNat) (fun value => value.toNat_lt)
    fun _ h => UInt64.toNat_ofNat_of_lt' h

theorem toBitVec_ofInt (value : Int) : (UInt64.ofInt value).toBitVec = BitVec.ofInt 64 value := by
  apply BitVec.eq_of_toNat_eq
  rw [BitVec.toNat_ofInt]
  show (UInt64.ofNat (value % 18446744073709551616).toNat).toNat = _
  rw [UInt64.toNat_ofNat_of_lt' (by show _ < 18446744073709551616; omega)]
  rfl

/-- The numbers of a signed word. -/
def Signed (value : Int) : Prop := -0x8000000000000000 ≤ value ∧ value < 0x8000000000000000

theorem getI64_canonical : Canonical Signed putI64 getI64 := by
  intro bytes value rest
  unfold getI64
  constructor
  · intro h
    obtain ⟨raw, rest', -, rfl, hk⟩ := getU64_canonical.bind h
    cases hk
    have hlow := raw.toBitVec.le_toInt
    have hhigh := raw.toBitVec.toInt_lt
    refine ⟨⟨by simpa using hlow, by simpa using hhigh⟩, ?_⟩
    have hback : UInt64.ofInt raw.toBitVec.toInt = raw := by
      apply UInt64.toBitVec_inj.1
      rw [toBitVec_ofInt, BitVec.ofInt_toInt]
    unfold putI64
    rw [hback]
  · intro h
    obtain ⟨⟨hlow, hhigh⟩, rfl⟩ := h
    unfold putI64
    rw [getU64_canonical.run_put trivial]
    have hback : (UInt64.ofInt value).toBitVec.toInt = value := by
      rw [toBitVec_ofInt]
      exact BitVec.toInt_ofInt_eq_self (by decide) hlow hhigh
    rw [hback]
    rfl

theorem getBool_canonical : Canonical (fun _ => True) putBool getBool := by
  intro bytes value rest
  unfold getBool
  constructor
  · intro h
    obtain ⟨raw, rest', -, rfl, hk⟩ := getU8_canonical.bind h
    obtain ⟨hle, hk⟩ := guard_bind_ok hk
    cases hk
    refine ⟨trivial, ?_⟩
    have hbit : raw.toNat ≤ 1 := by simpa [UInt8.lt_iff_toNat_lt] using hle
    rcases Nat.le_one_iff_eq_zero_or_eq_one.1 hbit with hraw | hraw
    · have hzero : raw = 0 := UInt8.toNat_inj.1 hraw
      rw [hzero]
      rfl
    · have hone : raw = 1 := UInt8.toNat_inj.1 hraw
      rw [hone]
      rfl
  · intro h
    obtain ⟨-, rfl⟩ := h
    unfold putBool
    rw [getU8_canonical.run_put trivial, guard_bind_of (by cases value <;> decide)]
    cases value <;> rfl

/-- The lengths that a word holds. -/
abbrev Countable (n : Nat) : Prop := n < wordSize 8

theorem getSize_canonical : Canonical Countable (fun n => putU64 n.toUInt64) getSize := by
  intro bytes n rest
  unfold getSize
  constructor
  · intro h
    obtain ⟨raw, rest', -, rfl, hk⟩ := getU64_canonical.bind h
    cases hk
    refine ⟨raw.toNat_lt, ?_⟩
    simp
  · intro h
    obtain ⟨hn, rfl⟩ := h
    rw [getU64_canonical.run_put trivial]
    have hback : n.toUInt64.toNat = n := UInt64.toNat_ofNat_of_lt' hn
    rw [hback]
    rfl

theorem getBytes_canonical {limit : Nat} (hlimit : Countable limit) :
    Canonical (fun bytes => bytes.length ≤ limit) putBytes (getBytes limit) :=
  sized_canonical getSize_canonical (fun _ h => Nat.lt_of_le_of_lt h hlimit) ()

/-! ## Options and lists -/

section
variable {α : Type} {P : α → Prop} {put : α → Text} {get : Get α}

theorem getOption_canonical (hget : Canonical P put get) :
    Canonical (fun value => ∀ a ∈ value, P a) (putOption put) (getOption get) := by
  intro bytes value rest
  unfold getOption
  constructor
  · intro h
    obtain ⟨present, rest', -, rfl, hk⟩ := getBool_canonical.bind h
    cases present with
    | false =>
      cases hk
      exact ⟨by simp, rfl⟩
    | true =>
      obtain ⟨a, rest'', ha, hrest, hk⟩ := hget.bind hk
      cases hk
      exact ⟨by simpa using ha, by simp [putOption, hrest]⟩
  · intro h
    obtain ⟨hvalue, rfl⟩ := h
    cases value with
    | none => exact getBool_canonical.run_put trivial
    | some a =>
      unfold putOption
      rw [List.append_assoc, getBool_canonical.run_put trivial]
      exact hget.run_put (hvalue a rfl)

theorem getList_canonical (hget : Canonical P put get) (limit : UInt64) :
    Canonical (fun values => values.length ≤ limit.toNat ∧ ∀ a ∈ values, P a) (putList put)
      (getList limit get) := by
  have hcounted := counted_canonical getSize_canonical
    (fun n hn => Nat.lt_of_le_of_lt hn limit.toNat_lt) () (fun _ : List α => hget)
  exact hcounted.congr (fun values => and_congr_right fun _ => each_const) fun _ => rfl

end

/-! ## Identities and generations -/

section
variable {d : IdDomain} {g : GenerationDomain}

theorem maxLength_le (d : IdDomain) : d.maxLength ≤ 4096 := by cases d <;> decide

theorem StrongId.length_le (id : StrongId d) : id.text.length ≤ 4096 := by
  rcases id.ok with hempty | hok
  · simp [hempty]
  · have hlength : id.text.length ≤ d.maxLength := by
      simp only [idEncodingOk, Bool.and_eq_true, decide_eq_true_eq] at hok
      exact hok.1.1
    exact Nat.le_trans hlength (maxLength_le d)

theorem StrongId.parse_iff {text : Text} {id : StrongId d} :
    StrongId.parse text = some id ↔ id.valid = true ∧ id.text = text := by
  unfold StrongId.parse StrongId.valid
  constructor
  · intro h
    split at h
    · rename_i hok
      cases h
      refine ⟨?_, rfl⟩
      cases text with
      | nil => simp [idEncodingOk] at hok
      | cons => rfl
    · cases h
  · intro h
    obtain ⟨hvalid, rfl⟩ := h
    have hok := id.ok.resolve_left fun hempty => by simp [hempty] at hvalid
    rw [dif_pos hok]

theorem getId_canonical : Canonical (fun id : StrongId d => id.valid) putId getId := by
  intro bytes id rest
  unfold getId getString
  constructor
  · intro h
    obtain ⟨text, rest', -, rfl, hk⟩ := (getBytes_canonical (by decide)).bind h
    obtain ⟨hparse, rfl⟩ := run_lift.1 hk
    obtain ⟨hvalid, rfl⟩ := StrongId.parse_iff.1 (orRefuse_ok hparse)
    exact ⟨hvalid, rfl⟩
  · intro h
    obtain ⟨hvalid, rfl⟩ := h
    unfold putId putString
    rw [(getBytes_canonical (by decide)).run_put id.length_le,
      StrongId.parse_iff.2 ⟨hvalid, rfl⟩]
    rfl

theorem getMaybeId_canonical : Canonical (fun _ : StrongId d => True) putId getMaybeId := by
  intro bytes id rest
  unfold getMaybeId getString
  constructor
  · intro h
    obtain ⟨text, rest', -, rfl, hk⟩ := (getBytes_canonical (by decide)).bind h
    split at hk
    · rename_i hempty
      cases hk
      rw [List.isEmpty_iff.1 hempty]
      exact ⟨trivial, rfl⟩
    · obtain ⟨hparse, rfl⟩ := run_lift.1 hk
      obtain ⟨-, rfl⟩ := StrongId.parse_iff.1 (orRefuse_ok hparse)
      exact ⟨trivial, rfl⟩
  · intro h
    obtain ⟨-, rfl⟩ := h
    unfold putId putString
    rw [(getBytes_canonical (by decide)).run_put id.length_le]
    split
    · rename_i hempty
      have hid : id = default := StrongId.ext (List.isEmpty_iff.1 hempty)
      rw [hid]
      rfl
    · rename_i hvalid
      rw [StrongId.parse_iff.2 ⟨by simpa [StrongId.valid] using hvalid, rfl⟩]
      rfl

theorem getOptionalId_canonical :
    Canonical (fun _ : StrongId d => True) putOptionalId getOptionalId := by
  intro bytes id rest
  unfold getOptionalId
  constructor
  · intro h
    obtain ⟨present, rest', -, rfl, hk⟩ := getBool_canonical.bind h
    cases present with
    | false =>
      cases hk
      exact ⟨trivial, rfl⟩
    | true =>
      obtain ⟨hvalid, rfl⟩ := (getId_canonical _ _ _).1 hk
      exact ⟨trivial, by simp [putOptionalId, hvalid]⟩
  · intro h
    obtain ⟨-, rfl⟩ := h
    unfold putOptionalId
    rw [List.append_assoc, getBool_canonical.run_put trivial]
    by_cases hvalid : id.valid = true
    · simp only [hvalid, if_true]
      exact (getId_canonical _ _ _).2 ⟨hvalid, rfl⟩
    · have hid : id = default := StrongId.ext (show id.text = [] by simpa [StrongId.valid] using hvalid)
      rw [hid]
      rfl

theorem getMaybeGeneration_canonical :
    Canonical (fun _ : Generation g => True) putGeneration getMaybeGeneration := by
  intro bytes generation rest
  unfold getMaybeGeneration
  constructor
  · intro h
    obtain ⟨raw, rest', -, rfl, hk⟩ := getU64_canonical.bind h
    cases hk
    exact ⟨trivial, rfl⟩
  · intro h
    obtain ⟨-, rfl⟩ := h
    exact getU64_canonical.run_put trivial

end

/-! ## Enumerations -/

theorem metricKinds_canonical :
    Canonical (fun _ => True) (fun kind => putU8 kind.code) (metricKinds.read getU8 ()) :=
  metricKinds.canonical getU8_canonical ()

theorem metricUnits_canonical :
    Canonical (fun _ => True) (fun unit => putU8 unit.code) (metricUnits.read getU8 ()) :=
  metricUnits.canonical getU8_canonical ()

theorem aggregationKinds_canonical :
    Canonical (fun _ => True) (fun kind => putU8 kind.code) (aggregationKinds.read getU8 ()) :=
  aggregationKinds.canonical getU8_canonical ()

theorem evidenceQualities_canonical :
    Canonical (fun _ => True) (fun quality => putU8 quality.code)
      (evidenceQualities.read getU8 ()) :=
  evidenceQualities.canonical getU8_canonical ()

theorem objectiveModes_canonical :
    Canonical (fun _ => True) (fun mode => putU8 mode.code) (objectiveModes.read getU8 ()) :=
  objectiveModes.canonical getU8_canonical ()

theorem policyLifecycles_canonical :
    Canonical (fun _ => True) (fun lifecycle => putU8 lifecycle.code)
      (policyLifecycles.read getU8 ()) :=
  policyLifecycles.canonical getU8_canonical ()

theorem revocationReasons_canonical :
    Canonical (fun _ => True) (fun reason => putU8 reason.code) (revocationReasons.read getU8 ()) :=
  revocationReasons.canonical getU8_canonical ()

theorem adaptationCauses_canonical :
    Canonical (fun _ => True) (fun cause => putU8 cause.code) (adaptationCauses.read getU8 ()) :=
  adaptationCauses.canonical getU8_canonical ()

theorem decisionLifecycles_canonical :
    Canonical (fun _ => True) (fun lifecycle => putU8 lifecycle.code)
      (decisionLifecycles.read getU8 ()) :=
  decisionLifecycles.canonical getU8_canonical ()

theorem suppressionReasons_canonical :
    Canonical (fun _ => True) (fun reason => putU8 reason.code)
      (suppressionReasons.read getU8 ()) :=
  suppressionReasons.canonical getU8_canonical ()

theorem outcomes_canonical :
    Canonical (fun _ => True) (fun outcome => putU16 outcome.code) (outcomes.read getU16 ()) :=
  outcomes.canonical getU16_canonical ()

/-! ## Policies -/

theorem MetricValue.signed (value : MetricValue) : Signed value.value := by
  have hok := value.ok
  split at hok
  · simp only [metricDecodable, Bool.and_eq_true, decide_eq_true_eq] at hok
    obtain ⟨⟨-, hmin⟩, hmax⟩ := hok
    constructor <;> cases hkind : value.kind <;> simp only [hkind, describeMetric] at hmin hmax <;>
      omega
  · simp only [Bool.and_eq_true, beq_iff_eq] at hok
    rw [hok.2]
    constructor <;> decide

theorem MetricValue.decode_self {value : MetricValue} (h : value.valid = true) :
    MetricValue.decode value.kind value.unit value.semanticsVersion value.value = some value := by
  have hok := value.ok
  rw [if_pos h] at hok
  rw [MetricValue.decode, dif_pos hok]
  cases value
  cases h
  rfl

theorem MetricValue.decode_eq {kind : MetricKind} {unit : MetricUnit} {version : UInt32} {v : Int}
    {value : MetricValue} (h : MetricValue.decode kind unit version v = some value) :
    value.kind = kind ∧ value.unit = unit ∧ value.semanticsVersion = version ∧ value.value = v ∧
      value.valid = true := by
  unfold MetricValue.decode at h
  split at h
  · cases h
    exact ⟨rfl, rfl, rfl, rfl, rfl⟩
  · cases h

theorem MetricValue.eq_default {value : MetricValue} (h : value.valid = false) :
    value = default := by
  have hok := value.ok
  rw [if_neg (by simp [h])] at hok
  simp only [Bool.and_eq_true, beq_iff_eq] at hok
  obtain ⟨⟨⟨hkind, hunit⟩, hversion⟩, hvalue⟩ := hok
  cases value
  cases h
  cases hkind
  cases hunit
  cases hversion
  cases hvalue
  rfl

theorem getMetric_canonical : Canonical (fun _ => True) putMetric getMetric := by
  intro bytes value rest
  unfold getMetric
  constructor
  · intro h
    obtain ⟨present, r₁, -, e₁, h⟩ := getBool_canonical.bind h
    cases present with
    | false =>
      cases h
      exact ⟨trivial, e₁⟩
    | true =>
      obtain ⟨kind, r₂, -, e₂, h⟩ := metricKinds_canonical.bind h
      obtain ⟨unit, r₃, -, e₃, h⟩ := metricUnits_canonical.bind h
      obtain ⟨version, r₄, -, e₄, h⟩ := getU32_canonical.bind h
      obtain ⟨v, r₅, -, e₅, h⟩ := getI64_canonical.bind h
      obtain ⟨hdecode, rfl⟩ := run_lift.1 h
      obtain ⟨rfl, rfl, rfl, rfl, hvalid⟩ := MetricValue.decode_eq (orRefuse_ok hdecode)
      exact ⟨trivial, by simp [putMetric, hvalid, e₁, e₂, e₃, e₄, e₅]⟩
  · intro h
    obtain ⟨-, rfl⟩ := h
    unfold putMetric
    rw [List.append_assoc, getBool_canonical.run_put trivial]
    cases hvalid : value.valid with
    | false =>
      rw [MetricValue.eq_default hvalid]
      rfl
    | true =>
      simp only [if_true, List.append_assoc]
      rw [metricKinds_canonical.run_put trivial, metricUnits_canonical.run_put trivial,
        getU32_canonical.run_put trivial, getI64_canonical.run_put value.signed,
        MetricValue.decode_self hvalid]
      rfl

/-- A scope that a store can hold. -/
structure PolicyScope.Storable (s : PolicyScope) : Prop where
  wellFormed : s.wellFormed = true
  site : ∀ site ∈ s.site, site.valid = true
  routes : s.routes.length ≤ defaultLimits.maxScopeRoutes.toNat ∧ ∀ route ∈ s.routes, route.valid = true
  multipathSets : s.multipathSets.length ≤ defaultLimits.maxScopeMultipathSets.toNat ∧
    ∀ set ∈ s.multipathSets, set.valid = true

theorem getScope_canonical : Canonical PolicyScope.Storable putScope getScope := by
  intro bytes scope rest
  unfold getScope
  constructor
  · intro h
    obtain ⟨fabric, r₁, -, e₁, h⟩ := getId_canonical.bind h
    obtain ⟨nameSpace, r₂, -, e₂, h⟩ := getId_canonical.bind h
    obtain ⟨site, r₃, hsite, e₃, h⟩ := (getOption_canonical getId_canonical).bind h
    obtain ⟨pathClass, r₄, -, e₄, h⟩ := getOptionalId_canonical.bind h
    obtain ⟨routes, r₅, hroutes, e₅, h⟩ := (getList_canonical getId_canonical _).bind h
    obtain ⟨sets, r₆, hsets, e₆, h⟩ := (getList_canonical getId_canonical _).bind h
    obtain ⟨hformed, h⟩ := guard_bind_ok h
    cases h
    refine ⟨⟨by simpa using hformed, hsite, hroutes, hsets⟩, ?_⟩
    simp [putScope, e₁, e₂, e₃, e₄, e₅, e₆]
  · intro h
    obtain ⟨hscope, rfl⟩ := h
    have hids : scope.fabric.valid = true ∧ scope.nameSpace.valid = true := by
      have hformed := hscope.wellFormed
      simp only [PolicyScope.wellFormed, Bool.and_eq_true] at hformed
      exact hformed.1
    simp only [putScope, List.append_assoc]
    rw [getId_canonical.run_put hids.1, getId_canonical.run_put hids.2,
      (getOption_canonical getId_canonical).run_put hscope.site,
      getOptionalId_canonical.run_put trivial,
      (getList_canonical getId_canonical _).run_put hscope.routes,
      (getList_canonical getId_canonical _).run_put hscope.multipathSets,
      guard_bind_of (by simpa using hscope.wellFormed)]
    rfl

theorem getRequirement_canonical :
    Canonical (fun requirement : EvidenceRequirement => requirement.valid = true) putRequirement
      getRequirement := by
  intro bytes requirement rest
  unfold getRequirement
  constructor
  · intro h
    obtain ⟨kind, r₁, -, e₁, h⟩ := metricKinds_canonical.bind h
    obtain ⟨aggregation, r₂, -, e₂, h⟩ := aggregationKinds_canonical.bind h
    obtain ⟨alpha, r₃, -, e₃, h⟩ := getU32_canonical.bind h
    obtain ⟨minSamples, r₄, -, e₄, h⟩ := getU32_canonical.bind h
    obtain ⟨maxAge, r₅, -, e₅, h⟩ := getU64_canonical.bind h
    obtain ⟨minWindow, r₆, -, e₆, h⟩ := getU64_canonical.bind h
    obtain ⟨quality, r₇, -, e₇, h⟩ := evidenceQualities_canonical.bind h
    obtain ⟨required, r₈, -, e₈, h⟩ := getBool_canonical.bind h
    obtain ⟨hvalid, h⟩ := guard_bind_ok h
    cases h
    exact ⟨by simpa using hvalid, by simp [putRequirement, e₁, e₂, e₃, e₄, e₅, e₆, e₇, e₈]⟩
  · intro h
    obtain ⟨hvalid, rfl⟩ := h
    simp only [putRequirement, List.append_assoc]
    rw [metricKinds_canonical.run_put trivial, aggregationKinds_canonical.run_put trivial,
      getU32_canonical.run_put trivial, getU32_canonical.run_put trivial,
      getU64_canonical.run_put trivial, getU64_canonical.run_put trivial,
      evidenceQualities_canonical.run_put trivial, getBool_canonical.run_put trivial,
      guard_bind_of (by simpa using hvalid)]
    rfl

theorem getThreshold_canonical : Canonical (fun _ => True) putThreshold getThreshold := by
  intro bytes rule rest
  unfold getThreshold
  constructor
  · intro h
    obtain ⟨kind, r₁, -, e₁, h⟩ := metricKinds_canonical.bind h
    obtain ⟨switchValue, r₂, -, e₂, h⟩ := getMetric_canonical.bind h
    obtain ⟨clearValue, r₃, -, e₃, h⟩ := getMetric_canonical.bind h
    cases h
    exact ⟨trivial, by simp [putThreshold, e₁, e₂, e₃]⟩
  · intro h
    obtain ⟨-, rfl⟩ := h
    simp only [putThreshold, List.append_assoc]
    rw [metricKinds_canonical.run_put trivial, getMetric_canonical.run_put trivial,
      getMetric_canonical.run_put trivial]
    rfl

theorem getImprovement_canonical : Canonical (fun _ => True) putImprovement getImprovement := by
  intro bytes rule rest
  unfold getImprovement
  constructor
  · intro h
    obtain ⟨kind, r₁, -, e₁, h⟩ := metricKinds_canonical.bind h
    obtain ⟨switchBps, r₂, -, e₂, h⟩ := getU32_canonical.bind h
    obtain ⟨reverseBps, r₃, -, e₃, h⟩ := getU32_canonical.bind h
    cases h
    exact ⟨trivial, by simp [putImprovement, e₁, e₂, e₃]⟩
  · intro h
    obtain ⟨-, rfl⟩ := h
    simp only [putImprovement, List.append_assoc]
    rw [metricKinds_canonical.run_put trivial, getU32_canonical.run_put trivial,
      getU32_canonical.run_put trivial]
    rfl

theorem getDampening_canonical : Canonical (fun _ => True) putDampening getDampening := by
  intro bytes rule rest
  unfold getDampening
  constructor
  · intro h
    obtain ⟨enabled, r₁, -, e₁, h⟩ := getBool_canonical.bind h
    obtain ⟨increment, r₂, -, e₂, h⟩ := getU32_canonical.bind h
    obtain ⟨maxPenalty, r₃, -, e₃, h⟩ := getU32_canonical.bind h
    obtain ⟨interval, r₄, -, e₄, h⟩ := getU64_canonical.bind h
    obtain ⟨step, r₅, -, e₅, h⟩ := getU32_canonical.bind h
    obtain ⟨escalation, r₆, -, e₆, h⟩ := getU64_canonical.bind h
    obtain ⟨maxHoldDown, r₇, -, e₇, h⟩ := getU64_canonical.bind h
    cases h
    exact ⟨trivial, by simp [putDampening, e₁, e₂, e₃, e₄, e₅, e₆, e₇]⟩
  · intro h
    obtain ⟨-, rfl⟩ := h
    simp only [putDampening, List.append_assoc]
    rw [getBool_canonical.run_put trivial, getU32_canonical.run_put trivial,
      getU32_canonical.run_put trivial, getU64_canonical.run_put trivial,
      getU32_canonical.run_put trivial, getU64_canonical.run_put trivial,
      getU64_canonical.run_put trivial]
    rfl

theorem getTerm_canonical : Canonical (fun _ => True) putTerm getTerm := by
  intro bytes term rest
  unfold getTerm
  constructor
  · intro h
    obtain ⟨kind, r₁, -, e₁, h⟩ := metricKinds_canonical.bind h
    obtain ⟨weight, r₂, -, e₂, h⟩ := getU32_canonical.bind h
    cases h
    exact ⟨trivial, by simp [putTerm, e₁, e₂]⟩
  · intro h
    obtain ⟨-, rfl⟩ := h
    simp only [putTerm, List.append_assoc]
    rw [metricKinds_canonical.run_put trivial, getU32_canonical.run_put trivial]
    rfl

theorem getEmergency_canonical : Canonical (fun _ => True) putEmergency getEmergency := by
  intro bytes rule rest
  unfold getEmergency
  constructor
  · intro h
    obtain ⟨enabled, r₁, -, e₁, h⟩ := getBool_canonical.bind h
    obtain ⟨unauthorized, r₂, -, e₂, h⟩ := getBool_canonical.bind h
    obtain ⟨unavailable, r₃, -, e₃, h⟩ := getBool_canonical.bind h
    obtain ⟨hardFailure, r₄, -, e₄, h⟩ := getBool_canonical.bind h
    cases h
    exact ⟨trivial, by simp [putEmergency, e₁, e₂, e₃, e₄]⟩
  · intro h
    obtain ⟨-, rfl⟩ := h
    simp only [putEmergency, List.append_assoc]
    rw [getBool_canonical.run_put trivial, getBool_canonical.run_put trivial,
      getBool_canonical.run_put trivial, getBool_canonical.run_put trivial]
    rfl

theorem getPriority_canonical :
    Canonical (fun entry : CandidatePriority => entry.path.valid = true) putPriority getPriority := by
  intro bytes entry rest
  unfold getPriority
  constructor
  · intro h
    obtain ⟨path, r₁, hpath, e₁, h⟩ := getId_canonical.bind h
    obtain ⟨priority, r₂, -, e₂, h⟩ := getU32_canonical.bind h
    cases h
    exact ⟨hpath, by simp [putPriority, e₁, e₂]⟩
  · intro h
    obtain ⟨hpath, rfl⟩ := h
    simp only [putPriority, List.append_assoc]
    rw [getId_canonical.run_put hpath, getU32_canonical.run_put trivial]
    rfl

/-- Semantics that a store can hold. -/
structure PolicySemantics.Storable (s : PolicySemantics) : Prop where
  route : s.target.route.valid = true
  multipathSet : ∀ set ∈ s.target.multipathSet, set.valid = true
  thresholds : s.thresholds.length ≤ defaultLimits.maxThresholdsPerPolicy.toNat
  improvements : s.improvements.length ≤ defaultLimits.maxObjectiveTerms.toNat
  evidence : s.evidence.length ≤ defaultLimits.maxEvidenceRequirementsPerPolicy.toNat ∧
    ∀ requirement ∈ s.evidence, requirement.valid = true
  terms : s.objective.terms.length ≤ defaultLimits.maxObjectiveTerms.toNat
  priorities : s.priorities.length ≤ defaultLimits.maxCandidatesPerPolicy.toNat ∧
    ∀ entry ∈ s.priorities, entry.path.valid = true

theorem getSemantics_canonical : Canonical PolicySemantics.Storable putSemantics getSemantics := by
  intro bytes semantics rest
  unfold getSemantics
  constructor
  · intro h
    obtain ⟨version, r₁, -, e₁, h⟩ := getU32_canonical.bind h
    obtain ⟨route, r₂, hroute, e₂, h⟩ := getId_canonical.bind h
    obtain ⟨set, r₃, hset, e₃, h⟩ := (getOption_canonical getId_canonical).bind h
    obtain ⟨thresholds, r₄, hthresholds, e₄, h⟩ :=
      (getList_canonical getThreshold_canonical _).bind h
    obtain ⟨improvements, r₅, himprovements, e₅, h⟩ :=
      (getList_canonical getImprovement_canonical _).bind h
    obtain ⟨evidence, r₆, hevidence, e₆, h⟩ :=
      (getList_canonical getRequirement_canonical _).bind h
    obtain ⟨holdDown, r₇, -, e₇, h⟩ := getU64_canonical.bind h
    obtain ⟨cooldown, r₈, -, e₈, h⟩ := getU64_canonical.bind h
    obtain ⟨dampening, r₉, -, e₉, h⟩ := getDampening_canonical.bind h
    obtain ⟨maximum, r₁₀, -, e₁₀, h⟩ := getU32_canonical.bind h
    obtain ⟨window, r₁₁, -, e₁₁, h⟩ := getU64_canonical.bind h
    obtain ⟨mode, r₁₂, -, e₁₂, h⟩ := objectiveModes_canonical.bind h
    obtain ⟨scoring, r₁₃, -, e₁₃, h⟩ := getU32_canonical.bind h
    obtain ⟨terms, r₁₄, hterms, e₁₄, h⟩ := (getList_canonical getTerm_canonical _).bind h
    obtain ⟨emergency, r₁₅, -, e₁₅, h⟩ := getEmergency_canonical.bind h
    obtain ⟨priorities, r₁₆, hpriorities, e₁₆, h⟩ :=
      (getList_canonical getPriority_canonical _).bind h
    cases h
    refine ⟨⟨hroute, hset, hthresholds.1, himprovements.1, hevidence, hterms.1, hpriorities⟩, ?_⟩
    simp [putSemantics, e₁, e₂, e₃, e₄, e₅, e₆, e₇, e₈, e₉, e₁₀, e₁₁, e₁₂, e₁₃, e₁₄, e₁₅, e₁₆]
  · intro h
    obtain ⟨hs, rfl⟩ := h
    simp only [putSemantics, List.append_assoc]
    rw [getU32_canonical.run_put trivial, getId_canonical.run_put hs.route,
      (getOption_canonical getId_canonical).run_put hs.multipathSet,
      (getList_canonical getThreshold_canonical _).run_put ⟨hs.thresholds, fun _ _ => trivial⟩,
      (getList_canonical getImprovement_canonical _).run_put ⟨hs.improvements, fun _ _ => trivial⟩,
      (getList_canonical getRequirement_canonical _).run_put hs.evidence,
      getU64_canonical.run_put trivial, getU64_canonical.run_put trivial,
      getDampening_canonical.run_put trivial, getU32_canonical.run_put trivial,
      getU64_canonical.run_put trivial, objectiveModes_canonical.run_put trivial,
      getU32_canonical.run_put trivial,
      (getList_canonical getTerm_canonical _).run_put ⟨hs.terms, fun _ _ => trivial⟩,
      getEmergency_canonical.run_put trivial,
      (getList_canonical getPriority_canonical _).run_put hs.priorities]
    rfl

/-- A policy that a store can hold. -/
structure AdaptivePolicy.Storable (policy : AdaptivePolicy) : Prop where
  id : policy.id.valid = true
  name : policy.name.valid = true
  scope : policy.scope.Storable
  semantics : policy.semantics.Storable
  generation : policy.generation.valid = true
  epoch : policy.epoch.valid = true
  owner : policy.owner.valid = true
  authorityGeneration : policy.authorityGeneration.valid = true
  version : policy.semantics.semanticsVersion = policySemanticsVersion
  check : policy.semantics.check.isOk = true

section
variable {α : Type} {g : GenerationDomain} {P : α → Prop} {put : α → Text} {get : Get α}

theorem reading_canonical (hget : Canonical P put get) (status : StoreDecodeStatus) (detail : Text) :
    Canonical P put (readAs get status detail) :=
  hget.refusing _

theorem parseGeneration_ok {raw : UInt64} {detail : Text} {generation : Generation g}
    (h : parseGeneration raw detail = .ok generation) :
    generation.valid = true ∧ putU64 raw = putGeneration generation := by
  have hfrom := orRefuse_ok h
  unfold Generation.fromValue at hfrom
  split at hfrom
  · cases hfrom
  · rename_i hraw
    cases hfrom
    exact ⟨by simpa [Generation.valid] using hraw, rfl⟩

theorem reading_generation {β : Type} {status : StoreDecodeStatus} {detail : Text}
    {k : UInt64 → Load β} {generation : Generation g} {rest : Text} :
    (readAs getU64 status detail >>= k).run (putGeneration generation ++ rest) =
      (k generation.value).run rest :=
  (reading_canonical getU64_canonical status detail).run_put trivial

theorem parseGeneration_of {generation : Generation g} (h : generation.valid = true)
    (detail : Text) : parseGeneration generation.value detail = .ok generation := by
  unfold parseGeneration Generation.fromValue
  rw [if_neg (by simpa [Generation.valid] using h)]
  rfl

end

end AdaptiveRouting
