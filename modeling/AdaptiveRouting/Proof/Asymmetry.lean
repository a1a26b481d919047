import AdaptiveRouting.Proof.Currentness
import AdaptiveRouting.Proof.Verdict

/-!
# Asymmetric hysteresis

A relative improvement is the exact quotient, rounded down and cut off at the scale
(`relativeImprovementBps_eq`). Which improvements two values can show depends on the range of their
metric, so a rule asks at least as much of the displaced path as of any other exactly when its reverse
requirement is not the smaller one, or no improvement falls between the two
(`reverse_is_harder_iff`).
-/

namespace AdaptiveRouting

open Guard Engine

/-! ## Improvements -/

/-- One value is strictly better than another. -/
def MetricValue.beats (candidate current : MetricValue) : Bool :=
  match current.orientation with
  | .lowerIsBetter => candidate.value < current.value
  | .higherIsBetter => candidate.value > current.value

/-- The exact improvement, in basis points of the current value. -/
def improvementOf (current candidate : Int) : Nat :=
  if current = 0 then 10000 else min 10000 ((current - candidate).natAbs * 10000 / current.natAbs)

theorem improvementOf_le (current candidate : Int) : improvementOf current candidate ≤ 10000 := by
  unfold improvementOf
  split
  · exact Nat.le_refl _
  · exact Nat.min_le_left ..

section
variable {current candidate : MetricValue}

/-- The range of a metric holds every valid value of it. -/
theorem MetricValue.range {value : MetricValue} (h : value.valid = true) :
    (describeMetric value.kind).minimum ≤ value.value ∧
      value.value ≤ (describeMetric value.kind).maximum := by
  have hok := value.ok
  rw [if_pos h] at hok
  simp only [metricDecodable, Bool.and_eq_true, decide_eq_true_eq] at hok
  exact ⟨hok.1.2, hok.2⟩

theorem describeMetric_range (kind : MetricKind) :
    (describeMetric kind).minimum = 0 ∧ (describeMetric kind).maximum ≤ 4000000000 := by
  cases kind <;> decide

theorem MetricValue.bounds {value : MetricValue} (h : value.valid = true) :
    0 ≤ value.value ∧ value.value ≤ 4000000000 := by
  have hrange := MetricValue.range h
  have hkind := describeMetric_range value.kind
  omega

theorem comparable_iff : current.comparableWith candidate = true ↔
    current.valid = true ∧ candidate.valid = true ∧ current.kind = candidate.kind := by
  unfold MetricValue.comparableWith
  simp only [Bool.and_eq_true, beq_iff_eq, and_assoc]
  refine and_congr_right fun hcurrent => and_congr_right fun hcandidate => and_iff_left_of_imp
    fun hkind => ?_
  -- the unit and the version of a valid value are those of its kind
  have hok := current.ok
  have hok' := candidate.ok
  rw [if_pos hcurrent] at hok
  rw [if_pos hcandidate, ← hkind] at hok'
  simp only [metricDecodable, Bool.and_eq_true, beq_iff_eq] at hok hok'
  exact ⟨hok.1.1.1.symm.trans hok'.1.1.1, hok.1.1.2.symm.trans hok'.1.1.2⟩

theorem clampBasisPoints_ofNat (n : Nat) :
    (clampBasisPoints (n : Int)).toNat = min 10000 n := by
  unfold clampBasisPoints
  split
  · rename_i hzero
    have hn : n = 0 := by omega
    rw [hn]
    rfl
  · split
    · rename_i hlarge
      rw [Nat.min_eq_left (by omega)]
      rfl
    · have hsmall : n < 10000 := by omega
      rw [Int.toNat_natCast, Nat.toUInt32, UInt32.toNat_ofNat', Nat.min_eq_right (by omega),
        Nat.mod_eq_of_lt (Nat.lt_trans hsmall (by decide))]

/-- Comparable values have an improvement: none when the candidate is not better, else the exact
one. -/
theorem relativeImprovementBps_eq (h : current.comparableWith candidate = true) :
    ∃ improvement, relativeImprovementBps current candidate = some improvement ∧
      improvement.toNat =
        if candidate.beats current then improvementOf current.value candidate.value else 0 := by
  obtain ⟨hcurrent, hcandidate, hkind⟩ := comparable_iff.1 h
  have hbounds := MetricValue.bounds hcurrent
  have hbounds' := MetricValue.bounds hcandidate
  have hshape : relativeImprovementBps current candidate =
      if !current.comparableWith candidate then none
      else if !candidate.beats current then some 0
      else (addOk candidate.value (-current.value)).bind fun delta =>
        let base := if current.value < 0 then -current.value else current.value
        if base = 0 then some basisPointsScale
        else (multiplyOk (if delta < 0 then -delta else delta) 10000).bind fun scaled =>
          some (clampBasisPoints (scaled.tdiv base)) := rfl
  rw [hshape, h, Bool.not_true, if_neg (by simp)]
  by_cases hbeats : candidate.beats current = true
  · rw [if_pos hbeats, hbeats, Bool.not_true, if_neg (by simp)]
    have hdelta : addOk candidate.value (-current.value) =
        some (candidate.value - current.value) := if_pos (by
      unfold inI64 i64Min i64Max
      simp only [Bool.and_eq_true, decide_eq_true_eq]
      omega)
    have habs (a : Int) : (if a < 0 then -a else a) = a.natAbs := by
      split <;> omega
    rw [hdelta]
    simp only [Option.bind_some, habs]
    unfold improvementOf
    by_cases hzero : current.value = 0
    · have hnatAbs : (current.value.natAbs : Int) = 0 := by omega
      rw [if_pos hnatAbs, if_pos hzero]
      exact ⟨_, rfl, rfl⟩
    · have hnatAbs : (current.value.natAbs : Int) ≠ 0 := by omega
      have hscaled : multiplyOk (candidate.value - current.value).natAbs 10000 =
          some (((candidate.value - current.value).natAbs * 10000 : Nat) : Int) := if_pos (by
        unfold inI64 i64Min i64Max
        simp only [Bool.and_eq_true, decide_eq_true_eq]
        omega)
      have hsame : (candidate.value - current.value).natAbs =
          (current.value - candidate.value).natAbs := by omega
      rw [if_neg hnatAbs, if_neg hzero, hscaled, hsame]
      refine ⟨_, rfl, ?_⟩
      rw [← Int.ofNat_tdiv, clampBasisPoints_ofNat]
  · rw [if_neg hbeats, Bool.eq_false_iff.2 hbeats]
    exact ⟨0, rfl, rfl⟩

/-- A requirement on the scale is met exactly when the cross products say so. -/
theorem le_improvementOf_iff {required : Nat} (h : required ≤ 10000) (current candidate : Int) :
    required ≤ improvementOf current candidate ↔
      required * current.natAbs ≤ (current - candidate).natAbs * 10000 := by
  unfold improvementOf
  split
  · rename_i hzero
    simp [hzero, h]
  · rename_i hnonzero
    rw [Nat.le_min, and_iff_right h, Nat.le_div_iff_mul_le (Int.natAbs_pos.2 hnonzero)]

/-- Two values in the range of one metric have an improvement, which is the exact one and meets a
requirement exactly when the values do. -/
theorem relativeImprovementBps_exact (hcurrent : current.valid = true)
    (hcandidate : candidate.valid = true) (hkind : current.kind = candidate.kind) :
    ∃ improvement, relativeImprovementBps current candidate = some improvement ∧
      (candidate.beats current = false → improvement = 0) ∧
      (candidate.beats current = true → current.value = 0 → improvement = 10000) ∧
      (candidate.beats current = true → current.value ≠ 0 → improvement.toNat =
        min 10000 ((current.value - candidate.value).natAbs * 10000 / current.value.natAbs)) ∧
      ∀ required : UInt32, 1 ≤ required → required ≤ 10000 →
        (required ≤ improvement ↔ candidate.beats current = true ∧
          required.toNat * current.value.natAbs ≤
            (current.value - candidate.value).natAbs * 10000) := by
  obtain ⟨improvement, hdefined, hexact⟩ :=
    relativeImprovementBps_eq (comparable_iff.2 ⟨hcurrent, hcandidate, hkind⟩)
  refine ⟨improvement, hdefined, fun hworse => ?_, fun hbeats hzero => ?_, fun hbeats hnonzero => ?_,
    fun required hpositive hscale => ?_⟩
  · rw [hworse, if_neg (by simp)] at hexact
    exact UInt32.toNat_inj.1 hexact
  · rw [if_pos hbeats, improvementOf, if_pos hzero] at hexact
    exact UInt32.toNat_inj.1 hexact
  · rwa [if_pos hbeats, improvementOf, if_neg hnonzero] at hexact
  · rw [UInt32.le_iff_toNat_le] at hpositive hscale ⊢
    rw [hexact]
    by_cases hbeats : candidate.beats current = true
    · rw [if_pos hbeats, le_improvementOf_iff hscale]
      exact (and_iff_right hbeats).symm
    · rw [if_neg hbeats]
      constructor
      · intro hle
        exact absurd (Nat.le_trans hpositive hle) (by decide)
      · rintro ⟨h, -⟩
        exact absurd h hbeats

end

/-- A latency cut from 3 to 2 is an improvement of 3333 basis points. -/
theorem third_of_latency : ∃ current candidate improvement,
    MetricValue.make .pathLatency 3 = some current ∧
    MetricValue.make .pathLatency 2 = some candidate ∧
    relativeImprovementBps current candidate = some improvement ∧ improvement = 3333 ∧
    (3333 ≤ improvement ↔ 3333 * 3 ≤ 1 * 10000) := by
  obtain ⟨improvement, hdefined, -, -, hexact, hrequired⟩ := @relativeImprovementBps_exact
    ⟨.pathLatency, .microseconds, 1, 3, true, rfl⟩ ⟨.pathLatency, .microseconds, 1, 2, true, rfl⟩
    rfl rfl rfl
  refine ⟨_, _, improvement, rfl, rfl, hdefined, UInt32.toNat_inj.1 (hexact rfl (by decide)), ?_⟩
  exact (hrequired 3333 (by decide) (by decide)).trans (and_iff_right rfl)

/-! ## Improvements that two values show -/

/-- Two values of a metric show an improvement. -/
def Shows (kind : MetricKind) (improvement : UInt32) : Prop :=
  ∃ current candidate : MetricValue, current.kind = kind ∧ candidate.kind = kind ∧
    relativeImprovementBps current candidate = some improvement

section
variable {kind : MetricKind} {improvement : UInt32}

theorem MetricValue.make_of_range {value : Int} (hlow : 0 ≤ value)
    (hhigh : value ≤ (describeMetric kind).maximum) :
    ∃ v : MetricValue, v.kind = kind ∧ v.valid = true ∧ v.value = value := by
  have hdecodable : metricDecodable kind (describeMetric kind).unit
      (describeMetric kind).semanticsVersion value = true := by
    unfold metricDecodable
    simp only [beq_self_eq_true, Bool.true_and, Bool.and_eq_true, decide_eq_true_eq]
    exact ⟨(describeMetric_range kind).1 ▸ hlow, hhigh⟩
  exact ⟨⟨kind, _, _, value, true, hdecodable⟩, rfl, rfl, rfl⟩

/-- Values in the range that stand in the orientation of the metric show their improvement. -/
theorem shows_of {a b : Nat}
    (hbetter : match (describeMetric kind).orientation with
      | .lowerIsBetter => b < a
      | .higherIsBetter => a < b)
    (ha : (a : Int) ≤ (describeMetric kind).maximum) (hb : (b : Int) ≤ (describeMetric kind).maximum)
    (hexact : improvementOf a b = improvement.toNat) : Shows kind improvement := by
  obtain ⟨current, hcurrent, hvalid, hvalue⟩ := MetricValue.make_of_range (by omega) ha
  obtain ⟨candidate, hcandidate, hvalid', hvalue'⟩ := MetricValue.make_of_range (by omega) hb
  obtain ⟨found, hfound, hto⟩ := relativeImprovementBps_eq
    (comparable_iff.2 ⟨hvalid, hvalid', hcurrent.trans hcandidate.symm⟩)
  have hbeats : candidate.beats current = true := by
    unfold MetricValue.beats MetricValue.orientation
    rw [hcurrent, hvalue, hvalue']
    revert hbetter
    cases (describeMetric kind).orientation with
    | lowerIsBetter =>
      intro hlt
      exact decide_eq_true (by omega)
    | higherIsBetter =>
      intro hlt
      exact decide_eq_true (by omega)
  rw [if_pos hbeats, hvalue, hvalue', hexact] at hto
  exact ⟨current, candidate, hcurrent, hcandidate, by rw [hfound, UInt32.toNat_inj.1 hto]⟩

theorem improvementOf_nat {a b delta : Nat} (ha : 0 < a) (hdelta : ((a : Int) - b).natAbs = delta) :
    improvementOf a b = min 10000 (delta * 10000 / a) := by
  unfold improvementOf
  rw [if_neg (by omega), hdelta, Int.natAbs_natCast]

/-- Where lower is better, every improvement on the scale shows. -/
theorem lower_shows (hlower : (describeMetric kind).orientation = .lowerIsBetter)
    (hle : improvement ≤ basisPointsScale) (hpositive : improvement ≠ 0) :
    Shows kind improvement := by
  have hle : improvement.toNat ≤ 10000 := UInt32.le_iff_toNat_le.1 hle
  have hpositive : improvement.toNat ≠ 0 := fun h => hpositive (UInt32.toNat_inj.1 h)
  have hmaximum : (10000 : Int) ≤ (describeMetric kind).maximum := by
    revert hlower
    cases kind <;> decide
  refine @shows_of kind improvement 10000 (10000 - improvement.toNat) ?_ hmaximum (by omega) ?_
  · rw [hlower]
    show 10000 - improvement.toNat < 10000
    omega
  · rw [@improvementOf_nat _ _ improvement.toNat (by decide) (by omega)]
    omega

/-- The quality of a path shows every improvement on the scale but the last one below the top. -/
theorem quality_shows (hle : improvement ≤ basisPointsScale) (hpositive : improvement ≠ 0)
    (hgap : improvement ≠ 9999) : Shows .pathQuality improvement := by
  have hle : improvement.toNat ≤ 10000 := UInt32.le_iff_toNat_le.1 hle
  have hpositive : improvement.toNat ≠ 0 := fun h => hpositive (UInt32.toNat_inj.1 h)
  have hgap : improvement.toNat ≠ 9999 := fun h => hgap (UInt32.toNat_inj.1 h)
  have hshows (a delta : Nat) (ha : 0 < a) (hdelta : 0 < delta) (htop : a + delta ≤ 10000)
      (hexact : min 10000 (delta * 10000 / a) = improvement.toNat) : Shows .pathQuality improvement := by
    have hmaximum : (describeMetric .pathQuality).maximum = 10000 := rfl
    refine @shows_of _ _ a (a + delta) ?_ (by omega) (by omega) ?_
    · show a < a + delta
      omega
    · rw [@improvementOf_nat _ _ delta ha (by omega), hexact]
  obtain ⟨half, hhalf⟩ : ∃ half, improvement.toNat = 2 * half ∨ improvement.toNat = 2 * half + 1 :=
    ⟨improvement.toNat / 2, by omega⟩
  rcases hhalf with heven | hodd
  · exact hshows 5000 half (by omega) (by omega) (by omega) (by omega)
  · by_cases hsmall : improvement.toNat < 5000
    · exact hshows 5001 (half + 1) (by omega) (by omega) (by omega) (by omega)
    · exact hshows 4999 half (by omega) (by omega) (by omega) (by omega)

/-- The values behind an improvement. -/
theorem Shows.values (h : Shows kind improvement) : ∃ current candidate : MetricValue,
    (current.kind = kind ∧ 0 ≤ current.value ∧ current.value ≤ (describeMetric kind).maximum) ∧
    (candidate.kind = kind ∧ 0 ≤ candidate.value ∧
      candidate.value ≤ (describeMetric kind).maximum) ∧
    improvement.toNat =
      if candidate.beats current then improvementOf current.value candidate.value else 0 := by
  obtain ⟨current, candidate, hcurrent, hcandidate, hfound⟩ := h
  have hcomparable : current.comparableWith candidate = true := by
    by_contra hnot
    unfold relativeImprovementBps at hfound
    rw [if_pos (by simpa using hnot)] at hfound
    cases hfound
  obtain ⟨hvalid, hvalid', -⟩ := comparable_iff.1 hcomparable
  obtain ⟨found, hsame, hto⟩ := relativeImprovementBps_eq hcomparable
  cases hfound.symm.trans hsame
  have hminimum := (describeMetric_range kind).1
  have hrange := MetricValue.range hvalid
  have hrange' := MetricValue.range hvalid'
  rw [hcurrent, hminimum] at hrange
  rw [hcandidate, hminimum] at hrange'
  exact ⟨current, candidate, ⟨hcurrent, hrange⟩, ⟨hcandidate, hrange'⟩, hto⟩

theorem quality_gap (h : Shows .pathQuality improvement) : improvement ≠ 9999 := by
  obtain ⟨current, candidate, ⟨hcurrent, hrange⟩, ⟨-, hrange'⟩, hto⟩ := h.values
  have hmaximum : (describeMetric .pathQuality).maximum = 10000 := rfl
  intro hgap
  rw [hgap] at hto
  split at hto
  · rename_i hbeats
    have hbetter : current.value < candidate.value := by
      unfold MetricValue.beats MetricValue.orientation at hbeats
      rw [hcurrent] at hbeats
      exact of_decide_eq_true hbeats
    have hnat : (9999 : UInt32).toNat = 9999 := rfl
    unfold improvementOf at hto
    split at hto
    · omega
    · obtain ⟨a, ha⟩ := Int.eq_ofNat_of_zero_le (a := current.value) (by omega)
      have hdelta : (current.value - candidate.value).natAbs * 10000 / current.value.natAbs = 9999 := by
        omega
      have hpositive : 0 < current.value.natAbs := by omega
      have hlow := Nat.div_mul_le_self ((current.value - candidate.value).natAbs * 10000)
        current.value.natAbs
      have hhigh := Nat.lt_mul_div_succ ((current.value - candidate.value).natAbs * 10000) hpositive
      rw [hdelta] at hlow hhigh
      omega
  · cases hto

end

/-! ## The rule -/

/-- Whatever improvement restores the displaced path would do for any other path. -/
def ImprovementRule.Asymmetric (rule : ImprovementRule) : Prop :=
  ∀ improvement, Shows rule.kind improvement → rule.reverseImprovementBps ≤ improvement →
    rule.switchImprovementBps ≤ improvement

/-- The reverse requirement is not the smaller one, or nothing shows between the two: the quality of a
path never improves by 9999 basis points, and a flag by all or nothing. -/
def ImprovementRule.reverseHarder (rule : ImprovementRule) : Bool :=
  rule.switchImprovementBps ≤ rule.reverseImprovementBps ||
    rule.kind == .pathQuality && rule.reverseImprovementBps == 9999 ||
    rule.kind == .operatorPolicySignal && rule.reverseImprovementBps != 0

theorem shows_zero (kind : MetricKind) : Shows kind 0 := by
  obtain ⟨value, hkind, hvalid, -⟩ := @MetricValue.make_of_range kind 0 (Int.le_refl 0) (by
    cases kind <;> decide)
  obtain ⟨improvement, hfound, hto⟩ := relativeImprovementBps_eq
    (comparable_iff.2 ⟨hvalid, hvalid, rfl⟩)
  have hsame : value.beats value = false := by
    unfold MetricValue.beats
    split <;> exact decide_eq_false (by omega)
  rw [hsame, if_neg (by simp)] at hto
  exact ⟨value, value, hkind, hkind, by rw [hfound, UInt32.toNat_inj.1 (hto.trans UInt32.toNat_zero.symm)]⟩

theorem Shows.le {kind : MetricKind} {improvement : UInt32} (h : Shows kind improvement) :
    improvement ≤ basisPointsScale := by
  obtain ⟨current, candidate, -, -, hto⟩ := h.values
  rw [UInt32.le_iff_toNat_le, hto]
  split
  · exact improvementOf_le ..
  · exact Nat.zero_le _

/-- A flag improves by nothing or by all. -/
theorem flag_shows {improvement : UInt32} (h : Shows .operatorPolicySignal improvement)
    (hpositive : improvement ≠ 0) : improvement = basisPointsScale := by
  obtain ⟨current, candidate, ⟨hcurrent, hrange⟩, ⟨-, hrange'⟩, hto⟩ := h.values
  have hmaximum : (describeMetric .operatorPolicySignal).maximum = 1 := rfl
  split at hto
  · rename_i hbeats
    have hbetter : current.value < candidate.value := by
      unfold MetricValue.beats MetricValue.orientation at hbeats
      rw [hcurrent] at hbeats
      exact of_decide_eq_true hbeats
    have hzero : current.value = 0 := by omega
    rw [improvementOf, if_pos hzero] at hto
    exact UInt32.toNat_inj.1 hto
  · exact absurd (UInt32.toNat_inj.1 (hto.trans UInt32.toNat_zero.symm)) hpositive

theorem ImprovementRule.bounds {rule : ImprovementRule} (h : rule.valid = true) :
    rule.switchImprovementBps ≤ basisPointsScale ∧ rule.reverseImprovementBps ≤ basisPointsScale := by
  unfold ImprovementRule.valid at h
  simp only [Bool.and_eq_true, Bool.not_eq_true', Bool.or_eq_false_iff, decide_eq_false_iff_not,
    UInt32.not_lt] at h
  exact h.1

/-- A rule is asymmetric exactly when its reverse requirement is the harder one. -/
theorem ImprovementRule.asymmetric_iff {rule : ImprovementRule} (hvalid : rule.valid = true) :
    rule.Asymmetric ↔ rule.reverseHarder = true := by
  obtain ⟨hswitch, hreverse⟩ := ImprovementRule.bounds hvalid
  unfold reverseHarder
  simp only [Bool.or_eq_true, Bool.and_eq_true, beq_iff_eq, bne_iff_ne, decide_eq_true_eq]
  constructor
  · intro h
    by_contra hnot
    simp only [not_or, not_and, UInt32.not_le, ne_eq, Classical.not_not] at hnot
    obtain ⟨⟨hlt, hquality⟩, hflag⟩ := hnot
    refine absurd (h rule.reverseImprovementBps ?_ (UInt32.le_refl _)) (UInt32.not_le.2 hlt)
    -- the reverse requirement itself shows
    by_cases hzero : rule.reverseImprovementBps = 0
    · rw [hzero]
      exact shows_zero _
    · cases hkind : rule.kind with
      | pathQuality => exact quality_shows hreverse hzero (hquality hkind)
      | operatorPolicySignal => exact absurd (hflag hkind) hzero
      | _ => exact lower_shows rfl hreverse hzero
  · intro h improvement hshows hsatisfied
    rcases h with (hle | ⟨hkind, hgap⟩) | ⟨hkind, hzero⟩
    · exact UInt32.le_trans hle hsatisfied
    · rw [hkind] at hshows
      have hnever := quality_gap hshows
      have htop := hshows.le
      have hlast : improvement = basisPointsScale := by
        rw [hgap, UInt32.le_iff_toNat_le] at hsatisfied
        rw [UInt32.le_iff_toNat_le] at htop
        rw [ne_eq, ← UInt32.toNat_inj] at hnever
        rw [← UInt32.toNat_inj]
        have hscale : basisPointsScale.toNat = 10000 := rfl
        have hbelow : (9999 : UInt32).toNat = 9999 := rfl
        omega
      rw [hlast]
      exact hswitch
    · rw [hkind] at hshows
      have hsome : improvement ≠ 0 := by
        rintro rfl
        exact hzero (UInt32.le_antisymm hsatisfied (UInt32.le_iff_toNat_le.2 (Nat.zero_le _)))
      rw [flag_shows hshows hsome]
      exact hswitch

/-! ## Restoring the displaced path -/

/-- Two paths have the same current evidence. -/
def EvaluationInputs.EqualEvidence (inputs : EvaluationInputs) (path other : PathId) : Prop :=
  ∀ kind value, inputs.Measures path kind value ↔ inputs.Measures other kind value

/-- Under a policy, the displaced path is never easier to restore than another path is to adopt. -/
def PolicySemantics.RestoresNoEasier (semantics : PolicySemantics) : Prop :=
  ∀ (s : State) (now : Ticks) (evidence : EvidenceSnapshotId) (record : PolicyRecord),
    record.policy.semantics = semantics →
    ∀ displaced other, (s.copyInputs now evidence record).Displaced displaced →
      ¬ (s.copyInputs now evidence record).Displaced other →
      (s.copyInputs now evidence record).EqualEvidence displaced other →
      (s.copyInputs now evidence record).Departs displaced →
      (s.copyInputs now evidence record).Departs other

section
variable {semantics : PolicySemantics}

theorem PolicySemantics.check_improvement {rule : ImprovementRule} (h : semantics.check = .ok ())
    (hrule : rule ∈ semantics.improvements) : rule.valid = true := by
  unfold PolicySemantics.check at h
  iterate 4 obtain ⟨-, h⟩ := seq_ok h
  obtain ⟨hvalid, -⟩ := seq_ok h
  simpa using List.any_eq_false.1 hvalid rule hrule

theorem PolicySemantics.check_threshold {rule : ThresholdRule} (h : semantics.check = .ok ())
    (hrule : rule ∈ semantics.thresholds) : rule.valid = true := by
  unfold PolicySemantics.check at h
  iterate 3 obtain ⟨-, h⟩ := seq_ok h
  obtain ⟨hvalid, -⟩ := seq_ok h
  simpa using List.any_eq_false.1 hvalid rule hrule

theorem PolicySemantics.findRequirement_kind {kind : MetricKind} {requirement : EvidenceRequirement}
    (h : semantics.findRequirement kind = some requirement) : requirement.kind = kind := by
  unfold PolicySemantics.findRequirement at h
  exact beq_iff_eq.1 (List.find?_some h :)

/-- What the engine measures of a metric is a value of it. -/
theorem State.measures_kind {s : State} {now : Ticks} {evidence : EvidenceSnapshotId}
    {record : PolicyRecord} {path : PathId} {kind : MetricKind} {value : MetricValue}
    (h : (s.copyInputs now evidence record).Measures path kind value) :
    value.kind = kind ∧ value.valid = true := by
  obtain ⟨requirement, quality, hfound, hlookup⟩ := h
  have hvalue := State.lookupMetric_value rfl hlookup
  exact ⟨hvalue.1.trans (PolicySemantics.findRequirement_kind hfound), hvalue.2⟩

theorem restoresNoEasier_of
    (h : ∀ rule ∈ semantics.improvements, rule.Asymmetric) : semantics.RestoresNoEasier := by
  rintro s now evidence record rfl displaced other hdisplaced hother hequal hdeparts
  refine ⟨hdeparts.incumbent, fun hheld => hother hheld.1, hdeparts.cooldown, fun rule hrule => ?_,
    fun rule hrule => ?_, hdeparts.churn⟩
  · obtain ⟨current, value, hcurrent, hvalue, hcrosses⟩ := hdeparts.thresholds rule hrule
    exact ⟨current, value, hcurrent, (hequal _ _).1 hvalue, hcrosses⟩
  · obtain ⟨current, value, improvement, hcurrent, hvalue, hshows, hsatisfied⟩ :=
      hdeparts.improvements rule hrule
    refine ⟨current, value, improvement, hcurrent, (hequal _ _).1 hvalue, hshows, ?_⟩
    have hreverse : (s.copyInputs now evidence record).requirement displaced rule =
        rule.reverseImprovementBps := if_pos (by
      simp only [Bool.and_eq_true, beq_iff_eq]
      exact hdisplaced)
    have hswitch : (s.copyInputs now evidence record).requirement other rule =
        rule.switchImprovementBps := if_neg (by
      simp only [Bool.and_eq_true, beq_iff_eq]
      exact hother)
    rw [hreverse] at hsatisfied
    rw [hswitch]
    exact h rule hrule improvement ⟨current, value, (State.measures_kind hcurrent).1,
      (State.measures_kind hvalue).1, hshows⟩ hsatisfied

/-- A valid policy makes the way back at least as hard as the way there, rule by rule and in the
evaluation, exactly when every rule's reverse requirement is the harder one. -/
theorem reverse_is_harder_iff (hvalid : semantics.check = .ok ()) :
    (∀ rule ∈ semantics.improvements, rule.Asymmetric) ∧ semantics.RestoresNoEasier ↔
      ∀ rule ∈ semantics.improvements, rule.reverseHarder = true := by
  have hrules : (∀ rule ∈ semantics.improvements, rule.Asymmetric) ↔
      ∀ rule ∈ semantics.improvements, rule.reverseHarder = true :=
    forall₂_congr fun rule hrule =>
      ImprovementRule.asymmetric_iff (PolicySemantics.check_improvement hvalid hrule)
  exact ⟨fun h => hrules.1 h.1, fun h => ⟨hrules.2 h, restoresNoEasier_of (hrules.2 h)⟩⟩

end

namespace Scenario

/-- The policy with an improvement rule. -/
def improving (switchBps reverseBps : UInt32) : PolicySemantics := { semantics with
  improvements := [{ switchImprovementBps := switchBps, reverseImprovementBps := reverseBps }] }

end Scenario

open Scenario in
/-- Twenty percent to leave and thirty to come back. -/
theorem thirty_percent_back :
    (∀ rule ∈ (improving 2000 3000).improvements, rule.Asymmetric) ∧
      (improving 2000 3000).RestoresNoEasier :=
  (reverse_is_harder_iff (by rfl)).2 (by decide)

open Scenario in
/-- Ten percent to leave and five to come back is accepted, and six percent are enough for the
displaced path only. -/
theorem five_percent_back : (improving 1000 500).check = .ok () ∧
    ∃ rule ∈ (improving 1000 500).improvements, ∃ improvement,
      relativeImprovementBps (latency 1000) (latency 940) = some improvement ∧
      rule.reverseImprovementBps ≤ improvement ∧ ¬ rule.switchImprovementBps ≤ improvement :=
  ⟨rfl, _, List.mem_cons_self, 600, by decide, by decide, by decide⟩

end AdaptiveRouting
