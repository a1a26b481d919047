import AdaptiveRouting.Lib.Rank
import AdaptiveRouting.Proof.Asymmetry

/-!
# Aggregates

What an aggregation makes of samples that lie in the range of a metric (`aggregateSamples_spec`). All
but the moving average are determined by the samples whatever their order (`Aggregates`). The moving
average stays, step by step, between any bounds that hold the samples (`ewma_between`).
-/

namespace AdaptiveRouting

open Rank

section
variable {samples : List Int} {low high : Int}

/-! ## The mean -/

/-- The exact sum. -/
def total (samples : List Int) : Int := samples.foldr (· + ·) 0

theorem total_perm {others : List Int} (h : samples.Perm others) : total samples = total others := by
  unfold total
  refine h.foldr_eq' (fun _ _ _ _ _ => ?_) 0
  exact Int.add_left_comm ..

theorem total_bounds (h : ∀ sample ∈ samples, low ≤ sample ∧ sample ≤ high) :
    low * samples.length ≤ total samples ∧ total samples ≤ high * samples.length := by
  induction samples with
  | nil => simp [total]
  | cons sample rest ih =>
    obtain ⟨hlow, hhigh⟩ := h sample List.mem_cons_self
    obtain ⟨hlow', hhigh'⟩ := ih fun other hother => h other (List.mem_cons_of_mem _ hother)
    have hsplit : total (sample :: rest) = sample + total rest := rfl
    rw [hsplit, List.length_cons, Int.natCast_add, Int.natCast_one, Int.mul_add, Int.mul_add,
      Int.mul_one, Int.mul_one]
    omega

/-- The checked sum of that many samples is the exact one. -/
theorem sumOk_eq (sum : Int) (hrange : ∀ sample ∈ samples, 0 ≤ sample ∧ sample ≤ 4000000000)
    (hsum : 0 ≤ sum) (hfits : sum + 4000000000 * samples.length ≤ 8589934592000000000) :
    samples.foldlM addOk sum = some (sum + total samples) := by
  induction samples generalizing sum with
  | nil => simp [total]
  | cons sample rest ih =>
    obtain ⟨hlow, hhigh⟩ := hrange sample List.mem_cons_self
    rw [List.length_cons] at hfits
    have hadded : addOk sum sample = some (sum + sample) := if_pos (by
      unfold inI64 i64Min i64Max
      simp only [Bool.and_eq_true, decide_eq_true_eq]
      omega)
    have hsplit : total (sample :: rest) = sample + total rest := rfl
    rw [List.foldlM_cons, hadded, hsplit, ← Int.add_assoc]
    exact ih _ (fun other hother => hrange other (List.mem_cons_of_mem _ hother)) (by omega) (by omega)

/-- A quotient by a number of samples, rounded down. -/
theorem tdiv_floor {sum : Int} {count : Nat} (hsum : 0 ≤ sum) (hcount : 0 < count) :
    sum.tdiv count * count ≤ sum ∧ sum < (sum.tdiv count + 1) * count := by
  rw [Int.tdiv_eq_ediv_of_nonneg hsum]
  have hpos : (0 : Int) < count := by omega
  exact ⟨Int.ediv_mul_le sum (Int.ne_of_gt hpos), Int.lt_ediv_add_one_mul_self sum hpos⟩

/-! ## The moving average -/

/-- One step stays between bounds that hold the average so far and the sample. -/
theorem ewmaStep_between {alpha : Nat} {ewma sample : Int} (halpha : alpha ≤ 10000) (hzero : 0 ≤ low)
    (hlarge : high ≤ 4000000000) (hewma : low ≤ ewma ∧ ewma ≤ high)
    (hsample : low ≤ sample ∧ sample ≤ high) :
    ∃ next, ewmaStep alpha ewma sample = some next ∧ low ≤ next ∧ next ≤ high := by
  have hcomplement : (0 : Int) ≤ 10000 - alpha := by omega
  have halpha' : (0 : Int) ≤ alpha := Int.natCast_nonneg _
  have hunity : (alpha : Int) + (10000 - alpha) = 10000 := by omega
  have hlow : low * 10000 ≤ alpha * sample + (10000 - alpha) * ewma := by
    have h₁ := Int.mul_le_mul_of_nonneg_left hsample.1 halpha'
    have h₂ := Int.mul_le_mul_of_nonneg_left hewma.1 hcomplement
    have hwhole : alpha * low + (10000 - alpha) * low = low * 10000 := by
      rw [← Int.add_mul, hunity, Int.mul_comm]
    omega
  have hhigh : alpha * sample + (10000 - alpha) * ewma ≤ high * 10000 := by
    have h₁ := Int.mul_le_mul_of_nonneg_left hsample.2 halpha'
    have h₂ := Int.mul_le_mul_of_nonneg_left hewma.2 hcomplement
    have hwhole : alpha * high + (10000 - alpha) * high = high * 10000 := by
      rw [← Int.add_mul, hunity, Int.mul_comm]
    omega
  have hsample' : 0 ≤ (alpha : Int) * sample := Int.mul_nonneg halpha' (by omega)
  have hewma' : 0 ≤ (10000 - (alpha : Int)) * ewma := Int.mul_nonneg hcomplement (by omega)
  have hquotient := Int.tdiv_eq_ediv_of_nonneg (b := 10000) (Int.add_nonneg hsample' hewma')
  refine ⟨_, ?_, Int.le_ediv_of_mul_le (by decide) hlow, Int.ediv_le_of_le_mul (by decide) hhigh⟩
  unfold ewmaStep
  have h₁ : multiplyOk alpha sample = some (alpha * sample) := if_pos (inI64_of (by omega) (by omega))
  have h₂ : multiplyOk (10000 - alpha) ewma = some ((10000 - alpha) * ewma) :=
    if_pos (inI64_of (by omega) (by omega))
  have h₃ : addOk (alpha * sample) ((10000 - alpha) * ewma) =
      some (alpha * sample + (10000 - alpha) * ewma) := if_pos (inI64_of (by omega) (by omega))
  rw [h₁, h₂]
  simp only [Option.bind_eq_bind, Option.bind_some, h₃, hquotient]
  rfl

theorem ewma_between {alpha : Nat} (halpha : alpha ≤ 10000) (hzero : 0 ≤ low)
    (hlarge : high ≤ 4000000000) (ewma : Int) (hewma : low ≤ ewma ∧ ewma ≤ high)
    (h : ∀ sample ∈ samples, low ≤ sample ∧ sample ≤ high) :
    ∃ value, samples.foldlM (ewmaStep alpha) ewma = some value ∧ low ≤ value ∧ value ≤ high := by
  induction samples generalizing ewma with
  | nil => exact ⟨ewma, rfl, hewma⟩
  | cons sample rest ih =>
    obtain ⟨next, hnext, hbetween⟩ :=
      ewmaStep_between halpha hzero hlarge hewma (h sample List.mem_cons_self)
    rw [List.foldlM_cons, hnext]
    exact ih next hbetween fun other hother => h other (List.mem_cons_of_mem _ hother)

/-! ## Ranks -/

/-- `ceil(percent * count / 100)`. -/
def nearestRankOf (percent count : Nat) : Nat := (percent * count + 99) / 100

theorem nearestRank_spec {percent : Nat} (hsamples : samples ≠ []) (hpositive : 0 < percent)
    (hpercent : percent ≤ 100) : ∃ value, nearestRank samples percent = some value ∧
      OrderStatistic samples (nearestRankOf percent samples.length) value := by
  have hcount : 0 < samples.length := List.length_pos_iff.2 hsamples
  have hlow : 0 < percent * samples.length := Nat.mul_pos hpositive hcount
  have hhigh : percent * samples.length ≤ 100 * samples.length := Nat.mul_le_mul_right _ hpercent
  unfold nearestRank nearestRankOf
  dsimp only
  generalize hrank : (percent * samples.length + 99) / 100 = rank
  have hnonzero : rank ≠ 0 := by omega
  rw [if_neg hnonzero, if_neg (by omega)]
  have hindex : rank - 1 < (samples.insertionSort (· ≤ ·)).length := by
    rw [List.length_insertionSort]
    omega
  have hget := List.getElem?_eq_getElem hindex
  refine ⟨_, hget, ?_⟩
  have hstatistic := orderStatistic_sort hget
  rwa [Nat.sub_add_cancel (by omega)] at hstatistic

/-! ## Any aggregation -/

/-- What an aggregate is of the samples, whatever their order; the moving average says nothing. -/
def Aggregates (aggregation : AggregationKind) (samples : List Int) (value : Int) : Prop :=
  match aggregation with
  | .minimum => value ∈ samples ∧ ∀ sample ∈ samples, value ≤ sample
  | .maximum => value ∈ samples ∧ ∀ sample ∈ samples, sample ≤ value
  | .mean => value * samples.length ≤ total samples ∧ total samples < (value + 1) * samples.length
  | .median => OrderStatistic samples (nearestRankOf 50 samples.length) value
  | .percentile95 => OrderStatistic samples (nearestRankOf 95 samples.length) value
  | .ewma => True

section
variable {aggregation : AggregationKind} {value : Int}

theorem Aggregates.of_perm {others : List Int} (h : Aggregates aggregation samples value)
    (hperm : samples.Perm others) : Aggregates aggregation others value := by
  cases aggregation with
  | minimum => exact ⟨hperm.mem_iff.1 h.1, fun sample hsample => h.2 sample (hperm.mem_iff.2 hsample)⟩
  | maximum => exact ⟨hperm.mem_iff.1 h.1, fun sample hsample => h.2 sample (hperm.mem_iff.2 hsample)⟩
  | mean =>
    unfold Aggregates at h ⊢
    rwa [← hperm.length_eq, ← total_perm hperm]
  | median =>
    unfold Aggregates at h ⊢
    exact hperm.length_eq ▸ h.of_perm hperm
  | percentile95 =>
    unfold Aggregates at h ⊢
    exact hperm.length_eq ▸ h.of_perm hperm
  | ewma => trivial

theorem Aggregates.unique {other : Int} (hordered : aggregation ≠ .ewma)
    (h : Aggregates aggregation samples value) (h' : Aggregates aggregation samples other) :
    value = other := by
  cases aggregation with
  | minimum => exact Int.le_antisymm (h.2 other h'.1) (h'.2 value h.1)
  | maximum => exact Int.le_antisymm (h'.2 value h.1) (h.2 other h'.1)
  | mean =>
    have hone := Int.lt_of_mul_lt_mul_right (Int.lt_of_le_of_lt h.1 h'.2) (Int.natCast_nonneg _)
    have htwo := Int.lt_of_mul_lt_mul_right (Int.lt_of_le_of_lt h'.1 h.2) (Int.natCast_nonneg _)
    omega
  | median => exact OrderStatistic.unique h h'
  | percentile95 => exact OrderStatistic.unique h h'
  | ewma => exact absurd rfl hordered

/-- An aggregate that the samples determine lies between bounds that hold the samples. -/
theorem Aggregates.between (hordered : aggregation ≠ .ewma) (hsamples : samples ≠ [])
    (hvalue : Aggregates aggregation samples value)
    (h : ∀ sample ∈ samples, low ≤ sample ∧ sample ≤ high) : low ≤ value ∧ value ≤ high := by
  cases aggregation with
  | minimum => exact h value hvalue.1
  | maximum => exact h value hvalue.1
  | mean =>
    obtain ⟨hlow, hhigh⟩ := total_bounds h
    have hone := Int.lt_of_mul_lt_mul_right (Int.lt_of_le_of_lt hlow hvalue.2) (Int.natCast_nonneg _)
    have hcount : (0 : Int) < samples.length := Int.natCast_pos.2 (List.length_pos_iff.2 hsamples)
    have htwo := Int.le_of_mul_le_mul_right (Int.le_trans hvalue.1 hhigh) hcount
    omega
  | median => exact h value (OrderStatistic.mem hvalue)
  | percentile95 => exact h value (OrderStatistic.mem hvalue)
  | ewma => exact absurd rfl hordered

/-- The aggregate of that many samples in the range of a metric. -/
theorem aggregateSamples_aggregates {alpha : UInt32} (hsamples : samples ≠ [])
    (hlength : samples.length ≤ 2147483648) (hordered : aggregation ≠ .ewma)
    (h : ∀ sample ∈ samples, 0 ≤ sample ∧ sample ≤ 4000000000) :
    ∃ value, aggregateSamples aggregation samples alpha = some value ∧
      Aggregates aggregation samples value := by
  have hcount := List.length_pos_iff.2 hsamples
  obtain ⟨first, rest, hsplit⟩ := List.exists_cons_of_ne_nil hsamples
  cases aggregation with
  | minimum =>
    obtain ⟨value, hvalue⟩ := Option.ne_none_iff_exists'.1 (mt List.min?_eq_none_iff.1 hsamples)
    exact ⟨value, by rw [← hvalue, hsplit]; rfl, List.min?_eq_some_iff.1 hvalue⟩
  | maximum =>
    obtain ⟨value, hvalue⟩ := Option.ne_none_iff_exists'.1 (mt List.max?_eq_none_iff.1 hsamples)
    exact ⟨value, by rw [← hvalue, hsplit]; rfl, List.max?_eq_some_iff.1 hvalue⟩
  | mean =>
    have hsum := sumOk_eq 0 h (Int.le_refl 0) (by omega)
    have hnonneg := (total_bounds h).1
    rw [Int.zero_mul] at hnonneg
    refine ⟨(total samples).tdiv samples.length, ?_, tdiv_floor hnonneg hcount⟩
    have hmean : aggregateSamples .mean samples alpha =
        (sumOk samples).map fun sum => sum.tdiv samples.length := by rw [hsplit]; rfl
    rw [hmean, sumOk, hsum, Int.zero_add]
    rfl
  | median =>
    obtain ⟨value, hvalue, hrank⟩ := nearestRank_spec hsamples (by decide : 0 < 50) (by decide)
    exact ⟨value, by rw [← hvalue, hsplit]; rfl, hrank⟩
  | percentile95 =>
    obtain ⟨value, hvalue, hrank⟩ := nearestRank_spec hsamples (by decide : 0 < 95) (by decide)
    exact ⟨value, by rw [← hvalue, hsplit]; rfl, hrank⟩
  | ewma => exact absurd rfl hordered

theorem aggregateSamples_ewma {alpha : UInt32} (hsamples : samples ≠ [])
    (halpha : alpha ≤ basisPointsScale) (hzero : 0 ≤ low) (hlarge : high ≤ 4000000000)
    (h : ∀ sample ∈ samples, low ≤ sample ∧ sample ≤ high) :
    ∃ value, aggregateSamples .ewma samples alpha = some value ∧ low ≤ value ∧ value ≤ high := by
  obtain ⟨first, rest, rfl⟩ := List.exists_cons_of_ne_nil hsamples
  have hruns : aggregateSamples .ewma (first :: rest) alpha =
      rest.foldlM (ewmaStep alpha.toNat) first := if_neg (UInt32.not_lt.2 halpha)
  rw [hruns]
  exact ewma_between (UInt32.le_iff_toNat_le.1 halpha) hzero hlarge first (h first List.mem_cons_self)
    fun sample hsample => h sample (List.mem_cons_of_mem _ hsample)

theorem MetricValue.make_isSome {kind : MetricKind} (hlow : (describeMetric kind).minimum ≤ value)
    (hhigh : value ≤ (describeMetric kind).maximum) : (MetricValue.make kind value).isSome = true := by
  have hdecodable : metricDecodable kind (describeMetric kind).unit
      (describeMetric kind).semanticsVersion value = true := by
    unfold metricDecodable
    simp only [beq_self_eq_true, Bool.true_and, Bool.and_eq_true, decide_eq_true_eq]
    exact ⟨hlow, hhigh⟩
  unfold MetricValue.make MetricValue.decode
  rw [dif_pos hdecodable]
  rfl

/-- Samples in the range of a metric have an aggregate, between the smallest and the largest of them and
hence a value of the metric. The mean is the exact one rounded down, the median and the percentile are
order statistics, and only the moving average sees the order. -/
theorem aggregateSamples_spec {kind : MetricKind} {alpha : UInt32} (hsamples : samples ≠ [])
    (hrange : ∀ sample ∈ samples, (describeMetric kind).minimum ≤ sample ∧
      sample ≤ (describeMetric kind).maximum)
    (hlength : samples.length ≤ 2147483648) (halpha : alpha ≤ basisPointsScale)
    (aggregation : AggregationKind) :
    ∃ value low high, aggregateSamples aggregation samples alpha = some value ∧
      samples.min? = some low ∧ samples.max? = some high ∧ low ≤ value ∧ value ≤ high ∧
      (MetricValue.make kind value).isSome = true ∧
      Aggregates aggregation samples value ∧
      (aggregation ≠ .ewma → ∀ others, samples.Perm others →
        aggregateSamples aggregation others alpha = some value) := by
  obtain ⟨hzero, hlarge⟩ := describeMetric_range kind
  obtain ⟨low, hlow⟩ := Option.ne_none_iff_exists'.1 (mt List.min?_eq_none_iff.1 hsamples)
  obtain ⟨high, hhigh⟩ := Option.ne_none_iff_exists'.1 (mt List.max?_eq_none_iff.1 hsamples)
  obtain ⟨hlowest, hlow'⟩ := List.min?_eq_some_iff.1 hlow
  obtain ⟨hhighest, hhigh'⟩ := List.max?_eq_some_iff.1 hhigh
  have hbounds : ∀ sample ∈ samples, low ≤ sample ∧ sample ≤ high :=
    fun sample hsample => ⟨hlow' sample hsample, hhigh' sample hsample⟩
  have hlow₀ := (hrange low hlowest).1
  have hhigh₀ := (hrange high hhighest).2
  have hwide : ∀ sample ∈ samples, 0 ≤ sample ∧ sample ≤ 4000000000 := fun sample hsample => by
    have hbound := hbounds sample hsample
    omega
  have hmake {value : Int} (h : low ≤ value ∧ value ≤ high) :
      (MetricValue.make kind value).isSome = true :=
    MetricValue.make_isSome (Int.le_trans hlow₀ h.1) (Int.le_trans h.2 hhigh₀)
  by_cases hordered : aggregation = .ewma
  · subst hordered
    obtain ⟨value, hvalue, hbetween⟩ := aggregateSamples_ewma hsamples halpha (hzero ▸ hlow₀)
      (Int.le_trans hhigh₀ hlarge) hbounds
    exact ⟨value, low, high, hvalue, hlow, hhigh, hbetween.1, hbetween.2, hmake hbetween, trivial,
      fun h => absurd rfl h⟩
  · obtain ⟨value, hvalue, haggregates⟩ :=
      @aggregateSamples_aggregates samples aggregation alpha hsamples hlength hordered hwide
    have hbetween := haggregates.between hordered hsamples hbounds
    refine ⟨value, low, high, hvalue, hlow, hhigh, hbetween.1, hbetween.2, hmake hbetween, haggregates,
      fun _ others hperm => ?_⟩
    obtain ⟨value', hvalue', haggregates'⟩ := @aggregateSamples_aggregates others aggregation alpha
      (fun hnil => hsamples (hnil ▸ hperm).eq_nil) (hperm.length_eq ▸ hlength) hordered
      fun sample hsample => hwide sample (hperm.mem_iff.2 hsample)
    rw [hvalue', (haggregates.of_perm hperm).unique hordered haggregates']

end

end

/-- Nine tenths of the old average and a tenth of the new sample, rounded down. -/
theorem ewma_of_three : ∃ value, aggregateSamples .ewma [100, 205, 50] 1000 = some value ∧
    50 ≤ value ∧ value ≤ 205 ∧ value = 104 := by
  obtain ⟨value, low, high, hvalue, hlow, hhigh, hbetween, hbetween', -, -, -⟩ :=
    @aggregateSamples_spec [100, 205, 50] .pathLatency 1000 (by simp) (by decide) (by decide) (by decide)
      .ewma
  cases hlow
  cases hhigh
  refine ⟨value, hvalue, hbetween, hbetween', ?_⟩
  have hcomputed : aggregateSamples .ewma [100, 205, 50] 1000 = some 104 := by decide
  exact Option.some.inj (hvalue.symm.trans hcomputed)

end AdaptiveRouting
