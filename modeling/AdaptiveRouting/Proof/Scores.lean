import AdaptiveRouting.Proof.Asymmetry

/-!
# Weighted scores

The score of a valid objective is the weighted sum of the places its values take on the scale, rounded
half up (`weightedScore_eq`). The sum is over the terms with their values, so it does not depend on
their order, and a value that is at least as good has no lower place (`normalized_mono`).
-/

namespace AdaptiveRouting

/-! ## Places on the scale -/

/-- How far a value is from the worst one of its metric. -/
def MetricValue.goodness (value : MetricValue) : Nat :=
  match value.orientation with
  | .lowerIsBetter => ((describeMetric value.kind).maximum - value.value).toNat
  | .higherIsBetter => (value.value - (describeMetric value.kind).minimum).toNat

/-- The width of the range of a metric. -/
def MetricKind.span (kind : MetricKind) : Nat :=
  ((describeMetric kind).maximum - (describeMetric kind).minimum).toNat

/-- The place of a value on the scale, rounded down. -/
def MetricValue.normalized (value : MetricValue) : Nat := value.goodness * 10000 / value.kind.span

section
variable {value other : MetricValue}

theorem MetricValue.goodness_le (h : value.valid = true) : value.goodness ≤ value.kind.span := by
  obtain ⟨hlow, hhigh⟩ := MetricValue.range h
  unfold MetricValue.goodness MetricKind.span
  split <;> omega

theorem MetricValue.normalized_le (h : value.valid = true) : value.normalized ≤ 10000 := by
  have hgoodness := MetricValue.goodness_le h
  exact Nat.div_le_of_le_mul (by omega)

/-- A place between the ends of a range, exactly. -/
theorem scaledBasisPoints_eq {goodness span : Int} (hgood : 0 ≤ goodness) (hexact : goodness ≤ span)
    (hwide : 0 < span) (hsmall : span ≤ 4000000000) :
    ∃ place, (if goodness ≤ 0 then some 0
      else (multiplyOk goodness 10000).bind fun scaled =>
        some (clampBasisPoints (scaled.tdiv span))) = some place ∧
      place.toNat = goodness.toNat * 10000 / span.toNat := by
  obtain ⟨goodness, rfl⟩ := Int.eq_ofNat_of_zero_le hgood
  obtain ⟨span, rfl⟩ := Int.eq_ofNat_of_zero_le (Int.le_of_lt hwide)
  by_cases hnone : (goodness : Int) ≤ 0
  · have hzero : goodness = 0 := by omega
    rw [if_pos hnone, hzero]
    exact ⟨0, rfl, by simp⟩
  · have hscaled : multiplyOk goodness 10000 = some ((goodness * 10000 : Nat) : Int) := by
      rw [Int.natCast_mul]
      exact if_pos (inI64_of (by omega) (by omega))
    have hfits : goodness * 10000 / span ≤ 10000 := Nat.div_le_of_le_mul (by omega)
    rw [if_neg hnone, hscaled, Option.bind_some, ← Int.ofNat_tdiv]
    refine ⟨_, rfl, ?_⟩
    rw [clampBasisPoints_ofNat, Nat.min_eq_right hfits, Int.toNat_natCast, Int.toNat_natCast]

theorem normalizeToBasisPoints_eq (h : value.valid = true) :
    ∃ place, normalizeToBasisPoints value = some place ∧ place.toNat = value.normalized := by
  obtain ⟨hlow, hhigh⟩ := MetricValue.range h
  obtain ⟨hwide, hsmall⟩ := describeMetric_span value.kind
  unfold normalizeToBasisPoints MetricValue.normalized MetricValue.goodness MetricKind.span
    MetricValue.orientation
  rw [h, Bool.not_true, if_neg (by simp)]
  dsimp only
  rw [if_neg (by omega)]
  cases (describeMetric value.kind).orientation with
  | lowerIsBetter =>
    exact scaledBasisPoints_eq (Int.sub_nonneg.2 hhigh) (Int.sub_le_sub_left hlow _) hwide hsmall
  | higherIsBetter =>
    exact scaledBasisPoints_eq (Int.sub_nonneg.2 hlow) (Int.sub_le_sub_right hhigh _) hwide hsmall

/-- A value that is at least as good has no lower place. -/
theorem MetricValue.normalized_mono (hkind : value.kind = other.kind)
    (h : atLeastAsGood value other = true) : other.normalized ≤ value.normalized := by
  unfold MetricValue.normalized
  rw [hkind]
  refine Nat.div_le_div_right (Nat.mul_le_mul_right _ ?_)
  unfold atLeastAsGood at h
  unfold MetricValue.goodness MetricValue.orientation
  rw [hkind] at h ⊢
  cases horientation : (describeMetric other.kind).orientation with
  | lowerIsBetter =>
    rw [horientation] at h
    have hle := of_decide_eq_true h
    dsimp only
    omega
  | higherIsBetter =>
    rw [horientation] at h
    have hle := of_decide_eq_true h
    dsimp only
    omega

end

/-! ## Sums -/

/-- The weights of the terms. -/
def totalWeight (terms : List ScoreTerm) : Nat :=
  terms.foldr (fun term total => term.weightBps.toNat + total) 0

/-- The weighted places of the values. -/
def totalScore (entries : List (ScoreTerm × MetricValue)) : Nat :=
  entries.foldr (fun entry total => entry.1.weightBps.toNat * entry.2.normalized + total) 0

theorem totalScore_perm {entries others : List (ScoreTerm × MetricValue)} (h : entries.Perm others) :
    totalScore entries = totalScore others := by
  unfold totalScore
  refine h.foldr_eq' (fun _ _ _ _ _ => ?_) 0
  exact Nat.add_left_comm ..

theorem totalWeight_perm {terms others : List ScoreTerm} (h : terms.Perm others) :
    totalWeight terms = totalWeight others := by
  unfold totalWeight
  refine h.foldr_eq' (fun _ _ _ _ _ => ?_) 0
  exact Nat.add_left_comm ..

theorem totalScore_le {entries : List (ScoreTerm × MetricValue)}
    (h : ∀ entry ∈ entries, entry.2.valid = true) :
    totalScore entries ≤ totalWeight (entries.map Prod.fst) * 10000 := by
  induction entries with
  | nil => exact Nat.zero_le _
  | cons entry rest ih =>
    have hrest := ih fun other hother => h other (List.mem_cons_of_mem _ hother)
    have hterm := Nat.mul_le_mul_left entry.1.weightBps.toNat
      (MetricValue.normalized_le (h entry List.mem_cons_self))
    show entry.1.weightBps.toNat * entry.2.normalized + totalScore rest ≤
      (entry.1.weightBps.toNat + totalWeight (rest.map Prod.fst)) * 10000
    rw [Nat.add_mul]
    exact Nat.add_le_add hterm hrest

/-- Better values have no lower sum. -/
theorem totalScore_mono {terms : List ScoreTerm} {better values : List MetricValue}
    (h : List.Forall₂ (fun value other => value.kind = other.kind ∧ atLeastAsGood value other = true)
      better values) : totalScore (terms.zip values) ≤ totalScore (terms.zip better) := by
  induction h generalizing terms with
  | nil => exact Nat.le_refl _
  | cons hhead htail ih =>
    cases terms with
    | nil => exact Nat.le_refl _
    | cons term rest =>
      exact Nat.add_le_add (Nat.mul_le_mul_left _ (MetricValue.normalized_mono hhead.1 hhead.2)) ih

/-- The checked sum is the exact one. -/
theorem weightedSum_eq (entries : List (ScoreTerm × MetricValue)) (numerator : Nat)
    (hentries : ∀ entry ∈ entries, entry.2.kind = entry.1.kind ∧ entry.2.valid = true)
    (hfits : numerator + totalScore entries ≤ 100000000) :
    entries.foldlM weightedTerm (numerator : Int) =
      some ((numerator + totalScore entries : Nat) : Int) := by
  induction entries generalizing numerator with
  | nil => rfl
  | cons entry rest ih =>
    obtain ⟨hkind, hvalid⟩ := hentries entry List.mem_cons_self
    obtain ⟨place, hplace, hexact⟩ := normalizeToBasisPoints_eq hvalid
    have hsplit : totalScore (entry :: rest) =
      entry.1.weightBps.toNat * entry.2.normalized + totalScore rest := rfl
    have hadded : weightedTerm numerator entry =
        some ((numerator + entry.1.weightBps.toNat * entry.2.normalized : Nat) : Int) := by
      unfold weightedTerm
      rw [if_neg (by simp [hkind]), hplace]
      simp only [Option.bind_eq_bind, Option.bind_some, hexact]
      have hproduct : multiplyOk entry.1.weightBps.toNat entry.2.normalized =
          some ((entry.1.weightBps.toNat * entry.2.normalized : Nat) : Int) := by
        rw [Int.natCast_mul]
        exact if_pos (inI64_of (by rw [← Int.natCast_mul]; omega) (by rw [← Int.natCast_mul]; omega))
      rw [hproduct, Option.bind_some, Int.natCast_add]
      exact if_pos (inI64_of (by omega) (by omega))
    rw [List.foldlM_cons, hadded, hsplit, ← Nat.add_assoc]
    exact ih _ (fun other hother => hentries other (List.mem_cons_of_mem _ hother)) (by omega)

/-- The score of values whose terms weigh no more than the whole. -/
theorem weightedScore_of {terms : List ScoreTerm} {values : List MetricValue} (hterms : terms ≠ [])
    (hlength : terms.length = values.length) (hweight : totalWeight terms ≤ 10000)
    (hentries : ∀ entry ∈ terms.zip values, entry.2.kind = entry.1.kind ∧ entry.2.valid = true) :
    ∃ score, weightedScore terms values = some score ∧
      score.toNat = (totalScore (terms.zip values) + 5000) / 10000 ∧ score.toNat ≤ 10000 := by
  have hbound := totalScore_le fun entry hentry => (hentries entry hentry).2
  rw [List.map_fst_zip (Nat.le_of_eq hlength)] at hbound
  have hsum := weightedSum_eq (terms.zip values) 0 hentries (by omega)
  rw [Nat.zero_add] at hsum
  refine ⟨((totalScore (terms.zip values) + 5000) / 10000).toUInt64, ?_, ?_⟩
  · unfold weightedScore
    rw [if_neg (by simp [hterms, hlength])]
    rw [show (0 : Int) = ((0 : Nat) : Int) from rfl, hsum]
    simp only [Option.bind_eq_bind, Option.bind_some]
    have hrounded : ((totalScore (terms.zip values) : Int) + 5000).tdiv 10000 =
        (((totalScore (terms.zip values) + 5000) / 10000 : Nat) : Int) := by
      rw [Int.ofNat_tdiv]
      rfl
    rw [if_neg (by omega), hrounded, if_neg (by omega), Int.toNat_natCast]
    rfl
  · have hsmall : (totalScore (terms.zip values) + 5000) / 10000 ≤ 10000 := by omega
    rw [Nat.toUInt64, UInt64.toNat_ofNat', Nat.mod_eq_of_lt (Nat.lt_of_le_of_lt hsmall (by decide))]
    exact ⟨rfl, hsmall⟩

/-! ## Valid objectives -/

theorem foldl_weights (terms : List ScoreTerm) (total : UInt64)
    (hfits : total.toNat + totalWeight terms < UInt64.size) :
    (terms.foldl (fun total term => total + term.weightBps.toUInt64) total).toNat =
      total.toNat + totalWeight terms := by
  induction terms generalizing total with
  | nil => rfl
  | cons term rest ih =>
    have hsplit : totalWeight (term :: rest) = term.weightBps.toNat + totalWeight rest := rfl
    rw [hsplit, ← Nat.add_assoc] at hfits ⊢
    have hadded : (total + term.weightBps.toUInt64).toNat = total.toNat + term.weightBps.toNat := by
      rw [UInt64.toNat_add, UInt32.toNat_toUInt64]
      exact Nat.mod_eq_of_lt (Nat.lt_of_le_of_lt (Nat.le_add_right ..) hfits)
    rw [← hadded] at hfits ⊢
    exact ih _ hfits

theorem totalWeight_le {terms : List ScoreTerm} (h : ∀ term ∈ terms, term.weightBps ≤ basisPointsScale) :
    totalWeight terms ≤ terms.length * 10000 := by
  induction terms with
  | nil => exact Nat.zero_le _
  | cons term rest ih =>
    have hrest := ih fun other hother => h other (List.mem_cons_of_mem _ hother)
    have hterm : term.weightBps.toNat ≤ 10000 := UInt32.le_iff_toNat_le.1 (h term List.mem_cons_self)
    show term.weightBps.toNat + totalWeight rest ≤ (rest.length + 1) * 10000
    omega

/-- The weights of a valid objective make up the whole. -/
theorem ObjectiveSpec.totalWeight_eq {objective : ObjectiveSpec} (hvalid : objective.valid = true)
    (hmode : objective.mode = .weightedScore) :
    objective.terms ≠ [] ∧ totalWeight objective.terms = 10000 := by
  unfold ObjectiveSpec.valid at hvalid
  simp only [hmode, Bool.and_eq_true, Bool.not_eq_true', List.all_eq_true, List.isEmpty_eq_false_iff,
    BEq.rfl, Bool.true_and, bne_eq_false_iff_eq] at hvalid
  obtain ⟨⟨⟨⟨hterms, -⟩, hweights⟩, hdistinct⟩, hwhole⟩ := hvalid
  have hkinds : (objective.terms.map (·.kind)).Nodup := by simpa [hasDuplicates] using hdistinct
  have hfew := kinds_length hkinds
  rw [List.length_map] at hfew
  have hbound := totalWeight_le fun term hterm => by
    have hweight := (hweights term hterm).2
    simp only [Bool.or_eq_false_iff, decide_eq_false_iff_not, UInt32.not_lt] at hweight
    exact hweight.2
  have hsize : UInt64.size = 18446744073709551616 := rfl
  have hexact := foldl_weights objective.terms 0 (by
    rw [UInt64.toNat_zero]
    omega)
  rw [hwhole, UInt64.toNat_zero, Nat.zero_add] at hexact
  exact ⟨hterms, hexact.symm⟩

theorem matching_of {terms : List ScoreTerm} {values better : List MetricValue}
    (hvalues : List.Forall₂ (fun term value => value.kind = term.kind ∧ value.valid = true) terms values)
    (hbetter : List.Forall₂ (fun value other => value.kind = other.kind ∧ value.valid = true)
      better values) :
    List.Forall₂ (fun term value => value.kind = term.kind ∧ value.valid = true) terms better := by
  induction hvalues generalizing better with
  | nil =>
    cases hbetter
    exact .nil
  | cons hhead htail ih =>
    cases hbetter with
    | cons hvalue hrest => exact .cons ⟨hvalue.1.trans hhead.1, hvalue.2⟩ (ih hrest)

/-- A valid objective scores the values of its terms by the exact weighted sum, rounded half up; a value
that is at least as good lowers no score, and the order of the terms does not count. -/
theorem weightedScore_eq {objective : ObjectiveSpec} {values : List MetricValue}
    (hvalid : objective.valid = true) (hmode : objective.mode = .weightedScore)
    (hvalues : List.Forall₂ (fun term value => value.kind = term.kind ∧ value.valid = true)
      objective.terms values) :
    ∃ score, weightedScore objective.terms values = some score ∧ score ≤ 10000 ∧
      score.toNat = (totalScore (objective.terms.zip values) + 5000) / 10000 ∧
      (∀ better, List.Forall₂ (fun value other => value.kind = other.kind ∧ value.valid = true ∧
          atLeastAsGood value other = true) better values →
        ∃ higher, weightedScore objective.terms better = some higher ∧ score ≤ higher) ∧
      ∀ terms' values', terms'.length = values'.length →
        (terms'.zip values').Perm (objective.terms.zip values) →
        weightedScore terms' values' = some score := by
  obtain ⟨hterms, hweight⟩ := ObjectiveSpec.totalWeight_eq hvalid hmode
  have hentries : ∀ entry ∈ objective.terms.zip values,
      entry.2.kind = entry.1.kind ∧ entry.2.valid = true :=
    fun entry hentry => (List.forall₂_iff_zip.1 hvalues).2 hentry
  obtain ⟨score, hscore, hexact, hsmall⟩ :=
    weightedScore_of hterms hvalues.length_eq (Nat.le_of_eq hweight) hentries
  refine ⟨score, hscore, UInt64.le_iff_toNat_le.2 hsmall, hexact, fun better hbetter => ?_,
    fun terms' values' hlength hperm => ?_⟩
  · have hmatch := matching_of hvalues (hbetter.imp fun _ _ h => ⟨h.1, h.2.1⟩)
    obtain ⟨higher, hhigher, hexact', -⟩ := weightedScore_of hterms hmatch.length_eq
      (Nat.le_of_eq hweight) fun entry hentry => (List.forall₂_iff_zip.1 hmatch).2 hentry
    have hmono := @totalScore_mono objective.terms _ _ (hbetter.imp fun _ _ h => ⟨h.1, h.2.2⟩)
    refine ⟨higher, hhigher, UInt64.le_iff_toNat_le.2 ?_⟩
    rw [hexact, hexact']
    exact Nat.div_le_div_right (Nat.add_le_add_right hmono _)
  · have hterms' : terms'.Perm objective.terms := by
      have hfst := hperm.map Prod.fst
      rwa [List.map_fst_zip (Nat.le_of_eq hlength),
        List.map_fst_zip (Nat.le_of_eq hvalues.length_eq)] at hfst
    obtain ⟨score', hscore', hexact', -⟩ := weightedScore_of
      (fun hnil => hterms (hnil ▸ hterms').nil_eq.symm) hlength
      (Nat.le_of_eq ((totalWeight_perm hterms').trans hweight))
      fun entry hentry => hentries entry (hperm.mem_iff.1 hentry)
    rw [hscore', UInt64.toNat_inj.1 (hexact'.trans ((totalScore_perm hperm) ▸ hexact.symm))]
/-- A quarter of the score is the utilization, the rest the quality. -/
def blend : ObjectiveSpec where
  mode := .weightedScore
  terms := [⟨.pathUtilization, 2500⟩, ⟨.pathQuality, 7500⟩]

theorem blend_scores : ∃ score, weightedScore blend.terms
    [⟨.pathUtilization, .basisPoints, 1, 3, true, rfl⟩, ⟨.pathQuality, .basisPoints, 1, 2, true, rfl⟩] =
      some score ∧ score = 2501 := by
  obtain ⟨score, hscore, -, hexact, -, -⟩ := @weightedScore_eq blend
    [⟨.pathUtilization, .basisPoints, 1, 3, true, rfl⟩, ⟨.pathQuality, .basisPoints, 1, 2, true, rfl⟩]
    (by decide) rfl (.cons ⟨rfl, rfl⟩ (.cons ⟨rfl, rfl⟩ .nil))
  exact ⟨score, hscore, UInt64.toNat_inj.1 (hexact.trans (by decide))⟩

end AdaptiveRouting
