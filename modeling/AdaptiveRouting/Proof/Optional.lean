import AdaptiveRouting.Proof.Removal

/-!
# Optional evidence

The objective and the rules look up the metrics they name whether these are required or not. So an
optional metric blocks nothing exactly when none of them names it (`optional_spares_iff`). For a metric
that is named there are inputs under any valid policy where its absence blocks: two candidates, the
preferred one with the worst value of every metric and the other with the best one (`contest`).
-/

namespace AdaptiveRouting

open Guard

/-! ## Extreme values -/

namespace MetricKind

/-- The best value of the metric, or the worst one. -/
def extreme (kind : MetricKind) (best : Bool) : MetricValue where
  kind := kind
  unit := (describeMetric kind).unit
  semanticsVersion := (describeMetric kind).semanticsVersion
  value := if best = ((describeMetric kind).orientation == .higherIsBetter) then
      (describeMetric kind).maximum
    else (describeMetric kind).minimum
  valid := true
  ok := by cases kind <;> cases best <;> rfl

@[simp] theorem extreme_kind (kind : MetricKind) (best : Bool) : (kind.extreme best).kind = kind := rfl

@[simp] theorem extreme_valid (kind : MetricKind) (best : Bool) : (kind.extreme best).valid = true := rfl

theorem extreme_ne (kind : MetricKind) : (kind.extreme false).value ≠ (kind.extreme true).value := by
  cases kind <;> decide

theorem extreme_not_better (kind : MetricKind) :
    metricIsBetter (kind.extreme false) (kind.extreme true) = false := by
  cases kind <;> rfl

theorem extreme_normalized (kind : MetricKind) :
    normalizeToBasisPoints (kind.extreme false) = some 0 := by
  cases kind <;> rfl

theorem extreme_improves (kind : MetricKind) :
    relativeImprovementBps (kind.extreme false) (kind.extreme true) = some 10000 := by
  cases kind <;> rfl

/-- The best value is at least as good as any other. -/
theorem extreme_good {value : MetricValue} (hvalid : value.valid = true) :
    atLeastAsGood (value.kind.extreme true) value = true := by
  obtain ⟨hlow, hhigh⟩ := MetricValue.range hvalid
  generalize value.kind = kind at hlow hhigh ⊢
  cases kind <;> first | exact decide_eq_true hlow | exact decide_eq_true hhigh

/-- The worst value is at least as bad as any other. -/
theorem extreme_bad {value : MetricValue} (hvalid : value.valid = true) :
    atLeastAsBad (value.kind.extreme false) value = true := by
  obtain ⟨hlow, hhigh⟩ := MetricValue.range hvalid
  generalize value.kind = kind at hlow hhigh ⊢
  cases kind <;> first | exact decide_eq_true hlow | exact decide_eq_true hhigh

theorem text_injective {kind other : MetricKind} (h : kind.text = other.text) : kind = other := by
  have hall : (all.all fun a => all.all fun b => a == b || !(a.text == b.text)) = true := by
    decide
  have hboth := List.all_eq_true.1 (List.all_eq_true.1 hall kind kind.mem_all) other other.mem_all
  simpa [h] using hboth

/-- The details of two metrics differ. -/
theorem wants_injective {kind other : MetricKind} {detail : Text} (h : detail ∈ kind.wants)
    (hother : detail ∈ other.wants) : other = kind := by
  have hsame {start : List Text}
      (h : Text.concat (start ++ [kind.text]) = Text.concat (start ++ [other.text])) :
      other = kind := by
    simp only [Text.concat, List.flatten_append, List.append_cancel_left_eq] at h
    exact (text_injective (by simpa using h)).symm
  simp only [wants, List.mem_cons, List.not_mem_nil, or_false] at h hother
  rcases h with rfl | rfl | rfl <;> rcases hother with hother | hother | hother
  · exact @hsame ["best candidate does not clear the declared entry threshold for "] hother
  · cases congrArg List.head? hother
  · cases congrArg List.head? hother
  · cases congrArg List.head? hother
  · exact @hsame ["threshold", " rule lacks current evidence for "] hother
  · cases congrArg List.head? hother
  · cases congrArg List.head? hother
  · cases congrArg List.head? hother
  · exact @hsame ["improvement", " rule lacks current evidence for "] hother

end MetricKind

/-! ## A contest -/

open Scenario in
/-- A candidate no policy with the target rejects upstream. -/
def rival (target : PolicyTarget) (path : PathId) : CandidateRecord where
  binding := { binding path with
    multipath := target.multipathSet.map fun set =>
      { set, generation := ⟨1⟩, members := [path], current := true } }

theorem rival_accepted (target : PolicyTarget) (path : PathId) :
    upstreamRejection target (rival target path).binding = none := by
  unfold upstreamRejection rival Scenario.binding
  cases htarget : target.multipathSet with
  | none => rfl
  | some set => simp [MultipathBinding.contains]

open Scenario in
/-- The path the policy has no reason to rank behind the other. -/
def PolicySemantics.challenger (semantics : PolicySemantics) : PathId :=
  if semantics.priorityOf left < semantics.priorityOf right then right else left

open Scenario in
def PolicySemantics.incumbent (semantics : PolicySemantics) : PathId :=
  if semantics.priorityOf left < semantics.priorityOf right then left else right

/-- Evidence of a metric as good as any requirement asks for: the best value of the challenger, the
worst one of another path. -/
def supplied (challenger path : PathId) (kind : MetricKind) : ResolvedEvidence where
  path := path
  kind := kind
  source := Scenario.name "source"
  sourceGeneration := ⟨1⟩
  aggregate :=
    { value := kind.extreme (path == challenger), sampleCount := 4294967295
      newestObservedAt := 18446744073709551615 }

theorem supplied_age (challenger path : PathId) (kind : MetricKind) :
    (supplied challenger path kind).aggregate.age 18446744073709551615 = 0 := by
  simp [supplied, EvidenceAggregate.age]

theorem supplied_window (challenger path : PathId) (kind : MetricKind) :
    (supplied challenger path kind).aggregate.window = 18446744073709551615 := by
  simp [supplied, EvidenceAggregate.window]

open Scenario in
def supply (challenger : PathId) : EvidenceSnapshot where
  id := default
  generation := {}
  epoch := {}
  values := [left, right].flatMap fun path => MetricKind.all.map (supplied challenger path)

theorem supply_ordered (challenger : PathId) : (supply challenger).Ordered := by
  have hkeys : ([Scenario.left, Scenario.right].flatMap fun path => MetricKind.all.map fun kind =>
      (path, kind)).Pairwise fun a b =>
        (a.1 < b.1 || (a.1 == b.1 && a.2.code < b.2.code)) = true := by
    decide
  have hvalues : (supply challenger).values =
      ([Scenario.left, Scenario.right].flatMap fun path => MetricKind.all.map fun kind =>
        (path, kind)).map fun key => supplied challenger key.1 key.2 := by
    rw [List.map_flatMap]
    simp only [List.map_map]
    rfl
  unfold EvidenceSnapshot.Ordered
  rw [hvalues]
  exact List.pairwise_map.2 hkeys

/-- The preferred path and a challenger, and nothing that holds an adaptation back. -/
def contest (policy : AdaptivePolicy) : EvaluationInputs where
  policy := policy
  candidates := [rival policy.semantics.target policy.semantics.challenger,
    rival policy.semantics.target policy.semantics.incumbent]
  preference := { preferredPath := policy.semantics.incumbent, established := true }
  timing := {}
  evidence := supply policy.semantics.challenger
  now := 18446744073709551615

namespace PolicySemantics

section
variable (semantics : PolicySemantics)

theorem challenger_mem : semantics.challenger ∈ [Scenario.left, Scenario.right] := by
  unfold challenger
  split <;> simp

theorem incumbent_mem : semantics.incumbent ∈ [Scenario.left, Scenario.right] := by
  unfold incumbent
  split <;> simp

theorem challenger_ne : semantics.challenger ≠ semantics.incumbent := by
  unfold challenger incumbent
  split <;> decide

/-- The incumbent has no higher priority, and no smaller path at the same priority. -/
theorem incumbent_behind : ¬ semantics.priorityOf semantics.challenger <
      semantics.priorityOf semantics.incumbent ∧
    (semantics.priorityOf semantics.incumbent = semantics.priorityOf semantics.challenger →
      ¬ semantics.incumbent < semantics.challenger) := by
  unfold challenger incumbent
  split
  · rename_i hless
    exact ⟨UInt32.not_lt.2 (UInt32.le_of_lt hless), fun heq => by
      rw [heq] at hless
      exact absurd hless (UInt32.lt_irrefl _)⟩
  · rename_i hless
    exact ⟨hless, fun _ => by decide⟩

end

end PolicySemantics

namespace EvaluationInputs

section
variable {policy : AdaptivePolicy} {path : PathId} {kind : MetricKind}

theorem contest_canonical (policy : AdaptivePolicy) : (contest policy).Canonical := by
  refine ⟨?_, supply_ordered _⟩
  have hne := policy.semantics.challenger_ne
  simpa [contest, rival, Scenario.binding] using hne

theorem contest_lookup (hpath : path ∈ [Scenario.left, Scenario.right])
    (requirement : EvidenceRequirement) : (contest policy).lookupMetric path requirement =
      .ok (requirement.kind.extreme (path == policy.semantics.challenger), .primary) := by
  have hfound : (contest policy).evidence.find path requirement.kind =
      some (supplied policy.semantics.challenger path requirement.kind) := by
    refine (EvidenceSnapshot.find_iff (supply_ordered _)).2 ⟨?_, rfl, rfl⟩
    exact List.mem_flatMap.2 ⟨path, hpath, List.mem_map_of_mem requirement.kind.mem_all⟩
  unfold lookupMetric
  rw [hfound]
  have hquality : ¬ EvidenceQuality.primary.rank < requirement.minQuality.rank := by
    cases requirement.minQuality <;> decide
  have hsamples : ¬ (4294967295 : UInt32) < requirement.minSamples := by
    rw [UInt32.lt_iff_toNat_lt]
    have hsize := requirement.minSamples.toNat_lt_size
    exact Nat.not_lt.2 (Nat.le_of_lt_succ hsize)
  have hwindow : ¬ (18446744073709551615 : UInt64) < requirement.minWindow := by
    rw [UInt64.lt_iff_toNat_lt]
    have hsize := requirement.minWindow.toNat_lt_size
    exact Nat.not_lt.2 (Nat.le_of_lt_succ hsize)
  have hage : ¬ requirement.maxAge < 0 := UInt64.not_lt.2 (UInt64.zero_le ..)
  rw [← supplied_window policy.semantics.challenger path requirement.kind] at hwindow
  rw [← supplied_age policy.semantics.challenger path requirement.kind] at hage
  refine (bind_of rfl).trans ?_
  refine (seq_of rfl).trans ?_
  refine (seq_of (decide_eq_false hquality)).trans ?_
  refine (seq_of (decide_eq_false hsamples)).trans ?_
  refine (seq_of (decide_eq_false hage)).trans ?_
  exact (seq_of (decide_eq_false hwindow)).trans rfl

/-- The gate of a path whose lookups find the best quality, or nothing that is required. -/
theorem evidenceGate_primary {inputs : EvaluationInputs}
    (h : ∀ requirement ∈ inputs.policy.semantics.evidence,
      (∃ value, inputs.lookupMetric path requirement = .ok (value, .primary)) ∨
        requirement.required = false ∧
          ∃ reason, inputs.lookupMetric path requirement = .error reason) :
    inputs.evidenceGate path = (none, 4) := by
  unfold evidenceGate
  refine List.foldlRecOn (motive := fun gate : Option SuppressionReason × Nat => gate = (none, 4)) _ _ rfl
    fun gate hgate requirement hmem => ?_
  rcases h requirement hmem with ⟨value, hlookup⟩ | ⟨hoptional, reason, hlookup⟩
  · rw [hgate, hlookup]
    rfl
  · rw [hgate, hlookup, hoptional]
    rfl

theorem contest_gate (hpath : path ∈ [Scenario.left, Scenario.right]) :
    (contest policy).evidenceGate path = (none, 4) :=
  evidenceGate_primary fun requirement _ => .inl ⟨_, contest_lookup hpath requirement⟩

theorem contest_metrics (hvalid : policy.semantics.check = .ok ())
    (hpath : path ∈ [Scenario.left, Scenario.right]) : (contest policy).objectiveMetrics path =
      .ok (policy.semantics.objective.terms.map fun term =>
        term.kind.extreme (path == policy.semantics.challenger)) := by
  refine objectiveMetrics_ok_iff.2 (List.forall₂_map_right_iff.2 (List.forall₂_same.2 fun term hterm => ?_))
  obtain ⟨requirement, hfound⟩ :=
    Option.isSome_iff_exists.1 ((PolicySemantics.covers hvalid).terms term hterm)
  refine ⟨requirement, .primary, hfound, ?_⟩
  rw [contest_lookup hpath, PolicySemantics.findRequirement_kind hfound]

/-- Both candidates of the contest are eligible. -/
theorem contest_eligible (hvalid : policy.semantics.check = .ok ())
    (hpath : path ∈ [Scenario.left, Scenario.right]) :
    ((contest policy).evaluateCandidate (rival policy.semantics.target path)).eligible = true := by
  refine evaluateCandidate_eligible_iff.2 ⟨rival_accepted _ _, congrArg Prod.fst (contest_gate hpath), _,
    contest_metrics hvalid hpath, fun hmode => ?_⟩
  refine weightedScore_isSome (PolicySemantics.covers hvalid).objective hmode ?_
  exact List.forall₂_map_right_iff.2 (List.forall₂_same.2 fun term _ => ⟨rfl, rfl⟩)

end

end EvaluationInputs

/-- The worst values have no score. -/
theorem weightedScore_worst {terms : List ScoreTerm} (hterms : terms ≠ []) :
    weightedScore terms (terms.map fun term => term.kind.extreme false) = some 0 := by
  have hterm (term : ScoreTerm) : weightedTerm 0 (term, term.kind.extreme false) = some 0 := by
    unfold weightedTerm
    rw [if_neg (by simp), MetricKind.extreme_normalized]
    simp [multiplyOk, addOk, inI64, i64Min, i64Max]
  have hsum : (terms.zip (terms.map fun term => term.kind.extreme false)).foldlM weightedTerm 0 =
      some 0 := by
    clear hterms
    induction terms with
    | nil => rfl
    | cons term rest ih =>
      rw [List.map_cons, List.zip_cons_cons, List.foldlM_cons, hterm]
      exact ih
  unfold weightedScore
  rw [if_neg (by simp [hterms]), hsum]
  rfl

namespace EvaluationInputs

section
variable {inputs : EvaluationInputs} {candidate : CandidateRecord} {weakest : Nat}
  {metrics : List MetricValue}

/-- The keys of an eligible candidate. -/
theorem evaluateCandidate_measured
    (hupstream : upstreamRejection inputs.policy.semantics.target candidate.binding = none)
    (hgate : inputs.evidenceGate candidate.binding.path = (none, weakest))
    (hmetrics : inputs.objectiveMetrics candidate.binding.path = .ok metrics) :
    let e := inputs.evaluateCandidate candidate
    e.priority = inputs.policy.semantics.priorityOf candidate.binding.path ∧
      e.quality = qualityOfRank weakest ∧ e.metrics = metrics ∧
      (inputs.policy.semantics.objective.mode = .weightedScore →
        e.score = weightedScore inputs.policy.semantics.objective.terms metrics) := by
  unfold evaluateCandidate
  dsimp only
  rw [hupstream]
  dsimp only
  rw [hgate]
  dsimp only
  rw [hmetrics]
  dsimp only
  cases hmode : inputs.policy.semantics.objective.mode with
  | lexicographic => exact ⟨rfl, rfl, rfl, fun h => by cases h⟩
  | weightedScore =>
    cases hscore : weightedScore inputs.policy.semantics.objective.terms metrics with
    | none => simp [CandidateEvaluation.reject]
    | some score => simp

/-- An evaluation reads the gate and the values of its terms. -/
theorem evaluateCandidate_congr {inputs' : EvaluationInputs} (hpolicy : inputs'.policy = inputs.policy)
    (hpreference : inputs'.preference = inputs.preference)
    (hgate : inputs'.evidenceGate candidate.binding.path = inputs.evidenceGate candidate.binding.path)
    (hmetrics : inputs'.objectiveMetrics candidate.binding.path =
      inputs.objectiveMetrics candidate.binding.path) :
    inputs'.evaluateCandidate candidate = inputs.evaluateCandidate candidate := by
  unfold evaluateCandidate
  dsimp only
  rw [hpolicy, hpreference, hgate, hmetrics]

end

section
variable {policy : AdaptivePolicy}

/-- What the ranking of the contest compares. -/
theorem contest_keys (hvalid : policy.semantics.check = .ok ()) {path : PathId}
    (hpath : path ∈ [Scenario.left, Scenario.right]) {best : Bool}
    (hbest : (path == policy.semantics.challenger) = best) :
    let e := (contest policy).evaluateCandidate (rival policy.semantics.target path)
    let values := policy.semantics.objective.terms.map fun term => term.kind.extreme best
    e.path = path ∧ e.eligible = true ∧ e.priority = policy.semantics.priorityOf path ∧
      e.quality = .primary ∧ e.metrics = values ∧
      (policy.semantics.objective.mode = .weightedScore →
        e.score = weightedScore policy.semantics.objective.terms values) := by
  have hmetrics := contest_metrics hvalid hpath
  rw [hbest] at hmetrics
  exact ⟨evaluateCandidate_path _ _, contest_eligible hvalid hpath,
    @evaluateCandidate_measured (contest policy) (rival policy.semantics.target path) 4 _
      (rival_accepted _ _) (contest_gate hpath) hmetrics⟩

/-- The incumbent does not rank ahead of the challenger. -/
theorem contest_behind (hvalid : policy.semantics.check = .ok ()) :
    ranksAhead policy.semantics
      ((contest policy).evaluateCandidate (rival policy.semantics.target policy.semantics.incumbent))
      ((contest policy).evaluateCandidate (rival policy.semantics.target policy.semantics.challenger)) =
      false := by
  have hobjective := (PolicySemantics.covers hvalid).objective
  have hterms : policy.semantics.objective.terms ≠ [] := by
    unfold ObjectiveSpec.valid at hobjective
    simp only [Bool.and_eq_true] at hobjective
    simpa using hobjective.1.1.1.1
  obtain ⟨hnot, hlast⟩ := policy.semantics.incumbent_behind
  obtain ⟨hpath, heligible, hpriority, hquality, hvalues, hscore⟩ := contest_keys hvalid
    policy.semantics.incumbent_mem (beq_false_of_ne policy.semantics.challenger_ne.symm)
  obtain ⟨hpath', heligible', hpriority', hquality', hvalues', -⟩ := contest_keys hvalid
    policy.semantics.challenger_mem (beq_self_eq_true _)
  unfold ranksAhead
  rw [heligible, heligible', hpriority, hpriority', hquality, hquality', if_neg (by simp)]
  split
  · exact decide_eq_false hnot
  · rename_i hsame
    rw [if_neg (by simp)]
    split
    · rename_i hmode
      rw [hscore hmode, weightedScore_worst hterms, Option.getD_some]
      split
      · exact decide_eq_false (UInt64.not_lt.2 (UInt64.zero_le ..))
      · rw [hpath, hpath']
        exact decide_eq_false (hlast (by simpa using hsame))
    · -- the first term decides
      rw [hvalues, hvalues']
      obtain ⟨term, rest, hfirst⟩ := List.exists_cons_of_ne_nil hterms
      rw [hfirst, List.map_cons, List.map_cons, lexicographicAhead, if_neg (by simp),
        if_pos term.kind.extreme_ne, term.kind.extreme_not_better]
      rfl

theorem contest_rank (hvalid : policy.semantics.check = .ok ()) : (contest policy).rank =
    [(contest policy).evaluateCandidate (rival policy.semantics.target policy.semantics.challenger),
      (contest policy).evaluateCandidate
        (rival policy.semantics.target policy.semantics.incumbent)] := by
  have hbehind := contest_behind hvalid
  unfold rank
  show List.insertionSort _ [_, _] = _
  rw [List.insertionSort_cons, List.insertionSort_cons, List.insertionSort_nil, List.orderedInsert_nil,
    List.orderedInsert_cons]
  exact if_pos (by rw [Bool.not_eq_true']; exact hbehind)

/-! ## With all the evidence -/

theorem contest_measures {path : PathId} (hpath : path ∈ [Scenario.left, Scenario.right])
    {kind : MetricKind} (hdeclared : (policy.semantics.findRequirement kind).isSome = true) :
    (contest policy).Measures path kind (kind.extreme (path == policy.semantics.challenger)) := by
  obtain ⟨requirement, hfound⟩ := Option.isSome_iff_exists.1 hdeclared
  refine ⟨requirement, .primary, hfound, ?_⟩
  rw [contest_lookup hpath, PolicySemantics.findRequirement_kind hfound]

theorem contest_worst {kind : MetricKind}
    (hdeclared : (policy.semantics.findRequirement kind).isSome = true) :
    (contest policy).Measures policy.semantics.incumbent kind (kind.extreme false) := by
  have hmeasures := contest_measures policy.semantics.incumbent_mem hdeclared
  rwa [beq_false_of_ne policy.semantics.challenger_ne.symm] at hmeasures

theorem contest_best {kind : MetricKind}
    (hdeclared : (policy.semantics.findRequirement kind).isSome = true) :
    (contest policy).Measures policy.semantics.challenger kind (kind.extreme true) := by
  have hmeasures := contest_measures policy.semantics.challenger_mem hdeclared
  rwa [beq_self_eq_true] at hmeasures

theorem extreme_crosses {rule : ThresholdRule} (hvalid : rule.valid = true) :
    thresholdPermitsDeparture (rule.kind.extreme false) rule.switchValue = true ∧
      thresholdPermitsEntry (rule.kind.extreme true) rule.clearValue = true := by
  unfold ThresholdRule.valid at hvalid
  simp only [Bool.and_eq_true, beq_iff_eq] at hvalid
  obtain ⟨⟨⟨⟨⟨⟨hswitch, hclear⟩, hswitched⟩, hcleared⟩, -⟩, -⟩, -⟩ := hvalid
  have hbad := MetricKind.extreme_bad hswitch
  have hgood := MetricKind.extreme_good hclear
  rw [hswitched] at hbad
  rw [hcleared] at hgood
  exact ⟨hbad, hgood⟩

theorem contest_crosses (hvalid : policy.semantics.check = .ok ()) {rule : ThresholdRule}
    (hrule : rule ∈ policy.semantics.thresholds) :
    (contest policy).Crosses policy.semantics.challenger rule := by
  have hdeclared := (PolicySemantics.covers hvalid).thresholds rule hrule
  obtain ⟨hdeparts, henters⟩ := extreme_crosses (PolicySemantics.check_threshold hvalid hrule)
  exact ⟨_, _, contest_worst hdeclared, contest_best hdeclared, hdeparts, henters⟩

theorem contest_improves (hvalid : policy.semantics.check = .ok ()) {rule : ImprovementRule}
    (hrule : rule ∈ policy.semantics.improvements) :
    (contest policy).Improves policy.semantics.challenger rule := by
  have hdeclared := (PolicySemantics.covers hvalid).improvements rule hrule
  obtain ⟨hswitch, hreverse⟩ :=
    ImprovementRule.bounds (PolicySemantics.check_improvement hvalid hrule)
  refine ⟨_, _, 10000, contest_worst hdeclared, contest_best hdeclared, rule.kind.extreme_improves, ?_⟩
  unfold requirement
  split
  · exact hreverse
  · exact hswitch

theorem contest_top (hvalid : policy.semantics.check = .ok ()) : (contest policy).topRanked =
    some ((contest policy).evaluateCandidate
      (rival policy.semantics.target policy.semantics.challenger)) := by
  unfold topRanked
  rw [contest_rank hvalid, List.find?_cons, contest_eligible hvalid policy.semantics.challenger_mem]

theorem contest_unspent (policy : AdaptivePolicy) : ¬ (contest policy).Spent := by
  intro h
  have henabled := h.enabled
  have hspent := h.spent
  unfold ChurnBounds.enabled at henabled
  change _ ≤ 0 at hspent
  rw [bne_iff_ne, ne_eq, ← UInt32.toNat_inj] at henabled
  exact henabled (Nat.le_zero.1 hspent)

theorem contest_calm (policy : AdaptivePolicy) : (contest policy).emergencyReason = none := by
  refine Option.not_isSome_iff_eq_none.1 fun h => ?_
  obtain ⟨condition, htriggers⟩ :=
    (emergencyReason_isSome_iff (contest_canonical policy).paths).1 h
  have hafflicted := htriggers.afflicted
  have hmem : rival policy.semantics.target policy.semantics.incumbent ∈ (contest policy).candidates :=
    List.mem_cons_of_mem _ List.mem_cons_self
  cases condition with
  | hardFailure =>
    obtain ⟨candidate, hcandidate, -, hfailure⟩ := hafflicted
    simp only [contest, List.mem_cons, List.not_mem_nil, or_false] at hcandidate
    rcases hcandidate with rfl | rfl <;> cases hfailure
  | unavailable => cases hafflicted _ hmem rfl
  | unauthorized => cases hafflicted _ hmem rfl

/-- The challenger departs from the incumbent. -/
theorem contest_departs (hvalid : policy.semantics.check = .ok ()) :
    (contest policy).Departs policy.semantics.challenger where
  incumbent := by
    refine ⟨_, ?_, evaluateCandidate_path _ _, contest_eligible hvalid policy.semantics.incumbent_mem⟩
    rw [contest_rank hvalid]
    simp
  holdDown h := by cases h.2.active
  cooldown h := by cases h.active
  thresholds _ hrule := contest_crosses hvalid hrule
  improvements _ hrule := contest_improves hvalid hrule
  churn := contest_unspent policy

theorem contest_adapts (hvalid : policy.semantics.check = .ok ()) (dependencies : DependencySnapshot) :
    ((contest policy).evaluate dependencies).lifecycle = .eligible := by
  have hdeparts := contest_departs hvalid
  refine (evaluate_eligible_iff (contest_canonical policy).paths dependencies).1.2
    ⟨_, contest_top hvalid, ?_⟩
  rw [evaluateCandidate_path]
  exact .ordinary rfl policy.semantics.challenger_ne hdeparts

end

/-! ## Without the evidence of a metric -/

/-- The contest without the evidence of a metric. -/
def lost (policy : AdaptivePolicy) (kind : MetricKind) : EvaluationInputs :=
  (contest policy).without kind fun _ => true

section
variable {policy : AdaptivePolicy} {kind : MetricKind}

theorem lost_missing {requirement : EvidenceRequirement} (hkind : requirement.kind = kind)
    (path : PathId) :
    (lost policy kind).lookupMetric path requirement = .error .evidenceUnknown :=
  (lookupMetric_without (supply_ordered _) path requirement).trans (if_pos ⟨hkind, rfl⟩)

theorem lost_kept {requirement : EvidenceRequirement} (hkind : requirement.kind ≠ kind)
    (path : PathId) : (lost policy kind).lookupMetric path requirement =
      (contest policy).lookupMetric path requirement :=
  lookupMetric_other (supply_ordered _) hkind

theorem lost_measures {other : MetricKind} (hother : other ≠ kind) {path : PathId}
    {value : MetricValue} (h : (contest policy).Measures path other value) :
    (lost policy kind).Measures path other value := by
  obtain ⟨requirement, quality, hfound, hlookup⟩ := h
  refine ⟨requirement, quality, hfound, ?_⟩
  rw [lost_kept (by rwa [PolicySemantics.findRequirement_kind hfound]), hlookup]

theorem lost_unmeasured (path : PathId) (value : MetricValue) :
    ¬ (lost policy kind).Measures path kind value := by
  intro h
  obtain ⟨requirement, quality, hfound, hlookup⟩ := h
  rw [lost_missing (PolicySemantics.findRequirement_kind hfound)] at hlookup
  cases hlookup

/-- What no term of the objective reads changes no evaluation of the contest. -/
theorem lost_evaluation (hvalid : policy.semantics.check = .ok ())
    (hwaives : policy.semantics.Waives kind)
    (hterms : ∀ term ∈ policy.semantics.objective.terms, term.kind ≠ kind) {path : PathId}
    (hpath : path ∈ [Scenario.left, Scenario.right]) :
    (lost policy kind).evaluateCandidate (rival policy.semantics.target path) =
      (contest policy).evaluateCandidate (rival policy.semantics.target path) := by
  have hgate : (lost policy kind).evidenceGate path = (none, 4) := by
    refine evidenceGate_primary fun requirement hmem => ?_
    by_cases hkind : requirement.kind = kind
    · exact .inr ⟨hwaives requirement hmem hkind, _, lost_missing hkind path⟩
    · exact .inl ⟨_, (lost_kept hkind path).trans (contest_lookup hpath requirement)⟩
  have hmetrics := contest_metrics hvalid hpath
  refine evaluateCandidate_congr rfl rfl (hgate.trans (contest_gate hpath).symm) ?_
  exact (objectiveMetrics_without (supply_ordered _) hterms hmetrics).trans hmetrics.symm

theorem lost_rank (hvalid : policy.semantics.check = .ok ())
    (hwaives : policy.semantics.Waives kind)
    (hterms : ∀ term ∈ policy.semantics.objective.terms, term.kind ≠ kind) :
    (lost policy kind).rank = (contest policy).rank := by
  have hchallenger := lost_evaluation hvalid hwaives hterms policy.semantics.challenger_mem
  have hincumbent := lost_evaluation hvalid hwaives hterms policy.semantics.incumbent_mem
  unfold rank
  show List.insertionSort _ [_, _] = List.insertionSort _ [_, _]
  rw [hchallenger, hincumbent]
  rfl

theorem suppressedOver_of {ticket : EvaluationTicket} {reason : SuppressionReason} {outcome : Outcome}
    {detail : Text} (hreason : reason.isEvidence = true) (hdetail : detail ∈ kind.wants) :
    (ticket.suppress reason outcome detail).SuppressedOver kind :=
  ⟨rfl, hreason, fun _ hother => MetricKind.wants_injective hdetail hother⟩

/-- A rule about the metric has no values. -/
theorem lost_ruleValues (hdeclared : (policy.semantics.findRequirement kind).isSome = true)
    {current : CandidateRecord} (hcurrent : (lost policy kind).currentBinding = some current)
    (ticket missing : EvaluationTicket) (best : CandidateEvaluation) (what : Text) :
    (lost policy kind).ruleValues ticket best kind missing what =
      .error (ticket.suppress .evidenceUnknown SuppressionReason.evidenceUnknown.outcome
        (Text.concat [what, " rule lacks current evidence for ", kind.text])) := by
  obtain ⟨requirement, hfound⟩ := Option.isSome_iff_exists.1 hdeclared
  have hkind := PolicySemantics.findRequirement_kind hfound
  have hfound' : (lost policy kind).policy.semantics.findRequirement kind = some requirement := hfound
  unfold ruleValues
  rw [hfound', hcurrent]
  dsimp only
  rw [lost_missing hkind, lost_missing hkind]

theorem lost_crosses (hvalid : policy.semantics.check = .ok ()) {rule : ThresholdRule}
    (hrule : rule ∈ policy.semantics.thresholds) :
    (lost policy kind).Crosses policy.semantics.challenger rule ↔ rule.kind ≠ kind := by
  constructor
  · rintro ⟨current, _, hcurrent, -⟩ rfl
    exact lost_unmeasured _ current hcurrent
  · intro hother
    obtain ⟨current, value, hcurrent, hvalue, hdeparts, henters⟩ := contest_crosses hvalid hrule
    exact ⟨current, value, lost_measures hother hcurrent, lost_measures hother hvalue, hdeparts, henters⟩

theorem lost_improves (hvalid : policy.semantics.check = .ok ()) {rule : ImprovementRule}
    (hrule : rule ∈ policy.semantics.improvements) :
    (lost policy kind).Improves policy.semantics.challenger rule ↔ rule.kind ≠ kind := by
  constructor
  · rintro ⟨current, _, _, hcurrent, -⟩ rfl
    exact lost_unmeasured _ current hcurrent
  · intro hother
    obtain ⟨current, value, improvement, hcurrent, hvalue, hdefined, henough⟩ :=
      contest_improves hvalid hrule
    exact ⟨current, value, improvement, lost_measures hother hcurrent, lost_measures hother hvalue,
      hdefined, henough⟩

/-- The gates refuse the challenger for want of the metric a rule reads. -/
theorem lost_gates (hvalid : policy.semantics.check = .ok ())
    (hreads : (∃ rule ∈ policy.semantics.thresholds, rule.kind = kind) ∨
      ∃ rule ∈ policy.semantics.improvements, rule.kind = kind)
    {current : CandidateRecord} (hcurrent : (lost policy kind).currentBinding = some current)
    {best : CandidateEvaluation} (hbest : best.path = policy.semantics.challenger)
    (ticket : EvaluationTicket) : ∃ refused,
      (lost policy kind).ordinaryGates best ticket = .error refused ∧
        refused.SuppressedOver kind := by
  have hpath := (currentBinding_path hcurrent).2
  have hcovers := PolicySemantics.covers hvalid
  have hthresholds (ticket : EvaluationTicket) (rule : ThresholdRule) :=
    @thresholdGate_returns (lost policy kind) current best ticket hcurrent hpath rule
  have himprovements (ticket : EvaluationTicket) (rule : ImprovementRule) :=
    @improvementGate_returns (lost policy kind) current best ticket hcurrent hpath rule
  rw [hbest] at hthresholds himprovements
  obtain ⟨t₁, h₁⟩ := (@holdDownGate_returns (lost policy kind) best ticket).2
    fun h => by cases h.2.active
  obtain ⟨t₂, h₂⟩ := (@cooldownGate_returns (lost policy kind) t₁).2 fun h => by cases h.active
  unfold ordinaryGates
  rw [bind_of h₁, bind_of h₂]
  by_cases hthreshold : ∃ rule ∈ policy.semantics.thresholds, rule.kind = kind
  · obtain ⟨first, hfirst, hkind⟩ := hthreshold
    obtain ⟨rule, hrule, t, refused, hends, hrefused, hfold⟩ := foldlM_refused hthresholds t₂
      ⟨first, hfirst, fun h => (lost_crosses hvalid hfirst).1 h hkind⟩
    obtain rfl : rule.kind = kind := not_not.1 fun hother => hends ((lost_crosses hvalid hrule).2 hother)
    refine ⟨refused, bind_of_error hfold, ?_⟩
    unfold thresholdGate at hrefused
    rw [bind_of_error (lost_ruleValues (hcovers.thresholds rule hrule) hcurrent _ _ _ _)] at hrefused
    cases hrefused
    exact suppressedOver_of rfl (by simp [MetricKind.wants])
  · obtain ⟨t₃, h₃⟩ := (Returns.foldlM_iff hthresholds t₂ policy.semantics.thresholds).2
      fun rule hrule => (lost_crosses hvalid hrule).2 fun hkind => hthreshold ⟨rule, hrule, hkind⟩
    obtain ⟨first, hfirst, hkind⟩ := hreads.resolve_left hthreshold
    obtain ⟨rule, hrule, t, refused, hends, hrefused, hfold⟩ := foldlM_refused himprovements t₃
      ⟨first, hfirst, fun h => (lost_improves hvalid hfirst).1 h hkind⟩
    obtain rfl : rule.kind = kind := not_not.1 fun hother => hends ((lost_improves hvalid hrule).2 hother)
    refine ⟨refused, (bind_of h₃).trans (bind_of_error hfold), ?_⟩
    unfold improvementGate at hrefused
    rw [bind_of_error (lost_ruleValues (hcovers.improvements rule hrule) hcurrent _ _ _ _)] at hrefused
    cases hrefused
    exact suppressedOver_of rfl (by simp [MetricKind.wants])

/-- So the verdict is suppressed for want of the metric. -/
theorem lost_suppressed (hvalid : policy.semantics.check = .ok ())
    (hwaives : policy.semantics.Waives kind)
    (hterms : ∀ term ∈ policy.semantics.objective.terms, term.kind ≠ kind)
    (hreads : (∃ rule ∈ policy.semantics.thresholds, rule.kind = kind) ∨
      ∃ rule ∈ policy.semantics.improvements, rule.kind = kind)
    (dependencies : DependencySnapshot) :
    ((lost policy kind).evaluate dependencies).SuppressedOver kind := by
  have hrank := lost_rank hvalid hwaives hterms
  have htop : (lost policy kind).topRanked = some ((contest policy).evaluateCandidate
      (rival policy.semantics.target policy.semantics.challenger)) := by
    unfold topRanked
    rw [hrank]
    exact contest_top hvalid
  have hincumbent := (contest_departs hvalid).incumbent
  have heligible : (lost policy kind).currentEligible (lost policy kind).rank = true := by
    refine (@currentEligible_iff (lost policy kind) rfl (contest_canonical policy).paths).2 ?_
    rw [hrank]
    exact hincumbent
  obtain ⟨current, hcurrent⟩ := currentBinding_of heligible
  have hpath := evaluateCandidate_path (contest policy)
    (rival policy.semantics.target policy.semantics.challenger)
  have hcalm : (lost policy kind).emergencyReason = none := contest_calm policy
  have hexit := (lost policy kind).evaluate_exits dependencies
  generalize (lost policy kind).evaluate dependencies = ticket at hexit
  cases hexit with
  | nothing top =>
    rw [htop] at top
    cases top
  | barred _ first | established _ first => cases first
  | merit top _ same =>
    cases htop.symm.trans top
    exact absurd (hpath.symm.trans same) policy.semantics.challenger_ne
  | incumbent _ _ ineligible =>
    rw [heligible] at ineligible
    cases ineligible
  | refused challenged _ _ gate =>
    cases htop.symm.trans challenged.top
    obtain ⟨refused, hrefused, hsuppressed⟩ := lost_gates hvalid hreads hcurrent hpath _
    cases hrefused.symm.trans gate
    exact hsuppressed
  | adapted challenged _ _ gates =>
    cases htop.symm.trans challenged.top
    obtain ⟨refused, hrefused, -⟩ := lost_gates hvalid hreads hcurrent hpath _
    cases hrefused.symm.trans gates
  | overridden _ emergency | escaped _ emergency =>
    rw [hcalm] at emergency
    cases emergency

end

end EvaluationInputs

/-- The evidence of the metric can go for any paths, whatever the evaluation of the policy. -/
def AdaptivePolicy.Spares (policy : AdaptivePolicy) (kind : MetricKind) : Prop :=
  ∀ inputs : EvaluationInputs, inputs.policy = policy → inputs.Canonical →
    ∀ paths, inputs.Spares kind paths

open EvaluationInputs in
/-- The absence of an optional metric blocks nothing exactly when neither the objective nor a trigger
of the policy reads the metric. -/
theorem optional_spares_iff {policy : AdaptivePolicy} {requirement : EvidenceRequirement}
    (hvalid : policy.semantics.check = .ok ()) (hdeclared : requirement ∈ policy.semantics.evidence)
    (hoptional : requirement.required = false) :
    policy.Spares requirement.kind ↔ policy.semantics.reads requirement.kind = false := by
  have hwaives : policy.semantics.Waives requirement.kind := fun other hother hkind => by
    rw [State.requirement_unique hvalid hother hdeclared hkind, hoptional]
  constructor
  · intro h
    have hspares := h (contest policy) rfl (contest_canonical policy) fun _ => true
    have hterms : ∀ term ∈ policy.semantics.objective.terms, term.kind ≠ requirement.kind := by
      intro term hterm hkind
      have hlost := hspares.candidates _ List.mem_cons_self
        (contest_eligible hvalid policy.semantics.challenger_mem)
      rw [← hkind, ineligible_without (supply_ordered _) hterm rfl] at hlost
      cases hlost
    by_contra hreads
    refine hspares.verdict {} (contest_adapts hvalid {})
      (lost_suppressed hvalid hwaives hterms ?_ {})
    by_contra hunread
    refine hreads (PolicySemantics.reads_false.2 ⟨hterms, fun rule hrule hkind => ?_,
      fun rule hrule hkind => ?_⟩)
    · exact hunread (.inl ⟨rule, hrule, hkind⟩)
    · exact hunread (.inr ⟨rule, hrule, hkind⟩)
  · rintro hunread inputs rfl hcanonical paths
    exact spares_of_unread hcanonical hwaives hunread

namespace Scenario

/-- The latency decides; the utilization is optional. -/
def relaxed (thresholds : List ThresholdRule) : PolicySemantics :=
  { semantics with
    thresholds
    evidence := [{ ewmaAlphaBps := 0, maxAge := 1000 },
      { kind := .pathUtilization, ewmaAlphaBps := 0, maxAge := 1000, required := false }] }

/-- A first preference needs a utilization of at most a half. -/
def halfFull : ThresholdRule where
  switchValue := (MetricValue.make .pathUtilization 9000).getD default
  clearValue := (MetricValue.make .pathUtilization 5000).getD default

def measure (path : PathId) : Op :=
  .publishEvidence (fun _ => 1) {
    publications := [{ source := name "source", sourceGeneration := ⟨1⟩, path, value := latency 100
                       observationSequence := 1 },
      { source := name "source", sourceGeneration := ⟨1⟩, path
        value := (MetricValue.make .pathUtilization 1000).getD default, observationSequence := 1 }]
    context := context 1 "measure" }

/-- The left path has a latency and a utilization. -/
def measured (thresholds : List ThresholdRule) : List Op :=
  [register, .createPolicy 0 { create 1 with semantics := relaxed thresholds }, activate,
    notify (declare left) "left", measure left]

end Scenario

open Scenario in
/-- The objective reads the latency only, and there is no threshold. -/
theorem unread_spared : ∃ record, (after (measured [])).state.policies[policy]? = some record ∧
    record.policy.Spares .pathUtilization := by
  obtain ⟨record, hrecord, hsemantics⟩ : ∃ record,
      (after (measured [])).state.policies[policy]? = some record ∧
        (record.policy.semantics == relaxed []) = true :=
    (Option.any_eq_true _ _).1 (by decide +kernel)
  rw [beq_iff_eq] at hsemantics
  have hvalid : record.policy.semantics.check = .ok () := by
    rw [hsemantics]
    rfl
  obtain ⟨requirement, hdeclared, hkind, hoptional⟩ : ∃ requirement ∈ record.policy.semantics.evidence,
      requirement.kind = .pathUtilization ∧ requirement.required = false := by
    rw [hsemantics]
    exact ⟨_, List.mem_cons_of_mem _ List.mem_cons_self, rfl, rfl⟩
  refine ⟨record, hrecord, hkind ▸ (optional_spares_iff hvalid hdeclared hoptional).2 ?_⟩
  rw [hsemantics, hkind]
  rfl

open Scenario in
/-- The threshold wants the utilization, though it is optional. -/
theorem threshold_wants_optional : Engine.Reachable config (after (measured [halfFull])) ∧
    ∃ record, (after (measured [halfFull])).state.policies[policy]? = some record ∧
      record.policy.semantics.check = .ok () ∧
      (∃ requirement ∈ record.policy.semantics.evidence,
        requirement.kind = .pathUtilization ∧ requirement.required = false) ∧
      let inputs := (after (measured [halfFull])).state.copyInputs 2 default record
      (inputs.evaluate {}).lifecycle = .eligible ∧
        ((inputs.without .pathUtilization fun _ => true).evaluate {}).SuppressedOver
          .pathUtilization ∧
        ¬ record.policy.Spares .pathUtilization := by
  obtain ⟨record, hrecord, htest⟩ : ∃ record,
      (after (measured [halfFull])).state.policies[policy]? = some record ∧
        (let inputs := (after (measured [halfFull])).state.copyInputs 2 default record
        let ticket := (inputs.without .pathUtilization fun _ => true).evaluate {}
        record.policy.semantics == relaxed [halfFull] &&
          (inputs.evaluate {}).lifecycle == .eligible && ticket.lifecycle == .suppressed &&
          ticket.suppression.isEvidence &&
          MetricKind.pathUtilization.wants.contains ticket.detail) = true :=
    (Option.any_eq_true _ _).1 (by decide +kernel)
  simp only [Bool.and_eq_true, beq_iff_eq, List.contains_iff_mem] at htest
  obtain ⟨⟨⟨⟨hsemantics, heligible⟩, hlifecycle⟩, hreason⟩, hdetail⟩ := htest
  have hreachable : Engine.Reachable config (after (measured [halfFull])) :=
    reachable_after (by decide +kernel)
  have hvalid : record.policy.semantics.check = .ok () := by
    rw [hsemantics]
    rfl
  have hsuppressed : EvaluationTicket.SuppressedOver _ .pathUtilization :=
    ⟨hlifecycle, hreason, fun _ hother => MetricKind.wants_injective hdetail hother⟩
  refine ⟨hreachable, record, hrecord, hvalid, ?_, heligible, hsuppressed, fun hspares => ?_⟩
  · rw [hsemantics]
    exact ⟨_, List.mem_cons_of_mem _ List.mem_cons_self, rfl, rfl⟩
  · have hcanonical := State.copyInputs_canonical hvalid
      (Ordered.reachable hreachable policy record hrecord)
      (after (measured [halfFull])).state 2 default
    exact (hspares _ rfl hcanonical fun _ => true).verdict {} heligible hsuppressed

end AdaptiveRouting
