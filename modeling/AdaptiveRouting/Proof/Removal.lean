import AdaptiveRouting.Proof.Ranked
import AdaptiveRouting.Proof.Totality

/-!
# Evidence that is removed

An evaluation compared with the one on the same inputs without the evidence of a metric for some paths
(`EvaluationInputs.without`). The lookups of the other metrics are the same
(`lookupMetric_without`). So where an optional metric is in no term of the objective and in no rule of a
trigger, its evidence decides the quality of a candidate only: what is eligible stays eligible, and what
suppresses the evaluation is not for want of it (`spares_of_unread`).
-/

namespace AdaptiveRouting

open Guard

/-! ## Snapshots -/

/-- The values stand in the order of their paths and metrics, each once. -/
def EvidenceSnapshot.Ordered (s : EvidenceSnapshot) : Prop :=
  s.values.Pairwise fun a b => a.before b.path b.kind = true

/-- The snapshot without the evidence of a metric for the paths. -/
def EvidenceSnapshot.without (s : EvidenceSnapshot) (kind : MetricKind) (paths : PathId → Bool) :
    EvidenceSnapshot :=
  { s with
    bindings := s.bindings.filter fun b => !(b.kind == kind && paths b.path)
    values := s.values.filter fun value => !(value.kind == kind && paths value.path) }

namespace ResolvedEvidence

theorem before_trans {a b : ResolvedEvidence} {path : PathId} {kind : MetricKind}
    (hab : a.before b.path b.kind = true) (hb : b.before path kind = true) :
    a.before path kind = true := by
  have horder : Std.TransCmp ResolvedEvidence.order :=
    inferInstanceAs (Std.TransCmp (compareLex _ _))
  have hlast := before_eq b { b with path, kind }
  have hboth := before_eq a { b with path, kind }
  dsimp only at hlast hboth
  rw [before_eq, Ordering.isLT_iff_eq_lt] at hab
  rw [hlast, Ordering.isLT_iff_eq_lt] at hb
  rw [hboth, Ordering.isLT_iff_eq_lt]
  exact Std.TransCmp.lt_trans hab hb

theorem before_irrefl (a : ResolvedEvidence) : a.before a.path a.kind = false := by
  have horder : Std.TransCmp ResolvedEvidence.order :=
    inferInstanceAs (Std.TransCmp (compareLex _ _))
  have hself : order a a = .eq := Std.ReflCmp.compare_self
  rw [before_eq, hself]
  rfl

end ResolvedEvidence

namespace EvidenceSnapshot

section
variable {s : EvidenceSnapshot} {path : PathId} {kind : MetricKind} {paths : PathId → Bool}

/-- In order, the search finds every value. -/
theorem find_iff (h : s.Ordered) {value : ResolvedEvidence} :
    s.find path kind = some value ↔ value ∈ s.values ∧ value.path = path ∧ value.kind = kind := by
  refine ⟨find_mem, fun hvalue => ?_⟩
  obtain ⟨hmem, rfl, rfl⟩ := hvalue
  obtain ⟨index, hindex⟩ := List.mem_iff_getElem?.1 hmem
  have hpairwise := List.pairwise_iff_getElem.1 h
  have hbefore {i j : Nat} {a b : ResolvedEvidence} (hij : i < j) (ha : s.values[i]? = some a)
      (hb : s.values[j]? = some b) : a.before b.path b.kind = true := by
    obtain ⟨hi, rfl⟩ := List.getElem?_eq_some_iff.1 ha
    obtain ⟨hj, rfl⟩ := List.getElem?_eq_some_iff.1 hb
    exact hpairwise i j hi hj hij
  have hbound := Search.lowerBound_eq
    (fun i j a b hij ha hb hlast => ResolvedEvidence.before_trans (hbefore hij ha hb) hlast)
    hindex value.before_irrefl fun i a hi ha => hbefore hi ha hindex
  unfold find
  rw [hbound, hindex]
  exact if_pos ⟨rfl, rfl⟩

theorem Ordered.without (h : s.Ordered) : (s.without kind paths).Ordered := h.filter _

/-- What a search finds in the snapshot without the evidence. -/
theorem find_without (h : s.Ordered) (path : PathId) (other : MetricKind) :
    (s.without kind paths).find path other =
      if other = kind ∧ paths path = true then none else s.find path other := by
  refine Option.ext fun value => ?_
  rw [find_iff h.without]
  unfold EvidenceSnapshot.without
  rw [List.mem_filter]
  split
  · rename_i hremoved
    obtain ⟨rfl, hpath⟩ := hremoved
    refine ⟨fun hvalue => ?_, nofun⟩
    obtain ⟨⟨-, hkept⟩, rfl, hkind⟩ := hvalue
    simp [hkind, hpath] at hkept
  · rename_i hkept
    rw [find_iff h]
    refine ⟨fun hvalue => ⟨hvalue.1.1, hvalue.2⟩, fun hvalue => ⟨⟨hvalue.1, ?_⟩, hvalue.2⟩⟩
    rw [hvalue.2.1, hvalue.2.2]
    simpa [imp_iff_not_or] using hkept

end

end EvidenceSnapshot

/-- Inputs as phase one copies them: candidates of distinct paths, and the values in their order. -/
structure EvaluationInputs.Canonical (inputs : EvaluationInputs) : Prop where
  paths : (inputs.candidates.map (·.binding.path)).Nodup
  evidence : inputs.evidence.Ordered

/-- The inputs of an evaluation are canonical. -/
theorem State.copyInputs_canonical {record : PolicyRecord}
    (hcheck : record.policy.semantics.check = .ok ()) (hordered : record.Ordered) (s : State)
    (now : Ticks) (id : EvidenceSnapshotId) : (s.copyInputs now id record).Canonical := by
  have hpaths : record.paths.Nodup := Search.keys_nodup hordered
  have horder : Std.TransCmp ResolvedEvidence.order :=
    inferInstanceAs (Std.TransCmp (compareLex _ _))
  obtain ⟨hdecides, hdistinct⟩ := s.resolveEvidence_decides hcheck hpaths
  exact ⟨hpaths, hdecides.ranked_pairwise hdistinct⟩

/-! ## Evaluations -/

/-- The objective or a rule of a trigger is about the metric. -/
def PolicySemantics.reads (semantics : PolicySemantics) (kind : MetricKind) : Bool :=
  semantics.objective.terms.any (·.kind == kind) || semantics.thresholds.any (·.kind == kind) ||
    semantics.improvements.any (·.kind == kind)

theorem PolicySemantics.reads_false {semantics : PolicySemantics} {kind : MetricKind} :
    semantics.reads kind = false ↔ (∀ term ∈ semantics.objective.terms, term.kind ≠ kind) ∧
      (∀ rule ∈ semantics.thresholds, rule.kind ≠ kind) ∧
      ∀ rule ∈ semantics.improvements, rule.kind ≠ kind := by
  unfold reads
  simp only [Bool.or_eq_false_iff, List.any_eq_false, beq_iff_eq, and_assoc, ne_eq]

/-- Where the policy declares the metric, it is optional. -/
def PolicySemantics.Waives (semantics : PolicySemantics) (kind : MetricKind) : Prop :=
  ∀ requirement ∈ semantics.evidence, requirement.kind = kind → requirement.required = false

/-- The details that say that a metric has no current value. -/
def MetricKind.wants (kind : MetricKind) : List Text :=
  [Text.concat ["best candidate does not clear the declared entry threshold for ", kind.text],
    Text.concat ["threshold", " rule lacks current evidence for ", kind.text],
    Text.concat ["improvement", " rule lacks current evidence for ", kind.text]]

/-- Suppressed for want of evidence, and of no other metric. -/
structure EvaluationTicket.SuppressedOver (ticket : EvaluationTicket) (kind : MetricKind) : Prop where
  lifecycle : ticket.lifecycle = .suppressed
  suppression : ticket.suppression.isEvidence = true
  detail : ∀ other, ticket.detail ∈ other.wants → other = kind

namespace EvaluationInputs

/-- The inputs without the evidence of a metric for the paths. -/
def without (inputs : EvaluationInputs) (kind : MetricKind) (paths : PathId → Bool) :
    EvaluationInputs :=
  { inputs with evidence := inputs.evidence.without kind paths }

/-- The evidence of the metric for the paths can go: what is eligible stays so, and an eligible verdict
is not suppressed for want of it. -/
structure Spares (inputs : EvaluationInputs) (kind : MetricKind) (paths : PathId → Bool) : Prop where
  candidates : ∀ candidate ∈ inputs.candidates, (inputs.evaluateCandidate candidate).eligible = true →
    ((inputs.without kind paths).evaluateCandidate candidate).eligible = true
  verdict : ∀ dependencies, (inputs.evaluate dependencies).lifecycle = .eligible →
    ¬ ((inputs.without kind paths).evaluate dependencies).SuppressedOver kind

section
variable {inputs : EvaluationInputs} {kind : MetricKind} {paths : PathId → Bool} {path : PathId}
  {candidate : CandidateRecord}

theorem lookupMetric_without (h : inputs.evidence.Ordered) (path : PathId)
    (requirement : EvidenceRequirement) :
    (inputs.without kind paths).lookupMetric path requirement =
      if requirement.kind = kind ∧ paths path = true then .error .evidenceUnknown
      else inputs.lookupMetric path requirement := by
  have hfind := @EvidenceSnapshot.find_without inputs.evidence kind paths h path requirement.kind
  unfold lookupMetric without
  dsimp only
  rw [hfind]
  split
  · rfl
  · rfl

theorem lookupMetric_other (h : inputs.evidence.Ordered) {requirement : EvidenceRequirement}
    (hother : requirement.kind ≠ kind) :
    (inputs.without kind paths).lookupMetric path requirement =
      inputs.lookupMetric path requirement := by
  rw [lookupMetric_without h, if_neg fun hremoved => hother hremoved.1]

/-- The objective has its values without the evidence of a metric that is none of its terms. -/
theorem objectiveMetrics_without (h : inputs.evidence.Ordered)
    (hterms : ∀ term ∈ inputs.policy.semantics.objective.terms, term.kind ≠ kind)
    {metrics : List MetricValue} (hmetrics : inputs.objectiveMetrics path = .ok metrics) :
    (inputs.without kind paths).objectiveMetrics path = .ok metrics := by
  refine objectiveMetrics_ok_iff.2 ?_
  refine List.forall₂_iff_zip.2 ⟨(objectiveMetrics_ok_iff.1 hmetrics).length_eq, fun {term value} hmem => ?_⟩
  obtain ⟨requirement, quality, hfound, hlookup⟩ :=
    (List.forall₂_iff_zip.1 (objectiveMetrics_ok_iff.1 hmetrics)).2 hmem
  have hother : requirement.kind ≠ kind := by
    rw [PolicySemantics.findRequirement_kind hfound]
    exact hterms term (List.of_mem_zip hmem).1
  exact ⟨requirement, quality, hfound, (lookupMetric_other h hother).trans hlookup⟩

/-- A candidate is eligible without the evidence of an optional metric the objective has no term of. -/
theorem eligible_without (h : inputs.evidence.Ordered)
    (hwaives : inputs.policy.semantics.Waives kind)
    (hterms : ∀ term ∈ inputs.policy.semantics.objective.terms, term.kind ≠ kind)
    (heligible : (inputs.evaluateCandidate candidate).eligible = true) :
    ((inputs.without kind paths).evaluateCandidate candidate).eligible = true := by
  obtain ⟨hupstream, hgate, metrics, hmetrics, hscore⟩ := evaluateCandidate_eligible_iff.1 heligible
  refine evaluateCandidate_eligible_iff.2
    ⟨hupstream, ?_, metrics, objectiveMetrics_without h hterms hmetrics, hscore⟩
  refine evidenceGate_none_iff.2 fun requirement hmem hrequired => ?_
  have hother : requirement.kind ≠ kind := fun hkind => by
    rw [hwaives requirement hmem hkind] at hrequired
    cases hrequired
  rw [lookupMetric_other h hother]
  exact evidenceGate_none_iff.1 hgate requirement hmem hrequired

/-- So the preference stays a baseline. -/
theorem currentEligible_without (hcanonical : inputs.Canonical)
    (hestablished : inputs.preference.established = true)
    (hwaives : inputs.policy.semantics.Waives kind)
    (hterms : ∀ term ∈ inputs.policy.semantics.objective.terms, term.kind ≠ kind)
    (heligible : inputs.currentEligible inputs.rank = true) :
    (inputs.without kind paths).currentEligible (inputs.without kind paths).rank = true := by
  obtain ⟨current, hmem, hpath, heligible⟩ :=
    (currentEligible_iff hestablished hcanonical.paths).1 heligible
  obtain ⟨candidate, hcandidate, rfl⟩ := inputs.mem_rank hmem
  rw [evaluateCandidate_path] at hpath
  refine (@currentEligible_iff (inputs.without kind paths) hestablished hcanonical.paths).2
    ⟨(inputs.without kind paths).evaluateCandidate candidate, ?_, ?_, ?_⟩
  · unfold rank
    rw [List.mem_insertionSort]
    exact List.mem_map_of_mem hcandidate
  · rw [evaluateCandidate_path]
    exact hpath
  · exact eligible_without hcanonical.evidence hwaives hterms heligible

/-- Without the evidence of a metric the objective has a term of, a candidate is not eligible. -/
theorem ineligible_without (h : inputs.evidence.Ordered) {term : ObjectiveTerm}
    (hterm : term ∈ inputs.policy.semantics.objective.terms)
    (hpath : paths candidate.binding.path = true) :
    ((inputs.without term.kind paths).evaluateCandidate candidate).eligible = false := by
  by_contra heligible
  obtain ⟨-, -, metrics, hmetrics, -⟩ :=
    evaluateCandidate_eligible_iff.1 (Bool.not_eq_false _ ▸ heligible)
  have hnone := (inputs.without term.kind paths).objectiveMetrics_refusal candidate.binding.path
  rw [hmetrics, refusal_ok] at hnone
  have hfailure := List.findSome?_eq_none_iff.1 hnone.symm term hterm
  unfold termFailure at hfailure
  split at hfailure
  · cases hfailure
  · rename_i requirement hfound
    have hkind := PolicySemantics.findRequirement_kind hfound
    rw [lookupMetric_without h, if_pos ⟨hkind, hpath⟩] at hfailure
    cases hfailure

/-- An entry threshold that wants evidence wants that of its metric. -/
theorem entryDefect_wants {best : CandidateEvaluation} {rule : ThresholdRule}
    {reason : SuppressionReason} {outcome : Outcome} {detail : Text}
    (h : inputs.entryDefect best rule = some (reason, outcome, detail))
    (hreason : reason.isEvidence = true) : detail ∈ rule.kind.wants := by
  unfold entryDefect at h
  dsimp only at h
  split at h
  · cases h
    cases hreason
  · split at h
    · cases h
      exact List.mem_cons_self
    · split at h
      · cases h
      · cases h
        cases hreason

/-- A gate that wants evidence wants that of the metric of a rule. -/
theorem Blocks.wants {path : PathId} {reason : SuppressionReason} {outcome : Outcome} {detail : Text}
    (h : inputs.Blocks path reason outcome detail) (hreason : reason.isEvidence = true) :
    (∃ rule ∈ inputs.policy.semantics.thresholds, detail ∈ rule.kind.wants) ∨
      ∃ rule ∈ inputs.policy.semantics.improvements, detail ∈ rule.kind.wants := by
  cases h with
  | thresholdUnknown declared => exact .inl ⟨_, declared, by simp [MetricKind.wants]⟩
  | improvementUnknown declared => exact .inr ⟨_, declared, by simp [MetricKind.wants]⟩
  | heldDown _ named => rcases named with rfl | rfl <;> cases hreason
  | belowRequired _ named => rcases named with rfl | rfl <;> cases hreason
  | coolingDown | thresholdUndeclared | switchNotCrossed | bandNotCleared | improvementUndeclared
  | incomparable | spent => cases hreason

/-- An eligible verdict that is no emergency and replaces a preference leaves an eligible one. -/
theorem evaluate_eligible_leaves {dependencies : DependencySnapshot}
    (hestablished : inputs.preference.established = true) (hcalm : inputs.emergencyReason = none)
    (h : (inputs.evaluate dependencies).lifecycle = .eligible) :
    inputs.currentEligible inputs.rank = true := by
  have hexit := inputs.evaluate_exits dependencies
  generalize inputs.evaluate dependencies = ticket at hexit h
  cases hexit with
  | nothing | barred | merit => cases h
  | established _ first => simp [first] at hestablished
  | incumbent =>
    have hsuppressed (ticket : EvaluationTicket) :
        (inputs.incumbentTicket ticket).lifecycle = .suppressed :=
      (inputs.incumbentTicket_suppresses (rfl : ticket.core = _)).lifecycle
    rw [hsuppressed] at h
    cases h
  | refused _ _ eligible => exact eligible
  | adapted _ _ eligible => exact eligible
  | overridden _ emergency | escaped _ emergency => simp [hcalm] at emergency

/-- What no term and no rule reads blocks nothing, where it is not required. -/
theorem spares_of_unread (hcanonical : inputs.Canonical)
    (hwaives : inputs.policy.semantics.Waives kind)
    (hunread : inputs.policy.semantics.reads kind = false) : inputs.Spares kind paths := by
  obtain ⟨hterms, hthresholds, himprovements⟩ := PolicySemantics.reads_false.1 hunread
  refine ⟨fun candidate _ => eligible_without hcanonical.evidence hwaives hterms,
    fun dependencies heligible hsuppressed => ?_⟩
  have hexit := (inputs.without kind paths).evaluate_exits dependencies
  generalize (inputs.without kind paths).evaluate dependencies = ticket at hexit hsuppressed
  obtain ⟨hlifecycle, hreason, hdetail⟩ := hsuppressed
  cases hexit with
  | nothing | merit => cases hreason
  | barred _ _ declared defect =>
    exact hthresholds _ declared (hdetail _ (entryDefect_wants defect hreason))
  | incumbent challenged calm ineligible =>
    have hleaves : inputs.currentEligible inputs.rank = true :=
      evaluate_eligible_leaves challenged.established calm heligible
    rw [currentEligible_without hcanonical challenged.established hwaives hterms hleaves]
      at ineligible
    cases ineligible
  | refused challenged calm eligible gate =>
    obtain ⟨current, hcurrent⟩ := currentBinding_of eligible
    obtain ⟨passed, reason, outcome, detail, -, hblocks, rfl⟩ := ordinaryGates_refuses hcurrent gate
    rcases hblocks.wants hreason with ⟨rule, hrule, hwants⟩ | ⟨rule, hrule, hwants⟩
    · exact hthresholds rule hrule (hdetail _ hwants)
    · exact himprovements rule hrule (hdetail _ hwants)
  | established | adapted | overridden | escaped => cases hlifecycle

end

end EvaluationInputs

end AdaptiveRouting
