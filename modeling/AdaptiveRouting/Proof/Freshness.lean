import AdaptiveRouting.Proof.Counters
import AdaptiveRouting.Proof.Dependencies
import AdaptiveRouting.Proof.Generations

/-!
# Freshness at a commit

Phase one looks up every required metric of a candidate before the candidate is eligible
(`Aims.looksUp`). Phase two compares the evidence generation, which fixes the evidence within an
epoch (`Holding.run`), and the candidates' paths and the policy generation, which fix what is looked
up. It does not compare the clock: a required metric of the installed target is still current exactly
when its age at the commit is within the bound (`commit_keeps_evidence_iff`).
-/

namespace AdaptiveRouting

open Guard Engine

/-! ## Lookups -/

/-- The resolved evidence satisfies a requirement, its age apart. -/
structure ResolvedEvidence.Supports (resolved : ResolvedEvidence) (requirement : EvidenceRequirement) :
    Prop where
  valid : resolved.aggregate.valid = true
  quality : requirement.minQuality.rank ≤ resolved.quality.rank
  samples : requirement.minSamples ≤ resolved.aggregate.sampleCount
  window : requirement.minWindow ≤ resolved.aggregate.window

namespace EvaluationInputs

section
variable {inputs : EvaluationInputs} {path : PathId} {requirement : EvidenceRequirement}

theorem lookupMetric_ok_iff : (∃ value, inputs.lookupMetric path requirement = .ok value) ↔
    ∃ resolved, inputs.evidence.find path requirement.kind = some resolved ∧
      resolved.Supports requirement ∧ resolved.aggregate.age inputs.now ≤ requirement.maxAge := by
  constructor
  · intro h
    obtain ⟨value, h⟩ := h
    obtain ⟨resolved, hfound, h⟩ := bind_ok h
    obtain ⟨hvalid, h⟩ := seq_ok h
    obtain ⟨hquality, h⟩ := seq_ok h
    obtain ⟨hsamples, h⟩ := seq_ok h
    obtain ⟨hage, h⟩ := seq_ok h
    obtain ⟨hwindow, -⟩ := seq_ok h
    simp only [decide_eq_false_iff_not, UInt64.not_lt, UInt32.not_lt, Nat.not_lt, Bool.not_eq_false']
      at hvalid hquality hsamples hage hwindow
    exact ⟨resolved, orRefuse_ok hfound, ⟨hvalid, hquality, hsamples, hwindow⟩, hage⟩
  · intro h
    obtain ⟨resolved, hfound, hsupports, hage⟩ := h
    refine ⟨(resolved.aggregate.value, resolved.quality), ?_⟩
    unfold lookupMetric
    rw [bind_of (orRefuse_of hfound)]
    dsimp only
    rw [seq_of (by simp [hsupports.valid]), seq_of (by simpa using hsupports.quality),
      seq_of (by simpa using hsupports.samples), seq_of (by simpa using hage),
      seq_of (by simpa using hsupports.window)]
    rfl

/-- A fold over the requirements that ends without a rejection found every required metric. -/
theorem gate_looksUp (requirements : List EvidenceRequirement) (rejection : Option SuppressionReason)
    (weakest : Nat) (h : (requirements.foldl (fun (rejection, weakest) requirement =>
      match inputs.lookupMetric path requirement with
      | .ok (_, quality) => (rejection, min weakest quality.rank)
      | .error reason => (if requirement.required then some reason else rejection, weakest))
      (rejection, weakest)).1 = none) :
    rejection = none ∧ ∀ requirement ∈ requirements, requirement.required = true →
      ∃ value, inputs.lookupMetric path requirement = .ok value := by
  induction requirements generalizing rejection weakest with
  | nil => exact ⟨h, by simp⟩
  | cons r rest ih =>
    rw [List.foldl_cons] at h
    cases hlookup : inputs.lookupMetric path r with
    | ok value =>
      simp only [hlookup] at h
      obtain ⟨hnone, hrest⟩ := ih _ _ h
      refine ⟨hnone, ?_⟩
      simp only [List.forall_mem_cons]
      exact ⟨fun _ => ⟨value, hlookup⟩, hrest⟩
    | error reason =>
      simp only [hlookup] at h
      obtain ⟨hnone, hrest⟩ := ih _ _ h
      by_cases hrequired : r.required = true
      · simp [hrequired] at hnone
      · simp only [hrequired, if_false, Bool.false_eq_true] at hnone
        refine ⟨hnone, ?_⟩
        simp only [List.forall_mem_cons]
        exact ⟨fun hr => absurd hr hrequired, hrest⟩

/-- An eligible candidate has every required metric. -/
theorem evaluateCandidate_looksUp {candidate : CandidateRecord}
    (h : (inputs.evaluateCandidate candidate).eligible = true) :
    ∀ requirement ∈ inputs.policy.semantics.evidence, requirement.required = true →
      ∃ value, inputs.lookupMetric candidate.binding.path requirement = .ok value := by
  have hgate : (inputs.evidenceGate candidate.binding.path).1 = none := by
    unfold evaluateCandidate at h
    dsimp only at h
    split at h
    · cases h
    · split at h
      · cases h
      · rename_i hgate
        rw [hgate]
  exact (gate_looksUp _ none 4 hgate).2

/-- What an eligible ticket aims at has every required metric. -/
theorem Aims.looksUp (h : inputs.Aims path) :
    ∀ requirement ∈ inputs.policy.semantics.evidence, requirement.required = true →
      ∃ value, inputs.lookupMetric path requirement = .ok value := by
  obtain ⟨best, hrank, heligible, rfl, -⟩ := h
  obtain ⟨candidate, -, rfl⟩ := inputs.mem_rank hrank
  rw [inputs.evaluateCandidate_path candidate]
  exact evaluateCandidate_looksUp heligible

end

end EvaluationInputs

/-! ## What a lookup reads -/

namespace State

section
variable {s s' : State} {record record' : PolicyRecord}

/-- The series of a path are chosen from the evidence of the path. -/
theorem chooseSeries_congr {path : PathId}
    (h : ∀ key : EvidenceKey, key.path = path → s'.evidence[key]? = s.evidence[key]?)
    (requirement : EvidenceRequirement) :
    s'.chooseSeries path requirement = s.chooseSeries path requirement := by
  unfold chooseSeries
  refine Pointwise.foldl_toList_congr (fun key => key.path == path) (fun key hkey => ?_)
    (fun chosen entry hother => ?_) none
  · exact h key (beq_iff_eq.1 hkey)
  · simp only [bne, hother, Bool.not_false, Bool.true_or, if_true]

/-- The lookups read the evidence of the paths, the paths and the requirements. -/
theorem resolveEvidence_congr
    (hevidence : ∀ key : EvidenceKey, key.path ∈ record.paths →
      s'.evidence[key]? = s.evidence[key]?)
    (hpaths : record'.paths = record.paths)
    (hsemantics : record'.policy.semantics = record.policy.semantics) :
    s'.resolveEvidence record' = s.resolveEvidence record := by
  have hresolve (s : State) (record : PolicyRecord) : s.resolveEvidence record =
      record.paths.flatMap fun path => record.policy.semantics.evidence.filterMap fun requirement =>
        (s.aggregateFor path requirement).map fun entry =>
          { path, kind := requirement.kind, quality := entry.2.quality, source := entry.2.source
            sourceGeneration := entry.2.sourceGeneration, aggregate := entry.1 } := by
    unfold resolveEvidence PolicyRecord.paths
    rw [List.flatMap_map]
  rw [hresolve, hresolve, hpaths, hsemantics]
  refine List.flatMap_congr fun path hpath => ?_
  have haggregate : s'.aggregateFor path = s.aggregateFor path := by
    funext requirement
    unfold aggregateFor
    rw [chooseSeries_congr fun key hkey => hevidence key (by rwa [hkey])]
  rw [haggregate]

/-- So the evidence a capture finds is the same at any time. -/
theorem captureEvidence_find
    (hevidence : ∀ key : EvidenceKey, key.path ∈ record.paths →
      s'.evidence[key]? = s.evidence[key]?)
    (hpaths : record'.paths = record.paths)
    (hsemantics : record'.policy.semantics = record.policy.semantics) (now now' : Ticks)
    (id id' : EvidenceSnapshotId) (path : PathId) (kind : MetricKind) :
    (s'.captureEvidence now' id' record').find path kind =
      (s.captureEvidence now id record).find path kind := by
  unfold captureEvidence EvidenceSnapshot.finish EvidenceSnapshot.find
  dsimp only
  rw [resolveEvidence_congr hevidence hpaths hsemantics]

end

/-- The path has every required metric of the policy at a clock reading. -/
def Evidenced (s : State) (now : Ticks) (record : PolicyRecord) (path : PathId) : Prop :=
  ∀ requirement ∈ record.policy.semantics.evidence, requirement.required = true →
    ∃ value, (s.copyInputs now default record).lookupMetric path requirement = .ok value

/-- No evidence the state has for a required metric of the path is over its age at a clock reading. -/
def InTime (s : State) (now : Ticks) (record : PolicyRecord) (path : PathId) : Prop :=
  ∀ requirement ∈ record.policy.semantics.evidence, requirement.required = true →
    ∀ resolved, (s.captureEvidence now default record).find path requirement.kind = some resolved →
      resolved.aggregate.age now ≤ requirement.maxAge

/-- Evidence that was good enough is at another reading exactly when it is in time. -/
theorem evidenced_iff_inTime {s s' : State} {record record' : PolicyRecord} {path : PathId}
    {begun now : Ticks} {id : EvidenceSnapshotId}
    (hlooked : ∀ requirement ∈ record.policy.semantics.evidence, requirement.required = true →
      ∃ value, (s.copyInputs begun id record).lookupMetric path requirement = .ok value)
    (hevidence : s'.evidence = s.evidence) (hpaths : record'.paths = record.paths)
    (hsemantics : record'.policy.semantics = record.policy.semantics) :
    s'.Evidenced now record' path ↔ s.InTime now record path := by
  have hkeys : ∀ key : EvidenceKey, key.path ∈ record.paths →
      s'.evidence[key]? = s.evidence[key]? := fun key _ => by rw [hevidence]
  have hfind (kind : MetricKind) := captureEvidence_find hkeys hpaths hsemantics now now default
    default path kind
  have hbegun (kind : MetricKind) :=
    @captureEvidence_find s s record record (fun _ _ => rfl) rfl rfl now begun default id path kind
  unfold Evidenced InTime
  rw [hsemantics]
  refine forall_congr' fun requirement => forall_congr' fun hin => forall_congr' fun hrequired => ?_
  rw [EvaluationInputs.lookupMetric_ok_iff]
  obtain ⟨resolved, hfound, hsupports, -⟩ :=
    EvaluationInputs.lookupMetric_ok_iff.1 (hlooked requirement hin hrequired)
  have hthen : (s.captureEvidence now default record).find path requirement.kind = some resolved :=
    (hbegun requirement.kind).symm.trans hfound
  have hnow : (s'.captureEvidence now default record').find path requirement.kind = some resolved :=
    (hfind requirement.kind).trans hthen
  constructor
  · intro h found hsame
    obtain ⟨current, hcurrent, -, hage⟩ := h
    cases hnow.symm.trans hcurrent
    cases hthen.symm.trans hsame
    exact hage
  · intro h
    exact ⟨resolved, hnow, hsupports, h resolved hthen⟩

end State

/-! ## Evidence held -/

/-- What phase two relies on between the phases: no store of an earlier epoch is recovered, and no
samples are accepted that have no evidence generation to count them. -/
structure Counted (config : EngineConfig) (epoch : CoordinatorEpoch) (e : Engine) (op : Op) : Prop where
  recovery : RecoversFrom config.limits epoch e op
  publication : ∀ clock request fingerprint, op = .publishEvidence clock request →
    e.state.publishChecks config.limits request = .ok fingerprint →
    e.state.evidenceGeneration.next ≠ none

/-- Past an epoch, or past an evidence generation within it, or with the evidence of both. -/
def Holding (epoch : CoordinatorEpoch) (generation : EvidenceGeneration)
    (evidence : Std.ExtTreeMap EvidenceKey EvidenceSeries) (s : State) : Prop :=
  epoch < s.epoch ∨ epoch = s.epoch ∧
    (generation < s.evidenceGeneration ∨ generation = s.evidenceGeneration ∧ s.evidence = evidence)

section
variable {config : EngineConfig} {e e' : Engine} {op : Op} {answer : Answer}
  {epoch : CoordinatorEpoch} {generation : EvidenceGeneration}
  {evidence : Std.ExtTreeMap EvidenceKey EvidenceSeries}

/-- A counted step keeps the evidence, or moves its generation. -/
theorem step_evidence (hop : Counted config epoch e op) (h : e.step config op = some (e', answer))
    (hrecovers : op.recovers config.limits = none) :
    e.state.evidenceGeneration < e'.state.evidenceGeneration ∨
      e.state.evidenceGeneration = e'.state.evidenceGeneration ∧
        e'.state.evidence = e.state.evidence := by
  cases step_gauges h hrecovers with
  | kept same =>
    exact .inr ⟨(State.evidenceGeneration_of_gauges same).symm, State.evidence_of_gauges same⟩
  | notified notifies notified =>
    have hgeneration := congrArg Gauges.evidenceGeneration notified.evidence
    have hevidence := congrArg Gauges.evidence notified.evidence
    exact .inr ⟨hgeneration.symm, hevidence⟩
  | @published clock request outcome publishes answers effect =>
    subst publishes
    cases effect with
    | refused _ same => exact .inr (by simp [same])
    | exhausted _ last =>
      cases hchecks : e.state.publishChecks config.limits request with
      | ok fingerprint => exact absurd last (hop.publication _ _ _ rfl hchecks)
      | error refusal =>
        have hsame : e'.state = e.state := by
          cases h
          exact congrArg Prod.fst (State.publishEvidence_refused hchecks clock)
        exact .inr (by simp [hsame])
    | published _ next counts =>
      refine .inl ?_
      rw [counts]
      exact Generation.lt_next next

theorem Holding.step (hs : Holding epoch generation evidence e.state)
    (hop : Counted config epoch e op) (h : e.step config op = some (e', answer)) :
    Holding epoch generation evidence e'.state := by
  cases hrecovers : op.recovers config.limits with
  | some durable =>
    obtain ⟨next, hnext, hepoch⟩ := step_recovers h hrecovers
    refine .inl ?_
    rw [hepoch]
    exact UInt64.lt_of_le_of_lt (hop.recovery durable hrecovers) (Generation.lt_next hnext)
  | none =>
    have hgrows : e.state.epoch ≤ e'.state.epoch := (step_grows h hrecovers).epoch
    rcases hs with hlt | ⟨rfl, hs⟩
    · exact .inl (UInt64.lt_of_lt_of_le hlt hgrows)
    · by_cases hsame : e.state.epoch = e'.state.epoch
      · refine .inr ⟨hsame, ?_⟩
        rcases step_evidence hop h hrecovers with hmoved | ⟨hgeneration, hevidence⟩
        · rcases hs with hlt | ⟨rfl, -⟩
          · exact .inl (UInt64.lt_trans hlt hmoved)
          · exact .inl hmoved
        · rw [← hgeneration, hevidence]
          exact hs
      · refine .inl ?_
        rw [Generation.eq_iff_toNat] at hsame
        rw [Generation.le_iff_toNat] at hgrows
        rw [Generation.lt_iff_toNat]
        omega

theorem Holding.run (hs : Holding epoch generation evidence e.state)
    (h : RunUnder config (Counted config epoch) e e') :
    Holding epoch generation evidence e'.state :=
  h.inv (I := fun e => Holding epoch generation evidence e.state)
    (fun _ _ _ _ hop hs hstep => hs.step hop hstep) hs

/-- At the epoch and the evidence generation it had, the state has the evidence it had. -/
theorem holding_at {s s' : State} (h : Holding s.epoch s.evidenceGeneration s.evidence s')
    (hepoch : s'.epoch = s.epoch) (hgeneration : s'.evidenceGeneration = s.evidenceGeneration) :
    s'.evidence = s.evidence := by
  rcases h with hlt | ⟨-, hlt | ⟨-, hsame⟩⟩
  · rw [hepoch] at hlt
    exact absurd hlt (UInt64.lt_irrefl _)
  · rw [hgeneration] at hlt
    exact absurd hlt (UInt64.lt_irrefl _)
  · exact hsame

/-- The semantics stay, or the policy generation passes. -/
def PolicyRecord.Redeclares (r before : PolicyRecord) : Prop :=
  before.policy.generation < r.policy.generation ∨
    before.policy.generation = r.policy.generation ∧ r.policy.semantics = before.policy.semantics

theorem RecordChange.redeclares {policy : AdaptivePolicyId} {before record record' : PolicyRecord}
    (h : RecordChange config e op policy record record') (hr : record.Redeclares before) :
    record'.Redeclares before := by
  rcases h.declares with ⟨hgeneration, -, hsemantics⟩ | hredeclared
  · unfold PolicyRecord.Redeclares
    rw [hgeneration, hsemantics]
    exact hr
  · have hnext := Generation.lt_next hredeclared.next
    rcases hr with hlt | ⟨heq, -⟩
    · exact .inl (UInt64.lt_trans hlt hnext)
    · exact .inl (by rw [heq]; exact hnext)

end

/-- Candidates without drift have the paths of the snapshot. -/
theorem dependencyDrift_paths {candidates : List CandidateRecord} {snapshot : DependencySnapshot}
    (h : dependencyDrift candidates snapshot = none) :
    candidates.map (·.binding.path) = snapshot.candidates := by
  obtain ⟨hlength, -⟩ := dependencyDrift_none h
  unfold dependencyDrift at h
  rw [if_neg (by simp [hlength])] at h
  refine List.ext_getElem? fun index => ?_
  rw [List.getElem?_map]
  cases hcandidate : candidates[index]? with
  | none =>
    rw [List.getElem?_eq_none_iff] at hcandidate
    rw [Option.map_none, eq_comm, List.getElem?_eq_none_iff]
    omega
  | some candidate =>
    have hdrift := List.findSome?_eq_none_iff.1 h (candidate, index)
      (List.mk_mem_zipIdx_iff_getElem?.2 hcandidate)
    dsimp only at hdrift
    unfold candidateDrift at hdrift
    dsimp only at hdrift
    split at hdrift
    · cases hdrift
    · rename_i hsame
      simpa using (Decidable.not_not.1 hsame).symm

/-! ## Commits -/

/-- An eligible ticket that passes the comparisons has the evidence generation of the state. -/
theorem State.commitChecks_evidence {s : State} {request : CommitDecisionRequest}
    {record : PolicyRecord} (h : s.commitChecks request = .ok record)
    (heligible : request.ticket.lifecycle = .eligible) :
    s.evidenceGeneration = request.ticket.dependencies.evidenceGeneration := by
  unfold commitChecks at h
  obtain ⟨-, h⟩ := seq_ok h
  obtain ⟨-, h⟩ := seq_ok h
  obtain ⟨_, -, h⟩ := bind_ok h
  obtain ⟨_, -, h⟩ := bind_ok h
  obtain ⟨-, h⟩ := seq_ok h
  obtain ⟨-, h⟩ := seq_ok h
  obtain ⟨-, h⟩ := seq_ok h
  obtain ⟨-, h⟩ := seq_ok h
  obtain ⟨hgeneration, -⟩ := seq_ok h
  simpa [heligible] using hgeneration

/-- A commit keeps the candidates and the policy of the record. -/
theorem CommitEffect.keeps_record {limits : Limits} {s s' : State} {now : Ticks}
    {request : CommitDecisionRequest} {outcome : Outcome} {record record' : PolicyRecord}
    (h : CommitEffect limits s now request s' outcome)
    (hfound : s.policies[request.ticket.dependencies.policy]? = some record)
    (hfound' : s'.policies[request.ticket.dependencies.policy]? = some record') :
    record'.candidates = record.candidates ∧ record'.policy = record.policy := by
  have hsame {policies : Std.ExtTreeMap AdaptivePolicyId PolicyRecord}
      (hget : policies[request.ticket.dependencies.policy]? = some record')
      (hpolicies : policies = s.policies) :
      record'.candidates = record.candidates ∧ record'.policy = record.policy := by
    rw [hpolicies, hfound] at hget
    cases hget
    exact ⟨rfl, rfl⟩
  have hchecked {checked : PolicyRecord} (hchecks : s.commitChecks request = .ok checked) :
      checked = record := by
    obtain ⟨_, haccepted⟩ := State.commitChecks_ok hchecks
    exact Option.some.inj (haccepted.found.symm.trans hfound)
  cases h with
  | refused => exact hsame hfound' rfl
  | unverified => exact hsame hfound' rfl
  | unchanged => exact hsame hfound' (by simp)
  | suppressed checks =>
    obtain rfl := hchecked checks
    simp only [State.recordAttempt_policies, State.journal_policies, State.putRecord_policies,
      Std.ExtTreeMap.getElem?_insert_self, Option.some.injEq] at hfound'
    subst hfound'
    exact ⟨rfl, rfl⟩
  | committed checks =>
    obtain rfl := hchecked checks
    simp only [State.recordAttempt_policies, State.journal_policies, State.putRecord_policies,
      Std.ExtTreeMap.getElem?_insert_self, Option.some.injEq] at hfound'
    subst hfound'
    exact ⟨rfl, rfl⟩

/-- The established preference of a policy has every required metric at a clock reading. -/
def EvidencedPreference (s : State) (now : Ticks) (policy : AdaptivePolicyId) : Prop :=
  ∃ record, s.policies[policy]? = some record ∧ record.preference.established = true ∧
    s.Evidenced now record record.preference.preferredPath

/-- A ticket that commits installs a target that has every required metric exactly when none of the
evidence phase one had for it is over its age at the commit. -/
theorem commit_keeps_evidence_iff {config : EngineConfig} {e e' e₁ e₂ : Engine} {begun now : Ticks}
    {request : EvaluateRequest} {ticket : EvaluationTicket} {commit : CommitDecisionRequest}
    {result : OperationResult} (hreach : Reachable config e)
    (hbegin : e.step config (.beginEvaluation begun request) = some (e', .ticket ticket))
    (hrun : RunUnder config (Counted config e.state.epoch) e' e₁)
    (hticket : commit.ticket = ticket)
    (hcommit : e₁.step config (.commitEvaluation now commit) = some (e₂, .result result))
    (hcommitted : result.outcome = .decisionCommitted) :
    EvidencedPreference e₂.state now request.policy ↔
      ∀ record, e.state.policies[request.policy]? = some record →
        e.state.InTime now record commit.ticket.targetPreference := by
  subst hticket
  obtain ⟨⟨_, _⟩, hbegun, he⟩ := Option.map_eq_some_iff.1 hbegin
  cases he
  obtain ⟨⟨e₃, _⟩, hcommits, he⟩ := Option.map_eq_some_iff.1 hcommit
  cases he
  obtain ⟨hstate, hissued⟩ := beginEvaluation_issues hbegun
  have heffect := commitEvaluation_cases hcommits
  obtain ⟨record, record', target, hinstalls⟩ :=
    commit_installs heffect hcommitted fun hineligible => by
      rcases hissued with hrefused | ⟨_, _, _, _, _, hissues⟩
      · exact hrefused.outcome
      · exact (hissues.verdict.resolve_left hineligible).2
  rcases hissued with hrefused | ⟨before, _, evaluation, _, haccepted, hissues⟩
  · cases hrefused.lifecycle.symm.trans hinstalls.eligible
  · obtain ⟨_, hpassed⟩ := State.commitChecks_ok hinstalls.checks
    have hcounted := State.commitChecks_evidence hinstalls.checks hinstalls.eligible
    have hdependencies := hissues.dependencies
    have hsubject : commit.ticket.dependencies.policy = request.policy := by
      rw [hdependencies]
      exact Keyed.reachable hreach request.policy before haccepted.found
    obtain ⟨hcandidates, hpolicy⟩ := heffect.keeps_record hpassed.found hinstalls.found
    have hfound := hpassed.found
    have hinstalled := hinstalls.found
    rw [hsubject] at hfound hinstalled
    have hepoch : e₁.state.epoch = e.state.epoch := by
      rw [hpassed.epoch, hdependencies]
      rfl
    have hgeneration : record.policy.generation = before.policy.generation := by
      rw [hpassed.generation, hdependencies]
      rfl
    -- the epoch and the evidence generation are those of phase one, so the evidence is
    have hevidence : e₃.state.evidence = e.state.evidence := by
      have hholding : Holding e.state.epoch e.state.evidenceGeneration e.state.evidence e₁.state :=
        Holding.run (.inr ⟨by rw [id, hstate], .inr ⟨by rw [id, hstate], by rw [id, hstate]⟩⟩) hrun
      rw [hdependencies] at hcounted
      rw [State.evidence_of_gauges heffect.gauges]
      exact holding_at hholding hepoch hcounted
    have hduring : During request.policy e.state.epoch (·.Redeclares before) e₁.state :=
      hrun.inv (I := fun e' => During request.policy e.state.epoch (·.Redeclares before) e'.state)
        (fun _ _ _ _ hop hd hstep => hd.step hop.recovery
          (fun _ _ _ hchange hr => hchange.redeclares hr) hstep)
        (.start hstate haccepted.found (.inr ⟨rfl, rfl⟩))
    have hsemantics : record'.policy.semantics = before.policy.semantics := by
      rw [hpolicy]
      rcases hduring with hlt | ⟨-, found, hsame, hr⟩
      · rw [hepoch] at hlt
        exact absurd hlt (UInt64.lt_irrefl _)
      · rw [hfound] at hsame
        cases hsame
        rcases hr with hlt | ⟨-, hsemantics⟩
        · rw [hgeneration] at hlt
          exact absurd hlt (UInt64.lt_irrefl _)
        · exact hsemantics
    have hpaths : record'.paths = before.paths := by
      have hdrift := hpassed.drift hinstalls.eligible
      rw [hdependencies] at hdrift
      unfold PolicyRecord.paths
      rw [hcandidates]
      exact dependencyDrift_paths hdrift
    have hpreferred : record'.preference.preferredPath = commit.ticket.targetPreference :=
      (PolicyRecord.findCandidate_path hinstalls.installed).symm.trans
        (PolicyRecord.findCandidate_path hinstalls.candidate)
    have hiff : e₃.state.Evidenced now record' commit.ticket.targetPreference ↔
        e.state.InTime now before commit.ticket.targetPreference :=
      State.evidenced_iff_inTime (hissues.target hinstalls.eligible).looksUp hevidence hpaths
        hsemantics
    constructor
    · intro h found hsame
      obtain ⟨installed, hget, -, hevidenced⟩ := h
      cases haccepted.found.symm.trans hsame
      cases hinstalled.symm.trans hget
      rw [hpreferred] at hevidenced
      exact hiff.1 hevidenced
    · intro h
      refine ⟨record', hinstalled, hinstalls.established, ?_⟩
      rw [hpreferred]
      exact hiff.2 (h before haccepted.found)

namespace Scenario

/-- Phase two of the first ticket, long after the evidence. -/
def commitLate : Op := .commitEvaluation 2000 (phaseTwo firstTicket "late")

theorem counted_reweigh (e : Engine) (epoch : CoordinatorEpoch) :
    Counted config epoch e reweigh where
  recovery := fun _ h => by cases h
  publication := fun _ _ _ h => by cases h

end Scenario

open Scenario in
/-- A commit one tick after phase one. -/
theorem prompt_commit_keeps_evidence :
    EvidencedPreference (after (begun ++ [reweigh, commitFirst])).state 4 policy := by
  obtain ⟨_, hreweigh⟩ := step_after begun reweigh (by decide +kernel)
  obtain ⟨result, hcommit, houtcome⟩ := step_result (by decide +kernel :
    returns (begun ++ [reweigh] ++ [commitFirst]) = true) (by decide +kernel :
      answers (begun ++ [reweigh]) commitFirst
        (fun answer => answer.outcome == some .decisionCommitted) = true)
  refine (commit_keeps_evidence_iff (reachable_after (by decide +kernel)) take_first
    (.single (counted_reweigh ..) hreweigh) rfl hcommit houtcome).2 ?_
  have hcurrent : ((after challenged).state.policies[policy]?).all (fun record =>
      record.policy.semantics.evidence.all fun requirement =>
        (((after challenged).state.captureEvidence 4 default record).find firstTicket.targetPreference
          requirement.kind).all fun resolved =>
            decide (resolved.aggregate.age 4 ≤ requirement.maxAge)) = true := by decide +kernel
  intro record hrecord requirement hin _ resolved hfound
  change (after challenged).state.policies[policy]? = some record at hrecord
  change ((after challenged).state.captureEvidence 4 default record).find
    firstTicket.targetPreference requirement.kind = some resolved at hfound
  rw [hrecord, Option.all_some, List.all_eq_true] at hcurrent
  have hrequirement := hcurrent requirement hin
  rw [hfound, Option.all_some] at hrequirement
  exact of_decide_eq_true hrequirement

open Scenario in
/-- A ticket held until its evidence expired commits, and installs a target whose required metric is
out of date. -/
theorem late_commit_installs_expired :
    Engine.Reachable config (after challenged) ∧
      (after challenged).step config (phaseOne "one") = some (after begun, .ticket firstTicket) ∧
      firstTicket.emergency = false ∧
      (∃ result, (after begun).step config commitLate =
        some (after (begun ++ [commitLate]), .result result) ∧
          result.outcome = .decisionCommitted) ∧
      ¬ EvidencedPreference (after (begun ++ [commitLate])).state 2000 policy := by
  refine ⟨reachable_after (by decide +kernel), take_first, by decide +kernel,
    step_result (by decide +kernel) (by decide +kernel), ?_⟩
  intro h
  obtain ⟨record, hrecord, -, hevidenced⟩ := h
  have hexpired : ((after (begun ++ [commitLate])).state.policies[policy]?).all (fun record =>
      record.policy.semantics.evidence.any fun requirement => requirement.required &&
        ((((after (begun ++ [commitLate])).state.copyInputs 2000 default record).lookupMetric
          record.preference.preferredPath requirement).toOption).isNone) = true := by decide +kernel
  rw [hrecord, Option.all_some, List.any_eq_true] at hexpired
  obtain ⟨requirement, hin, hnone⟩ := hexpired
  rw [Bool.and_eq_true] at hnone
  obtain ⟨value, hvalue⟩ := hevidenced requirement hin hnone.1
  rw [hvalue] at hnone
  cases hnone.2

end AdaptiveRouting
