import AdaptiveRouting.Proof.Commit
import AdaptiveRouting.Proof.Unrelated
import AdaptiveRouting.Proof.Verdict

/-!
# One move on frozen facts

The ranking reads the evidence, the candidates, the policy and the clock, and not the preference: the
favourite of a policy stays its favourite when it is installed (`favourite_congr`). So the evaluation
after a commit finds no merit in another path exactly when the commit installed the favourite
(`committed_keeps_iff`). Phase one proposes nothing else, and evaluations at one clock reading adapt
a policy once.
-/

namespace AdaptiveRouting

open Guard Engine

/-! ## The favourite -/

/-- An evaluation without what it says about the preference. -/
def CandidateEvaluation.unlabelled (e : CandidateEvaluation) : CandidateEvaluation :=
  { e with currentPreference := false, previousPreference := false }

namespace EvaluationInputs

section
variable {inputs : EvaluationInputs} {preference : RoutingPreference} {timing : TimingState}

/-- Candidates are evaluated without regard to the preference. -/
theorem evaluateCandidate_unlabelled (candidate : CandidateRecord) :
    (({ inputs with preference, timing } : EvaluationInputs).evaluateCandidate
        candidate).unlabelled =
      (inputs.evaluateCandidate candidate).unlabelled := by
  have hgate : ({ inputs with preference, timing } : EvaluationInputs).evidenceGate
      candidate.binding.path = inputs.evidenceGate candidate.binding.path := rfl
  have hmetrics : ({ inputs with preference, timing } : EvaluationInputs).objectiveMetrics
      candidate.binding.path = inputs.objectiveMetrics candidate.binding.path := rfl
  unfold evaluateCandidate
  dsimp only
  rw [hgate, hmetrics]
  split
  · rfl
  · split
    · rfl
    · split
      · rfl
      · split
        · rfl
        · split <;> rfl

theorem rank_unlabelled :
    ({ inputs with preference, timing } : EvaluationInputs).rank.map
        CandidateEvaluation.unlabelled =
      inputs.rank.map CandidateEvaluation.unlabelled := by
  have hrank (inputs : EvaluationInputs) : inputs.rank.map CandidateEvaluation.unlabelled =
      (inputs.candidates.map fun c => (inputs.evaluateCandidate c).unlabelled).insertionSort
        fun a b => !ranksAhead inputs.policy.semantics b a := by
    have hmap := List.map_insertionSort
      (fun a b => (!ranksAhead inputs.policy.semantics b a) = true)
      (fun a b => (!ranksAhead inputs.policy.semantics b a) = true) CandidateEvaluation.unlabelled
      (inputs.candidates.map inputs.evaluateCandidate) fun a _ b _ => Iff.rfl
    rw [List.map_map] at hmap
    exact hmap
  rw [hrank, hrank]
  simp only [evaluateCandidate_unlabelled]

/-- The first path of the ranking does not depend on the preference. -/
theorem topRanked_path :
    (({ inputs with preference, timing } : EvaluationInputs).topRanked).map (·.path) =
      inputs.topRanked.map (·.path) := by
  have htop (inputs : EvaluationInputs) : inputs.topRanked.map (·.path) =
      ((inputs.rank.map CandidateEvaluation.unlabelled).find? (·.eligible)).map (·.path) := by
    rw [List.find?_map, Option.map_map]
    rfl
  rw [htop, htop, rank_unlabelled]

end

end EvaluationInputs

namespace State

/-- The best eligible candidate of a policy at a clock reading. -/
def favourite (s : State) (now : Ticks) (record : PolicyRecord) : Option PathId :=
  (s.inputsAt now record).topRanked.map (·.path)

section
variable {s s' : State} {record record' : PolicyRecord} {now : Ticks}

/-- It depends on the evidence, the policy and the candidates. -/
theorem favourite_congr (hevidence : s'.evidence = s.evidence)
    (hpolicy : record'.policy = record.policy) (hcandidates : record'.candidates = record.candidates)
    (id : EvidenceSnapshotId) :
    (s'.copyInputs now id record').topRanked.map (·.path) = s.favourite now record := by
  have hfind (path : PathId) (kind : MetricKind) :
      (s'.captureEvidence now id record').find path kind =
        (s.captureEvidence now default record).find path kind := by
    have hpaths : record'.paths = record.paths :=
      congrArg (List.map fun c : CandidateRecord => c.binding.path) hcandidates
    exact captureEvidence_find (fun key _ => by rw [hevidence]) hpaths (by rw [hpolicy]) now now
      default id path kind
  have hrank : (s'.copyInputs now id record').rank =
      ({ s.inputsAt now record with
        preference := record'.preference, timing := record'.timing } : EvaluationInputs).rank := by
    have hsame : s'.copyInputs now id record' =
        { ({ s.inputsAt now record with
            preference := record'.preference, timing := record'.timing } : EvaluationInputs) with
          evidence := s'.captureEvidence now id record' } := by
      unfold copyInputs inputsAt copyInputs
      rw [hpolicy, hcandidates]
    rw [hsame]
    exact EvaluationInputs.rank_congr hfind
  show ((s'.copyInputs now id record').rank.find? (·.eligible)).map (·.path) = _
  rw [hrank]
  exact @EvaluationInputs.topRanked_path (s.inputsAt now record) record'.preference record'.timing

end

end State

/-! ## What one call does to the facts -/

/-- What the favourite and the preference of a policy are read from, but for the clock. -/
structure SameFacts (policy : AdaptivePolicyId) (s s' : State) : Prop where
  evidence : s'.evidence = s.evidence
  record : (s'.policies[policy]?).map (fun r => (r.policy, r.candidates, r.preference)) =
    (s.policies[policy]?).map fun r => (r.policy, r.candidates, r.preference)

theorem SameFacts.found {policy : AdaptivePolicyId} {s s' : State} (h : SameFacts policy s s')
    {record : PolicyRecord} (hrecord : s.policies[policy]? = some record) :
    ∃ record', s'.policies[policy]? = some record' ∧ record'.policy = record.policy ∧
      record'.candidates = record.candidates ∧ record'.preference = record.preference := by
  have hsame := h.record
  rw [hrecord] at hsame
  obtain ⟨record', hrecord', heq⟩ := Option.map_eq_some_iff.1 hsame
  simp only [Prod.mk.injEq] at heq
  exact ⟨record', hrecord', heq⟩

section
variable {limits : Limits} {s s' : State} {now : Ticks} {request : CommitDecisionRequest}
  {outcome : Outcome}

/-- Phase two leaves the facts of every policy, but for the preference it installs. -/
theorem CommitEffect.sameFacts (h : CommitEffect limits s now request s' outcome)
    (policy : AdaptivePolicyId) :
    SameFacts policy s s' ∧ (policy = request.ticket.dependencies.policy →
        request.ticket.lifecycle = .eligible → outcome ≠ .decisionCommitted) ∨
      policy = request.ticket.dependencies.policy ∧ request.ticket.lifecycle = .eligible ∧
        outcome = .decisionCommitted ∧ s'.evidence = s.evidence ∧
        ∃ record record', s.policies[policy]? = some record ∧
          s'.policies[policy]? = some record' ∧ record'.policy = record.policy ∧
          record'.candidates = record.candidates ∧ record'.preference.established = true ∧
          record'.preference.preferredPath = request.ticket.targetPreference := by
  cases h with
  | refused checks =>
    refine .inl ⟨⟨rfl, rfl⟩, fun _ heligible => ?_⟩
    rcases State.commitChecks_refused checks with ⟨hrejected, -⟩ | ⟨-, houtcome⟩
    · rw [hrejected] at heligible
      cases heligible
    · exact houtcome
  | unverified _ _ _ verified =>
    exact .inl ⟨⟨rfl, rfl⟩, fun _ _ =>
      rejection_ne_committed (State.verifyCommit_refuses _ _ _ _ _ _ verified)⟩
  | unchanged =>
    refine .inl ⟨⟨by rw [State.recordAttempt_evidence], ?_⟩, fun _ _ h => (by cases h)⟩
    rw [State.recordAttempt_policies]
  | @suppressed record _ _ checks ineligible =>
    obtain ⟨_, haccepted⟩ := State.commitChecks_ok checks
    refine .inl ⟨⟨by rw [State.recordAttempt_evidence]; rfl, ?_⟩, fun _ h => absurd h ineligible⟩
    rw [State.recordAttempt_policies, State.journal_policies, State.putRecord_policies]
    by_cases hsame : policy = request.ticket.dependencies.policy
    · subst hsame
      rw [Std.ExtTreeMap.getElem?_insert_self, haccepted.found]
      rfl
    · rw [get_insert_ne (Ne.symm hsame)]
  | @committed record target _ _ _ _ preference checks eligible _ verified installs =>
    obtain ⟨_, haccepted⟩ := State.commitChecks_ok checks
    have hevidence (t : State) (p : AdaptivePolicyId) (r : PolicyRecord) (d : AdaptationDecision)
        (a : MutationAttemptId) (f : Text) (o : Outcome) (detail : Text) :
        (((t.putRecord p r).journal limits d).recordAttempt limits a f o detail).evidence =
          t.evidence := by
      rw [State.recordAttempt_evidence]
      rfl
    by_cases hsame : policy = request.ticket.dependencies.policy
    · subst hsame
      refine .inr ⟨rfl, eligible, rfl, hevidence .., record, State.committedRecord limits now record
        preference (s.committedDecision now record request.ticket preference), haccepted.found, ?_, rfl,
        rfl, ?_, ?_⟩
      · rw [State.recordAttempt_policies, State.journal_policies, State.putRecord_policies,
          Std.ExtTreeMap.getElem?_insert_self]
      · show preference.established = true
        rw [installs]
        rfl
      · show preference.preferredPath = _
        rw [installs]
        exact PolicyRecord.findCandidate_path (State.verifyCommit_ok verified).1
    · refine .inl ⟨⟨hevidence .., ?_⟩, fun h => absurd h hsame⟩
      rw [State.recordAttempt_policies, State.journal_policies, State.putRecord_policies,
        get_insert_ne (Ne.symm hsame)]

end

/-! ## After a commit -/

section
variable {s s' : State} {now : Ticks} {record record' : PolicyRecord}

/-- An evaluation keeps an established preference for its merit exactly when it is the favourite. -/
theorem keeps_iff (hestablished : record.preference.established = true) (id : EvidenceSnapshotId)
    (dependencies : DependencySnapshot) :
    (((s.copyInputs now id record).evaluate dependencies).lifecycle = .suppressed ∧
      ((s.copyInputs now id record).evaluate dependencies).suppression = .meritNotEstablished ∧
      ((s.copyInputs now id record).evaluate dependencies).targetPreference =
        record.preference.preferredPath) ↔
      s.favourite now record = some record.preference.preferredPath := by
  rw [← State.favourite_congr rfl rfl rfl id]
  cases htop : (s.copyInputs now id record).topRanked with
  | none =>
    refine ⟨fun h => ?_, fun h => (by cases h)⟩
    rw [(EvaluationInputs.evaluate_none htop dependencies).2] at h
    cases h.2.1
  | some best =>
    constructor
    · intro h
      exact congrArg some ((EvaluationInputs.evaluate_towards hestablished htop dependencies).symm.trans
        h.2.2)
    · intro h
      exact EvaluationInputs.evaluate_preferred hestablished htop (Option.some.inj h) dependencies

end

/-- The policy prefers its favourite. -/
def PrefersFavourite (policy : AdaptivePolicyId) (now : Ticks) (s : State) : Prop :=
  ∃ record, s.policies[policy]? = some record ∧ record.preference.established = true ∧
    s.favourite now record = some record.preference.preferredPath

section
variable {config : EngineConfig} {limits : Limits} {policy : AdaptivePolicyId} {now : Ticks}
  {s s' : State} {e e' : Engine}

theorem PrefersFavourite.same (h : PrefersFavourite policy now s) (hsame : SameFacts policy s s') :
    PrefersFavourite policy now s' := by
  obtain ⟨record, hrecord, hestablished, hfavourite⟩ := h
  obtain ⟨record', hrecord', hpolicy, hcandidates, hpreference⟩ := hsame.found hrecord
  refine ⟨record', hrecord', by rw [hpreference]; exact hestablished, ?_⟩
  rw [hpreference, ← hfavourite]
  exact State.favourite_congr hsame.evidence hpolicy hcandidates default

/-- A ticket that is no proposal is not answered with a commit. -/
theorem CommitEffect.uncommitted {request : CommitDecisionRequest} {outcome : Outcome}
    (h : CommitEffect limits s now request s' outcome) (hl : request.ticket.lifecycle ≠ .eligible)
    (ho : request.ticket.outcome ≠ .decisionCommitted) : outcome ≠ .decisionCommitted := by
  cases h with
  | refused checks =>
    rcases State.commitChecks_refused checks with ⟨-, houtcome⟩ | ⟨-, houtcome⟩
    · rwa [houtcome]
    · exact houtcome
  | suppressed => exact ho
  | unchanged _ eligible => exact absurd eligible hl
  | unverified _ eligible => exact absurd eligible hl
  | committed _ eligible => exact absurd eligible hl

/-- An evaluation at one clock reading leaves a policy's facts without adapting it, or installs the
favourite where another path was preferred. -/
theorem evaluate_installs {request : EvaluateRequest} {result : OperationResult}
    (hkeyed : Keyed e.state) (h : evaluate limits e now now request = some (e', result))
    (policy : AdaptivePolicyId) :
    SameFacts policy e.state e'.state ∧
        (request.policy = policy → result.outcome ≠ .decisionCommitted) ∨
      ¬ PrefersFavourite policy now e.state ∧ PrefersFavourite policy now e'.state := by
  obtain ⟨e₁, ticket, hbegin, hend⟩ := evaluate_cases h
  obtain ⟨-, hissued⟩ := beginEvaluation_cases hbegin
  have houtcome : ticket.outcome ≠ .decisionCommitted := by
    rcases hissued with hrefused | ⟨record, evaluation, evidence, decision, -, rfl⟩
    · exact rejection_ne_committed (beginChecks_refuses limits e request _ hrefused).outcome
    · exact rejection_ne_committed
        (isRejection_of_isTimely (EvaluationInputs.evaluate_outcome _ _))
  rcases hend with ⟨hstate, hresult⟩ | ⟨-, heffect⟩
  · exact .inl ⟨⟨by rw [hstate], by rw [hstate]⟩, fun _ => by rwa [hresult]⟩
  · rcases hissued with hrefused | ⟨record, evaluation, evidence, decision, hchecks, rfl⟩
    · have hl : ticket.lifecycle ≠ .eligible := by
        rw [(beginChecks_refuses limits e request _ hrefused).lifecycle]
        simp
      rcases heffect.sameFacts policy with hsame | ⟨-, heligible, -⟩
      · exact .inl ⟨hsame.1, fun _ => heffect.uncommitted hl houtcome⟩
      · exact absurd heligible hl
    · obtain ⟨_, haccepted⟩ := State.beginChecks_ok hchecks
      have hid : record.policy.id = request.policy := hkeyed _ _ haccepted.found
      have hdependencies : ({ (e.state.copyInputs now evidence record).evaluate
          (e.state.buildDependencies now record evaluation) with decision } :
            EvaluationTicket).dependencies.policy = request.policy := by
        rw [← hid]
        exact congrArg DependencySnapshot.policy (EvaluationInputs.evaluate_issues _ _).dependencies
      rcases heffect.sameFacts policy with hsame | ⟨hpolicy, heligible, -, hevidence, before, record',
        hbefore, hrecord', hsemantics, hcandidates, hestablished, htarget⟩
      · refine .inl ⟨hsame.1, fun hrequest => ?_⟩
        by_cases hl : ((e.state.copyInputs now evidence record).evaluate
            (e.state.buildDependencies now record evaluation)).lifecycle = .eligible
        · exact hsame.2 (hrequest.symm.trans hdependencies.symm) hl
        · exact heffect.uncommitted hl houtcome
      · right
        have hfound : e.state.policies[policy]? = some record := by
          rw [hpolicy, hdependencies]
          exact haccepted.found
        obtain rfl : record = before := Option.some.inj (hfound.symm.trans hbefore)
        obtain ⟨best, htop, haims⟩ := EvaluationInputs.evaluate_target heligible
        have hfavourite : e.state.favourite now record = some record'.preference.preferredPath := by
          rw [← State.favourite_congr rfl rfl rfl evidence, htop, htarget]
          exact congrArg some haims.symm
        refine ⟨fun hprefers => ?_, record', hrecord', hestablished, ?_⟩
        · obtain ⟨current, hcurrent, hset, hprefers⟩ := hprefers
          obtain rfl : record = current := Option.some.inj (hfound.symm.trans hcurrent)
          have hkept := ((keeps_iff hset evidence
            (e.state.buildDependencies now record evaluation)).2 hprefers).1
          have hlifecycle : ((e.state.copyInputs now evidence record).evaluate
            (e.state.buildDependencies now record evaluation)).lifecycle = .eligible := heligible
          rw [hlifecycle] at hkept
          cases hkept
        · rw [← hfavourite]
          exact State.favourite_congr hevidence hsemantics hcandidates default

end

/-! ## Runs on frozen facts -/

/-- A call while the facts of a policy and the clock stand still: an evaluation, or a call that does
not evaluate the policy and leaves its facts. -/
inductive FrozenCall (config : EngineConfig) (policy : AdaptivePolicyId) (now : Ticks) (e : Engine) :
    Op → Prop
  | evaluate (request : EvaluateRequest) : FrozenCall config policy now e (.evaluate now now request)
  | other {op : Op} (hother : ∀ begun committed request, op = .evaluate begun committed request →
        request.policy ≠ policy)
      (hsame : ∀ e' answer, e.step config op = some (e', answer) →
        SameFacts policy e.state e'.state) : FrozenCall config policy now e op

/-- An evaluation of the policy that was answered with a commit. -/
def adaptsPolicy (policy : AdaptivePolicyId) (call : Runs.Call Engine Op Answer) : Bool :=
  match call.label, call.reply with
  | .evaluate _ _ request, .result result =>
    request.policy == policy && result.outcome == .decisionCommitted
  | _, _ => false

section
variable {config : EngineConfig} {policy : AdaptivePolicyId} {now : Ticks} {e e' : Engine} {op : Op}
  {answer : Answer}

/-- A call on frozen facts leaves them without adapting the policy, or makes its favourite the
preference. -/
theorem FrozenCall.step (hcall : FrozenCall config policy now e op) (hkeyed : Keyed e.state)
    (h : e.step config op = some (e', answer)) :
    SameFacts policy e.state e'.state ∧ adaptsPolicy policy ⟨e, op, answer, e'⟩ = false ∨
      ¬ PrefersFavourite policy now e.state ∧ PrefersFavourite policy now e'.state := by
  cases hcall with
  | evaluate request =>
    obtain ⟨⟨e₁, result⟩, hevaluate, he⟩ := Option.map_eq_some_iff.1 h
    cases he
    refine (evaluate_installs hkeyed hevaluate policy).imp (fun h => ⟨h.1, ?_⟩) id
    show (request.policy == policy && result.outcome == .decisionCommitted) = false
    by_cases hpolicy : request.policy = policy
    · simp [h.2 hpolicy]
    · simp [hpolicy]
  | other hother hsame =>
    refine .inl ⟨hsame e' answer h, ?_⟩
    unfold adaptsPolicy
    split
    · rename_i begun committed request result hlabel _
      have hne := hother begun committed request hlabel
      simp [hne]
    · rfl

/-- While the facts and the clock stand still, a policy adapts once at most. -/
theorem frozen_adapts_once {e₀ : Engine} {calls : List (Runs.Call Engine Op Answer)}
    (hreach : Reachable config e₀)
    (htrace : Runs.Trace (Engine.step config) (fun _ e op => FrozenCall config policy now e op) e₀
      calls e) : calls.countP (adaptsPolicy policy) ≤ 1 := by
  have hinv : Keyed e.state ∧ (calls.countP (adaptsPolicy policy) = 0 ∨
      calls.countP (adaptsPolicy policy) ≤ 1 ∧ PrefersFavourite policy now e.state) := by
    induction htrace with
    | start => exact ⟨Keyed.reachable hreach, .inl rfl⟩
    | @call calls e e' op answer _ hcall hstep ih =>
      obtain ⟨hkeyed, ih⟩ := ih
      refine ⟨hkeyed.step hstep, ?_⟩
      rw [List.countP_append, List.countP_singleton]
      rcases hcall.step hkeyed hstep with ⟨hsame, hquiet⟩ | ⟨hunsettled, hprefers⟩
      · rw [hquiet]
        exact ih.imp id fun h => ⟨h.1, h.2.same hsame⟩
      · right
        rcases ih with hnone | ⟨-, hprefers'⟩
        · rw [hnone]
          refine ⟨?_, hprefers⟩
          split <;> omega
        · exact absurd hprefers' hunsettled
  rcases hinv.2 with h | h
  · omega
  · exact h.1

/-- The evaluation after a commit keeps the preference for its merit exactly when the commit installed
the favourite. -/
theorem committed_keeps_iff {e₁ e₂ : Engine} {request : CommitDecisionRequest}
    {result : OperationResult} {next : EvaluateRequest} {issued : EvaluationTicket}
    (hstep : e.step config (.commitEvaluation now request) = some (e', .result result))
    (hproposal : request.ticket.lifecycle = .eligible)
    (hcommitted : result.outcome = .decisionCommitted)
    (hfrozen : SameFacts request.ticket.dependencies.policy e'.state e₁.state)
    (hpolicy : next.policy = request.ticket.dependencies.policy)
    (hnext : beginEvaluation config.limits e₁ now next = some (e₂, issued))
    (hissued : issued.lifecycle ≠ .rejected) :
    ∃ record, e.state.policies[request.ticket.dependencies.policy]? = some record ∧
      ((issued.lifecycle = .suppressed ∧ issued.suppression = .meritNotEstablished ∧
          issued.targetPreference = request.ticket.targetPreference) ↔
        e.state.favourite now record = some request.ticket.targetPreference) := by
  obtain ⟨⟨e'', result'⟩, hcommit, he⟩ := Option.map_eq_some_iff.1 hstep
  cases he
  rcases (commitEvaluation_cases hcommit).sameFacts request.ticket.dependencies.policy with
    hsame | ⟨-, -, -, hevidence, record, record', hrecord, hrecord', hsemantics, hcandidates,
      hestablished, htarget⟩
  · exact absurd hcommitted (hsame.2 rfl hproposal)
  · obtain ⟨record'', hrecord'', hpolicy'', hcandidates'', hpreference⟩ := hfrozen.found hrecord'
    obtain ⟨-, hrefused | ⟨found, evaluation, evidence, decision, hchecks, rfl⟩⟩ :=
      beginEvaluation_cases hnext
    · exact absurd (beginChecks_refuses config.limits e₁ next _ hrefused).lifecycle hissued
    · obtain ⟨_, haccepted⟩ := State.beginChecks_ok hchecks
      have hfound := haccepted.found
      rw [hpolicy, hrecord''] at hfound
      obtain rfl : record'' = found := Option.some.inj hfound
      have hkeeps := @keeps_iff e₁.state now record'' (by rw [hpreference]; exact hestablished)
        evidence (e₁.state.buildDependencies now record'' evaluation)
      have hfavourite : e₁.state.favourite now record'' = e.state.favourite now record :=
        State.favourite_congr (hfrozen.evidence.trans hevidence) (hpolicy''.trans hsemantics)
          (hcandidates''.trans hcandidates) default
      rw [hpreference, htarget, hfavourite] at hkeeps
      exact ⟨record, hrecord, hkeeps⟩

/-- On frozen facts a policy moves once: after a commit of the path that is the favourite at the
clock reading, the evaluations keep it for its merit, and evaluations at one clock reading commit one
adaptation at most. -/
theorem one_move_on_frozen_facts (hreach : Reachable config e) :
    (∀ {now e' e₁ e₂ request result next issued},
      e.step config (.commitEvaluation now request) = some (e', .result result) →
      request.ticket.lifecycle = .eligible → result.outcome = .decisionCommitted →
      SameFacts request.ticket.dependencies.policy e'.state e₁.state →
      next.policy = request.ticket.dependencies.policy →
      beginEvaluation config.limits e₁ now next = some (e₂, issued) → issued.lifecycle ≠ .rejected →
      ∃ record, e.state.policies[request.ticket.dependencies.policy]? = some record ∧
        ((issued.lifecycle = .suppressed ∧ issued.suppression = .meritNotEstablished ∧
            issued.targetPreference = request.ticket.targetPreference) ↔
          e.state.favourite now record = some request.ticket.targetPreference)) ∧
    ∀ {policy now calls e'},
      Runs.Trace (Engine.step config) (fun _ e op => FrozenCall config policy now e op) e calls e' →
      calls.countP (adaptsPolicy policy) ≤ 1 :=
  ⟨committed_keeps_iff, frozen_adapts_once hreach⟩

end

namespace Scenario

def lateSwitch : Op := .evaluate 3 5000 (evaluation "late")

def evaluateAgain (now : Ticks) : Op := .evaluate now now (evaluation "again")

/-- The answer names the suppression. -/
def suppressedBy (suppression : SuppressionReason) : Answer → Bool
  | .result result => result.suppression == suppression
  | _ => false

end Scenario

open Scenario in
/-- Two evaluations at one clock reading: the first adapts the policy and the second does not. -/
theorem second_evaluation_stays :
    ∃ calls e', Runs.Trace (Engine.step config)
        (fun _ e op => FrozenCall config policy 3 e op) (after challenged) calls e' ∧
      calls.map (·.label) = [.evaluate 3 3 (evaluation "switch"), evaluateAgain 3] ∧
      calls.countP (adaptsPolicy policy) = 1 := by
  obtain ⟨result, hfirst, hcommitted⟩ := @step_result challenged
    (.evaluate 3 3 (evaluation "switch")) .decisionCommitted (by decide +kernel) (by decide +kernel)
  obtain ⟨e', answer, hsecond, -⟩ := @step_answers
    (challenged ++ [.evaluate 3 3 (evaluation "switch")]) (evaluateAgain 3) (fun _ => true)
    (by decide +kernel)
  have hstart : Runs.Trace (Engine.step config) (fun _ e op => FrozenCall config policy 3 e op)
      (after challenged) [] (after challenged) := .start
  have htrace := Runs.Trace.call (.call hstart (.evaluate _) hfirst) (.evaluate _) hsecond
  refine ⟨_, _, htrace, rfl, Nat.le_antisymm ?_ ?_⟩
  · exact (one_move_on_frozen_facts (reachable_after (by decide +kernel))).2 htrace
  · refine List.countP_pos_iff.2 ⟨_, List.mem_cons_self, ?_⟩
    show (policy == policy && result.outcome == .decisionCommitted) = true
    simp [hcommitted]

open Scenario in
/-- A ticket that commits when its evidence is stale leaves no merit behind. -/
theorem late_commit_without_merit :
    Engine.Reachable config (after challenged) ∧
    (∃ result, (after challenged).step config lateSwitch =
        some (after (challenged ++ [lateSwitch]), .result result) ∧
      result.outcome = .decisionCommitted) ∧
    ∃ e' result, (after (challenged ++ [lateSwitch])).step config (evaluateAgain 5000) =
        some (e', .result result) ∧ result.suppression = .noEligibleAlternative := by
  refine ⟨reachable_after (by decide +kernel), step_result (by decide +kernel) (by decide +kernel), ?_⟩
  obtain ⟨e', answer, hstep, htest⟩ := @step_answers (challenged ++ [lateSwitch]) (evaluateAgain 5000)
    (suppressedBy .noEligibleAlternative) (by decide +kernel)
  cases answer with
  | result result => exact ⟨e', result, hstep, eq_of_beq htest⟩
  | _ => cases htest

end AdaptiveRouting
