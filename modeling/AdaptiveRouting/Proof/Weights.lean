import AdaptiveRouting.Proof.Anchor
import AdaptiveRouting.Proof.Currentness
import AdaptiveRouting.Proof.Exits

/-!
# Weight proposals

Phase one proposes the whole weight for the path a ticket aims at (`proposeWeights_singles`), and a
commit installs the proposal with the path. In a deployment whose commits present such proposals and
whose rollbacks displace no preference that has one (`Weighing`), the proposal of a preference goes with
its path (`weights_follow`): a rollback puts back the path and leaves the weights.
-/

namespace AdaptiveRouting

open Engine Guard

/-! ## Whole weight for one path -/

/-- The basis points of a proposal. -/
def WeightProposal.total (p : WeightProposal) : Nat :=
  p.weights.foldr (fun weight sum => weight.weightBps.toNat + sum) 0

/-- A proposal of distinct paths that gives everything to one of them. -/
structure WeightProposal.Singles (p : WeightProposal) (path : PathId) : Prop where
  distinct : (p.weights.map (·.path)).Nodup
  listed : path ∈ p.weights.map (·.path)
  weighs : ∀ weight ∈ p.weights, weight.weightBps = if weight.path = path then 10000 else 0

theorem weights_zero {weights : List PathWeight} (h : ∀ weight ∈ weights, weight.weightBps = 0) :
    weights.foldr (fun weight sum => weight.weightBps.toNat + sum) 0 = 0 := by
  induction weights with
  | nil => rfl
  | cons weight rest ih =>
    rw [List.foldr_cons, ih fun other hmem => h other (List.mem_cons_of_mem _ hmem),
      h weight List.mem_cons_self]
    rfl

theorem weights_whole {path : PathId} {weights : List PathWeight}
    (hdistinct : (weights.map (·.path)).Nodup) (hlisted : path ∈ weights.map (·.path))
    (h : ∀ weight ∈ weights, weight.weightBps = if weight.path = path then 10000 else 0) :
    weights.foldr (fun weight sum => weight.weightBps.toNat + sum) 0 = 10000 := by
  induction weights with
  | nil => cases hlisted
  | cons weight rest ih =>
    rw [List.map_cons, List.nodup_cons] at hdistinct
    have hrest : ∀ other ∈ rest, _ := fun other hmem => h other (List.mem_cons_of_mem _ hmem)
    have hfirst := h weight List.mem_cons_self
    rw [List.foldr_cons]
    by_cases hpath : weight.path = path
    · have hothers : ∀ other ∈ rest, other.weightBps = 0 := fun other hmem => by
        rw [hrest other hmem, if_neg]
        rintro rfl
        exact hdistinct.1 (hpath ▸ List.mem_map_of_mem hmem)
      have hzero := weights_zero hothers
      rw [hzero, hfirst, if_pos hpath]
      rfl
    · rw [List.map_cons, List.mem_cons] at hlisted
      rw [ih hdistinct.2 (hlisted.resolve_left (Ne.symm hpath)) hrest, hfirst, if_neg hpath]
      rfl

theorem WeightProposal.Singles.total {p : WeightProposal} {path : PathId} (h : p.Singles path) :
    p.total = 10000 :=
  weights_whole h.distinct h.listed h.weighs

/-! ## Phase one -/

namespace EvaluationInputs

section
variable {inputs : EvaluationInputs} {best : CandidateEvaluation} {proposal : WeightProposal}

theorem proposeWeights_weights (h : inputs.proposeWeights best = some proposal) :
    best.path ∈ inputs.candidates.map (·.binding.path) ∧
      proposal.weights = inputs.candidates.map fun member =>
        { path := member.binding.path
          weightBps := if member.binding.path = best.path then basisPointsScale else 0 } := by
  obtain ⟨-, -, h⟩ := Option.bind_eq_some_iff.1 h
  obtain ⟨candidate, hfound, h⟩ := Option.bind_eq_some_iff.1 h
  obtain ⟨weighted, -, h⟩ := Option.bind_eq_some_iff.1 h
  have hcandidate := List.find?_some hfound
  rw [Bool.and_eq_true, beq_iff_eq] at hcandidate
  refine ⟨List.mem_map.2 ⟨candidate, List.mem_of_find?_eq_some hfound, hcandidate.1⟩, ?_⟩
  dsimp only at h
  split at h
  · cases h
    rfl
  · cases h

theorem proposeWeights_singles (h : inputs.proposeWeights best = some proposal)
    (hdistinct : (inputs.candidates.map (·.binding.path)).Nodup) :
    proposal.weights.map (·.path) = inputs.candidates.map (·.binding.path) ∧
      proposal.Singles best.path := by
  obtain ⟨hlisted, hweights⟩ := proposeWeights_weights h
  have hpaths : proposal.weights.map (·.path) = inputs.candidates.map (·.binding.path) := by
    rw [hweights, List.map_map]
    rfl
  refine ⟨hpaths, hpaths ▸ hdistinct, hpaths ▸ hlisted, fun weight hweight => ?_⟩
  rw [hweights] at hweight
  obtain ⟨member, -, rfl⟩ := List.mem_map.1 hweight
  rfl

/-- The weights of an eligible ticket are those of the candidate it aims at. -/
theorem evaluate_proposes {dependencies : DependencySnapshot}
    (heligible : (inputs.evaluate dependencies).lifecycle = .eligible)
    (hproposal : (inputs.evaluate dependencies).weightProposal = some proposal) :
    ∃ best, inputs.proposeWeights best = some proposal ∧
      (inputs.evaluate dependencies).targetPreference = best.path := by
  have hexit := inputs.evaluate_exits dependencies
  have hincumbent (ticket : EvaluationTicket) : ticket.SuppressionOf (inputs.incumbentTicket ticket) :=
    inputs.incumbentTicket_suppresses rfl
  generalize inputs.evaluate dependencies = ticket at heligible hproposal hexit ⊢
  cases hexit with
  | nothing | barred | merit => cases heligible
  | incumbent => cases heligible.symm.trans (hincumbent _).lifecycle
  | refused _ _ _ gate =>
    have hends := (inputs.ordinaryGates_gates _ rfl).refuses _ gate
    cases heligible.symm.trans hends.lifecycle
  | established => cases hproposal
  | adapted _ _ _ gates =>
    have hcore := (inputs.ordinaryGates_gates _ rfl).returns _ gates
    exact ⟨_, hproposal, congrArg EvaluationTicket.targetPreference hcore⟩
  | overridden => exact ⟨_, hproposal, rfl⟩
  | escaped =>
    exact ⟨_, hproposal, congrArg EvaluationTicket.targetPreference (hincumbent _).core⟩

end

end EvaluationInputs

/-! ## Deployments -/

/-- Phase one of an engine of the deployment proposed these weights to a policy, as it was there, for
this path. -/
def Proposed (policy : AdaptivePolicyId) (path : PathId) (proposal : WeightProposal)
    (before : PolicyRecord) : Prop :=
  ∃ config e now request e' ticket, Hosted (fun _ _ _ => True) config e ∧ request.policy = policy ∧
    e.state.policies[policy]? = some before ∧
    beginEvaluation config.limits e now request = some (e', ticket) ∧ ticket.lifecycle = .eligible ∧
    ticket.weightProposal = some proposal ∧ ticket.targetPreference = path

/-- The weights of a ticket are those phase one proposed to its policy for its target. -/
def EvaluationTicket.Genuine (ticket : EvaluationTicket) : Prop :=
  ∀ proposal, ticket.weightProposal = some proposal →
    ∃ before, Proposed ticket.dependencies.policy ticket.targetPreference proposal before

/-- A commit that installs its ticket presents genuine weights, and a rollback that passes its checks
displaces a preference without weights. -/
structure Weighing (config : EngineConfig) (e : Engine) (op : Op) : Prop where
  commit : ∀ now request record verdict, op = .commitEvaluation now request →
    e.state.commitChecks request = .ok record → request.ticket.lifecycle = .eligible →
    alreadyCurrent record request.ticket = false →
    e.state.verifyCommit config.limits now record request.ticket = .ok verdict →
    request.ticket.Genuine
  rollback : ∀ now request record verdict, op = .rollback now request →
    e.state.rollbackChecks request = .ok record → State.verifyRollback record = .ok verdict →
    record.preference.weightProposal = none

theorem Hosted.ordered {ok : EngineConfig → Engine → Op → Prop} {config : EngineConfig} {e : Engine}
    (h : Hosted ok config e) : Ordered e.state :=
  h.inv (I := Ordered) (fun _ _ policy record hrecord => by simp [Engine.start] at hrecord)
    fun _ _ _ _ _ hs hstep => hs.step hstep

/-- What phase one proposed. -/
theorem Proposed.singles {policy : AdaptivePolicyId} {path : PathId} {proposal : WeightProposal}
    {before : PolicyRecord} (h : Proposed policy path proposal before) :
    proposal.weights.map (·.path) = before.candidates.map (·.binding.path) ∧
      proposal.Singles path := by
  obtain ⟨config, e, now, request, e', ticket, hosted, rfl, hbefore, hbegins, heligible, hproposal,
    rfl⟩ := h
  obtain ⟨-, hrefused | ⟨record, evaluation, evidence, decision, hchecks, rfl⟩⟩ :=
    beginEvaluation_cases hbegins
  · have hrejected := (beginChecks_refuses config.limits e request _ hrefused).lifecycle
    cases heligible.symm.trans hrejected
  · obtain ⟨registration, haccepted⟩ := State.beginChecks_ok hchecks
    cases hbefore.symm.trans haccepted.found
    have hdistinct : (before.candidates.map (·.binding.path)).Nodup :=
      Search.keys_nodup (hosted.ordered request.policy before hbefore)
    obtain ⟨best, hweights, htarget⟩ := EvaluationInputs.evaluate_proposes heligible hproposal
    obtain ⟨hpaths, hsingles⟩ := EvaluationInputs.proposeWeights_singles hweights hdistinct
    exact ⟨hpaths, htarget ▸ hsingles⟩

/-- The weights of a preference were proposed for its path. -/
def Follow (policy : AdaptivePolicyId) (record : PolicyRecord) : Prop :=
  ∀ proposal, record.preference.weightProposal = some proposal →
    ∃ before, Proposed policy record.preference.preferredPath proposal before

section
variable {config : EngineConfig} {e : Engine} {op : Op} {policy : AdaptivePolicyId}
  {record record' : PolicyRecord}

theorem Follow.congr (h : Follow policy record) (hsame : record'.preference = record.preference) :
    Follow policy record' := by
  unfold Follow
  rw [hsame]
  exact h

/-- The ticket that an evaluation commits is genuine. -/
theorem Commits.genuine {now : Ticks} {request : CommitDecisionRequest}
    {verdict : CandidateRecord × AdaptationGeneration × TransitionGeneration}
    (commits : Commits config.limits e op now request) (hosted : Hosted (fun _ _ _ => True) config e)
    (meets : Weighing config e op) (checks : e.state.commitChecks request = .ok record)
    (eligible : request.ticket.lifecycle = .eligible)
    (other : alreadyCurrent record request.ticket = false)
    (verified : e.state.verifyCommit config.limits now record request.ticket = .ok verdict) :
    request.ticket.Genuine := by
  cases commits with
  | commit => exact meets.commit _ _ _ _ rfl checks eligible other verified
  | @evaluate begun _ asked e₁ ticket begins =>
    intro proposal hproposal
    obtain ⟨-, hrefused | ⟨before, _, evaluation, _, haccepted, hissues⟩⟩ :=
      beginEvaluation_issues begins
    · cases eligible.symm.trans hrefused.lifecycle
    have hsubject : ticket.dependencies.policy = asked.policy := by
      rw [hissues.dependencies]
      exact hosted.keyed asked.policy before haccepted.found
    refine ⟨before, config, e, begun, asked, e₁, ticket, hosted, hsubject.symm, ?_, begins, eligible,
      hproposal, rfl⟩
    rw [hsubject]
    exact haccepted.found

theorem Rewrites.follow (h : Rewrites config.limits e op policy record record')
    (hosted : Hosted (fun _ _ _ => True) config e) (meets : Weighing config e op)
    (hr : Follow policy record) : Follow policy record' := by
  cases h with
  | updated =>
    unfold State.updatedRecord
    dsimp only
    split
    · exact hr
    · intro proposal hproposal
      cases hproposal
  | held | moved | revoked | suppressed => exact hr
  | committed commits checks eligible other verified installs =>
    subst installs
    have hgenuine := commits.genuine hosted meets checks eligible other verified
    intro proposal hproposal
    obtain ⟨before, hproposed⟩ := hgenuine proposal hproposal
    rw [← PolicyRecord.findCandidate_path (State.verifyCommit_ok verified).1] at hproposed
    exact ⟨before, hproposed⟩
  | restored checks verified decides =>
    have hnone := meets.rollback _ _ _ _ rfl checks verified
    intro proposal hproposal
    cases hnone.symm.trans hproposal

end

/-- In a deployment whose commits present genuine weights, and whose rollbacks displace preferences
without weights, the weights of a preference list the candidates of the evaluation that proposed them,
and give everything to the preferred path. -/
theorem weights_follow {config : EngineConfig} {e : Engine} (h : Hosted Weighing config e)
    {policy : AdaptivePolicyId} {record : PolicyRecord}
    (hrecord : e.state.policies[policy]? = some record) {proposal : WeightProposal}
    (hproposal : record.preference.weightProposal = some proposal) :
    ∃ before, Proposed policy record.preference.preferredPath proposal before ∧
      proposal.weights.map (·.path) = before.candidates.map (·.binding.path) ∧
      proposal.Singles record.preference.preferredPath ∧ proposal.total = 10000 := by
  have hfollow : Everywhere Follow e.state := by
    refine h.records (fun config e op e' answer hosted meets recovers steps hs => ?_)
      fun _ _ _ _ _ _ hr => hr
    have hany : Hosted (fun _ _ _ => True) config e := hosted.mono fun _ _ _ _ => trivial
    refine hs.step ?_ steps
    exact
      { rewrites := fun _ _ _ hrewrites hr => hrewrites.follow hany meets hr
        creates := fun _ _ _ _ _ _ hproposal => by cases hproposal
        advances := fun _ _ hr => hr
        amends := fun _ _ _ _ _ _ hamends hr => by
          have hpreference := congrArg PolicyRecord.preference hamends.frame
          exact hr.congr hpreference
        recovers := fun _ _ _ _ hrecovers => by
          rw [recovers] at hrecovers
          cases hrecovers }
  obtain ⟨before, hproposed⟩ := hfollow policy record hrecord proposal hproposal
  obtain ⟨hpaths, hsingles⟩ := hproposed.singles
  exact ⟨before, hproposed, hpaths, hsingles, hsingles.total⟩

namespace Scenario

/-- A path of the trunk, under a weight policy. -/
def weighted (path : PathId) : UpstreamNotification :=
  { policy, binding := { binding path with
      multipath := some (trunkOf [left, right])
      weighted := some { set := name "weights", generation := ⟨1⟩, current := true } } }

/-- The policy leaves the left path of the trunk for the right one. -/
def shifted : List Op :=
  [register, .createPolicy 0 { create 1 with
      semantics := { semantics with target := { route, multipathSet := some trunk } } }, activate,
    notify (weighted left) "left", publish left 100 "left-evidence",
    .evaluate 2 2 (evaluation "establish"), notify (weighted right) "right",
    publish right 50 "right-evidence", .evaluate 3 3 (evaluation "shift")]

/-- And goes back to it. -/
def shiftedBack : List Op := shifted ++ [.rollback 4 (turn "back")]

/-- The operation presents no ticket, restores no preference and recovers no store. -/
def unaided : Op → Bool
  | .commitEvaluation .. | .rollback .. | .decodeStore .. => false
  | _ => true

theorem unaided_weighing {op : Op} (h : unaided op = true) (e : Engine) : Weighing config e op where
  commit := fun _ _ _ _ hop => by
    subst hop
    cases h
  rollback := fun _ _ _ _ hop => by
    subst hop
    cases h

theorem unaided_recovers {op : Op} (h : unaided op = true) : op.recovers config.limits = none := by
  cases op with
  | decodeStore => cases h
  | _ => rfl

theorem hosted_unaided {ops : List Op} (h : returns ops = true) (hops : ops.all unaided = true) :
    Hosted Weighing config (after ops) := by
  have hrun := Runs.runAll_under (unaided · = true) (runAll_after h) (List.all_eq_true.1 hops)
  exact hrun.inv (I := Hosted Weighing config) (fun e _ _ _ hop hosted hstep =>
    .step hosted (unaided_weighing hop e) (unaided_recovers hop) hstep) (.start config "n")

/-- The preferred path of the policy and the weights it is held with. -/
def weighs (ops : List Op) (path : PathId) (weights : List PathWeight) : Bool :=
  ((after ops).state.policies[policy]?).any fun record => record.preference.preferredPath == path &&
    record.preference.weightProposal.any fun proposal => proposal.weights == weights

theorem weighs_record {ops : List Op} {path : PathId} {weights : List PathWeight}
    (h : weighs ops path weights = true) : ∃ record proposal,
      (after ops).state.policies[policy]? = some record ∧
      record.preference.weightProposal = some proposal ∧ record.preference.preferredPath = path ∧
      proposal.weights = weights := by
  obtain ⟨record, hrecord, h⟩ := (Option.any_eq_true _ _).1 h
  obtain ⟨hpath, h⟩ := Bool.and_eq_true_iff.1 h
  obtain ⟨proposal, hproposal, hweights⟩ := (Option.any_eq_true _ _).1 h
  exact ⟨record, proposal, hrecord, hproposal, beq_iff_eq.1 hpath, beq_iff_eq.1 hweights⟩

/-- No weight for the left path, and all of it for the right one. -/
def rightOnly : List PathWeight := [{ path := left }, { path := right, weightBps := 10000 }]

end Scenario

open Scenario in
/-- The weights of a commit go with the path it installs. -/
theorem shifted_weights : ∃ record proposal, (after shifted).state.policies[policy]? = some record ∧
    record.preference.weightProposal = some proposal ∧ record.preference.preferredPath = right ∧
    proposal.weights = rightOnly ∧ proposal.Singles right ∧ proposal.total = 10000 := by
  obtain ⟨record, proposal, hrecord, hproposal, hpath, hweights⟩ :=
    weighs_record (by decide +kernel : weighs shifted right rightOnly = true)
  have hosted := hosted_unaided (by decide +kernel : returns shifted = true) (by decide +kernel)
  obtain ⟨-, -, -, hsingles, htotal⟩ := weights_follow hosted hrecord hproposal
  exact ⟨record, proposal, hrecord, hproposal, hpath, hweights, hpath ▸ hsingles, htotal⟩

open Scenario in
/-- A rollback leaves the whole weight with the path it leaves. -/
theorem rolled_back_weights : Hosted (fun _ _ _ => True) config (after shiftedBack) ∧
    ∃ record proposal, (after shiftedBack).state.policies[policy]? = some record ∧
      record.preference.weightProposal = some proposal ∧ record.preference.preferredPath = left ∧
      proposal.weights = rightOnly ∧ ¬ proposal.Singles left := by
  obtain ⟨record, proposal, hrecord, hproposal, hpath, hweights⟩ :=
    weighs_record (by decide +kernel : weighs shiftedBack left rightOnly = true)
  have hosted := hosted_unaided (by decide +kernel : returns shifted = true) (by decide +kernel)
  obtain ⟨_, hstep⟩ := step_after shifted (.rollback 4 (turn "back")) (by decide +kernel)
  refine ⟨.step (hosted.mono fun _ _ _ _ => trivial) trivial rfl hstep, record, proposal, hrecord,
    hproposal, hpath, hweights, fun hsingles => ?_⟩
  have hleft := hsingles.weighs { path := left } (by simp [hweights, rightOnly])
  simp at hleft

end AdaptiveRouting
