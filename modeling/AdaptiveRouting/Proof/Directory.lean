import AdaptiveRouting.Proof.Attempts

/-!
# The directory

The names of the policies and the revocations. A creation adds a name (`CreateEffect`), a revocation
adds a revocation, a recovery replaces both, and every other operation keeps them (`step_directory`).
-/

namespace AdaptiveRouting

open Guard Engine

/-! ## What keeps it -/

namespace State

/-- The names of the policies, and the revocations. -/
def directory (s : State) :
    Std.ExtTreeMap AdaptivePolicyName AdaptivePolicyId × Std.ExtTreeMap AdaptivePolicyId RevocationRecord :=
  (s.policyNames, s.revocations)

theorem policyNames_of_directory {s s' : State} (h : s'.directory = s.directory) :
    s'.policyNames = s.policyNames :=
  congrArg Prod.fst h

theorem revocations_of_directory {s s' : State} (h : s'.directory = s.directory) :
    s'.revocations = s.revocations :=
  congrArg Prod.snd h

@[simp] theorem recordAttempt_directory (s : State) (limits : Limits) (attempt : MutationAttemptId)
    (fingerprint : Text) (outcome : Outcome) (detail : Text) :
    (s.recordAttempt limits attempt fingerprint outcome detail).directory = s.directory := by
  obtain ⟨_, _, h⟩ := s.recordAttempt_eq limits attempt fingerprint outcome detail
  rw [h]
  rfl

@[simp] theorem journal_directory (s : State) (limits : Limits) (decision : AdaptationDecision) :
    (s.journal limits decision).directory = s.directory := rfl

@[simp] theorem putRecord_directory (s : State) (policy : AdaptivePolicyId) (record : PolicyRecord) :
    (s.putRecord policy record).directory = s.directory := rfl

@[simp] theorem reindexPolicy_directory (s : State) (limits : Limits) (policy : AdaptivePolicyId) :
    (s.reindexPolicy limits policy).directory = s.directory := by
  unfold reindexPolicy
  split <;> rfl

@[simp] theorem unindexPolicy_directory (s : State) (policy : AdaptivePolicyId) :
    (s.unindexPolicy policy).directory = s.directory := by
  unfold unindexPolicy
  split <;> rfl

theorem Applies.directory {limits : Limits} {s s' : State} {record : PolicyRecord}
    {n : UpstreamNotification} (h : Applies limits s record n s') :
    s'.directory = s.directory := by
  cases h with
  | declared => rw [reindexPolicy_directory]; rfl
  | edited => rfl
  | invalidated =>
    obtain ⟨_, _, h⟩ := applyInvalidation_eq (s.editBinding n.policy record n.binding.path n.edit)
      n.binding.path
    rw [h]
    rfl

theorem applyUpstream_directory (s : State) (limits : Limits) (request : UpstreamNotifyRequest) :
    (s.applyUpstream limits request).1.directory = s.directory := by
  have hbatch : (applyNotifications limits request.context s request.notifications).1.directory =
      s.directory :=
    applyNotifications_rel (R := fun s s' => s'.directory = s.directory) (fun _ => rfl)
      (fun h₁ h₂ => h₂.trans h₁)
      (fun _ _ _ h => by
        obtain ⟨_, _, _, happlies⟩ := applyNotification_ok h
        exact happlies.directory) request.notifications s
  unfold applyUpstream
  split
  · rfl
  · split
    · rename_i reached refusal happlied
      rwa [happlied] at hbatch
    · rename_i reached happlied
      rw [happlied] at hbatch
      rw [recordAttempt_directory]
      exact hbatch

theorem publishEvidence_directory (s : State) (limits : Limits) (clock : Nat → Ticks)
    (request : PublishEvidenceRequest) :
    (s.publishEvidence limits clock request).1.directory = s.directory := by
  have hfold := foldl_keeps (f := applyPublication limits) State.directory (fun _ _ => rfl)
    (acceptances clock request.publications) s
  unfold publishEvidence
  split
  · rfl
  · dsimp only
    split
    · exact hfold
    · rw [recordAttempt_directory]
      exact hfold

theorem updatePolicy_directory (s : State) (limits : Limits) (now : Ticks)
    (request : UpdatePolicyRequest) :
    (s.updatePolicy limits now request).1.directory = s.directory := by
  unfold updatePolicy
  split
  · rfl
  · rw [recordAttempt_directory, reindexPolicy_directory]
    exact unindexPolicy_directory s request.policy

theorem transitionPolicy_directory (s : State) (request : PolicyLifecycleRequest) :
    (s.transitionPolicy request).1.directory = s.directory := by
  rcases transitionPolicy_state s request with h | ⟨_, _, -, ⟨-, -, h⟩ | ⟨-, h⟩⟩ <;> rw [h] <;> rfl

end State

theorem CommitEffect.directory {limits : Limits} {s s' : State} {now : Ticks}
    {request : CommitDecisionRequest} {outcome : Outcome}
    (h : CommitEffect limits s now request s' outcome) : s'.directory = s.directory := by
  cases h <;> simp

theorem RollbackEffect.directory {limits : Limits} {s s' : State} {now : Ticks}
    {request : RollbackRequest} {outcome : Outcome}
    (h : RollbackEffect limits s now request s' outcome) : s'.directory = s.directory := by
  cases h <;> simp

section
variable {config : EngineConfig} {e e' : Engine} {op : Op} {answer : Answer}

/-- What a creation does to the policies and the directory, and what it then answers. -/
inductive CreateEffect (e : Engine) (now : Ticks) (request : CreatePolicyRequest)
    (result : OperationResult) (e' : Engine) : Prop
  | refused (outcome : result.outcome ≠ .policyCreated)
      (policies : e'.state.policies = e.state.policies)
      (directory : e'.state.directory = e.state.directory)
  | created {id : AdaptivePolicyId} (mints : e.ids.mint .policy = some (id, e'.ids))
      (unnamed : e.state.policyNames[request.name]? = none)
      (outcome : result.outcome = .policyCreated) (reports : result.policy = id)
      (policies : e'.state.policies =
        e.state.policies.insertIfNew id (e.state.newRecord now id request))
      (directory : e'.state.directory =
        (e.state.policyNames.insertIfNew request.name id, e.state.revocations))

theorem createPolicy_cases {limits : Limits} {now : Ticks} {request : CreatePolicyRequest}
    {result : OperationResult} (h : createPolicy limits e now request = some (e', result)) :
    CreateEffect e now request result e' := by
  unfold createPolicy at h
  dsimp only at h
  split at h
  · rename_i refusal hchecks
    cases h
    refine .refused (fun hcreated => ?_) rfl rfl
    rcases e.state.createChecks_replayed limits request result hchecks with hrejects | ⟨hreplay, -⟩
    · rw [hcreated] at hrejects
      cases hrejects
    · rw [hcreated] at hreplay
      cases hreplay
  · split at h
    · cases h
      exact .refused (by simp) (by simp) (by simp)
    · rename_i hname
      split at h
      · cases h
        exact .refused (by simp) (by simp) (by simp)
      · obtain ⟨⟨id, ids⟩, hmint, h⟩ := Option.bind_eq_some_iff.1 h
        cases h
        have hunnamed : e.state.policyNames[request.name]? = none := by
          rw [Std.ExtTreeMap.contains_eq_isSome_getElem?] at hname
          exact Option.not_isSome_iff_eq_none.1 hname
        refine .created hmint hunnamed (State.makeResult_outcome ..) (State.makeResult_policy ..) ?_ ?_
        · rw [State.recordAttempt_policies, State.addPolicy, State.reindexPolicy_policies]
          rfl
        · rw [State.recordAttempt_directory, State.addPolicy, State.reindexPolicy_directory]
          rfl

theorem step_creates {now : Ticks} {request : CreatePolicyRequest} {result : OperationResult}
    (h : e.step config (.createPolicy now request) = some (e', .result result)) :
    CreateEffect e now request result e' := by
  obtain ⟨⟨e₁, answer⟩, hcreate, he⟩ := Option.map_eq_some_iff.1 h
  cases he
  exact createPolicy_cases hcreate

theorem CreateEffect.revocations {now : Ticks} {request : CreatePolicyRequest}
    {result : OperationResult} (h : CreateEffect e now request result e') :
    e'.state.revocations = e.state.revocations := by
  cases h with
  | refused _ _ directory => exact State.revocations_of_directory directory
  | created _ _ _ _ _ directory => exact congrArg Prod.snd directory

/-- What one operation makes of the directory. -/
inductive DirectoryChange (config : EngineConfig) (e : Engine) (op : Op) (answer : Answer)
    (e' : Engine) : Prop
  | kept (same : e'.state.directory = e.state.directory)
  | created {now : Ticks} {request : CreatePolicyRequest} {result : OperationResult}
      (creates : op = .createPolicy now request) (answers : answer = .result result)
      (effect : CreateEffect e now request result e')
  | revoked {request : RevokePolicyRequest} {record : PolicyRecord} {revocation : RevocationRecord}
      (revokes : op = .revokePolicy request)
      (checks : e.state.revokeChecks config.limits request = .ok record)
      (names : revocation.policy = request.policy)
      (writes : e'.state.directory =
        (e.state.policyNames, e.state.revocations.insertIfNew request.policy revocation))
  | recovered {now : Ticks} {durable : DurableState} {epoch : CoordinatorEpoch}
      {authority : AdaptiveAuthorityGeneration} (recovers : op.recovers config.limits = some durable)
      (state : e'.state = State.recoveredState config now durable epoch authority)

theorem step_directory (h : e.step config op = some (e', answer)) :
    DirectoryChange config e op answer e' := by
  cases op with
  | registerPublisher publisher workerBoot scope session =>
    cases h
    refine .kept ?_
    show (e.state.registerPublisher config.limits publisher workerBoot scope session).1.directory = _
    unfold State.registerPublisher
    split
    · rfl
    · dsimp only
      split
      · rfl
      · split <;> rfl
  | fencePublisher publisher workerBoot cause =>
    cases h
    refine .kept ?_
    show (e.state.fencePublisher publisher workerBoot cause).1.directory = _
    unfold State.fencePublisher
    split
    · rfl
    · split <;> rfl
  | advanceEpoch reason =>
    cases h
    refine .kept ?_
    show (e.state.advanceEpoch reason).1.directory = _
    unfold State.advanceEpoch
    split
    · rfl
    · dsimp only
      split
      · rfl
      · exact foldl_keeps (f := State.fenceLive) State.directory (fun _ _ => rfl) _ _
  | createPolicy now request =>
    obtain ⟨⟨e₁, result⟩, hcreate, he⟩ := Option.map_eq_some_iff.1 h
    cases he
    exact .created rfl rfl (createPolicy_cases hcreate)
  | updatePolicy now request =>
    cases h
    exact .kept (State.updatePolicy_directory ..)
  | transitionPolicy request =>
    cases h
    exact .kept (State.transitionPolicy_directory ..)
  | revokePolicy request =>
    cases h
    cases hchecks : e.state.revokeChecks config.limits request with
    | error refusal => exact .kept (by simp [State.revokePolicy, hchecks])
    | ok record =>
      refine .revoked rfl hchecks ?_ (by simp only [State.revokePolicy, hchecks]; rfl)
      rfl
  | applyUpstream request =>
    cases h
    exact .kept (State.applyUpstream_directory ..)
  | publishEvidence clock request =>
    cases h
    exact .kept (State.publishEvidence_directory ..)
  | beginEvaluation now request =>
    obtain ⟨⟨e₁, ticket⟩, hbegin, he⟩ := Option.map_eq_some_iff.1 h
    cases he
    exact .kept (congrArg State.directory (beginEvaluation_cases hbegin).1)
  | commitEvaluation now request =>
    obtain ⟨⟨e₁, result⟩, hcommit, he⟩ := Option.map_eq_some_iff.1 h
    cases he
    exact .kept (commitEvaluation_cases hcommit).directory
  | evaluate begun committed request =>
    obtain ⟨⟨e₁, result⟩, hevaluate, he⟩ := Option.map_eq_some_iff.1 h
    cases he
    obtain ⟨e₂, ticket, hbegin, ⟨hs, -⟩ | ⟨-, hs⟩⟩ := evaluate_cases hevaluate
    · exact .kept (congrArg State.directory hs)
    · exact .kept hs.directory
  | rollback now request =>
    obtain ⟨⟨e₁, result⟩, hrollback, he⟩ := Option.map_eq_some_iff.1 h
    cases he
    exact .kept (rollback_cases hrollback).directory
  | revalidate policy context =>
    cases h
    exact .kept (State.transitionPolicy_directory ..)
  | snapshot now policy =>
    obtain ⟨⟨e₁, view⟩, hsnapshot, he⟩ := Option.map_eq_some_iff.1 h
    cases he
    refine .kept ?_
    show e₁.state.directory = _
    rcases snapshot_cases hsnapshot with hs | ⟨retained, hs⟩
    · rw [hs]
    · rw [hs]
      rfl
  | decodeStore now decoded origin =>
    cases h
    cases decoded with
    | error refusal => exact .kept rfl
    | ok durable =>
      rcases applyDurable_cases e.state config now durable origin with
        ⟨-, hs⟩ | ⟨hadmissible, epoch, authority, -, -, hs⟩
      · exact .kept (congrArg State.directory hs)
      · exact .recovered (by simp [Op.recovers, hadmissible]) hs

end

end AdaptiveRouting
