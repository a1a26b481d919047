import AdaptiveRouting.Proof.Reverse
import AdaptiveRouting.Proof.Records
import AdaptiveRouting.Proof.Scenario

/-!
# The reverse indexes against a scan

Which operations touch the indexes and what a scan reads (`step_scan`). In every reachable state the
indexes list nothing that a scan does not report, keep no empty entry and list every route and set
(`Indexed.reachable`). The path index is bounded: paths and sources are complete in the runs whose
steps do not overflow it (`Overflows`).
-/

namespace AdaptiveRouting

open Guard Engine Multimap

/-! ## Frames -/

namespace State

theorem SameScan.of {s s' : State} (hindexes : s'.indexes = s.indexes)
    (hgauges : s'.gauges = s.gauges) (hpolicies : s'.policies = s.policies) : SameScan s s' where
  indexes := hindexes
  evidence := evidence_of_gauges hgauges
  outline := fun policy => by
    unfold State.outline
    rw [hpolicies]

@[simp] theorem recordAttempt_indexes (s : State) (limits : Limits) (attempt : MutationAttemptId)
    (fingerprint : Text) (outcome : Outcome) (detail : Text) :
    (s.recordAttempt limits attempt fingerprint outcome detail).indexes = s.indexes := by
  obtain ⟨_, _, h⟩ := s.recordAttempt_eq limits attempt fingerprint outcome detail
  rw [h]
  rfl

@[simp] theorem journal_indexes (s : State) (limits : Limits) (decision : AdaptationDecision) :
    (s.journal limits decision).indexes = s.indexes := rfl

@[simp] theorem putRecord_indexes (s : State) (policy : AdaptivePolicyId) (record : PolicyRecord) :
    (s.putRecord policy record).indexes = s.indexes := rfl

theorem recordAttempt_sameScan (s : State) (limits : Limits) (attempt : MutationAttemptId)
    (fingerprint : Text) (outcome : Outcome) (detail : Text) :
    SameScan s (s.recordAttempt limits attempt fingerprint outcome detail) :=
  .of (recordAttempt_indexes ..) (recordAttempt_gauges ..) (recordAttempt_policies ..)

end State

open State

theorem CommitEffect.indexes {limits : Limits} {s s' : State} {now : Ticks}
    {request : CommitDecisionRequest} {outcome : Outcome}
    (h : CommitEffect limits s now request s' outcome) : s'.indexes = s.indexes := by
  cases h <;> simp

theorem RollbackEffect.indexes {limits : Limits} {s s' : State} {now : Ticks}
    {request : RollbackRequest} {outcome : Outcome}
    (h : RollbackEffect limits s now request s' outcome) : s'.indexes = s.indexes := by
  cases h <;> simp

theorem transitionPolicy_indexes (s : State) (request : PolicyLifecycleRequest) :
    (s.transitionPolicy request).1.indexes = s.indexes := by
  rcases transitionPolicy_state s request with h | ⟨_, _, -, ⟨-, -, h⟩ | ⟨-, h⟩⟩ <;> rw [h] <;> rfl

theorem registerPublisher_indexes (s : State) (limits : Limits) (publisher : PublisherId)
    (workerBoot : WorkerBootId) (scope : AuthorityScope) (session : SessionId) :
    (s.registerPublisher limits publisher workerBoot scope session).1.indexes = s.indexes := by
  unfold State.registerPublisher
  split
  · rfl
  · dsimp only
    split
    · rfl
    · split <;> rfl

theorem advanceEpoch_indexes (s : State) (reason : Text) :
    (s.advanceEpoch reason).1.indexes = s.indexes := by
  unfold State.advanceEpoch
  split
  · rfl
  · dsimp only
    split
    · rfl
    · exact foldl_keeps (f := State.fenceLive) State.indexes (fun _ _ => rfl) _ _

/-- The operations that touch an index, the evidence, a target or the paths of a policy. -/
def Op.indexes : Op → Bool
  | .createPolicy .. | .updatePolicy .. | .applyUpstream .. | .publishEvidence .. | .decodeStore .. => true
  | _ => false

section
variable {config : EngineConfig} {e e' : Engine} {op : Op} {answer : Answer}

theorem step_indexes (h : e.step config op = some (e', answer)) (hop : op.indexes = false) :
    e'.state.indexes = e.state.indexes := by
  cases op with
  | registerPublisher publisher workerBoot scope session =>
    cases h
    exact registerPublisher_indexes ..
  | fencePublisher publisher workerBoot cause =>
    cases h
    show (e.state.fencePublisher publisher workerBoot cause).1.indexes = _
    unfold State.fencePublisher
    split
    · rfl
    · split <;> rfl
  | advanceEpoch reason =>
    cases h
    exact advanceEpoch_indexes ..
  | transitionPolicy request =>
    cases h
    exact transitionPolicy_indexes ..
  | revokePolicy request =>
    cases h
    show (e.state.revokePolicy config.limits request).1.indexes = _
    unfold State.revokePolicy
    split <;> rfl
  | beginEvaluation now request =>
    obtain ⟨⟨e₁, ticket⟩, hbegin, he⟩ := Option.map_eq_some_iff.1 h
    cases he
    exact congrArg State.indexes (beginEvaluation_cases hbegin).1
  | commitEvaluation now request =>
    obtain ⟨⟨e₁, result⟩, hcommit, he⟩ := Option.map_eq_some_iff.1 h
    cases he
    exact (commitEvaluation_cases hcommit).indexes
  | evaluate begun committed request =>
    obtain ⟨⟨e₁, result⟩, hevaluate, he⟩ := Option.map_eq_some_iff.1 h
    cases he
    obtain ⟨e₂, ticket, hbegin, ⟨hs, -⟩ | ⟨-, hs⟩⟩ := evaluate_cases hevaluate
    · exact congrArg State.indexes hs
    · exact hs.indexes
  | rollback now request =>
    obtain ⟨⟨e₁, result⟩, hrollback, he⟩ := Option.map_eq_some_iff.1 h
    cases he
    exact (rollback_cases hrollback).indexes
  | revalidate policy context =>
    cases h
    exact transitionPolicy_indexes ..
  | snapshot now policy =>
    obtain ⟨⟨e₁, view⟩, hsnapshot, he⟩ := Option.map_eq_some_iff.1 h
    cases he
    show e₁.state.indexes = _
    rcases snapshot_cases hsnapshot with hs | ⟨retained, hs⟩
    · rw [hs]
    · rw [hs]
      rfl
  | createPolicy | updatePolicy | applyUpstream | publishEvidence | decodeStore => cases hop

theorem step_outline (h : e.step config op = some (e', answer)) (hop : op.indexes = false)
    (policy : AdaptivePolicyId) : e'.state.outline policy = e.state.outline policy := by
  have hchange := step_policies h
  unfold State.outline
  generalize e'.state.policies = policies at hchange ⊢
  cases hchange with
  | kept => rfl
  | @rewritten subject before after found rewrites =>
    by_cases hsubject : subject = policy
    · subst hsubject
      rw [Std.ExtTreeMap.getElem?_insert_self, found]
      cases rewrites with
      | updated => cases hop
      | held | moved | revoked | suppressed | committed | restored => rfl
    · rw [get_insert_ne hsubject]
  | created creates => rw [creates] at hop; cases hop
  | advanced =>
    rw [Std.ExtTreeMap.getElem?_map, Option.map_map]
    refine Option.map_congr fun record _ => ?_
    show ((State.requireRevalidation record).paths,
      (State.requireRevalidation record).policy.semantics.target) = _
    unfold State.requireRevalidation
    split <;> rfl
  | notified notifies => rw [notifies] at hop; cases hop
  | recovered decodes => rw [decodes] at hop; cases hop

theorem step_sameScan (h : e.step config op = some (e', answer)) (hop : op.indexes = false) :
    SameScan e.state e'.state where
  indexes := step_indexes h hop
  evidence := by
    have hrecovers : op.recovers config.limits = none := by
      cases op with
      | decodeStore => cases hop
      | _ => rfl
    cases step_gauges h hrecovers with
    | kept same => exact evidence_of_gauges same
    | notified notifies => rw [notifies] at hop; cases hop
    | published publishes => rw [publishes] at hop; cases hop
  outline := step_outline h hop

/-- What one operation makes of the indexes and of what a scan reads. -/
inductive ScanChange (config : EngineConfig) (e : Engine) (op : Op) (s' : State) : Prop
  | kept (same : SameScan e.state s')
  | created {now : Ticks} {request : CreatePolicyRequest} {record : PolicyRecord}
      {names : Std.ExtTreeMap AdaptivePolicyName AdaptivePolicyId}
      (creates : op = .createPolicy now request) (fresh : record.candidates = [])
      (same : SameScan ((e.state.inserted record names).reindexPolicy config.limits record.policy.id) s')
  | updated {now : Ticks} {request : UpdatePolicyRequest} {record : PolicyRecord} {fingerprint : Text}
      {generation : AdaptivePolicyGeneration} (updates : op = .updatePolicy now request)
      (checks : e.state.updateChecks config.limits request = .ok (record, fingerprint, generation))
      (same : SameScan ((e.state.withdrawn request.policy
        (e.state.updatedRecord now request generation record)).reindexPolicy config.limits
          request.policy) s')
  | notified {request : UpstreamNotifyRequest} {fingerprint : Text}
      (notifies : op = .applyUpstream request)
      (checks : e.state.upstreamChecks config.limits request = .ok fingerprint)
      (same : SameScan (State.applyNotifications config.limits request.context e.state
        request.notifications).1 s')
  | exhausted {clock : Nat → Ticks} {request : PublishEvidenceRequest} {fingerprint : Text}
      (publishes : op = .publishEvidence clock request)
      (checks : e.state.publishChecks config.limits request = .ok fingerprint)
      (last : e.state.evidenceGeneration.next = none)
      (same : s' = (acceptances clock request.publications).foldl
        (State.applyPublication config.limits) e.state)
  | published {clock : Nat → Ticks} {request : PublishEvidenceRequest} {fingerprint : Text}
      (publishes : op = .publishEvidence clock request)
      (checks : e.state.publishChecks config.limits request = .ok fingerprint)
      (same : SameScan (((acceptances clock request.publications).foldl
        (State.applyPublication config.limits) e.state).indexSources request.publications) s')
  | recovered {now : Ticks} {durable : DurableState} {epoch : CoordinatorEpoch}
      {authority : AdaptiveAuthorityGeneration}
      (same : s' = State.recoveredState config now durable epoch authority)

theorem step_scan (h : e.step config op = some (e', answer)) : ScanChange config e op e'.state := by
  by_cases hop : op.indexes = false
  · exact .kept (step_sameScan h hop)
  cases op with
  | createPolicy now request =>
    obtain ⟨⟨e₁, result⟩, hcreate, he⟩ := Option.map_eq_some_iff.1 h
    cases he
    show ScanChange config e _ e₁.state
    rcases createPolicy_state hcreate with hs | ⟨_, -, ⟨_, _, hs⟩ | ⟨_, _, -, hs⟩⟩
    · rw [hs]
      exact .kept (.refl _)
    · rw [hs]
      exact .kept (recordAttempt_sameScan ..)
    · rw [hs]
      exact .created rfl rfl (recordAttempt_sameScan ..)
  | updatePolicy now request =>
    cases h
    show ScanChange config e _ (e.state.updatePolicy config.limits now request).1
    unfold State.updatePolicy
    split
    · exact .kept (.refl _)
    · rename_i record fingerprint generation hchecks
      exact .updated rfl hchecks (recordAttempt_sameScan ..)
  | applyUpstream request =>
    cases h
    show ScanChange config e _ (e.state.applyUpstream config.limits request).1
    unfold State.applyUpstream
    split
    · exact .kept (.refl _)
    · rename_i fingerprint hchecks
      refine .notified rfl hchecks ?_
      split
      · rename_i happlied
        rw [happlied]
        exact .refl _
      · rename_i happlied
        rw [happlied]
        exact recordAttempt_sameScan ..
  | publishEvidence clock request =>
    cases h
    show ScanChange config e _ (e.state.publishEvidence config.limits clock request).1
    unfold State.publishEvidence
    split
    · exact .kept (.refl _)
    · rename_i fingerprint hchecks
      have hgeneration := foldl_keeps (f := State.applyPublication config.limits)
        State.evidenceGeneration (fun _ _ => rfl) (acceptances clock request.publications) e.state
      dsimp only
      rw [hgeneration]
      cases hnext : e.state.evidenceGeneration.next with
      | none => exact .exhausted rfl hchecks hnext rfl
      | some generation =>
        refine .published rfl hchecks (.trans ?_ (recordAttempt_sameScan ..))
        exact ⟨rfl, rfl, fun _ => rfl⟩
  | decodeStore now decoded origin =>
    cases h
    show ScanChange config e _ (e.state.decodeStore config now decoded origin).1
    cases decoded with
    | error refusal => exact .kept (.refl _)
    | ok durable =>
      show ScanChange config e _ (e.state.applyDurable config now durable origin).1
      rcases applyDurable_cases e.state config now durable origin with
        ⟨-, hs⟩ | ⟨-, epoch, authority, -, -, hs⟩
      · rw [hs]
        exact .kept (.refl _)
      · exact .recovered hs
  | registerPublisher | fencePublisher | advanceEpoch | transitionPolicy | revokePolicy
  | beginEvaluation | commitEvaluation | evaluate | rollback | revalidate | snapshot =>
    exact absurd rfl hop

end

/-! ## Indexed states -/

/-- The indexes list nothing that a scan does not report and keep no empty entry, every route and set
is listed, and the path index is within its bound. -/
structure Indexed (limits : Limits) (s : State) : Prop where
  listed : s.Reported
  routes : ∀ policy, s.RoutesOf policy
  bounded : s.policiesByPath.size ≤ limits.indexedPaths

section
variable {limits : Limits} {s s' : State} {policy other : AdaptivePolicyId}

theorem Indexed.congr (hs : Indexed limits s) (h : SameScan s s') : Indexed limits s' where
  listed := hs.listed.congr h
  routes := fun policy => (hs.routes policy).congr h
  bounded := by
    rw [h.byPath]
    exact hs.bounded

/-- Indexing a policy whose own route and set are not listed yet. -/
theorem Indexed.reindex (hl : s.Reported) (hr : ∀ other, policy ≠ other → s.RoutesOf other)
    (hb : s.policiesByPath.size ≤ limits.indexedPaths) :
    Indexed limits (s.reindexPolicy limits policy) where
  listed := State.reindexPolicy_listed hl
  routes := fun other => State.reindexPolicy_routesOf (hr other)
  bounded := by
    cases hrecord : s.policies[policy]? with
    | none =>
      unfold State.reindexPolicy
      rw [hrecord]
      exact hb
    | some record =>
      rw [State.reindexPolicy_of hrecord]
      exact State.indexPaths_size _ hb

theorem State.putRecord_outline {record : PolicyRecord} (hne : policy ≠ other) :
    (s.putRecord policy record).outline other = s.outline other := by
  unfold State.outline
  rw [State.putRecord_policies, get_insert_ne hne]

theorem State.RoutesOf.put {record : PolicyRecord} (hs : s.RoutesOf other) (hne : policy ≠ other) :
    (s.putRecord policy record).RoutesOf other where
  route := fun route htargets => by
    rw [State.targetsRoute_iff, State.putRecord_outline hne, ← State.targetsRoute_iff] at htargets
    exact hs.route route htargets
  set := fun set htargets => by
    rw [State.targetsSet_iff, State.putRecord_outline hne, ← State.targetsSet_iff] at htargets
    exact hs.set set htargets

theorem State.PathsOf.put {record : PolicyRecord} (hs : s.PathsOf other) (hne : policy ≠ other) :
    (s.putRecord policy record).PathsOf other where
  path := fun path hbinds =>
    hs.path path ((State.binds_congr (State.putRecord_outline hne) path).1 hbinds)
  source := fun source hhears => by
    have hevidence : (s.putRecord policy record).evidence = s.evidence := rfl
    have houtline : (s.putRecord policy record).outline other = s.outline other :=
      State.putRecord_outline hne
    exact hs.source source ((State.hearsFrom_congr hevidence houtline source).1 hhears)

theorem Indexed.notification {context : MutationContext} {n : UpstreamNotification}
    (hs : Indexed limits s) (h : s.applyNotification limits context n = .ok s') :
    Indexed limits s' := by
  obtain ⟨record, _, haccepted, happlies⟩ := State.applyNotification_ok h
  rcases happlies.scan haccepted.found with hsame | ⟨-, rfl⟩
  · exact hs.congr hsame
  · exact .reindex ((State.declared_gains haccepted.found).listed hs.listed)
      (fun other hne => (hs.routes other).put hne) hs.bounded

theorem Indexed.withdrawn (hs : Indexed limits s) (record : PolicyRecord) :
    Indexed limits ((s.withdrawn policy record).reindexPolicy limits policy) := by
  refine .reindex (State.withdrawn_listed hs.listed record)
    (fun other hne => State.withdrawn_routesOf hs.listed (hs.routes other) record hne) ?_
  refine Nat.le_trans (size_le_of_keys fun path hpath => ?_) hs.bounded
  obtain ⟨other, hlists⟩ := (State.unindexPolicy_tidy hs.listed policy).1.mem_iff.1 hpath
  exact hs.listed.tidyPath.mem_iff.2 ⟨other, ((State.enlists_unindexPath hs.listed).1 hlists).1⟩

/-! ## A recovery -/

/-- Indexing every policy of a state with empty indexes. -/
theorem Indexed.rebuild (policies : List AdaptivePolicyId) (hl : s.Reported)
    (hr : ∀ policy, policy ∉ policies → s.RoutesOf policy)
    (hb : s.policiesByPath.size ≤ limits.indexedPaths) :
    Indexed limits (policies.foldl (fun s policy => s.reindexPolicy limits policy) s) := by
  induction policies generalizing s with
  | nil => exact ⟨hl, fun policy => hr policy (by simp), hb⟩
  | cons p rest ih =>
    rw [List.foldl_cons]
    refine ih (State.reindexPolicy_listed hl) (fun policy hnot => ?_) ?_
    · exact State.reindexPolicy_routesOf fun hne =>
        hr policy (by simpa [Ne.symm hne] using hnot)
    · cases hrecord : s.policies[p]? with
      | none =>
        unfold State.reindexPolicy
        rw [hrecord]
        exact hb
      | some record =>
        rw [State.reindexPolicy_of hrecord]
        exact State.indexPaths_size _ hb

/-- A recovery starts from empty indexes. -/
theorem recoveredState_rebuilds (config : EngineConfig) (now : Ticks) (d : DurableState)
    (epoch : CoordinatorEpoch) (authority : AdaptiveAuthorityGeneration) :
    ∃ s : State, s.indexes = ⟨{}, {}, {}, {}⟩ ∧
      State.recoveredState config now d epoch authority =
        s.policies.keys.foldl (fun s policy => s.reindexPolicy config.limits policy) s := by
  unfold State.recoveredState
  dsimp only
  refine ⟨_, ?_, rfl⟩
  change State.indexes (d.history.foldl (State.restoreHistory config.limits) _) = _
  rw [foldl_keeps (f := State.restoreHistory config.limits) State.indexes fun _ _ => rfl,
    foldl_keeps (f := State.restoreRevocation) State.indexes fun s revocation => by
      unfold State.restoreRevocation
      split <;> rfl,
    foldl_keeps (f := State.restoreTiming now) State.indexes fun _ _ => rfl,
    foldl_keeps (f := State.restoreStable) State.indexes fun _ _ => rfl,
    foldl_keeps (f := State.restorePreference) State.indexes fun _ _ => rfl,
    foldl_keeps (f := State.restorePolicy config.conservativeRecovery) State.indexes fun _ _ => rfl]
  rfl

/-- Empty indexes list nothing. -/
theorem State.Reported.of_empty (h : s.indexes = ⟨{}, {}, {}, {}⟩) : s.Reported := by
  have hpath : s.policiesByPath = ∅ := congrArg State.IndexTables.byPath h
  have hroute : s.policiesByRoute = ∅ := congrArg State.IndexTables.byRoute h
  have hset : s.policiesBySet = ∅ := congrArg State.IndexTables.bySet h
  have hsource : s.policiesBySource = ∅ := congrArg State.IndexTables.bySource h
  refine ⟨hpath ▸ tidy_empty, hroute ▸ tidy_empty, hset ▸ tidy_empty, hsource ▸ tidy_empty, ?_, ?_,
    ?_, ?_⟩
  · intro path policy hlists
    rw [hpath] at hlists
    exact absurd hlists not_enlists_empty
  · intro route policy hlists
    rw [hroute] at hlists
    exact absurd hlists not_enlists_empty
  · intro set policy hlists
    rw [hset] at hlists
    exact absurd hlists not_enlists_empty
  · intro source policy hlists
    rw [hsource] at hlists
    exact absurd hlists not_enlists_empty

theorem State.RoutesOf.of_none (h : s.policies[policy]? = none) : s.RoutesOf policy where
  route := fun route htargets => by
    obtain ⟨record, hrecord, -⟩ := htargets
    rw [h] at hrecord
    cases hrecord
  set := fun set htargets => by
    obtain ⟨record, hrecord, -⟩ := htargets
    rw [h] at hrecord
    cases hrecord

theorem recoveredState_indexed (config : EngineConfig) (now : Ticks) (d : DurableState)
    (epoch : CoordinatorEpoch) (authority : AdaptiveAuthorityGeneration) :
    Indexed config.limits (State.recoveredState config now d epoch authority) := by
  obtain ⟨s, hempty, h⟩ := recoveredState_rebuilds config now d epoch authority
  rw [h]
  refine .rebuild _ (.of_empty hempty) (fun policy hnot => .of_none ?_) ?_
  · rw [Std.ExtTreeMap.mem_keys, Std.ExtTreeMap.mem_iff_isSome_getElem?] at hnot
    exact Option.not_isSome_iff_eq_none.1 hnot
  · have hpath : s.policiesByPath = ∅ := congrArg State.IndexTables.byPath hempty
    rw [hpath]
    exact Nat.zero_le _

/-- A recovered policy has no candidates, so it binds no path. -/
theorem recoveredState_pathsOf (config : EngineConfig) (now : Ticks) (d : DurableState)
    (epoch : CoordinatorEpoch) (authority : AdaptiveAuthorityGeneration) (policy : AdaptivePolicyId) :
    (State.recoveredState config now d epoch authority).PathsOf policy := by
  have hnone : ∀ path, ¬ (State.recoveredState config now d epoch authority).Binds policy path := by
    rintro path ⟨record, hrecord, hpath⟩
    obtain ⟨_, -, -, -, hempty⟩ :=
      recoveredState_from config now d epoch authority policy record hrecord
    unfold PolicyRecord.paths at hpath
    rw [hempty] at hpath
    cases hpath
  refine ⟨fun path hbinds => absurd hbinds (hnone path), ?_⟩
  rintro source ⟨key, -, -, hbinds⟩
  exact absurd hbinds (hnone key.path)

end

/-! ## A publication -/

/-- Only the evidence and the index of its sources differ. -/
structure Heard (s s' : State) : Prop where
  byPath : s'.policiesByPath = s.policiesByPath
  byRoute : s'.policiesByRoute = s.policiesByRoute
  bySet : s'.policiesBySet = s.policiesBySet
  outline : ∀ policy, s'.outline policy = s.outline policy

theorem publications_heard (limits : Limits) (batch : List (Ticks × EvidencePublication))
    (s : State) : Heard s (batch.foldl (State.applyPublication limits) s) ∧
      (batch.foldl (State.applyPublication limits) s).policiesBySource =
        s.policiesBySource := by
  have hindexes := foldl_keeps (f := State.applyPublication limits) State.indexes (fun _ _ => rfl)
    batch s
  have hpolicies := foldl_keeps (f := State.applyPublication limits) State.policies
    (fun _ _ => rfl) batch s
  refine ⟨⟨congrArg State.IndexTables.byPath hindexes, congrArg State.IndexTables.byRoute hindexes,
    congrArg State.IndexTables.bySet hindexes, fun policy => ?_⟩,
    congrArg State.IndexTables.bySource hindexes⟩
  unfold State.outline
  rw [hpolicies]

section
variable {limits : Limits} {s s' : State} {policy : AdaptivePolicyId}

theorem Heard.indexed (h : Heard s s') (hs : Indexed limits s) (htidy : Tidy s'.policiesBySource)
    (hsource : ∀ source policy, Enlists s'.policiesBySource source policy →
      s'.HearsFrom policy source) : Indexed limits s' where
  listed :=
    { tidyPath := h.byPath ▸ hs.listed.tidyPath
      tidyRoute := h.byRoute ▸ hs.listed.tidyRoute
      tidySet := h.bySet ▸ hs.listed.tidySet
      tidySource := htidy
      path := fun path policy hlists =>
        (State.binds_congr (h.outline policy) path).2 (hs.listed.path path policy (h.byPath ▸ hlists))
      route := fun route policy hlists => by
        have htargets := hs.listed.route route policy (h.byRoute ▸ hlists)
        rwa [State.targetsRoute_iff, ← h.outline, ← State.targetsRoute_iff] at htargets
      set := fun set policy hlists => by
        have htargets := hs.listed.set set policy (h.bySet ▸ hlists)
        rwa [State.targetsSet_iff, ← h.outline, ← State.targetsSet_iff] at htargets
      source := hsource }
  routes := fun policy =>
    { route := fun route htargets => by
        rw [State.targetsRoute_iff, h.outline, ← State.targetsRoute_iff] at htargets
        exact h.byRoute ▸ (hs.routes policy).route route htargets
      set := fun set htargets => by
        rw [State.targetsSet_iff, h.outline, ← State.targetsSet_iff] at htargets
        exact h.bySet ▸ (hs.routes policy).set set htargets }
  bounded := by
    rw [h.byPath]
    exact hs.bounded

/-- A publication that is not indexed. -/
theorem Indexed.publications (hs : Indexed limits s) (batch : List (Ticks × EvidencePublication)) :
    Indexed limits (batch.foldl (State.applyPublication limits) s) := by
  obtain ⟨hheard, hsame⟩ := publications_heard limits batch s
  refine hheard.indexed hs (hsame ▸ hs.listed.tidySource) fun source policy hlists => ?_
  rw [hsame] at hlists
  exact (State.hearsFrom_published batch).2 (.inl (hs.listed.source source policy hlists))

/-- A publication whose sources are indexed. -/
theorem Indexed.indexSources (hs : Indexed limits s) (batch : List (Ticks × EvidencePublication)) :
    Indexed limits ((batch.foldl (State.applyPublication limits) s).indexSources
      (batch.map (·.2))) := by
  have hpublished := hs.publications batch
  obtain ⟨hheard, hsame⟩ := publications_heard limits batch s
  have hindexed : Heard (batch.foldl (State.applyPublication limits) s)
      ((batch.foldl (State.applyPublication limits) s).indexSources (batch.map (·.2))) :=
    ⟨rfl, rfl, rfl, fun _ => rfl⟩
  refine hindexed.indexed hpublished
    (State.indexSources_tidy hpublished.listed.tidySource (batch.map (·.2))) fun source policy hlists => ?_
  have hhears : (batch.foldl (State.applyPublication limits) s).HearsFrom policy source := by
    rcases (State.enlists_indexSources (batch.map (·.2))).1 hlists with ⟨p, hp, hsource, hpath⟩ | hlists
    · rw [hheard.byPath] at hpath
      exact (State.hearsFrom_published batch).2
        (.inr ⟨p, hp, hsource, hs.listed.path _ _ hpath⟩)
    · exact hpublished.listed.source source policy hlists
  exact hhears

theorem State.PathsOf.publications (hs : s.PathsOf policy)
    {batch : List (Ticks × EvidencePublication)}
    (hheard : ∀ p ∈ batch.map (·.2), s.Binds policy p.path → s.HearsFrom policy p.source) :
    (batch.foldl (State.applyPublication limits) s).PathsOf policy := by
  obtain ⟨hframe, hsame⟩ := publications_heard limits batch s
  refine ⟨fun path hbinds => ?_, fun source hhears => ?_⟩
  · rw [hframe.byPath]
    exact hs.path path ((State.binds_congr (hframe.outline policy) path).1 hbinds)
  · rw [hsame]
    rcases (State.hearsFrom_published batch).1 hhears with hhears | ⟨p, hp, rfl, hbinds⟩
    · exact hs.source source hhears
    · exact hs.source p.source (hheard p hp hbinds)

theorem State.PathsOf.indexSources (hs : s.PathsOf policy)
    (batch : List (Ticks × EvidencePublication)) :
    ((batch.foldl (State.applyPublication limits) s).indexSources (batch.map (·.2))).PathsOf
      policy := by
  obtain ⟨hframe, hsame⟩ := publications_heard limits batch s
  refine ⟨fun path hbinds => ?_, fun source hhears => ?_⟩
  · show Enlists (batch.foldl (State.applyPublication limits) s).policiesByPath path policy
    rw [hframe.byPath]
    exact hs.path path ((State.binds_congr (hframe.outline policy) path).1 hbinds)
  · have hhears' : (batch.foldl (State.applyPublication limits) s).HearsFrom policy source :=
      hhears
    rw [State.enlists_indexSources, hframe.byPath, hsame]
    rcases (State.hearsFrom_published batch).1 hhears' with hhears | ⟨p, hp, rfl, hbinds⟩
    · exact .inr (hs.source source hhears)
    · exact .inl ⟨p, hp, rfl, hs.path p.path hbinds⟩

end

/-! ## Runs -/

/-- The operation leaves something unlisted: the path index is full for a new candidate, or for the
candidates an update keeps, or an exhausted publication brings a source to a path. -/
inductive Overflows (limits : Limits) (s : State) : Op → Prop
  | declared {request : UpstreamNotifyRequest} {fingerprint : Text} {reached after : State}
      {n : UpstreamNotification} {record : PolicyRecord}
      (checks : s.upstreamChecks limits request = .ok fingerprint)
      (reaches : State.BatchReaches limits request.context s request.notifications reached n)
      (applies : reached.applyNotification limits request.context n = .ok after)
      (found : reached.policies[n.policy]? = some record) (declares : State.Declares n record)
      (full : limits.indexedPaths ≤ reached.policiesByPath.size) :
      Overflows limits s (.applyUpstream request)
  | updated {now : Ticks} {request : UpdatePolicyRequest} {record : PolicyRecord} {fingerprint : Text}
      {generation : AdaptivePolicyGeneration} {last : CandidateRecord} {other : AdaptivePolicyId}
      (checks : s.updateChecks limits request = .ok (record, fingerprint, generation))
      (keeps : record.policy.semantics.target = request.update.semantics.target)
      (full : limits.indexedPaths ≤ s.policiesByPath.size)
      (final : record.candidates.getLast? = some last) (foreign : request.policy ≠ other)
      (shared : s.Binds other last.binding.path) :
      Overflows limits s (.updatePolicy now request)
  | exhausted {clock : Nat → Ticks} {request : PublishEvidenceRequest} {fingerprint : Text}
      {p : EvidencePublication} {policy : AdaptivePolicyId}
      (checks : s.publishChecks limits request = .ok fingerprint)
      (last : s.evidenceGeneration.next = none) (publishes : p ∈ request.publications)
      (binds : s.Binds policy p.path) (unheard : ¬ s.HearsFrom policy p.source) :
      Overflows limits s (.publishEvidence clock request)

section
variable {config : EngineConfig} {e e' : Engine} {op : Op} {answer : Answer}

theorem Indexed.step (hs : Indexed config.limits e.state)
    (h : e.step config op = some (e', answer)) : Indexed config.limits e'.state := by
  cases step_scan h with
  | kept same => exact hs.congr same
  | @created now request record names creates fresh same =>
    refine Indexed.congr (.reindex (State.inserted_gains.listed hs.listed) (fun other hne => ?_)
      hs.bounded) same
    exact State.inserted_routesOf (hs.routes other) hne
  | updated updates checks same => exact (hs.withdrawn _).congr same
  | notified notifies checks same =>
    refine Indexed.congr ?_ same
    exact State.applyNotifications_inv (I := Indexed config.limits) hs
      fun _ _ _ _ happly hreached => hreached.notification happly
  | exhausted _ _ _ same =>
    rw [same]
    exact hs.publications _
  | @published clock request fingerprint _ _ same =>
    have hindexed := hs.indexSources (acceptances clock request.publications)
    rw [acceptances_map] at hindexed
    exact hindexed.congr same
  | recovered same =>
    rw [same]
    exact recoveredState_indexed ..

theorem Indexed.reachable (h : Reachable config e) : Indexed config.limits e.state := by
  obtain ⟨nonce, hrun⟩ := h
  refine hrun.inv (I := fun e => Indexed config.limits e.state)
    (fun _ _ _ _ _ hs hstep => hs.step hstep) ?_
  refine ⟨.of_empty rfl, fun policy => .of_none (by simp [Engine.start]), ?_⟩
  exact Nat.zero_le _

/-- A step that overflows nothing lists every path and every source. -/
theorem State.PathsOf.step (hs : Indexed config.limits e.state) (ho : Ordered e.state)
    (hp : ∀ policy, e.state.PathsOf policy) (hop : ¬ Overflows config.limits e.state op)
    (h : e.step config op = some (e', answer)) (policy : AdaptivePolicyId) :
    e'.state.PathsOf policy := by
  cases step_scan h with
  | kept same => exact (hp policy).congr same
  | created creates fresh same =>
    refine State.PathsOf.congr (State.reindexPolicy_pathsOf (fun hne => ?_) fun heq found hfound => ?_)
      same
    · exact State.inserted_pathsOf (hp policy) hne
    · exact State.inserted_vacant (hp _) fresh hfound
  | @updated now request record fingerprint generation updates checks same =>
    subst updates
    obtain ⟨_, haccepted⟩ := State.updateChecks_ok checks
    refine State.PathsOf.congr (State.reindexPolicy_pathsOf (fun hne => ?_) fun heq found hfound => ?_)
      same
    · exact State.withdrawn_pathsOf hs.listed (hp policy) _ hne
    · have hwritten : found = e.state.updatedRecord now request generation record := by
        unfold State.withdrawn at hfound
        dsimp only at hfound
        rw [Std.ExtTreeMap.getElem?_insert_self, Option.some.injEq] at hfound
        exact hfound.symm
      subst hwritten
      by_cases htarget : record.policy.semantics.target = request.update.semantics.target
      · have hcandidates : (e.state.updatedRecord now request generation record).candidates =
            record.candidates := by
          unfold State.updatedRecord
          simp [htarget]
        rw [hcandidates]
        refine State.withdrawn_vacant hs.listed (hp _) haccepted.found (ho _ _ haccepted.found)
          hs.bounded ?_
        by_cases hroom : e.state.policiesByPath.size < config.limits.indexedPaths
        · exact .inl hroom
        · refine .inr fun last other hlast hne hshared => hop ?_
          exact .updated checks htarget (Nat.le_of_not_lt hroom) hlast hne hshared
      · have hcandidates : (e.state.updatedRecord now request generation record).candidates = [] := by
          unfold State.updatedRecord
          simp [htarget]
        rw [hcandidates]
        intro before c after hsplit
        simp at hsplit
  | @notified request fingerprint notifies checks same =>
    subst notifies
    refine State.PathsOf.congr ?_ same
    have hbatch : (Indexed config.limits (State.applyNotifications config.limits request.context e.state
          request.notifications).1 ∧ Ordered (State.applyNotifications config.limits request.context
          e.state request.notifications).1) ∧
        ∀ policy, (State.applyNotifications config.limits request.context e.state
          request.notifications).1.PathsOf policy := by
      refine State.applyNotifications_inv
        (I := fun s => (Indexed config.limits s ∧ Ordered s) ∧ ∀ policy, s.PathsOf policy)
        ⟨⟨hs, ho⟩, hp⟩ ?_
      rintro reached n after hreaches happly ⟨⟨hindexed, hordered⟩, hlisted⟩
      have hordered' := State.applyNotification_ordered happly hordered
      refine ⟨⟨hindexed.notification happly, hordered'⟩, fun policy => ?_⟩
      obtain ⟨record, _, haccepted, happlies⟩ := State.applyNotification_ok happly
      rcases happlies.scan haccepted.found with hsame | ⟨hdeclares, hafter⟩
      · exact (hlisted policy).congr hsame
      · have hroom : reached.policiesByPath.size < config.limits.indexedPaths := by
          by_contra hfull
          exact hop (.declared checks hreaches happly haccepted.found hdeclares (Nat.le_of_not_lt hfull))
        rw [hafter]
        refine State.reindexPolicy_pathsOf (fun hne => (hlisted policy).put hne) fun _ found hfound => ?_
        rw [State.putRecord_policies, Std.ExtTreeMap.getElem?_insert_self, Option.some.injEq] at hfound
        subst hfound
        show State.Vacant config.limits.indexedPaths n.policy reached.policiesByPath
          (State.declaredRecord record n).candidates
        refine State.declared_vacant hindexed.listed (hlisted _) haccepted.found ?_ hroom
        exact (hordered _ _ haccepted.found).declare hdeclares.2
    exact hbatch.2 policy
  | @exhausted clock request fingerprint publishes checks last same =>
    subst publishes
    rw [same]
    refine (hp policy).publications fun p hmem hbinds => ?_
    by_contra hunheard
    rw [acceptances_map] at hmem
    exact hop (.exhausted checks last hmem hbinds hunheard)
  | @published clock request fingerprint _ _ same =>
    have hpaths := @State.PathsOf.indexSources config.limits e.state policy (hp policy)
      (acceptances clock request.publications)
    rw [acceptances_map] at hpaths
    exact State.PathsOf.congr hpaths same
  | recovered same =>
    rw [same]
    exact recoveredState_pathsOf ..

end

/-- The four indexes hold exactly what a scan reports, and no empty entry. -/
structure State.AgreesWithScan (s : State) : Prop where
  tidy : Tidy s.policiesByPath ∧ Tidy s.policiesByRoute ∧ Tidy s.policiesBySet ∧
    Tidy s.policiesBySource
  path : ∀ path policy, Enlists s.policiesByPath path policy ↔ s.Binds policy path
  route : ∀ route policy, Enlists s.policiesByRoute route policy ↔ s.TargetsRoute policy route
  set : ∀ set policy, Enlists s.policiesBySet set policy ↔ s.TargetsSet policy set
  source : ∀ source policy, Enlists s.policiesBySource source policy ↔ s.HearsFrom policy source

theorem Indexed.agrees {limits : Limits} {s : State} (hs : Indexed limits s)
    (hp : ∀ policy, s.PathsOf policy) : s.AgreesWithScan where
  tidy := ⟨hs.listed.tidyPath, hs.listed.tidyRoute, hs.listed.tidySet, hs.listed.tidySource⟩
  path := fun path policy => ⟨hs.listed.path path policy, (hp policy).path path⟩
  route := fun route policy => ⟨hs.listed.route route policy, (hs.routes policy).route route⟩
  set := fun set policy => ⟨hs.listed.set set policy, (hs.routes policy).set set⟩
  source := fun source policy => ⟨hs.listed.source source policy, (hp policy).source source⟩

/-- In every reachable state the indexes keep no empty entry and list only what a scan reports, the
route and the set of every policy among it, and the path index is within its bound. In every run that
overflows nothing they agree with the scan. -/
theorem indexes_follow_the_scan {config : EngineConfig} {nonce : Text} {e : Engine} :
    (Reachable config e → e.state.Reported ∧ (∀ policy, e.state.RoutesOf policy) ∧
      e.state.policiesByPath.size ≤ config.limits.indexedPaths) ∧
    (RunUnder config (fun e op => ¬ Overflows config.limits e.state op) (Engine.start config nonce) e →
      e.state.AgreesWithScan) := by
  refine ⟨fun hreachable => ?_, fun hrun => ?_⟩
  · have hs := Indexed.reachable hreachable
    exact ⟨hs.listed, hs.routes, hs.bounded⟩
  · have hreachable : Reachable config e := ⟨nonce, hrun.mono fun _ _ _ => trivial⟩
    refine (Indexed.reachable hreachable).agrees ?_
    have hstart : Indexed config.limits (Engine.start config nonce).state ∧
        Ordered (Engine.start config nonce).state :=
      ⟨Indexed.reachable ⟨nonce, .refl _⟩, Ordered.reachable ⟨nonce, .refl _⟩⟩
    refine hrun.inv_under (I := fun e => ∀ policy, e.state.PathsOf policy)
      (J := fun e => Indexed config.limits e.state ∧ Ordered e.state)
      (fun _ _ _ _ _ hj hstep => ⟨hj.1.step hstep, hj.2.step hstep⟩)
      (fun _ _ _ _ hop hj hp hstep policy => State.PathsOf.step hj.1 hj.2 hp hop hstep policy)
      hstart fun policy => ⟨fun path => ?_, fun source => ?_⟩
    · rintro ⟨record, hrecord, -⟩
      simp [Engine.start] at hrecord
    · rintro ⟨key, hkey, -⟩
      simp [Engine.start] at hkey

section
variable {limits : Limits} {s : State}

/-- The operations that bind no path and hear from no source. -/
def Op.sparse : Op → Bool
  | .applyUpstream .. | .updatePolicy .. | .publishEvidence .. => false
  | _ => true

theorem Overflows.not_sparse {op : Op} (h : op.sparse = true) : ¬ Overflows limits s op := by
  intro hoverflows
  cases hoverflows <;> cases h

theorem Overflows.not_single {request : UpstreamNotifyRequest}
    (hsingle : request.notifications.length ≤ 1)
    (hroom : s.policiesByPath.size < limits.indexedPaths) :
    ¬ Overflows limits s (.applyUpstream request) := by
  intro hoverflows
  cases hoverflows with
  | declared checks reaches applies found declares full =>
    obtain ⟨-, rfl⟩ := reaches.single hsingle
    omega

end

namespace Scenario

/-- A deployment that indexes sixteen paths. -/
def crowded : EngineConfig := { limits := { maxPoliciesPerPath := 1 } }

/-- Seventeen paths. -/
def spread : List PathId :=
  ["a", "b", "c", "d", "e", "f", "g", "h", "i", "j", "k", "l", "m", "n", "o", "p", "q"].map
    fun path : String => name path

def declareAll : Op := .applyUpstream
  { notifications := spread.map declare, context := context 1 "declare" }

/-- The engine that declared a candidate for each of them. -/
def overfull : Option Engine :=
  Runs.runAll (Engine.step crowded) (Engine.start crowded "n") (created ++ [declareAll])

end Scenario

open Scenario in
/-- The one candidate of the deployment is listed. -/
theorem declared_path_is_listed :
    (after (created ++ [notify (declare left) "left"])).state.AgreesWithScan := by
  have hreturns : returns (created ++ [notify (declare left) "left"]) = true := by decide +kernel
  have hcreated := Runs.runAll_under (fun op => op.sparse = true)
    (runAll_after (returns_front hreturns))
    fun op hmem => List.all_eq_true.1 (by decide +kernel : created.all Op.sparse = true) op hmem
  obtain ⟨answer, hstep⟩ := step_after created (notify (declare left) "left") hreturns
  have hroom : (after created).state.policiesByPath.size < config.limits.indexedPaths := by
    decide +kernel
  have hrun : RunUnder config (fun e op => ¬ Overflows config.limits e.state op) engine
      (after (created ++ [notify (declare left) "left"])) := by
    refine (hcreated.mono fun _ _ h => Overflows.not_sparse h).trans (Runs.Run.single ?_ hstep)
    exact Overflows.not_single (Nat.le_refl 1) hroom
  exact indexes_follow_the_scan.2 hrun

open Scenario in
/-- Of seventeen candidates the last is not listed under its path. -/
theorem seventeenth_path_is_not_listed : ¬ ∀ (config : EngineConfig) (e : Engine),
    Reachable config e → e.state.AgreesWithScan := by
  intro hclaim
  have hlast : overfull.any (fun e => !e.state.policiesByPath.contains (name "q") &&
      (e.state.policies[policy]?).any fun record => record.paths.contains (name "q")) = true := by
    decide +kernel
  obtain ⟨e, he, htest⟩ := (Option.any_eq_true _ _).1 hlast
  rw [Bool.and_eq_true, Bool.not_eq_true', Option.any_eq_true] at htest
  obtain ⟨hunlisted, record, hrecord, hpath⟩ := htest
  have hbinds : e.state.Binds policy (name "q") := ⟨record, hrecord, by simpa using hpath⟩
  obtain ⟨policies, hlisted, -⟩ :=
    ((hclaim crowded e (reachable_of_runAll he)).path _ _).2 hbinds
  rw [Std.ExtTreeMap.contains_eq_isSome_getElem?, hlisted] at hunlisted
  cases hunlisted

end AdaptiveRouting
