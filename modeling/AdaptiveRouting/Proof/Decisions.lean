import AdaptiveRouting.Proof.Minting
import AdaptiveRouting.Proof.Retained

/-!
# Recorded decisions

Commits and rollbacks record a decision: it is appended to the journal and to the history of its
policy. `Decides` says which decision an operation records and what it makes of the record, and
`step_decides` that a step records one such decision or leaves the journal and the policies alone. No
other step writes the journal or a history (`step_undecided`).
-/

namespace AdaptiveRouting

open Guard Engine

/-- What phase two records of a ticket: the record it leaves, and the decision. -/
inductive Concludes (limits : Limits) (e : Engine) (now : Ticks) (request : CommitDecisionRequest) :
    PolicyRecord → PolicyRecord → AdaptationDecision → Prop
  | suppressed {record : PolicyRecord} {id : AdaptationDecisionId} {ids : IdFactory}
      {decision : AdaptationDecision} (checks : e.state.commitChecks request = .ok record)
      (ineligible : request.ticket.lifecycle ≠ .eligible)
      (identity : decisionIdentity request.ticket e.ids = some (id, ids))
      (decides : decision = e.state.suppressedDecision record request id) :
      Concludes limits e now request record (record.remember limits (historyEntry decision now)) decision
  | committed {record : PolicyRecord} {target : CandidateRecord} {adaptation : AdaptationGeneration}
      {transitionGeneration : TransitionGeneration} {transition : TransitionPlanId}
      {id : AdaptationDecisionId} {preference : RoutingPreference} {ids ids' : IdFactory}
      (checks : e.state.commitChecks request = .ok record)
      (eligible : request.ticket.lifecycle = .eligible)
      (other : alreadyCurrent record request.ticket = false)
      (verified : e.state.verifyCommit limits now record request.ticket =
        .ok (target, adaptation, transitionGeneration))
      (mints : e.ids.mint .transition = some (transition, ids))
      (identity : decisionIdentity request.ticket ids = some (id, ids'))
      (installs : preference = e.state.committedPreference now record request.ticket request.context
        target adaptation transitionGeneration transition id) :
      Concludes limits e now request record
        (State.committedRecord limits now record preference
          (e.state.committedDecision now record request.ticket preference))
        (e.state.committedDecision now record request.ticket preference)

/-- What an operation records at an instant: the policy, its record before and after, the decision. -/
inductive Decides (limits : Limits) (e : Engine) : Op → Ticks → AdaptivePolicyId →
    PolicyRecord → PolicyRecord → AdaptationDecision → Prop
  | commit {now : Ticks} {request : CommitDecisionRequest} {record record' : PolicyRecord}
      {decision : AdaptationDecision} (concludes : Concludes limits e now request record record' decision) :
      Decides limits e (.commitEvaluation now request) now request.ticket.dependencies.policy record
        record' decision
  | evaluate {begun now : Ticks} {request : EvaluateRequest} {e₁ : Engine} {ticket : EvaluationTicket}
      {record record' : PolicyRecord} {decision : AdaptationDecision}
      (begins : beginEvaluation limits e begun request = some (e₁, ticket))
      (concludes : Concludes limits e₁ now { ticket, context := request.context } record record' decision) :
      Decides limits e (.evaluate begun now request) now ticket.dependencies.policy record record'
        decision
  | rollback {now : Ticks} {request : RollbackRequest} {record : PolicyRecord}
      {target : CandidateRecord} {adaptation : AdaptationGeneration}
      {transitionGeneration : TransitionGeneration} {transition : TransitionPlanId}
      {id : AdaptationDecisionId} {ids : IdFactory} {decision : AdaptationDecision}
      (checks : e.state.rollbackChecks request = .ok record)
      (verified : State.verifyRollback record = .ok (target, adaptation, transitionGeneration))
      (mints : e.ids.mint .decision = some (id, ids))
      (decides : decision = e.state.rollbackDecision now record request id target adaptation
        transitionGeneration) :
      Decides limits e (.rollback now request) now request.policy record
        (State.rolledBackRecord limits now record target decision transition) decision

section
variable {limits : Limits} {e e' : Engine} {op : Op} {now : Ticks} {policy : AdaptivePolicyId}
  {record record' : PolicyRecord} {decision : AdaptationDecision}

theorem Concludes.history {request : CommitDecisionRequest}
    (h : Concludes limits e now request record record' decision) :
    record'.history =
      keepLast limits.maxHistoryPerPolicy (record.history ++ [historyEntry decision now]) := by
  cases h <;> rfl

theorem Decides.history (h : Decides limits e op now policy record record' decision) :
    record'.history =
      keepLast limits.maxHistoryPerPolicy (record.history ++ [historyEntry decision now]) := by
  cases h with
  | commit concludes => exact concludes.history
  | evaluate _ concludes => exact concludes.history
  | rollback => rfl

theorem Concludes.subject {request : CommitDecisionRequest}
    (h : Concludes limits e now request record record' decision) :
    decision.policy = record.policy.id := by
  cases h with
  | suppressed checks ineligible identity decides =>
    subst decides
    rfl
  | committed => rfl

theorem Decides.subject (h : Decides limits e op now policy record record' decision) :
    decision.policy = record.policy.id := by
  cases h with
  | commit concludes => exact concludes.subject
  | evaluate _ concludes => exact concludes.subject
  | rollback checks verified mints decides =>
    subst decides
    rfl

/-! ## Steps that decide -/

/-- The journal and the policies are as they were, or a decision of a policy was added to both. -/
inductive Recording (limits : Limits) (e e' : Engine)
    (decides : AdaptivePolicyId → PolicyRecord → PolicyRecord → AdaptationDecision → Prop) : Prop
  | idle (journal : e'.state.decisionJournal = e.state.decisionJournal)
      (policies : e'.state.policies = e.state.policies)
  | decided {policy : AdaptivePolicyId} {record record' : PolicyRecord}
      {decision : AdaptationDecision} (found : e.state.policies[policy]? = some record)
      (records : decides policy record record' decision)
      (policies : e'.state.policies = e.state.policies.insert policy record')
      (journal : e'.state.decisionJournal =
        keepLast limits.maxDecisionHistory (e.state.decisionJournal ++ [decision]))

theorem Recording.mono
    {decides decides' : AdaptivePolicyId → PolicyRecord → PolicyRecord → AdaptationDecision → Prop}
    (h : Recording limits e e' decides)
    (himp : ∀ policy record record' decision, decides policy record record' decision →
      decides' policy record record' decision) : Recording limits e e' decides' := by
  cases h with
  | idle journal policies => exact .idle journal policies
  | decided found records policies journal =>
    exact .decided found (himp _ _ _ _ records) policies journal

theorem commitTicket_records {request : CommitDecisionRequest} {result : OperationResult}
    (h : commitTicket limits e now request = some (e', result)) :
    Recording limits e e' fun policy record record' decision =>
      policy = request.ticket.dependencies.policy ∧
        Concludes limits e now request record record' decision := by
  unfold commitTicket at h
  dsimp only at h
  split at h
  · cases h
    exact .idle rfl rfl
  · rename_i record hchecks
    obtain ⟨_, haccepted⟩ := State.commitChecks_ok hchecks
    split at h
    · rename_i hineligible
      obtain ⟨⟨id, ids⟩, hidentity, h⟩ := Option.bind_eq_some_iff.1 h
      cases h
      exact .decided haccepted.found ⟨rfl, .suppressed hchecks hineligible hidentity rfl⟩
        (State.recordAttempt_policies ..)
        (congrArg State.Shelves.decisionJournal (State.shelves_aloof.recordAttempt ..))
    · rename_i heligible
      have heligible : request.ticket.lifecycle = .eligible := Decidable.not_not.1 heligible
      split at h
      · cases h
        exact .idle (congrArg State.Shelves.decisionJournal (State.shelves_aloof.recordAttempt ..))
          (State.recordAttempt_policies ..)
      · rename_i hother
        split at h
        · cases h
          exact .idle rfl rfl
        · rename_i verified hverified
          obtain ⟨target, adaptation, transitionGeneration⟩ := verified
          unfold installCommit at h
          obtain ⟨⟨transition, ids⟩, hmint, h⟩ := Option.bind_eq_some_iff.1 h
          obtain ⟨⟨id, ids'⟩, hidentity, h⟩ := Option.bind_eq_some_iff.1 h
          cases h
          exact .decided haccepted.found ⟨rfl, .committed hchecks heligible
            (Bool.eq_false_iff.2 hother) hverified hmint hidentity rfl⟩
            (State.recordAttempt_policies ..)
            (congrArg State.Shelves.decisionJournal (State.shelves_aloof.recordAttempt ..))

theorem commitEvaluation_records {request : CommitDecisionRequest} {result : OperationResult}
    (h : commitEvaluation limits e now request = some (e', result)) :
    Recording limits e e' fun policy record record' decision =>
      policy = request.ticket.dependencies.policy ∧
        Concludes limits e now request record record' decision := by
  obtain ⟨⟨e₁, _⟩, hcommit, he⟩ := Option.map_eq_some_iff.1 h
  cases he
  have hstate : e₁.settled.state = e₁.state := by
    unfold Engine.settled
    split <;> rfl
  cases commitTicket_records hcommit with
  | idle journal policies => exact .idle (by rwa [hstate]) (by rwa [hstate])
  | decided found records policies journal =>
    exact .decided found records (by rwa [hstate]) (by rwa [hstate])

theorem rollback_records {request : RollbackRequest} {result : OperationResult}
    (h : rollback limits e now request = some (e', result)) :
    Recording limits e e' (Decides limits e (.rollback now request) now) := by
  unfold rollback at h
  dsimp only at h
  split at h
  · cases h
    exact .idle rfl rfl
  · rename_i record hchecks
    obtain ⟨_, haccepted⟩ := State.rollbackChecks_ok hchecks
    split at h
    · cases h
      split
      · exact .idle (congrArg State.Shelves.decisionJournal (State.shelves_aloof.recordAttempt ..))
          (State.recordAttempt_policies ..)
      · exact .idle rfl rfl
    · rename_i target adaptation transitionGeneration hverified
      obtain ⟨⟨id, ids⟩, hid, h⟩ := Option.bind_eq_some_iff.1 h
      obtain ⟨⟨transition, ids'⟩, -, h⟩ := Option.bind_eq_some_iff.1 h
      cases h
      exact .decided haccepted.found (.rollback hchecks hverified hid rfl)
        (State.recordAttempt_policies ..)
        (congrArg State.Shelves.decisionJournal (State.shelves_aloof.recordAttempt ..))

theorem evaluate_records {begun : Ticks} {request : EvaluateRequest} {result : OperationResult}
    (h : evaluate limits e begun now request = some (e', result)) :
    Recording limits e e' (Decides limits e (.evaluate begun now request) now) := by
  unfold evaluate at h
  obtain ⟨⟨e₁, ticket⟩, hbegin, h⟩ := Option.bind_eq_some_iff.1 h
  have hstate := (beginEvaluation_cases hbegin).1
  dsimp only at h
  split at h
  · cases h
    exact .idle (by rw [hstate]) (by rw [hstate])
  · split at h
    · split at h <;>
      · cases h
        exact .idle (by rw [hstate]) (by rw [hstate])
    · cases commitEvaluation_records h with
      | idle journal policies =>
        rw [hstate] at journal policies
        exact .idle journal policies
      | decided found records policies journal =>
        rw [hstate] at found journal policies
        obtain ⟨rfl, hconcludes⟩ := records
        exact .decided found (.evaluate hbegin hconcludes) policies journal

end

section
variable {config : EngineConfig} {e e' : Engine} {op : Op} {answer : Answer}

/-- An operation that may record a decision records one, or leaves the journal and the policies. -/
theorem step_decides (h : e.step config op = some (e', answer)) (hop : op.decides = true) :
    Recording config.limits e e' fun policy record record' decision =>
      ∃ now, Decides config.limits e op now policy record record' decision := by
  cases op with
  | commitEvaluation now request =>
    obtain ⟨⟨e₁, result⟩, hcommit, he⟩ := Option.map_eq_some_iff.1 h
    cases he
    refine (commitEvaluation_records hcommit).mono fun policy record record' decision hrecords => ?_
    obtain ⟨rfl, hconcludes⟩ := hrecords
    exact ⟨now, .commit hconcludes⟩
  | evaluate begun now request =>
    obtain ⟨⟨e₁, result⟩, hevaluate, he⟩ := Option.map_eq_some_iff.1 h
    cases he
    exact (evaluate_records hevaluate).mono fun _ _ _ _ hrecords => ⟨now, hrecords⟩
  | rollback now request =>
    obtain ⟨⟨e₁, result⟩, hrollback, he⟩ := Option.map_eq_some_iff.1 h
    cases he
    exact (rollback_records hrollback).mono fun _ _ _ _ hrecords => ⟨now, hrecords⟩
  | _ => cases hop

/-! ## Steps that do not -/

theorem step_journal (h : e.step config op = some (e', answer)) (hop : op.decides = false)
    (hrecovers : op.recovers config.limits = none) :
    e'.state.decisionJournal = e.state.decisionJournal := by
  have hshelves {s' : State} (hsame : s'.shelves = e.state.shelves) :
      s'.decisionJournal = e.state.decisionJournal := congrArg State.Shelves.decisionJournal hsame
  have hchange := step_state h
  generalize e'.state = s' at hchange
  cases hchange with
  | kept => rfl
  | attempted => exact hshelves (State.shelves_aloof.recordAttempt ..)
  | created =>
    exact hshelves ((State.shelves_aloof.recordAttempt ..).trans (State.shelves_aloof.addPolicy ..))
  | updated =>
    refine hshelves ((State.shelves_aloof.recordAttempt ..).trans
      ((State.shelves_aloof.reindexPolicy ..).trans ?_))
    exact State.shelves_aloof.unindexPolicy ..
  | rewritten => rfl
  | revoked => rfl
  | decided found rewrites decides =>
    rw [decides] at hop
    cases hop
  | registered => exact hshelves (State.registerPublisher_shelves ..)
  | fenced => exact hshelves (State.fencePublisher_shelves ..)
  | advanced => exact hshelves (State.advanceEpoch_shelves ..)
  | notified => exact hshelves (State.shelves_aloof.applyUpstream ..)
  | @published clock request =>
    rcases e.state.publishEvidence_shelves config.limits clock request with hsame | hsame
    · exact hshelves hsame
    · exact (congrArg State.Shelves.decisionJournal hsame).trans rfl
  | retained =>
    unfold State.retainSnapshot
    rfl
  | recovered decodes admissible =>
    subst decodes
    simp [Op.recovers, admissible] at hrecovers

/-- What a step that decides nothing makes of a record that was there: the history is kept, and so is
the preference, unless the policy has another target. -/
inductive Undecided (record record' : PolicyRecord) : Prop
  | kept (history : record'.history = record.history)
      (target : record'.policy.semantics.target = record.policy.semantics.target)
      (preference : record'.preference = record.preference)
  | retargeted (history : record'.history = record.history)
      (target : record'.policy.semantics.target ≠ record.policy.semantics.target)
      (preference : record'.preference = freshPreference record'.policy.semantics.target)

theorem Undecided.history {record record' : PolicyRecord} (h : Undecided record record') :
    record'.history = record.history := by
  cases h <;> assumption

theorem Rewrites.undecided {policy : AdaptivePolicyId} {record record' : PolicyRecord}
    (h : Rewrites config.limits e op policy record record') (hop : op.decides = false) :
    Undecided record record' := by
  cases h with
  | updated checks =>
    unfold State.updatedRecord
    dsimp only
    split
    · rename_i htarget
      exact .kept rfl htarget.symm rfl
    · rename_i htarget
      exact .retargeted rfl (Ne.symm htarget) rfl
  | held => exact .kept rfl rfl rfl
  | moved => exact .kept rfl rfl rfl
  | revoked => exact .kept rfl rfl rfl
  | suppressed commits =>
    rw [commits.decides] at hop
    cases hop
  | committed commits =>
    rw [commits.decides] at hop
    cases hop
  | restored => cases hop

/-- A record after a step that decides nothing is new, or was there with its history. -/
theorem step_undecided {policy : AdaptivePolicyId} {record' : PolicyRecord}
    (h : e.step config op = some (e', answer)) (hop : op.decides = false)
    (hrecovers : op.recovers config.limits = none)
    (hfound : e'.state.policies[policy]? = some record') :
    (e.state.policies[policy]? = none ∧ record'.history = [] ∧
      record'.preference = freshPreference record'.policy.semantics.target) ∨
    ∃ record, e.state.policies[policy]? = some record ∧ Undecided record record' := by
  cases hbefore : e.state.policies[policy]? with
  | some record =>
    refine .inr ⟨record, rfl, ?_⟩
    obtain ⟨after, hafter, hchange⟩ := step_record h hrecovers hbefore
    rw [hfound] at hafter
    cases hafter
    cases hchange with
    | kept => exact .kept rfl rfl rfl
    | rewritten rewrites => exact rewrites.undecided hop
    | advanced =>
      refine .kept rfl ?_ rfl
      unfold State.requireRevalidation
      dsimp only
      split <;> rfl
    | notified notifies checks reached frame =>
      have hhistory := congrArg PolicyRecord.history frame
      have htarget := congrArg (fun record => record.policy.semantics.target) frame
      have hpreference := congrArg PolicyRecord.preference frame
      exact .kept hhistory htarget hpreference
  | none =>
    refine .inl ⟨rfl, ?_⟩
    have hchange := step_policies h
    generalize e'.state.policies = policies at hchange hfound
    cases hchange with
    | kept =>
      rw [hbefore] at hfound
      cases hfound
    | @rewritten subject before after found rewrites =>
      by_cases hsubject : subject = policy
      · subst hsubject
        rw [hbefore] at found
        cases found
      · rw [get_insert_ne hsubject, hbefore] at hfound
        cases hfound
    | created creates checks mints =>
      rw [Std.ExtTreeMap.getElem?_insertIfNew] at hfound
      split at hfound
      · cases hfound
        exact ⟨rfl, rfl⟩
      · rw [hbefore] at hfound
        cases hfound
    | advanced advances =>
      rw [Std.ExtTreeMap.getElem?_map, hbefore] at hfound
      cases hfound
    | @notified request _ notifies checks =>
      have hframe := State.applyNotifications_frame config.limits request.context e.state
        request.notifications policy
      rw [hbefore, hfound] at hframe
      cases hframe
    | recovered decodes admissible =>
      subst decodes
      simp [Op.recovers, admissible] at hrecovers

end

/-! ## Recovery -/

/-- The entry of a history without its instant, which a store does not keep. -/
def AdaptationRecord.timeless (entry : AdaptationRecord) : AdaptationRecord :=
  { entry with committedAt := 0 }

/-- The decision a recovery enters into the journal for an entry of the store. -/
def recoveredDecision (entry : AdaptivePolicyId × AdaptationRecord) : AdaptationDecision :=
  { decisionSummary entry.1 entry.2 with provenance := { cause := .recovered } }

section
variable {config : EngineConfig} {now : Ticks} {durable : DurableState} {epoch : CoordinatorEpoch}
  {authority : AdaptiveAuthorityGeneration}

theorem restoreHistories_journal (limits : Limits) (s : State)
    (entries : List (AdaptivePolicyId × AdaptationRecord)) :
    (entries.foldl (State.restoreHistory limits) s).decisionJournal =
      s.decisionJournal ++ entries.map recoveredDecision := by
  induction entries generalizing s with
  | nil => simp
  | cons entry rest ih =>
    rw [List.foldl_cons, ih, List.map_cons]
    change s.decisionJournal ++ [recoveredDecision entry] ++ _ = _
    rw [List.append_assoc]
    rfl

theorem recovered_journal :
    (State.recoveredState config now durable epoch authority).decisionJournal =
      keepLast config.limits.maxDecisionHistory (durable.history.map recoveredDecision) := by
  have hjournal {s : State} (hempty : s.decisionJournal = []) :
      (durable.revocations.foldl State.restoreRevocation (durable.timings.foldl
        (State.restoreTiming now) (durable.stableStates.foldl State.restoreStable
        (durable.preferences.foldl State.restorePreference (durable.policies.foldl
        (State.restorePolicy config.conservativeRecovery) s))))).decisionJournal = [] := by
    rw [foldl_keeps (f := State.restoreRevocation) State.decisionJournal
        fun s revocation => by unfold State.restoreRevocation; split <;> rfl,
      foldl_keeps (f := State.restoreTiming now) State.decisionJournal fun _ _ => rfl,
      foldl_keeps (f := State.restoreStable) State.decisionJournal fun _ _ => rfl,
      foldl_keeps (f := State.restorePreference) State.decisionJournal fun _ _ => rfl,
      foldl_keeps (f := State.restorePolicy config.conservativeRecovery) State.decisionJournal
        fun _ _ => rfl, hempty]
  unfold State.recoveredState
  dsimp only
  rw [foldl_keeps (f := fun (s : State) policy => s.reindexPolicy config.limits policy)
    State.decisionJournal fun s policy => congrArg State.Shelves.decisionJournal
      (State.shelves_aloof.reindexPolicy s config.limits policy)]
  dsimp only
  rw [restoreHistories_journal, hjournal rfl, List.nil_append]

/-- A recovered history is what the store lists for the policy, pruned. -/
theorem recovered_entries {policy : AdaptivePolicyId} {record : PolicyRecord}
    (h : (State.recoveredState config now durable epoch authority).policies[policy]? = some record) :
    record.history = keepLast config.limits.maxHistoryPerPolicy
      ((durable.history.filter fun entry => entry.1 = policy).map Prod.snd) := by
  have hblank : Everywhere (fun _ record => record.history = [])
      (durable.revocations.foldl State.restoreRevocation
        (State.recoveredBase config now durable epoch authority)) := by
    unfold State.recoveredBase
    refine List.foldlRecOn _ _ (List.foldlRecOn _ _ (List.foldlRecOn _ _ (List.foldlRecOn _ _
      (List.foldlRecOn _ _ ?_ fun s hs source _ => ?_) fun s hs entry _ => ?_)
      fun s hs entry _ => ?_) fun s hs timing _ => ?_) fun s hs revocation _ => ?_
    · intro policy record hrecord
      simp at hrecord
    · exact hs.restorePolicy rfl
    · exact hs.edit entry.1 fun _ => id
    · exact hs.edit entry.1 fun _ => id
    · exact hs.edit timing.policy fun _ => id
    · unfold State.restoreRevocation
      split
      · exact hs.edit revocation.policy fun _ => id
      · exact hs
  have hreindex := foldl_keeps State.policies
    fun s policy => State.reindexPolicy_policies s config.limits policy
  unfold State.recoveredState at h
  dsimp only at h
  rw [hreindex] at h
  change State.record (durable.history.foldl (State.restoreHistory config.limits)
    (durable.revocations.foldl State.restoreRevocation
      (State.recoveredBase config now durable epoch authority))) policy = some record at h
  rw [(restoreHistory_local config.limits).foldl] at h
  have hkeyed : (durable.history.filter fun entry => entry.1 = policy) =
      ((durable.history.filter fun entry => entry.1 = policy).map Prod.snd).map (policy, ·) := by
    rw [List.map_map]
    refine (List.map_id _).symm.trans (List.map_congr_left fun entry hentry => ?_)
    have hpolicy : entry.1 = policy := by simpa using (List.mem_filter.1 hentry).2
    rw [← hpolicy]
    rfl
  cases hbefore : (durable.revocations.foldl State.restoreRevocation
      (State.recoveredBase config now durable epoch authority)).record policy with
  | none =>
    rw [hbefore, List.foldl_fixed' fun _ => rfl] at h
    cases h
  | some before =>
    rw [hbefore, hkeyed, remember_empty config.limits policy _ before (hblank policy before hbefore)] at h
    cases h
    rfl

end

end AdaptiveRouting
