import AdaptiveRouting.Proof.Change
import AdaptiveRouting.Proof.Confinement
import AdaptiveRouting.Proof.Currentness
import AdaptiveRouting.Proof.Indexing

/-!
# Unrelated activity

A snapshot is taken from the record of its policy, the epoch, the authority generation and the
evidence of the paths the policy binds (`Unmoved`, `viewRecord_same`). Operations that concern the
policy in no way (`Unrelated`) leave all of these: other records are written, evidence of other paths
is published, and notifications of other paths reach no candidate of it. So what a snapshot says
stays over any run of such operations (`unrelated_activity_is_invisible`).
-/

namespace AdaptiveRouting

open Engine

/-! ## What a snapshot is taken from -/

namespace EvaluationInputs

variable {inputs : EvaluationInputs} {evidence : EvidenceSnapshot}

theorem lookupMetric_congr
    (h : ∀ path kind, evidence.find path kind = inputs.evidence.find path kind) :
    ({ inputs with evidence } : EvaluationInputs).lookupMetric = inputs.lookupMetric := by
  funext path requirement
  unfold lookupMetric
  dsimp only
  rw [h]

/-- The ranking reads the evidence by path and kind. -/
theorem rank_congr (h : ∀ path kind, evidence.find path kind = inputs.evidence.find path kind) :
    ({ inputs with evidence } : EvaluationInputs).rank = inputs.rank := by
  have hlookup := lookupMetric_congr h
  have hcandidate : ({ inputs with evidence } : EvaluationInputs).evaluateCandidate =
      inputs.evaluateCandidate := by
    funext candidate
    unfold evaluateCandidate evidenceGate objectiveMetrics
    rw [hlookup]
  unfold rank
  rw [hcandidate]

end EvaluationInputs

namespace State

section
variable {s s' : State} {record : PolicyRecord}

/-- Captured from the same evidence of the candidates' paths, the inputs rank the candidates alike. -/
theorem copyInputs_rank
    (hevidence : ∀ key : EvidenceKey, key.path ∈ record.paths →
      s'.evidence[key]? = s.evidence[key]?) (now : Ticks) (id id' : EvidenceSnapshotId) :
    (s'.copyInputs now id' record).rank = (s.copyInputs now id record).rank :=
  (s.copyInputs now id record).rank_congr fun path kind =>
    captureEvidence_find hevidence rfl rfl now now id id' path kind

/-- The view of a record says the same over states that agree in the epoch, the authority
generation and the evidence of the record's paths. -/
theorem viewRecord_same (hepoch : s'.epoch = s.epoch)
    (hauthority : s'.authorityGeneration = s.authorityGeneration)
    (hevidence : ∀ key : EvidenceKey, key.path ∈ record.paths →
      s'.evidence[key]? = s.evidence[key]?)
    (now : Ticks) (id id' : SnapshotId) (captured captured' : EvidenceSnapshotId) :
    (s'.viewRecord now id' captured' record).blockers =
        (s.viewRecord now id captured record).blockers ∧
      (s'.viewRecord now id' captured' record).digest =
        (s.viewRecord now id captured record).digest := by
  have hranking : ((s'.copyInputs now captured' record).evaluate
      (s'.buildDependencies now record default)).ranking =
      ((s.copyInputs now captured record).evaluate (s.buildDependencies now record default)).ranking := by
    rw [EvaluationInputs.evaluate_ranking, EvaluationInputs.evaluate_ranking,
      copyInputs_rank hevidence now captured captured']
  have hfind (path : PathId) (kind : MetricKind) :=
    captureEvidence_find hevidence rfl rfl now now captured captured' path kind
  have hblockers (holdDownRemaining cooldownRemaining : Ticks) :
      s'.snapshotBlockers record (s'.copyInputs now captured' record) holdDownRemaining
          cooldownRemaining =
        s.snapshotBlockers record (s.copyInputs now captured record) holdDownRemaining
          cooldownRemaining := by
    unfold snapshotBlockers evidenceBlockers copyInputs
    dsimp only
    rw [hepoch]
    simp only [hfind]
  unfold viewRecord
  dsimp only
  rw [hranking, hblockers]
  refine ⟨rfl, ?_⟩
  unfold snapshotDigest
  dsimp only
  rw [hepoch, hauthority]

end

end State

/-! ## Operations that do not concern a policy -/

/-- An operation on other policies that notifies and publishes nothing for a path the policy binds,
and neither advances the epoch nor recovers a store. -/
structure Unrelated (config : EngineConfig) (policy : AdaptivePolicyId) (e : Engine) (op : Op) :
    Prop where
  elsewhere : ¬ op.addresses policy
  updates : ∀ now request, op = .updatePolicy now request → request.policy ≠ policy
  commits : ∀ now request, op = .commitEvaluation now request →
    request.ticket.dependencies.policy ≠ policy
  notifies : ∀ request, op = .applyUpstream request →
    ∀ n ∈ request.notifications, ¬ e.state.Binds policy n.binding.path
  publishes : ∀ clock request, op = .publishEvidence clock request →
    ∀ p ∈ request.publications, ¬ e.state.Binds policy p.path
  advances : ∀ reason, op ≠ .advanceEpoch reason
  recovers : op.recovers config.limits = none

/-- What the snapshots of a policy are taken from is the same in both states. -/
structure Unmoved (policy : AdaptivePolicyId) (s s' : State) : Prop where
  record : s'.policies[policy]? = s.policies[policy]?
  epoch : s'.epoch = s.epoch
  authority : s'.authorityGeneration = s.authorityGeneration
  evidence : ∀ key : EvidenceKey, s.Binds policy key.path → s'.evidence[key]? = s.evidence[key]?

section
variable {policy : AdaptivePolicyId} {s s' : State}

theorem Unmoved.refl (policy : AdaptivePolicyId) (s : State) : Unmoved policy s s :=
  ⟨rfl, rfl, rfl, fun _ _ => rfl⟩

theorem Unmoved.binds (h : Unmoved policy s s') (path : PathId) :
    s'.Binds policy path ↔ s.Binds policy path := by
  unfold State.Binds
  rw [h.record]

theorem Unmoved.trans {s'' : State} (h₁ : Unmoved policy s s') (h₂ : Unmoved policy s' s'') :
    Unmoved policy s s'' where
  record := h₂.record.trans h₁.record
  epoch := h₂.epoch.trans h₁.epoch
  authority := h₂.authority.trans h₁.authority
  evidence := fun key hkey =>
    (h₂.evidence key ((h₁.binds key.path).2 hkey)).trans (h₁.evidence key hkey)

/-- The views of the policy over unmoved states say the same. -/
theorem Unmoved.view {record : PolicyRecord} (h : Unmoved policy s s')
    (found : s.policies[policy]? = some record) (now : Ticks) (id id' : SnapshotId)
    (captured captured' : EvidenceSnapshotId) :
    (s'.viewRecord now id' captured' record).blockers =
        (s.viewRecord now id captured record).blockers ∧
      (s'.viewRecord now id' captured' record).digest =
        (s.viewRecord now id captured record).digest :=
  State.viewRecord_same h.epoch h.authority
    (fun key hkey => h.evidence key ⟨record, found, hkey⟩) now id id' captured captured'

end

/-! ## Other records -/

section
variable {config : EngineConfig} {e e' : Engine} {op : Op} {answer : Answer}
  {policy subject : AdaptivePolicyId} {record record' : PolicyRecord}

/-- The tickets an unrelated operation commits are for other policies. -/
theorem Commits.elsewhere {now : Ticks} {request : CommitDecisionRequest}
    (h : Commits config.limits e op now request) (hop : Unrelated config policy e op)
    (hk : Keyed e.state) (checks : e.state.commitChecks request = .ok record) :
    request.ticket.dependencies.policy ≠ policy := by
  cases h with
  | commit => exact hop.commits now request rfl
  | evaluate begins =>
    obtain ⟨_, haccepted⟩ := State.commitChecks_ok checks
    obtain ⟨_, _, -, hsubject⟩ := issued_policy hk begins haccepted.unrejected
    intro heq
    exact hop.elsewhere (hsubject.symm.trans heq)

theorem Rewrites.elsewhere (h : Rewrites config.limits e op subject record record')
    (hop : Unrelated config policy e op) (hk : Keyed e.state) : subject ≠ policy := by
  cases h with
  | updated => exact hop.updates _ _ rfl
  | held requests | moved requests =>
    obtain ⟨-, haddresses⟩ := Op.transition_context requests
    intro heq
    exact hop.elsewhere (heq ▸ haddresses)
  | revoked => exact hop.elsewhere
  | suppressed commits checks | committed commits checks => exact commits.elsewhere hop hk checks
  | restored => exact hop.elsewhere

/-- A path that is not bound has no candidate to modify. -/
theorem PolicyRecord.modifyCandidate_unbound {path : PathId} (h : path ∉ record.paths)
    (f : CandidateRecord → CandidateRecord) : record.modifyCandidate path f = record := by
  have hnone : record.findCandidate path = none := by
    cases hfound : record.findCandidate path with
    | none => rfl
    | some candidate =>
      refine absurd ?_ h
      rw [← findCandidate_path hfound]
      exact List.mem_map_of_mem (findCandidate_mem hfound)
  unfold modifyCandidate
  rw [candidateIdx_none hnone]

/-- A notification for another policy leaves a record that does not bind its path. -/
theorem State.Applies.elsewhere {limits : Limits} {s s' : State} {n : UpstreamNotification}
    (h : State.Applies limits s record' n s') (hother : n.policy ≠ policy)
    (found : s.policies[policy]? = some record) (hpath : n.binding.path ∉ record.paths) :
    s'.policies[policy]? = some record := by
  have hput (written : PolicyRecord) :
      (s.putRecord n.policy written).policies[policy]? = some record := by
    rw [State.putRecord_policies, get_insert_ne hother, found]
  cases h with
  | declared =>
    rw [State.reindexPolicy_policies]
    exact hput _
  | edited => exact hput _
  | invalidated =>
    rw [State.applyInvalidation_get]
    unfold State.editBinding
    rw [hput, Option.map_some, PolicyRecord.bumped, PolicyRecord.modifyCandidate_unbound hpath,
      ite_self]

theorem Unrelated.keeps_record (hop : Unrelated config policy e op) (hk : Keyed e.state)
    (found : e.state.policies[policy]? = some record)
    (h : e.step config op = some (e', answer)) : e'.state.policies[policy]? = some record := by
  obtain ⟨after, hafter, hchange⟩ := step_record h hop.recovers found
  cases hchange with
  | kept => exact hafter
  | rewritten rewrites => exact absurd rfl (rewrites.elsewhere hop hk)
  | advanced advances => exact absurd advances (hop.advances _)
  | @notified request _ _ notifies checks reached =>
    have hbatch : (State.applyNotifications config.limits request.context e.state
        request.notifications).1.policies[policy]? = some record := by
      refine State.applyNotifications_inv (I := fun s => s.policies[policy]? = some record) found
        fun s n s' hreaches happly hs => ?_
      obtain ⟨_, _, _, happlies⟩ := State.applyNotification_ok happly
      refine happlies.elsewhere (fun heq => hop.elsewhere ?_) hs fun hpath => ?_
      · subst notifies
        exact ⟨n, hreaches.mem, heq⟩
      · exact hop.notifies request notifies n hreaches.mem ⟨record, found, hpath⟩
    rw [hafter, ← reached, hbatch]

end

/-! ## The backdrop -/

namespace State

/-- The epoch and the authority generation. -/
def backdrop (s : State) : CoordinatorEpoch × AdaptiveAuthorityGeneration :=
  (s.epoch, s.authorityGeneration)

theorem backdrop_aloof : Aloof backdrop := fun _ _ _ _ _ _ _ _ _ _ _ => rfl

theorem evidence_aloof : Aloof State.evidence := fun _ _ _ _ _ _ _ _ _ _ _ => rfl

theorem registerPublisher_backdrop (s : State) (limits : Limits) (publisher : PublisherId)
    (boot : WorkerBootId) (scope : AuthorityScope) (session : SessionId) :
    (s.registerPublisher limits publisher boot scope session).1.backdrop = s.backdrop := by
  unfold registerPublisher
  split
  · rfl
  · dsimp only
    split
    · rfl
    · split <;> rfl

theorem fencePublisher_backdrop (s : State) (publisher : PublisherId) (boot : WorkerBootId)
    (cause : Text) : (s.fencePublisher publisher boot cause).1.backdrop = s.backdrop := by
  unfold fencePublisher
  split
  · rfl
  · split <;> rfl

theorem publishEvidence_backdrop (s : State) (limits : Limits) (clock : Nat → Ticks)
    (request : PublishEvidenceRequest) :
    (s.publishEvidence limits clock request).1.backdrop = s.backdrop := by
  have hbatch := foldl_keeps (f := applyPublication limits) backdrop (fun _ _ => rfl)
    (acceptances clock request.publications) s
  unfold publishEvidence
  split
  · rfl
  · dsimp only
    split
    · exact hbatch
    · rw [backdrop_aloof.recordAttempt]
      exact hbatch

/-- Publications of other keys leave the series of a key. -/
theorem publishEvidence_other {limits : Limits} {s : State} {clock : Nat → Ticks}
    {request : PublishEvidenceRequest} {key : EvidenceKey}
    (h : ∀ p ∈ request.publications, p.key ≠ key) :
    (s.publishEvidence limits clock request).1.evidence[key]? = s.evidence[key]? := by
  have hother : ∀ accepted ∈ acceptances clock request.publications, accepted.2.key ≠ key :=
    fun _ hmem => h _ (acceptances_mem hmem)
  have hbatch := (applyPublication_local limits).foldl_of_forall_ne hother s
  unfold publishEvidence
  split
  · rfl
  · dsimp only
    split
    · exact hbatch
    · rw [evidence_aloof.recordAttempt]
      exact hbatch

end State

section
variable {config : EngineConfig} {e e' : Engine} {op : Op} {answer : Answer}
  {policy : AdaptivePolicyId} {record : PolicyRecord}

theorem Unrelated.keeps_backdrop (hop : Unrelated config policy e op)
    (h : e.step config op = some (e', answer)) : e'.state.backdrop = e.state.backdrop := by
  have haloof := State.backdrop_aloof
  have hchange := step_state h
  generalize e'.state = s' at hchange ⊢
  cases hchange with
  | kept => rfl
  | attempted => exact haloof.recordAttempt ..
  | created => exact (haloof.recordAttempt ..).trans (haloof.addPolicy ..)
  | updated =>
    refine (haloof.recordAttempt ..).trans ((haloof.reindexPolicy ..).trans ?_)
    exact haloof.unindexPolicy ..
  | rewritten => exact haloof.putRecord ..
  | revoked => rfl
  | decided => exact haloof.recordAttempt ..
  | registered => exact State.registerPublisher_backdrop ..
  | fenced => exact State.fencePublisher_backdrop ..
  | advanced advances => exact absurd advances (hop.advances _)
  | notified => exact haloof.applyUpstream ..
  | published => exact State.publishEvidence_backdrop ..
  | retained => rfl
  | recovered decodes admissible =>
    have hnone := hop.recovers
    rw [decodes, Op.recovers, if_pos admissible] at hnone
    cases hnone

theorem Unrelated.keeps_evidence (hop : Unrelated config policy e op)
    (h : e.step config op = some (e', answer)) {key : EvidenceKey}
    (hkey : e.state.Binds policy key.path) : e'.state.evidence[key]? = e.state.evidence[key]? := by
  cases step_gauges h hop.recovers with
  | kept same => rw [State.evidence_of_gauges same]
  | notified notifies notified =>
    have hevidence : e'.state.evidence = e.state.evidence :=
      congrArg Gauges.evidence notified.evidence
    rw [hevidence]
  | @published clock request outcome publishes =>
    have hpublishes := hop.publishes clock request publishes
    subst publishes
    cases h
    refine State.publishEvidence_other fun p hp hsame => hpublishes p hp ?_
    rwa [← hsame] at hkey

/-- An unrelated operation leaves what the snapshots of the policy are taken from. -/
theorem Unrelated.unmoved (hop : Unrelated config policy e op) (hk : Keyed e.state)
    (found : e.state.policies[policy]? = some record)
    (h : e.step config op = some (e', answer)) : Unmoved policy e.state e'.state where
  record := (hop.keeps_record hk found h).trans found.symm
  epoch := congrArg Prod.fst (hop.keeps_backdrop h)
  authority := congrArg Prod.snd (hop.keeps_backdrop h)
  evidence := fun _ hkey => hop.keeps_evidence h hkey

theorem unmoved_run (hreach : Reachable config e) (found : e.state.policies[policy]? = some record)
    (hrun : RunUnder config (Unrelated config policy) e e') : Unmoved policy e.state e'.state :=
  hrun.inv_under (I := fun after => Unmoved policy e.state after.state)
    (J := fun after => Keyed after.state) (fun _ _ _ _ _ hk hstep => hk.step hstep)
    (fun _ _ _ _ hop hk hs hstep => hs.trans (hop.unmoved hk (hs.record.trans found) hstep))
    (Keyed.reachable hreach) (.refl policy e.state)

end

/-! ## Snapshots -/

section
variable {config : EngineConfig} {e e' : Engine} {policy : AdaptivePolicyId} {now : Ticks}

/-- A snapshot of a policy that exists returns the view of its record. -/
theorem snapshot_views {record : PolicyRecord} {answer : Option AdaptationSnapshot}
    (found : e.state.policies[policy]? = some record)
    (h : e.step config (.snapshot now policy) = some (e', .view answer)) :
    ∃ id captured, answer = some (e.state.viewRecord now id captured record) := by
  obtain ⟨⟨e₁, view⟩, hsnapshot, he⟩ := Option.map_eq_some_iff.1 h
  cases he
  unfold snapshot at hsnapshot
  rw [found] at hsnapshot
  obtain ⟨⟨id, ids₁⟩, -, hsnapshot⟩ := Option.bind_eq_some_iff.1 hsnapshot
  obtain ⟨⟨captured, ids₂⟩, -, hsnapshot⟩ := Option.bind_eq_some_iff.1 hsnapshot
  cases hsnapshot
  exact ⟨id, captured, rfl⟩

theorem snapshot_found {view : AdaptationSnapshot}
    (h : e.step config (.snapshot now policy) = some (e', .view (some view))) :
    ∃ record, e.state.policies[policy]? = some record := by
  obtain ⟨⟨e₁, seen⟩, hsnapshot, he⟩ := Option.map_eq_some_iff.1 h
  cases he
  unfold snapshot at hsnapshot
  cases hrecord : e.state.policies[policy]? with
  | some record => exact ⟨record, rfl⟩
  | none =>
    rw [hrecord] at hsnapshot
    cases hsnapshot

/-- Taking a snapshot concerns no policy. -/
theorem Unrelated.snapshot (config : EngineConfig) (policy subject : AdaptivePolicyId) (e : Engine)
    (now : Ticks) : Unrelated config policy e (.snapshot now subject) where
  elsewhere := id
  updates := by simp
  commits := by simp
  notifies := by simp
  publishes := by simp
  advances := by simp
  recovers := rfl

end

/-- Two snapshots of a policy at the same reading of the clock, with nothing but unrelated
operations in between, have the same digest, currentness and blockers. -/
theorem unrelated_activity_is_invisible {config : EngineConfig} {policy : AdaptivePolicyId}
    {e e₁ e' e₂ : Engine} {now : Ticks} {before : AdaptationSnapshot}
    {answer : Option AdaptationSnapshot} (hreach : Reachable config e)
    (hbefore : e.step config (.snapshot now policy) = some (e₁, .view (some before)))
    (hrun : RunUnder config (Unrelated config policy) e₁ e')
    (hafter : e'.step config (.snapshot now policy) = some (e₂, .view answer)) :
    ∃ view, answer = some view ∧ view.digest = before.digest ∧
      view.currentness = before.currentness ∧ view.blockers = before.blockers := by
  obtain ⟨record, hrecord⟩ := snapshot_found hbefore
  have hunmoved : Unmoved policy e.state e'.state := unmoved_run hreach hrecord
    ((Runs.Run.single (.snapshot config policy policy e now) hbefore).trans hrun)
  obtain ⟨id, captured, hsome⟩ := snapshot_views hrecord hbefore
  obtain ⟨id', captured', rfl⟩ := snapshot_views (hunmoved.record.trans hrecord) hafter
  cases hsome
  obtain ⟨hblockers, hdigest⟩ := hunmoved.view hrecord now id id' captured captured'
  refine ⟨_, rfl, hdigest, ?_, hblockers⟩
  -- the currentness is the first blocker
  exact congrArg (fun blockers => blockers.head?.getD Currentness.current) hblockers

namespace Scenario

/-- A policy that has no candidate for the right path is unrelated to its evidence. -/
theorem unrelated_publish {ops : List Op} (value : Int) (attempt : String)
    (h : ((after ops).state.policies[policy]?).all (fun record => !record.paths.contains right) =
      true) : Unrelated config policy (after ops) (publish right value attempt) where
  elsewhere := id
  updates := by simp [publish]
  commits := by simp [publish]
  notifies := by simp [publish]
  publishes := by
    intro now request hop p hp hbinds
    cases hop
    rw [List.mem_singleton.1 hp] at hbinds
    obtain ⟨record, hrecord, hright⟩ := hbinds
    rw [hrecord, Option.all_some, List.contains_iff_mem.2 hright] at h
    cases h
  advances := by simp [publish]
  recovers := rfl

end Scenario

open Scenario in
/-- Evidence of a path the policy does not bind is published between two snapshots. -/
theorem evidence_elsewhere_is_invisible :
    let seen : List Op := Scenario.settled ++ [.snapshot 3 policy]
    let published : List Op := seen ++ [publish right 50 "right-evidence"]
    ∃ before view, (after Scenario.settled).step config (.snapshot 3 policy) =
        some (after seen, .view (some before)) ∧
      (after published).step config (.snapshot 3 policy) =
        some (after (published ++ [.snapshot 3 policy]), .view (some view)) ∧
      view.digest = before.digest ∧ view.currentness = before.currentness ∧
      view.blockers = before.blockers := by
  intro seen published
  obtain ⟨before, hbefore, -⟩ := @snapshot_after Scenario.settled 3 (by decide +kernel) (by decide +kernel)
  obtain ⟨answer, hpublish⟩ :=
    step_after seen (publish right 50 "right-evidence") (by decide +kernel)
  obtain ⟨view, hafter, -⟩ := @snapshot_after published 3 (by decide +kernel) (by decide +kernel)
  obtain ⟨_, hview, hsame⟩ := unrelated_activity_is_invisible (reachable_after (by decide +kernel))
    hbefore (.single (unrelated_publish 50 "right-evidence" (by decide +kernel)) hpublish) hafter
  cases hview
  exact ⟨before, view, hbefore, hafter, hsame⟩

end AdaptiveRouting
