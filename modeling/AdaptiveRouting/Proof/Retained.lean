import AdaptiveRouting.Lib.Tally
import AdaptiveRouting.Proof.Change
import AdaptiveRouting.Proof.Minting
import AdaptiveRouting.Proof.Restart

/-!
# Bounded retention

Every bounded structure keeps within its limit (`Contained`) and no more policies hold down than may,
in every run in which no rollback adds to a full list of adaptations or to a full count of hold-downs,
and no recovered store brings more of either (`Overfills`). A rollback is the one adaptation that
neither prunes its list nor counts the hold-downs (`retention_is_bounded`).
-/

namespace AdaptiveRouting

open Guard Engine Tally

theorem keepLast_length {α : Type} (bound : UInt64) (queue : List α) :
    (keepLast bound queue).length ≤ bound.toNat := by
  unfold keepLast
  rw [List.length_drop]
  omega

/-! ## The shelves -/

namespace State

/-- The evidence, the journal and the retained snapshots. -/
structure Shelves where
  evidence : Std.ExtTreeMap EvidenceKey EvidenceSeries
  decisionJournal : List AdaptationDecision
  snapshots : Std.ExtTreeMap SnapshotId AdaptationSnapshot
  snapshotOrder : List SnapshotId

def shelves (s : State) : Shelves :=
  { evidence := s.evidence, decisionJournal := s.decisionJournal, snapshots := s.snapshots
    snapshotOrder := s.snapshotOrder }

theorem shelves_aloof : Aloof shelves := fun _ _ _ _ _ _ _ _ _ _ _ => rfl

theorem registerPublisher_shelves (s : State) (limits : Limits) (publisher : PublisherId)
    (boot : WorkerBootId) (scope : AuthorityScope) (session : SessionId) :
    (s.registerPublisher limits publisher boot scope session).1.shelves = s.shelves := by
  unfold registerPublisher
  split
  · rfl
  · dsimp only
    split
    · rfl
    · split <;> rfl

theorem fencePublisher_shelves (s : State) (publisher : PublisherId) (boot : WorkerBootId)
    (cause : Text) : (s.fencePublisher publisher boot cause).1.shelves = s.shelves := by
  unfold fencePublisher
  split
  · rfl
  · split <;> rfl

theorem advanceEpoch_shelves (s : State) (reason : Text) :
    (s.advanceEpoch reason).1.shelves = s.shelves := by
  unfold advanceEpoch
  split
  · rfl
  · dsimp only
    split
    · rfl
    · exact foldl_keeps (f := fenceLive) shelves (fun _ _ => rfl) _ _

/-- A publication writes the series of its publications and nothing else of it. -/
theorem publishEvidence_shelves (s : State) (limits : Limits) (clock : Nat → Ticks)
    (request : PublishEvidenceRequest) :
    (s.publishEvidence limits clock request).1.shelves = s.shelves ∨
      (s.publishEvidence limits clock request).1.shelves = { s.shelves with
        evidence := ((acceptances clock request.publications).foldl
          (applyPublication limits) s).evidence } := by
  have hfold : ((acceptances clock request.publications).foldl (applyPublication limits) s).shelves =
      { s.shelves with
        evidence := ((acceptances clock request.publications).foldl
          (applyPublication limits) s).evidence } := by
    have hrest := foldl_keeps (f := applyPublication limits)
      (fun s : State => (s.decisionJournal, s.snapshots, s.snapshotOrder)) (fun _ _ => rfl)
      (acceptances clock request.publications) s
    simp only [Prod.mk.injEq] at hrest
    obtain ⟨hjournal, hsnapshots, horder⟩ := hrest
    unfold shelves
    rw [hjournal, hsnapshots, horder]
  unfold publishEvidence
  split
  · exact .inl rfl
  · dsimp only
    split
    · exact .inr hfold
    · refine .inr ?_
      rw [shelves_aloof.recordAttempt]
      exact hfold

theorem recoveredState_shelves (config : EngineConfig) (now : Ticks) (d : DurableState)
    (epoch : CoordinatorEpoch) (authority : AdaptiveAuthorityGeneration) :
    ∃ journal, journal.length ≤ config.limits.maxDecisionHistory.toNat ∧
      (recoveredState config now d epoch authority).shelves =
        { evidence := {}, decisionJournal := journal, snapshots := {}, snapshotOrder := [] } := by
  have hrest := Aloof.recovered (g := fun s : State => (s.evidence, s.snapshots, s.snapshotOrder))
    (fun _ _ _ _ _ _ _ _ _ _ _ => rfl) (fun _ _ => rfl) config now d epoch authority
  simp only [Prod.mk.injEq] at hrest
  obtain ⟨hevidence, hsnapshots, horder⟩ := hrest
  refine ⟨(recoveredState config now d epoch authority).decisionJournal, ?_, ?_⟩
  · unfold recoveredState
    dsimp only
    rw [foldl_keeps (f := fun (s : State) policy => s.reindexPolicy config.limits policy)
      decisionJournal fun s policy => congrArg Shelves.decisionJournal
        (shelves_aloof.reindexPolicy s config.limits policy)]
    exact keepLast_length ..
  · unfold shelves
    rw [hevidence, hsnapshots, horder]

end State

/-! ## Their bounds -/

/-- The journal, the series and the retained snapshots are within their limits, and the snapshots lie
behind the counter that mints their identities. -/
structure Shelved (limits : Limits) (ids : IdFactory) (shelves : State.Shelves) : Prop where
  journal : shelves.decisionJournal.length ≤ limits.maxDecisionHistory.toNat
  series : ∀ (key : EvidenceKey) (series : EvidenceSeries), shelves.evidence[key]? = some series →
    series.samples.length ≤ limits.maxEvidenceSamplesPerSeries.toNat
  snapshots : shelves.snapshotOrder.length ≤ limits.maxSnapshotHistory.toNat
  consistent : Retention.Consistent shelves.snapshots shelves.snapshotOrder
  behind : ∀ id ∈ shelves.snapshotOrder, ∀ counter, id.text = ids.compose .snapshot counter →
    counter ≤ ids.counter

section
variable {limits : Limits} {ids ids' : IdFactory} {s : State}

theorem Shelved.advance (hs : Shelved limits ids s.shelves) {n : Nat}
    (hids : IdFactory.Advanced n ids ids') (hroom : ids.counter.toNat + n < UInt64.size) :
    Shelved limits ids' s.shelves where
  journal := hs.journal
  series := hs.series
  snapshots := hs.snapshots
  consistent := hs.consistent
  behind := fun id hid counter htext => by
    have hcompose : ids'.compose .snapshot counter = ids.compose .snapshot counter := by
      unfold IdFactory.compose
      rw [hids.idPrefix, hids.nonce]
    rw [hcompose] at htext
    have hle := UInt64.le_iff_toNat_le.1 (hs.behind id hid counter htext)
    exact UInt64.le_iff_toNat_le.2 (Nat.le_trans hle (hids.counter hroom).1)

theorem append_samples (limits : Limits) (now : Ticks) (p : EvidencePublication)
    (series : Option EvidenceSeries) :
    (EvidenceSeries.append limits now p series).samples.length ≤
      limits.maxEvidenceSamplesPerSeries.toNat := by
  unfold EvidenceSeries.append
  exact keepLast_length ..

theorem applyPublications_samples (batch : List (Ticks × EvidencePublication))
    (hs : ∀ (key : EvidenceKey) (series : EvidenceSeries), s.evidence[key]? = some series →
      series.samples.length ≤ limits.maxEvidenceSamplesPerSeries.toNat) (key : EvidenceKey)
    (series : EvidenceSeries)
    (h : (batch.foldl (State.applyPublication limits) s).evidence[key]? = some series) :
    series.samples.length ≤ limits.maxEvidenceSamplesPerSeries.toNat := by
  rw [State.applyPublications_get] at h
  revert h
  refine List.foldlRecOn (motive := fun held => held = some series → _) _ _ (hs key series)
    fun held _ p _ h => ?_
  cases h
  exact append_samples ..

/-- A snapshot with an identity ahead of the counter goes to the end of the order. -/
theorem Shelved.retain (hs : Shelved limits ids s.shelves)
    (hroom : ids.counter.toNat + 1 < UInt64.size) (view : AdaptationSnapshot)
    (hmint : ids.mint .snapshot = some (view.id, ids')) :
    Shelved limits ids' (s.retainSnapshot limits view).shelves := by
  obtain ⟨htext, hnext⟩ := IdFactory.mint_eq hmint
  have hadvance := hs.advance (.mint hmint) hroom
  have hfresh : s.snapshots[view.id]? = none := by
    cases hfound : s.snapshots[view.id]? with
    | none => rfl
    | some retained =>
      have hmem : view.id ∈ s.snapshotOrder :=
        (hs.consistent.mem_iff view.id).2 (Option.isSome_iff_exists.2 ⟨retained, hfound⟩)
      have hle := UInt64.le_iff_toNat_le.1 (hs.behind view.id hmem _ htext)
      simp only [UInt64.size] at hroom
      simp only [UInt64.toNat_add, UInt64.toNat_one] at hle
      omega
  refine ⟨hs.journal, hs.series, ?_, (hs.consistent.insert hfresh view).prune _, ?_⟩
  · show (List.drop _ (s.snapshotOrder ++ [view.id])).length ≤ _
    rw [List.length_drop]
    omega
  · intro id hid counter hcounter
    rcases List.mem_append.1 (List.mem_of_mem_drop hid) with hid | hid
    · exact hadvance.behind id hid counter hcounter
    · rw [List.mem_singleton.1 hid, htext] at hcounter
      have hcompose : ids'.compose .snapshot counter = ids.compose .snapshot counter := by
        rw [hnext]
        rfl
      rw [← IdFactory.compose_inj (hcounter.trans hcompose), hnext]
      exact UInt64.le_refl _

end

/-! ## What overfills -/

/-- The hold-down is running. -/
def PolicyRecord.running (r : PolicyRecord) (now : Ticks) : Bool :=
  r.timing.holdDownActive && now < r.timing.holdDownDeadline

theorem pendingTransitions_eq (s : State) (now : Ticks) :
    s.pendingTransitions now = tally (fun _ record => record.running now) s.policies := rfl

/-- The adaptations a store lists for a policy. -/
def DurableState.adaptations (d : DurableState) (policy : AdaptivePolicyId) : List Ticks :=
  (d.timings.filter fun timing => timing.policy = policy).flatMap (·.churnAges)

/-- The timings of a store whose hold-down runs on when it is recovered. -/
def DurableState.pending (d : DurableState) (now : Ticks) : Nat :=
  d.timings.countP fun timing => timing.holdDownActive && now < now + timing.holdDownRemaining

/-- An accepted rollback of a policy whose list of adaptations is full, or that arms a hold-down while
as many others run as may, and the recovery of a store with more of either. -/
inductive Overfills (limits : Limits) (s : State) : Op → Prop
  | adapted {now : Ticks} {request : RollbackRequest} {record : PolicyRecord}
      {verified : CandidateRecord × AdaptationGeneration × TransitionGeneration}
      (checks : s.rollbackChecks request = .ok record)
      (verifies : State.verifyRollback record = .ok verified)
      (full : limits.maxAdaptationsPerWindow.toNat ≤ record.timing.churnCommits.length) :
      Overfills limits s (.rollback now request)
  | armed {now : Ticks} {request : RollbackRequest} {record : PolicyRecord}
      {verified : CandidateRecord × AdaptationGeneration × TransitionGeneration}
      (checks : s.rollbackChecks request = .ok record)
      (verifies : State.verifyRollback record = .ok verified)
      (arms : now < now + record.policy.semantics.holdDown.duration)
      (full : limits.maxPendingTransitions.toNat ≤
        tally (fun policy other => policy != request.policy && other.running now) s.policies) :
      Overfills limits s (.rollback now request)
  | listed {now : Ticks} {durable : DurableState} {origin : Text} {policy : AdaptivePolicyId}
      (admissible : durable.admissible limits = true)
      (exceeds : limits.maxAdaptationsPerWindow.toNat < (durable.adaptations policy).length) :
      Overfills limits s (.decodeStore now (.ok durable) origin)
  | pending {now : Ticks} {durable : DurableState} {origin : Text}
      (admissible : durable.admissible limits = true)
      (exceeds : limits.maxPendingTransitions.toNat < durable.pending now) :
      Overfills limits s (.decodeStore now (.ok durable) origin)

/-! ## Steps -/

section
variable {config : EngineConfig} {e e' : Engine} {op : Op} {answer : Answer}
  {policy : AdaptivePolicyId} {record record' : PolicyRecord}

/-- A snapshot mints the identity of its evidence after its own. -/
theorem snapshot_minted {now : Ticks} {id : SnapshotId} {ids : IdFactory}
    (found : e.state.policies[policy]? = some record)
    (mints : e.ids.mint .snapshot = some (id, ids))
    (h : e.step config (.snapshot now policy) = some (e', answer)) :
    IdFactory.Advanced 1 ids e'.ids := by
  obtain ⟨⟨e₁, view⟩, hsnapshot, he⟩ := Option.map_eq_some_iff.1 h
  cases he
  unfold AdaptiveRouting.snapshot at hsnapshot
  rw [found] at hsnapshot
  obtain ⟨⟨_, ids₁⟩, h₁, hrest⟩ := Option.bind_eq_some_iff.1 hsnapshot
  rw [mints] at h₁
  cases h₁
  obtain ⟨⟨_, ids₂⟩, h₂, hview⟩ := Option.bind_eq_some_iff.1 hrest
  cases hview
  exact .mint h₂

theorem Shelved.step (hs : Shelved config.limits e.ids e.state.shelves)
    (hroom : e.ids.counter.toNat + op.mints < UInt64.size)
    (h : e.step config op = some (e', answer)) :
    Shelved config.limits e'.ids e'.state.shelves := by
  have hadvance := hs.advance (step_ids h) hroom
  have hsame {s' : State} (hshelves : s'.shelves = e.state.shelves) :
      Shelved config.limits e'.ids s'.shelves := hshelves ▸ hadvance
  have hchange := step_state h
  generalize hafter : e'.state = s' at hchange
  cases hchange with
  | kept => exact hadvance
  | attempted => exact hsame (State.shelves_aloof.recordAttempt ..)
  | created =>
    exact hsame ((State.shelves_aloof.recordAttempt ..).trans (State.shelves_aloof.addPolicy ..))
  | updated =>
    refine hsame ((State.shelves_aloof.recordAttempt ..).trans
      ((State.shelves_aloof.reindexPolicy ..).trans ?_))
    exact State.shelves_aloof.unindexPolicy ..
  | rewritten => exact hsame (State.shelves_aloof.putRecord ..)
  | revoked => exact hsame rfl
  | decided =>
    rw [State.shelves_aloof.recordAttempt]
    exact ⟨keepLast_length .., hadvance.series, hadvance.snapshots, hadvance.consistent,
      hadvance.behind⟩
  | registered => exact hsame (State.registerPublisher_shelves ..)
  | fenced => exact hsame (State.fencePublisher_shelves ..)
  | advanced => exact hsame (State.advanceEpoch_shelves ..)
  | notified => exact hsame (State.shelves_aloof.applyUpstream ..)
  | @published clock request =>
    rcases e.state.publishEvidence_shelves config.limits clock request with hshelves | hshelves
    · exact hsame hshelves
    · rw [hshelves]
      exact ⟨hadvance.journal, applyPublications_samples _ hs.series, hadvance.snapshots,
        hadvance.consistent, hadvance.behind⟩
  | @retained now policy record id ids evidence views found mints =>
    subst views
    change e.ids.counter.toNat + 2 < UInt64.size at hroom
    have hone : e.ids.counter.toNat + 1 < UInt64.size := by omega
    have hretain := hs.retain hone (e.state.viewRecord now id evidence record) mints
    obtain ⟨-, hnext⟩ := IdFactory.Advanced.mint mints |>.counter hone
    exact hretain.advance (snapshot_minted found mints h) (by omega)
  | @recovered now durable origin epoch authority =>
    obtain ⟨journal, hjournal, hshelves⟩ :=
      State.recoveredState_shelves config now durable epoch authority
    rw [hshelves]
    exact ⟨hjournal, fun key series hseries => by simp at hseries, Nat.zero_le _,
      Retention.Consistent.empty, fun id hid => by cases hid⟩

/-- A commit is verified against the count of running hold-downs. -/
theorem verifyCommit_pending {now : Ticks} {ticket : EvaluationTicket}
    {verified : CandidateRecord × AdaptationGeneration × TransitionGeneration}
    (h : e.state.verifyCommit config.limits now record ticket = .ok verified) :
    e.state.pendingTransitions now < config.limits.maxPendingTransitions.toNat := by
  unfold State.verifyCommit at h
  iterate 3 obtain ⟨-, h⟩ := seq_ok h
  obtain ⟨target, _, h⟩ := bind_ok h
  iterate 2 obtain ⟨-, h⟩ := seq_ok h
  obtain ⟨hpending, -⟩ := seq_ok h
  simpa [reaches] using hpending

theorem Rewrites.history (h : Rewrites config.limits e op policy record record')
    (hs : record.history.length ≤ config.limits.maxHistoryPerPolicy.toNat) :
    record'.history.length ≤ config.limits.maxHistoryPerPolicy.toNat := by
  cases h with
  | updated =>
    unfold State.updatedRecord
    dsimp only
    split <;> exact hs
  | suppressed => exact keepLast_length ..
  | committed => exact keepLast_length ..
  | restored => exact keepLast_length ..
  | _ => exact hs

theorem Rewrites.adaptations (h : Rewrites config.limits e op policy record record')
    (hop : ¬ Overfills config.limits e.state op)
    (hs : record.timing.churnCommits.length ≤ config.limits.maxAdaptationsPerWindow.toNat) :
    record'.timing.churnCommits.length ≤ config.limits.maxAdaptationsPerWindow.toNat := by
  cases h with
  | updated =>
    unfold State.updatedRecord
    dsimp only
    split
    · exact hs
    · exact Nat.zero_le _
  | committed =>
    rw [committedRecord_churnCommits]
    split
    · exact keepLast_length ..
    · exact hs
  | @restored now request record target adaptation transitionGeneration transition id decision checks
      verified =>
    have hroom : record.timing.churnCommits.length <
        config.limits.maxAdaptationsPerWindow.toNat :=
      Nat.not_le.1 fun hfull => hop (.adapted checks verified hfull)
    show (record.timing.churnCommits ++ [now]).length ≤ _
    rw [List.length_append]
    exact hroom
  | _ => exact hs

end

/-! ## Recovery -/

section
variable {config : EngineConfig} {now : Ticks} {d : DurableState} {epoch : CoordinatorEpoch}
  {authority : AdaptiveAuthorityGeneration}

theorem recovered_history : Everywhere
    (fun _ record => record.history.length ≤ config.limits.maxHistoryPerPolicy.toNat)
    (State.recoveredState config now d epoch authority) := by
  refine .recovered (fun source _ => Nat.zero_le _) fun policy f record hrestores hr => ?_
  cases hrestores with
  | history => exact keepLast_length ..
  | _ => exact hr

/-- Restored timings list what the store lists. -/
theorem restoreTimings_adaptations (timings : List DurableTiming) (found : Option PolicyRecord)
    (listed : Nat) (hfound : ∀ record, found = some record →
      record.timing.churnCommits.length = listed) (restored : PolicyRecord)
    (h : timings.foldl (fun record timing => record.map fun record : PolicyRecord => { record with
        timing := { timing.rearmed now with
          churnCommits := record.timing.churnCommits ++ (timing.rearmed now).churnCommits } })
      found = some restored) :
    restored.timing.churnCommits.length = listed + (timings.flatMap (·.churnAges)).length := by
  induction timings generalizing found listed with
  | nil => exact hfound restored h
  | cons timing rest ih =>
    have hrest := ih _ (listed + timing.churnAges.length) (fun record hrecord => ?_) h
    · rw [hrest, List.flatMap_cons, List.length_append]
      omega
    · obtain ⟨before, hbefore, rfl⟩ := Option.map_eq_some_iff.1 hrecord
      simp [DurableTiming.rearmed, hfound before hbefore]

theorem recovered_adaptations (policy : AdaptivePolicyId)
    (h : (d.adaptations policy).length ≤ config.limits.maxAdaptationsPerWindow.toNat) :
    Everywhere (fun other record => other = policy →
      record.timing.churnCommits.length ≤ config.limits.maxAdaptationsPerWindow.toNat)
      (State.recoveredState config now d epoch authority) := by
  refine .recovered_timed (Q := fun _ record => record.timing.churnCommits = [])
    (fun source _ => rfl) (fun other f record _ htiming => ?_) fun s hs other record hrecord hother => ?_
  · rw [htiming]
    exact ⟨id, id⟩
  · subst hother
    change State.record _ other = some record at hrecord
    rw [(restoreTiming_local now).foldl] at hrecord
    rw [restoreTimings_adaptations _ _ 0 (fun before hbefore => by rw [hs other before hbefore]; rfl)
      record hrecord, Nat.zero_add]
    exact h

theorem recovered_running : Everywhere
    (fun policy record => ∀ instant, now ≤ instant → record.running instant = true →
      ∃ timing ∈ d.timings, timing.policy = policy ∧
        (timing.holdDownActive && now < now + timing.holdDownRemaining) = true)
    (State.recoveredState config now d epoch authority) := by
  refine .recovered (fun source _ instant _ hrunning => ?_) fun policy f record hrestores hr => ?_
  · simp [PolicyRecord.running, State.recoveredRecord] at hrunning
  · cases hrestores with
    | @timing timing stored =>
      intro instant hnow hrunning
      refine ⟨timing, stored, rfl, ?_⟩
      simp only [PolicyRecord.running, Bool.and_eq_true, decide_eq_true_eq] at hrunning ⊢
      exact ⟨hrunning.1, UInt64.lt_of_le_of_lt hnow hrunning.2⟩
    | _ => exact hr

end

/-! ## Running hold-downs -/

section
variable {config : EngineConfig} {e e' : Engine} {op : Op} {answer : Answer}
  {policy : AdaptivePolicyId} {record record' : PolicyRecord} {instant : Ticks}

theorem PolicyRecord.running_of_timing (h : record'.timing = record.timing) :
    record'.running instant = record.running instant := by
  unfold running
  rw [h]

/-- A hold-down that runs at an instant was running before. -/
theorem PolicyRecord.running_anti {now : Ticks} (hnow : now ≤ instant)
    (h : record.running instant = true) : record.running now = true := by
  simp only [running, Bool.and_eq_true, decide_eq_true_eq] at h ⊢
  exact ⟨h.1, UInt64.lt_of_le_of_lt hnow h.2⟩

/-- One record aside, the running hold-downs of a table are among those of another. -/
theorem pending_insert_le (policies : Std.ExtTreeMap AdaptivePolicyId PolicyRecord)
    (policy : AdaptivePolicyId) (record' : PolicyRecord) (instant : Ticks)
    (q : AdaptivePolicyId → PolicyRecord → Bool)
    (hq : ∀ other record, other ≠ policy → record.running instant = true → q other record = true) :
    tally (fun _ (record : PolicyRecord) => record.running instant) (policies.insert policy record') ≤
      tally q policies + 1 := by
  refine tally_le_except policy fun other record hne hrecord hrunning => ?_
  rw [get_insert_ne (Ne.symm hne)] at hrecord
  exact ⟨record, hrecord, hq other record hne hrunning⟩

theorem pending_rewritten (found : e.state.policies[policy]? = some record)
    (h : record'.running instant = true → record.running instant = true) :
    tally (fun _ (record : PolicyRecord) => record.running instant)
      (e.state.policies.insert policy record') ≤ e.state.pendingTransitions instant := by
  rw [pendingTransitions_eq]
  refine tally_le fun other after hafter hrunning => ?_
  by_cases hpolicy : policy = other
  · subst hpolicy
    rw [Std.ExtTreeMap.getElem?_insert_self] at hafter
    cases hafter
    exact ⟨record, found, h hrunning⟩
  · rw [get_insert_ne hpolicy] at hafter
    exact ⟨after, hafter, hrunning⟩

/-- A rewritten record adds to the running hold-downs when the operation commits, which the bound
allows, or rolls back. -/
theorem Rewrites.pending (h : Rewrites config.limits e op policy record record')
    (found : e.state.policies[policy]? = some record) (hop : ¬ Overfills config.limits e.state op)
    (hread : ReadBy instant op)
    (hs : e.state.pendingTransitions instant ≤ config.limits.maxPendingTransitions.toNat) :
    tally (fun _ (record : PolicyRecord) => record.running instant)
      (e.state.policies.insert policy record') ≤ config.limits.maxPendingTransitions.toNat := by
  cases h with
  | updated =>
    refine Nat.le_trans (pending_rewritten found fun hrunning => ?_) hs
    unfold State.updatedRecord at hrunning
    dsimp only at hrunning
    split at hrunning
    · exact hrunning
    · simp [PolicyRecord.running] at hrunning
  | @committed op now request record target adaptation transitionGeneration transition id preference
      commits checks eligible other verified =>
    have hnow := hread _ (Op.adaptsAt_reading commits.adaptsAt)
    have hinsert := pending_insert_le e.state.policies request.ticket.dependencies.policy
      (State.committedRecord config.limits now record preference
        (e.state.committedDecision now record request.ticket preference)) instant
      (fun _ record => record.running now)
      fun _ _ _ hrunning => PolicyRecord.running_anti hnow hrunning
    have hpending := verifyCommit_pending verified
    rw [pendingTransitions_eq] at hpending
    omega
  | @restored now request record target adaptation transitionGeneration transition id decision checks
      verified =>
    have hnow : now ≤ instant := hread now (by simp [Op.readings])
    by_cases harms : now < now + record.policy.semantics.holdDown.duration
    · have hinsert := pending_insert_le e.state.policies request.policy
        (State.rolledBackRecord config.limits now record target decision transition) instant
        (fun policy other => policy != request.policy && other.running now)
        fun other record hne hrunning => by
          simp [hne, PolicyRecord.running_anti hnow hrunning]
      have hroom := Nat.not_le.1 fun hfull => hop (.armed checks verified harms hfull)
      omega
    · refine Nat.le_trans (pending_rewritten found fun hrunning => ?_) hs
      simp only [PolicyRecord.running, Bool.and_eq_true, decide_eq_true_eq] at hrunning
      exact absurd (UInt64.lt_of_le_of_lt hnow hrunning.2) harms
  | _ => exact Nat.le_trans (pending_rewritten found fun hrunning => hrunning) hs

/-- No step that does not overfill leaves more hold-downs running than may, at an instant no reading of
the step is past. -/
theorem pending_step (hs : e.state.pendingTransitions instant ≤
      config.limits.maxPendingTransitions.toNat)
    (hop : ¬ Overfills config.limits e.state op) (hread : ReadBy instant op)
    (h : e.step config op = some (e', answer)) :
    e'.state.pendingTransitions instant ≤ config.limits.maxPendingTransitions.toNat := by
  rw [pendingTransitions_eq]
  have htally := hs
  rw [pendingTransitions_eq] at htally
  have hchange := step_policies h
  generalize e'.state.policies = policies at hchange
  cases hchange with
  | kept => exact hs
  | rewritten found rewrites => exact rewrites.pending found hop hread hs
  | created =>
    refine Nat.le_trans (tally_le fun other after hafter hrunning => ?_) htally
    rw [Std.ExtTreeMap.getElem?_insertIfNew] at hafter
    split at hafter
    · cases hafter
      simp [PolicyRecord.running, State.newRecord] at hrunning
    · exact ⟨after, hafter, hrunning⟩
  | advanced =>
    refine Nat.le_trans (tally_le fun other after hafter hrunning => ?_) htally
    rw [Std.ExtTreeMap.getElem?_map, Option.map_eq_some_iff] at hafter
    obtain ⟨before, hbefore, rfl⟩ := hafter
    simp [PolicyRecord.running, State.requireRevalidation] at hrunning
  | @notified request =>
    refine Nat.le_trans (tally_le fun other after hafter hrunning => ?_) htally
    have hframe := State.applyNotifications_frame config.limits request.context e.state
      request.notifications other
    rw [hafter, Option.map_some, eq_comm, Option.map_eq_some_iff] at hframe
    obtain ⟨before, hbefore, hsame⟩ := hframe
    have htiming := PolicyRecord.timing_of_frame hsame
    exact ⟨before, hbefore, (PolicyRecord.running_of_timing htiming).trans hrunning⟩
  | @recovered now durable origin epoch authority decodes admissible =>
    subst decodes
    have hnow : now ≤ instant := hread now (by simp [Op.readings])
    refine Nat.le_trans (tally_le_countP DurableTiming.policy
      (fun timing => timing.holdDownActive && now < now + timing.holdDownRemaining)
      fun policy record hrecord hrunning => ?_) (Nat.not_lt.1 fun hexceeds =>
        hop (.pending admissible hexceeds))
    exact recovered_running policy record hrecord instant hnow hrunning

end

/-! ## Runs -/

/-- Every bounded structure is within its limit, and the orders list their tables. -/
structure Contained (limits : Limits) (s : State) : Prop where
  histories : Everywhere
    (fun _ record => record.history.length ≤ limits.maxHistoryPerPolicy.toNat) s
  adaptations : Everywhere
    (fun _ record => record.timing.churnCommits.length ≤ limits.maxAdaptationsPerWindow.toNat) s
  journal : s.decisionJournal.length ≤ limits.maxDecisionHistory.toNat
  series : ∀ (key : EvidenceKey) (series : EvidenceSeries), s.evidence[key]? = some series →
    series.samples.length ≤ limits.maxEvidenceSamplesPerSeries.toNat
  attempts : s.attempts.size ≤ limits.maxAttempts.toNat
  attemptOrder : Retention.Consistent s.attempts s.attemptOrder
  snapshots : s.snapshots.size ≤ limits.maxSnapshotHistory.toNat
  snapshotOrder : Retention.Consistent s.snapshots s.snapshotOrder

/-- An operation that overfills nothing and mints no identity twice. -/
structure Spares (config : EngineConfig) (e : Engine) (op : Op) : Prop where
  room : e.ids.counter.toNat + op.mints < UInt64.size
  fills : ¬ Overfills config.limits e.state op

section
variable {config : EngineConfig} {e e' : Engine} {op : Op} {answer : Answer}

theorem histories_step (hs : Everywhere
      (fun _ record => record.history.length ≤ config.limits.maxHistoryPerPolicy.toNat) e.state)
    (h : e.step config op = some (e', answer)) : Everywhere
      (fun _ record => record.history.length ≤ config.limits.maxHistoryPerPolicy.toNat) e'.state :=
  hs.step
    { rewrites := fun _ _ _ hrewrites => hrewrites.history
      creates := fun _ _ _ _ _ => Nat.zero_le _
      advances := fun _ _ => id
      amends := fun _ _ _ record record' _ hamends hr => by
        rwa [PolicyRecord.history_of_frame hamends.frame]
      recovers := fun _ _ _ _ _ => recovered_history } h

theorem adaptations_step (hs : Everywhere
      (fun _ record => record.timing.churnCommits.length ≤
        config.limits.maxAdaptationsPerWindow.toNat) e.state)
    (hop : ¬ Overfills config.limits e.state op) (h : e.step config op = some (e', answer)) :
    Everywhere (fun _ record => record.timing.churnCommits.length ≤
      config.limits.maxAdaptationsPerWindow.toNat) e'.state :=
  hs.step
    { rewrites := fun _ _ _ hrewrites => hrewrites.adaptations hop
      creates := fun _ _ _ _ _ => Nat.zero_le _
      advances := fun _ _ _ => Nat.zero_le _
      amends := fun _ _ _ record record' _ hamends hr => by
        rwa [PolicyRecord.timing_of_frame hamends.frame]
      recovers := fun now durable epoch authority hrecovers policy record hrecord => by
        obtain ⟨_, _, rfl, hadmissible⟩ := Op.recovers_some hrecovers
        exact recovered_adaptations policy
          (Nat.not_lt.1 fun hexceeds => hop (.listed hadmissible hexceeds)) policy record hrecord rfl } h

theorem attempts_step (hs : e.state.attemptOrder.length ≤ config.limits.maxAttempts.toNat)
    (h : e.step config op = some (e', answer)) :
    e'.state.attemptOrder.length ≤ config.limits.maxAttempts.toNat := by
  cases step_ledger h with
  | kept same =>
    have horder : e'.state.attemptOrder = e.state.attemptOrder := congrArg Prod.snd same
    rwa [horder]
  | @recorded context fingerprint outcome detail carries prints valid fresh answers table =>
    have horder := congrArg Prod.snd (table.trans (State.recordAttempt_fresh valid fresh ..))
    change e'.state.attemptOrder = _ at horder
    rw [horder, List.length_drop]
    omega
  | cleared governs empty =>
    have horder : e'.state.attemptOrder = [] := congrArg Prod.snd empty
    rw [horder]
    exact Nat.zero_le _

/-- The attempts a reachable state retains are within their bound. -/
theorem attemptOrder_bounded (h : Reachable config e) :
    e.state.attemptOrder.length ≤ config.limits.maxAttempts.toNat := by
  obtain ⟨nonce, hrun⟩ := h
  exact hrun.inv (I := fun e => e.state.attemptOrder.length ≤ config.limits.maxAttempts.toNat)
    (fun _ _ _ _ _ hs hstep => attempts_step hs hstep) (Nat.zero_le _)

end

/-- In every run in which no operation overfills the list of adaptations of a policy or the count of
hold-downs, and no identity is minted twice, every bounded structure is within its limit, and no more
hold-downs than may run at any instant no reading of the run is past. -/
theorem retention_is_bounded {config : EngineConfig} {nonce : Text} {e : Engine}
    {calls : List (Runs.Call Engine Op Answer)}
    (h : Runs.Trace (Engine.step config) (fun _ e op => Spares config e op)
      (Engine.start config nonce) calls e) :
    Contained config.limits e.state ∧
      ∀ instant, (∀ call ∈ calls, ReadBy instant call.label) →
        e.state.pendingTransitions instant ≤ config.limits.maxPendingTransitions.toNat := by
  have hrun : RunUnder config (fun e op => Spares config e op) (Engine.start config nonce) e :=
    h.under fun _ _ _ hop => hop
  have hreachable : Reachable config e := ⟨nonce, hrun.mono fun _ _ _ => trivial⟩
  have htabled := Tabled.reachable hreachable
  have horder := attemptOrder_bounded hreachable
  have hshelved : Shelved config.limits e.ids e.state.shelves :=
    hrun.inv (I := fun e => Shelved config.limits e.ids e.state.shelves)
      (fun _ _ _ _ hop hs hstep => hs.step hop.room hstep)
      ⟨Nat.zero_le _, fun key series hseries => by simp [Engine.start, State.shelves] at hseries,
        Nat.zero_le _, Retention.Consistent.empty, fun id hid => by cases hid⟩
  refine ⟨{ histories := ?_, adaptations := ?_, journal := hshelved.journal
            series := hshelved.series, attempts := ?_, attemptOrder := htabled, snapshots := ?_
            snapshotOrder := hshelved.consistent }, ?_⟩
  · exact hrun.inv (I := fun e => Everywhere _ e.state)
      (fun _ _ _ _ _ hs hstep => histories_step hs hstep)
      fun policy record hrecord => by simp [Engine.start] at hrecord
  · exact hrun.inv (I := fun e => Everywhere _ e.state)
      (fun _ _ _ _ hop hs hstep => adaptations_step hs hop.fills hstep)
      fun policy record hrecord => by simp [Engine.start] at hrecord
  · rw [Retention.Consistent.size_eq htabled]
    exact horder
  · exact hshelved.consistent.size_eq.symm ▸ hshelved.snapshots
  · clear hrun hreachable htabled horder hshelved
    induction h with
    | start =>
      intro instant _
      exact Nat.zero_le _
    | call _ hop hstep ih =>
      intro instant hread
      refine pending_step (ih instant fun call hmem => hread call (List.mem_append_left _ hmem))
        hop.fills (hread _ (List.mem_append_right _ (List.mem_singleton.2 rfl))) hstep

/-! ## One adaptation per window -/

/-- Only a rollback or a recovery overfills. -/
theorem Overfills.label {limits : Limits} {s : State} {op : Op} (h : Overfills limits s op) :
    op.restores = true ∨ (op.recovers limits).isSome = true := by
  cases h with
  | adapted => exact .inl rfl
  | armed => exact .inl rfl
  | listed admissible => simp [Op.recovers, admissible]
  | pending admissible => simp [Op.recovers, admissible]

namespace Scenario

/-- The limits allow one adaptation per window. -/
def tight : EngineConfig := { limits := { maxAdaptationsPerWindow := 1 } }

/-- The engine with these limits after a list of operations. -/
def tightly (ops : List Op) : Option Engine :=
  Runs.runAll (Engine.step tight) (Engine.start tight "n") ops

def goBack : Op := .rollback 4 { policy, context := context 1 "back" }

theorem tightly_spares {ops : List Op} {e : Engine} (h : tightly ops = some e)
    (hcalls : ((Runs.callsOf (Engine.step tight) (Engine.start tight "n") ops).all fun call =>
      !call.label.restores && (call.label.recovers tight.limits).isNone &&
        decide (call.pre.ids.counter.toNat + call.label.mints < UInt64.size)) = true) :
    Runs.Trace (Engine.step tight) (fun _ e op => Spares tight e op) (Engine.start tight "n")
      (Runs.callsOf (Engine.step tight) (Engine.start tight "n") ops) e := by
  refine @Runs.Trace.callsOf _ _ _ _ _ _ _ _ [] _ .start h fun front call back heq => ?_
  have hcall := List.all_eq_true.1 hcalls call (by rw [heq]; simp)
  simp only [Bool.and_eq_true, Bool.not_eq_true', decide_eq_true_eq] at hcall
  obtain ⟨⟨hrestores, hrecovers⟩, hroom⟩ := hcall
  refine ⟨hroom, fun hop => ?_⟩
  rcases hop.label with hlabel | hlabel
  · rw [hrestores] at hlabel
    cases hlabel
  · rw [Option.isNone_iff_eq_none.1 hrecovers] at hlabel
    cases hlabel

end Scenario

open Scenario in
/-- The one adaptation is listed and its hold-down runs. -/
theorem one_adaptation_is_contained :
    ∃ e, tightly (poised ++ [leave]) = some e ∧ Contained tight.limits e.state ∧
      e.state.pendingTransitions 3 ≤ tight.limits.maxPendingTransitions.toNat := by
  obtain ⟨e, he⟩ := Option.isSome_iff_exists.1
    (by decide +kernel : (tightly (poised ++ [leave])).isSome = true)
  obtain ⟨hcontained, hpending⟩ := retention_is_bounded (tightly_spares he (by decide +kernel))
  refine ⟨e, he, hcontained, hpending 3 fun call hcall reading hreading => ?_⟩
  have hread : ((Runs.callsOf (Engine.step tight) (Engine.start tight "n")
      (poised ++ [leave])).all fun call => call.label.readings.all (· ≤ 3)) = true := by
    decide +kernel
  exact of_decide_eq_true
    (List.all_eq_true.1 (List.all_eq_true.1 hread call hcall) reading hreading)

open Scenario in
/-- A rollback adds a second adaptation to a list that may hold one. -/
theorem rollback_overfills_adaptations :
    ∃ e, tightly (poised ++ [leave, goBack]) = some e ∧ Engine.Reachable tight e ∧
      ¬ Contained tight.limits e.state := by
  obtain ⟨e, he, hlisted⟩ := Runs.exists_run_of_runAll
    (p := fun e => (e.state.policies[policy]?).any fun record =>
      record.timing.churnCommits.length == 2)
    (by decide +kernel : (tightly (poised ++ [leave, goBack])).any _ = true)
  refine ⟨e, he, Engine.reachable_of_runAll he, fun hcontained => ?_⟩
  obtain ⟨record, hrecord, hlength⟩ := (Option.any_eq_true _ _).1 hlisted
  have hle : record.timing.churnCommits.length ≤ 1 := hcontained.adaptations policy record hrecord
  rw [beq_iff_eq.1 hlength] at hle
  omega

end AdaptiveRouting
