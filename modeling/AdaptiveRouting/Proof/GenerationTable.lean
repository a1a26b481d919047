import AdaptiveRouting.Proof.Counters
import AdaptiveRouting.Proof.Generations
import AdaptiveRouting.Proof.Recorded

/-!
# The generation table

Which event advances which generation: an accepted evidence batch the evidence generation, another
scope or semantics a policy's generation, an epoch advance, a recovery and a new incarnation of a
known publisher the authority generation (`OnTable`). Two operations leave the table: a registration
that replaces an incarnation advances nothing, and an update that changes nothing advances the
policy's generation (`OffTable`).
-/

namespace AdaptiveRouting

open Guard Engine

/-- A generation advances when the event happens, and rests when it does not. -/
structure Moves {d : GenerationDomain} (event : Prop) (before after : Generation d) : Prop where
  advances : event → before.next = some after
  rests : ¬ event → after = before

theorem Moves.of_same {d : GenerationDomain} {event : Prop} {before after : Generation d}
    (hevent : ¬ event) (h : after = before) : Moves event before after :=
  ⟨fun hhappens => absurd hhappens hevent, fun _ => h⟩

theorem Moves.of_next {d : GenerationDomain} {event : Prop} {before after : Generation d}
    (hevent : event) (h : before.next = some after) : Moves event before after :=
  ⟨fun _ => h, fun hrests => absurd hevent hrests⟩

/-- The generations of the table, each policy's with the policy. -/
structure GenerationTable where
  evidence : EvidenceGeneration
  authority : AdaptiveAuthorityGeneration
  policyOf : AdaptivePolicyId → Option AdaptivePolicy

def State.table (s : State) : GenerationTable where
  evidence := s.evidenceGeneration
  authority := s.authorityGeneration
  policyOf := fun id => s.policies[id]?.map (·.policy)

def DurableState.table (d : DurableState) : GenerationTable where
  evidence := d.evidenceGeneration
  authority := d.authorityGeneration
  policyOf := d.policyOf

/-- The generations an operation starts from: those of the state, and for a recovery those of its
store, which is the state it goes on with. -/
def Op.baseline (limits : Limits) (s : State) (op : Op) : GenerationTable :=
  match op.recovers limits with
  | some durable => durable.table
  | none => s.table

/-! ## The events -/

/-- An evidence batch is accepted. -/
def AcceptsBatch (op : Op) (answer : Answer) : Prop :=
  (∃ clock request, op = .publishEvidence clock request) ∧ answer.outcome = some .policyUpdated

/-- The policy's scope or its semantics change. -/
def Redefines (before after : AdaptivePolicy) : Prop :=
  after.scope ≠ before.scope ∨ after.semantics ≠ before.semantics

/-- An accepted registration replaces another incarnation of its publisher. -/
inductive Reincarnates (limits : Limits) (s : State) : Op → Prop
  | registers {publisher : PublisherId} {workerBoot : WorkerBootId} {scope : AuthorityScope}
      {session : SessionId} {registration : PublisherRegistration}
      (checks : s.registerChecks limits publisher workerBoot scope session = .ok ())
      (registered : s.registrations[publisher]? = some registration)
      (other : registration.workerBoot ≠ workerBoot) :
      Reincarnates limits s (.registerPublisher publisher workerBoot scope session)

/-- An epoch advance that is not refused. -/
inductive EndsEpoch (s : State) : Op → Prop
  | advances {reason : Text} (epoch : s.epoch.next.isSome = true)
      (authority : s.authorityGeneration.next.isSome = true) : EndsEpoch s (.advanceEpoch reason)

/-- What the authority generation counts. -/
inductive Renews (limits : Limits) (s : State) (op : Op) : Prop
  | epoch (ends : EndsEpoch s op)
  | recovery {durable : DurableState} (recovers : op.recovers limits = some durable)
  | incarnation (reincarnates : Reincarnates limits s op)

/-- Each generation advances in the step exactly when its event happens. -/
structure OnTable (config : EngineConfig) (e : Engine) (op : Op) (answer : Answer) (e' : Engine) :
    Prop where
  evidence : Moves (AcceptsBatch op answer) (op.baseline config.limits e.state).evidence
    e'.state.table.evidence
  policy : ∀ (id : AdaptivePolicyId) (before after : AdaptivePolicy),
    (op.baseline config.limits e.state).policyOf id = some before →
    e'.state.table.policyOf id = some after →
    Moves (Redefines before after) before.generation after.generation
  authority : Moves (Renews config.limits e.state op) (op.baseline config.limits e.state).authority
    e'.state.table.authority

/-- The operations that leave the table. -/
inductive OffTable (limits : Limits) (s : State) (op : Op) : Prop
  | incarnation (reincarnates : Reincarnates limits s op)
  | update {now : Ticks} {request : UpdatePolicyRequest} {record : PolicyRecord} {fingerprint : Text}
      {generation : AdaptivePolicyGeneration} (updates : op = .updatePolicy now request)
      (checks : s.updateChecks limits request = .ok (record, fingerprint, generation))
      (scope : request.update.scope = record.policy.scope)
      (semantics : request.update.semantics = record.policy.semantics) : OffTable limits s op

/-- Some generation is not what it was. -/
inductive GenerationTable.Moved (before after : GenerationTable) : Prop
  | evidence (moved : after.evidence ≠ before.evidence)
  | authority (moved : after.authority ≠ before.authority)
  | policy {id : AdaptivePolicyId} {policy policy' : AdaptivePolicy}
      (found : before.policyOf id = some policy) (found' : after.policyOf id = some policy')
      (moved : policy'.generation ≠ policy.generation)

/-! ## Steps -/

section
variable {config : EngineConfig} {e e' : Engine} {op : Op} {answer : Answer}

theorem step_evidence_moves (h : e.step config op = some (e', answer))
    (hop : op.recovers config.limits = none) :
    Moves (AcceptsBatch op answer) e.state.evidenceGeneration e'.state.evidenceGeneration := by
  cases step_gauges h hop with
  | kept same other =>
    refine .of_same ?_ (State.evidenceGeneration_of_gauges same)
    rintro ⟨⟨now, request, rfl⟩, -⟩
    exact other now request rfl
  | notified notifies notified =>
    refine .of_same ?_ (congrArg Gauges.evidenceGeneration notified.evidence)
    rintro ⟨⟨now, request, rfl⟩, -⟩
    cases notifies
  | @published now request outcome publishes answers effect =>
    have hrefused (hother : outcome ≠ .policyUpdated) : ¬ AcceptsBatch op answer := by
      rintro ⟨-, haccepted⟩
      rw [answers] at haccepted
      exact hother (Option.some.inj haccepted)
    cases effect with
    | refused other same => exact .of_same (hrefused other) (congrArg State.evidenceGeneration same)
    | exhausted other _ same => exact .of_same (hrefused other) same
    | published accepts next counts =>
      refine .of_next ⟨⟨now, request, publishes⟩, ?_⟩ ?_
      · rw [answers, accepts]
      · rw [next, counts]

/-- A policy's generation advances in its updates. -/
theorem step_policy_moves (h : e.step config op = some (e', answer))
    (hop : op.recovers config.limits = none) {id : AdaptivePolicyId} {before after : AdaptivePolicy}
    (hbefore : e.state.table.policyOf id = some before)
    (hafter : e'.state.table.policyOf id = some after) :
    (after.generation = before.generation ∧ ¬ Redefines before after) ∨
      ∃ now request record fingerprint generation, op = .updatePolicy now request ∧
        request.policy = id ∧ record.policy = before ∧
        e.state.updateChecks config.limits request = .ok (record, fingerprint, generation) ∧
        before.generation.next = some after.generation ∧ after.scope = request.update.scope ∧
        after.semantics = request.update.semantics := by
  obtain ⟨record, hrecord, rfl⟩ := Option.map_eq_some_iff.1 hbefore
  obtain ⟨found, hfound, rfl⟩ := Option.map_eq_some_iff.1 hafter
  obtain ⟨record', hrecord', hchange⟩ := step_record h hop hrecord
  rw [hfound] at hrecord'
  cases hrecord'
  rcases hchange.declares with ⟨hgeneration, hscope, hsemantics⟩ | hredeclared
  · refine .inl ⟨hgeneration, ?_⟩
    rintro (hscope' | hsemantics')
    · exact hscope' hscope
    · exact hsemantics' hsemantics
  · have hnext := hredeclared.next
    cases hredeclared with
    | @updated now request fingerprint generation updates subject checks =>
      refine .inr ⟨now, request, record, fingerprint, generation, updates, subject, rfl, checks, hnext,
        ?_, ?_⟩
      · unfold State.updatedRecord
        dsimp only
        split <;> rfl
      · unfold State.updatedRecord
        dsimp only
        split <;> rfl

theorem Reincarnates.recoverless {limits : Limits} {s : State} (h : Reincarnates limits s op) :
    op.recovers limits = none := by
  cases h
  rfl

/-- A publication is on the table. -/
theorem OffTable.not_batch {limits : Limits} {s : State} {clock : Nat → Ticks}
    {request : PublishEvidenceRequest} : ¬ OffTable limits s (.publishEvidence clock request) := by
  intro hoff
  cases hoff with
  | incarnation reincarnates => cases reincarnates
  | update updates => cases updates

/-- A recovery advances the authority generation of its store and nothing else. -/
theorem recovery_onTable {durable : DurableState} (h : e.step config op = some (e', answer))
    (hrecovers : op.recovers config.limits = some durable) : OnTable config e op answer e' := by
  have hbaseline : op.baseline config.limits e.state = durable.table := by
    unfold Op.baseline
    rw [hrecovers]
  obtain ⟨now, epoch, authority, -, hauthority, rfl⟩ := step_recovered h hrecovers
  have hstanding := recoveredState_standing config now durable epoch authority
  have hgauges := recoveredState_gauges config now durable epoch authority
  refine ⟨?_, fun id before after hbefore hafter => ?_, ?_⟩
  · rw [hbaseline]
    refine .of_same ?_ (congrArg Gauges.evidenceGeneration hgauges)
    rintro ⟨⟨now, request, rfl⟩, -⟩
    cases hrecovers
  · rw [hbaseline] at hbefore
    change durable.policyOf id = some before at hbefore
    have haccount := recovered_account config now epoch authority durable id
    obtain ⟨record, hrecord, rfl⟩ := Option.map_eq_some_iff.1 hafter
    rw [State.accountOf, State.record, hrecord, hbefore, Option.map_some, Option.map_some] at haccount
    have hpolicy := congrArg Prod.fst (Option.some.inj haccount)
    change record.policy = _ at hpolicy
    rw [hpolicy]
    unfold State.recoveredRecord
    dsimp only
    split
    · refine .of_same ?_ rfl
      rintro (hscope | hsemantics)
      · exact hscope rfl
      · exact hsemantics rfl
    · refine .of_same ?_ rfl
      rintro (hscope | hsemantics)
      · exact hscope rfl
      · exact hsemantics rfl
  · rw [hbaseline]
    refine .of_next (.recovery hrecovers) (hauthority.trans ?_)
    exact congrArg some (congrArg State.Standing.authorityGeneration hstanding).symm

/-- A step keeps to the table exactly when it is not one of the two operations that leave it. -/
theorem onTable_iff (h : e.step config op = some (e', answer)) :
    OnTable config e op answer e' ↔ ¬ OffTable config.limits e.state op := by
  cases hrecovers : op.recovers config.limits with
  | some durable =>
    refine ⟨fun _ hoff => ?_, fun _ => recovery_onTable h hrecovers⟩
    cases hoff with
    | incarnation reincarnates =>
      rw [reincarnates.recoverless] at hrecovers
      cases hrecovers
    | update updates =>
      subst updates
      cases hrecovers
  | none =>
    have hbaseline : op.baseline config.limits e.state = e.state.table := by
      unfold Op.baseline
      rw [hrecovers]
    refine ⟨fun hon hoff => ?_, fun hon => ⟨?_, fun id before after hbefore hafter => ?_, ?_⟩⟩
    · cases hoff with
      | incarnation reincarnates =>
        have hnext := hon.authority.advances (.incarnation reincarnates)
        rw [hbaseline] at hnext
        rcases step_authority h hrecovers with ⟨hsame, -⟩ | ⟨reason, hadvances, -⟩
        · have htoNat := Generation.next_toNat hnext
          change e'.state.authorityGeneration.value.toNat =
            e.state.authorityGeneration.value.toNat + 1 at htoNat
          rw [hsame] at htoNat
          omega
        · subst hadvances
          cases reincarnates
      | @update now request record fingerprint generation updates checks scope semantics =>
        subst updates
        obtain ⟨_, haccepted⟩ := State.updateChecks_ok checks
        have hafter : e'.state.table.policyOf request.policy =
            some (e.state.updatedRecord now request generation record).policy := by
          cases h
          exact congrArg (Option.map (·.policy)) (updatePolicy_get checks)
        have hmoves := hon.policy request.policy record.policy _
          (by rw [hbaseline]; exact congrArg (Option.map (·.policy)) haccepted.found) hafter
        have hupdated : (e.state.updatedRecord now request generation record).policy =
            { record.policy with
              scope := request.update.scope, semantics := request.update.semantics, generation
              updatedAt := now, epoch := e.state.epoch } := by
          unfold State.updatedRecord
          dsimp only
          split <;> rfl
        rw [hupdated] at hmoves
        have hsame := hmoves.rests (by
          rintro (hscope | hsemantics)
          · exact hscope scope
          · exact hsemantics semantics)
        have htoNat := Generation.next_toNat haccepted.next
        change generation = record.policy.generation at hsame
        rw [hsame] at htoNat
        omega
    · rw [hbaseline]
      exact step_evidence_moves h hrecovers
    · rw [hbaseline] at hbefore
      rcases step_policy_moves h hrecovers hbefore hafter with ⟨hsame, hkept⟩ |
        ⟨now, request, record, fingerprint, generation, updates, subject, rfl, checks, hnext, hscope,
          hsemantics⟩
      · exact .of_same hkept hsame
      · refine .of_next ?_ hnext
        unfold Redefines
        rw [hscope, hsemantics]
        by_contra hsame
        rw [not_or, not_not, not_not] at hsame
        exact hon (.update updates checks hsame.1 hsame.2)
    · rw [hbaseline]
      rcases step_authority h hrecovers with ⟨hsame, hlast⟩ | ⟨reason, hadvances, hepoch, hnext⟩
      · refine .of_same (fun hrenews => ?_) hsame
        cases hrenews with
        | epoch ends =>
          cases ends with
          | advances epoch authority =>
            rcases hlast _ rfl with hnone | hnone
            · rw [hnone] at epoch
              cases epoch
            · rw [hnone] at authority
              cases authority
        | recovery recovers =>
          rw [hrecovers] at recovers
          cases recovers
        | incarnation reincarnates => exact hon (.incarnation reincarnates)
      · subst hadvances
        refine .of_next (.epoch (.advances hepoch ?_)) hnext
        rw [hnext]
        rfl

/-! ## Answers -/

theorem advanceEpoch_outcome {s : State} {reason : Text} (hepoch : s.epoch.next.isSome = true)
    (hauthority : s.authorityGeneration.next.isSome = true) :
    (s.advanceEpoch reason).2.outcome = .policyUpdated := by
  obtain ⟨epoch, hepoch⟩ := Option.isSome_iff_exists.1 hepoch
  obtain ⟨authority, hauthority⟩ := Option.isSome_iff_exists.1 hauthority
  unfold State.advanceEpoch
  simp only [hepoch, hauthority, State.makeResult_outcome]

theorem recovery_outcome {durable : DurableState} (h : e.step config op = some (e', answer))
    (hrecovers : op.recovers config.limits = some durable) :
    answer.outcome = some .policyUpdated := by
  obtain ⟨now, origin, rfl, hadmissible⟩ := Op.recovers_some hrecovers
  cases h
  unfold DurableState.admissible at hadmissible
  simp only [Bool.and_eq_true, beq_iff_eq, Bool.not_eq_true'] at hadmissible
  obtain ⟨⟨⟨hversion, hlimits⟩, hepoch⟩, hauthority⟩ := hadmissible
  obtain ⟨epoch, hepoch⟩ := Option.isSome_iff_exists.1 hepoch
  obtain ⟨authority, hauthority⟩ := Option.isSome_iff_exists.1 hauthority
  refine congrArg some ?_
  unfold State.decodeStore State.applyDurable
  simp [hversion, hlimits, hepoch, hauthority]

/-- A generation moves only in a step that answers POLICY_UPDATED: a refusal, a replay, a read and an
evaluation move none. -/
theorem step_moved (h : e.step config op = some (e', answer))
    (hmoved : (op.baseline config.limits e.state).Moved e'.state.table) :
    answer.outcome = some .policyUpdated := by
  cases hrecovers : op.recovers config.limits with
  | some durable => exact recovery_outcome h hrecovers
  | none =>
    have hbaseline : op.baseline config.limits e.state = e.state.table := by
      unfold Op.baseline
      rw [hrecovers]
    rw [hbaseline] at hmoved
    cases hmoved with
    | evidence moved =>
      by_contra hother
      refine moved ((step_evidence_moves h hrecovers).rests ?_)
      rintro ⟨-, haccepted⟩
      exact hother haccepted
    | authority moved =>
      rcases step_authority h hrecovers with ⟨hsame, -⟩ | ⟨reason, rfl, hepoch, hnext⟩
      · exact absurd hsame moved
      · cases h
        exact congrArg some (advanceEpoch_outcome hepoch (by rw [hnext]; rfl))
    | policy found found' moved =>
      rcases step_policy_moves h hrecovers found found' with ⟨hsame, -⟩ |
        ⟨now, request, record, fingerprint, generation, rfl, -, -, checks, -⟩
      · exact absurd hsame moved
      · cases h
        refine congrArg some ?_
        unfold State.updatePolicy
        simp [checks]

end

/-- Every step keeps to the table, unless it registers another incarnation of a known publisher or
updates a policy to what it is; and a generation moves only in a step that answers POLICY_UPDATED. -/
theorem generations_follow_the_table {config : EngineConfig} {e e' : Engine} {op : Op}
    {answer : Answer} (h : e.step config op = some (e', answer)) :
    (OnTable config e op answer e' ↔ ¬ OffTable config.limits e.state op) ∧
      ((op.baseline config.limits e.state).Moved e'.state.table →
        answer.outcome = some .policyUpdated) :=
  ⟨onTable_iff h, step_moved h⟩

open Scenario in
/-- An accepted batch advances the evidence generation alone. -/
theorem batch_keeps_to_the_table :
    let declared : List Op := [register, .createPolicy 0 (create 1), activate,
      notify (declare left) "left"]
    let batch : Op := publish left 100 "left-evidence"
    ∃ answer, (after declared).step config batch = some (after (declared ++ [batch]), answer) ∧
      OnTable config (after declared) batch answer (after (declared ++ [batch])) := by
  intro declared batch
  obtain ⟨answer, hbatch⟩ := step_after declared batch (by decide +kernel)
  exact ⟨answer, hbatch, (generations_follow_the_table hbatch).1.2 OffTable.not_batch⟩

open Scenario in
/-- The publisher's next incarnation registers: its fenced predecessor's authority generation is the
current one. -/
theorem next_incarnation_is_off_the_table :
    ¬ ∀ (e e' : Engine) (op : Op) (answer : Answer), Reachable config e →
      e.step config op = some (e', answer) → OnTable config e op answer e' := by
  intro hclaim
  obtain ⟨answer, hregister⟩ := step_after [register] registerNext (by decide +kernel)
  have hon := hclaim _ _ _ _ (reachable_after (by decide +kernel)) hregister
  have hregistered : (after [register]).state.registrations[publisher]? =
      some { publisher, workerBoot := boot, scope, epoch := ⟨1⟩, authorityGeneration := ⟨1⟩, session } :=
    by decide +kernel
  have hreincarnates : Reincarnates config.limits (after [register]).state registerNext :=
    .registers rfl hregistered (by decide +kernel)
  have hnext := hon.authority.advances (.incarnation hreincarnates)
  have hsame : (after [register]).state.authorityGeneration.next ≠
      some (after ([register] ++ [registerNext])).state.authorityGeneration := by decide +kernel
  exact hsame hnext

end AdaptiveRouting
