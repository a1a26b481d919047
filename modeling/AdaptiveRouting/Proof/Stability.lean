import AdaptiveRouting.Proof.Fidelity

/-!
# The last known stable preference

The anchor is taken from whatever preference a commit or a rollback displaces, without a look at its
candidate. An ordinary adaptation looked before: phase one compares the best candidate with an
eligible incumbent, in no emergency, and where the facts are watched between the phases the incumbent
is still what it was (`Vouched.inOrder`). An emergency looked the other way: it records the path it
flees from. So in a deployment that commits the proposals of phase one outside emergencies, moves no
preferred path to another authority generation, and rolls back preferences in order only, every anchor
stood when it was recorded (`anchor_stood`).
-/

namespace AdaptiveRouting

open Engine Guard

/-! ## The moment of recording -/

/-- The anchored path was a candidate of the policy as it stood: legal under the recorded generation
of its authority, with a current route, available, a member of the target set, and in no condition
the policy reacts to with an emergency. -/
structure PolicyRecord.Stood (record : PolicyRecord) (stable : StableState)
    (candidate : CandidateRecord) : Prop where
  among : candidate ∈ record.candidates
  path : candidate.binding.path = stable.path
  legal : candidate.binding.pathAuthority.legal = true
  generation : candidate.binding.pathAuthority.generation = stable.pathAuthorityGeneration
  route : candidate.binding.route.current = true
  available : candidate.binding.available = true
  member : ∀ set, record.policy.semantics.target.multipathSet = some set →
    ∃ m ∈ candidate.binding.multipath, m.current = true ∧ m.set = set ∧
      m.contains candidate.binding.path = true
  calm : ∀ condition : EmergencyCondition, record.policy.semantics.emergency.enabled = true →
    condition.enabled record.policy.semantics.emergency = true →
    condition.afflicts candidate.binding = false

/-- The preferred path passes the upstream checks of phase one under the authority generation it was
installed with, and no failure signal would be answered with an emergency. -/
structure PolicyRecord.InOrder (record : PolicyRecord) (candidate : CandidateRecord) : Prop where
  found : record.findCandidate record.preference.preferredPath = some candidate
  admitted : upstreamRejection record.policy.semantics.target candidate.binding = none
  generation : candidate.binding.pathAuthority.generation =
    record.preference.pathAuthorityGeneration
  calm : (record.policy.semantics.emergency.enabled &&
    record.policy.semantics.emergency.onHardFailureSignal && candidate.binding.hardFailure) = false

/-! ## Proposals -/

namespace EvaluationInputs

/-- The policy is in an emergency, and has somewhere else to go. -/
structure Flees (inputs : EvaluationInputs) : Prop where
  emergency : ∃ condition, inputs.Triggers condition
  elsewhere : ∃ best, inputs.topRanked = some best ∧ best.path ≠ inputs.preference.preferredPath

/-- An adaptation that is proposed without fleeing leaves a candidate that is usable and calm. -/
theorem incumbent_stands {inputs : EvaluationInputs} {dependencies : DependencySnapshot}
    (hdistinct : (inputs.candidates.map (·.binding.path)).Nodup)
    (hestablished : inputs.preference.established = true) (hcalm : ¬ inputs.Flees)
    (heligible : (inputs.evaluate dependencies).lifecycle = .eligible) :
    ∃ candidate ∈ inputs.candidates, candidate.binding.path = inputs.preference.preferredPath ∧
      upstreamRejection inputs.policy.semantics.target candidate.binding = none ∧
      (inputs.policy.semantics.emergency.enabled &&
        inputs.policy.semantics.emergency.onHardFailureSignal &&
        candidate.binding.hardFailure) = false := by
  obtain ⟨best, htop, hverdict⟩ := (evaluate_eligible_iff hdistinct dependencies).1.1 heligible
  cases hverdict with
  | first hfirst =>
    rw [hestablished] at hfirst
    cases hfirst
  | emergency _ hother htriggers => exact absurd ⟨htriggers, best, htop, hother⟩ hcalm
  | ordinary _ hother hdeparts =>
    obtain ⟨current, hcurrent, hpath, hcurrentEligible⟩ := hdeparts.incumbent
    obtain ⟨candidate, hmem, rfl⟩ := inputs.mem_rank hcurrent
    rw [evaluateCandidate_path] at hpath
    refine ⟨candidate, hmem, hpath, inputs.evaluateCandidate_eligible hcurrentEligible, ?_⟩
    by_contra hfailing
    simp only [Bool.not_eq_false, Bool.and_eq_true] at hfailing
    exact hcalm ⟨⟨.hardFailure, hestablished, hfailing.1.1, hfailing.1.2, candidate, hmem, hpath,
      hfailing.2⟩, best, htop, hother⟩

end EvaluationInputs

/-- The preferred path, while it is a candidate, has the authority generation it was installed with. -/
def PolicyRecord.KeepsAuthority (record : PolicyRecord) : Prop :=
  ∀ candidate, record.findCandidate record.preference.preferredPath = some candidate →
    candidate.binding.pathAuthority.generation = record.preference.pathAuthorityGeneration

/-- The ticket repeats one that phase one issued for a policy that did not flee, on the way to this
engine: since then what moved the facts of the candidates was watched, and the policy has not
adapted. -/
inductive Vouched (config : EngineConfig) (policy : AdaptivePolicyId) (e : Engine)
    (ticket : EvaluationTicket) : Prop
  | taken {e₀ e₁ : Engine} {begun : Ticks} {request : EvaluateRequest} {issued : EvaluationTicket}
      (hosted : Hosted (fun _ _ _ => True) config e₀)
      (begins : e₀.step config (.beginEvaluation begun request) = some (e₁, .ticket issued))
      (subject : request.policy = policy)
      (calm : ∀ record, e₀.state.policies[policy]? = some record →
        ¬ (e₀.state.inputsAt begun record).Flees)
      (watched : RunUnder config (Watches config policy e₀.state.epoch) e₁ e)
      (rests : e.state.adaptationOf policy = e₀.state.adaptationOf policy)
      (repeats : ticket.Repeats issued)

section
variable {config : EngineConfig} {e : Engine} {policy : AdaptivePolicyId} {record : PolicyRecord}
  {request : CommitDecisionRequest}

/-- A proposal that phase two takes up displaces a preference in order. -/
theorem Vouched.inOrder (h : Vouched config policy e request.ticket) (hordered : record.Ordered)
    (hrecord : e.state.policies[policy]? = some record)
    (checks : e.state.commitChecks request = .ok record)
    (eligible : request.ticket.lifecycle = .eligible)
    (hestablished : record.preference.established = true) (hauthority : record.KeepsAuthority) :
    ∃ candidate, record.InOrder candidate := by
  obtain @⟨e₀, e₁, begun, evaluate, issued, hosted, begins, rfl, calm, watched, rests, repeats⟩ := h
  obtain ⟨⟨_, _⟩, hbegins, he⟩ := Option.map_eq_some_iff.1 begins
  cases he
  obtain ⟨hstate, before, hbefore, ⟨evaluation, hdependencies⟩, hverdict, -, -⟩ :=
    begin_proposes hbegins (repeats.lifecycle.symm.trans eligible)
  obtain ⟨_, hpassed⟩ := State.commitChecks_ok checks
  have hepoch := hpassed.epoch
  have hgeneration := hpassed.generation
  have hdrift := hpassed.drift eligible
  rw [repeats.dependencies, hdependencies] at hepoch hgeneration hdrift
  have hfollows : During evaluate.policy e₀.state.epoch (·.Follows before) e.state :=
    follows_run (.start hstate hbefore (.refl before)) watched
  have hrests : During evaluate.policy e₀.state.epoch (·.Rests before) e.state :=
    rests_run (.start hstate hbefore (.refl before)) (fun _ _ hop => hop.recovery) watched
  unfold State.adaptationOf at rests
  rw [hrecord, hbefore] at rests
  obtain ⟨hsemantics, hrises⟩ := follows_at hfollows hepoch hrecord hgeneration
  obtain ⟨hpreference, -⟩ := rests_at hrests hepoch hrecord hgeneration (Option.some.inj rests)
  have hfacts := facts_of_rises hrises hdrift
  -- the incumbent phase one saw is there, with the facts it had
  have hdistinct : (before.candidates.map (·.binding.path)).Nodup :=
    Search.keys_nodup (hosted.ordered _ _ hbefore)
  have hbegun : before.preference.established = true := hpreference ▸ hestablished
  obtain ⟨seen, hseen, hpath, hadmitted, hquiet⟩ :=
    @EvaluationInputs.incumbent_stands (e₀.state.inputsAt begun before) _ hdistinct hbegun
      (calm before hbefore) hverdict
  have hmem : seen.binding.facts ∈ record.candidates.map (·.binding.facts) := by
    rw [hfacts]
    exact List.mem_map_of_mem hseen
  obtain ⟨candidate, hin, hsame⟩ := List.mem_map.1 hmem
  have hat : candidate.binding.path = record.preference.preferredPath := by
    rw [hpreference]
    exact (congrArg UpstreamFacts.path hsame).trans hpath
  have hfound : record.findCandidate record.preference.preferredPath = some candidate := by
    rw [PolicyRecord.findCandidate_eq_find? hordered]
    exact (find?_eq_some_of_distinct (Search.keys_nodup hordered)).2 ⟨hin, hat⟩
  refine ⟨candidate, hfound, ?_, hauthority candidate hfound, ?_⟩
  · rw [hsemantics, CandidateBinding.upstreamRejection_of_facts hsame]
    exact hadmitted
  · have hfailure : candidate.binding.hardFailure = seen.binding.hardFailure :=
      congrArg UpstreamFacts.hardFailure hsame
    rw [hsemantics, hfailure]
    exact hquiet

end

/-! ## Deployments that tend their anchors -/

/-- What is asked of the operations that may displace the established preference of a policy. An
evaluation does not flee, a commit presents a ticket vouched for, and both find the preferred path at
the authority generation it was installed with; a rollback finds it in order. -/
structure Tended (policy : AdaptivePolicyId) (config : EngineConfig) (e : Engine) (op : Op) :
    Prop where
  evaluates : ∀ begun now request record, op = .evaluate begun now request →
    request.policy = policy → request.deferCommit = false →
    e.state.policies[policy]? = some record → record.preference.established = true →
    ¬ (e.state.inputsAt begun record).Flees ∧ record.KeepsAuthority
  commits : ∀ now request record, op = .commitEvaluation now request →
    request.ticket.dependencies.policy = policy → request.ticket.lifecycle = .eligible →
    e.state.policies[policy]? = some record → record.preference.established = true →
    Vouched config policy e request.ticket ∧ record.KeepsAuthority
  rollbacks : ∀ now request record, op = .rollback now request → request.policy = policy →
    e.state.policies[policy]? = some record → record.stable.established = true →
    ∃ candidate, record.InOrder candidate

def State.anchorOf (s : State) (policy : AdaptivePolicyId) : Option StableState :=
  (s.policies[policy]?).map (·.stable)

/-- The record before the step, if the step wrote the anchor, or the one remembered. -/
def recordedFrom (policy : AdaptivePolicyId) (s s' : State) (before : Option PolicyRecord) :
    Option PolicyRecord :=
  if s'.anchorOf policy = s.anchorOf policy then before else s.policies[policy]?

/-- The engines of a deployment whose steps meet a condition, with the record a policy had when its
anchor was recorded: a store brings the anchor, and its record, of the engine that wrote it. -/
inductive Remembers (policy : AdaptivePolicyId) (ok : EngineConfig → Engine → Op → Prop) :
    EngineConfig → Engine → Option PolicyRecord → Prop
  | start (config : EngineConfig) (nonce : Text) :
      Remembers policy ok config (Engine.start config nonce) none
  | step {config : EngineConfig} {e e' : Engine} {op : Op} {answer : Answer}
      {before : Option PolicyRecord} (remembers : Remembers policy ok config e before)
      (meets : ok config e op) (recovers : op.recovers config.limits = none)
      (steps : e.step config op = some (e', answer)) :
      Remembers policy ok config e' (recordedFrom policy e.state e'.state before)
  | recover {config writing : EngineConfig} {e e' writer : Engine} {op : Op} {answer : Answer}
      {saved : Ticks} {own before : Option PolicyRecord} (hosted : Remembers policy ok config e own)
      (written : Remembers policy ok writing writer before) (meets : ok config e op)
      (recovers : op.recovers config.limits = some (writer.state.buildDurable saved).stored)
      (steps : e.step config op = some (e', answer)) : Remembers policy ok config e' before

theorem Remembers.hosted {policy : AdaptivePolicyId} {ok : EngineConfig → Engine → Op → Prop}
    {config : EngineConfig} {e : Engine} {before : Option PolicyRecord}
    (h : Remembers policy ok config e before) : Hosted ok config e := by
  induction h with
  | start config nonce => exact .start config nonce
  | step _ meets recovers steps ih => exact .step ih meets recovers steps
  | recover _ _ meets recovers steps hosted written =>
    exact .recover hosted written meets recovers steps

section
variable {record : PolicyRecord} {candidate : CandidateRecord}

/-- A preference in order stands when it becomes the anchor. -/
theorem PolicyRecord.InOrder.stood (h : record.InOrder candidate) (now : Ticks) :
    record.Stood (anchor record.preference now) candidate := by
  have hadmitted := h.admitted
  unfold upstreamRejection at hadmitted
  cases hlegal : candidate.binding.pathAuthority.legal with
  | false => simp [hlegal] at hadmitted
  | true =>
    cases hroute : candidate.binding.route.current with
    | false => simp [hlegal, hroute] at hadmitted
    | true =>
      cases havailable : candidate.binding.available with
      | false => simp [hlegal, hroute, havailable] at hadmitted
      | true =>
        simp only [hlegal, hroute, havailable, Bool.not_true, Bool.false_eq_true, if_false]
          at hadmitted
        refine ⟨PolicyRecord.findCandidate_mem h.found, PolicyRecord.findCandidate_path h.found,
          hlegal, h.generation, hroute, havailable, ?_, ?_⟩
        · intro set hset
          rw [hset] at hadmitted
          simp only at hadmitted
          split at hadmitted
          · rename_i hmember
            obtain ⟨m, hm, hholds⟩ := (Option.any_eq_true _ _).1 hmember
            simp only [Bool.and_eq_true, beq_iff_eq] at hholds
            exact ⟨m, hm, hholds.1.1, hholds.1.2, hholds.2⟩
          · cases hadmitted
        · intro condition henabled hreacts
          cases condition with
          | hardFailure =>
            have hcalm := h.calm
            change record.policy.semantics.emergency.onHardFailureSignal = true at hreacts
            rw [henabled, hreacts] at hcalm
            exact hcalm
          | unavailable => simp [EmergencyCondition.afflicts, havailable]
          | unauthorized => simp [EmergencyCondition.afflicts, hlegal]

end


/-- An anchor is one the policy had, or its preference stood when it became one. -/
def AnchoredFrom (s : State) (policy subject : AdaptivePolicyId) (record : PolicyRecord) : Prop :=
  subject = policy → record.stable.established = true →
    ∃ before, s.policies[policy]? = some before ∧
      (record.stable = before.stable ∨ ∃ candidate, before.Stood record.stable candidate)

section
variable {config : EngineConfig} {e e' : Engine} {op : Op} {answer : Answer}
  {policy subject : AdaptivePolicyId} {record record' : PolicyRecord}

theorem AnchoredFrom.of_same (h : AnchoredFrom e.state policy subject record)
    (hstable : record'.stable = record.stable) : AnchoredFrom e.state policy subject record' := by
  unfold AnchoredFrom
  rw [hstable]
  exact h

/-- Phase two of an operation that is tended displaces a preference in order. -/
theorem Commits.inOrder {now : Ticks} {request : CommitDecisionRequest}
    (h : Commits config.limits e op now request) (hmeets : Tended policy config e op)
    (hosted : Hosted (fun _ _ _ => True) config e)
    (hdefers : ∀ begun now request, op = .evaluate begun now request → request.deferCommit = false)
    (hsubject : request.ticket.dependencies.policy = policy)
    (hrecord : e.state.policies[policy]? = some record)
    (checks : e.state.commitChecks request = .ok record)
    (eligible : request.ticket.lifecycle = .eligible)
    (hestablished : record.preference.established = true) :
    ∃ candidate, record.InOrder candidate := by
  have hordered : record.Ordered := hosted.ordered _ _ hrecord
  cases h with
  | commit =>
    obtain ⟨hvouched, hauthority⟩ :=
      hmeets.commits now request record rfl hsubject eligible hrecord hestablished
    exact hvouched.inOrder hordered hrecord checks eligible hestablished hauthority
  | @evaluate begun now request e₁ ticket begins =>
    obtain ⟨hstate, before, hbefore, ⟨_, hdependencies⟩, -⟩ := begin_proposes begins eligible
    have hpolicy : request.policy = policy := by
      rw [← hsubject]
      dsimp only
      rw [hdependencies]
      exact (hosted.keyed _ _ hbefore).symm
    obtain ⟨hcalm, hauthority⟩ := hmeets.evaluates begun now request record rfl hpolicy
      (hdefers _ _ _ rfl) hrecord hestablished
    -- the phases share the state, so the ticket is vouched for where phase one left the engine
    have hvouched : Vouched config policy e₁ ticket := by
      have hrests : e₁.state.adaptationOf policy = e.state.adaptationOf policy := by rw [hstate]
      have hstep : e.step config (.beginEvaluation begun request) = some (e₁, .ticket ticket) :=
        Option.map_eq_some_iff.2 ⟨(e₁, ticket), begins, rfl⟩
      refine .taken hosted hstep hpolicy (fun found hfound => ?_) (.refl e₁) hrests
        ⟨rfl, rfl, rfl, rfl, rfl⟩
      cases hrecord.symm.trans hfound
      exact hcalm
    rw [← hstate] at hrecord checks
    exact @Vouched.inOrder config e₁ policy record { ticket, context := request.context } hvouched
      hordered hrecord checks eligible hestablished hauthority

/-- What a commit or a rollback displaces in a deployment that tends its anchors is in order. -/
theorem Rewrites.anchoredFrom (h : Rewrites config.limits e op subject record record')
    (hmeets : Tended policy config e op) (hosted : Hosted (fun _ _ _ => True) config e)
    (hdefers : ∀ begun now request, op = .evaluate begun now request → request.deferCommit = false)
    (hr : AnchoredFrom e.state policy subject record) :
    AnchoredFrom e.state policy subject record' := by
  cases h with
  | updated =>
    unfold State.updatedRecord
    dsimp only
    split
    · exact hr.of_same rfl
    · intro _ hstable
      cases hstable
  | held | moved | revoked | suppressed => exact hr.of_same rfl
  | committed commits checks eligible other verified installs =>
    intro hsubject hstable
    obtain ⟨_, haccepted⟩ := State.commitChecks_ok checks
    have hrecord : e.state.policies[policy]? = some record := hsubject ▸ haccepted.found
    unfold State.committedRecord at hstable ⊢
    simp only [PolicyRecord.remember] at hstable ⊢
    cases hestablished : record.preference.established with
    | false =>
      rw [hestablished] at hstable
      cases hstable
    | true =>
      have horder := commits.inOrder hmeets hosted hdefers hsubject hrecord checks eligible hestablished
      obtain ⟨candidate, horder⟩ := horder
      exact ⟨record, hrecord, .inr ⟨candidate, horder.stood _⟩⟩
  | @restored now request _ _ _ _ _ _ _ checks verified decides =>
    intro hsubject _
    obtain ⟨_, haccepted⟩ := State.rollbackChecks_ok checks
    have hrecord : e.state.policies[policy]? = some record := hsubject ▸ haccepted.found
    obtain ⟨candidate, horder⟩ := hmeets.rollbacks now request record rfl hsubject hrecord
      (State.verifyRollback_ok verified).1
    exact ⟨record, hrecord, .inr ⟨candidate, horder.stood _⟩⟩

/-- An evaluation whose commit is deferred writes nothing. -/
theorem evaluate_deferred {begun now : Ticks} {request : EvaluateRequest}
    (h : e.step config (.evaluate begun now request) = some (e', answer))
    (hdefers : request.deferCommit = true) : e'.state = e.state := by
  obtain ⟨⟨_, _⟩, hevaluate, he⟩ := Option.map_eq_some_iff.1 h
  cases he
  obtain ⟨_, _, -, hstops | ⟨hcommits, -⟩⟩ := evaluate_phases hevaluate
  · exact hstops.1
  · rw [hdefers] at hcommits
    cases hcommits

theorem step_anchoredFrom (h : e.step config op = some (e', answer))
    (hop : op.recovers config.limits = none) (hmeets : Tended policy config e op)
    (hosted : Hosted (fun _ _ _ => True) config e) :
    Everywhere (AnchoredFrom e.state policy) e'.state := by
  have hbefore : Everywhere (AnchoredFrom e.state policy) e.state := by
    intro subject record hrecord hsubject _
    exact ⟨record, hsubject ▸ hrecord, .inl rfl⟩
  by_cases hdefers : ∃ begun now request, op = .evaluate begun now request ∧
      request.deferCommit = true
  · obtain ⟨begun, now, request, rfl, hdefers⟩ := hdefers
    rw [evaluate_deferred h hdefers]
    exact hbefore
  have hcommits : ∀ begun now request, op = .evaluate begun now request →
      request.deferCommit = false := by
    intro begun now request heq
    by_contra hdeferred
    exact hdefers ⟨begun, now, request, heq, by simpa using hdeferred⟩
  exact hbefore.step
    { rewrites := fun _ _ _ hrewrites hr => hrewrites.anchoredFrom hmeets hosted hcommits hr
      creates := fun _ _ _ _ _ _ hstable => (by cases hstable)
      advances := fun _ _ hr => hr.of_same rfl
      amends := fun _ _ _ _ _ _ hamends hr => by
        have hstable := congrArg PolicyRecord.stable hamends.frame
        exact hr.of_same hstable
      recovers := fun _ _ _ _ hrecovers => by
        rw [hop] at hrecovers
        cases hrecovers } h

end

/-- In every engine of a deployment that tends its anchors, an anchor stood when it was recorded. -/
theorem anchor_stood {policy : AdaptivePolicyId} {config : EngineConfig} {e : Engine}
    {before : Option PolicyRecord} (h : Remembers policy (Tended policy) config e before)
    {record : PolicyRecord} (hrecord : e.state.policies[policy]? = some record)
    (hstable : record.stable.established = true) :
    ∃ recorded candidate, before = some recorded ∧ recorded.Stood record.stable candidate := by
  induction h generalizing record with
  | start config nonce => simp [Engine.start] at hrecord
  | @step config e e' op answer before remembers meets recovers steps ih =>
    obtain ⟨found, hfound, hanchor⟩ :=
      step_anchoredFrom steps recovers meets (remembers.hosted.mono fun _ _ _ _ => trivial) policy record
        hrecord rfl hstable
    unfold recordedFrom
    split
    · rename_i hsame
      unfold State.anchorOf at hsame
      rw [hrecord, hfound, Option.map_some, Option.map_some] at hsame
      have hsame := Option.some.inj hsame
      rw [hsame] at hstable ⊢
      exact ih hfound hstable
    · rename_i hother
      rcases hanchor with hsame | ⟨candidate, hstood⟩
      · refine absurd ?_ hother
        unfold State.anchorOf
        rw [hrecord, hfound, Option.map_some, Option.map_some, hsame]
      · exact ⟨found, candidate, hfound, hstood⟩
  | recover _ written _ recovers steps _ ih =>
    obtain ⟨now, source, hsource, rfl⟩ :=
      step_restored steps written.hosted.keyed written.hosted.filed recovers hrecord
    obtain ⟨recorded, candidate, hbefore, hstood⟩ := ih hsource hstable
    exact ⟨recorded, candidate, hbefore, hstood⟩

/-! ## Anchors that stood, and one that did not -/

namespace Scenario

/-- Each of the later operations passes a test where it is run. -/
def along (test : Engine → Op → Bool) : List Op → List Op → Bool
  | _, [] => true
  | ops, op :: more => test (after ops) op && along test (ops ++ [op]) more

theorem remembers_along {ok : EngineConfig → Engine → Op → Prop} {test : Engine → Op → Bool}
    (hok : ∀ e op, test e op = true → ok config e op ∧ op.recovers config.limits = none)
    (more : List Op) {ops : List Op} (hreturns : returns (ops ++ more) = true)
    (htest : along test ops more = true)
    (h : ∃ before, Remembers policy ok config (after ops) before) :
    ∃ before, Remembers policy ok config (after (ops ++ more)) before := by
  induction more generalizing ops with
  | nil =>
    rw [List.append_nil]
    exact h
  | cons op more ih =>
    have hsplit : ops ++ op :: more = ops ++ [op] ++ more := by simp
    rw [hsplit] at hreturns ⊢
    obtain ⟨hop, hmore⟩ := Bool.and_eq_true_iff.1 htest
    obtain ⟨before, hbefore⟩ := h
    obtain ⟨_, hstep⟩ := step_after ops op (returns_front hreturns)
    obtain ⟨hmeets, hrecovers⟩ := hok _ _ hop
    exact ih hreturns hmore ⟨_, .step hbefore hmeets hrecovers hstep⟩

/-- The operation presents a ticket. -/
def bringsTicket : Op → Bool
  | .commitEvaluation _ _ => true
  | _ => false

/-- The preferred path, while it is a candidate, has the authority generation it was installed with. -/
def keepsAuthority (record : PolicyRecord) : Bool :=
  (record.findCandidate record.preference.preferredPath).all fun c =>
    c.binding.pathAuthority.generation == record.preference.pathAuthorityGeneration

/-- No rollback, no ticket and no recovery, while the policy knows no emergency and its preferred path
keeps its authority. -/
def untroubled (e : Engine) (op : Op) : Bool :=
  !op.restores && !bringsTicket op && (op.recovers config.limits).isNone &&
    (e.state.policies[policy]?).all fun record => !record.preference.established ||
      !record.policy.semantics.emergency.enabled && keepsAuthority record

theorem keepsAuthority_of {record : PolicyRecord} (h : keepsAuthority record = true) :
    record.KeepsAuthority := by
  intro candidate hfound
  unfold keepsAuthority at h
  rw [hfound] at h
  exact beq_iff_eq.1 h

theorem untroubled_tends {e : Engine} {op : Op} (h : untroubled e op = true) :
    Tended policy config e op ∧ op.recovers config.limits = none := by
  unfold untroubled at h
  simp only [Bool.and_eq_true, Bool.not_eq_true', Option.isNone_iff_eq_none] at h
  obtain ⟨⟨⟨hrestores, hpresents⟩, hrecovers⟩, hall⟩ := h
  refine ⟨⟨?_, ?_, ?_⟩, hrecovers⟩
  · intro begun now request record _ _ _ hrecord hestablished
    have hcalm := (Option.all_eq_true _ _).1 hall record hrecord
    rw [hestablished, Bool.not_true, Bool.false_or, Bool.and_eq_true] at hcalm
    refine ⟨fun hflees => ?_, keepsAuthority_of hcalm.2⟩
    obtain ⟨condition, htriggers⟩ := hflees.emergency
    have henabled : record.policy.semantics.emergency.enabled = true := htriggers.enabled
    rw [henabled] at hcalm
    cases hcalm.1
  · rintro now request record rfl
    cases hpresents
  · rintro now request record rfl
    cases hrestores

def fled : List Op := cutOff ++ [leave]

end Scenario

open Scenario in
/-- The ticket of the left path's challenger is committed, and the commit rolled back: the right path
was left in order. -/
theorem restored_anchor_stood : ∃ record recorded candidate,
    (after (begun ++ [commitFirst, restore])).state.policies[policy]? = some record ∧
      record.stable.path = right ∧
      Remembers policy (Tended policy) config (after (begun ++ [commitFirst, restore]))
        (some recorded) ∧
      recorded.Stood record.stable candidate := by
  obtain ⟨before, hchallenged⟩ : ∃ before,
      Remembers policy (Tended policy) config (after ([] ++ challenged)) before :=
    @remembers_along (Tended policy) untroubled (fun _ _ => untroubled_tends) challenged []
      (by decide +kernel) (by decide +kernel) ⟨none, .start config "n"⟩
  obtain ⟨_, hremembers⟩ : ∃ before, Remembers policy (Tended policy) config (after begun) before :=
    @remembers_along (Tended policy) untroubled (fun _ _ => untroubled_tends) [phaseOne "one"]
      challenged (by decide +kernel) (by decide +kernel) ⟨before, hchallenged⟩
  obtain ⟨_, hcommit⟩ := step_after begun commitFirst (by decide +kernel)
  obtain ⟨_, hrestore⟩ := step_after (begun ++ [commitFirst]) restore (by decide +kernel)
  have hcommits : Tended policy config (after begun) commitFirst := by
    refine ⟨fun _ _ _ _ h => (by cases h), fun _ _ _ h _ _ hrecord _ => ?_,
      fun _ _ _ h => (by cases h)⟩
    cases h
    have hkeeps : ((after begun).state.policies[policy]?).all keepsAuthority = true := by
      decide +kernel
    have hquiet : ((after challenged).state.policies[policy]?).all (fun found =>
        !found.policy.semantics.emergency.enabled) = true := by decide +kernel
    rw [hrecord, Option.all_some] at hkeeps
    refine ⟨.taken (hchallenged.hosted.mono fun _ _ _ _ => trivial) take_first rfl
      (fun found hfound hflees => ?_) (.refl _) (by decide +kernel) ⟨rfl, rfl, rfl, rfl, rfl⟩,
      keepsAuthority_of hkeeps⟩
    obtain ⟨condition, htriggers⟩ := hflees.emergency
    have henabled : found.policy.semantics.emergency.enabled = true := htriggers.enabled
    have hfound : (after challenged).state.policies[policy]? = some found := hfound
    rw [hfound, Option.all_some, henabled] at hquiet
    cases hquiet
  have hrestores : Tended policy config (after (begun ++ [commitFirst])) restore := by
    refine ⟨fun _ _ _ _ h => (by cases h), fun _ _ _ h => (by cases h), fun _ _ _ h _ hrecord _ => ?_⟩
    cases h
    have horder : ((after (begun ++ [commitFirst])).state.policies[policy]?).all (fun record =>
        (record.findCandidate record.preference.preferredPath).any fun c =>
          upstreamRejection record.policy.semantics.target c.binding == none &&
            c.binding.pathAuthority.generation == record.preference.pathAuthorityGeneration &&
            !(record.policy.semantics.emergency.enabled &&
              record.policy.semantics.emergency.onHardFailureSignal && c.binding.hardFailure)) =
        true := by decide +kernel
    rw [hrecord, Option.all_some] at horder
    obtain ⟨candidate, hfound, horder⟩ := (Option.any_eq_true _ _).1 horder
    simp only [Bool.and_eq_true, beq_iff_eq, Bool.not_eq_true'] at horder
    exact ⟨candidate, hfound, horder.1.1, horder.1.2, horder.2⟩
  have hend := (hremembers.step hcommits rfl hcommit).step hrestores rfl hrestore
  obtain ⟨record, hrecord, htest⟩ : ∃ record,
      (after (begun ++ [commitFirst, restore])).state.policies[policy]? = some record ∧
        (record.stable.established && record.stable.path == right) = true :=
    (Option.any_eq_true _ _).1 (by decide +kernel)
  obtain ⟨hstable, hpath⟩ := Bool.and_eq_true_iff.1 htest
  obtain ⟨recorded, candidate, hrecorded, hstood⟩ := anchor_stood hend hrecord hstable
  rw [hrecorded] at hend
  exact ⟨record, recorded, candidate, hrecord, eq_of_beq hpath, hend, hstood⟩

open Scenario in
/-- The emergency leaves the unavailable path behind, as the last known stable one. -/
theorem unavailable_path_anchored : ∃ record recorded,
    Remembers policy (fun _ _ _ => True) config (after fled) (some recorded) ∧
    (after fled).state.policies[policy]? = some record ∧
    record.preference.provenance.cause = .emergencyOverride ∧ record.stable.established = true ∧
    record.stable.path = left ∧
    (∀ c ∈ recorded.candidates, c.binding.path = left → c.binding.available = false) ∧
    ∀ candidate, ¬ recorded.Stood record.stable candidate := by
  obtain ⟨before, hremembers⟩ : ∃ before,
      Remembers policy (fun _ _ _ => True) config (after ([] ++ cutOff)) before :=
    @remembers_along (fun _ _ _ => True) (fun _ op => (op.recovers config.limits).isNone)
      (fun _ _ hop => ⟨trivial, Option.isNone_iff_eq_none.1 hop⟩) cutOff []
      (by decide +kernel) (by decide +kernel) ⟨none, .start config "n"⟩
  rw [List.nil_append] at hremembers
  obtain ⟨_, hstep⟩ := step_after cutOff leave (by decide +kernel)
  have hnow : Remembers policy (fun _ _ _ => True) config (after fled) _ :=
    .step hremembers trivial rfl hstep
  have hwrites : (after fled).state.anchorOf policy ≠ (after cutOff).state.anchorOf policy := by
    decide +kernel
  unfold recordedFrom at hnow
  rw [if_neg hwrites] at hnow
  obtain ⟨recorded, hrecorded, hunavailable⟩ : ∃ record,
      (after cutOff).state.policies[policy]? = some record ∧
      (record.candidates.all fun c => c.binding.path != left || !c.binding.available) = true :=
    (Option.any_eq_true _ _).1 (by decide +kernel)
  obtain ⟨record, hrecord, htest⟩ : ∃ record, (after fled).state.policies[policy]? = some record ∧
      (record.preference.provenance.cause == .emergencyOverride && record.stable.established &&
        record.stable.path == left) = true :=
    (Option.any_eq_true _ _).1 (by decide +kernel)
  simp only [Bool.and_eq_true, beq_iff_eq] at htest
  obtain ⟨⟨hcause, hestablished⟩, hpath⟩ := htest
  have hgone (c : CandidateRecord) (hmem : c ∈ recorded.candidates)
      (hleft : c.binding.path = left) : c.binding.available = false := by
    have hc := List.all_eq_true.1 hunavailable c hmem
    rw [hleft, bne_self_eq_false, Bool.false_or] at hc
    simpa using hc
  rw [hrecorded] at hnow
  refine ⟨record, recorded, hnow, hrecord, hcause, hestablished, hpath, hgone,
    fun candidate hstood => ?_⟩
  have hsame := hgone candidate hstood.among (hstood.path.trans hpath)
  rw [hstood.available] at hsame
  cases hsame

end AdaptiveRouting
