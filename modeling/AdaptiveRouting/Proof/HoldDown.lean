import AdaptiveRouting.Proof.Churn
import AdaptiveRouting.Proof.Recovery

/-!
# Hold-down and cooldown

An adaptation that displaces a preference arms the policy's timing (`Transition`). No ordinary commit
installs anything before its cooldown is over, and none before its hold-down is over brings the
displaced path back (`transition_binds`). The gates of phase two ask for a displaced path with an
identity, and compute the hold-down anew: every record the engine reaches is `Sane`, so that neither
lets a path slip through.
-/

namespace AdaptiveRouting

open Engine Guard

/-! ## Sane records -/

/-- The policy passes its structural validation and every candidate has a path. -/
structure PolicyRecord.Sane (r : PolicyRecord) : Prop where
  semantics : r.policy.semantics.check = .ok ()
  paths : ∀ path ∈ r.paths, path.valid = true

/-- A recovered store holds only policies that pass their structural validation, as the decoder of
stores makes sure. -/
def Validated (limits : Limits) (op : Op) : Prop :=
  ∀ durable, op.recovers limits = some durable → ∀ policy ∈ durable.policies,
    policy.semantics.check = .ok ()

theorem PolicySemantics.check_ok {semantics : PolicySemantics} (h : semantics.check = .ok ())
    (henabled : semantics.dampening.enabled = true) :
    semantics.holdDown.duration ≠ 0 ∧
      semantics.holdDown.duration ≤ semantics.dampening.maxEffectiveHoldDown := by
  unfold PolicySemantics.check at h
  iterate 11 obtain ⟨-, h⟩ := seq_ok h
  obtain ⟨hduration, h⟩ := seq_ok h
  obtain ⟨hcap, -⟩ := seq_ok h
  rw [henabled, Bool.true_and] at hduration hcap
  exact ⟨by simpa using hduration, UInt64.not_lt.1 (of_decide_eq_false hcap)⟩

section
variable {config : EngineConfig} {e e' : Engine} {op : Op} {answer : Answer}
  {policy : AdaptivePolicyId} {record record' : PolicyRecord}

theorem Rewrites.sane {limits : Limits} (h : Rewrites limits e op policy record record')
    (hs : record.Sane) : record'.Sane := by
  cases h with
  | updated checks =>
    unfold State.updateChecks at checks
    obtain ⟨-, checks⟩ := seq_ok checks
    obtain ⟨-, checks⟩ := seq_ok checks
    obtain ⟨⟨⟩, hsemantics, -⟩ := bind_ok checks
    have hcheck := mapError_ok hsemantics
    unfold State.updatedRecord
    dsimp only
    split
    · exact ⟨hcheck, hs.paths⟩
    · exact ⟨hcheck, nofun⟩
  | _ => exact ⟨hs.semantics, hs.paths⟩

theorem State.Amends.sane {s : State} {n : UpstreamNotification} {policy : AdaptivePolicyId}
    (hformed : n.binding.wellFormed = true) (h : s.Amends n policy record record')
    (hs : record.Sane) : record'.Sane := by
  refine ⟨by rw [PolicyRecord.policy_of_frame h.frame]; exact hs.semantics, fun path hpath => ?_⟩
  cases h with
  | declared =>
    obtain ⟨candidate, hmem, rfl⟩ := List.mem_map.1 hpath
    rcases List.mem_append.1 ((List.mem_insertionSort _).1 hmem) with hmem | hmem
    · exact hs.paths _ (List.mem_map.2 ⟨candidate, hmem, rfl⟩)
    · rw [List.mem_singleton.1 hmem]
      unfold CandidateBinding.wellFormed at hformed
      simp only [Bool.and_eq_true] at hformed
      exact hformed.1.1
  | amended =>
    rw [PolicyRecord.modifyCandidate_paths fun c hc =>
      State.amend_path (PolicyRecord.findCandidate_path hc)] at hpath
    exact hs.paths path hpath

theorem sane_step (hs : Everywhere (fun _ record => record.Sane) e.state)
    (hop : Validated config.limits op) (h : e.step config op = some (e', answer)) :
    Everywhere (fun _ record => record.Sane) e'.state :=
  hs.step
    { rewrites := fun _ _ _ hrewrites => hrewrites.sane
      creates := fun now request fingerprint id checks => by
        unfold State.createChecks at checks
        obtain ⟨-, checks⟩ := seq_ok checks
        obtain ⟨⟨⟩, hsemantics, -⟩ := bind_ok checks
        exact ⟨mapError_ok hsemantics, nofun⟩
      advances := fun _ record hsane => by
        refine ⟨?_, hsane.paths⟩
        unfold State.requireRevalidation
        dsimp only
        split <;> exact hsane.semantics
      amends := fun _ _ _ _ _ hformed hamends => hamends.sane hformed
      recovers := fun now durable epoch authority hrecovers policy record hrecord => by
        obtain ⟨source, hsource, -, hpolicy, hnone⟩ :=
          recoveredState_from config now durable epoch authority policy record hrecord
        refine ⟨?_, fun path hpath => ?_⟩
        · have hcheck := hop durable hrecovers source hsource
          rw [hpolicy]
          unfold State.recoveredRecord
          dsimp only
          split <;> exact hcheck
        · rw [PolicyRecord.paths, hnone] at hpath
          cases hpath } h

theorem sane_run {nonce : Text} (h : RunUnder config (fun _ op => Validated config.limits op)
    (Engine.start config nonce) e) : Everywhere (fun _ record => record.Sane) e.state :=
  h.inv (I := fun e => Everywhere (fun _ record => record.Sane) e.state)
    (fun _ _ _ _ hop hs hstep => sane_step hs hop hstep)
    fun policy record hrecord => by simp [Engine.start] at hrecord

theorem Hosted.sane {ok : EngineConfig → Engine → Op → Prop} (h : Hosted ok config e) :
    Everywhere (fun _ record => record.Sane) e.state := by
  refine h.everywhere (fun _ _ _ _ _ _ recovers steps hs => ?_) fun _ _ _ _ _ record hsane => ?_
  · refine sane_step hs (fun durable hdurable => ?_) steps
    rw [recovers] at hdurable
    cases hdurable
  · refine ⟨?_, fun path hpath => (by cases hpath)⟩
    unfold restoredRecord State.recoveredRecord
    dsimp only
    split <;> exact hsane.semantics

end

/-! ## Transitions -/

def Op.restores : Op → Bool
  | .rollback .. => true
  | _ => false

/-- A call that gives a policy another adaptation: the records at its ends, and its reading. -/
structure Transition (policy : AdaptivePolicyId) (call : Runs.Call Engine Op Answer)
    (record record' : PolicyRecord) (now : Ticks) : Prop where
  before : call.pre.state.policies[policy]? = some record
  after : call.post.state.policies[policy]? = some record'
  adapts : record'.preference.adaptationGeneration ≠ record.preference.adaptationGeneration
  reading : call.label.adaptsAt = some now

/-- The hold-down a transition arms, in full arithmetic: `min(duration + penalty * step, cap)` after
a dampened commit, with the penalty it leaves, and the duration otherwise. -/
def armedHoldDown (semantics : PolicySemantics) (restores : Bool) (penalty : UInt32) : Nat :=
  if semantics.dampening.enabled && !restores then
    min (semantics.holdDown.duration.toNat +
      penalty.toNat * semantics.dampening.holdDownEscalationStep.toNat)
      semantics.dampening.maxEffectiveHoldDown.toNat
  else semantics.holdDown.duration.toNat

/-- The arithmetic of a transition's deadlines and of the dampened hold-down stays below `2^64`. -/
structure Unwrapped (semantics : PolicySemantics) (restores : Bool) (penalty : UInt32) (now : Ticks) :
    Prop where
  escalated : semantics.holdDown.duration.toNat +
    penalty.toNat * semantics.dampening.holdDownEscalationStep.toNat < UInt64.size
  holdDown : now.toNat + armedHoldDown semantics restores penalty < UInt64.size
  cooldown : now.toNat + semantics.cooldown.duration.toNat < UInt64.size

section
variable {config : EngineConfig} {e e' : Engine} {op : Op} {answer : Answer}
  {policy : AdaptivePolicyId} {record record' : PolicyRecord} {now : Ticks}

theorem toNat_min (a b : UInt64) : (min a b).toNat = min a.toNat b.toNat := by
  show (if a ≤ b then a else b).toNat = _
  simp only [UInt64.le_iff_toNat_le]
  split <;> omega

/-- The dampened hold-down, computed in 64 bits. -/
theorem dampened_toNat {semantics : PolicySemantics} {penalty : UInt32}
    (h : semantics.holdDown.duration.toNat +
      penalty.toNat * semantics.dampening.holdDownEscalationStep.toNat < UInt64.size) :
    (min (semantics.holdDown.duration +
      penalty.toUInt64 * semantics.dampening.holdDownEscalationStep)
      semantics.dampening.maxEffectiveHoldDown).toNat =
    min (semantics.holdDown.duration.toNat +
      penalty.toNat * semantics.dampening.holdDownEscalationStep.toNat)
      semantics.dampening.maxEffectiveHoldDown.toNat := by
  rw [toNat_min, UInt64.toNat_add, UInt64.toNat_mul, UInt32.toNat_toUInt64,
    Nat.mod_eq_of_lt (Nat.lt_of_le_of_lt (Nat.le_add_left _ _) h), Nat.mod_eq_of_lt h]

/-- A hold-down that was armed is still one when a commit asks for it. -/
theorem commitHoldDown_ne_zero {semantics : PolicySemantics} {penalty : UInt32} {restores : Bool}
    (hcheck : semantics.check = .ok ())
    (h : semantics.holdDown.duration.toNat +
      penalty.toNat * semantics.dampening.holdDownEscalationStep.toNat < UInt64.size)
    (harmed : 0 < armedHoldDown semantics restores penalty) :
    State.commitHoldDown semantics penalty ≠ 0 := by
  have hduration : semantics.holdDown.duration.toNat ≠ 0 := by
    cases henabled : semantics.dampening.enabled with
    | true => exact fun hzero => (PolicySemantics.check_ok hcheck henabled).1 (UInt64.toNat_inj.1 hzero)
    | false =>
      rw [armedHoldDown, henabled, Bool.false_and, if_neg Bool.false_ne_true] at harmed
      exact Nat.ne_of_gt harmed
  intro hzero
  have hzero : (State.commitHoldDown semantics penalty).toNat = 0 := by rw [hzero]; rfl
  unfold State.commitHoldDown at hzero
  split at hzero
  · rename_i hdampened
    simp only [Bool.and_eq_true] at hdampened
    have hcap := UInt64.le_iff_toNat_le.1 (PolicySemantics.check_ok hcheck hdampened.1).2
    rw [dampened_toNat h] at hzero
    omega
  · exact hduration hzero

/-! ## What a transition arms -/

/-- The timing a transition leaves: until when nothing ordinary is committed, and until when the path
it displaced stays out. -/
structure Armed (record record' : PolicyRecord) (restores : Bool) (now : Ticks) : Prop where
  semantics : record'.policy.semantics = record.policy.semantics
  previousPath : record'.preference.previousPath = record.preference.preferredPath
  cooldown : 0 < record.policy.semantics.cooldown.duration.toNat →
    record'.timing.cooldownActive = true ∧ record'.timing.cooldownDeadline.toNat =
      now.toNat + record.policy.semantics.cooldown.duration.toNat
  holdDown : 0 < armedHoldDown record.policy.semantics restores record'.timing.dampeningPenalty →
    record'.timing.holdDownActive = true ∧ record'.timing.holdDownDeadline.toNat =
      now.toNat + armedHoldDown record.policy.semantics restores record'.timing.dampeningPenalty

theorem bne_zero_of_pos {a : UInt64} (h : 0 < a.toNat) : (a != 0) = true := by
  simp only [bne_iff_ne, ne_eq]
  rintro rfl
  exact absurd h (Nat.lt_irrefl 0)

theorem committedRecord_timing (limits : Limits) (now : Ticks) (record : PolicyRecord)
    (preference : RoutingPreference) (decision : AdaptationDecision) :
    (State.committedRecord limits now record preference decision).timing =
      if record.preference.established
      then armedTiming limits record.policy.semantics now preference.previousPath record.timing
      else record.timing := rfl

/-- The hold-down `armedTiming` computes in 64 bits is the one in full arithmetic. -/
theorem armedTiming_holdDown {limits : Limits} {semantics : PolicySemantics} {lockedPath : PathId}
    {timing armed : TimingState} (harmed : armedTiming limits semantics now lockedPath timing = armed)
    (h : semantics.holdDown.duration.toNat +
      armed.dampeningPenalty.toNat * semantics.dampening.holdDownEscalationStep.toNat <
        UInt64.size) :
    ∃ effective : Ticks, armed.holdDownActive = (effective != 0) ∧
      armed.holdDownDeadline = now + effective ∧
      effective.toNat = armedHoldDown semantics false armed.dampeningPenalty := by
  subst harmed
  cases henabled : semantics.dampening.enabled with
  | true =>
    refine ⟨_, rfl, rfl, ?_⟩
    unfold armedTiming at h ⊢
    simp only [henabled, if_true, armedHoldDown, Bool.not_false, Bool.and_true] at h ⊢
    exact dampened_toNat h
  | false =>
    refine ⟨_, rfl, rfl, ?_⟩
    unfold armedTiming armedHoldDown
    simp [henabled]

theorem Adaptation.armed (h : Adaptation config.limits e op policy record record')
    (hadapts : record'.preference.adaptationGeneration ≠ record.preference.adaptationGeneration)
    (hreading : op.adaptsAt = some now)
    (hdisplaces : record.preference.established = true ∨ op.restores = true)
    (hfits : Unwrapped record.policy.semantics op.restores record'.timing.dampeningPenalty now) :
    Armed record record' op.restores now := by
  have hdeadline {duration : Ticks} {n : Nat} (hn : duration.toNat = n)
      (hfit : now.toNat + n < UInt64.size) : (now + duration).toNat = now.toNat + n := by
    rw [UInt64.toNat_add, hn, Nat.mod_eq_of_lt hfit]
  cases h with
  | kept _ preference => exact absurd (congrArg _ preference) hadapts
  | @committed stamp request target adaptation transitionGeneration transition id preference decision
      commits subject other verified installs =>
    obtain rfl : stamp = now := Option.some.inj (commits.adaptsAt.symm.trans hreading)
    have hrestores : op.restores = false := by cases commits <;> rfl
    have hestablished : record.preference.established = true :=
      hdisplaces.resolve_right (by simp [hrestores])
    have htiming := committedRecord_timing config.limits stamp record preference decision
    rw [hestablished, if_pos rfl] at htiming
    obtain ⟨effective, hactive, hends, heffective⟩ :=
      armedTiming_holdDown htiming.symm hfits.escalated
    rw [hrestores] at hfits ⊢
    refine ⟨rfl, ?_, fun hpos => ?_, fun hpos => ?_⟩
    · rw [State.committedRecord, PolicyRecord.remember, installs]
      exact if_pos hestablished
    · rw [htiming]
      exact ⟨bne_zero_of_pos hpos, hdeadline rfl hfits.cooldown⟩
    · rw [← heffective] at hpos
      exact ⟨hactive.trans (bne_zero_of_pos hpos), by
        rw [hends]
        exact hdeadline heffective hfits.holdDown⟩
  | @restored stamp request target adaptation transitionGeneration transition decision restores =>
    subst restores
    cases hreading
    have harmed (penalty : UInt32) : armedHoldDown record.policy.semantics true penalty =
        record.policy.semantics.holdDown.duration.toNat := by
      rw [armedHoldDown, Bool.not_true, Bool.and_false, if_neg Bool.false_ne_true]
    refine ⟨rfl, rfl, fun hpos => ⟨bne_zero_of_pos hpos, hdeadline rfl hfits.cooldown⟩,
      fun hpos => ?_⟩
    have hfit := hfits.holdDown
    change 0 < armedHoldDown _ true _ at hpos
    change now.toNat + armedHoldDown _ true _ < _ at hfit
    show _ ∧ _ = now.toNat + armedHoldDown _ true _
    rw [harmed] at hpos hfit ⊢
    exact ⟨bne_zero_of_pos hpos, hdeadline rfl hfit⟩

theorem Adaptation.establishing (h : Adaptation config.limits e op policy record record')
    (hfirst : record.preference.established = false) (hcommit : op.restores = false) :
    record'.timing = record.timing := by
  cases h with
  | kept _ _ timing => exact timing
  | committed =>
    rw [committedRecord_timing, hfirst]
    rfl
  | restored restores =>
    subst restores
    cases hcommit

/-! ## Until the next transition -/

/-- No call of a list is a transition of the policy. -/
def Untouched (policy : AdaptivePolicyId) (calls : List (Runs.Call Engine Op Answer)) : Prop :=
  ∀ call ∈ calls, ∀ record record' now, ¬ Transition policy call record record' now

/-- Runs without an update of the policy, an epoch advance or a recovery, with their calls. -/
abbrev QuietTrace (config : EngineConfig) (policy : AdaptivePolicyId) :
    Engine → List (Runs.Call Engine Op Answer) → Engine → Prop :=
  Runs.Trace (step config) fun _ _ op => Undisturbed config.limits policy op

theorem untouched_trace {calls : List (Runs.Call Engine Op Answer)}
    (h : QuietTrace config policy e calls e') (hrecord : e.state.policies[policy]? = some record)
    (huntouched : Untouched policy calls) : ∃ record', e'.state.policies[policy]? = some record' ∧
      record'.policy.semantics = record.policy.semantics ∧
      record'.preference = record.preference ∧ record'.timing = record.timing := by
  induction h with
  | start => exact ⟨record, hrecord, rfl, rfl, rfl⟩
  | @call calls e₁ e₂ op answer _ hop hstep ih =>
    obtain ⟨before, hbefore, hsemantics, hpreference, htiming⟩ :=
      ih fun call hmem => huntouched call (List.mem_append_left _ hmem)
    obtain ⟨after, hafter, hchange⟩ := step_adaptation hstep hop hbefore
    obtain ⟨hsame, ⟨hpreference', htiming'⟩ | ⟨hadapts, hreading⟩⟩ := hchange.generation
    · exact ⟨after, hafter, hsame.trans hsemantics, hpreference'.trans hpreference,
        htiming'.trans htiming⟩
    · obtain ⟨now, hnow⟩ := Option.isSome_iff_exists.1 hreading
      exact absurd ⟨hbefore, hafter, hadapts, hnow⟩
        (huntouched _ (List.mem_append_right _ List.mem_cons_self) before after now)

/-! ## Later transitions -/

/-- The cooldown runs at least to an instant. -/
def CoolsUntil (record : PolicyRecord) (instant : Nat) : Prop :=
  0 < record.policy.semantics.cooldown.duration.toNat →
    record.timing.cooldownActive = true ∧ instant ≤ record.timing.cooldownDeadline.toNat

theorem Adaptation.coolsUntil {instant : Nat} (h : Adaptation config.limits e op policy record record')
    (hs : CoolsUntil record instant) (hlater : ∀ now ∈ op.adaptsAt,
      instant ≤ now.toNat + record.policy.semantics.cooldown.duration.toNat ∧
        now.toNat + record.policy.semantics.cooldown.duration.toNat < UInt64.size) :
    CoolsUntil record' instant := by
  have hrearmed {now : Ticks} (hnow : op.adaptsAt = some now)
      (hpos : 0 < record.policy.semantics.cooldown.duration.toNat) :
      (record.policy.semantics.cooldown.duration != 0) = true ∧
        instant ≤ (now + record.policy.semantics.cooldown.duration).toNat := by
    obtain ⟨hle, hfit⟩ := hlater now hnow
    rw [UInt64.toNat_add, Nat.mod_eq_of_lt hfit]
    exact ⟨bne_zero_of_pos hpos, hle⟩
  cases h with
  | kept semantics _ timing =>
    unfold CoolsUntil
    rw [semantics, timing]
    exact hs
  | @committed now _ _ _ _ _ _ preference decision commits =>
    intro hpos
    rw [committedRecord_timing]
    split
    · exact hrearmed commits.adaptsAt hpos
    · exact hs hpos
  | restored restores =>
    subst restores
    exact fun hpos => hrearmed rfl hpos

theorem cooling_trace {calls : List (Runs.Call Engine Op Answer)} {instant : Nat}
    (h : QuietTrace config policy e calls e') (hrecord : e.state.policies[policy]? = some record)
    (hcools : CoolsUntil record instant) (hlater : ∀ call ∈ calls, ∀ now ∈ call.label.adaptsAt,
      instant ≤ now.toNat + record.policy.semantics.cooldown.duration.toNat ∧
        now.toNat + record.policy.semantics.cooldown.duration.toNat < UInt64.size) :
    ∃ record', e'.state.policies[policy]? = some record' ∧
      record'.policy.semantics = record.policy.semantics ∧ CoolsUntil record' instant := by
  induction h with
  | start => exact ⟨record, hrecord, rfl, hcools⟩
  | @call calls e₁ e₂ op answer _ hop hstep ih =>
    obtain ⟨before, hbefore, hsemantics, hbeforeCools⟩ :=
      ih fun call hmem => hlater call (List.mem_append_left _ hmem)
    obtain ⟨after, hafter, hchange⟩ := step_adaptation hstep hop hbefore
    refine ⟨after, hafter, hchange.generation.1.trans hsemantics,
      hchange.coolsUntil hbeforeCools fun now hnow => ?_⟩
    rw [hsemantics]
    exact hlater _ (List.mem_append_right _ List.mem_cons_self) now hnow

/-! ## Ordinary commits -/

/-- An ordinary commit that installs a path found no cooldown running, and no hold-down of the path
it installs. -/
theorem Adaptation.ordinary {request : CommitDecisionRequest}
    (h : Adaptation config.limits e op policy record record')
    (hadapts : record'.preference.adaptationGeneration ≠ record.preference.adaptationGeneration)
    (hcommits : Commits config.limits e op now request) (hordinary : request.ticket.emergency = false)
    (hsane : record.Sane) :
    (record.timing.cooldownActive = true →
      record.timing.cooldownDeadline.toNat ≤ now.toNat) ∧
    (record.timing.holdDownActive = true →
      State.commitHoldDown record.policy.semantics record.timing.dampeningPenalty ≠ 0 →
      record.preference.previousPath = record'.preference.preferredPath →
      record.timing.holdDownDeadline.toNat ≤ now.toNat) := by
  cases h with
  | kept _ preference => exact absurd (congrArg _ preference) hadapts
  | restored restores =>
    subst restores
    cases hcommits
  | @committed stamp request' target _ _ _ _ preference _ commits _ _ verified installs =>
    obtain ⟨rfl, rfl⟩ := commits.unique hcommits
    obtain ⟨hholdDown, hcooldown, -⟩ := State.verifyCommit_ordinary verified hordinary
    have hfound := (State.verifyCommit_ok verified).1
    refine ⟨fun hactive => ?_, fun hactive heffective hprevious => ?_⟩
    · rw [hactive, Bool.true_and] at hcooldown
      exact UInt64.le_iff_toNat_le.1 (UInt64.not_lt.1 (of_decide_eq_false hcooldown))
    · change record.preference.previousPath = preference.preferredPath at hprevious
      rw [installs] at hprevious
      change record.preference.previousPath = target.binding.path at hprevious
      have hvalid : record.preference.previousPath.valid = true := by
        rw [hprevious]
        exact hsane.paths _ (List.mem_map.2 ⟨target, PolicyRecord.findCandidate_mem hfound, rfl⟩)
      have hreverse : (record.preference.previousPath == request'.ticket.targetPreference) = true := by
        rw [hprevious, PolicyRecord.findCandidate_path hfound]
        exact beq_self_eq_true _
      rw [hactive, hvalid, hreverse, bne_iff_ne.2 heffective] at hholdDown
      exact UInt64.le_iff_toNat_le.1 (UInt64.not_lt.1 (of_decide_eq_false hholdDown))

end

/-- Establishing the first preference arms nothing. After an adaptation at `t` that displaced a
preference, in a run without an update of the policy, an epoch advance or a recovery, an ordinary
commit installs no path before the cooldown is over (whatever other transitions come first, if the
clock does not go back), and before the next transition it does not bring the displaced path back
before the hold-down is over. -/
theorem transition_binds {config : EngineConfig} {policy : AdaptivePolicyId} {nonce : Text}
    {e₀ e₁ : Engine} {op : Op} {answer : Answer} {record record' : PolicyRecord} {t : Ticks}
    (hreach : RunUnder config (fun _ op => Validated config.limits op) (Engine.start config nonce) e₀)
    (hop : Undisturbed config.limits policy op) (hstep : e₀.step config op = some (e₁, answer))
    (htransition : Transition policy ⟨e₀, op, answer, e₁⟩ record record' t) :
    (record.preference.established = false → op.restores = false →
      record'.timing = record.timing) ∧
    (record.preference.established = true ∨ op.restores = true →
      Unwrapped record.policy.semantics op.restores record'.timing.dampeningPenalty t →
      ∀ {calls : List (Runs.Call Engine Op Answer)} {e₂ e₃ : Engine} {op' : Op} {answer' : Answer}
        {request : CommitDecisionRequest} {r r' : PolicyRecord} {t' : Ticks},
        QuietTrace config policy e₁ calls e₂ → Commits config.limits e₂ op' t' request →
        request.ticket.emergency = false → e₂.step config op' = some (e₃, answer') →
        Transition policy ⟨e₂, op', answer', e₃⟩ r r' t' →
        ((Untouched policy calls ∨ ∀ call ∈ calls, ∀ later ∈ call.label.adaptsAt, t ≤ later ∧
            later.toNat + record.policy.semantics.cooldown.duration.toNat < UInt64.size) →
          t ≤ t' ∨ 0 < record.policy.semantics.cooldown.duration.toNat →
          t.toNat + record.policy.semantics.cooldown.duration.toNat ≤ t'.toNat) ∧
        (Untouched policy calls →
          r'.preference.preferredPath = record.preference.preferredPath →
          t ≤ t' ∨ 0 < armedHoldDown record.policy.semantics op.restores
            record'.timing.dampeningPenalty →
          t.toNat + armedHoldDown record.policy.semantics op.restores
            record'.timing.dampeningPenalty ≤ t'.toNat)) := by
  obtain ⟨after, hafter, hchange⟩ := step_adaptation hstep hop htransition.before
  obtain rfl : after = record' := Option.some.inj (hafter.symm.trans htransition.after)
  refine ⟨fun hfirst hcommit => hchange.establishing hfirst hcommit, ?_⟩
  intro hdisplaces hfits calls e₂ e₃ op' answer' request r r' t' htrace hcommits hordinary hstep' hinstalls
  have harmed := hchange.armed htransition.adapts htransition.reading hdisplaces hfits
  have hvalidated {op : Op} (hop : Undisturbed config.limits policy op) :
      Validated config.limits op := fun durable hdurable => by
    rw [hop.recovers] at hdurable
    cases hdurable
  have hsane : r.Sane := sane_run ((hreach.tail (hvalidated hop) hstep).trans
    (htrace.under fun _ _ _ hop => hvalidated hop)) policy r hinstalls.before
  obtain ⟨found, hfound, hinstalled⟩ := step_adaptation hstep' hcommits.undisturbed hinstalls.before
  obtain rfl : found = r' := Option.some.inj (hfound.symm.trans hinstalls.after)
  obtain ⟨hcooled, hheld⟩ := hinstalled.ordinary hinstalls.adapts hcommits hordinary hsane
  have huntouched (hcalls : Untouched policy calls) : r.policy.semantics = after.policy.semantics ∧
      r.preference = after.preference ∧ r.timing = after.timing := by
    obtain ⟨before, hbefore, hsame⟩ := untouched_trace htrace hafter hcalls
    obtain rfl : before = r := Option.some.inj (hbefore.symm.trans hinstalls.before)
    exact hsame
  refine ⟨fun hcalls hclock => ?_, fun hcalls hpath hclock => ?_⟩
  · -- an armed cooldown still runs, whether or not later transitions armed it again
    have hcools : CoolsUntil after (t.toNat + record.policy.semantics.cooldown.duration.toNat) := by
      intro hpos
      rw [harmed.semantics] at hpos
      obtain ⟨hactive, hends⟩ := harmed.cooldown hpos
      exact ⟨hactive, Nat.le_of_eq hends.symm⟩
    have hcooling : r.policy.semantics = record.policy.semantics ∧
        CoolsUntil r (t.toNat + record.policy.semantics.cooldown.duration.toNat) := by
      rcases hcalls with hcalls | hlater
      · obtain ⟨hsemantics, -, htiming⟩ := huntouched hcalls
        refine ⟨hsemantics.trans harmed.semantics, ?_⟩
        unfold CoolsUntil
        rw [hsemantics, htiming]
        exact hcools
      · obtain ⟨before, hbefore, hsemantics, hcooling⟩ :=
          cooling_trace htrace hafter hcools fun call hmem later hreading => by
            obtain ⟨hle, hfit⟩ := hlater call hmem later hreading
            rw [harmed.semantics]
            exact ⟨Nat.add_le_add_right (UInt64.le_iff_toNat_le.1 hle) _, hfit⟩
        obtain rfl : before = r := Option.some.inj (hbefore.symm.trans hinstalls.before)
        exact ⟨hsemantics.trans harmed.semantics, hcooling⟩
    rcases Nat.eq_zero_or_pos record.policy.semantics.cooldown.duration.toNat with hzero | hpos
    · rw [hzero] at hclock ⊢
      exact UInt64.le_iff_toNat_le.1 (hclock.resolve_right (Nat.lt_irrefl 0))
    · obtain ⟨hactive, hends⟩ := hcooling.2 (by rwa [hcooling.1])
      exact Nat.le_trans hends (hcooled hactive)
  · obtain ⟨hsemantics, hpreference, htiming⟩ := huntouched hcalls
    have hsemantics := hsemantics.trans harmed.semantics
    rcases Nat.eq_zero_or_pos (armedHoldDown record.policy.semantics op.restores
      after.timing.dampeningPenalty) with hzero | hpos
    · rw [hzero] at hclock ⊢
      exact UInt64.le_iff_toNat_le.1 (hclock.resolve_right (Nat.lt_irrefl 0))
    · obtain ⟨hactive, hends⟩ := harmed.holdDown hpos
      have hcheck : record.policy.semantics.check = .ok () := by
        rw [← hsemantics]
        exact hsane.semantics
      rw [htiming, hpreference, hsemantics, harmed.previousPath, hends] at hheld
      exact hheld hactive (commitHoldDown_ne_zero hcheck hfits.escalated hpos) hpath.symm

/-! ## A guarded switch -/

namespace Scenario

def guarded : CreatePolicyRequest :=
  { create 1 with semantics := { semantics with
      holdDown := { duration := 20 }, cooldown := { duration := 10 } } }

/-- The policy prefers the left path and the right one is better. -/
def poised : List Op :=
  [register, .createPolicy 0 guarded, activate, notify (declare left) "left",
    publish left 100 "left-evidence", .evaluate 2 2 (evaluation "establish"),
    notify (declare right) "right", publish right 50 "right-evidence"]

def leave : Op := .evaluate 3 3 (evaluation "switch")

def fresher (sequence : UInt64) : EvidencePublication where
  source := name "source"
  sourceGeneration := ⟨1⟩
  path := left
  value := latency 1
  observationSequence := sequence

def recover : Op :=
  .publishEvidence (fun _ => 4) { publications := [fresher 2, fresher 3], context := context 1 "left-again" }

def comeBack : Op := .evaluate 30 30 (evaluation "back")

end Scenario

open Scenario in
/-- The way back waits for the end of the hold-down. -/
theorem comeback_waits : ∃ e' answer record record',
    (after (poised ++ [leave] ++ [recover])).step config comeBack = some (e', answer) ∧
      (after poised).state.policies[policy]? = some record ∧
      e'.state.policies[policy]? = some record' ∧
      record'.preference.preferredPath = record.preference.preferredPath ∧
      (3 : Ticks).toNat + armedHoldDown record.policy.semantics false 0 ≤ (30 : Ticks).toNat := by
  have htrace := quiet_calls (fun _ _ op => Undisturbed config.limits policy op)
    (by decide +kernel : returns poised = true) (by decide +kernel) (by decide +kernel)
    fun _ _ _ hquiet => hquiet.undisturbed
  obtain ⟨answer, hleave⟩ := step_after poised leave (by decide +kernel)
  obtain ⟨reply, hrecover⟩ := step_after (poised ++ [leave]) recover (by decide +kernel)
  obtain ⟨answer', hback⟩ := step_after (poised ++ [leave] ++ [recover]) comeBack (by decide +kernel)
  have hbefore : ((after poised).state.policies[policy]?).any (fun record =>
      record.preference.established && record.preference.preferredPath == left &&
        record.preference.adaptationGeneration == ⟨2⟩ &&
        record.policy.semantics == guarded.semantics) = true := by decide +kernel
  have hdisplaced : ((after (poised ++ [leave])).state.policies[policy]?).any (fun record =>
      record.preference.adaptationGeneration == ⟨3⟩ && record.timing.dampeningPenalty == 0) =
      true := by decide +kernel
  have hlater : ((after (poised ++ [leave] ++ [recover])).state.policies[policy]?).any (fun record =>
      record.preference.adaptationGeneration == ⟨3⟩) = true := by decide +kernel
  have hreturned : ((after (poised ++ [leave] ++ [recover] ++ [comeBack])).state.policies[
      policy]?).any (fun record => record.preference.adaptationGeneration == ⟨4⟩ &&
        record.preference.preferredPath == left) = true := by decide +kernel
  have hticket : (beginEvaluation config.limits (after (poised ++ [leave] ++ [recover])) 30
      (evaluation "back")).any (fun entry => !entry.2.emergency) = true := by decide +kernel
  obtain ⟨record, hrecord, hholds⟩ := (Option.any_eq_true _ _).1 hbefore
  obtain ⟨armed, harmed, hpenalty⟩ := (Option.any_eq_true _ _).1 hdisplaced
  obtain ⟨held, hheld, hheldAt⟩ := (Option.any_eq_true _ _).1 hlater
  obtain ⟨back, hbackRecord, hbackAt⟩ := (Option.any_eq_true _ _).1 hreturned
  obtain ⟨⟨e₁, ticket⟩, hbegin, hordinary⟩ := (Option.any_eq_true _ _).1 hticket
  simp only [Bool.and_eq_true, beq_iff_eq] at hholds hpenalty hheldAt hbackAt
  obtain ⟨⟨⟨hestablished, hpath⟩, hgeneration⟩, hsemantics⟩ := hholds
  have hreach : RunUnder config (fun _ op => Validated config.limits op) (Engine.start config "n")
      (after poised) := htrace.under fun _ _ _ hop durable hdurable => by
    rw [hop.recovers] at hdurable
    cases hdurable
  have hfits : Unwrapped record.policy.semantics leave.restores armed.timing.dampeningPenalty 3 := by
    rw [hsemantics, hpenalty.2]
    exact ⟨by decide, by decide, by decide⟩
  have hbinds := (transition_binds hreach (.of_quiet rfl) hleave
    ⟨hrecord, harmed, by rw [hpenalty.1, hgeneration]; decide, rfl⟩).2 (.inl hestablished) hfits
    (.call .start (.of_quiet rfl) hrecover) (.evaluate hbegin) (by simpa using hordinary) hback
    ⟨hheld, hbackRecord, by rw [hbackAt.1, hheldAt]; decide, rfl⟩
  have huntouched : Untouched policy
      [⟨after (poised ++ [leave]), recover, reply, after (poised ++ [leave] ++ [recover])⟩] :=
    fun call hmem _ _ now htransition => by
      have hreading := htransition.reading
      rw [List.mem_singleton.1 hmem] at hreading
      cases hreading
  refine ⟨_, answer', record, back, hback, hrecord, hbackRecord, by rw [hbackAt.2, hpath], ?_⟩
  have hwaits := hbinds.2 huntouched (by rw [hbackAt.2, hpath]) (.inl (by decide))
  rwa [hpenalty.2] at hwaits

end AdaptiveRouting
