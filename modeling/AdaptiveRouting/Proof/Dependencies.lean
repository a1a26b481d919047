import AdaptiveRouting.Proof.Commit

/-!
# Dependencies of a ticket

Phase two compares the candidate set, and for every candidate its path authority and its invalidation
watermark. The other facts an evaluation read about a candidate (`CandidateBinding.marked`) are
protected by the watermark alone. Where every notification that changes one of them advances the
watermark (`Watched`), the candidates of a record only rise (`Kept`), and a ticket that commits finds
every fact as it was when the ticket was taken.
-/

namespace AdaptiveRouting

open Guard Engine

/-! ## Facts -/

/-- The upstream facts that decide whether a candidate is eligible. -/
structure UpstreamFacts where
  path : PathId
  authority : PathAuthorityGeneration
  legal : Bool
  route : RouteGeneration
  routeCurrent : Bool
  available : Bool
  hardFailure : Bool
  multipath : Option MultipathBinding
  deriving DecidableEq

namespace CandidateBinding

def facts (b : CandidateBinding) : UpstreamFacts where
  path := b.path
  authority := b.pathAuthority.generation
  legal := b.pathAuthority.legal
  route := b.route.generation
  routeCurrent := b.route.current
  available := b.available
  hardFailure := b.hardFailure
  multipath := b.multipath

/-- The facts phase two compares through the watermark only. -/
def marked (b : CandidateBinding) : UpstreamFacts := { b.facts with authority := {}, legal := false }

theorem facts_of_marked {b b' : CandidateBinding} (h : b'.marked = b.marked)
    (hgeneration : b'.pathAuthority.generation = b.pathAuthority.generation)
    (hlegal : b'.pathAuthority.legal = b.pathAuthority.legal) : b'.facts = b.facts := by
  have hfacts {c : CandidateBinding} : c.facts =
      { c.marked with authority := c.pathAuthority.generation, legal := c.pathAuthority.legal } := rfl
  rw [hfacts, hfacts, h, hgeneration, hlegal]

theorem upstreamRejection_of_facts {b b' : CandidateBinding} (h : b'.facts = b.facts)
    (target : PolicyTarget) : upstreamRejection target b' = upstreamRejection target b := by
  have hlegal : b'.pathAuthority.legal = b.pathAuthority.legal := congrArg UpstreamFacts.legal h
  have hroute : b'.route.current = b.route.current := congrArg UpstreamFacts.routeCurrent h
  have havailable : b'.available = b.available := congrArg UpstreamFacts.available h
  have hmultipath : b'.multipath = b.multipath := congrArg UpstreamFacts.multipath h
  have hpath : b'.path = b.path := congrArg UpstreamFacts.path h
  unfold upstreamRejection
  rw [hlegal, hroute, havailable, hmultipath, hpath]

end CandidateBinding

/-- The facts of a policy's candidates, in order. -/
def State.factsOf (s : State) (policy : AdaptivePolicyId) : Option (List UpstreamFacts) :=
  s.policies[policy]?.map fun record => record.candidates.map (·.binding.facts)

/-- A binding that is legal, on a current route, available, and a current member of the target set. -/
structure Serviceable (target : PolicyTarget) (b : CandidateBinding) : Prop where
  legal : b.pathAuthority.legal = true
  current : b.route.current = true
  available : b.available = true
  member : ∀ set, target.multipathSet = some set → ∃ multipath, b.multipath = some multipath ∧
    multipath.set = set ∧ multipath.current = true ∧ multipath.contains b.path = true

theorem Serviceable.of_accepted {target : PolicyTarget} {b : CandidateBinding}
    (h : upstreamRejection target b = none) : Serviceable target b := by
  unfold upstreamRejection at h
  split at h
  · cases h
  · rename_i hlegal
    split at h
    · cases h
    · rename_i hcurrent
      split at h
      · cases h
      · rename_i havailable
        refine ⟨by simpa using hlegal, by simpa using hcurrent, by simpa using havailable, ?_⟩
        intro set hset
        rw [hset] at h
        dsimp only at h
        split at h
        · rename_i hmember
          obtain ⟨multipath, hmultipath, htest⟩ := (Option.any_eq_true _ _).1 hmember
          simp only [Bool.and_eq_true, beq_iff_eq] at htest
          exact ⟨multipath, hmultipath, htest.1.2, htest.1.1, htest.2⟩
        · cases h

/-! ## Candidates that rise -/

/-- A candidate kept its path, and its marked facts unless its watermark advanced. -/
structure Kept (c c' : CandidateRecord) : Prop where
  path : c'.binding.path = c.binding.path
  facts : c.pathWatermark < c'.pathWatermark ∨
    c.pathWatermark = c'.pathWatermark ∧ c'.binding.marked = c.binding.marked

/-- A watermark that is not exhausted advances. -/
theorem lt_add_one_of_room {mark : UInt64} (h : mark ≠ 0xFFFFFFFFFFFFFFFF) : mark < mark + 1 := by
  have hlt := mark.toNat_lt
  have hne : mark.toNat ≠ 0xFFFFFFFFFFFFFFFF := fun hc => h (UInt64.toNat_inj.1 hc)
  rw [UInt64.lt_iff_toNat_lt, UInt64.toNat_add, UInt64.toNat_one]
  omega

theorem Kept.refl (c : CandidateRecord) : Kept c c := ⟨rfl, .inr ⟨rfl, rfl⟩⟩

theorem Kept.trans {a b c : CandidateRecord} (h₁ : Kept a b) (h₂ : Kept b c) : Kept a c where
  path := h₂.path.trans h₁.path
  facts := by
    rcases h₁.facts with h | ⟨h, hfacts⟩ <;> rcases h₂.facts with h' | ⟨h', hfacts'⟩
    · exact .inl (UInt64.lt_trans h h')
    · exact .inl (h' ▸ h)
    · exact .inl (h ▸ h')
    · exact .inr ⟨h.trans h', hfacts'.trans hfacts⟩

theorem forall₂_kept_trans {a b c : List CandidateRecord} (h₁ : List.Forall₂ Kept a b)
    (h₂ : List.Forall₂ Kept b c) : List.Forall₂ Kept a c := by
  induction h₁ generalizing c with
  | nil => exact h₂
  | cons hhead _ ih =>
    cases h₂ with
    | cons hhead' htail' => exact .cons (hhead.trans hhead') (ih htail')

/-- The list grew, or every candidate is kept. -/
def Rises (before after : List CandidateRecord) : Prop :=
  before.length < after.length ∨ List.Forall₂ Kept before after

theorem Rises.refl (candidates : List CandidateRecord) : Rises candidates candidates :=
  .inr (List.forall₂_same.2 fun c _ => .refl c)

theorem Rises.trans {a b c : List CandidateRecord} (h₁ : Rises a b) (h₂ : Rises b c) : Rises a c := by
  rcases h₁ with h | h <;> rcases h₂ with h' | h'
  · exact .inl (h.trans h')
  · exact .inl (h'.length_eq ▸ h)
  · exact .inl (h.length_eq ▸ h')
  · exact .inr (forall₂_kept_trans h h')

/-- The record is of a later generation, or of the same, with the same target and candidates that
rose. -/
def PolicyRecord.Follows (r before : PolicyRecord) : Prop :=
  before.policy.generation < r.policy.generation ∨
    before.policy.generation = r.policy.generation ∧
      r.policy.semantics = before.policy.semantics ∧ Rises before.candidates r.candidates

namespace PolicyRecord

theorem Follows.refl (r : PolicyRecord) : r.Follows r := .inr ⟨rfl, rfl, .refl _⟩

theorem Follows.trans {a b c : PolicyRecord} (h₁ : b.Follows a) (h₂ : c.Follows b) : c.Follows a := by
  rcases h₁ with h | ⟨h, hsemantics, hrises⟩ <;> rcases h₂ with h' | ⟨h', hsemantics', hrises'⟩
  · exact .inl (UInt64.lt_trans h h')
  · exact .inl (h' ▸ h)
  · exact .inl (h ▸ h')
  · exact .inr ⟨h.trans h', hsemantics'.trans hsemantics, hrises.trans hrises'⟩

end PolicyRecord

/-! ## Watched notifications -/

/-- What phase two relies on when a notification is applied: one that changes a marked fact of a
candidate of the policy is an invalidation, of a path the index lists the policy under; and no
watermark that is advanced is exhausted. -/
structure Watched (policy : AdaptivePolicyId) (s : State) (n : UpstreamNotification) : Prop where
  marks : ∀ record c, s.policies[policy]? = some record →
    record.findCandidate n.binding.path = some c → n.policy = policy →
    (n.edit c.binding).marked ≠ c.binding.marked →
    n.event.invalidates = true ∧ s.dependsOn n.binding.path policy = true
  exhausted : ∀ record c, s.policies[policy]? = some record →
    record.findCandidate n.binding.path = some c → n.event.invalidates = true →
    s.dependsOn n.binding.path policy = true → c.pathWatermark ≠ 0xFFFFFFFFFFFFFFFF

/-- Every notification of a batch that is applied is watched in the state it finds. -/
def WatchedBatch (limits : Limits) (context : MutationContext) (policy : AdaptivePolicyId) :
    State → List UpstreamNotification → Prop
  | _, [] => True
  | s, n :: rest => ∀ s', s.applyNotification limits context n = .ok s' →
      Watched policy s n ∧ WatchedBatch limits context policy s' rest

/-- What keeps the facts of a policy's candidates behind their watermarks, from an epoch on: its
batches are watched, and no store of an earlier epoch is recovered. -/
structure Watches (config : EngineConfig) (policy : AdaptivePolicyId) (epoch : CoordinatorEpoch)
    (e : Engine) (op : Op) : Prop where
  batch : ∀ request fingerprint, op = .applyUpstream request →
    e.state.upstreamChecks config.limits request = .ok fingerprint →
    WatchedBatch config.limits request.context policy e.state request.notifications
  recovery : RecoversFrom config.limits epoch e op

section
variable {policy : AdaptivePolicyId} {s s' : State} {n : UpstreamNotification}
  {record record' : PolicyRecord}

theorem Watched.kept {c : CandidateRecord} (hw : Watched policy s n)
    (hrecord : s.policies[policy]? = some record)
    (hc : record.findCandidate n.binding.path = some c) : Kept c (s.amend n policy c) where
  path := State.amend_path (PolicyRecord.findCandidate_path hc)
  facts := by
    unfold State.amend
    dsimp only
    by_cases hmoves : (n.event.invalidates && s.dependsOn n.binding.path policy) = true
    · rw [if_pos hmoves]
      rw [Bool.and_eq_true] at hmoves
      have hroom := hw.exhausted record c hrecord hc hmoves.1 hmoves.2
      exact .inl (lt_add_one_of_room hroom)
    · rw [if_neg hmoves]
      refine .inr ⟨rfl, ?_⟩
      split
      · rename_i hsubject
        by_contra hmarks
        have hmoved := hw.marks record c hrecord hc hsubject hmarks
        rw [hmoved.1, hmoved.2] at hmoves
        exact hmoves rfl
      · rfl

theorem State.Amends.follows (h : s.Amends n policy record record') (hw : Watched policy s n)
    (hrecord : s.policies[policy]? = some record) : record'.Follows record := by
  cases h with
  | declared =>
    refine .inr ⟨rfl, rfl, .inl ?_⟩
    simp [sortCandidates_length]
  | amended =>
    have hkept := PolicyRecord.modifyCandidate_forall₂ Kept.refl fun c hc => hw.kept hrecord hc
    have hpolicy := PolicyRecord.policy_of_frame
      (record.modifyCandidate_frame n.binding.path (s.amend n policy))
    exact .inr ⟨by rw [hpolicy], by rw [hpolicy], .inr hkept⟩

theorem WatchedBatch.follows {limits : Limits} {context : MutationContext}
    {notifications : List UpstreamNotification}
    (hw : WatchedBatch limits context policy s notifications)
    (hrecord : s.policies[policy]? = some record)
    (hreached : (State.applyNotifications limits context s notifications).1.policies[policy]? =
      some record') : record'.Follows record := by
  induction notifications generalizing s record with
  | nil =>
    rw [State.applyNotifications, hrecord] at hreached
    cases hreached
    exact .refl _
  | cons n rest ih =>
    unfold State.applyNotifications at hreached
    cases happly : s.applyNotification limits context n with
    | error answer =>
      rw [happly] at hreached
      cases hrecord.symm.trans hreached
      exact .refl _
    | ok next =>
      rw [happly] at hreached
      obtain ⟨hwatched, hrest⟩ := hw next happly
      obtain ⟨found, _, haccepted, happlies⟩ := State.applyNotification_ok happly
      obtain ⟨between, hbetween, hamends⟩ := happlies.record haccepted.found hrecord
      exact (hamends.follows hwatched hrecord).trans (ih hrest hbetween hreached)

end

section
variable {config : EngineConfig} {e e' : Engine} {op : Op} {policy : AdaptivePolicyId}
  {record record' : PolicyRecord}

theorem Rewrites.follows (h : Rewrites config.limits e op policy record record') :
    record'.Follows record := by
  cases h with
  | updated checks =>
    obtain ⟨_, haccepted⟩ := State.updateChecks_ok checks
    refine .inl ?_
    unfold State.updatedRecord
    dsimp only
    split <;> exact Generation.lt_next haccepted.next
  | _ => exact .inr ⟨rfl, rfl, .refl _⟩

theorem RecordChange.follows {epoch : CoordinatorEpoch}
    (h : RecordChange config e op policy record record') (hw : Watches config policy epoch e op)
    (hrecord : e.state.policies[policy]? = some record) : record'.Follows record := by
  cases h with
  | kept => exact .refl record
  | rewritten rewrites => exact rewrites.follows
  | advanced =>
    unfold State.requireRevalidation
    dsimp only
    split <;> exact .inr ⟨rfl, rfl, .refl _⟩
  | notified notifies checks reached =>
    exact (hw.batch _ _ notifies checks).follows hrecord reached

/-- Through watched steps, the record of an epoch follows what it was. -/
theorem follows_run {epoch : CoordinatorEpoch} {before : PolicyRecord}
    (hd : During policy epoch (·.Follows before) e.state)
    (h : RunUnder config (Watches config policy epoch) e e') :
    During policy epoch (·.Follows before) e'.state :=
  h.inv (I := fun e => During policy epoch (·.Follows before) e.state)
    (fun _ _ _ _ hw hd hstep => hd.step hw.recovery
      (fun _ _ hrecord hchange hfollows => hfollows.trans (hchange.follows hw hrecord)) hstep) hd

/-- At the epoch and the generation it had, the record has the target it had and candidates that
rose. -/
theorem follows_at {s : State} {epoch : CoordinatorEpoch} {before : PolicyRecord}
    (hd : During policy epoch (·.Follows before) s) (hepoch : s.epoch = epoch)
    (hrecord : s.policies[policy]? = some record)
    (hgeneration : record.policy.generation = before.policy.generation) :
    record.policy.semantics = before.policy.semantics ∧
      Rises before.candidates record.candidates := by
  rcases hd with hlt | ⟨-, found, hfound, hfollows⟩
  · rw [hepoch] at hlt
    exact absurd hlt (UInt64.lt_irrefl _)
  · rw [hrecord] at hfound
    cases hfound
    rcases hfollows with hlt | ⟨-, hsemantics, hrises⟩
    · rw [hgeneration] at hlt
      exact absurd hlt (UInt64.lt_irrefl _)
    · exact ⟨hsemantics, hrises⟩

end

/-! ## No drift -/

/-- What a candidate that has not drifted agrees with. -/
structure Agrees (snapshot : DependencySnapshot) (index : Nat) (candidate : CandidateRecord) :
    Prop where
  mark : ∀ mark, snapshot.candidatePathWatermarks[index]? = some mark →
    mark = candidate.pathWatermark
  authority : ∀ recorded, snapshot.candidatePathAuthority[index]? = some recorded →
    recorded.generation = candidate.binding.pathAuthority.generation ∧
      recorded.legal = candidate.binding.pathAuthority.legal

theorem candidateDrift_none {snapshot : DependencySnapshot} {index : Nat}
    {candidate : CandidateRecord} (h : candidateDrift snapshot index candidate = none) :
    Agrees snapshot index candidate := by
  unfold candidateDrift at h
  dsimp only at h
  split at h
  · cases h
  · split at h
    · repeat' split at h
      all_goals cases h
    · rename_i hmark
      split at h
      · cases h
      · rename_i hauthority
        refine ⟨fun mark hrecorded => ?_, fun recorded hrecorded => ?_⟩
        · rw [hrecorded] at hmark
          simpa using hmark
        · rw [hrecorded] at hauthority
          simpa using hauthority

theorem dependencyDrift_none {candidates : List CandidateRecord} {snapshot : DependencySnapshot}
    (h : dependencyDrift candidates snapshot = none) :
    candidates.length = snapshot.candidates.length ∧
      ∀ (index : Nat) (candidate : CandidateRecord), candidates[index]? = some candidate →
        Agrees snapshot index candidate := by
  unfold dependencyDrift at h
  split at h
  · cases h
  · rename_i hlength
    refine ⟨Decidable.not_not.1 hlength, fun index candidate hcandidate => ?_⟩
    exact candidateDrift_none (List.findSome?_eq_none_iff.1 h (candidate, index)
      (List.mk_mem_zipIdx_iff_getElem?.2 hcandidate))

/-- Where the candidates rose and have not drifted, the facts are what they were. -/
theorem facts_of_rises {s : State} {now : Ticks} {evaluation : EvaluationId}
    {before after : PolicyRecord} (hrises : Rises before.candidates after.candidates)
    (hdrift : dependencyDrift after.candidates (s.buildDependencies now before evaluation) = none) :
    after.candidates.map (·.binding.facts) = before.candidates.map (·.binding.facts) := by
  obtain ⟨hlength, hagrees⟩ := dependencyDrift_none hdrift
  have hlength : after.candidates.length = before.candidates.length := by
    rw [hlength]
    exact List.length_map _
  have hkept : List.Forall₂ Kept before.candidates after.candidates :=
    hrises.resolve_left (by omega)
  refine List.ext_getElem (by simp [hlength]) fun index h₁ h₂ => ?_
  rw [List.length_map] at h₁ h₂
  rw [List.getElem_map, List.getElem_map]
  have hcandidate := (List.forall₂_iff_get.1 hkept).2 index h₂ h₁
  have hagree := hagrees index _ (List.getElem?_eq_getElem h₁)
  have hauthority := hagree.authority (before.candidates[index].binding.pathAuthority)
    (by simp [State.buildDependencies, h₂])
  have hmark := hagree.mark before.candidates[index].pathWatermark
    (by simp [State.buildDependencies, h₂])
  simp only [List.get_eq_getElem] at hcandidate
  rcases hcandidate.facts with hlt | ⟨-, hmarked⟩
  · rw [hmark] at hlt
    exact absurd hlt (UInt64.lt_irrefl _)
  · exact CandidateBinding.facts_of_marked hmarked hauthority.1.symm hauthority.2.symm

/-! ## Commits -/

/-- A commit that installs the target of its ticket. -/
structure Installs (limits : Limits) (s s' : State) (now : Ticks) (request : CommitDecisionRequest)
    (record record' : PolicyRecord) (target : CandidateRecord) : Prop where
  checks : s.commitChecks request = .ok record
  eligible : request.ticket.lifecycle = .eligible
  candidate : record.findCandidate request.ticket.targetPreference = some target
  found : s'.policies[request.ticket.dependencies.policy]? = some record'
  policy : record'.policy = record.policy
  established : record'.preference.established = true
  installed : record'.findCandidate record'.preference.preferredPath = some target

/-- The commit of a ticket that reports no commit of its own. -/
theorem commit_installs {limits : Limits} {s s' : State} {now : Ticks}
    {request : CommitDecisionRequest} {outcome : Outcome}
    (h : CommitEffect limits s now request s' outcome) (hcommitted : outcome = .decisionCommitted)
    (hreports : request.ticket.lifecycle ≠ .eligible → request.ticket.outcome.isRejection = true) :
    ∃ record record' target, Installs limits s s' now request record record' target := by
  cases h with
  | refused checks =>
    rcases State.commitChecks_refused checks with ⟨hrejected, houtcome⟩ | ⟨-, houtcome⟩
    · rw [houtcome] at hcommitted
      exact absurd hcommitted (rejection_ne_committed (hreports (by rw [hrejected]; nofun)))
    · exact absurd hcommitted houtcome
  | suppressed _ ineligible =>
    exact absurd hcommitted (rejection_ne_committed (hreports ineligible))
  | unchanged => cases hcommitted
  | unverified _ _ _ verified =>
    exact absurd hcommitted
      (rejection_ne_committed (State.verifyCommit_refuses _ _ _ _ _ _ verified))
  | @committed record target adaptation transitionGeneration transition id preference checks eligible
      other verified installs =>
    have hcandidate := (State.verifyCommit_ok verified).1
    have hpath := PolicyRecord.findCandidate_path hcandidate
    refine ⟨record, State.committedRecord limits now record preference
      (s.committedDecision now record request.ticket preference), target, checks, eligible,
      hcandidate, ?_, rfl, ?_, ?_⟩
    · simp only [State.recordAttempt_policies, State.journal_policies, State.putRecord_policies]
      exact Std.ExtTreeMap.getElem?_insert_self
    · subst installs
      rfl
    · subst installs
      change record.findCandidate target.binding.path = some target
      rw [hpath, hcandidate]

/-- A binding with the facts of one of the candidates an eligible ticket was computed from, at the
path it aims at. -/
theorem EvaluationInputs.Aims.serviceable {inputs : EvaluationInputs} {path : PathId}
    {b : CandidateBinding} (h : inputs.Aims path)
    (hordered : Search.Sorted (fun candidate : CandidateRecord => candidate.binding.path)
      inputs.candidates) (hpath : b.path = path)
    (hfacts : b.facts ∈ inputs.candidates.map (·.binding.facts)) :
    Serviceable inputs.policy.semantics.target b := by
  obtain ⟨candidate, hcandidate, hat, haccepted⟩ := h.candidate
  obtain ⟨seen, hseen, hsame⟩ := List.mem_map.1 hfacts
  have hkey : seen.binding.path = candidate.binding.path :=
    (congrArg UpstreamFacts.path hsame).trans (hpath.trans hat.symm)
  obtain rfl := Search.eq_of_key_eq hordered hseen hcandidate hkey
  refine .of_accepted ?_
  rw [CandidateBinding.upstreamRejection_of_facts hsame.symm]
  exact haccepted

/-- The established preference of a policy is the path of a serviceable candidate. -/
def ServesPreference (s : State) (policy : AdaptivePolicyId) : Prop :=
  ∃ record candidate, s.policies[policy]? = some record ∧ record.preference.established = true ∧
    record.findCandidate record.preference.preferredPath = some candidate ∧
    Serviceable record.policy.semantics.target candidate.binding

/-- Two-phase fencing: a ticket that commits, in a run whose steps between the phases are watched,
finds every upstream fact of the policy's candidates as it was when the ticket was taken, and installs
the path of a serviceable candidate. -/
theorem commit_keeps_facts {config : EngineConfig} {e e' e₁ e₂ : Engine} {begun now : Ticks}
    {request : EvaluateRequest} {ticket : EvaluationTicket} {commit : CommitDecisionRequest}
    {result : OperationResult} (hreach : Reachable config e)
    (hbegin : e.step config (.beginEvaluation begun request) = some (e', .ticket ticket))
    (hrun : RunUnder config (Watches config request.policy e.state.epoch) e' e₁)
    (hticket : commit.ticket = ticket)
    (hcommit : e₁.step config (.commitEvaluation now commit) = some (e₂, .result result))
    (hcommitted : result.outcome = .decisionCommitted) :
    e₁.state.factsOf request.policy = e.state.factsOf request.policy ∧
      ServesPreference e₂.state request.policy := by
  subst hticket
  obtain ⟨⟨_, _⟩, hbegun, he⟩ := Option.map_eq_some_iff.1 hbegin
  cases he
  obtain ⟨⟨_, _⟩, hcommits, he⟩ := Option.map_eq_some_iff.1 hcommit
  cases he
  obtain ⟨hstate, hissued⟩ := beginEvaluation_issues hbegun
  obtain ⟨record, record', target, hinstalls⟩ :=
    commit_installs (commitEvaluation_cases hcommits) hcommitted fun hineligible => by
      rcases hissued with hrefused | ⟨_, _, _, _, _, hissues⟩
      · exact hrefused.outcome
      · exact (hissues.verdict.resolve_left hineligible).2
  rcases hissued with hrefused | ⟨before, _, evaluation, _, haccepted, hissues⟩
  · cases hrefused.lifecycle.symm.trans hinstalls.eligible
  · obtain ⟨_, hpassed⟩ := State.commitChecks_ok hinstalls.checks
    have hdependencies := hissues.dependencies
    have hsubject : commit.ticket.dependencies.policy = request.policy := by
      rw [hdependencies]
      exact Keyed.reachable hreach request.policy before haccepted.found
    have hfound := hpassed.found
    have hinstalled := hinstalls.found
    rw [hsubject] at hfound hinstalled
    -- the record is the one the ticket was taken from, with candidates that rose
    have hafter : During request.policy e.state.epoch (·.Follows before) e₁.state :=
      follows_run (.start hstate haccepted.found (.refl before)) hrun
    have hepoch : e₁.state.epoch = e.state.epoch := by
      rw [hpassed.epoch, hdependencies]
      rfl
    have hgeneration : record.policy.generation = before.policy.generation := by
      rw [hpassed.generation, hdependencies]
      rfl
    obtain ⟨hsemantics, hrises⟩ := follows_at hafter hepoch hfound hgeneration
    have hdrift := hpassed.drift hinstalls.eligible
    rw [hdependencies] at hdrift
    have hfacts := facts_of_rises hrises hdrift
    refine ⟨?_, record', target, hinstalled, hinstalls.established, hinstalls.installed, ?_⟩
    · rw [State.factsOf, State.factsOf, hfound, haccepted.found, Option.map_some, Option.map_some,
        hfacts]
    · rw [hinstalls.policy, hsemantics]
      exact (hissues.target hinstalls.eligible).serviceable
        (Ordered.reachable hreach request.policy before haccepted.found)
        (PolicyRecord.findCandidate_path hinstalls.candidate)
        (hfacts ▸ List.mem_map_of_mem (PolicyRecord.findCandidate_mem hinstalls.candidate))

namespace Scenario

/-- The right path's weighted binding, which no evaluation reads, is replaced. -/
def reweigh : Op := notify { event := .advanceWeightPolicy, policy, binding := binding right } "weights"

/-- The right path is declared again, as unavailable. -/
def redeclare : Op := notify { declare right with binding.available := false } "redeclare"

/-- The deployment after phase one of the first ticket. -/
def begun : List Op := challenged ++ [phaseOne "one"]

theorem watches_reweigh (e : Engine) (epoch : CoordinatorEpoch) :
    Watches config policy epoch e reweigh where
  batch := by
    rintro _ _ ⟨⟩ -
    exact fun _ _ => ⟨⟨fun _ _ _ _ _ hmoved => absurd rfl hmoved, fun _ _ _ _ hevent => by cases hevent⟩,
      trivial⟩
  recovery := fun _ h => by cases h

end Scenario

open Scenario in
/-- The facts are what they were when the weights moved between the phases. -/
theorem reweighed_commit_keeps_facts :
    (after (begun ++ [reweigh])).state.factsOf policy = (after challenged).state.factsOf policy ∧
      ServesPreference (after (begun ++ [reweigh, commitFirst])).state policy := by
  obtain ⟨_, hreweigh⟩ := step_after begun reweigh (by decide +kernel)
  obtain ⟨result, hcommit, houtcome⟩ := step_result (by decide +kernel :
    returns (begun ++ [reweigh] ++ [commitFirst]) = true) (by decide +kernel :
      answers (begun ++ [reweigh]) commitFirst
        (fun answer => answer.outcome == some .decisionCommitted) = true)
  exact commit_keeps_facts (reachable_after (by decide +kernel)) take_first
    (.single (watches_reweigh ..) hreweigh) rfl hcommit houtcome

open Scenario in
/-- A candidate declared again as unavailable between the phases is installed. -/
theorem redeclared_candidate_commits :
    Engine.Reachable config (after challenged) ∧
      (after challenged).step config (phaseOne "one") = some (after begun, .ticket firstTicket) ∧
      Engine.Run config (after begun) (after (begun ++ [redeclare])) ∧
      (∃ result, (after (begun ++ [redeclare])).step config commitFirst =
        some (after (begun ++ [redeclare, commitFirst]), .result result) ∧
          result.outcome = .decisionCommitted) ∧
      (after (begun ++ [redeclare])).state.factsOf policy ≠ (after challenged).state.factsOf policy ∧
      ¬ ServesPreference (after (begun ++ [redeclare, commitFirst])).state policy := by
  refine ⟨reachable_after (by decide +kernel), take_first, run_after begun [redeclare]
    (by decide +kernel), step_result (by decide +kernel) (by decide +kernel), by decide +kernel, ?_⟩
  rintro ⟨record, candidate, hrecord, -, hcandidate, hserves⟩
  have hunavailable : ((after (begun ++ [redeclare, commitFirst])).state.policies[policy]?).all
      (fun record => (record.findCandidate record.preference.preferredPath).all
        fun candidate => !candidate.binding.available) = true := by decide +kernel
  rw [hrecord, Option.all_some, hcandidate, Option.all_some, hserves.available] at hunavailable
  cases hunavailable

end AdaptiveRouting
