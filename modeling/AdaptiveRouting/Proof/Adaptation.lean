import AdaptiveRouting.Proof.Fencing
import AdaptiveRouting.Proof.Records
import AdaptiveRouting.Proof.Ticket

/-!
# Adaptation generations

Within an epoch a policy moves forward in the lexicographic order of its policy generation and its
adaptation generation (`RecordChange.forward`), so the place a ticket was taken at stays behind
(`Reached.run`). A commit checks the ticket's epoch and policy generation and not its adaptation
generation. Where the commits of two tickets of one preference also find that generation, at most one
of them advances it.
-/

namespace AdaptiveRouting

open Guard Engine

/-! ## Forward -/

/-- The record is at a policy generation and an adaptation generation, or past them. -/
def PolicyRecord.AtLeast (r : PolicyRecord) (generation : AdaptivePolicyGeneration)
    (adaptation : AdaptationGeneration) : Prop :=
  generation < r.policy.generation ∨
    generation = r.policy.generation ∧ adaptation ≤ r.preference.adaptationGeneration

namespace PolicyRecord

variable {r r' : PolicyRecord} {generation : AdaptivePolicyGeneration}
  {adaptation : AdaptationGeneration}

theorem AtLeast.self (r : PolicyRecord) :
    r.AtLeast r.policy.generation r.preference.adaptationGeneration :=
  .inr ⟨rfl, UInt64.le_refl _⟩

theorem AtLeast.trans (h : r.AtLeast generation adaptation)
    (h' : r'.AtLeast r.policy.generation r.preference.adaptationGeneration) :
    r'.AtLeast generation adaptation := by
  unfold AtLeast at *
  simp only [Generation.lt_iff_toNat, Generation.le_iff_toNat, Generation.eq_iff_toNat] at *
  omega

end PolicyRecord

section
variable {config : EngineConfig} {e e' : Engine} {op : Op} {answer : Answer}
  {policy : AdaptivePolicyId}

/-- What is written over a record is at least where the record was. -/
theorem Rewrites.forward {record record' : PolicyRecord}
    (h : Rewrites config.limits e op policy record record') :
    record'.AtLeast record.policy.generation record.preference.adaptationGeneration := by
  cases h with
  | updated checks =>
    obtain ⟨_, haccepted⟩ := State.updateChecks_ok checks
    refine .inl ?_
    unfold State.updatedRecord
    dsimp only
    split <;> exact Generation.lt_next haccepted.next
  | held | moved | revoked | suppressed => exact .self record
  | committed _ _ _ _ verified installs =>
    subst installs
    exact .inr ⟨rfl, UInt64.le_of_lt (Generation.lt_next (State.verifyCommit_ok verified).2.1)⟩
  | restored _ verified decides =>
    subst decides
    exact .inr ⟨rfl, UInt64.le_of_lt (Generation.lt_next (State.verifyRollback_ok verified).2.2.1)⟩

/-- An operation that recovers no store moves the policy forward. -/
theorem RecordChange.forward {record record' : PolicyRecord}
    (h : RecordChange config e op policy record record') :
    record'.AtLeast record.policy.generation record.preference.adaptationGeneration := by
  cases h with
  | kept => exact .self record
  | rewritten rewrites => exact rewrites.forward
  | advanced =>
    unfold State.requireRevalidation
    dsimp only
    split <;> exact .self record
  | notified _ _ _ hframe =>
    refine .inr ⟨?_, ?_⟩
    · exact (congrArg (fun r : PolicyRecord => r.policy.generation) hframe).symm
    · exact UInt64.le_of_eq
        (congrArg (fun r : PolicyRecord => r.preference.adaptationGeneration.value) hframe).symm

end

/-! ## Places -/

/-- The epoch is past `epoch`, or it is this one and the record of the policy is in `Q`. -/
def During (policy : AdaptivePolicyId) (epoch : CoordinatorEpoch) (Q : PolicyRecord → Prop)
    (s : State) : Prop :=
  epoch < s.epoch ∨ epoch = s.epoch ∧ ∃ record, s.policies[policy]? = some record ∧ Q record

/-- The policy is at its generations, or past them. -/
abbrev Reached (policy : AdaptivePolicyId) (epoch : CoordinatorEpoch)
    (generation : AdaptivePolicyGeneration) (adaptation : AdaptationGeneration) : State → Prop :=
  During policy epoch (·.AtLeast generation adaptation)

section
variable {config : EngineConfig} {e e' : Engine} {op : Op} {answer : Answer}
  {policy : AdaptivePolicyId} {epoch : CoordinatorEpoch} {Q : PolicyRecord → Prop}
  {generation : AdaptivePolicyGeneration} {adaptation : AdaptationGeneration}

/-- A place is reached where it is left alone. -/
theorem During.start {s s' : State} {record : PolicyRecord} (hstate : s' = s)
    (hrecord : s.policies[policy]? = some record) (hq : Q record) : During policy s.epoch Q s' := by
  rw [hstate]
  exact .inr ⟨rfl, record, hrecord, hq⟩

/-- What every change of the record within the epoch keeps, a step keeps: a recovered store that is
not older ends the epoch. -/
theorem During.step (hd : During policy epoch Q e.state)
    (hop : RecoversFrom config.limits epoch e op)
    (hQ : ∀ record record', e.state.policies[policy]? = some record →
      RecordChange config e op policy record record' → Q record → Q record')
    (h : e.step config op = some (e', answer)) : During policy epoch Q e'.state := by
  cases hrecovers : op.recovers config.limits with
  | some durable =>
    obtain ⟨next, hnext, hepoch⟩ := step_recovers h hrecovers
    refine .inl ?_
    rw [hepoch]
    exact UInt64.lt_of_le_of_lt (hop durable hrecovers) (Generation.lt_next hnext)
  | none =>
    have hgrows : e.state.epoch ≤ e'.state.epoch := (step_grows h hrecovers).epoch
    rcases hd with hlt | ⟨rfl, record, hrecord, hq⟩
    · exact .inl (UInt64.lt_of_lt_of_le hlt hgrows)
    · by_cases hsame : e.state.epoch = e'.state.epoch
      · obtain ⟨record', hrecord', hchange⟩ := step_record h hrecovers hrecord
        exact .inr ⟨hsame, record', hrecord', hQ record record' hrecord hchange hq⟩
      · refine .inl ?_
        rw [Generation.eq_iff_toNat] at hsame
        rw [Generation.le_iff_toNat] at hgrows
        rw [Generation.lt_iff_toNat]
        omega

/-- A place that was reached stays reached in every run whose recovered stores are not older. -/
theorem Reached.run {ok : Engine → Op → Prop}
    (hr : Reached policy epoch generation adaptation e.state)
    (hok : ∀ e op, ok e op → RecoversFrom config.limits epoch e op) (h : RunUnder config ok e e') :
    Reached policy epoch generation adaptation e'.state :=
  h.inv (I := fun e => Reached policy epoch generation adaptation e.state)
    (fun e op _ _ hop hr hstep =>
      hr.step (hok e op hop) (fun _ _ _ hchange hat => hat.trans hchange.forward) hstep) hr

/-- The place a ticket was taken at. -/
def Takes (policy : AdaptivePolicyId) (s : State) (ticket : EvaluationTicket)
    (record : PolicyRecord) : Prop :=
  s.policies[policy]? = some record ∧ ticket.dependencies.policy = policy ∧
    ticket.dependencies.epoch = s.epoch ∧
    ticket.dependencies.policyGeneration = record.policy.generation ∧
    ticket.adaptationGeneration = record.preference.adaptationGeneration

theorem begin_takes {now : Ticks} {request : EvaluateRequest} {ticket : EvaluationTicket}
    (hk : Keyed e.state)
    (h : e.step config (.beginEvaluation now request) = some (e', .ticket ticket))
    (hl : ticket.lifecycle ≠ .rejected) :
    ∃ record, Takes request.policy e.state ticket record := by
  obtain ⟨⟨e₁, issued⟩, hbegin, he⟩ := Option.map_eq_some_iff.1 h
  cases he
  obtain ⟨-, hrefused | ⟨record, registration, _, _, haccepted, hissues⟩⟩ :=
    beginEvaluation_issues hbegin
  · exact absurd hrefused.lifecycle hl
  · refine ⟨record, haccepted.found, ?_, ?_, ?_, hissues.adaptationGeneration⟩
    · rw [hissues.dependencies]
      exact hk request.policy record haccepted.found
    · rw [hissues.dependencies]
      rfl
    · rw [hissues.dependencies]
      rfl

theorem Takes.reached {s : State} {ticket : EvaluationTicket} {record : PolicyRecord}
    (h : Takes policy s ticket record) : Reached policy ticket.dependencies.epoch
      ticket.dependencies.policyGeneration ticket.adaptationGeneration s := by
  obtain ⟨hrecord, -, hepoch, hgeneration, hadaptation⟩ := h
  rw [hgeneration, hadaptation]
  exact .inr ⟨hepoch, record, hrecord, .self record⟩

end

/-! ## Advances -/

/-- The adaptation generation of a policy. -/
def State.adaptationOf (s : State) (policy : AdaptivePolicyId) : Option AdaptationGeneration :=
  s.policies[policy]?.map (·.preference.adaptationGeneration)

/-- A commit that moves the adaptation generation of a policy, and how. -/
structure CommitAdvances (policy : AdaptivePolicyId) (s s' : State) (ticket : EvaluationTicket)
    (record : PolicyRecord) : Prop where
  subject : ticket.dependencies.policy = policy
  found : s.policies[policy]? = some record
  unrejected : ticket.lifecycle ≠ .rejected
  epoch : s.epoch = ticket.dependencies.epoch
  generation : record.policy.generation = ticket.dependencies.policyGeneration
  other : alreadyCurrent record ticket = false
  next : ∃ record', s'.policies[policy]? = some record' ∧ s'.epoch = s.epoch ∧
    record'.policy.generation = record.policy.generation ∧
    record.preference.adaptationGeneration.next = some record'.preference.adaptationGeneration

theorem commit_advances {config : EngineConfig} {e e' : Engine} {now : Ticks}
    {request : CommitDecisionRequest} {answer : Answer} {policy : AdaptivePolicyId}
    (h : e.step config (.commitEvaluation now request) = some (e', answer))
    (hadvances : e'.state.adaptationOf policy ≠ e.state.adaptationOf policy) :
    ∃ record, CommitAdvances policy e.state e'.state request.ticket record := by
  have hstanding := step_standing h rfl
  obtain ⟨⟨e₁, result⟩, hcommit, he⟩ := Option.map_eq_some_iff.1 h
  cases he
  have heffect := commitEvaluation_cases hcommit
  change ∃ record, CommitAdvances policy e.state e₁.state request.ticket record
  change e₁.state.adaptationOf policy ≠ _ at hadvances
  change e₁.state.standing = _ at hstanding
  generalize e₁.state = s' at *
  generalize result.outcome = outcome at heffect
  unfold State.adaptationOf at hadvances
  cases heffect with
  | refused => exact absurd rfl hadvances
  | unverified => exact absurd rfl hadvances
  | unchanged => simp at hadvances
  | @suppressed record id decision checks =>
    obtain ⟨_, haccepted⟩ := State.commitChecks_ok checks
    refine absurd ?_ hadvances
    simp only [State.recordAttempt_policies, State.journal_policies, State.putRecord_policies]
    by_cases hsubject : request.ticket.dependencies.policy = policy
    · subst hsubject
      rw [Std.ExtTreeMap.getElem?_insert_self, haccepted.found]
      rfl
    · rw [get_insert_ne hsubject]
  | @committed record target adaptation transitionGeneration transition id preference checks eligible
      other verified installs =>
    obtain ⟨_, haccepted⟩ := State.commitChecks_ok checks
    simp only [State.recordAttempt_policies, State.journal_policies, State.putRecord_policies]
      at hadvances
    by_cases hsubject : request.ticket.dependencies.policy = policy
    · subst hsubject
      refine ⟨record, rfl, haccepted.found, haccepted.unrejected, haccepted.epoch,
        haccepted.generation, other, State.committedRecord config.limits now record preference
          (e.state.committedDecision now record request.ticket preference), ?_,
        State.epoch_of_standing hstanding, ?_, ?_⟩
      · simp only [State.recordAttempt_policies, State.journal_policies, State.putRecord_policies]
        exact Std.ExtTreeMap.getElem?_insert_self
      · rfl
      · subst installs
        exact (State.verifyCommit_ok verified).2.1
    · rw [get_insert_ne hsubject] at hadvances
      exact absurd rfl hadvances

/-- What the commits of two tickets find, and the recoveries around them: a commit of either finds
the adaptation generation the ticket was taken at, unless its target is the current preference, and
no store of an epoch before the tickets' is recovered. -/
structure Settles (config : EngineConfig) (ticket₁ ticket₂ : EvaluationTicket) (e : Engine)
    (op : Op) : Prop where
  commit : ∀ now request record, op = .commitEvaluation now request →
    request.ticket = ticket₁ ∨ request.ticket = ticket₂ →
    e.state.policies[request.ticket.dependencies.policy]? = some record →
    alreadyCurrent record request.ticket = false →
    record.preference.adaptationGeneration = request.ticket.adaptationGeneration
  recovery₁ : RecoversFrom config.limits ticket₁.dependencies.epoch e op
  recovery₂ : RecoversFrom config.limits ticket₂.dependencies.epoch e op

/-- Two commits that each find the adaptation generation of their ticket, and one generation for
both: they do not both advance it. -/
theorem CommitAdvances.alone {policy : AdaptivePolicyId} {a a' b b' : State}
    {first second : EvaluationTicket} {record₁ record₂ : PolicyRecord}
    (h₁ : CommitAdvances policy a a' first record₁) (h₂ : CommitAdvances policy b b' second record₂)
    (hreached : Reached policy second.dependencies.epoch second.dependencies.policyGeneration
      second.adaptationGeneration a)
    (hrun : ∀ adaptation, Reached policy first.dependencies.epoch
      first.dependencies.policyGeneration adaptation a' → Reached policy first.dependencies.epoch
        first.dependencies.policyGeneration adaptation b)
    (hat : record₁.preference.adaptationGeneration = record₂.preference.adaptationGeneration) :
    False := by
  obtain ⟨record', hrecord', hepoch', hgeneration', hnext⟩ := h₁.next
  have hpast : Reached policy first.dependencies.epoch first.dependencies.policyGeneration
      record'.preference.adaptationGeneration b :=
    hrun _ (.inr ⟨h₁.epoch.symm.trans hepoch'.symm, record', hrecord',
      .inr ⟨h₁.generation.symm.trans hgeneration'.symm, UInt64.le_refl _⟩⟩)
  -- the second ticket's epoch and policy generation are not past those of the first commit
  have hbefore : second.dependencies.epoch < a.epoch ∨ second.dependencies.epoch = a.epoch ∧
      record₁.AtLeast second.dependencies.policyGeneration second.adaptationGeneration := by
    rcases hreached with h | ⟨h, record, hrecord, hat⟩
    · exact .inl h
    · rw [h₁.found] at hrecord
      cases hrecord
      exact .inr ⟨h, hat⟩
  have hafter : first.dependencies.epoch < b.epoch ∨ first.dependencies.epoch = b.epoch ∧
      record₂.AtLeast first.dependencies.policyGeneration
        record'.preference.adaptationGeneration := by
    rcases hpast with h | ⟨h, record, hrecord, hat⟩
    · exact .inl h
    · rw [h₂.found] at hrecord
      cases hrecord
      exact .inr ⟨h, hat⟩
  have hlt := Generation.lt_next hnext
  have hepochs := And.intro h₁.epoch h₂.epoch
  have hgenerations := And.intro h₁.generation h₂.generation
  unfold PolicyRecord.AtLeast at hbefore hafter
  simp only [Generation.lt_iff_toNat, Generation.le_iff_toNat, Generation.eq_iff_toNat] at *
  omega

/-- At most one advance: of two tickets taken at one preference of a policy, whatever runs between
and after, and whatever attempts commit them, no two commits both advance the policy's adaptation
generation, as long as the commits and the recoveries settle. -/
theorem at_most_one_advance {config : EngineConfig} {policy : AdaptivePolicyId}
    {e₁ e₁' e₂ e₂' a a' b b' : Engine} {begun₁ begun₂ now now' : Ticks}
    {request₁ request₂ : EvaluateRequest} {ticket₁ ticket₂ : EvaluationTicket}
    {commit commit' : CommitDecisionRequest} {answer answer' : Answer}
    (hreach₁ : Reachable config e₁) (hreach₂ : Reachable config e₂)
    (htake₁ : e₁.step config (.beginEvaluation begun₁ request₁) = some (e₁', .ticket ticket₁))
    (htake₂ : e₂.step config (.beginEvaluation begun₂ request₂) = some (e₂', .ticket ticket₂))
    (hpolicy₁ : request₁.policy = policy) (hpolicy₂ : request₂.policy = policy)
    (hsame : (e₁.state.policies[policy]?).map (·.preference) =
      (e₂.state.policies[policy]?).map (·.preference))
    (hrun₁ : RunUnder config (Settles config ticket₁ ticket₂) e₁ a)
    (hrun₂ : RunUnder config (Settles config ticket₁ ticket₂) e₂ a)
    (hticket : commit.ticket = ticket₁ ∨ commit.ticket = ticket₂)
    (hsettles : Settles config ticket₁ ticket₂ a (.commitEvaluation now commit))
    (hcommit : a.step config (.commitEvaluation now commit) = some (a', answer))
    (hadvances : a'.state.adaptationOf policy ≠ a.state.adaptationOf policy)
    (hrun : RunUnder config (Settles config ticket₁ ticket₂) a' b)
    (hticket' : commit'.ticket = ticket₁ ∨ commit'.ticket = ticket₂)
    (hsettles' : Settles config ticket₁ ticket₂ b (.commitEvaluation now' commit'))
    (hcommit' : b.step config (.commitEvaluation now' commit') = some (b', answer')) :
    b'.state.adaptationOf policy = b.state.adaptationOf policy := by
  by_contra hadvances'
  obtain ⟨record, h₁⟩ := commit_advances hcommit hadvances
  obtain ⟨record', h₂⟩ := commit_advances hcommit' hadvances'
  subst hpolicy₁
  have htakes₁ := begin_takes (Keyed.reachable hreach₁) htake₁
  have htakes₂ := begin_takes (Keyed.reachable hreach₂) htake₂
  rw [hpolicy₂] at htakes₂
  have hat := hsettles.commit now commit record rfl hticket (h₁.subject ▸ h₁.found) h₁.other
  have hat' := hsettles'.commit now' commit' record' rfl hticket' (h₂.subject ▸ h₂.found) h₂.other
  -- both tickets carry the adaptation generation of the one preference
  have hone (hl₁ : ticket₁.lifecycle ≠ .rejected) (hl₂ : ticket₂.lifecycle ≠ .rejected) :
      ticket₁.adaptationGeneration = ticket₂.adaptationGeneration := by
    obtain ⟨taken₁, hfound₁, -, -, -, ha₁⟩ := htakes₁ hl₁
    obtain ⟨taken₂, hfound₂, -, -, -, ha₂⟩ := htakes₂ hl₂
    rw [hfound₁, hfound₂] at hsame
    rw [ha₁, ha₂]
    exact congrArg RoutingPreference.adaptationGeneration (Option.some.inj hsame)
  have hboth : commit.ticket.adaptationGeneration = commit'.ticket.adaptationGeneration := by
    have hl := h₁.unrejected
    have hl' := h₂.unrejected
    rcases hticket with h | h <;> rcases hticket' with h' | h' <;> rw [h] at hl ⊢ <;>
      rw [h'] at hl' ⊢
    · exact hone hl hl'
    · exact (hone hl' hl).symm
  refine h₁.alone h₂ ?_ (fun adaptation hr => hr.run (fun e op hop => ?_) hrun)
    (hat.trans (hboth.trans hat'.symm))
  · rcases hticket' with h | h
    · obtain ⟨taken, ht⟩ := htakes₁ (h ▸ h₂.unrejected)
      exact h ▸ ht.reached.run (fun _ _ hop => hop.recovery₁) hrun₁
    · obtain ⟨taken, ht⟩ := htakes₂ (h ▸ h₂.unrejected)
      exact h ▸ ht.reached.run (fun _ _ hop => hop.recovery₂) hrun₂
  · rcases hticket with h | h
    · exact h ▸ hop.recovery₁
    · exact h ▸ hop.recovery₂

namespace Scenario

def phaseOne (attempt : String) : Op := .beginEvaluation 3 (evaluation attempt)

def phaseTwo (ticket : EvaluationTicket) (attempt : String) : CommitDecisionRequest :=
  { ticket, context := context 1 attempt }

/-- Two tickets to the right path, taken at the same preference. -/
def taken : List Op := challenged ++ [phaseOne "one", phaseOne "two"]

def firstTicket : EvaluationTicket := ticketAfter challenged (phaseOne "one")

def secondTicket : EvaluationTicket := ticketAfter (challenged ++ [phaseOne "one"]) (phaseOne "two")

def commitFirst : Op := .commitEvaluation 4 (phaseTwo firstTicket "commit-one")

def commitSecond : Op := .commitEvaluation 6 (phaseTwo secondTicket "commit-two")

def restore : Op := .rollback 5 { policy, context := context 1 "restore" }

/-- The adaptation generation after a list of operations. -/
def adaptationAfter (ops : List Op) : Option AdaptationGeneration :=
  (after ops).state.adaptationOf policy

/-- A commit after the list settles: its target is current, or its generation is. -/
def settles (ops : List Op) (ticket : EvaluationTicket) : Bool :=
  ((after ops).state.policies[ticket.dependencies.policy]?).all fun record =>
    alreadyCurrent record ticket ||
      record.preference.adaptationGeneration == ticket.adaptationGeneration

theorem settles_commit {ops : List Op} {now : Ticks} {request : CommitDecisionRequest}
    (h : settles ops request.ticket = true) :
    Settles config firstTicket secondTicket (after ops) (.commitEvaluation now request) where
  commit := by
    rintro _ _ record ⟨⟩ - hrecord hother
    rw [settles, hrecord, Option.all_some, hother, Bool.false_or] at h
    exact eq_of_beq h
  recovery₁ := fun _ h => by cases h
  recovery₂ := fun _ h => by cases h

theorem settles_phaseOne (e : Engine) (attempt : String) :
    Settles config firstTicket secondTicket e (phaseOne attempt) where
  commit := fun _ _ _ h => by cases h
  recovery₁ := fun _ h => by cases h
  recovery₂ := fun _ h => by cases h

theorem take_first : (after challenged).step config (phaseOne "one") =
    some (after (challenged ++ [phaseOne "one"]), .ticket firstTicket) :=
  step_ticket (by decide +kernel) (by decide +kernel)

theorem take_second : (after (challenged ++ [phaseOne "one"])).step config (phaseOne "two") =
    some (after taken, .ticket secondTicket) :=
  step_ticket (by decide +kernel) (by decide +kernel)

end Scenario

open Scenario in
/-- Right after the first ticket's commit, the second ticket's does not advance. -/
theorem second_ticket_does_not_advance :
    adaptationAfter (taken ++ [commitFirst, commitSecond]) =
      adaptationAfter (taken ++ [commitFirst]) := by
  obtain ⟨_, hfirst⟩ := step_after taken commitFirst (by decide +kernel)
  obtain ⟨_, hsecond⟩ := step_after (taken ++ [commitFirst]) commitSecond (by decide +kernel)
  have hrun := Runs.Run.single (settles_phaseOne _ "two") take_second
  exact at_most_one_advance (reachable_after (by decide +kernel)) (reachable_after (by decide +kernel))
    take_first take_second rfl rfl (by decide +kernel)
    ((Runs.Run.single (settles_phaseOne _ "one") take_first).trans hrun) hrun
    (.inl rfl) (settles_commit (by decide +kernel)) hfirst (by decide +kernel) (.refl _)
    (.inr rfl) (settles_commit (by decide +kernel)) hsecond

open Scenario in
/-- A rollback between the two commits lets both advance. -/
theorem rollback_lets_both_advance :
    Engine.Reachable config (after challenged) ∧
      (after challenged).step config (phaseOne "one") =
        some (after (challenged ++ [phaseOne "one"]), .ticket firstTicket) ∧
      (after (challenged ++ [phaseOne "one"])).step config (phaseOne "two") =
        some (after taken, .ticket secondTicket) ∧
      ((after challenged).state.policies[policy]?).map (·.preference) =
        ((after (challenged ++ [phaseOne "one"])).state.policies[policy]?).map (·.preference) ∧
      Engine.Run config (after taken) (after (taken ++ [commitFirst, restore, commitSecond])) ∧
      adaptationAfter (taken ++ [commitFirst]) ≠ adaptationAfter taken ∧
      adaptationAfter (taken ++ [commitFirst, restore, commitSecond]) ≠
        adaptationAfter (taken ++ [commitFirst, restore]) :=
  ⟨reachable_after (by decide +kernel), take_first, take_second, by decide +kernel,
    run_after taken [commitFirst, restore, commitSecond] (by decide +kernel), by decide +kernel,
    by decide +kernel⟩

end AdaptiveRouting
