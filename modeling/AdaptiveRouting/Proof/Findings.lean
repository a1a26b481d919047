import AdaptiveRouting.Proof.Churn
import AdaptiveRouting.Proof.Currentness
import AdaptiveRouting.Proof.Decisions

/-!
# What a decision says it was based on

A decision names an evidence generation, two watermarks and a ranking (`Findings`). A commit takes all
four from its ticket; a suppressed evaluation takes the ranking from the ticket and the rest from the
state it is recorded in (`concludes_findings_iff`). In a run whose commits present tickets of the run,
and suppressed ones before anything they name has moved, every recorded decision has what one phase
one of the run found (`findings_of_run`).
-/

namespace AdaptiveRouting

open Guard Engine

/-- What an evaluation is based on and ranks. -/
structure Findings where
  evidenceGeneration : EvidenceGeneration
  evidenceWatermark : Watermark
  upstreamWatermark : Watermark
  ranking : List CandidateEvaluation

def AdaptationDecision.findings (decision : AdaptationDecision) : Findings where
  evidenceGeneration := decision.evidenceGeneration
  evidenceWatermark := decision.evidenceWatermark
  upstreamWatermark := decision.upstreamWatermark
  ranking := decision.ranking

def EvaluationTicket.findings (ticket : EvaluationTicket) : Findings where
  evidenceGeneration := ticket.dependencies.evidenceGeneration
  evidenceWatermark := ticket.dependencies.evidenceWatermark
  upstreamWatermark := ticket.dependencies.upstreamWatermark
  ranking := ticket.ranking

/-- What `evaluate_inputs` finds of a policy in a state. -/
def State.findings (s : State) (now : Ticks) (id : EvidenceSnapshotId) (record : PolicyRecord) :
    Findings where
  evidenceGeneration := s.evidenceGeneration
  evidenceWatermark := s.evidenceWatermark
  upstreamWatermark := s.upstreamWatermark
  ranking := (s.copyInputs now id record).rank

/-! ## Phase one -/

/-- The instant and the request of the phase one an operation starts with. -/
def Op.begins : Op → Option (Ticks × EvaluateRequest)
  | .beginEvaluation now request => some (now, request)
  | .evaluate begun _ request => some (begun, request)
  | _ => none

/-- A phase one among the calls found this. -/
def Found (limits : Limits) (calls : List (Runs.Call Engine Op Answer)) (findings : Findings) : Prop :=
  ∃ call ∈ calls, ∃ now request record id, call.label.begins = some (now, request) ∧
    beginChecks limits call.pre request = .ok record ∧
    findings = call.pre.state.findings now id record

section
variable {limits : Limits} {e e' : Engine} {now : Ticks}

theorem beginEvaluation_findings {request : EvaluateRequest} {ticket : EvaluationTicket}
    (h : beginEvaluation limits e now request = some (e', ticket))
    (haccepted : ticket.lifecycle ≠ .rejected) :
    ∃ record id, beginChecks limits e request = .ok record ∧
      ticket.findings = e.state.findings now id record := by
  obtain ⟨-, hrefused | ⟨record, evaluation, evidence, decision, hchecks, rfl⟩⟩ :=
    beginEvaluation_cases h
  · exact absurd (beginChecks_refuses limits e request _ hrefused).lifecycle haccepted
  · have hdependencies := ((e.state.copyInputs now evidence record).evaluate_issues
      (e.state.buildDependencies now record evaluation)).dependencies
    refine ⟨record, evidence, hchecks, ?_⟩
    unfold EvaluationTicket.findings
    dsimp only
    rw [hdependencies, EvaluationInputs.evaluate_ranking]
    rfl

/-! ## Phase two -/

/-- Everything a suppressed decision takes from the state is as the ticket has it. -/
def EvaluationTicket.Lasts (ticket : EvaluationTicket) (s : State) : Prop :=
  s.evidenceGeneration = ticket.dependencies.evidenceGeneration ∧
    s.evidenceWatermark = ticket.dependencies.evidenceWatermark ∧
    s.upstreamWatermark = ticket.dependencies.upstreamWatermark

/-- A decision has the findings of its ticket exactly when the ticket is eligible, or nothing the
ticket names has moved. -/
theorem concludes_findings_iff {request : CommitDecisionRequest} {record record' : PolicyRecord}
    {decision : AdaptationDecision} (h : Concludes limits e now request record record' decision) :
    decision.findings = request.ticket.findings ↔
      request.ticket.lifecycle = .eligible ∨ request.ticket.Lasts e.state := by
  cases h with
  | suppressed checks ineligible identity decides =>
    subst decides
    rw [or_iff_right ineligible]
    unfold AdaptationDecision.findings EvaluationTicket.findings EvaluationTicket.Lasts
    simp [State.suppressedDecision]
  | committed checks eligible => exact ⟨fun _ => .inl eligible, fun _ => rfl⟩

end

/-! ## Runs -/

/-- The operations that record an evaluation. -/
def Op.concludes : Op → Bool
  | .commitEvaluation .. | .evaluate .. => true
  | _ => false

/-- A commit that records a decision presents what a phase one of the run found, and an ineligible
ticket only while it lasts. -/
def Prompt (limits : Limits) (calls : List (Runs.Call Engine Op Answer)) (e : Engine) : Op → Prop
  | .commitEvaluation now request => ∀ record record' decision,
      Concludes limits e now request record record' decision →
        Found limits calls request.ticket.findings ∧
          (request.ticket.lifecycle ≠ .eligible → request.ticket.Lasts e.state)
  | _ => True

theorem Found.mono {limits : Limits} {calls more : List (Runs.Call Engine Op Answer)}
    {findings : Findings} (h : Found limits calls findings) (hsub : calls ⊆ more) :
    Found limits more findings := by
  obtain ⟨call, hmem, hfound⟩ := h
  exact ⟨call, hsub hmem, hfound⟩

/-- Every decision a prompt run records has what one phase one of the run found. -/
theorem findings_of_run {config : EngineConfig} {e₀ e : Engine}
    {calls : List (Runs.Call Engine Op Answer)}
    (htrace : Runs.Trace (Engine.step config) (Prompt config.limits) e₀ calls e)
    {before after : List (Runs.Call Engine Op Answer)} {call : Runs.Call Engine Op Answer}
    (hcalls : calls = before ++ call :: after) (hcall : call.label.concludes = true) :
    Recording config.limits call.pre call.post fun _ _ _ decision =>
      Found config.limits (before ++ [call]) decision.findings := by
  obtain ⟨hprompt, hstep⟩ := htrace.split hcalls
  obtain ⟨pre, label, reply, post⟩ := call
  dsimp only at hprompt hstep hcall ⊢
  have hdecides : label.decides = true := by
    cases label <;> first | rfl | cases hcall
  refine (step_decides hstep hdecides).mono fun policy record record' decision hdecides => ?_
  obtain ⟨now, hdecides⟩ := hdecides
  cases hdecides with
  | commit concludes =>
    obtain ⟨hfound, hlasts⟩ := hprompt _ _ _ concludes
    have hsame := (concludes_findings_iff concludes).2 (or_iff_not_imp_left.2 hlasts)
    rw [hsame]
    exact hfound.mono (List.subset_append_left ..)
  | @evaluate begun now request e₁ ticket _ _ _ begins concludes =>
    have hstate := (beginEvaluation_cases begins).1
    have haccepted : ticket.lifecycle ≠ .rejected := by
      cases concludes with
      | suppressed checks | committed checks =>
        obtain ⟨_, haccepted⟩ := State.commitChecks_ok checks
        exact haccepted.unrejected
    obtain ⟨record, id, hchecks, hfindings⟩ := beginEvaluation_findings begins haccepted
    have hlasts : ticket.Lasts e₁.state := by
      rw [hstate]
      have hfields := hfindings
      simp only [EvaluationTicket.findings, State.findings, Findings.mk.injEq] at hfields
      exact ⟨hfields.1.symm, hfields.2.1.symm, hfields.2.2.1.symm⟩
    have hsame := (concludes_findings_iff concludes).2 (.inr hlasts)
    rw [hsame]
    exact ⟨⟨pre, .evaluate begun now request, reply, post⟩, by simp, begun, request, record, id, rfl,
      hchecks, hfindings⟩
  | rollback => cases hcall

namespace Scenario

/-- Phase one of an evaluation that keeps the left path. -/
def looks : Op := .beginEvaluation 3 (evaluation "look")

def looked : List Op := Scenario.settled ++ [looks]

def seen : EvaluationTicket := ticketAfter Scenario.settled looks

def concludesSeen : Op := .commitEvaluation 4 { ticket := seen, context := context 1 "conclude" }

/-- Another sample of the left path arrives between the phases. -/
def refreshed : List Op := looked ++ [.publishEvidence (fun _ => 3) {
  publications := [{ source := name "source", sourceGeneration := ⟨1⟩, path := left,
                     value := latency 300, observationSequence := 2 }]
  context := context 1 "left-again" }]

theorem refreshed_unfound {findings : Findings}
    (h : ((callsTo (refreshed ++ [concludesSeen])).all fun call => call.label.begins.isNone ||
      call.pre.state.evidenceGeneration != findings.evidenceGeneration) = true) :
    ¬ Found config.limits (callsTo (refreshed ++ [concludesSeen])) findings := by
  rintro ⟨call, hmem, now, request, record, id, hbegins, -, rfl⟩
  have hother := List.all_eq_true.1 h call hmem
  simp [hbegins, State.findings] at hother

end Scenario

open Scenario in
/-- A suppressed evaluation recorded before anything it names moves. -/
theorem seen_in_time : ∃ calls e,
    Runs.Trace (Engine.step config) (Prompt config.limits) engine calls e ∧
    ∃ before call, calls = before ++ [call] ∧ call.label = concludesSeen ∧
      Recording config.limits call.pre call.post fun _ _ _ decision =>
        Found config.limits (before ++ [call]) decision.findings := by
  have hsettled : Runs.Trace (Engine.step config) (Prompt config.limits) engine
      (callsTo Scenario.settled) (after Scenario.settled) := by
    refine Runs.Trace.callsOf .start
      (runAll_after (by decide +kernel : returns Scenario.settled = true)) fun front call back heq => ?_
    have hmem : call ∈ callsTo Scenario.settled := by
      unfold callsTo
      rw [heq]
      exact List.mem_append_right _ List.mem_cons_self
    have hplain := List.all_eq_true.1 (by decide +kernel : ((callsTo Scenario.settled).all
      fun call => !(call.label matches .commitEvaluation ..)) = true) call hmem
    unfold Prompt
    split
    · rename_i hlabel
      simp [hlabel] at hplain
    · trivial
  have hlook : (after Scenario.settled).step config looks = some (after looked, .ticket seen) :=
    step_ticket (by decide +kernel) (by decide +kernel)
  have hlooked := hsettled.call (i := looks) trivial hlook
  change (beginEvaluation config.limits (after Scenario.settled) 3 (evaluation "look")).map
    (Prod.map id Answer.ticket) = _ at hlook
  obtain ⟨⟨e₁, ticket⟩, hbegin, hanswer⟩ := Option.map_eq_some_iff.1 hlook
  cases hanswer
  obtain ⟨record, id, hchecks, hfindings⟩ := beginEvaluation_findings hbegin (by decide +kernel)
  obtain ⟨answer, hstep⟩ := step_after looked concludesSeen (by decide +kernel)
  have hlasts : seen.Lasts (after looked).state := by
    unfold EvaluationTicket.Lasts
    decide +kernel
  have htrace := hlooked.call (i := concludesSeen) (fun _ _ _ _ => ⟨⟨_, List.mem_append_right _
    List.mem_cons_self, 3, _, record, id, rfl, hchecks, hfindings⟩, fun _ => hlasts⟩) hstep
  exact ⟨_, _, htrace, _, _, rfl, rfl, findings_of_run htrace rfl rfl⟩

open Scenario in
/-- The ranking was computed before the sample arrived that the recorded generation has. -/
theorem generation_of_another_moment : ∃ decision,
    (after (refreshed ++ [concludesSeen])).state.decisionJournal =
      (after refreshed).state.decisionJournal ++ [decision] ∧ decision.ranking = seen.ranking ∧
    ¬ Found config.limits (callsTo (refreshed ++ [concludesSeen])) decision.findings := by
  obtain ⟨decision, hlast, htest⟩ : ∃ decision,
      (after (refreshed ++ [concludesSeen])).state.decisionJournal.getLast? = some decision ∧
      ((after (refreshed ++ [concludesSeen])).state.decisionJournal ==
          (after refreshed).state.decisionJournal ++ [decision] && decision.ranking == seen.ranking &&
        (callsTo (refreshed ++ [concludesSeen])).all fun call => call.label.begins.isNone ||
          call.pre.state.evidenceGeneration != decision.findings.evidenceGeneration) = true :=
    (Option.any_eq_true _ _).1 (by decide +kernel)
  simp only [Bool.and_eq_true, beq_iff_eq] at htest
  exact ⟨decision, htest.1.1, htest.1.2, refreshed_unfound htest.2⟩

end AdaptiveRouting
