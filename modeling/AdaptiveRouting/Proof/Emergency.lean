import AdaptiveRouting.Proof.Ranked
import AdaptiveRouting.Proof.Verdict

/-!
# Leaving a failed path

An emergency adapts to the best eligible candidate, past every gate. A path that is unavailable or not
authorized is not eligible, so it is neither kept nor entered. A hard failure does not make a candidate
ineligible: the failed path may itself be the best, and then nothing happens, or the best may have
failed as well. So an emergency leads to a sound candidate exactly when it is not a hard failure that
triggers it, or a sound candidate leads the others (`emergency_escapes_iff`).
-/

namespace AdaptiveRouting

open Guard Engine

namespace EvaluationInputs

section
variable (inputs : EvaluationInputs)

/-- An eligible candidate that ranks ahead of every other eligible one. -/
structure Leads (candidate : CandidateRecord) : Prop where
  eligible : (inputs.evaluateCandidate candidate).eligible = true
  ahead : ∀ other ∈ inputs.candidates, (inputs.evaluateCandidate other).eligible = true →
    other.binding.path = candidate.binding.path ∨
      ranksAhead inputs.policy.semantics (inputs.evaluateCandidate candidate)
        (inputs.evaluateCandidate other) = true

/-- The ticket leads from the preferred path to an eligible candidate in no condition that triggers
an emergency. -/
def Escapes (ticket : EvaluationTicket) : Prop :=
  ticket.lifecycle = .eligible ∧ ∃ candidate ∈ inputs.candidates,
    candidate.binding.path = ticket.targetPreference ∧
    (inputs.evaluateCandidate candidate).eligible = true ∧
    candidate.binding.path ≠ inputs.preference.preferredPath ∧
    ∀ condition, inputs.Triggers condition → condition.afflicts candidate.binding = false

end

section
variable {inputs : EvaluationInputs}

/-- An eligible candidate can be used: only a hard failure may afflict it. -/
theorem eligible_unafflicted {candidate : CandidateRecord}
    (h : (inputs.evaluateCandidate candidate).eligible = true) {condition : EmergencyCondition}
    (hcondition : condition ≠ .hardFailure) : condition.afflicts candidate.binding = false := by
  have hupstream := inputs.evaluateCandidate_eligible h
  unfold upstreamRejection at hupstream
  cases hlegal : candidate.binding.pathAuthority.legal with
  | false => simp [hlegal] at hupstream
  | true =>
    cases havailable : candidate.binding.available with
    | false =>
      cases hcurrent : candidate.binding.route.current <;>
        simp [hlegal, havailable, hcurrent] at hupstream
    | true =>
      cases condition with
      | hardFailure => exact absurd rfl hcondition
      | unavailable => simp [EmergencyCondition.afflicts, havailable]
      | unauthorized => simp [EmergencyCondition.afflicts, hlegal]

/-- In an emergency the verdict asks for another path than the preferred one only. -/
theorem verdict_iff {condition : EmergencyCondition} (h : inputs.Triggers condition) {path : PathId} :
    inputs.Verdict path ↔ path ≠ inputs.preference.preferredPath := by
  constructor
  · intro hverdict
    cases hverdict with
    | first hfirst => simp [h.established] at hfirst
    | emergency _ hother => exact hother
    | ordinary _ hother => exact hother
  · exact fun hother => .emergency h.established hother ⟨condition, h⟩

end

end EvaluationInputs

section
variable {s : State} {record : PolicyRecord} {now : Ticks} {id : EvidenceSnapshotId}

/-- The top of the ranking is the candidate that leads. -/
theorem topRanked_iff (hdistinct : record.paths.Nodup) {candidate : CandidateRecord}
    (hmem : candidate ∈ record.candidates) :
    (s.copyInputs now id record).topRanked =
        some ((s.copyInputs now id record).evaluateCandidate candidate) ↔
      (s.copyInputs now id record).Leads candidate := by
  have htrans : Std.TransCmp (rankOrder record.policy.semantics) :=
    inferInstanceAs (Std.TransCmp (compareLex _ _))
  obtain ⟨hdecides, hnodup⟩ := @evaluations_decide s record now id hdistinct
  refine (hdecides.find?_ranked_iff hnodup).trans ⟨fun h => ?_, fun h => ?_⟩
  · obtain ⟨-, heligible, hahead⟩ := h
    refine ⟨heligible, fun other hother hothers => ?_⟩
    rcases hahead _ (List.mem_map_of_mem hother) hothers with heq | hlt
    · left
      rw [← EvaluationInputs.evaluateCandidate_path _ other, heq,
        EvaluationInputs.evaluateCandidate_path]
    · exact .inr hlt
  · refine ⟨List.mem_map_of_mem hmem, h.eligible, fun e he hothers => ?_⟩
    obtain ⟨other, hother, rfl⟩ := List.mem_map.1 he
    rcases h.ahead other hother hothers with heq | hlt
    · left
      rw [List.inj_on_of_nodup_map hdistinct hother hmem heq]
    · exact .inr hlt

/-- Some candidate leads when one is eligible. -/
theorem exists_leads (hdistinct : record.paths.Nodup) {candidate : CandidateRecord}
    (hmem : candidate ∈ record.candidates)
    (heligible : ((s.copyInputs now id record).evaluateCandidate candidate).eligible = true) :
    ∃ best ∈ record.candidates, (s.copyInputs now id record).Leads best := by
  cases htop : (s.copyInputs now id record).topRanked with
  | none =>
    have hin : (s.copyInputs now id record).evaluateCandidate candidate ∈
        (s.copyInputs now id record).rank := by
      unfold EvaluationInputs.rank
      rw [List.mem_insertionSort]
      exact List.mem_map_of_mem hmem
    exact absurd heligible (List.find?_eq_none.1 htop _ hin)
  | some e =>
    obtain ⟨best, hbest, rfl⟩ := EvaluationInputs.mem_rank _ (List.mem_of_find?_eq_some htop)
    exact ⟨best, hbest, (topRanked_iff hdistinct hbest).1 htop⟩

/-- In an emergency with an eligible alternative the ticket leads to a sound candidate exactly when no
hard failure triggers the emergency, or a candidate without one, other than the preferred path, leads
the eligible ones. -/
theorem emergency_escapes_iff (hdistinct : record.paths.Nodup)
    (htriggers : ∃ condition, (s.copyInputs now id record).Triggers condition)
    (hother : ∃ candidate ∈ record.candidates,
      candidate.binding.path ≠ record.preference.preferredPath ∧
        ((s.copyInputs now id record).evaluateCandidate candidate).eligible = true)
    (dependencies : DependencySnapshot) :
    (s.copyInputs now id record).Escapes ((s.copyInputs now id record).evaluate dependencies) ↔
      ((s.copyInputs now id record).Triggers .hardFailure → ∃ candidate ∈ record.candidates,
        (s.copyInputs now id record).Leads candidate ∧
        candidate.binding.path ≠ record.preference.preferredPath ∧
        candidate.binding.hardFailure = false) := by
  obtain ⟨condition, htriggers⟩ := htriggers
  obtain ⟨alternative, hin, -, heligible⟩ := hother
  obtain ⟨best, hbest, hleads⟩ := exists_leads hdistinct hin heligible
  have htop := (topRanked_iff hdistinct hbest).2 hleads
  obtain ⟨hverdict, htarget⟩ := EvaluationInputs.evaluate_eligible_iff
    (show ((s.copyInputs now id record).candidates.map (·.binding.path)).Nodup from hdistinct)
    dependencies
  have hpath := EvaluationInputs.evaluateCandidate_path (s.copyInputs now id record) best
  constructor
  · intro h hfailed
    obtain ⟨hlifecycle, candidate, hmem, haims, -, hleft, hsound⟩ := h
    have hsame : candidate = best := List.inj_on_of_nodup_map hdistinct hmem hbest
      (haims.trans ((htarget hlifecycle _ htop).trans hpath))
    subst hsame
    exact ⟨candidate, hmem, hleads, hleft, hsound .hardFailure hfailed⟩
  · intro h
    have hsound : best.binding.path ≠ record.preference.preferredPath ∧
        ∀ condition, (s.copyInputs now id record).Triggers condition →
          condition.afflicts best.binding = false := by
      by_cases hfailed : (s.copyInputs now id record).Triggers .hardFailure
      · obtain ⟨candidate, hmem, hleads', hleft, hunfailed⟩ := h hfailed
        have hsame : candidate = best := by
          have heq := htop.symm.trans ((topRanked_iff hdistinct hmem).2 hleads')
          refine List.inj_on_of_nodup_map hdistinct hmem hbest ?_
          rw [← EvaluationInputs.evaluateCandidate_path (s.copyInputs now id record) candidate,
            ← Option.some.inj heq, hpath]
        subst hsame
        refine ⟨hleft, fun other _ => ?_⟩
        by_cases hkind : other = .hardFailure
        · rw [hkind]
          exact hunfailed
        · exact EvaluationInputs.eligible_unafflicted hleads.eligible hkind
      · have hkind {other : EmergencyCondition} (ht : (s.copyInputs now id record).Triggers other) :
            other ≠ .hardFailure := fun hc => hfailed (hc ▸ ht)
        refine ⟨fun hpreferred => ?_, fun other ht =>
          EvaluationInputs.eligible_unafflicted hleads.eligible (hkind ht)⟩
        have hunafflicted := EvaluationInputs.eligible_unafflicted hleads.eligible (hkind htriggers)
        have hafflicted := htriggers.afflicted
        cases condition with
        | hardFailure => exact hkind htriggers rfl
        | unavailable =>
          rw [hafflicted best hbest hpreferred] at hunafflicted
          cases hunafflicted
        | unauthorized =>
          rw [hafflicted best hbest hpreferred] at hunafflicted
          cases hunafflicted
    have hlifecycle := hverdict.2 ⟨_, htop,
      (EvaluationInputs.verdict_iff htriggers).2 (by rw [hpath]; exact hsound.1)⟩
    exact ⟨hlifecycle, best, hbest, ((htarget hlifecycle _ htop).trans hpath).symm, hleads.eligible,
      hsound⟩

end

namespace Scenario

def vigilant : CreatePolicyRequest :=
  { create 1 with semantics :=
    { semantics with emergency := { enabled := true, onHardFailureSignal := true } } }

/-- The left path is preferred, with a latency of 100; the right one gets a latency, and then the left
one signals a hard failure. -/
def signalled (value : Int) : List Op :=
  [register, .createPolicy 0 vigilant, activate, notify (declare left) "left",
    publish left 100 "left-evidence", .evaluate 2 2 (evaluation "establish"),
    notify (declare right) "right", publish right value "right-evidence",
    notify { declare left with event := .hardFailureSignal } "failure"]

/-- The candidates of the policy are the left path, which failed and is preferred, and the right
one. -/
def failed (record : PolicyRecord) : Bool :=
  record.candidates.map (fun c => (c.binding.path, c.binding.hardFailure)) ==
      [(left, true), (right, false)] &&
    record.preference.established && record.preference.preferredPath == left &&
    record.policy.semantics.emergency.enabled &&
    record.policy.semantics.emergency.onHardFailureSignal

theorem failed_triggers {s : State} {now : Ticks} {id : EvidenceSnapshotId} {record : PolicyRecord}
    (h : failed record = true) :
    record.paths = [left, right] ∧ record.preference.preferredPath = left ∧
      (s.copyInputs now id record).Triggers .hardFailure := by
  simp only [failed, Bool.and_eq_true, beq_iff_eq] at h
  obtain ⟨⟨⟨⟨hcandidates, hestablished⟩, hleft⟩, henabled⟩, hreacts⟩ := h
  have hpaths : record.paths = [left, right] := by
    have h := congrArg (List.map Prod.fst) hcandidates
    rwa [List.map_map] at h
  refine ⟨hpaths, hleft, hestablished, henabled, hreacts, ?_⟩
  have hin : (left, true) ∈ record.candidates.map fun c => (c.binding.path, c.binding.hardFailure) := by
    rw [hcandidates]
    exact List.mem_cons_self
  obtain ⟨c, hmem, hc⟩ := List.mem_map.1 hin
  exact ⟨c, hmem, (congrArg Prod.fst hc).trans hleft.symm, congrArg Prod.snd hc⟩

end Scenario

open Scenario in
/-- The better right path is where the emergency leads. -/
theorem failed_path_escaped :
    ∃ record, (after (signalled 50)).state.policies[policy]? = some record ∧
      ∀ dependencies, ((after (signalled 50)).state.copyInputs 3 default record).Escapes
        (((after (signalled 50)).state.copyInputs 3 default record).evaluate dependencies) := by
  obtain ⟨record, hrecord, htest⟩ : ∃ record,
      (after (signalled 50)).state.policies[policy]? = some record ∧
        (let inputs := (after (signalled 50)).state.copyInputs 3 default record
        failed record && record.candidates.any fun c => c.binding.path == right &&
          !c.binding.hardFailure && inputs.topRanked == some (inputs.evaluateCandidate c)) = true :=
    (Option.any_eq_true _ _).1 (by decide +kernel)
  obtain ⟨hfailed, hright⟩ := Bool.and_eq_true_iff.1 htest
  obtain ⟨c, hmem, hright⟩ := List.any_eq_true.1 hright
  simp only [Bool.and_eq_true, beq_iff_eq, Bool.not_eq_true'] at hright
  obtain ⟨⟨hpath, hsound⟩, htop⟩ := hright
  obtain ⟨hpaths, hleft, htriggers⟩ := failed_triggers (s := (after (signalled 50)).state) hfailed
  have hdistinct : record.paths.Nodup := by
    rw [hpaths]
    decide +kernel
  have hother : c.binding.path ≠ record.preference.preferredPath := by
    rw [hpath, hleft]
    decide +kernel
  have hleads := (topRanked_iff hdistinct hmem).1 htop
  exact ⟨record, hrecord, fun dependencies =>
    (emergency_escapes_iff hdistinct ⟨_, htriggers⟩ ⟨c, hmem, hother, hleads.eligible⟩
      dependencies).2 fun _ => ⟨c, hmem, hleads, hother, hsound⟩⟩

open Scenario in
/-- A failed path that is still the best one is kept, though the right path is eligible. -/
theorem failed_path_kept :
    Engine.Reachable config (after (signalled 150)) ∧
    ∃ record, (after (signalled 150)).state.policies[policy]? = some record ∧
      let inputs := (after (signalled 150)).state.copyInputs 3 default record
      inputs.Triggers .hardFailure ∧
      (∃ candidate ∈ record.candidates,
        candidate.binding.path ≠ record.preference.preferredPath ∧
          (inputs.evaluateCandidate candidate).eligible = true) ∧
      ∀ dependencies, ((inputs.evaluate dependencies).suppression = .meritNotEstablished) ∧
        ¬ inputs.Escapes (inputs.evaluate dependencies) := by
  obtain ⟨record, hrecord, htest⟩ : ∃ record,
      (after (signalled 150)).state.policies[policy]? = some record ∧
        (let inputs := (after (signalled 150)).state.copyInputs 3 default record
        failed record && (record.candidates.any fun c => c.binding.path == right &&
          (inputs.evaluateCandidate c).eligible) &&
          inputs.topRanked.map (·.path) == some left) = true :=
    (Option.any_eq_true _ _).1 (by decide +kernel)
  simp only [Bool.and_eq_true, beq_iff_eq] at htest
  obtain ⟨⟨hfailed, hright⟩, htop⟩ := htest
  obtain ⟨c, hmem, hright⟩ := List.any_eq_true.1 hright
  simp only [Bool.and_eq_true, beq_iff_eq] at hright
  obtain ⟨hpaths, hleft, htriggers⟩ := failed_triggers (s := (after (signalled 150)).state) hfailed
  have hdistinct : record.paths.Nodup := by
    rw [hpaths]
    decide +kernel
  refine ⟨reachable_after (by decide +kernel), record, hrecord, htriggers,
    ⟨c, hmem, ?_, hright.2⟩, fun dependencies => ?_⟩
  · rw [hright.1, hleft]
    decide +kernel
  · obtain ⟨best, hbest, hbestLeft⟩ := Option.map_eq_some_iff.1 htop
    have hestablished := htriggers.established
    obtain ⟨hlifecycle, hsuppression, -⟩ := EvaluationInputs.evaluate_preferred hestablished hbest
      (hbestLeft.trans hleft.symm) dependencies
    refine ⟨hsuppression, fun hescapes => ?_⟩
    rw [hescapes.1] at hlifecycle
    cases hlifecycle

end AdaptiveRouting
