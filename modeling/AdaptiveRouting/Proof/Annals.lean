import AdaptiveRouting.Lib.Chronicle
import AdaptiveRouting.Proof.Decisions
import AdaptiveRouting.Proof.Generations

/-!
# Histories

The history of a policy tells how its preference came about (`historyRules`): every commit and every
rollback leaves the path the one before it led to, under the next generation, and the last one led to
the preference the policy has. An update to another target starts the preference over, so the law is
about what was recorded since: along a `Lineage`, which may go through stores and other engines, the
entries recorded form a chronicle of the preference (`history_faithful`).
-/

namespace AdaptiveRouting

open Guard Engine

/-- The entry installed a preference. -/
def AdaptationRecord.installs (entry : AdaptationRecord) : Prop :=
  entry.lifecycle = .committed ∨ entry.lifecycle = .rolledBack

def historyRules : Chronicle.Rules AdaptationRecord RoutingPreference where
  marks entry := entry.installs
  follows entry next :=
    next.adaptationGeneration.value.toNat = entry.adaptationGeneration.value.toNat + 1 ∧
      next.fromPath = entry.toPath
  belongs entry other :=
    other.lifecycle = .suppressed ∧ other.adaptationGeneration = entry.adaptationGeneration
  tells entry preference := preference.established = true ∧
    entry.toPath = preference.preferredPath ∧
    entry.adaptationGeneration = preference.adaptationGeneration

def State.historyOf (s : State) (policy : AdaptivePolicyId) : List AdaptationRecord :=
  (s.policies[policy]?).elim [] PolicyRecord.history

/-- The engine carries a policy on from another one of the deployment, without giving it another
target: by steps, and by recovering a store that was written on the way. -/
inductive Lineage (policy : AdaptivePolicyId) (config₀ : EngineConfig) (e₀ : Engine) :
    EngineConfig → Engine → Prop
  | start (hosted : Hosted (fun _ _ _ => True) config₀ e₀) : Lineage policy config₀ e₀ config₀ e₀
  | step {config : EngineConfig} {e e' : Engine} {op : Op} {answer : Answer}
      (lineage : Lineage policy config₀ e₀ config e) (recovers : op.recovers config.limits = none)
      (steps : e.step config op = some (e', answer))
      (keeps : ∀ record record', e.state.policies[policy]? = some record →
        e'.state.policies[policy]? = some record' →
        record'.policy.semantics.target = record.policy.semantics.target) :
      Lineage policy config₀ e₀ config e'
  | recover {config writing : EngineConfig} {e e' writer : Engine} {op : Op} {answer : Answer}
      {saved : Ticks} (hosted : Hosted (fun _ _ _ => True) config e)
      (written : Lineage policy config₀ e₀ writing writer)
      (recovers : op.recovers config.limits = some (writer.state.buildDurable saved).stored)
      (steps : e.step config op = some (e', answer)) : Lineage policy config₀ e₀ config e'

/-! ## Deployments -/

theorem Lineage.hosted {policy : AdaptivePolicyId} {config₀ config : EngineConfig} {e₀ e : Engine}
    (h : Lineage policy config₀ e₀ config e) : Hosted (fun _ _ _ => True) config e := by
  induction h with
  | start hosted => exact hosted
  | step _ recovers steps _ ih => exact .step ih trivial recovers steps
  | recover hosted _ recovers steps ih => exact .recover hosted ih trivial recovers steps

theorem Hosted.anchored {ok : EngineConfig → Engine → Op → Prop} {config : EngineConfig} {e : Engine}
    (h : Hosted ok config e) : Everywhere (fun _ record => record.Anchored) e.state :=
  h.everywhere (fun _ _ _ _ _ _ recovers steps hs => anchored_step hs recovers steps)
    fun _ _ _ _ _ _ hanchored => hanchored

/-! ## Entries -/

section
variable {limits : Limits} {e : Engine} {op : Op} {now : Ticks} {policy : AdaptivePolicyId}
  {record record' : PolicyRecord} {decision : AdaptationDecision} {entries : List AdaptationRecord}

theorem Concludes.chronicle {request : CommitDecisionRequest}
    (h : Concludes limits e now request record record' decision)
    (hentries : Chronicle historyRules entries record.preference) :
    Chronicle historyRules (entries ++ [historyEntry decision now]) record'.preference := by
  cases h with
  | suppressed checks ineligible identity decides =>
    subst decides
    apply hentries.plain
    · intro hinstalls
      rcases hinstalls with h | h <;> cases h
    · intro last _ htells
      exact ⟨rfl, htells.2.2.symm⟩
    · exact fun _ htells => htells
  | committed checks eligible other verified mints identity installs =>
    subst installs
    obtain ⟨-, hnext, -⟩ := State.verifyCommit_ok verified
    apply hentries.mark
    · exact .inl rfl
    · intro last _ htells
      obtain ⟨hestablished, hto, hgeneration⟩ := htells
      refine ⟨?_, ?_⟩
      · rw [hgeneration]
        exact Generation.next_toNat hnext
      · change (if record.preference.established = true then record.preference.preferredPath
          else default) = last.toPath
        rw [if_pos hestablished, hto]
    · exact ⟨rfl, rfl, rfl⟩

/-- The entry of a decision continues the chronicle of the preference it finds. -/
theorem Decides.chronicle (h : Decides limits e op now policy record record' decision)
    (hanchored : record.Anchored) (hentries : Chronicle historyRules entries record.preference) :
    Chronicle historyRules (entries ++ [historyEntry decision now]) record'.preference := by
  cases h with
  | commit concludes => exact concludes.chronicle hentries
  | evaluate _ concludes => exact concludes.chronicle hentries
  | rollback checks verified mints decides =>
    subst decides
    obtain ⟨hstable, -, hnext, -⟩ := State.verifyRollback_ok verified
    apply hentries.mark
    · exact .inr rfl
    · intro last _ htells
      obtain ⟨-, hto, hgeneration⟩ := htells
      refine ⟨?_, hto.symm⟩
      rw [hgeneration]
      exact Generation.next_toNat hnext
    · exact ⟨hanchored hstable, rfl, rfl⟩

end

theorem timeless_chronicle {entries : List AdaptationRecord}
    {preference preference' : RoutingPreference} (h : Chronicle historyRules entries preference)
    (hestablished : preference'.established = preference.established)
    (hpath : preference'.preferredPath = preference.preferredPath)
    (hgeneration : preference'.adaptationGeneration = preference.adaptationGeneration) :
    Chronicle historyRules (entries.map AdaptationRecord.timeless) preference' := by
  apply h.map
  · exact fun _ => Iff.rfl
  · exact fun _ _ hfollows => hfollows
  · exact fun _ _ hbelongs => hbelongs
  · intro last htells
    refine ⟨?_, ?_, ?_⟩
    · rw [hestablished]
      exact htells.1
    · rw [hpath]
      exact htells.2.1
    · rw [hgeneration]
      exact htells.2.2

/-! ## Since a state -/

/-- What is left of the history at a state, and the chronicle of what was recorded since. -/
def Recounts (s₀ : State) (policy : AdaptivePolicyId) (record : PolicyRecord) : Prop :=
  ∃ older recorded, record.history = older ++ recorded ∧
    older.map AdaptationRecord.timeless <:+ (s₀.historyOf policy).map AdaptationRecord.timeless ∧
    Chronicle historyRules recorded record.preference

theorem keepLast_append {α : Type} (bound : UInt64) (older recorded : List α) :
    ∃ older' recorded', keepLast bound (older ++ recorded) = older' ++ recorded' ∧
      older' <:+ older ∧ recorded' <:+ recorded := by
  unfold keepLast
  rw [List.drop_append]
  exact ⟨_, _, rfl, List.drop_suffix _ _, List.drop_suffix _ _⟩

section
variable {s₀ : State} {policy : AdaptivePolicyId} {record record' : PolicyRecord}

theorem Recounts.decided {limits : Limits} {e : Engine} {op : Op} {now : Ticks}
    {decision : AdaptationDecision} (h : Recounts s₀ policy record) (hanchored : record.Anchored)
    (hdecides : Decides limits e op now policy record record' decision) :
    Recounts s₀ policy record' := by
  obtain ⟨older, recorded, hhistory, holder, hrecorded⟩ := h
  obtain ⟨older', recorded', hkept, hsuffix, hsuffix'⟩ := keepLast_append
    limits.maxHistoryPerPolicy older (recorded ++ [historyEntry decision now])
  refine ⟨older', recorded', ?_, ?_, ?_⟩
  · rw [hdecides.history, hhistory, List.append_assoc, hkept]
  · exact (hsuffix.map _).trans holder
  · exact (hdecides.chronicle hanchored hrecorded).suffix hsuffix'

theorem Recounts.undecided (h : Recounts s₀ policy record) (hundecided : Undecided record record')
    (htarget : record'.policy.semantics.target = record.policy.semantics.target) :
    Recounts s₀ policy record' := by
  obtain ⟨older, recorded, hhistory, holder, hrecorded⟩ := h
  cases hundecided with
  | kept history _ preference =>
    refine ⟨older, recorded, ?_, holder, ?_⟩
    · rw [history, hhistory]
    · rw [preference]
      exact hrecorded
  | retargeted _ target => exact absurd htarget target

theorem Recounts.restored {config : EngineConfig} {saved now : Ticks}
    {revocation : Option RevocationRecord} (h : Recounts s₀ policy record) :
    Recounts s₀ policy (restoredRecord config saved now revocation policy record) := by
  obtain ⟨older, recorded, hhistory, holder, hrecorded⟩ := h
  obtain ⟨older', recorded', hkept, hsuffix, hsuffix'⟩ := keepLast_append
    config.limits.maxHistoryPerPolicy (older.map AdaptationRecord.timeless)
    (recorded.map AdaptationRecord.timeless)
  refine ⟨older', recorded', ?_, ?_, ?_⟩
  · rw [← hkept, ← List.map_append, ← hhistory]
    rfl
  · have htwice : AdaptationRecord.timeless ∘ AdaptationRecord.timeless =
        AdaptationRecord.timeless := rfl
    have hmap := hsuffix.map AdaptationRecord.timeless
    rw [List.map_map, htwice] at hmap
    exact hmap.trans holder
  · have htold : Chronicle historyRules (recorded.map AdaptationRecord.timeless)
        (restoredRecord config saved now revocation policy record).preference :=
      timeless_chronicle hrecorded rfl rfl rfl
    exact htold.suffix hsuffix'

end

/-! ## Lineages -/

theorem Lineage.recounts {policy : AdaptivePolicyId} {config₀ config : EngineConfig} {e₀ e : Engine}
    (h : Lineage policy config₀ e₀ config e) {record : PolicyRecord}
    (hfound : e.state.policies[policy]? = some record) : Recounts e₀.state policy record := by
  induction h generalizing record with
  | start =>
    refine ⟨record.history, [], (List.append_nil _).symm, ?_, .nil⟩
    rw [State.historyOf, hfound]
    exact List.suffix_refl _
  | @step config e e' op answer lineage recovers steps keeps ih =>
    cases hop : op.decides with
    | true =>
      cases step_decides steps hop with
      | idle _ policies =>
        rw [policies] at hfound
        exact ih hfound
      | @decided subject before after decision found records policies =>
        obtain ⟨now, hdecides⟩ := records
        rw [policies] at hfound
        by_cases hsubject : subject = policy
        · subst hsubject
          rw [Std.ExtTreeMap.getElem?_insert_self] at hfound
          cases hfound
          exact (ih found).decided (lineage.hosted.anchored _ _ found) hdecides
        · rw [get_insert_ne hsubject] at hfound
          exact ih hfound
    | false =>
      rcases step_undecided steps hop recovers hfound with
        ⟨-, hempty, -⟩ | ⟨before, hbefore, hundecided⟩
      · refine ⟨[], [], by rw [hempty]; rfl, List.nil_suffix, .nil⟩
      · exact (ih hbefore).undecided hundecided (keeps before record hbefore hfound)
  | @recover config writing e e' writer op answer saved hosted written recovers steps ih =>
    obtain ⟨now, before, hbefore, rfl⟩ :=
      step_restored steps written.hosted.keyed written.hosted.filed recovers hfound
    exact (ih hbefore).restored

/-- The history of a policy is what is left of the history it had at an earlier state, and, when its
target stayed, the chronicle of its preference since. -/
theorem history_faithful {policy : AdaptivePolicyId} {config₀ config : EngineConfig} {e₀ e : Engine}
    (h : Lineage policy config₀ e₀ config e) {record : PolicyRecord}
    (hfound : e.state.policies[policy]? = some record) :
    ∃ older recorded, record.history = older ++ recorded ∧
      older.map AdaptationRecord.timeless <:+
        (e₀.state.historyOf policy).map AdaptationRecord.timeless ∧
      Chronicle historyRules recorded record.preference :=
  h.recounts hfound

/-! ## A history that went through a store -/

/-- Only an update gives a policy another target. -/
theorem step_target {config : EngineConfig} {e e' : Engine} {op : Op} {answer : Answer}
    {policy : AdaptivePolicyId} {record record' : PolicyRecord}
    (h : e.step config op = some (e', answer)) (hrecovers : op.recovers config.limits = none)
    (hop : ∀ now request, op ≠ .updatePolicy now request)
    (hrecord : e.state.policies[policy]? = some record)
    (hrecord' : e'.state.policies[policy]? = some record') :
    record'.policy.semantics.target = record.policy.semantics.target := by
  obtain ⟨after, hafter, hchange⟩ := step_record h hrecovers hrecord
  rw [hrecord'] at hafter
  cases hafter
  rcases hchange.declares with ⟨-, -, hsemantics⟩ | hredeclared
  · rw [hsemantics]
  · cases hredeclared with
    | updated updates => exact absurd updates (hop _ _)

theorem Lineage.run {policy : AdaptivePolicyId} {config₀ config : EngineConfig} {e₀ e e' : Engine}
    (h : Lineage policy config₀ e₀ config e)
    (hrun : RunUnder config (fun _ op => op.recovers config.limits = none ∧
      ∀ now request, op ≠ .updatePolicy now request) e e') : Lineage policy config₀ e₀ config e' := by
  induction hrun with
  | refl => exact h
  | tail _ hop hstep ih =>
    exact .step ih hop.1 hstep fun _ _ hrecord hrecord' =>
      step_target hstep hop.1 hop.2 hrecord hrecord'

namespace Scenario

/-- The policy keeps the left path, and then leaves it for the right one. -/
def keptAndLeft : List Op :=
  settled ++ [.evaluate 2 2 (evaluation "keep"), notify (declare right) "right",
    publish right 50 "right-evidence", .evaluate 3 3 (evaluation "leave")]

/-- The engine starts from a store that was written after that. -/
def reloaded : List Op :=
  [.decodeStore 0 (.ok ((after keptAndLeft).state.buildDurable 0).stored) "store"]

theorem keptAndLeft_lineage : Lineage policy config engine config (after keptAndLeft) := by
  have hrun : RunUnder config (fun _ op => op.recovers config.limits = none ∧
      ∀ now request, op ≠ .updatePolicy now request) engine (after keptAndLeft) :=
    Runs.runAll_under (fun op => op.recovers config.limits = none ∧
      ∀ now request, op ≠ .updatePolicy now request) (runAll_after (by decide +kernel)) (by
        intro op hmem
        simp only [keptAndLeft, settled, List.cons_append, List.nil_append, List.mem_cons,
          List.not_mem_nil, or_false] at hmem
        rcases hmem with rfl | rfl | rfl | rfl | rfl | rfl | rfl | rfl | rfl | rfl <;>
          exact ⟨rfl, by simp [register, activate, notify, publish]⟩)
  exact Lineage.run (.start (.start config "n")) hrun

end Scenario

open Scenario in
/-- A history that tells of a path that was installed, kept and left again. -/
theorem reloaded_history_faithful : ∃ record : PolicyRecord,
    (after reloaded).state.policies[policy]? = some record ∧
      record.history.map (·.lifecycle) = [.committed, .suppressed, .committed] ∧
      Chronicle historyRules record.history record.preference := by
  obtain ⟨_, h₁⟩ := step_after []
    (.decodeStore 0 (.ok ((after keptAndLeft).state.buildDurable 0).stored) "store")
    (by decide +kernel)
  have hlineage : Lineage policy config engine config (after reloaded) :=
    .recover (.start config "n") keptAndLeft_lineage rfl h₁
  have htest : ((after reloaded).state.policies[policy]?).any (fun record =>
      record.history.map (·.lifecycle) == [.committed, .suppressed, .committed]) = true := by
    decide +kernel
  obtain ⟨record, hfound, hlifecycles⟩ := (Option.any_eq_true _ _).1 htest
  obtain ⟨older, recorded, hhistory, holder, htold⟩ := history_faithful hlineage hfound
  have hempty : older = [] := by
    have hnone : engine.state.historyOf policy = [] := by decide +kernel
    rw [hnone, List.map_nil, List.suffix_nil] at holder
    exact List.map_eq_nil_iff.1 holder
  rw [hempty, List.nil_append] at hhistory
  refine ⟨record, hfound, by simpa using hlifecycles, ?_⟩
  rw [hhistory]
  exact htold

end AdaptiveRouting
