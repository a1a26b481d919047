import AdaptiveRouting.Fabric.Explain
import AdaptiveRouting.Proof.Identities
import AdaptiveRouting.Proof.Scenario

/-!
# Queries about decisions

A decision is found in the journal or, when it aged out of it, in the history of its policy; it is
explained from the journal alone. The two queries agree on a decision the journal still holds, as far
as an explanation can tell it (`Explicable`), and on one that nobody names (`queriesAgree_iff`). They
agree in every state of a run that records and recovers explicable decisions and never drops one from
the journal that a history goes on naming (`Telling`, `queries_agree`).
-/

namespace AdaptiveRouting

open Guard Engine

/-! ## What an explanation reports -/

/-- The path a decision was made away from, as an explanation writes it. -/
def AdaptationDecision.fromText (decision : AdaptationDecision) : Text :=
  if decision.currentPreference.valid then decision.currentPreference.text else "none"

/-- The explanation says of a decision what the decision says. -/
structure Explanation.Reports (told : Explanation) (decision : AdaptationDecision) : Prop where
  policy : told.policy = decision.policy
  outcome : told.outcome = decision.outcome
  suppression : told.suppression = decision.suppression
  cause : told.find "cause" = some decision.cause.text
  source : told.find "current_preference" = some decision.fromText
  target : told.find "target_preference" = some decision.targetPreference.text
  digest : told.find "decision_digest" = some decision.digest

/-- A decision is unknown to both queries, or both report the same of it. -/
structure QueriesAgree (limits : Limits) (s : State) (id : AdaptationDecisionId) : Prop where
  unknown : (s.explainDecision limits id).outcome = .notFound ↔ s.findDecision id = none
  known : ∀ decision, s.findDecision id = some decision →
    (s.explainDecision limits id).Reports decision

/-- What an explanation can tell: the outcome is not the one of an unknown decision, the flag for the
current preference says whether there is one, and the entries up to the digest fit. -/
structure AdaptationDecision.Explicable (limits : Limits) (decision : AdaptationDecision) : Prop where
  outcome : decision.outcome ≠ .notFound
  preference : (if decision.hadCurrentPreference then decision.currentPreference.text else "none") =
    decision.fromText
  room : 14 + decision.improvementBps.toList.length + decision.targetScore.toList.length <
    limits.maxExplanationEntries.toNat

/-! ## Entries -/

theorem foldl_addEntry (bound : UInt64) (entries kept : List ExplanationEntry) :
    entries.foldl (addEntry bound) kept = kept ++ entries.take (bound.toNat - kept.length) := by
  induction entries generalizing kept with
  | nil => simp
  | cons entry rest ih =>
    rw [List.foldl_cons, ih]
    unfold addEntry reaches
    by_cases hfull : bound.toNat ≤ kept.length
    · have hnone : bound.toNat - kept.length = 0 := by omega
      rw [if_pos (decide_eq_true hfull), hnone, List.take_zero, List.take_zero]
    · have hroom : bound.toNat - kept.length = bound.toNat - (kept.length + 1) + 1 := by omega
      rw [if_neg (by simpa using hfull), List.length_append, List.length_singleton, hroom,
        List.take_succ_cons, List.append_assoc]
      rfl

/-- An entry that no earlier one hides is found when it fits. -/
theorem find?_take_entry {entries : List ExplanationEntry} {entry : ExplanationEntry} {n : Nat}
    (room : Nat) (hentry : entries[n]? = some entry)
    (hbefore : ∀ other ∈ entries.take n, other.key ≠ entry.key) :
    (entries.take room).find? (·.key == entry.key) = if n < room then some entry else none := by
  obtain ⟨hlt, rfl⟩ := List.getElem?_eq_some_iff.1 hentry
  split
  · rename_i hroom
    have hlength : n < (entries.take room).length := by
      rw [List.length_take]
      omega
    refine List.find?_eq_some_iff_getElem.2 ⟨beq_self_eq_true _, n, hlength, List.getElem_take, ?_⟩
    intro j hj
    have hmem : entries[j] ∈ entries.take n := List.mem_take_iff_getElem.2 ⟨j, by omega, rfl⟩
    simpa using hbefore _ hmem
  · rename_i hroom
    rw [List.find?_eq_none]
    intro other hother
    simpa using hbefore other (List.take_subset_take_left entries (by omega) hother)

section
variable {limits : Limits} {s : State} {id : AdaptationDecisionId} {decision : AdaptationDecision}

theorem explainDecision_found (limits : Limits)
    (h : s.decisionJournal.find? (·.id == id) = some decision) :
    s.explainDecision limits id =
      { topic := .whyAdapted, decision := id, policy := decision.policy, outcome := decision.outcome
        suppression := decision.suppression
        entries := (decisionEntries decision).take limits.maxExplanationEntries.toNat } := by
  unfold State.explainDecision
  rw [h]
  dsimp only
  rw [foldl_addEntry]
  rfl

theorem explainDecision_unknown (limits : Limits)
    (h : s.decisionJournal.find? (·.id == id) = none) :
    (s.explainDecision limits id).outcome = .notFound := by
  unfold State.explainDecision
  rw [h]

/-- An entry of the explanation, by what stands before it. -/
theorem explained_entry (h : s.decisionJournal.find? (·.id == id) = some decision) {n : Nat}
    {entry : ExplanationEntry} (hentry : (decisionEntries decision)[n]? = some entry)
    (hbefore : ∀ other ∈ (decisionEntries decision).take n, other.key ≠ entry.key) :
    (s.explainDecision limits id).find entry.key =
      if n < limits.maxExplanationEntries.toNat then some entry.value else none := by
  unfold Explanation.find
  rw [explainDecision_found _ h]
  dsimp only
  rw [find?_take_entry _ hentry hbefore]
  split <;> rfl

theorem explained_digest (h : s.decisionJournal.find? (·.id == id) = some decision) :
    (s.explainDecision limits id).find "decision_digest" = some decision.digest ↔
      14 + decision.improvementBps.toList.length + decision.targetScore.toList.length <
        limits.maxExplanationEntries.toNat := by
  have hentry : (decisionEntries decision)[14 + decision.improvementBps.toList.length +
      decision.targetScore.toList.length]? =
        some { key := "decision_digest", value := decision.digest } := by
    unfold decisionEntries
    cases decision.improvementBps <;> cases decision.targetScore <;> rfl
  rw [explained_entry h hentry]
  · simp
  · unfold decisionEntries
    cases decision.improvementBps <;> cases decision.targetScore <;> simp <;> decide

/-- The entries on the cause and the paths. -/
theorem explained_paths (limits : Limits)
    (h : s.decisionJournal.find? (·.id == id) = some decision)
    (hroom : 14 < limits.maxExplanationEntries.toNat) :
    (s.explainDecision limits id).find "cause" = some decision.cause.text ∧
    (s.explainDecision limits id).find "current_preference" = some
      (if decision.hadCurrentPreference then decision.currentPreference.text else "none") ∧
    (s.explainDecision limits id).find "target_preference" =
      some decision.targetPreference.text := by
  have hentry : ∀ n < 6, ∀ entry, (decisionEntries decision)[n]? = some entry →
      (∀ other ∈ (decisionEntries decision).take n, other.key ≠ entry.key) →
      (s.explainDecision limits id).find entry.key = some entry.value := by
    intro n hn entry hget hbefore
    rw [explained_entry h hget hbefore, if_pos (by omega)]
  unfold decisionEntries at hentry
  refine ⟨hentry 1 (by omega) _ rfl ?_, hentry 4 (by omega) _ rfl ?_, hentry 5 (by omega) _ rfl ?_⟩ <;>
  · simp
    decide

/-! ## One state -/

theorem findDecision_none : s.findDecision id = none ↔
    s.decisionJournal.find? (·.id == id) = none ∧
      ∀ (policy : AdaptivePolicyId) record, s.policies[policy]? = some record →
        ∀ entry ∈ record.history, entry.decision ≠ id := by
  unfold State.findDecision
  rw [Option.or_eq_none_iff, List.findSome?_eq_none_iff]
  refine and_congr_right fun _ => ⟨fun h policy record hfound entry hentry => ?_, fun h filed hfiled => ?_⟩
  · have hnone := h _ (Std.ExtTreeMap.mem_toList_iff_getElem?_eq_some.2 hfound)
    rw [Option.map_eq_none_iff, List.find?_eq_none] at hnone
    simpa using hnone entry hentry
  · rw [Option.map_eq_none_iff, List.find?_eq_none]
    intro entry hentry
    simpa using h _ _ (Std.ExtTreeMap.mem_toList_iff_getElem?_eq_some.1 hfiled) entry hentry

/-- The queries agree on a decision just when the journal holds it and it is explicable, or nothing
names it. -/
theorem queriesAgree_iff : QueriesAgree limits s id ↔
    (∀ decision, s.decisionJournal.find? (·.id == id) = some decision → decision.Explicable limits) ∧
    (s.decisionJournal.find? (·.id == id) = none → ∀ (policy : AdaptivePolicyId) record,
      s.policies[policy]? = some record → ∀ entry ∈ record.history, entry.decision ≠ id) := by
  cases hjournal : s.decisionJournal.find? (·.id == id) with
  | none =>
    have hunknown := explainDecision_unknown limits hjournal
    constructor
    · intro h
      exact ⟨fun _ hother => (by cases hother), fun _ => (findDecision_none.1 (h.unknown.1 hunknown)).2⟩
    · intro h
      have hnone := findDecision_none.2 ⟨hjournal, h.2 rfl⟩
      refine ⟨iff_of_true hunknown hnone, fun decision hfound => ?_⟩
      rw [hnone] at hfound
      cases hfound
  | some decision =>
    have hfound : s.findDecision id = some decision := by
      unfold State.findDecision
      rw [hjournal, Option.some_or]
    have htold := explainDecision_found limits hjournal
    constructor
    · intro h
      have hreports := h.known decision hfound
      have hroom := (explained_digest hjournal).1 hreports.digest
      obtain ⟨-, hsource, -⟩ := explained_paths limits hjournal (by omega)
      refine ⟨fun other hother => ?_, fun hother => (by cases hother)⟩
      cases hother
      refine ⟨fun houtcome => ?_, ?_, hroom⟩
      · have hnone := h.unknown.1 (hreports.outcome.trans houtcome)
        rw [hfound] at hnone
        cases hnone
      · exact Option.some.inj (hsource.symm.trans hreports.source)
    · intro h
      have hexplicable := h.1 decision rfl
      have hroom := hexplicable.room
      obtain ⟨hcause, hsource, htarget⟩ := explained_paths limits hjournal (by omega)
      have hsome : s.findDecision id ≠ none := by
        rw [hfound]
        exact Option.some_ne_none decision
      refine ⟨iff_of_false ?_ hsome, fun other hother => ?_⟩
      · rw [htold]
        exact hexplicable.outcome
      · rw [hfound] at hother
        cases hother
        refine ⟨?_, ?_, ?_, hcause, ?_, htarget, (explained_digest hjournal).2 hroom⟩
        · rw [htold]
        · rw [htold]
        · rw [htold]
        · rw [hsource, hexplicable.preference]

end

/-! ## One step -/

/-- What a bounded queue keeps of its entries when one more comes in. -/
def remains {α : Type} (bound : UInt64) (queue : List α) : List α :=
  queue.drop (queue.length + 1 - bound.toNat)

theorem keepLast_snoc {α : Type} (bound : UInt64) (queue : List α) (entry : α) :
    keepLast bound (queue ++ [entry]) = remains bound queue ++ if bound = 0 then [] else [entry] := by
  unfold keepLast remains
  rw [List.length_append, List.length_singleton, List.drop_append]
  congr 1
  split
  · rename_i hzero
    subst hzero
    exact List.drop_eq_nil_of_le (by simp)
  · rename_i hpositive
    have hnat : bound.toNat ≠ 0 := fun hzero => hpositive (UInt64.toNat_inj.1 hzero)
    have hdrop : queue.length + 1 - bound.toNat - queue.length = 0 := by omega
    rw [hdrop, List.drop_zero]

/-- The journal names every decision that a history names, and what it holds is explicable. -/
structure State.Accounted (limits : Limits) (s : State) : Prop where
  bounded : s.decisionJournal.length ≤ limits.maxDecisionHistory.toNat
  explicable : ∀ decision ∈ s.decisionJournal, decision.Explicable limits
  journaled : ∀ (policy : AdaptivePolicyId) record, s.policies[policy]? = some record →
    ∀ entry ∈ record.history, ∃ decision ∈ s.decisionJournal, decision.id = entry.decision

/-- Every decision a step records or recovers is explicable, and none drops out of the journal that a
history goes on naming. -/
structure Telling (config : EngineConfig) (e : Engine) (op : Op) : Prop where
  recorded : ∀ now policy record record' decision,
    Decides config.limits e op now policy record record' decision →
    if config.limits.maxDecisionHistory = 0 then config.limits.maxHistoryPerPolicy = 0
    else decision.Explicable config.limits
  spared : ∀ now policy record record' decision,
    Decides config.limits e op now policy record record' decision →
    ∀ (owner : AdaptivePolicyId) held, e.state.policies[owner]? = some held →
    ∀ entry ∈ held.history,
    (owner = policy → entry ∈ remains config.limits.maxHistoryPerPolicy held.history) →
    entry.decision = decision.id ∨
      ∃ other ∈ remains config.limits.maxDecisionHistory e.state.decisionJournal,
        other.id = entry.decision
  recovered : ∀ durable, op.recovers config.limits = some durable →
    ∀ entry ∈ durable.history, (recoveredDecision entry).Explicable config.limits

theorem State.Accounted.agree {limits : Limits} {s : State} (h : s.Accounted limits)
    (id : AdaptationDecisionId) : QueriesAgree limits s id := by
  refine queriesAgree_iff.2 ⟨fun decision hfound => ?_, fun hnone policy record hrecord entry hentry => ?_⟩
  · exact h.explicable decision (List.mem_of_find?_eq_some hfound)
  · rintro rfl
    obtain ⟨decision, hdecision, hid⟩ := h.journaled policy record hrecord entry hentry
    rw [List.find?_eq_none] at hnone
    exact hnone decision hdecision (by simpa using hid)

section
variable {config : EngineConfig} {e e' : Engine} {op : Op} {answer : Answer}

theorem State.Accounted.decided {policy : AdaptivePolicyId} {now : Ticks}
    {record record' : PolicyRecord} {decision : AdaptationDecision}
    (h : e.state.Accounted config.limits) (hop : Telling config e op)
    (hfound : e.state.policies[policy]? = some record)
    (hdecides : Decides config.limits e op now policy record record' decision)
    (hpolicies : e'.state.policies = e.state.policies.insert policy record')
    (hjournal : e'.state.decisionJournal =
      keepLast config.limits.maxDecisionHistory (e.state.decisionJournal ++ [decision])) :
    e'.state.Accounted config.limits := by
  have hrecorded := hop.recorded _ _ _ _ _ hdecides
  have hspared := hop.spared _ _ _ _ _ hdecides
  -- What a policy names now is the decision, which arrived, or was named and spared.
  have hnamed : ∀ (owner : AdaptivePolicyId) held, e'.state.policies[owner]? = some held →
      ∀ entry ∈ held.history,
        entry.decision = decision.id ∧ config.limits.maxDecisionHistory ≠ 0 ∨
          ∃ other ∈ remains config.limits.maxDecisionHistory e.state.decisionJournal,
            other.id = entry.decision := by
    intro owner held hheld entry hentry
    have hold : ∀ before, e.state.policies[owner]? = some before → entry ∈ before.history →
        (owner = policy → entry ∈ remains config.limits.maxHistoryPerPolicy before.history) →
        entry.decision = decision.id ∧ config.limits.maxDecisionHistory ≠ 0 ∨
          ∃ other ∈ remains config.limits.maxDecisionHistory e.state.decisionJournal,
            other.id = entry.decision := by
      intro before hbefore hmem hremains
      refine (hspared owner before hbefore entry hmem hremains).imp_left fun hid => ⟨hid, ?_⟩
      intro hzero
      obtain ⟨other, hother, -⟩ := h.journaled owner before hbefore entry hmem
      have hbounded := h.bounded
      have hpositive := List.length_pos_of_mem hother
      rw [hzero] at hbounded
      exact absurd hbounded (by simpa using List.ne_nil_of_length_pos hpositive)
    rw [hpolicies] at hheld
    by_cases howner : policy = owner
    · subst howner
      rw [Std.ExtTreeMap.getElem?_insert_self] at hheld
      cases hheld
      rw [hdecides.history, keepLast_snoc] at hentry
      rcases List.mem_append.1 hentry with hkept | hnew
      · exact hold record hfound (List.mem_of_mem_drop hkept) fun _ => hkept
      · split at hnew
        · cases hnew
        · rename_i hroom
          cases List.mem_singleton.1 hnew
          refine .inl ⟨rfl, fun hzero => hroom ?_⟩
          rwa [if_pos hzero] at hrecorded
    · rw [get_insert_ne howner] at hheld
      exact hold held hheld hentry fun hsame => absurd hsame.symm howner
  refine ⟨by rw [hjournal]; exact keepLast_length .., fun other hother => ?_,
    fun owner held hheld entry hentry => ?_⟩
  · rw [hjournal, keepLast_snoc] at hother
    rcases List.mem_append.1 hother with hold | hnew
    · exact h.explicable other (List.mem_of_mem_drop hold)
    · split at hnew
      · cases hnew
      · rename_i hroom
        rw [if_neg hroom] at hrecorded
        rwa [List.mem_singleton.1 hnew]
  · rw [hjournal, keepLast_snoc]
    rcases hnamed owner held hheld entry hentry with ⟨hid, hroom⟩ | ⟨other, hother, hid⟩
    · rw [if_neg hroom]
      exact ⟨decision, List.mem_append_right _ List.mem_cons_self, hid.symm⟩
    · exact ⟨other, List.mem_append_left _ hother, hid⟩

theorem State.Accounted.recovered {now : Ticks} {durable : DurableState} {epoch : CoordinatorEpoch}
    {authority : AdaptiveAuthorityGeneration} (hop : op.recovers config.limits = some durable)
    (hexplicable : ∀ entry ∈ durable.history, (recoveredDecision entry).Explicable config.limits) :
    (State.recoveredState config now durable epoch authority).Accounted config.limits := by
  obtain ⟨_, _, -, hadmissible⟩ := Op.recovers_some hop
  have hbound : durable.history.length ≤ config.limits.maxDecisionHistory.toNat := by
    simp [DurableState.admissible, DurableState.exceedsLimits, exceeds] at hadmissible
    omega
  have hjournal : (State.recoveredState config now durable epoch authority).decisionJournal =
      durable.history.map recoveredDecision := by
    rw [recovered_journal, keepLast, List.length_map, Nat.sub_eq_zero_of_le hbound, List.drop_zero]
  refine ⟨?_, fun decision hdecision => ?_, fun policy record hrecord entry hentry => ?_⟩
  · rwa [hjournal, List.length_map]
  · rw [hjournal] at hdecision
    obtain ⟨entry, hentry, rfl⟩ := List.mem_map.1 hdecision
    exact hexplicable entry hentry
  · rw [recovered_entries hrecord] at hentry
    obtain ⟨filed, hfiled, rfl⟩ := List.mem_map.1 (mem_of_keepLast hentry)
    refine ⟨recoveredDecision filed, ?_, rfl⟩
    rw [hjournal]
    exact List.mem_map_of_mem (List.mem_filter.1 hfiled).1

theorem State.Accounted.step (h : e.state.Accounted config.limits)
    (hstep : e.step config op = some (e', answer)) (hop : Telling config e op) :
    e'.state.Accounted config.limits := by
  have hkept {s s' : State} (hs : s.Accounted config.limits)
      (hjournal : s'.decisionJournal = s.decisionJournal)
      (hhistories : ∀ (policy : AdaptivePolicyId) record', s'.policies[policy]? = some record' →
        record'.history = [] ∨ ∃ record, s.policies[policy]? = some record ∧
          record'.history = record.history) : s'.Accounted config.limits := by
    refine ⟨by rw [hjournal]; exact hs.bounded, by rw [hjournal]; exact hs.explicable,
      fun policy record' hfound entry hentry => ?_⟩
    rw [hjournal]
    rcases hhistories policy record' hfound with hempty | ⟨record, hrecord, hhistory⟩
    · rw [hempty] at hentry
      cases hentry
    · rw [hhistory] at hentry
      exact hs.journaled policy record hrecord entry hentry
  cases hrecovers : op.recovers config.limits with
  | some durable =>
    obtain ⟨now, epoch, authority, -, -, hstate⟩ := step_recovered hstep hrecovers
    subst hstate
    exact .recovered hrecovers (hop.recovered durable hrecovers)
  | none =>
    cases hdecides : op.decides with
    | true =>
      cases step_decides hstep hdecides with
      | idle journal policies =>
        refine hkept h journal fun policy record' hfound => ?_
        rw [policies] at hfound
        exact .inr ⟨record', hfound, rfl⟩
      | decided found records policies journal =>
        obtain ⟨now, hrecords⟩ := records
        exact h.decided hop found hrecords policies journal
    | false =>
      refine hkept h (step_journal hstep hdecides hrecovers) fun policy record' hfound => ?_
      rcases step_undecided hstep hdecides hrecovers hfound with
        ⟨-, hempty, -⟩ | ⟨record, hrecord, hkept⟩
      · exact .inl hempty
      · exact .inr ⟨record, hrecord, hkept.history⟩

end

/-! ## Every run -/

/-- In a run that tells its decisions the two queries agree on every identity. -/
theorem queries_agree {config : EngineConfig} {nonce : Text} {e : Engine}
    (h : RunUnder config (Telling config) (start config nonce) e) (id : AdaptationDecisionId) :
    QueriesAgree config.limits e.state id := by
  have hstart : (start config nonce).state.Accounted config.limits := by
    refine ⟨Nat.zero_le _, fun decision hdecision => (by cases hdecision),
      fun policy record hfound => ?_⟩
    change (∅ : Std.ExtTreeMap AdaptivePolicyId PolicyRecord)[policy]? = _ at hfound
    simp at hfound
  exact (h.inv (I := fun e : Engine => e.state.Accounted config.limits)
    (fun _ _ _ _ hop hs hstep => hs.step hstep hop) hstart).agree id

/-! ## Recorded decisions -/

theorem AdaptationDecision.preference_told {decision : AdaptationDecision}
    (h : decision.hadCurrentPreference = decision.currentPreference.valid) :
    (if decision.hadCurrentPreference then decision.currentPreference.text else "none") =
      decision.fromText := by
  rw [h]
  rfl

/-- What is recorded of a ticket is explicable, unless the ticket carries the outcome of an unknown
policy or the policy has a path it does not prefer. -/
theorem Concludes.explicable {limits : Limits} {e : Engine} {now : Ticks}
    {request : CommitDecisionRequest} {record record' : PolicyRecord} {decision : AdaptationDecision}
    (h : Concludes limits e now request record record' decision)
    (houtcome : request.ticket.outcome ≠ .notFound)
    (hpreference : record.preference.established = record.preference.preferredPath.valid)
    (hroom : 16 < limits.maxExplanationEntries.toNat) : decision.Explicable limits := by
  have hoption : ∀ {α : Type} (value : Option α), value.toList.length ≤ 1 := by
    intro α value
    cases value <;> simp
  have hentries (bps : Option UInt32) (score : Option UInt64) :
      14 + bps.toList.length + score.toList.length < limits.maxExplanationEntries.toNat := by
    have hbps := hoption bps
    have hscore := hoption score
    omega
  cases h with
  | suppressed checks ineligible identity decides =>
    subst decides
    exact ⟨houtcome, AdaptationDecision.preference_told hpreference, hentries _ _⟩
  | committed =>
    refine ⟨nofun, AdaptationDecision.preference_told ?_, hentries _ _⟩
    change record.preference.established =
      (if record.preference.established = true then record.preference.preferredPath
        else default).valid
    split
    · exact hpreference
    · rename_i hnone
      exact Bool.eq_false_iff.2 hnone

theorem Decides.decides {limits : Limits} {e : Engine} {op : Op} {now : Ticks}
    {policy : AdaptivePolicyId} {record record' : PolicyRecord} {decision : AdaptationDecision}
    (h : Decides limits e op now policy record record' decision) : op.decides = true := by
  cases h <;> rfl

theorem Telling.idle {config : EngineConfig} {e : Engine} {op : Op} (hdecides : op.decides = false)
    (hrecovers : op.recovers config.limits = none) : Telling config e op := by
  have hnever : ∀ now policy record record' decision,
      ¬ Decides config.limits e op now policy record record' decision := by
    intro now policy record record' decision h
    rw [h.decides] at hdecides
    cases hdecides
  refine ⟨fun _ _ _ _ _ h => (hnever _ _ _ _ _ h).elim, fun _ _ _ _ _ h => (hnever _ _ _ _ _ h).elim, ?_⟩
  intro durable hdurable
  rw [hrecovers] at hdurable
  cases hdurable

/-- The first evaluation an engine records, of a ticket it issued. -/
theorem Telling.first {config : EngineConfig} {e : Engine} {begun now : Ticks}
    {request : EvaluateRequest} (hundecided : e.state.undecided = true)
    (hticket : (beginEvaluation config.limits e begun request).all
      (fun begun => begun.2.outcome != .notFound) = true)
    (hpreference : e.state.policies.toList.all (fun entry =>
      entry.2.preference.established == entry.2.preference.preferredPath.valid) = true)
    (hroom : 16 < config.limits.maxExplanationEntries.toNat)
    (hjournal : config.limits.maxDecisionHistory ≠ 0) :
    Telling config e (.evaluate begun now request) := by
  simp only [State.undecided, Bool.and_eq_true, List.all_eq_true, List.isEmpty_iff] at hundecided
  rw [List.all_eq_true] at hpreference
  refine ⟨fun _ _ record _ _ h => ?_, fun _ _ _ _ _ _ owner held hheld entry hentry => ?_,
    fun _ hrecovers => by cases hrecovers⟩
  · rw [if_neg hjournal]
    cases h with
    | evaluate begins concludes =>
      obtain ⟨_, haccepted⟩ := State.commitChecks_ok concludes.records.1
      have hfound := haccepted.found
      rw [(beginEvaluation_cases begins).1] at hfound
      have hrecord := hpreference _ (Std.ExtTreeMap.mem_toList_iff_getElem?_eq_some.2 hfound)
      rw [begins] at hticket
      exact concludes.explicable (by simpa using hticket) (by simpa using hrecord) hroom
  · have hempty := hundecided.2 _ (Std.ExtTreeMap.mem_toList_iff_getElem?_eq_some.2 hheld)
    rw [hempty] at hentry
    cases hentry

namespace Scenario

/-- The right path is adapted to. -/
def adapted : List Op := challenged ++ [.evaluate 3 3 (evaluation "adapt")]

/-- The store of the deployment is loaded again. -/
def storeReloaded : List Op := adapted ++ [.decodeStore 0 (.ok ((after adapted).state.buildDurable 0)) []]

def establish : Op := .evaluate 2 2 (evaluation "establish")

/-- The first evaluation finds nothing to adapt, and its decision is recorded. -/
def decided : List Op := created ++ [activate, establish]

/-- A journal with room for one decision. -/
def narrow : EngineConfig := { limits := { maxDecisionHistory := 1 } }

/-- Two evaluations that find nothing to adapt. -/
def decidedTwice : List Op := decided ++ [.evaluate 3 3 (evaluation "again")]

def firstDecision : AdaptationDecisionId := name "arf-decision-n-4"

def secondDecision : AdaptationDecisionId := name "arf-decision-n-8"

end Scenario

open Scenario in
theorem queries_agree_one : ∃ decision,
    (after decided).state.findDecision firstDecision = some decision ∧
    ((after decided).state.explainDecision config.limits firstDecision).Reports decision := by
  have htelling : Telling config (after (created ++ [activate])) establish :=
    .first (by decide +kernel) (by decide +kernel) (by decide +kernel) (by decide) (by decide)
  obtain ⟨_, h₁⟩ := step_after [] register (by decide +kernel)
  obtain ⟨_, h₂⟩ := step_after [register] (.createPolicy 0 (create 1)) (by decide +kernel)
  obtain ⟨_, h₃⟩ := step_after created activate (by decide +kernel)
  obtain ⟨_, h₄⟩ := step_after (created ++ [activate]) establish (by decide +kernel)
  have hrun : RunUnder config (Telling config) engine (after decided) :=
    (((Runs.Run.single (.idle rfl rfl) h₁).tail (.idle rfl rfl) h₂).tail (.idle rfl rfl) h₃).tail
      htelling h₄
  have hagree := queries_agree hrun firstDecision
  obtain ⟨decision, hfound⟩ := Option.isSome_iff_exists.1
    (by decide +kernel : ((after decided).state.findDecision firstDecision).isSome = true)
  exact ⟨decision, hfound, hagree.known decision hfound⟩

open Scenario in
/-- A decision that aged out of a journal with room for one is found in the history of its policy and
explained as unknown. After a recovery the path a decision was made away from is found, and explained
as `none`. -/
theorem aged_decision_unexplained :
    (∃ e, Reachable narrow e ∧ (e.state.findDecision firstDecision).isSome = true ∧
      (e.state.explainDecision narrow.limits firstDecision).outcome = .notFound) ∧
    (∃ e, Reachable config e ∧
      (e.state.findDecision secondDecision).map (·.currentPreference) = some left ∧
      (e.state.explainDecision config.limits secondDecision).find "current_preference" =
        some "none") ∧
    ¬ ∀ (config : EngineConfig) (e : Engine), Reachable config e → ∀ id,
      QueriesAgree config.limits e.state id := by
  have hdropped : (Runs.runAll (Engine.step narrow) (start narrow "n") decidedTwice).any (fun e =>
      (e.state.findDecision firstDecision).isSome &&
      (e.state.explainDecision narrow.limits firstDecision).outcome == .notFound) = true := by
    decide +kernel
  obtain ⟨e, hrun, hqueries⟩ := (Option.any_eq_true _ _).1 hdropped
  rw [Bool.and_eq_true, beq_iff_eq] at hqueries
  have hreachable : Reachable narrow e := reachable_of_runAll hrun
  refine ⟨⟨e, hreachable, hqueries⟩, ⟨after storeReloaded, reachable_after (by decide +kernel),
    by decide +kernel, by decide +kernel⟩, fun h => ?_⟩
  have hnone := (h narrow e hreachable firstDecision).unknown.1 hqueries.2
  rw [hnone] at hqueries
  cases hqueries.1

end AdaptiveRouting
