import AdaptiveRouting.Proof.Decisions
import AdaptiveRouting.Proof.Outstanding

/-!
# Decision identities

A decision is named by the journal and by the history of its policy. What the factory mints is new,
since the identities carried lie behind its counter (`Engine.Past`). The identity a commit records comes
from its ticket, which is a value: the same ticket can be committed again. Identities are unambiguous
(`Unambiguous`) as long as no ticket and no store brings in one that is carried already or that the
factory has still to mint (`Novel`, `decision_identities_unambiguous`).
-/

namespace AdaptiveRouting

open Guard Engine

/-! ## Names of decisions -/

/-- The journal or the history of the policy names the decision. -/
inductive Named (s : State) (policy : AdaptivePolicyId) (entry : AdaptationRecord) : Prop
  | journal {decision : AdaptationDecision} (listed : decision ∈ s.decisionJournal)
      (owner : decision.policy = policy) (same : historyEntry decision 0 = entry)
  | history {record : PolicyRecord} {kept : AdaptationRecord}
      (found : s.policies[policy]? = some record) (listed : kept ∈ record.history)
      (same : kept.timeless = entry)

def Carried (s : State) (id : AdaptationDecisionId) : Prop :=
  ∃ policy entry, Named s policy entry ∧ entry.decision = id

/-- An identity names one decision, at most once in the journal and once in a history. -/
structure Unambiguous (s : State) : Prop where
  journal : (s.decisionJournal.map (·.id)).Nodup
  histories : ∀ (policy : AdaptivePolicyId) record, s.policies[policy]? = some record →
    (record.history.map (·.decision)).Nodup
  same : ∀ policy entry policy' entry', Named s policy entry → Named s policy' entry' →
    entry.decision = entry'.decision → policy = policy' ∧ entry = entry'

/-- The decision identities the engine's own factory minted lie behind its counter. -/
def Engine.Past (e : Engine) (id : AdaptationDecisionId) : Prop :=
  ∀ counter, id.text = e.ids.compose .decision counter → counter ≤ e.ids.counter

/-- What is brought in from outside is new: the ticket a commit records carries an identity of its
own, and a recovered store lists none twice; the factory has not still to mint them, and its counter
does not wrap. -/
structure Novel (config : EngineConfig) (e : Engine) (op : Op) : Prop where
  room : e.ids.counter.toNat + op.mints < UInt64.size
  presented : ∀ now request record, op = .commitEvaluation now request →
    e.state.commitChecks request = .ok record →
    (request.ticket.lifecycle ≠ .eligible ∨ alreadyCurrent record request.ticket = false ∧
      ∃ verified, e.state.verifyCommit config.limits now record request.ticket = .ok verified) →
    request.ticket.decision.valid = true →
      ¬ Carried e.state request.ticket.decision ∧ e.Past request.ticket.decision
  recovered : ∀ durable, op.recovers config.limits = some durable →
    (durable.history.map (·.2.decision)).Nodup ∧
      ∀ entry ∈ durable.history, e.Past entry.2.decision

/-! ## The identity of a recorded decision -/

section
variable {limits : Limits} {e e' : Engine} {now : Ticks} {record record' : PolicyRecord}
  {decision : AdaptationDecision}

/-- An identity the factory mints on the way from one engine to the other. -/
def MintedBetween (e e' : Engine) (id : AdaptationDecisionId) : Prop :=
  ∃ counter, id.text = e.ids.compose .decision counter ∧ e.ids.counter < counter ∧
    counter ≤ e'.ids.counter

theorem counter_lt {counter : UInt64} {n : Nat} (hroom : counter.toNat + n < UInt64.size)
    (hn : 0 < n) : counter < counter + n.toUInt64 := by
  rw [UInt64.lt_iff_toNat_lt, UInt64.toNat_add]
  simp only [UInt64.size] at hroom
  have hnat : n.toUInt64.toNat = n := by
    simp only [Nat.toUInt64, UInt64.toNat_ofNat']
    omega
  omega

/-- The identity is the ticket's, or the next one. -/
theorem decisionIdentity_minted {ticket : EvaluationTicket} {ids ids' : IdFactory}
    {id : AdaptationDecisionId} (h : decisionIdentity ticket ids = some (id, ids')) :
    ticket.decision.valid = true ∧ id = ticket.decision ∨
      id.text = ids.compose .decision (ids.counter + 1) ∧ ids'.counter = ids.counter + 1 := by
  by_cases hvalid : ticket.decision.valid = true
  · have hown : decisionIdentity ticket ids = some (ticket.decision, ids) := if_pos hvalid
    rw [hown] at h
    cases h
    exact .inl ⟨hvalid, rfl⟩
  · have hminted : decisionIdentity ticket ids = ids.mint .decision := if_neg hvalid
    obtain ⟨htext, hids⟩ := IdFactory.mint_eq (hminted.symm.trans h)
    exact .inr ⟨htext, by rw [hids]⟩

/-- A commit records the identity of its ticket, or one it mints. -/
theorem Concludes.identity {request : CommitDecisionRequest} {result : OperationResult}
    (h : Concludes limits e now request record record' decision)
    (hcommit : commitEvaluation limits e now request = some (e', result))
    (hroom : e.ids.counter.toNat + 2 < UInt64.size) :
    request.ticket.decision.valid = true ∧ decision.id = request.ticket.decision ∨
      MintedBetween e e' decision.id := by
  obtain ⟨⟨e₁, _⟩, hticket, he⟩ := Option.map_eq_some_iff.1 hcommit
  cases he
  unfold commitTicket at hticket
  dsimp only at hticket
  unfold MintedBetween
  rw [settled_ids]
  cases h with
  | suppressed checks ineligible identity decides =>
    subst decides
    rw [checks] at hticket
    dsimp only at hticket
    rw [if_pos ineligible] at hticket
    obtain ⟨⟨own, ids⟩, hown, hticket⟩ := Option.bind_eq_some_iff.1 hticket
    rw [identity] at hown
    cases hown
    cases hticket
    rcases decisionIdentity_minted identity with hown | ⟨htext, hcounter⟩
    · exact .inl hown
    · refine .inr ⟨_, htext, ?_, UInt64.le_of_eq hcounter.symm⟩
      exact counter_lt (n := 1) (by omega) (by omega)
  | committed checks eligible other verified mints identity installs =>
    subst installs
    rw [checks] at hticket
    dsimp only at hticket
    unfold alreadyCurrent at other
    rw [if_neg (by simp [eligible]), if_neg (ne_true_of_eq_false other), verified] at hticket
    obtain ⟨⟨plan, ids₁⟩, hplan, hticket⟩ := Option.bind_eq_some_iff.1 hticket
    obtain ⟨⟨own, ids₂⟩, hown, hticket⟩ := Option.bind_eq_some_iff.1 hticket
    rw [mints] at hplan
    cases hplan
    rw [identity] at hown
    cases hown
    cases hticket
    rcases decisionIdentity_minted identity with hown | ⟨htext, hcounter⟩
    · exact .inl hown
    · obtain ⟨-, rfl⟩ := IdFactory.mint_eq mints
      have htwo : e.ids.counter + 1 + 1 = e.ids.counter + (2 : Nat).toUInt64 := by
        rw [UInt64.add_assoc]
        rfl
      refine .inr ⟨e.ids.counter + 1 + 1, htext, ?_, UInt64.le_of_eq hcounter.symm⟩
      rw [htwo]
      exact counter_lt hroom (by omega)

theorem Concludes.records {request : CommitDecisionRequest}
    (h : Concludes limits e now request record record' decision) :
    e.state.commitChecks request = .ok record ∧
      (request.ticket.lifecycle ≠ .eligible ∨ alreadyCurrent record request.ticket = false ∧
        ∃ verified, e.state.verifyCommit limits now record request.ticket = .ok verified) := by
  cases h with
  | suppressed checks ineligible => exact ⟨checks, .inl ineligible⟩
  | committed checks eligible other verified => exact ⟨checks, .inr ⟨other, _, verified⟩⟩

/-- The identity of a valid ticket is recorded. -/
theorem Concludes.own {request : CommitDecisionRequest}
    (h : Concludes limits e now request record record' decision)
    (hvalid : request.ticket.decision.valid = true) : decision.id = request.ticket.decision := by
  have hown : ∀ {ids ids' : IdFactory} {id : AdaptationDecisionId},
      decisionIdentity request.ticket ids = some (id, ids') → id = request.ticket.decision := by
    intro ids ids' id hidentity
    have hvalued : decisionIdentity request.ticket ids = some (request.ticket.decision, ids) :=
      if_pos hvalid
    rw [hvalued] at hidentity
    cases hidentity
    rfl
  cases h with
  | suppressed checks ineligible identity decides =>
    subst decides
    exact hown identity
  | committed checks eligible other verified mints identity installs =>
    subst installs
    exact hown identity

theorem compose_ne_nil (ids : IdFactory) (kind : IdKind) (counter : UInt64) :
    ids.compose kind counter ≠ [] := by
  have hkind : kind.text ≠ [] := by cases kind <;> decide
  intro hnil
  exact hkind (List.flatten_eq_nil_iff.1 hnil kind.text (by simp))

/-- What is recorded comes from a ticket presented to a commit, or is minted in the step. -/
theorem Decides.identity {config : EngineConfig} {op : Op} {answer : Answer}
    {policy : AdaptivePolicyId}
    (h : Decides config.limits e op now policy record record' decision)
    (hstep : e.step config op = some (e', answer))
    (hroom : e.ids.counter.toNat + op.mints < UInt64.size) :
    (∃ request, op = .commitEvaluation now request ∧
        Concludes config.limits e now request record record' decision ∧
        request.ticket.decision.valid = true ∧ decision.id = request.ticket.decision) ∨
      MintedBetween e e' decision.id := by
  cases h with
  | @commit now request record record' decision concludes =>
    obtain ⟨⟨e₁, result⟩, hcommit, he⟩ := Option.map_eq_some_iff.1 hstep
    cases he
    rcases concludes.identity hcommit hroom with ⟨hvalid, hown⟩ | hminted
    · exact .inl ⟨request, rfl, concludes, hvalid, hown⟩
    · exact .inr hminted
  | @evaluate begun now request e₁ ticket record record' decision begins concludes =>
    obtain ⟨⟨e₂, result⟩, hevaluate, he⟩ := Option.map_eq_some_iff.1 hstep
    cases he
    cases beginEvaluation_begins begins with
    | refused refuses lifecycle =>
      obtain ⟨_, haccepted⟩ := State.commitChecks_ok concludes.records.1
      exact absurd lifecycle haccepted.unrejected
    | issued accepts lifecycle room counted minted moved =>
      have hvalid : ticket.decision.valid = true := by
        have hne : ticket.decision.text ≠ [] := by
          rw [minted]
          exact compose_ne_nil _ _ _
        simpa [StrongId.valid] using hne
      have hmoved : e₁.ids.counter = e.ids.counter + (3 : Nat).toUInt64 := by
        rw [moved, UInt64.add_assoc, UInt64.add_assoc]
        rfl
      have hfive : e.ids.counter.toNat + 5 < UInt64.size := hroom
      refine .inr ⟨e₁.ids.counter, ?_, ?_, ?_⟩
      · rw [concludes.own hvalid]
        exact minted
      · rw [hmoved]
        exact counter_lt (n := 3) (by omega) (by omega)
      · have hbegun := (beginEvaluation_ids begins).counter (by omega)
        have hafter := (evaluate_ids_after hevaluate begins).counter (by omega)
        exact UInt64.le_iff_toNat_le.2 hafter.1
  | @rollback now request record target adaptation transitionGeneration transition id ids decision
      checks verified mints decides =>
    subst decides
    obtain ⟨⟨e₁, result⟩, hrollback, he⟩ := Option.map_eq_some_iff.1 hstep
    cases he
    unfold AdaptiveRouting.rollback at hrollback
    dsimp only at hrollback
    rw [checks] at hrollback
    dsimp only at hrollback
    rw [verified] at hrollback
    obtain ⟨⟨own, ids₁⟩, hown, hrollback⟩ := Option.bind_eq_some_iff.1 hrollback
    obtain ⟨⟨plan, ids₂⟩, hplan, hrollback⟩ := Option.bind_eq_some_iff.1 hrollback
    rw [mints] at hown
    cases hown
    cases hrollback
    obtain ⟨htext, rfl⟩ := IdFactory.mint_eq mints
    have htwo : e.ids.counter.toNat + 2 < UInt64.size := hroom
    have hlt : e.ids.counter < e.ids.counter + 1 := counter_lt (n := 1) (by omega) (by omega)
    have hone : (e.ids.counter + 1).toNat = e.ids.counter.toNat + 1 := by
      simp only [UInt64.size] at htwo
      rw [UInt64.toNat_add, UInt64.toNat_one]
      omega
    refine .inr ⟨_, htext, hlt, UInt64.le_iff_toNat_le.2 ?_⟩
    exact ((IdFactory.Advanced.mint hplan).counter (by rw [hone]; omega)).1

/-- Identities stay behind the counter. -/
theorem Engine.Past.later {id : AdaptationDecisionId} {n : Nat} (h : e.Past id)
    (hids : IdFactory.Advanced n e.ids e'.ids) (hroom : e.ids.counter.toNat + n < UInt64.size) :
    e'.Past id := by
  intro counter htext
  rw [hids.compose] at htext
  exact UInt64.le_iff_toNat_le.2 (Nat.le_trans (UInt64.le_iff_toNat_le.1 (h counter htext))
    (hids.counter hroom).1)

theorem MintedBetween.past {id : AdaptationDecisionId} {n : Nat} (h : MintedBetween e e' id)
    (hids : IdFactory.Advanced n e.ids e'.ids) : e'.Past id := by
  obtain ⟨counter, hminted, -, hle⟩ := h
  intro other htext
  rw [hids.compose] at htext
  rwa [IdFactory.compose_inj (htext.symm.trans hminted)]

/-- What the factory mints is carried by nothing that lies behind its counter. -/
theorem MintedBetween.fresh {id : AdaptationDecisionId} (h : MintedBetween e e' id)
    (hpast : ∀ id, Carried e.state id → e.Past id) : ¬ Carried e.state id := by
  obtain ⟨counter, hminted, hlt, -⟩ := h
  intro hcarried
  exact UInt64.lt_irrefl _ (UInt64.lt_of_lt_of_le hlt (hpast id hcarried counter hminted))

/-- What is recorded is novel, and lies behind the counter reached. -/
theorem Novel.decides {config : EngineConfig} {op : Op} {answer : Answer}
    {policy : AdaptivePolicyId} (hop : Novel config e op)
    (hpast : ∀ id, Carried e.state id → e.Past id)
    (hstep : e.step config op = some (e', answer))
    (h : Decides config.limits e op now policy record record' decision) :
    ¬ Carried e.state decision.id ∧ e'.Past decision.id := by
  have hids := step_ids hstep
  rcases h.identity hstep hop.room with ⟨request, hcommits, hconcludes, hvalid, hown⟩ | hminted
  · obtain ⟨hchecks, hrecords⟩ := hconcludes.records
    rw [hown]
    obtain ⟨hfresh, hbehind⟩ := hop.presented _ _ _ hcommits hchecks hrecords hvalid
    exact ⟨hfresh, hbehind.later hids hop.room⟩
  · exact ⟨hminted.fresh hpast, hminted.past hids⟩

end

/-! ## One step -/

theorem mem_of_keepLast {α : Type} {bound : UInt64} {queue : List α} {x : α}
    (h : x ∈ keepLast bound queue) : x ∈ queue := List.mem_of_mem_drop h

theorem nodup_keepLast {α β : Type} {f : α → β} {bound : UInt64} {queue : List α} {x : α}
    (hqueue : (queue.map f).Nodup) (hfresh : ∀ y ∈ queue, f y ≠ f x) :
    ((keepLast bound (queue ++ [x])).map f).Nodup := by
  refine List.Nodup.sublist ((List.drop_sublist ..).map f) ?_
  rw [List.map_append, List.nodup_append]
  refine ⟨hqueue, List.nodup_singleton _, ?_⟩
  intro a ha b hb hsame
  obtain ⟨y, hy, rfl⟩ := List.mem_map.1 ha
  cases List.mem_singleton.1 hb
  exact hfresh y hy hsame

section
variable {config : EngineConfig} {e e' : Engine} {op : Op} {answer : Answer}

/-- After a decision, what is named was named before, or is that decision. -/
theorem Named.decided {limits : Limits} {policy policy' : AdaptivePolicyId} {now : Ticks}
    {record record' : PolicyRecord} {decision : AdaptationDecision} {entry : AdaptationRecord}
    (hkeyed : Keyed e.state) (hfound : e.state.policies[policy]? = some record)
    (hdecides : Decides limits e op now policy record record' decision)
    (hpolicies : e'.state.policies = e.state.policies.insert policy record')
    (hjournal : e'.state.decisionJournal =
      keepLast limits.maxDecisionHistory (e.state.decisionJournal ++ [decision]))
    (h : Named e'.state policy' entry) :
    Named e.state policy' entry ∨ policy' = policy ∧ entry = historyEntry decision 0 := by
  have howner : decision.policy = policy := hdecides.subject.trans (hkeyed policy record hfound)
  cases h with
  | journal listed owner same =>
    rw [hjournal] at listed
    rcases List.mem_append.1 (mem_of_keepLast listed) with hold | hnew
    · exact .inl (.journal hold owner same)
    · cases List.mem_singleton.1 hnew
      exact .inr ⟨owner.symm.trans howner, same.symm⟩
  | @history after kept found listed same =>
    rw [hpolicies] at found
    by_cases hpolicy : policy = policy'
    · subst hpolicy
      rw [Std.ExtTreeMap.getElem?_insert_self] at found
      cases found
      rw [hdecides.history] at listed
      rcases List.mem_append.1 (mem_of_keepLast listed) with hold | hnew
      · exact .inl (.history hfound hold same)
      · cases List.mem_singleton.1 hnew
        exact .inr ⟨rfl, same.symm⟩
    · rw [get_insert_ne hpolicy] at found
      exact .inl (.history found listed same)

theorem Unambiguous.decided {limits : Limits} {policy : AdaptivePolicyId} {now : Ticks}
    {record record' : PolicyRecord} {decision : AdaptationDecision} (hs : Unambiguous e.state)
    (hkeyed : Keyed e.state) (hfound : e.state.policies[policy]? = some record)
    (hdecides : Decides limits e op now policy record record' decision)
    (hnovel : ¬ Carried e.state decision.id)
    (hpolicies : e'.state.policies = e.state.policies.insert policy record')
    (hjournal : e'.state.decisionJournal =
      keepLast limits.maxDecisionHistory (e.state.decisionJournal ++ [decision])) :
    Unambiguous e'.state where
  journal := by
    rw [hjournal]
    refine nodup_keepLast hs.journal fun other hother hsame => hnovel ?_
    exact ⟨_, _, .journal hother rfl rfl, hsame⟩
  histories := by
    intro policy' after hafter
    rw [hpolicies] at hafter
    by_cases hpolicy : policy = policy'
    · subst hpolicy
      rw [Std.ExtTreeMap.getElem?_insert_self] at hafter
      cases hafter
      rw [hdecides.history]
      refine nodup_keepLast (hs.histories policy record hfound) fun other hother hsame => hnovel ?_
      exact ⟨_, _, .history hfound hother rfl, hsame⟩
    · rw [get_insert_ne hpolicy] at hafter
      exact hs.histories policy' after hafter
  same := by
    intro policy₁ entry₁ policy₂ entry₂ hfirst hsecond hsame
    rcases hfirst.decided hkeyed hfound hdecides hpolicies hjournal with hfirst | ⟨rfl, rfl⟩
    · rcases hsecond.decided hkeyed hfound hdecides hpolicies hjournal with hsecond | ⟨rfl, rfl⟩
      · exact hs.same _ _ _ _ hfirst hsecond hsame
      · exact absurd ⟨_, _, hfirst, hsame⟩ hnovel
    · rcases hsecond.decided hkeyed hfound hdecides hpolicies hjournal with hsecond | ⟨rfl, rfl⟩
      · exact absurd ⟨_, _, hsecond, hsame.symm⟩ hnovel
      · exact ⟨rfl, rfl⟩

/-- What is named after other steps was named before. -/
theorem Named.kept {s s' : State} {policy : AdaptivePolicyId} {entry : AdaptationRecord}
    (h : Named s' policy entry) (hjournal : s'.decisionJournal = s.decisionJournal)
    (hhistories : ∀ (policy : AdaptivePolicyId) record', s'.policies[policy]? = some record' →
      record'.history = [] ∨ ∃ record, s.policies[policy]? = some record ∧
        record'.history = record.history) : Named s policy entry := by
  cases h with
  | journal listed owner same =>
    rw [hjournal] at listed
    exact .journal listed owner same
  | history found listed same =>
    rcases hhistories _ _ found with hempty | ⟨record, hrecord, hhistory⟩
    · rw [hempty] at listed
      cases listed
    · rw [hhistory] at listed
      exact .history hrecord listed same

theorem Unambiguous.kept {s s' : State} (hs : Unambiguous s)
    (hjournal : s'.decisionJournal = s.decisionJournal)
    (hhistories : ∀ (policy : AdaptivePolicyId) record', s'.policies[policy]? = some record' →
      record'.history = [] ∨ ∃ record, s.policies[policy]? = some record ∧
        record'.history = record.history) : Unambiguous s' := by
  refine ⟨by rw [hjournal]; exact hs.journal, fun policy record' hfound => ?_, ?_⟩
  · rcases hhistories _ _ hfound with hempty | ⟨record, hrecord, hhistory⟩
    · rw [hempty]
      exact List.nodup_nil
    · rw [hhistory]
      exact hs.histories policy record hrecord
  · intro policy entry policy' entry' hfirst hsecond
    exact hs.same _ _ _ _ (hfirst.kept hjournal hhistories) (hsecond.kept hjournal hhistories)

/-- What is named after a recovery is listed in the store. -/
theorem Named.recovered {now : Ticks} {durable : DurableState} {epoch : CoordinatorEpoch}
    {authority : AdaptiveAuthorityGeneration} {policy : AdaptivePolicyId}
    {entry : AdaptationRecord}
    (h : Named (State.recoveredState config now durable epoch authority) policy entry) :
    ∃ kept, (policy, kept) ∈ durable.history ∧ kept.timeless = entry := by
  cases h with
  | journal listed owner same =>
    rw [recovered_journal] at listed
    obtain ⟨⟨owner', kept⟩, hkept, rfl⟩ := List.mem_map.1 (mem_of_keepLast listed)
    cases owner
    exact ⟨kept, hkept, same⟩
  | @history record kept found listed same =>
    rw [recovered_entries found] at listed
    obtain ⟨⟨owner, entry'⟩, hentry, rfl⟩ := List.mem_map.1 (mem_of_keepLast listed)
    obtain ⟨hmem, howner⟩ := List.mem_filter.1 hentry
    obtain rfl : owner = policy := by simpa using howner
    exact ⟨entry', hmem, same⟩

/-- A store whose history has distinct identities is recovered unambiguously. -/
theorem Unambiguous.recovered {now : Ticks} {durable : DurableState} {epoch : CoordinatorEpoch}
    {authority : AdaptiveAuthorityGeneration}
    (hdistinct : (durable.history.map (·.2.decision)).Nodup) :
    Unambiguous (State.recoveredState config now durable epoch authority) := by
  refine ⟨?_, fun policy record hfound => ?_, ?_⟩
  · rw [recovered_journal]
    have hmap : (durable.history.map recoveredDecision).map (·.id) =
        durable.history.map (·.2.decision) := by
      rw [List.map_map]
      rfl
    refine List.Nodup.sublist ((List.drop_sublist ..).map _) ?_
    rwa [hmap]
  · rw [recovered_entries hfound]
    refine List.Nodup.sublist ((List.drop_sublist ..).map _) ?_
    rw [List.map_map]
    exact hdistinct.sublist (List.filter_sublist.map _)
  · intro policy entry policy' entry' hfirst hsecond hsame
    obtain ⟨kept, hkept, rfl⟩ := hfirst.recovered
    obtain ⟨kept', hkept', rfl⟩ := hsecond.recovered
    have heq := List.inj_on_of_nodup_map hdistinct hkept hkept' hsame
    cases heq
    exact ⟨rfl, rfl⟩

/-- Identities name one decision each, and lie behind the counter. -/
structure Distinct (e : Engine) : Prop where
  unambiguous : Unambiguous e.state
  past : ∀ id, Carried e.state id → e.Past id

theorem Distinct.step (he : Distinct e) (hkeyed : Keyed e.state)
    (h : e.step config op = some (e', answer)) (hop : Novel config e op) : Distinct e' := by
  have hids := step_ids h
  have hlater : ∀ id, Carried e.state id → e'.Past id := fun id hid =>
    (he.past id hid).later hids hop.room
  cases hrecovers : op.recovers config.limits with
  | some durable =>
    obtain ⟨now, epoch, authority, -, -, hstate⟩ := step_recovered h hrecovers
    obtain ⟨hdistinct, hbehind⟩ := hop.recovered durable hrecovers
    refine ⟨by rw [hstate]; exact .recovered hdistinct, ?_⟩
    rintro id ⟨policy, entry, hnamed, rfl⟩
    rw [hstate] at hnamed
    obtain ⟨kept, hkept, rfl⟩ := hnamed.recovered
    exact (hbehind _ hkept).later hids hop.room
  | none =>
    cases hdecides : op.decides with
    | true =>
      cases step_decides h hdecides with
      | idle journal policies =>
        have hhistories : ∀ (policy : AdaptivePolicyId) record',
            e'.state.policies[policy]? = some record' → record'.history = [] ∨
              ∃ record, e.state.policies[policy]? = some record ∧
                record'.history = record.history := fun policy record' hfound => by
          rw [policies] at hfound
          exact .inr ⟨record', hfound, rfl⟩
        exact ⟨he.unambiguous.kept journal hhistories, fun id ⟨policy, entry, hnamed, hid⟩ =>
          hlater id ⟨policy, entry, hnamed.kept journal hhistories, hid⟩⟩
      | decided found records policies journal =>
        obtain ⟨now, hrecords⟩ := records
        obtain ⟨hfresh, hpast⟩ := hop.decides he.past h hrecords
        refine ⟨he.unambiguous.decided hkeyed found hrecords hfresh policies journal, ?_⟩
        rintro id ⟨policy, entry, hnamed, rfl⟩
        rcases hnamed.decided hkeyed found hrecords policies journal with hbefore | ⟨-, rfl⟩
        · exact hlater _ ⟨policy, entry, hbefore, rfl⟩
        · exact hpast
    | false =>
      have hjournal := step_journal h hdecides hrecovers
      have hhistories : ∀ (policy : AdaptivePolicyId) record',
          e'.state.policies[policy]? = some record' → record'.history = [] ∨
            ∃ record, e.state.policies[policy]? = some record ∧
              record'.history = record.history := fun policy record' hfound => by
        rcases step_undecided h hdecides hrecovers hfound with
          ⟨-, hempty, -⟩ | ⟨record, hrecord, hkept⟩
        · exact .inl hempty
        · exact .inr ⟨record, hrecord, hkept.history⟩
      exact ⟨he.unambiguous.kept hjournal hhistories, fun id ⟨policy, entry, hnamed, hid⟩ =>
        hlater id ⟨policy, entry, hnamed.kept hjournal hhistories, hid⟩⟩

end

/-! ## Every run -/

/-- A decision that is named is found, as the only one of its identity. -/
theorem Unambiguous.findDecision {s : State} (hs : Unambiguous s) {policy : AdaptivePolicyId}
    {entry : AdaptationRecord} (h : Named s policy entry) :
    ∃ decision, s.findDecision entry.decision = some decision ∧ decision.policy = policy ∧
      historyEntry decision 0 = entry := by
  have hfinds : ∃ decision, s.findDecision entry.decision = some decision ∧
      Named s decision.policy (historyEntry decision 0) ∧ decision.id = entry.decision := by
    unfold State.findDecision
    cases hjournal : s.decisionJournal.find? (·.id == entry.decision) with
    | some decision =>
      refine ⟨decision, rfl, .journal (List.mem_of_find?_eq_some hjournal) rfl rfl, ?_⟩
      simpa using List.find?_some hjournal
    | none =>
      rw [Option.none_or]
      cases hhistory : s.policies.toList.findSome? fun filed =>
          (filed.2.history.find? (·.decision == entry.decision)).map
            (decisionSummary filed.1) with
      | some decision =>
        obtain ⟨filed, hfiled, hsummary⟩ := List.exists_of_findSome?_eq_some hhistory
        obtain ⟨kept, hkept, rfl⟩ := Option.map_eq_some_iff.1 hsummary
        have hfound := Std.ExtTreeMap.mem_toList_iff_getElem?_eq_some.1 hfiled
        have hid : kept.decision = entry.decision := by simpa using List.find?_some hkept
        exact ⟨_, rfl, .history hfound (List.mem_of_find?_eq_some hkept) rfl, hid⟩
      | none =>
        cases h with
        | @journal decision listed owner same =>
          have hnone := List.find?_eq_none.1 hjournal decision listed
          subst same
          exact absurd (beq_self_eq_true decision.id) hnone
        | @history record kept found listed same =>
          have hmem : (policy, record) ∈ s.policies.toList :=
            Std.ExtTreeMap.mem_toList_iff_getElem?_eq_some.2 found
          have hnone := List.findSome?_eq_none_iff.1 hhistory _ hmem
          rw [Option.map_eq_none_iff, List.find?_eq_none] at hnone
          subst same
          exact absurd (beq_self_eq_true kept.decision) (hnone kept listed)
  obtain ⟨decision, hfind, hnamed, hid⟩ := hfinds
  obtain ⟨howner, hentry⟩ := hs.same _ _ _ _ hnamed h hid
  exact ⟨decision, hfind, howner, hentry⟩

/-- The store an engine writes lists no identity twice. -/
theorem Unambiguous.durable {s : State} (hs : Unambiguous s) (now : Ticks) :
    ((s.buildDurable now).history.map (·.2.decision)).Nodup := by
  have hkeys : (s.policies.toList.map Prod.fst).Nodup :=
    List.pairwise_map.2 (s.policies.distinct_keys_toList.imp fun h heq =>
      h (Std.LawfulEqCmp.compare_eq_iff_eq.2 heq))
  have hlisted : (s.buildDurable now).history.map (·.2.decision) =
      s.policies.toList.flatMap fun entry => entry.2.history.map (·.decision) := by
    unfold State.buildDurable
    rw [List.map_flatMap]
    simp only [List.map_map, Function.comp_def]
  rw [hlisted, List.nodup_flatMap]
  refine ⟨fun entry hentry => hs.histories entry.1 entry.2
    (Std.ExtTreeMap.mem_toList_iff_getElem?_eq_some.1 hentry), ?_⟩
  refine List.Pairwise.imp_of_mem (fun {a b} ha hb hne => ?_) (List.pairwise_map.1 hkeys)
  refine List.disjoint_left.2 fun id hida hidb => hne ?_
  obtain ⟨kept, hkept, rfl⟩ := List.mem_map.1 hida
  obtain ⟨other, hother, hsame⟩ := List.mem_map.1 hidb
  have hfirst : Named s a.1 kept.timeless :=
    .history (Std.ExtTreeMap.mem_toList_iff_getElem?_eq_some.1 ha) hkept rfl
  have hsecond : Named s b.1 other.timeless :=
    .history (Std.ExtTreeMap.mem_toList_iff_getElem?_eq_some.1 hb) hother rfl
  exact (hs.same _ _ _ _ hfirst hsecond hsame.symm).1

theorem Novel.inner {config : EngineConfig} {e : Engine} {op : Op}
    (hroom : e.ids.counter.toNat + op.mints < UInt64.size)
    (hrecovers : op.recovers config.limits = none)
    (hpresented : op.presented = none) : Novel config e op where
  room := hroom
  presented := fun now request _ hop => by
    rw [hop] at hpresented
    cases hpresented
  recovered := fun durable hdurable => by
    rw [hrecovers] at hdurable
    cases hdurable

/-- Nothing was decided yet. -/
def State.undecided (s : State) : Bool :=
  s.decisionJournal.isEmpty && s.policies.toList.all fun entry => entry.2.history.isEmpty

namespace Scenario

def opened : List Op := created ++ [activate, .beginEvaluation 2 (evaluation "begin")]

end Scenario

end AdaptiveRouting
