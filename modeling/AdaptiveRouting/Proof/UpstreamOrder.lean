import AdaptiveRouting.Proof.Bindings
import AdaptiveRouting.Proof.Generations
import AdaptiveRouting.Proof.Scenario

/-!
# Upstream order

A notification names the generation it expects to follow (`Outdated`, when it is another one) and
carries the next. The path authority of a declaration and of an advance is compared; the other
categories are not, so an outdated notification about them is applied
(`applyNotification_refuses_iff`) and its generation replaces a later one
(`applyNotification_forward_iff`).
-/

namespace AdaptiveRouting

open Guard Engine

/-! ## Categories -/

/-- The parts of a binding with a generation of their own. -/
inductive BindingCategory
  | pathAuthority | route | multipathSet | weightPolicy
  deriving DecidableEq, Repr

/-- The category an event touches. -/
def UpstreamEvent.category : UpstreamEvent → Option BindingCategory
  | .declareCandidate | .advancePathAuthority | .invalidatePath => some .pathAuthority
  | .setMembership | .invalidateMultipathSet => some .multipathSet
  | .advanceRoute | .invalidateRoute => some .route
  | .advanceWeightPolicy => some .weightPolicy
  | .markUnavailable | .markAvailable | .hardFailureSignal | .clearHardFailureSignal => none

/-- The generation of a category, where the binding has it. -/
def CandidateBinding.generationOf (b : CandidateBinding) : BindingCategory → Option UInt64
  | .pathAuthority => some b.pathAuthority.generation.value
  | .route => some b.route.generation.value
  | .multipathSet => b.multipath.map (·.generation.value)
  | .weightPolicy => b.weighted.map (·.generation.value)

/-- The notification expects another generation of the category it touches than the binding's. -/
def UpstreamNotification.Outdated (n : UpstreamNotification) (b : CandidateBinding) : Prop :=
  ∃ category expected current, n.event.category = some category ∧
    n.expectedPreviousGeneration = some expected ∧ b.generationOf category = some current ∧
    expected ≠ current

/-- No generation goes backwards: the path authority's, the route's, the set's while it is the same
set, the weight policy's. -/
structure CandidateBinding.Advances (b b' : CandidateBinding) : Prop where
  pathAuthority : b.pathAuthority.generation ≤ b'.pathAuthority.generation
  route : b.route.generation ≤ b'.route.generation
  multipath : ∀ m m', b.multipath = some m → b'.multipath = some m' → m'.set = m.set →
    m.generation ≤ m'.generation
  weighted : ∀ w w', b.weighted = some w → b'.weighted = some w' → w.generation ≤ w'.generation

theorem CandidateBinding.Advances.refl (b : CandidateBinding) : b.Advances b where
  pathAuthority := UInt64.le_refl _
  route := UInt64.le_refl _
  multipath := fun m m' hm hm' _ => by
    rw [hm] at hm'
    cases hm'
    exact UInt64.le_refl _
  weighted := fun w w' hw hw' => by
    rw [hw] at hw'
    cases hw'
    exact UInt64.le_refl _

/-- What the event writes is not behind the binding it writes over. -/
def UpstreamNotification.Orderly (n : UpstreamNotification) (b : CandidateBinding) : Prop :=
  match n.event with
  | .declareCandidate => b.Advances n.binding
  | .invalidatePath => b.pathAuthority.generation ≤ n.binding.pathAuthority.generation
  | .setMembership => ∀ m m', b.multipath = some m → n.binding.multipath = some m' →
    m'.set = m.set → m.generation ≤ m'.generation
  | .advanceRoute => b.route.generation ≤ n.binding.route.generation
  | .advanceWeightPolicy => ∀ w w', b.weighted = some w → n.binding.weighted = some w' →
    w.generation ≤ w'.generation
  | _ => True

/-! ## One notification -/

/-- An edit keeps the order exactly when the notification is orderly. -/
theorem UpstreamNotification.edit_advances_iff {n : UpstreamNotification} {b : CandidateBinding}
    (hformed : n.binding.wellFormed = true)
    (hadvances : n.event = .advancePathAuthority →
      b.pathAuthority.generation < n.binding.pathAuthority.generation) :
    b.Advances (n.edit b) ↔ n.Orderly b := by
  obtain ⟨event, policy, binding, provenance, expected⟩ := n
  have hsame := CandidateBinding.Advances.refl b
  cases event with
  | declareCandidate => exact Iff.rfl
  | advancePathAuthority =>
    exact ⟨fun _ => trivial, fun _ => { hsame with
      pathAuthority := UInt64.le_of_lt (hadvances rfl) }⟩
  | invalidatePath =>
    have hvalid : binding.pathAuthority.generation.valid = true := by
      unfold CandidateBinding.wellFormed PathAuthorityBinding.wellFormed at hformed
      simp only [Bool.and_eq_true] at hformed
      exact hformed.1.2.2
    have hedit : (b.invalidated binding).pathAuthority.generation =
        binding.pathAuthority.generation := if_pos hvalid
    show b.Advances (b.invalidated binding) ↔
      b.pathAuthority.generation ≤ binding.pathAuthority.generation
    rw [← hedit]
    exact ⟨fun h => h.pathAuthority, fun h => ⟨h, hsame.route, hsame.multipath, hsame.weighted⟩⟩
  | setMembership => exact ⟨fun h => h.multipath, fun h => { hsame with multipath := h }⟩
  | invalidateMultipathSet =>
    refine ⟨fun _ => trivial, fun _ => { hsame with multipath := fun m m' hm hm' _ => ?_ }⟩
    change b.multipath.map _ = some m' at hm'
    rw [hm] at hm'
    cases hm'
    exact UInt64.le_refl _
  | advanceRoute => exact ⟨fun h => h.route, fun h => { hsame with route := h }⟩
  | invalidateRoute => exact ⟨fun _ => trivial, fun _ => { hsame with route := UInt64.le_refl _ }⟩
  | advanceWeightPolicy => exact ⟨fun h => h.weighted, fun h => { hsame with weighted := h }⟩
  | markUnavailable | markAvailable | hardFailureSignal | clearHardFailureSignal =>
    exact ⟨fun _ => trivial, fun _ => { hsame with }⟩

namespace State

/-- An accepted advance of a path authority does advance it. -/
theorem applyEvent_advances {limits : Limits} {s s' : State} {record : PolicyRecord}
    {n : UpstreamNotification} {b : CandidateBinding} (h : s.applyEvent limits record n = .ok s')
    (hevent : n.event = .advancePathAuthority) (hb : record.bindingOf n.binding.path = some b) :
    b.pathAuthority.generation < n.binding.pathAuthority.generation := by
  obtain ⟨event, policy, binding, provenance, expected⟩ := n
  cases hevent
  obtain ⟨candidate, hfound, h⟩ := bind_ok h
  obtain ⟨-, h⟩ := seq_ok h
  obtain ⟨hless, -⟩ := seq_ok h
  rw [PolicyRecord.bindingOf, orRefuse_ok hfound] at hb
  cases hb
  simpa using hless

/-- The events that write a path authority refuse an outdated notification, the others apply it. -/
theorem applyEvent_refuses_iff {limits : Limits} {s : State} {record : PolicyRecord}
    {n : UpstreamNotification} {b : CandidateBinding}
    (hb : record.bindingOf n.binding.path = some b) (hout : n.Outdated b) :
    (∃ answer, s.applyEvent limits record n = .error answer) ↔ n.event.writesAuthority = true := by
  obtain ⟨candidate, hfound, rfl⟩ := Option.map_eq_some_iff.1 hb
  obtain ⟨category, expected, current, hcategory, hexpected, hcurrent, hother⟩ := hout
  have hmatches (hauthority : category = .pathAuthority) :
      n.expectedMatches candidate.binding.pathAuthority.generation = false := by
    subst hauthority
    cases hcurrent
    unfold UpstreamNotification.expectedMatches
    rw [hexpected]
    simpa using hother
  refine ⟨?_, fun hwrites => ?_⟩
  · rintro ⟨answer, hrefused⟩
    by_contra hother
    obtain ⟨event, policy, binding, provenance, _⟩ := n
    unfold applyEvent at hrefused
    cases event with
    | declareCandidate | advancePathAuthority => exact hother rfl
    | setMembership | advanceRoute | advanceWeightPolicy =>
      dsimp only at hrefused
      rw [hfound] at hrefused
      cases hrefused
    | _ => cases hrefused
  · cases hresult : s.applyEvent limits record n with
    | error answer => exact ⟨answer, rfl⟩
    | ok s' =>
      exfalso
      obtain ⟨event, policy, binding, provenance, _⟩ := n
      unfold applyEvent at hresult
      cases event with
      | declareCandidate =>
        cases hcategory
        dsimp only at hresult
        rw [hfound] at hresult
        obtain ⟨hexpects, -⟩ := seq_ok hresult
        rw [hmatches rfl] at hexpects
        cases hexpects
      | advancePathAuthority =>
        cases hcategory
        obtain ⟨found, hfound', hrest⟩ := bind_ok hresult
        obtain ⟨hexpects, -⟩ := seq_ok hrest
        have hsame := orRefuse_ok hfound'
        rw [hfound] at hsame
        cases hsame
        rw [hmatches rfl] at hexpects
        cases hexpects
      | _ => cases hwrites

end State

/-- Every binding that is there stays, and no generation of it goes backwards. -/
def Forward (s s' : State) : Prop :=
  ∀ (policy : AdaptivePolicyId) (record : PolicyRecord) (path : PathId) (b : CandidateBinding),
    s.policies[policy]? = some record → record.bindingOf path = some b →
    ∃ record' b', s'.policies[policy]? = some record' ∧ record'.bindingOf path = some b' ∧
      b.Advances b'

section
variable {limits : Limits} {context : MutationContext} {s s' : State} {n : UpstreamNotification}

/-- An accepted notification lets no generation go backwards exactly when it is orderly. -/
theorem applyNotification_forward_iff (h : s.applyNotification limits context n = .ok s')
    (ho : Ordered s) : Forward s s' ↔ ∀ record b, s.policies[n.policy]? = some record →
      record.bindingOf n.binding.path = some b → n.Orderly b := by
  have hformed := State.applyNotification_formed h
  obtain ⟨record, hchecks, happly⟩ := bind_ok h
  obtain ⟨_, haccepted⟩ := State.notificationChecks_ok hchecks
  have hedit {b : CandidateBinding} (hb : record.bindingOf n.binding.path = some b) :=
    n.edit_advances_iff hformed fun hevent => State.applyEvent_advances happly hevent hb
  refine ⟨fun hforward found b hfound hb => ?_, fun horderly policy r path b hr hb => ?_⟩
  · rw [haccepted.found] at hfound
    cases hfound
    obtain ⟨record', b', hrecord', hb', hadvances⟩ := hforward _ _ _ _ haccepted.found hb
    obtain ⟨after, hafter, -, hbindings⟩ := State.applyNotification_bindingOf h ho haccepted.found
    rw [hrecord'] at hafter
    cases hafter
    rw [hbindings, if_pos ⟨rfl, rfl⟩, hb] at hb'
    cases hb'
    exact (hedit hb).1 hadvances
  · obtain ⟨r', hr', -, hbindings⟩ := State.applyNotification_bindingOf h ho hr
    refine ⟨r', ?_⟩
    have hthere := hbindings path
    by_cases hsubject : n.policy = policy ∧ n.binding.path = path
    · rw [if_pos hsubject, hb] at hthere
      obtain ⟨rfl, rfl⟩ := hsubject
      rw [haccepted.found] at hr
      cases hr
      exact ⟨n.edit b, hr', hthere, (hedit hb).2 (horderly record b haccepted.found hb)⟩
    · rw [if_neg hsubject, hb] at hthere
      exact ⟨b, hr', hthere, .refl b⟩

/-- An outdated notification is refused exactly when its event compares path authorities, or a check
common to all events refuses it. -/
theorem applyNotification_refuses_iff {record : PolicyRecord} {b : CandidateBinding}
    (hrecord : s.policies[n.policy]? = some record) (hb : record.bindingOf n.binding.path = some b)
    (hout : n.Outdated b) : (∃ answer, s.applyNotification limits context n = .error answer) ↔
      n.event.writesAuthority = true ∨ ∃ answer, s.notificationChecks context n = .error answer := by
  cases hchecks : s.notificationChecks context n with
  | error answer =>
    refine ⟨fun _ => .inr ⟨answer, rfl⟩, fun _ => ⟨answer, ?_⟩⟩
    exact bind_of_error hchecks
  | ok found =>
    obtain ⟨_, haccepted⟩ := State.notificationChecks_ok hchecks
    have hfound := haccepted.found
    rw [hrecord] at hfound
    cases hfound
    have happlies : s.applyNotification limits context n = s.applyEvent limits record n := by
      unfold State.applyNotification
      exact bind_of hchecks
    have hno : ¬ ∃ answer, (Except.ok record : Except OperationResult PolicyRecord) = .error answer := by
      rintro ⟨answer, hsame⟩
      cases hsame
    rw [happlies, or_iff_left hno]
    exact State.applyEvent_refuses_iff hb hout

end

/-! ## Runs -/

/-- Every notification the operation applies is orderly where the batch comes to it. -/
def OrderlyStep (limits : Limits) (e : Engine) (op : Op) : Prop :=
  ∀ request fingerprint reached n after, op = .applyUpstream request →
    e.state.upstreamChecks limits request = .ok fingerprint →
    State.BatchReaches limits request.context e.state request.notifications reached n →
    reached.applyNotification limits request.context n = .ok after →
    ∀ record b, reached.policies[n.policy]? = some record →
      record.bindingOf n.binding.path = some b → n.Orderly b

/-- The candidate is there, with generations of its path authority and its route that are not behind
those of a binding. -/
def Ahead (policy : AdaptivePolicyId) (path : PathId) (b : CandidateBinding) (s : State) : Prop :=
  ∃ record b', s.policies[policy]? = some record ∧ record.bindingOf path = some b' ∧
    b.pathAuthority.generation ≤ b'.pathAuthority.generation ∧ b.route.generation ≤ b'.route.generation

section
variable {config : EngineConfig} {e e' : Engine} {op : Op} {answer : Answer}
  {policy : AdaptivePolicyId} {path : PathId} {b : CandidateBinding}

theorem Ahead.forward {s s' : State} (h : Ahead policy path b s) (hforward : Forward s s') :
    Ahead policy path b s' := by
  obtain ⟨record, b', hrecord, hb', hauthority, hroute⟩ := h
  obtain ⟨record', b'', hrecord', hb'', hadvances⟩ := hforward _ _ _ _ hrecord hb'
  exact ⟨record', b'', hrecord', hb'', UInt64.le_trans hauthority hadvances.pathAuthority,
    UInt64.le_trans hroute hadvances.route⟩

theorem Ahead.step (hs : Ahead policy path b e.state) (ho : Ordered e.state)
    (hop : op.recovers config.limits = none) (hretargets : ¬ Retargets policy e op)
    (horderly : OrderlyStep config.limits e op) (h : e.step config op = some (e', answer)) :
    Ahead policy path b e'.state := by
  obtain ⟨record, b', hrecord, hb', hahead⟩ := hs
  obtain ⟨record', hrecord', hchange⟩ := step_record h hop hrecord
  have hkept (hsame : record'.candidates = record.candidates) : Ahead policy path b e'.state := by
    refine ⟨record', b', hrecord', ?_, hahead⟩
    rw [← hb']
    refine PolicyRecord.bindingOf_congr ?_
    unfold PolicyRecord.bindings
    rw [hsame]
  cases hchange with
  | kept => exact hkept rfl
  | rewritten rewrites =>
    cases rewrites with
    | @updated now request _ _ generation checks =>
      refine hkept ?_
      by_cases htarget : record.policy.semantics.target = request.update.semantics.target
      · unfold State.updatedRecord
        simp [htarget]
      · exact absurd ⟨now, request, record, rfl, rfl, hrecord, Ne.symm htarget⟩ hretargets
    | held | moved | revoked | suppressed | committed | restored => exact hkept rfl
  | advanced => exact hkept rfl
  | @notified request fingerprint _ notifies checks reached =>
    have hbatch : Ordered (State.applyNotifications config.limits request.context e.state
          request.notifications).1 ∧
        Ahead policy path b (State.applyNotifications config.limits request.context e.state
          request.notifications).1 := by
      refine State.applyNotifications_inv (I := fun s => Ordered s ∧ Ahead policy path b s)
        ⟨ho, record, b', hrecord, hb', hahead⟩ ?_
      intro reached n after hreaches happly hs
      refine ⟨State.applyNotification_ordered happly hs.1, hs.2.forward ?_⟩
      apply (applyNotification_forward_iff happly hs.1).2
      exact horderly _ _ _ _ _ notifies checks hreaches happly
    obtain ⟨found, b'', hfound, hb'', hahead'⟩ := hbatch.2
    rw [reached] at hfound
    cases hfound
    exact ⟨record', b'', hrecord', hb'', hahead'⟩

theorem ahead_run (hrun : RunUnder config (fun e op => op.recovers config.limits = none ∧
      ¬ Retargets policy e op ∧ OrderlyStep config.limits e op) e e')
    (ho : Ordered e.state) (hs : Ahead policy path b e.state) : Ahead policy path b e'.state :=
  hrun.inv_under (I := fun e => Ahead policy path b e.state) (J := fun e => Ordered e.state)
    (fun _ _ _ _ _ ho hstep => ho.step hstep)
    (fun _ _ _ _ hop ho hs hstep => hs.step ho hop.1 hop.2.1 hop.2.2 hstep) ho hs

end

/-- Wherever a batch comes to a notification: an outdated one is refused, which ends the batch without
a change, exactly when its event compares path authorities or a common check refuses it; an accepted
one lets no generation go backwards exactly when it is orderly. Over a run of orderly steps that keeps
a candidate, its path authority's and its route's generation do not fall. -/
theorem upstream_keeps_order {config : EngineConfig} {e : Engine} (hreachable : Reachable config e) :
    (∀ (context : MutationContext) (notifications : List UpstreamNotification) (reached : State)
      (n : UpstreamNotification),
      State.BatchReaches config.limits context e.state notifications reached n →
      (∀ record b, reached.policies[n.policy]? = some record →
        record.bindingOf n.binding.path = some b → n.Outdated b →
        ((∃ answer, reached.applyNotification config.limits context n = .error answer) ↔
          n.event.writesAuthority = true ∨
            ∃ answer, reached.notificationChecks context n = .error answer)) ∧
      (∀ answer, reached.applyNotification config.limits context n = .error answer →
        State.applyNotifications config.limits context e.state notifications =
          (reached, some answer)) ∧
      ∀ after, reached.applyNotification config.limits context n = .ok after →
        (Forward reached after ↔ ∀ record b, reached.policies[n.policy]? = some record →
          record.bindingOf n.binding.path = some b → n.Orderly b)) ∧
    ∀ (policy : AdaptivePolicyId) (path : PathId) (record : PolicyRecord) (b : CandidateBinding)
      (e' : Engine), e.state.policies[policy]? = some record → record.bindingOf path = some b →
      RunUnder config (fun e op => op.recovers config.limits = none ∧ ¬ Retargets policy e op ∧
        OrderlyStep config.limits e op) e e' → Ahead policy path b e'.state := by
  have ho := Ordered.reachable hreachable
  refine ⟨fun context notifications reached n hreaches => ⟨fun record b hrecord hb hout => ?_,
    fun answer hrefused => hreaches.refused hrefused,
    fun after happly => applyNotification_forward_iff happly (hreaches.ordered ho)⟩,
    fun policy path record b e' hrecord hb hrun => ?_⟩
  · exact applyNotification_refuses_iff hrecord hb hout
  · exact ahead_run hrun ho ⟨record, b, hrecord, hb, UInt64.le_refl _, UInt64.le_refl _⟩

section
open Scenario

/-- A route advance of the left path, and the generation it expects to follow. -/
def Scenario.advance (generation expected : UInt64) : UpstreamNotification where
  event := .advanceRoute
  policy := policy
  binding := { binding left with route := { route, generation := ⟨generation⟩, current := true } }
  expectedPreviousGeneration := some expected

/-- The left path is declared under route generation 1. -/
def Scenario.declared : List Op := created ++ [notify (declare left) "left"]

/-- And its route advances to generation 5. -/
def Scenario.advanced : List Op := declared ++ [notify (advance 5 1) "advance"]

theorem Scenario.route_after (ops : List Op) (generation : UInt64)
    (h : ((((after ops).state.policies[policy]?).bind (·.bindingOf left)).map
      (·.route.generation.value) == some generation) = true) :
    ∃ record b, (after ops).state.policies[policy]? = some record ∧
      record.bindingOf left = some b ∧ b.route.generation.value = generation := by
  obtain ⟨b, hb, hgeneration⟩ := Option.map_eq_some_iff.1 (eq_of_beq h)
  obtain ⟨record, hrecord, hbinding⟩ := Option.bind_eq_some_iff.1 hb
  exact ⟨record, b, hrecord, hbinding, hgeneration⟩

theorem Scenario.accepts (s : State) (n : UpstreamNotification) (context : MutationContext)
    (h : (s.applyNotification config.limits context n).isOk = true) :
    ∃ after, s.applyNotification config.limits context n = .ok after := by
  cases happly : s.applyNotification config.limits context n with
  | error answer =>
    rw [happly] at h
    cases h
  | ok after => exact ⟨after, rfl⟩

/-- The route advances from generation 1 to generation 5. -/
theorem orderly_advance_is_forward : ∃ reached,
    (after declared).state.applyNotification config.limits (context 1 "route") (advance 5 1) =
      .ok reached ∧ Forward (after declared).state reached := by
  obtain ⟨reached, happly⟩ := accepts (after declared).state (advance 5 1) (context 1 "route")
    (by decide +kernel)
  obtain ⟨record, b, hrecord, hb, hgeneration⟩ := route_after declared 1 (by decide +kernel)
  have hreachable : Reachable config (after declared) := reachable_after (by decide +kernel)
  have horder := upstream_keeps_order hreachable
  refine ⟨reached, happly, ((horder.1 _ [advance 5 1] _ _ .here).2.2 reached happly).2 ?_⟩
  intro found b' hfound hb'
  rw [show (advance 5 1).policy = policy from rfl, hrecord] at hfound
  cases hfound
  rw [show (advance 5 1).binding.path = left from rfl, hb] at hb'
  cases hb'
  show b.route.generation.value ≤ 5
  rw [hgeneration]
  decide

/-- At route generation 5 an advance to generation 3 that expects to follow generation 1 is applied. -/
theorem late_advance_is_applied :
    (¬ ∀ (e : Engine) (context : MutationContext) (n : UpstreamNotification) (record : PolicyRecord)
      (b : CandidateBinding), Reachable config e → e.state.policies[n.policy]? = some record →
      record.bindingOf n.binding.path = some b → n.Outdated b →
      ∃ answer, e.state.applyNotification config.limits context n = .error answer) ∧
    ¬ ∀ (e : Engine) (context : MutationContext) (n : UpstreamNotification) (after : State),
      Reachable config e → e.state.applyNotification config.limits context n = .ok after →
      Forward e.state after := by
  obtain ⟨reached, happly⟩ := accepts (after advanced).state (advance 3 1) (context 1 "late")
    (by decide +kernel)
  obtain ⟨record, b, hrecord, hb, hgeneration⟩ := route_after advanced 5 (by decide +kernel)
  have hreachable : Reachable config (after advanced) := reachable_after (by decide +kernel)
  refine ⟨fun hclaim => ?_, fun hclaim => ?_⟩
  · obtain ⟨answer, hrefused⟩ := hclaim _ (context 1 "late") (advance 3 1) record b hreachable hrecord hb
      ⟨.route, 1, b.route.generation.value, rfl, rfl, rfl, by rw [hgeneration]; decide⟩
    rw [happly] at hrefused
    cases hrefused
  · have hforward := hclaim _ _ _ _ hreachable happly
    have horderly := (applyNotification_forward_iff happly (Ordered.reachable hreachable)).1 hforward
      record b hrecord hb
    change b.route.generation.value ≤ 3 at horderly
    rw [hgeneration] at horderly
    revert horderly
    decide

end

end AdaptiveRouting
