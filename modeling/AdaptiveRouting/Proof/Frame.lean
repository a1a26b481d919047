import AdaptiveRouting.Fabric.Step

/-!
# Frames

What the helpers of the entry points leave alone. `State.standing` is the part of the state that
decides who may act; recording an attempt, indexing, journalling, publishing evidence and moving
upstream bindings keep it. Recording an attempt, indexing and journalling keep every policy record.
-/

namespace AdaptiveRouting

/-! ## Tables -/

section
variable {d : IdDomain} {β : Type}

theorem get_insert_ne {t : Std.ExtTreeMap (StrongId d) β} {k k' : StrongId d} {v : β} (h : k ≠ k') :
    (t.insert k v)[k']? = t[k']? := by
  rw [Std.ExtTreeMap.getElem?_insert, if_neg fun hc => h (Std.LawfulEqCmp.eq_of_compare hc)]

theorem get_modify_ne {t : Std.ExtTreeMap (StrongId d) β} {k k' : StrongId d} {f : β → β}
    (h : k ≠ k') : (t.modify k f)[k']? = t[k']? := by
  rw [Std.ExtTreeMap.getElem?_modify, if_neg fun hc => h (Std.LawfulEqCmp.eq_of_compare hc)]

/-- A key that is there keeps its value. -/
theorem get_insertIfNew {t : Std.ExtTreeMap (StrongId d) β} {k k' : StrongId d} {v v' : β}
    (h : t[k]? = some v) : (t.insertIfNew k' v')[k]? = some v := by
  rw [Std.ExtTreeMap.getElem?_insertIfNew, if_neg, h]
  rintro ⟨heq, hfresh⟩
  rw [Std.LawfulEqCmp.eq_of_compare heq, Std.ExtTreeMap.mem_iff_isSome_getElem?, h] at hfresh
  exact hfresh rfl

/-- A new key gets the value. -/
theorem insertIfNew_get {t : Std.ExtTreeMap (StrongId d) β} {k : StrongId d} {v : β}
    (h : t[k]? = none) : (t.insertIfNew k v)[k]? = some v := by
  rw [Std.ExtTreeMap.getElem?_insertIfNew, if_pos]
  exact ⟨Std.ReflCmp.compare_self, by simp [Std.ExtTreeMap.mem_iff_isSome_getElem?, h]⟩

/-- Writing back the value a key has changes nothing. -/
theorem insert_get {t : Std.ExtTreeMap (StrongId d) β} {k : StrongId d} {v : β} (h : t[k]? = some v) :
    t.insert k v = t := by
  refine Std.ExtTreeMap.ext_getElem? fun {k'} => ?_
  by_cases hk : k = k'
  · subst hk
    rw [Std.ExtTreeMap.getElem?_insert_self, h]
  · exact get_insert_ne hk

theorem mem_insert_set {s : Std.ExtTreeSet (StrongId d)} {a k : StrongId d} :
    a ∈ s.insert k ↔ k = a ∨ a ∈ s := by
  rw [Std.ExtTreeSet.mem_insert, Std.LawfulEqCmp.compare_eq_iff_eq]

end

/-- What every step of a fold keeps, the fold keeps. -/
theorem foldl_keeps {σ α γ : Type} {f : σ → α → σ} (g : σ → γ) (h : ∀ s a, g (f s a) = g s)
    (xs : List α) (s : σ) : g (xs.foldl f s) = g s := by
  induction xs generalizing s with
  | nil => rfl
  | cons x xs ih => rw [List.foldl_cons, ih, h]

namespace State

/-! ## Standing -/

/-- Who may act: the epoch, the registrations and the fences. -/
structure Standing where
  epoch : CoordinatorEpoch
  authorityGeneration : AdaptiveAuthorityGeneration
  registrations : Std.ExtTreeMap PublisherId PublisherRegistration
  liveBoots : Std.ExtTreeMap WorkerBootId PublisherId
  fencedBoots : Std.ExtTreeSet WorkerBootId
  fences : List FenceRecord

def standing (s : State) : Standing :=
  { epoch := s.epoch, authorityGeneration := s.authorityGeneration
    registrations := s.registrations, liveBoots := s.liveBoots, fencedBoots := s.fencedBoots
    fences := s.fences }

section
variable {s s' : State}

theorem epoch_of_standing (h : s'.standing = s.standing) : s'.epoch = s.epoch :=
  congrArg Standing.epoch h

theorem authorityGeneration_of_standing (h : s'.standing = s.standing) :
    s'.authorityGeneration = s.authorityGeneration :=
  congrArg Standing.authorityGeneration h

theorem registrations_of_standing (h : s'.standing = s.standing) :
    s'.registrations = s.registrations :=
  congrArg Standing.registrations h

theorem fencedBoots_of_standing (h : s'.standing = s.standing) : s'.fencedBoots = s.fencedBoots :=
  congrArg Standing.fencedBoots h

end

@[simp] theorem makeResult_outcome (s : State) (outcome : Outcome) (detail : Text)
    (policy : AdaptivePolicyId) : (s.makeResult outcome detail policy).outcome = outcome := by
  unfold makeResult
  dsimp only
  generalize (if policy.valid then s.policies[policy]? else none) = record
  cases record <;> rfl

@[simp] theorem makeResult_policy (s : State) (outcome : Outcome) (detail : Text)
    (policy : AdaptivePolicyId) : (s.makeResult outcome detail policy).policy = policy := by
  unfold makeResult
  dsimp only
  generalize (if policy.valid then s.policies[policy]? else none) = record
  cases record <;> rfl

/-! ## Attempts and the journal -/

section
variable (s : State) (limits : Limits) (attempt : MutationAttemptId) (fingerprint : Text)
  (outcome : Outcome) (detail : Text)

/-- Recording an attempt writes the attempt tables only. -/
theorem recordAttempt_eq : ∃ attempts order,
    s.recordAttempt limits attempt fingerprint outcome detail =
      { s with attempts := attempts, attemptOrder := order } := by
  unfold recordAttempt
  split
  · exact ⟨_, _, rfl⟩
  · dsimp only
    split
    · exact ⟨_, _, rfl⟩
    · exact ⟨_, _, rfl⟩

@[simp] theorem recordAttempt_policies :
    (s.recordAttempt limits attempt fingerprint outcome detail).policies = s.policies := by
  obtain ⟨_, _, h⟩ := s.recordAttempt_eq limits attempt fingerprint outcome detail
  rw [h]

@[simp] theorem recordAttempt_standing :
    (s.recordAttempt limits attempt fingerprint outcome detail).standing = s.standing := by
  obtain ⟨_, _, h⟩ := s.recordAttempt_eq limits attempt fingerprint outcome detail
  rw [h]
  rfl

@[simp] theorem recordAttempt_policyNames :
    (s.recordAttempt limits attempt fingerprint outcome detail).policyNames = s.policyNames := by
  obtain ⟨_, _, h⟩ := s.recordAttempt_eq limits attempt fingerprint outcome detail
  rw [h]

@[simp] theorem recordAttempt_policiesByPath :
    (s.recordAttempt limits attempt fingerprint outcome detail).policiesByPath =
      s.policiesByPath := by
  obtain ⟨_, _, h⟩ := s.recordAttempt_eq limits attempt fingerprint outcome detail
  rw [h]

@[simp] theorem recordAttempt_evidenceGeneration :
    (s.recordAttempt limits attempt fingerprint outcome detail).evidenceGeneration =
      s.evidenceGeneration := by
  obtain ⟨_, _, h⟩ := s.recordAttempt_eq limits attempt fingerprint outcome detail
  rw [h]

@[simp] theorem recordAttempt_evidenceWatermark :
    (s.recordAttempt limits attempt fingerprint outcome detail).evidenceWatermark =
      s.evidenceWatermark := by
  obtain ⟨_, _, h⟩ := s.recordAttempt_eq limits attempt fingerprint outcome detail
  rw [h]

@[simp] theorem recordAttempt_evidence :
    (s.recordAttempt limits attempt fingerprint outcome detail).evidence = s.evidence := by
  obtain ⟨_, _, h⟩ := s.recordAttempt_eq limits attempt fingerprint outcome detail
  rw [h]

end

section
variable (s : State) (limits : Limits) (decision : AdaptationDecision)

@[simp] theorem journal_policies : (s.journal limits decision).policies = s.policies := rfl

@[simp] theorem journal_standing : (s.journal limits decision).standing = s.standing := rfl

end

section
variable (s : State) (policy : AdaptivePolicyId) (record : PolicyRecord)

@[simp] theorem putRecord_policies :
    (s.putRecord policy record).policies = s.policies.insert policy record := rfl

@[simp] theorem putRecord_standing : (s.putRecord policy record).standing = s.standing := rfl

/-- The record a decision leaves behind. -/
theorem decided_get (limits : Limits) (decision : AdaptationDecision) (attempt : MutationAttemptId)
    (fingerprint : Text) (outcome : Outcome) (detail : Text) :
    (((s.putRecord policy record).journal limits decision).recordAttempt limits attempt fingerprint
      outcome detail).policies[policy]? = some record := by
  rw [recordAttempt_policies, journal_policies, putRecord_policies]
  exact Std.ExtTreeMap.getElem?_insert_self

end

/-! ## Indexes -/

section
variable (s : State) (limits : Limits) (policy : AdaptivePolicyId)

@[simp] theorem reindexPolicy_policies : (s.reindexPolicy limits policy).policies = s.policies := by
  unfold reindexPolicy
  split <;> rfl

@[simp] theorem reindexPolicy_policyNames :
    (s.reindexPolicy limits policy).policyNames = s.policyNames := by
  unfold reindexPolicy
  split <;> rfl

@[simp] theorem reindexPolicy_standing : (s.reindexPolicy limits policy).standing = s.standing := by
  unfold reindexPolicy
  split <;> rfl

@[simp] theorem unindexPolicy_policies : (s.unindexPolicy policy).policies = s.policies := by
  unfold unindexPolicy
  split <;> rfl

@[simp] theorem unindexPolicy_standing : (s.unindexPolicy policy).standing = s.standing := by
  unfold unindexPolicy
  split <;> rfl

end

/-! ## Invalidation -/

/-- An invalidation writes the policy records and the upstream watermark only. -/
theorem applyInvalidation_eq (s : State) (path : PathId) : ∃ policies watermark,
    s.applyInvalidation path = { s with policies := policies, upstreamWatermark := watermark } := by
  unfold applyInvalidation
  dsimp only
  split
  · exact ⟨_, _, rfl⟩
  · rename_i dependents _
    generalize dependents.toList = touched
    suffices h : ∀ s₁ : State, ∃ policies,
        touched.foldl (fun s policy => s.bumpPath path policy) s₁ = { s₁ with policies := policies } by
      obtain ⟨policies, h⟩ := h { s with
        upstreamWatermark := s.upstreamWatermark.next.getD s.upstreamWatermark }
      exact ⟨policies, _, h⟩
    induction touched with
    | nil => exact fun s₁ => ⟨_, rfl⟩
    | cons policy rest ih =>
      intro s₁
      obtain ⟨policies, h⟩ := ih (s₁.bumpPath path policy)
      exact ⟨policies, h⟩

@[simp] theorem applyInvalidation_standing (s : State) (path : PathId) :
    (s.applyInvalidation path).standing = s.standing := by
  obtain ⟨_, _, h⟩ := s.applyInvalidation_eq path
  rw [h]
  rfl

/-! ## Evidence and snapshots -/

section
variable (s : State) (limits : Limits) (now : Ticks)

@[simp] theorem applyPublication_policies (accepted : Ticks × EvidencePublication) :
    (applyPublication limits s accepted).policies = s.policies := rfl

@[simp] theorem applyPublication_standing (accepted : Ticks × EvidencePublication) :
    (applyPublication limits s accepted).standing = s.standing := rfl

@[simp] theorem publishEvidence_policies (clock : Nat → Ticks) (request : PublishEvidenceRequest) :
    (s.publishEvidence limits clock request).1.policies = s.policies := by
  have hfold := foldl_keeps State.policies (applyPublication_policies · limits)
    (acceptances clock request.publications) s
  unfold publishEvidence
  split
  · rfl
  · dsimp only
    split
    · exact hfold
    · simpa [indexSources] using hfold

@[simp] theorem publishEvidence_standing (clock : Nat → Ticks) (request : PublishEvidenceRequest) :
    (s.publishEvidence limits clock request).1.standing = s.standing := by
  have hfold := foldl_keeps State.standing (applyPublication_standing · limits)
    (acceptances clock request.publications) s
  unfold publishEvidence
  split
  · rfl
  · dsimp only
    split
    · exact hfold
    · rw [recordAttempt_standing]
      exact hfold

@[simp] theorem retainSnapshot_policies (view : AdaptationSnapshot) :
    (s.retainSnapshot limits view).policies = s.policies := rfl

@[simp] theorem retainSnapshot_standing (view : AdaptationSnapshot) :
    (s.retainSnapshot limits view).standing = s.standing := rfl

end

end State

end AdaptiveRouting
