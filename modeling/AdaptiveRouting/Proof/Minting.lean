import AdaptiveRouting.Proof.Recovery

/-!
# Minted identities

An engine composes the identities it mints from the prefix and the nonce of its factory and a counter
that starts at zero (`compose_inj`). Its steps keep prefix and nonce and only move the counter on
(`step_ids`), so the policies it minted lie behind the counter (`Behind`).
-/

namespace AdaptiveRouting

open Engine

/-! ## Composed texts -/

theorem digit_inj {c c' : Char} (hc : c.isDigit = true) (hc' : c'.isDigit = true)
    (h : c.toNat.toUInt8 = c'.toNat.toUInt8) : c = c' := by
  have hbound {c : Char} (hc : c.isDigit = true) : c.toNat < 256 := by
    simp only [Char.isDigit, Bool.and_eq_true, decide_eq_true_eq] at hc
    have hle : c.val.toNat ≤ 57 := UInt32.le_iff_toNat_le.1 hc.2
    show c.val.toNat < 256
    omega
  have hnat := congrArg UInt8.toNat h
  simp only [Nat.toUInt8, UInt8.toNat_ofNat'] at hnat
  have hlt := hbound hc
  have hlt' := hbound hc'
  exact Char.toNat_inj.1 (by omega)

theorem digits_inj {cs cs' : List Char} (hcs : ∀ c ∈ cs, c.isDigit = true)
    (hcs' : ∀ c ∈ cs', c.isDigit = true)
    (h : cs.map (fun c => c.toNat.toUInt8) = cs'.map fun c => c.toNat.toUInt8) : cs = cs' := by
  induction cs generalizing cs' with
  | nil =>
    cases cs' with
    | nil => rfl
    | cons c' rest' => cases h
  | cons c rest ih =>
    cases cs' with
    | nil => cases h
    | cons c' rest' =>
      obtain ⟨hhead, htail⟩ := List.cons.inj h
      have hc : c = c' := digit_inj (hcs c List.mem_cons_self) (hcs' c' List.mem_cons_self) hhead
      have hrest : rest = rest' := ih (fun d hd => hcs d (List.mem_cons_of_mem _ hd))
        (fun d hd => hcs' d (List.mem_cons_of_mem _ hd)) htail
      rw [hc, hrest]

/-- Decimal texts tell numbers apart. -/
theorem natText_inj {m n : Nat} (h : natText m = natText n) : m = n := by
  have hdigit {k : Nat} : ∀ c ∈ Nat.toDigits 10 k, c.isDigit = true := fun c hc =>
    Nat.isDigit_of_mem_toDigits (by decide) (by decide) hc
  have hdigits : Nat.toDigits 10 m = Nat.toDigits 10 n := digits_inj hdigit hdigit h
  calc
    m = Nat.ofDigitChars 10 (Nat.toDigits 10 m) 0 := Nat.ofDigitChars_ten_toDigits.symm
    _ = Nat.ofDigitChars 10 (Nat.toDigits 10 n) 0 := by rw [hdigits]
    _ = n := Nat.ofDigitChars_ten_toDigits

namespace IdFactory

theorem compose_inj {f : IdFactory} {kind : IdKind} {a b : UInt64}
    (h : f.compose kind a = f.compose kind b) : a = b := by
  unfold compose at h
  simp only [Text.concat, List.flatten_cons, List.flatten_nil, List.append_nil,
    List.append_cancel_left_eq] at h
  exact UInt64.toNat_inj.1 (natText_inj h)

/-- The factory minted at most `n` identities more. -/
structure Advanced (n : Nat) (f f' : IdFactory) : Prop where
  idPrefix : f'.idPrefix = f.idPrefix
  nonce : f'.nonce = f.nonce
  counter : f.counter.toNat + n < UInt64.size →
    f.counter.toNat ≤ f'.counter.toNat ∧ f'.counter.toNat ≤ f.counter.toNat + n

theorem Advanced.refl (n : Nat) (f : IdFactory) : Advanced n f f :=
  ⟨rfl, rfl, fun _ => ⟨Nat.le_refl _, Nat.le_add_right ..⟩⟩

theorem Advanced.trans {m n : Nat} {f g k : IdFactory} (h₁ : Advanced m f g) (h₂ : Advanced n g k) :
    Advanced (m + n) f k where
  idPrefix := h₂.idPrefix.trans h₁.idPrefix
  nonce := h₂.nonce.trans h₁.nonce
  counter := fun hroom => by
    obtain ⟨hle₁, hge₁⟩ := h₁.counter (by omega)
    obtain ⟨hle₂, hge₂⟩ := h₂.counter (by omega)
    omega

theorem Advanced.mono {m n : Nat} {f g : IdFactory} (h : Advanced m f g) (hle : m ≤ n) :
    Advanced n f g where
  idPrefix := h.idPrefix
  nonce := h.nonce
  counter := fun hroom => by
    obtain ⟨hmin, hmax⟩ := h.counter (by omega)
    omega

theorem Advanced.compose {n : Nat} {f f' : IdFactory} (h : Advanced n f f') (kind : IdKind)
    (counter : UInt64) : f'.compose kind counter = f.compose kind counter := by
  unfold IdFactory.compose
  rw [h.idPrefix, h.nonce]

theorem mint_eq {f f' : IdFactory} {kind : IdKind} {id : StrongId kind.domain}
    (h : f.mint kind = some (id, f')) :
    id.text = f.compose kind (f.counter + 1) ∧ f' = { f with counter := f.counter + 1 } := by
  obtain ⟨parsed, hparse, heq⟩ := Option.map_eq_some_iff.1 h
  cases heq
  refine ⟨?_, rfl⟩
  unfold StrongId.parse at hparse
  split at hparse
  · cases hparse
    rfl
  · cases hparse

theorem Advanced.mint {f f' : IdFactory} {kind : IdKind} {id : StrongId kind.domain}
    (h : f.mint kind = some (id, f')) : Advanced 1 f f' := by
  obtain ⟨-, rfl⟩ := mint_eq h
  refine ⟨rfl, rfl, fun hroom => ?_⟩
  simp only [UInt64.size] at hroom
  simp only [UInt64.toNat_add, UInt64.toNat_one]
  omega

end IdFactory

/-! ## The factory over a step -/

/-- The identities an operation mints, at most. -/
def Op.mints : Op → Nat
  | .createPolicy .. => 1
  | .beginEvaluation .. => 3
  | .commitEvaluation .. | .rollback .. | .snapshot .. => 2
  | .evaluate .. => 5
  | _ => 0

section
variable {limits : Limits} {e e' : Engine} {now : Ticks}

open IdFactory

theorem createPolicy_ids {request : CreatePolicyRequest} {result : OperationResult}
    (h : createPolicy limits e now request = some (e', result)) : Advanced 1 e.ids e'.ids := by
  unfold createPolicy at h
  dsimp only at h
  split at h
  · cases h
    exact .refl ..
  · split at h
    · cases h
      exact .refl ..
    · split at h
      · cases h
        exact .refl ..
      · obtain ⟨⟨id, ids⟩, hmint, h⟩ := Option.bind_eq_some_iff.1 h
        cases h
        exact .mint hmint

theorem beginEvaluation_ids {request : EvaluateRequest} {ticket : EvaluationTicket}
    (h : beginEvaluation limits e now request = some (e', ticket)) : Advanced 3 e.ids e'.ids := by
  unfold beginEvaluation at h
  split at h
  · cases h
    exact .refl ..
  · obtain ⟨⟨_, ids₁⟩, h₁, h⟩ := Option.bind_eq_some_iff.1 h
    obtain ⟨⟨_, ids₂⟩, h₂, h⟩ := Option.bind_eq_some_iff.1 h
    obtain ⟨⟨_, ids₃⟩, h₃, h⟩ := Option.bind_eq_some_iff.1 h
    cases h
    exact ((Advanced.mint h₁).trans (.mint h₂)).trans (.mint h₃)

theorem decisionIdentity_ids {ticket : EvaluationTicket} {ids ids' : IdFactory}
    {id : AdaptationDecisionId} (h : decisionIdentity ticket ids = some (id, ids')) :
    Advanced 1 ids ids' := by
  by_cases hvalid : ticket.decision.valid = true
  · have hown : decisionIdentity ticket ids = some (ticket.decision, ids) := if_pos hvalid
    rw [hown] at h
    cases h
    exact .refl ..
  · have hminted : decisionIdentity ticket ids = ids.mint .decision := if_neg hvalid
    exact .mint (hminted.symm.trans h)

theorem commitTicket_ids {request : CommitDecisionRequest} {result : OperationResult}
    (h : commitTicket limits e now request = some (e', result)) : Advanced 2 e.ids e'.ids := by
  unfold commitTicket at h
  dsimp only at h
  split at h
  · cases h
    exact .refl ..
  · split at h
    · obtain ⟨⟨_, ids⟩, hid, h⟩ := Option.bind_eq_some_iff.1 h
      cases h
      exact (decisionIdentity_ids hid).mono (by decide)
    · split at h
      · cases h
        exact .refl ..
      · split at h
        · cases h
          exact .refl ..
        · obtain ⟨⟨_, ids₁⟩, h₁, h⟩ := Option.bind_eq_some_iff.1 h
          obtain ⟨⟨_, ids₂⟩, h₂, h⟩ := Option.bind_eq_some_iff.1 h
          cases h
          exact (Advanced.mint h₁).trans (decisionIdentity_ids h₂)

theorem settled_ids (e : Engine) : e.settled.ids = e.ids := by
  unfold Engine.settled
  split <;> rfl

theorem commitEvaluation_ids {request : CommitDecisionRequest} {result : OperationResult}
    (h : commitEvaluation limits e now request = some (e', result)) : Advanced 2 e.ids e'.ids := by
  obtain ⟨⟨e₁, _⟩, hcommit, he⟩ := Option.map_eq_some_iff.1 h
  cases he
  rw [settled_ids]
  exact commitTicket_ids hcommit

theorem rollback_ids {request : RollbackRequest} {result : OperationResult}
    (h : rollback limits e now request = some (e', result)) : Advanced 2 e.ids e'.ids := by
  unfold rollback at h
  dsimp only at h
  split at h
  · cases h
    exact .refl ..
  · split at h
    · cases h
      exact .refl ..
    · obtain ⟨⟨_, ids₁⟩, h₁, h⟩ := Option.bind_eq_some_iff.1 h
      obtain ⟨⟨_, ids₂⟩, h₂, h⟩ := Option.bind_eq_some_iff.1 h
      cases h
      exact (Advanced.mint h₁).trans (.mint h₂)

theorem snapshot_ids {policy : AdaptivePolicyId} {view : Option AdaptationSnapshot}
    (h : snapshot limits e now policy = some (e', view)) : Advanced 2 e.ids e'.ids := by
  unfold snapshot at h
  split at h
  · cases h
    exact .refl ..
  · obtain ⟨⟨_, ids₁⟩, h₁, h⟩ := Option.bind_eq_some_iff.1 h
    obtain ⟨⟨_, ids₂⟩, h₂, h⟩ := Option.bind_eq_some_iff.1 h
    cases h
    exact (Advanced.mint h₁).trans (.mint h₂)

/-- After its phase one an evaluation mints what a commit mints. -/
theorem evaluate_ids_after {begun : Ticks} {request : EvaluateRequest} {result : OperationResult}
    {e₁ : Engine} {ticket : EvaluationTicket}
    (h : evaluate limits e begun now request = some (e', result))
    (hbegin : beginEvaluation limits e begun request = some (e₁, ticket)) :
    Advanced 2 e₁.ids e'.ids := by
  obtain ⟨⟨e₂, ticket₂⟩, hbegun, h⟩ := Option.bind_eq_some_iff.1 h
  rw [hbegin] at hbegun
  cases hbegun
  dsimp only at h
  split at h
  · cases h
    exact .refl ..
  · split at h
    · split at h <;>
      · cases h
        exact .refl ..
    · exact commitEvaluation_ids h

theorem evaluate_ids {begun : Ticks} {request : EvaluateRequest} {result : OperationResult}
    (h : evaluate limits e begun now request = some (e', result)) : Advanced 5 e.ids e'.ids := by
  obtain ⟨⟨e₁, ticket⟩, hbegin, -⟩ := Option.bind_eq_some_iff.1 h
  exact (beginEvaluation_ids hbegin).trans (evaluate_ids_after h hbegin)

end

section
variable {config : EngineConfig} {e e' : Engine} {op : Op} {answer : Answer}

theorem step_ids (h : e.step config op = some (e', answer)) :
    IdFactory.Advanced op.mints e.ids e'.ids := by
  cases op with
  | registerPublisher | fencePublisher | advanceEpoch | updatePolicy | transitionPolicy | revokePolicy
  | applyUpstream | publishEvidence | revalidate | decodeStore =>
    cases h
    exact .refl ..
  | createPolicy =>
    obtain ⟨⟨e₁, _⟩, hcreate, he⟩ := Option.map_eq_some_iff.1 h
    cases he
    exact createPolicy_ids hcreate
  | beginEvaluation =>
    obtain ⟨⟨e₁, _⟩, hbegin, he⟩ := Option.map_eq_some_iff.1 h
    cases he
    exact beginEvaluation_ids hbegin
  | commitEvaluation =>
    obtain ⟨⟨e₁, _⟩, hcommit, he⟩ := Option.map_eq_some_iff.1 h
    cases he
    exact commitEvaluation_ids hcommit
  | evaluate =>
    obtain ⟨⟨e₁, _⟩, hevaluate, he⟩ := Option.map_eq_some_iff.1 h
    cases he
    exact evaluate_ids hevaluate
  | rollback =>
    obtain ⟨⟨e₁, _⟩, hrollback, he⟩ := Option.map_eq_some_iff.1 h
    cases he
    exact rollback_ids hrollback
  | snapshot =>
    obtain ⟨⟨e₁, _⟩, hsnapshot, he⟩ := Option.map_eq_some_iff.1 h
    cases he
    exact snapshot_ids hsnapshot

end

end AdaptiveRouting
