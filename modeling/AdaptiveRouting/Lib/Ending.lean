import AdaptiveRouting.Lib.Runs

/-!
# Work that ends

A system works until it rests. It takes steps of its own, and may have to wait for steps that others
grant it. When a measure decreases with every step taken at work, no sequence of steps longer than the
measure keeps the system at work (`rests_within`); when a step of its own is open wherever it does not
wait, it comes to rest or to wait by itself (`rests_or_waits`), and to rest when what it waits for is
granted (`comes_to_rest`).
-/

namespace Runs

variable {σ ι ρ : Type*} {step : σ → ι → Option (σ × ρ)} {I working waits : σ → Prop}
  {own : σ → ι → Prop} {μ : σ → Nat}

/-- The steps of a system at work, under an invariant. -/
structure Works (step : σ → ι → Option (σ × ρ)) (I working waits : σ → Prop) (own : σ → ι → Prop)
    (μ : σ → Nat) : Prop where
  kept : ∀ s i s' r, I s → step s i = some (s', r) → I s'
  decreases : ∀ s i s' r, I s → working s → step s i = some (s', r) → μ s' < μ s
  continues : ∀ s, I s → working s → waits s ∨ ∃ i s' r, own s i ∧ step s i = some (s', r)
  granted : ∀ s, I s → working s → waits s → ∃ i s' r, step s i = some (s', r)

/-- More steps than the measure pass a state at rest. -/
theorem Works.rests_within (h : Works step I working waits own μ) {s s' : σ} {labels : List ι}
    (hs : I s) (hrun : runAll step s labels = some s') (hlong : μ s < labels.length) :
    ∃ front back t, labels = front ++ back ∧ front.length ≤ μ s ∧ runAll step s front = some t ∧
      ¬ working t := by
  induction labels generalizing s with
  | nil => exact absurd hlong (Nat.not_lt_zero _)
  | cons i rest ih =>
    by_cases hworks : working s
    · obtain ⟨⟨s₁, r⟩, hstep, hrest⟩ := Option.bind_eq_some_iff.1 hrun
      have hless := h.decreases s i s₁ r hs hworks hstep
      simp only [List.length_cons] at hlong
      obtain ⟨front, back, t, rfl, hshort, hfront, hrests⟩ :=
        ih (h.kept s i s₁ r hs hstep) hrest (by omega)
      refine ⟨i :: front, back, t, rfl, ?_, ?_, hrests⟩
      · simp only [List.length_cons]
        omega
      · simp only [runAll, hstep, Option.bind_some]
        exact hfront
    · exact ⟨[], i :: rest, s, rfl, Nat.zero_le _, rfl, hworks⟩

/-- From every state some steps of the system's own lead to rest, or to wait. -/
theorem Works.rests_or_waits (h : Works step I working waits own μ) {s : σ} (hs : I s) :
    ∃ t, Run step own s t ∧ (¬ working t ∨ waits t) := by
  generalize hn : μ s = n
  induction n using Nat.strongRecOn generalizing s with
  | ind n ih =>
    by_cases hworks : working s
    · rcases h.continues s hs hworks with hwaits | ⟨i, s₁, r, hown, hstep⟩
      · exact ⟨s, .refl s, .inr hwaits⟩
      · have hless := h.decreases s i s₁ r hs hworks hstep
        obtain ⟨t, hrun, hends⟩ := ih (μ s₁) (by omega) (h.kept s i s₁ r hs hstep) rfl
        exact ⟨t, (Run.single hown hstep).trans hrun, hends⟩
    · exact ⟨s, .refl s, .inl hworks⟩

/-- From every state some steps lead to rest. -/
theorem Works.comes_to_rest (h : Works step I working waits own μ) {s : σ} (hs : I s) :
    ∃ labels t, runAll step s labels = some t ∧ ¬ working t := by
  generalize hn : μ s = n
  induction n using Nat.strongRecOn generalizing s with
  | ind n ih =>
    by_cases hworks : working s
    · have hopen : ∃ i s' r, step s i = some (s', r) := by
        rcases h.continues s hs hworks with hwaits | ⟨i, s₁, r, -, hstep⟩
        · exact h.granted s hs hworks hwaits
        · exact ⟨i, s₁, r, hstep⟩
      obtain ⟨i, s₁, r, hstep⟩ := hopen
      have hless := h.decreases s i s₁ r hs hworks hstep
      obtain ⟨labels, t, hrun, hrests⟩ := ih (μ s₁) (by omega) (h.kept s i s₁ r hs hstep) rfl
      refine ⟨i :: labels, t, ?_, hrests⟩
      simp only [runAll, hstep, Option.bind_some]
      exact hrun
    · exact ⟨[], s, rfl, hworks⟩

end Runs
