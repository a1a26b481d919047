import Mathlib.Logic.Basic
import Mathlib.Tactic.Common

/-!
# Runs of a partial step function

`Run step ok s s'`: `s'` is reached from `s` by steps whose pre-state and label all meet `ok`
(`fun _ _ => True` for every run). `step s i = none` ends the system: no run goes on from there.
The rules: an invariant of one step is an invariant of a run (`Run.inv`), a preorder that one step
respects relates the ends of a run (`Run.rel`), and what every step asks of its pre-state and the end
has, the start has (`Run.front`). A `Trace` is a run with its history.
-/

namespace Runs

variable {σ ι ρ : Type*}

/-- Runs all of whose steps meet `ok`. -/
inductive Run (step : σ → ι → Option (σ × ρ)) (ok : σ → ι → Prop) : σ → σ → Prop
  | refl (s : σ) : Run step ok s s
  | tail {s s' s'' : σ} {i : ι} {r : ρ} :
      Run step ok s s' → ok s' i → step s' i = some (s'', r) → Run step ok s s''

namespace Run

variable {step : σ → ι → Option (σ × ρ)} {ok ok' : σ → ι → Prop} {s s' s'' : σ}

theorem single {i : ι} {r : ρ} (hi : ok s i) (h : step s i = some (s', r)) : Run step ok s s' :=
  .tail (.refl s) hi h

theorem trans (h₁ : Run step ok s s') (h₂ : Run step ok s' s'') : Run step ok s s'' := by
  induction h₂ with
  | refl => exact h₁
  | tail _ hi hs ih => exact .tail ih hi hs

theorem mono (h : Run step ok s s') (himp : ∀ s i, ok s i → ok' s i) : Run step ok' s s' := by
  induction h with
  | refl => exact .refl _
  | tail _ hi hs ih => exact .tail ih (himp _ _ hi) hs

/-- What one step keeps, a run keeps. -/
theorem inv {I : σ → Prop} (h : Run step ok s s')
    (hstep : ∀ s i s' r, ok s i → I s → step s i = some (s', r) → I s') (h₀ : I s) : I s' := by
  induction h with
  | refl => exact h₀
  | tail _ hi hs ih => exact hstep _ _ _ _ hi ih hs

/-- A preorder every step respects relates the ends of a run. -/
theorem rel {R : σ → σ → Prop} (h : Run step ok s s') (hrefl : ∀ s, R s s)
    (htrans : ∀ {a b c}, R a b → R b c → R a c)
    (hstep : ∀ s i s' r, ok s i → step s i = some (s', r) → R s s') : R s s' := by
  induction h with
  | refl => exact hrefl _
  | tail _ hi hs ih => exact htrans ih (hstep _ _ _ _ hi hs)

/-- What every step needs of its pre-state, and the end has, the start has. -/
theorem front {P : σ → Prop} (h : Run step ok s s') (hok : ∀ s i, ok s i → P s) (hend : P s') :
    P s := by
  induction h with
  | refl => exact hend
  | tail _ hi _ ih => exact ih (hok _ _ hi)

/-- An invariant of the states a run passes through may be used in the step lemma. -/
theorem inv_under {I J : σ → Prop} (h : Run step ok s s')
    (hJ : ∀ s i s' r, ok s i → J s → step s i = some (s', r) → J s')
    (hstep : ∀ s i s' r, ok s i → J s → I s → step s i = some (s', r) → I s')
    (hJ₀ : J s) (h₀ : I s) : I s' :=
  (h.inv (I := fun s => J s ∧ I s)
    (fun s i s' r hi hs hst => ⟨hJ s i s' r hi hs.1 hst, hstep s i s' r hi hs.1 hs.2 hst⟩)
    ⟨hJ₀, h₀⟩).2

end Run

/-! ## Runs with their history -/

/-- One step with the states at its ends. -/
structure Call (σ ι ρ : Type*) where
  pre : σ
  label : ι
  reply : ρ
  post : σ

/-- A run with the calls made so far, which may decide what may be called next. -/
inductive Trace (step : σ → ι → Option (σ × ρ)) (ok : List (Call σ ι ρ) → σ → ι → Prop) (s₀ : σ) :
    List (Call σ ι ρ) → σ → Prop
  | start : Trace step ok s₀ [] s₀
  | call {calls : List (Call σ ι ρ)} {s s' : σ} {i : ι} {r : ρ} :
      Trace step ok s₀ calls s → ok calls s i → step s i = some (s', r) →
      Trace step ok s₀ (calls ++ [⟨s, i, r, s'⟩]) s'

namespace Trace

variable {step : σ → ι → Option (σ × ρ)} {ok : List (Call σ ι ρ) → σ → ι → Prop} {s₀ s : σ}
  {calls : List (Call σ ι ρ)}

/-- The run of a trace, under what its calls meet whatever was called before. -/
theorem under {ok' : σ → ι → Prop} (h : Trace step ok s₀ calls s)
    (himp : ∀ calls s i, ok calls s i → ok' s i) : Run step ok' s₀ s := by
  induction h with
  | start => exact .refl _
  | call _ hi hs ih => exact .tail ih (himp _ _ _ hi) hs

/-- A call of a trace was made at the end of a shorter trace. -/
theorem called (h : Trace step ok s₀ calls s) {call : Call σ ι ρ} (hmem : call ∈ calls) :
    ∃ before, Trace step ok s₀ before call.pre ∧ ok before call.pre call.label ∧
      step call.pre call.label = some (call.post, call.reply) := by
  induction h with
  | start => cases hmem
  | call htrace hok hs ih =>
    rcases List.mem_append.1 hmem with hmem | hmem
    · exact ih hmem
    · cases List.mem_singleton.1 hmem
      exact ⟨_, htrace, hok, hs⟩

/-- A call of a trace was allowed after the calls ahead of it. -/
theorem split (h : Trace step ok s₀ calls s) {before after : List (Call σ ι ρ)} {call : Call σ ι ρ}
    (hcalls : calls = before ++ call :: after) : ok before call.pre call.label ∧
      step call.pre call.label = some (call.post, call.reply) := by
  induction h generalizing after with
  | start => simp at hcalls
  | call htrace hok hs ih =>
    rcases List.eq_nil_or_concat after with rfl | ⟨rest, last, rfl⟩
    · obtain ⟨rfl, hlast⟩ := List.append_inj' hcalls rfl
      cases hlast
      exact ⟨hok, hs⟩
    · rw [List.concat_eq_append, ← List.cons_append, ← List.append_assoc] at hcalls
      exact ih (List.append_inj' hcalls rfl).1

/-- What holds at the start and is kept by every allowed call holds along a trace. -/
theorem inv_under {I : List (Call σ ι ρ) → σ → Prop} (h : Trace step ok s₀ calls s) (h₀ : I [] s₀)
    (hcall : ∀ calls s i s' r, ok calls s i → I calls s → step s i = some (s', r) →
      I (calls ++ [⟨s, i, r, s'⟩]) s') : I calls s := by
  induction h with
  | start => exact h₀
  | call _ hok hs ih => exact hcall _ _ _ _ _ hok ih hs

theorem inv {I : List (Call σ ι ρ) → σ → Prop} (h : Trace step ok s₀ calls s) (h₀ : I [] s₀)
    (hcall : ∀ calls s i s' r, I calls s → step s i = some (s', r) →
      I (calls ++ [⟨s, i, r, s'⟩]) s') : I calls s :=
  h.inv_under h₀ fun calls s i s' r _ => hcall calls s i s' r

end Trace

/-! ## Listed steps -/

/-- The steps of a list in order. -/
def runAll (step : σ → ι → Option (σ × ρ)) (s : σ) : List ι → Option σ
  | [] => some s
  | i :: rest => (step s i).bind fun (s', _) => runAll step s' rest

/-- The calls a list of steps makes, up to the first that ends the system. -/
def callsOf (step : σ → ι → Option (σ × ρ)) (s : σ) : List ι → List (Call σ ι ρ)
  | [] => []
  | i :: rest => match step s i with
    | none => []
    | some (s', r) => ⟨s, i, r, s'⟩ :: callsOf step s' rest

section
variable {step : σ → ι → Option (σ × ρ)} {s s' : σ}

/-- A trace goes on with listed steps when each may be called after the calls ahead of it. -/
theorem Trace.callsOf {ok : List (Call σ ι ρ) → σ → ι → Prop} {s₀ : σ} {calls : List (Call σ ι ρ)}
    {labels : List ι} (h : Trace step ok s₀ calls s) (hrun : runAll step s labels = some s')
    (hok : ∀ front call back, callsOf step s labels = front ++ call :: back →
      ok (calls ++ front) call.pre call.label) :
    Trace step ok s₀ (calls ++ callsOf step s labels) s' := by
  induction labels generalizing calls s with
  | nil =>
    cases hrun
    rwa [Runs.callsOf, List.append_nil]
  | cons i rest ih =>
    obtain ⟨⟨s₁, r⟩, hstep, hrest⟩ := Option.bind_eq_some_iff.1 hrun
    have hcalls : Runs.callsOf step s (i :: rest) = ⟨s, i, r, s₁⟩ :: Runs.callsOf step s₁ rest := by
      simp only [Runs.callsOf, hstep]
    rw [hcalls] at hok ⊢
    have hfirst : ok calls s i := by simpa using hok [] ⟨s, i, r, s₁⟩ _ rfl
    have hnext := ih (.call h hfirst hstep) hrest fun front call back heq => by
      simpa using hok (⟨s, i, r, s₁⟩ :: front) call back (by rw [heq]; rfl)
    simpa using hnext

/-- Listed steps whose labels all meet a condition. -/
theorem runAll_under (ok : ι → Prop) {labels : List ι} (h : runAll step s labels = some s')
    (hok : ∀ i ∈ labels, ok i) : Run step (fun _ i => ok i) s s' := by
  induction labels generalizing s with
  | nil =>
    cases h
    exact .refl _
  | cons i rest ih =>
    obtain ⟨⟨s₁, r⟩, hstep, hrest⟩ := Option.bind_eq_some_iff.1 h
    have hfirst := hok i List.mem_cons_self
    exact (Run.single hfirst hstep).trans (ih hrest fun j hj => hok j (List.mem_cons_of_mem _ hj))

/-- Listed steps make a run when each of them is allowed where it is made. -/
theorem runAll_where {ok : σ → ι → Prop} {labels : List ι} (h : runAll step s labels = some s')
    (hok : ∀ call ∈ callsOf step s labels, ok call.pre call.label) : Run step ok s s' := by
  induction labels generalizing s with
  | nil =>
    cases h
    exact .refl _
  | cons i rest ih =>
    obtain ⟨⟨s₁, r⟩, hstep, hrest⟩ := Option.bind_eq_some_iff.1 h
    have hcalls : callsOf step s (i :: rest) = ⟨s, i, r, s₁⟩ :: callsOf step s₁ rest := by
      simp only [callsOf, hstep]
    rw [hcalls] at hok
    exact (Run.single (hok _ List.mem_cons_self) hstep).trans
      (ih hrest fun call hcall => hok call (List.mem_cons_of_mem _ hcall))

theorem runAll_run {labels : List ι} (h : runAll step s labels = some s') :
    Run step (fun _ _ => True) s s' :=
  runAll_under (fun _ => True) h fun _ _ => trivial

theorem runAll_append (labels more : List ι) :
    runAll step s (labels ++ more) = (runAll step s labels).bind (runAll step · more) := by
  induction labels generalizing s with
  | nil => rfl
  | cons i rest ih =>
    simp only [List.cons_append, runAll, Option.bind_assoc]
    exact congrArg _ (funext fun _ => ih)

/-- A test of where a list of steps ends is a test of a state some run reaches. -/
theorem exists_run_of_runAll {labels : List ι} {p : σ → Bool}
    (h : (runAll step s labels).any p = true) :
    ∃ s', runAll step s labels = some s' ∧ p s' = true := by
  cases hr : runAll step s labels with
  | none =>
    rw [hr] at h
    cases h
  | some s' =>
    rw [hr] at h
    exact ⟨s', rfl, h⟩

end

end Runs
