import AdaptiveRouting.Lib.Guard

/-!
# Two runs of a guarded sequence

A sequence that runs on two related inputs stays in lockstep: it is refused on both, with related
answers, or ends on both, with related results (`Guard.Lockstep`). The rules follow the sequence step
by step: related guards (`seq`), related lookups (`found`), a step after another (`bind`) and a loop
over one list (`foldlM`). Lookups need not find equal values: they agree through a reading of what they
find (`map_bind_congr`).
-/

namespace Guard

universe u v

/-- Refused on both sides with answers in `E`, or ended on both with results in `R`. -/
inductive Lockstep {ε ε' : Type u} {α α' : Type v} (E : ε → ε' → Prop) (R : α → α' → Prop) :
    Except ε α → Except ε' α' → Prop
  | refused {e : ε} {e' : ε'} (h : E e e') : Lockstep E R (.error e) (.error e')
  | ended {a : α} {a' : α'} (h : R a a') : Lockstep E R (.ok a) (.ok a')

/-- Two lookups that agree through a reading agree through what the reading decides. -/
theorem map_congr_of_map {α α' γ δ : Type*} {x : Option α} {x' : Option α'} {g : α → γ} {g' : α' → γ}
    {k : α → δ} {k' : α' → δ} (hx : x'.map g' = x.map g) (hk : ∀ a a', g' a' = g a → k' a' = k a) :
    x'.map k' = x.map k := by
  cases x with
  | none =>
    obtain rfl := Option.map_eq_none_iff.1 hx
    rfl
  | some a =>
    obtain ⟨a', rfl, ha⟩ := Option.map_eq_some_iff.1 hx
    exact congrArg some (hk a a' ha)

/-- Two lookups that agree through a reading of what they find, followed by lookups that agree through
another one on what reads the same. -/
theorem map_bind_congr {α α' β β' γ δ : Type*} {x : Option α} {x' : Option α'} {g : α → γ} {g' : α' → γ}
    {f : α → Option β} {f' : α' → Option β'} {k : β → δ} {k' : β' → δ} (hx : x'.map g' = x.map g)
    (hf : ∀ a a', g' a' = g a → (f' a').map k' = (f a).map k) :
    (x'.bind f').map k' = (x.bind f).map k := by
  cases x with
  | none =>
    obtain rfl := Option.map_eq_none_iff.1 hx
    rfl
  | some a =>
    obtain ⟨a', rfl, ha⟩ := Option.map_eq_some_iff.1 hx
    exact hf a a' ha

namespace Lockstep

variable {ε ε' : Type u} {α α' β β' : Type v} {E : ε → ε' → Prop} {R : α → α' → Prop}
  {S : β → β' → Prop}

theorem bind {x : Except ε α} {x' : Except ε' α'} {f : α → Except ε β} {f' : α' → Except ε' β'}
    (hx : Lockstep E R x x') (hf : ∀ a a', R a a' → Lockstep E S (f a) (f' a')) :
    Lockstep E S (x >>= f) (x' >>= f') := by
  cases hx with
  | refused h => exact .refused h
  | ended h => exact hf _ _ h

theorem guard {c c' : Bool} {answer : ε} {answer' : ε'} (hc : c' = c) (h : E answer answer') :
    Lockstep E (fun _ _ => True) (refuseIf c answer) (refuseIf c' answer') := by
  subst hc
  cases c' with
  | true => exact .refused h
  | false => exact .ended trivial

theorem ite {c : Prop} [Decidable c] {x y : Except ε α} {x' y' : Except ε' α'} (hx : Lockstep E R x x')
    (hy : Lockstep E R y y') : Lockstep E R (if c then x else y) (if c then x' else y') := by
  by_cases hc : c
  · rwa [if_pos hc, if_pos hc]
  · rwa [if_neg hc, if_neg hc]

/-- A guard, and the sequence it lets go on. -/
theorem seq {α α' : Type} {R : α → α' → Prop} {c c' : Bool} {answer : ε} {answer' : ε'}
    {f : Unit → Except ε α} {f' : Unit → Except ε' α'} (hc : c' = c) (h : E answer answer')
    (hf : Lockstep E R (f ()) (f' ())) :
    Lockstep E R (refuseIf c answer >>= f) (refuseIf c' answer' >>= f') :=
  (guard hc h).bind fun _ _ _ => hf

/-- Two lookups that agree through a reading of what they find. -/
theorem found {γ : Type*} {x : Option α} {x' : Option α'} {g : α → γ} {g' : α' → γ} {answer : ε}
    {answer' : ε'} (hx : x'.map g' = x.map g) (h : E answer answer') :
    Lockstep E (fun a a' => g' a' = g a) (orRefuse x answer) (orRefuse x' answer') := by
  cases x with
  | none =>
    obtain rfl := Option.map_eq_none_iff.1 hx
    exact .refused h
  | some a =>
    obtain ⟨a', rfl, ha⟩ := Option.map_eq_some_iff.1 hx
    exact .ended ha

/-- One lookup on both sides. -/
theorem lookup (x : Option α) {answer : ε} {answer' : ε'} (h : E answer answer') :
    Lockstep E (fun a a' => a' = a) (orRefuse x answer) (orRefuse x answer') := by
  cases x with
  | none => exact .refused h
  | some a => exact .ended rfl

theorem absent {x : Option ε} {x' : Option ε'} (hsome : x'.isSome = x.isSome)
    (h : ∀ e e', x = some e → x' = some e' → E e e') :
    Lockstep E (fun _ _ => True) (refuseWith x) (refuseWith x') := by
  cases x with
  | none =>
    obtain rfl := Option.isNone_iff_eq_none.1 (by simpa using hsome)
    exact .ended trivial
  | some e =>
    obtain ⟨e', rfl⟩ := Option.isSome_iff_exists.1 hsome
    exact .refused (h e e' rfl rfl)

theorem mapError {δ δ' : Type u} {D : δ → δ' → Prop} {x : Except ε α} {x' : Except ε' α'}
    {f : ε → δ} {f' : ε' → δ'} (hx : Lockstep E R x x') (hf : ∀ e e', E e e' → D (f e) (f' e')) :
    Lockstep D R (x.mapError f) (x'.mapError f') := by
  cases hx with
  | refused h => exact .refused (hf _ _ h)
  | ended h => exact .ended h

/-- A loop over one list keeps what relates the accumulators. -/
theorem foldlM {ι : Type v} {f : α → ι → Except ε α} {f' : α' → ι → Except ε' α'}
    (hf : ∀ i a a', R a a' → Lockstep E R (f a i) (f' a' i)) {a : α} {a' : α'} (h : R a a')
    (is : List ι) : Lockstep E R (is.foldlM f a) (is.foldlM f' a') := by
  induction is generalizing a a' with
  | nil => exact .ended h
  | cons i rest ih =>
    rw [List.foldlM_cons, List.foldlM_cons]
    exact (hf i a a' h).bind fun _ _ h => ih h

end Lockstep

end Guard
