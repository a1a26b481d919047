import Mathlib.Data.List.Forall2
import Mathlib.Logic.Basic
import Mathlib.Tactic.Common

/-!
# Early returns

A function of the form "refuse if …; refuse if …; then act" is a sequence of `refuseIf` in `Except`:
the first condition that holds ends the sequence with its answer. The lemmas invert a sequence that
ran to its end (`bind_ok`, `seq_ok`, `refuseIf_ok`), so that what every condition says is available
by name, and find the answer of one that did not (`bind_error`). What makes a sequence run to its end
is read off its steps (`Returns.bind_iff`, `Returns.foldlM_iff`, `mapM_ok_iff`), and where a loop was
refused off `foldlM_error_iff`. A sequence that ends before it reads something is refused alike
whatever that is (`Stops`).
-/

namespace Guard

universe u v

variable {ε : Type u} {α β : Type v}

/-- Return `answer` early when `c` holds. -/
def refuseIf (c : Bool) (answer : ε) : Except ε Unit :=
  if c then .error answer else .ok ()

theorem refuseIf_ok {c : Bool} {answer : ε} {u : Unit} (h : refuseIf c answer = .ok u) : c = false := by
  cases c
  · rfl
  · cases h

theorem refuseIf_error {c : Bool} {answer e : ε} (h : refuseIf c answer = .error e) :
    c = true ∧ answer = e := by
  cases c
  · cases h
  · exact ⟨rfl, Except.error.inj h⟩

@[simp] theorem refuseIf_false (answer : ε) : refuseIf false answer = .ok () := rfl

@[simp] theorem refuseIf_true (answer : ε) : refuseIf true answer = .error answer := rfl

theorem bind_ok {x : Except ε α} {f : α → Except ε β} {b : β} (h : (x >>= f) = .ok b) :
    ∃ a, x = .ok a ∧ f a = .ok b := by
  cases x with
  | error e => cases h
  | ok a => exact ⟨a, rfl, h⟩

/-- A guard that let the sequence go on, and the rest of the sequence. -/
theorem seq_ok {β : Type} {c : Bool} {answer : ε} {f : Unit → Except ε β} {b : β}
    (h : (refuseIf c answer >>= f) = .ok b) : c = false ∧ f () = .ok b := by
  obtain ⟨⟨⟩, hc, hf⟩ := bind_ok h
  exact ⟨refuseIf_ok hc, hf⟩

theorem bind_error {x : Except ε α} {f : α → Except ε β} {e : ε} (h : (x >>= f) = .error e) :
    x = .error e ∨ ∃ a, x = .ok a ∧ f a = .error e := by
  cases x with
  | error e' => exact .inl (congrArg _ (Except.error.inj h))
  | ok a => exact .inr ⟨a, rfl, h⟩

/-- A guarded sequence that was refused: by this guard, or later. -/
theorem seq_error {β : Type} {c : Bool} {answer e : ε} {f : Unit → Except ε β}
    (h : (refuseIf c answer >>= f) = .error e) :
    c = true ∧ answer = e ∨ c = false ∧ f () = .error e := by
  rcases bind_error h with h | ⟨⟨⟩, hc, hf⟩
  · exact .inl (refuseIf_error h)
  · exact .inr ⟨refuseIf_ok hc, hf⟩

/-- A guard that does not hold lets the sequence go on. -/
theorem seq_of {β : Type} {c : Bool} (h : c = false) {answer : ε} {f : Unit → Except ε β} :
    (refuseIf c answer >>= f) = f () := by
  rw [h]
  rfl

theorem bind_of {x : Except ε α} {a : α} (h : x = .ok a) {f : α → Except ε β} :
    (x >>= f) = f a := by
  rw [h]
  rfl

theorem bind_of_error {x : Except ε α} {e : ε} (h : x = .error e) {f : α → Except ε β} :
    (x >>= f) = .error e := by
  rw [h]
  rfl

/-- The value under an option, or an early return. -/
def orRefuse (x : Option α) (answer : ε) : Except ε α :=
  match x with
  | some a => .ok a
  | none => .error answer

theorem orRefuse_ok {x : Option α} {answer : ε} {a : α} (h : orRefuse x answer = .ok a) :
    x = some a := by
  cases x with
  | none => cases h
  | some b => exact congrArg some (Except.ok.inj h)

theorem orRefuse_error {x : Option α} {answer e : ε} (h : orRefuse x answer = .error e) :
    x = none ∧ answer = e := by
  cases x with
  | none => exact ⟨rfl, Except.error.inj h⟩
  | some b => cases h

/-- Return early with the answer under an option. -/
def refuseWith (x : Option ε) : Except ε Unit :=
  match x with
  | some answer => .error answer
  | none => .ok ()

theorem refuseWith_ok {x : Option ε} {u : Unit} (h : refuseWith x = .ok u) : x = none := by
  cases x with
  | none => rfl
  | some answer => cases h

theorem refuseWith_error {x : Option ε} {e : ε} (h : refuseWith x = .error e) : x = some e := by
  cases x with
  | none => cases h
  | some answer => exact congrArg some (Except.error.inj h)

theorem mapError_ok {ε' : Type u} {x : Except ε α} {f : ε → ε'} {a : α}
    (h : x.mapError f = .ok a) : x = .ok a := by
  cases x with
  | error e => cases h
  | ok b => exact congrArg _ (Except.ok.inj h)

theorem mapError_error {ε' : Type u} {x : Except ε α} {f : ε → ε'} {e : ε'}
    (h : x.mapError f = .error e) : ∃ e', x = .error e' ∧ f e' = e := by
  cases x with
  | error e' => exact ⟨e', rfl, Except.error.inj h⟩
  | ok b => cases h

theorem mapError_of {ε' : Type u} {x : Except ε α} {f : ε → ε'} {a : α} (h : x = .ok a) :
    x.mapError f = .ok a := by
  rw [h]
  rfl

theorem orRefuse_of {x : Option α} {a : α} (h : x = some a) {answer : ε} :
    orRefuse x answer = .ok a := by
  rw [h]
  rfl

theorem ite_error {c : Prop} [Decidable c] {answer e : ε} {a : α}
    (h : (if c then .error answer else .ok a) = Except.error e) : c ∧ answer = e := by
  by_cases hc : c
  · rw [if_pos hc] at h
    exact ⟨hc, Except.error.inj h⟩
  · rw [if_neg hc] at h
    cases h

@[simp] theorem orRefuse_some (a : α) (answer : ε) : orRefuse (some a) answer = .ok a := rfl

@[simp] theorem orRefuse_none (answer : ε) : orRefuse (none : Option α) answer = .error answer := rfl

/-! ## Every refusal -/

/-- Every early return of `x` satisfies `P`. -/
def Refuses (P : ε → Prop) (x : Except ε α) : Prop := ∀ e, x = .error e → P e

namespace Refuses

variable {P : ε → Prop}

theorem ok (a : α) : Refuses P (.ok a) := nofun

theorem bind {x : Except ε α} {f : α → Except ε β} (hx : Refuses P x)
    (hf : ∀ a, Refuses P (f a)) : Refuses P (x >>= f) := by
  intro e h
  rcases bind_error h with h | ⟨a, -, h⟩
  · exact hx e h
  · exact hf a e h

theorem guard {c : Bool} {answer : ε} (h : P answer) : Refuses P (refuseIf c answer) :=
  fun _ he => (refuseIf_error he).2 ▸ h

/-- A guard whose answer is in `P` when its condition holds. -/
theorem guard_of {c : Bool} {answer : ε} (h : c = true → P answer) :
    Refuses P (refuseIf c answer) :=
  fun _ he => (refuseIf_error he).2 ▸ h (refuseIf_error he).1

theorem found {x : Option α} {answer : ε} (h : P answer) : Refuses P (orRefuse x answer) :=
  fun _ he => (orRefuse_error he).2 ▸ h

theorem absent {x : Option ε} (h : ∀ e, x = some e → P e) : Refuses P (refuseWith x) :=
  fun e he => h e (refuseWith_error he)

theorem mono {Q : ε → Prop} {x : Except ε α} (hx : Refuses P x) (h : ∀ e, P e → Q e) :
    Refuses Q x :=
  fun e he => h e (hx e he)

/-- A loop refuses in one of its rounds. -/
theorem foldlM {f : α → β → Except ε α} (hf : ∀ a b, Refuses P (f a b)) (a : α) (bs : List β) :
    Refuses P (bs.foldlM f a) := by
  induction bs generalizing a with
  | nil => exact .ok a
  | cons b rest ih =>
    rw [List.foldlM_cons]
    exact .bind (hf a b) fun a' => ih a'

theorem mapError {ε' : Type u} {Q : ε' → Prop} {x : Except ε α} {f : ε → ε'} (hx : Refuses P x)
    (hf : ∀ e, P e → Q (f e)) : Refuses Q (x.mapError f) := by
  intro e' h
  obtain ⟨e, he, rfl⟩ := mapError_error h
  exact hf e (hx e he)

end Refuses

/-! ## Returns and refusals -/

/-- `x` returns a value in `Q`, or is refused with an answer in `P`. -/
structure Ends (Q : α → Prop) (P : ε → Prop) (x : Except ε α) : Prop where
  returns : ∀ a, x = .ok a → Q a
  refuses : Refuses P x

namespace Ends

variable {P : ε → Prop} {Q : α → Prop}

theorem ok {a : α} (h : Q a) : Ends Q P (.ok a) where
  returns := by
    rintro _ ⟨⟩
    exact h
  refuses := .ok a

theorem error {e : ε} (h : P e) : Ends Q P (.error e) where
  returns := nofun
  refuses := by
    rintro _ ⟨⟩
    exact h

theorem bind {R : β → Prop} {x : Except ε α} {f : α → Except ε β} (hx : Ends Q P x)
    (hf : ∀ a, Q a → Ends R P (f a)) : Ends R P (x >>= f) := by
  cases x with
  | error e => exact .error (hx.refuses e rfl)
  | ok a => exact hf a (hx.returns a rfl)

theorem ite {c : Prop} [Decidable c] {x y : Except ε α} (hx : Ends Q P x) (hy : Ends Q P y) :
    Ends Q P (if c then x else y) := by
  split
  · exact hx
  · exact hy

theorem guard {c : Bool} {answer : ε} (h : P answer) : Ends (fun _ => True) P (refuseIf c answer) where
  returns := fun _ _ => trivial
  refuses := .guard h

/-- What every round of a loop keeps, the loop keeps. -/
theorem foldlM {f : α → β → Except ε α} (hf : ∀ a b, Q a → Ends Q P (f a b)) {a : α} (ha : Q a)
    (bs : List β) : Ends Q P (bs.foldlM f a) := by
  induction bs generalizing a with
  | nil => exact .ok ha
  | cons b rest ih =>
    rw [List.foldlM_cons]
    exact (hf a b ha).bind fun a' ha' => ih ha'

end Ends

/-! ## Sequences that were not refused -/

/-- `x` was not refused with an answer in `P`. -/
def Passes (P : ε → Prop) (x : Except ε α) : Prop := ∀ e, x = .error e → ¬ P e

namespace Passes

variable {P : ε → Prop}

theorem of_ok {x : Except ε α} {a : α} (h : x = .ok a) : Passes P x := by
  rintro e rfl
  cases h

theorem of_error {x : Except ε α} {e : ε} (h : x = .error e) (he : ¬ P e) : Passes P x := by
  rintro e' rfl
  cases h
  exact he

/-- A step all of whose refusals are in `P` went through. -/
theorem bind {x : Except ε α} {f : α → Except ε β} (h : Passes P (x >>= f)) (hx : Refuses P x) :
    ∃ a, x = .ok a ∧ Passes P (f a) := by
  cases x with
  | error e => exact absurd (hx e rfl) (h e rfl)
  | ok a => exact ⟨a, rfl, h⟩

/-- So did a guard whose answer is in `P`. -/
theorem seq {β : Type} {c : Bool} {answer : ε} {f : Unit → Except ε β}
    (h : Passes P (refuseIf c answer >>= f)) (ha : P answer) : c = false ∧ Passes P (f ()) := by
  obtain ⟨⟨⟩, hc, hf⟩ := h.bind (.guard ha)
  exact ⟨refuseIf_ok hc, hf⟩

end Passes

/-! ## Sequences that run to their end -/

section
variable {x : Except ε α} {f : α → Except ε β}

/-- The sequence runs to its end. -/
def Returns (x : Except ε α) : Prop := ∃ a, x = .ok a

namespace Returns

theorem ok (a : α) : Returns (.ok a : Except ε α) := ⟨a, rfl⟩

theorem bind_iff : Returns (x >>= f) ↔ ∃ a, x = .ok a ∧ Returns (f a) := by
  constructor
  · intro h
    obtain ⟨b, h⟩ := h
    obtain ⟨a, hx, hf⟩ := bind_ok h
    exact ⟨a, hx, b, hf⟩
  · intro h
    obtain ⟨a, hx, b, hf⟩ := h
    exact ⟨b, by rw [bind_of hx, hf]⟩

theorem seq_iff {β : Type} {c : Bool} {answer : ε} {f : Unit → Except ε β} :
    Returns (refuseIf c answer >>= f) ↔ c = false ∧ Returns (f ()) := by
  cases c with
  | false => exact ⟨fun h => ⟨rfl, h⟩, fun h => h.2⟩
  | true =>
    constructor
    · intro h
      obtain ⟨_, h⟩ := h
      cases h
    · intro h
      cases h.1

theorem ite_iff {c : Prop} [Decidable c] {answer : ε} {a : α} :
    Returns (if c then .error answer else .ok a) ↔ ¬ c := by
  by_cases hc : c
  · rw [if_pos hc]
    refine ⟨fun h => ?_, fun h => absurd hc h⟩
    obtain ⟨_, h⟩ := h
    cases h
  · rw [if_neg hc]
    exact ⟨fun _ => hc, fun _ => ok a⟩

/-- A fold runs to its end when no element ends it, whatever it carries along. -/
theorem foldlM_iff {g : α → β → Except ε α} {C : β → Prop} (h : ∀ a b, Returns (g a b) ↔ C b)
    (a : α) (bs : List β) : Returns (bs.foldlM g a) ↔ ∀ b ∈ bs, C b := by
  induction bs generalizing a with
  | nil => exact ⟨fun _ _ h => absurd h List.not_mem_nil, fun _ => ok a⟩
  | cons b bs ih =>
    rw [List.foldlM_cons, bind_iff, List.forall_mem_cons, ← h a b]
    constructor
    · intro hrest
      obtain ⟨a', hb, hrest⟩ := hrest
      exact ⟨⟨a', hb⟩, (ih a').1 hrest⟩
    · intro hall
      obtain ⟨⟨a', hb⟩, hrest⟩ := hall
      exact ⟨a', hb, (ih a').2 hrest⟩

end Returns

/-- A fold is refused by one round, after the rounds before it ran. -/
theorem foldlM_error_iff {g : α → β → Except ε α} {a : α} {bs : List β} {e : ε} :
    bs.foldlM g a = .error e ↔ ∃ before b after a', bs = before ++ b :: after ∧
      before.foldlM g a = .ok a' ∧ g a' b = .error e := by
  induction bs generalizing a with
  | nil =>
    refine ⟨nofun, fun h => ?_⟩
    obtain ⟨before, b, after, -, hsplit, -⟩ := h
    simp at hsplit
  | cons b bs ih =>
    rw [List.foldlM_cons]
    constructor
    · intro h
      rcases bind_error h with h | ⟨a₁, hfirst, h⟩
      · exact ⟨[], b, bs, a, rfl, rfl, h⟩
      · obtain ⟨before, b', after, a', rfl, hran, hrefused⟩ := ih.1 h
        refine ⟨b :: before, b', after, a', rfl, ?_, hrefused⟩
        rw [List.foldlM_cons, bind_of hfirst, hran]
    · intro h
      obtain ⟨before, b', after, a', hsplit, hran, hrefused⟩ := h
      cases before with
      | nil =>
        cases hsplit
        cases hran
        exact bind_of_error hrefused
      | cons first before =>
        cases hsplit
        rw [List.foldlM_cons] at hran
        obtain ⟨a₁, hfirst, hran⟩ := bind_ok hran
        rw [bind_of hfirst]
        exact ih.2 ⟨before, b', after, a', rfl, hran, hrefused⟩

/-- A fold that does not run to its end is refused by an element that ends it. -/
theorem foldlM_refused {g : α → β → Except ε α} {C : β → Prop} (h : ∀ a b, Returns (g a b) ↔ C b)
    (a : α) {bs : List β} (hbs : ∃ b ∈ bs, ¬ C b) :
    ∃ b ∈ bs, ∃ a' e, ¬ C b ∧ g a' b = .error e ∧ bs.foldlM g a = .error e := by
  cases hfold : bs.foldlM g a with
  | ok a' =>
    obtain ⟨b, hb, hends⟩ := hbs
    exact absurd ((Returns.foldlM_iff h a bs).1 ⟨a', hfold⟩ b hb) hends
  | error e =>
    obtain ⟨before, b, after, a', rfl, -, hrefused⟩ := foldlM_error_iff.1 hfold
    refine ⟨b, by simp, a', e, fun hb => ?_, hrefused, rfl⟩
    obtain ⟨a₁, hreturned⟩ := (h a' b).2 hb
    rw [hrefused] at hreturned
    cases hreturned

/-! ## The answer of a refusal -/

/-- The answer a sequence was refused with. -/
def refusal (x : Except ε α) : Option ε :=
  match x with
  | .error e => some e
  | .ok _ => none

@[simp] theorem refusal_ok (a : α) : refusal (.ok a : Except ε α) = none := rfl

@[simp] theorem refusal_error (e : ε) : refusal (.error e : Except ε α) = some e := rfl

theorem refusal_eq_some {x : Except ε α} {e : ε} : refusal x = some e ↔ x = .error e := by
  cases x <;> simp

/-- A loop is refused by the first of its rounds that is. -/
theorem refusal_mapM (f : α → Except ε β) (xs : List α) :
    refusal (xs.mapM f) = xs.findSome? fun x => refusal (f x) := by
  induction xs with
  | nil => rfl
  | cons x rest ih =>
    rw [List.mapM_cons, List.findSome?_cons, ← ih]
    cases hx : f x with
    | error e => rfl
    | ok y => cases hrest : rest.mapM f <;> rfl

/-- A loop whose rounds overwrite what it keeps has the last value they wrote. -/
theorem foldl_keeps_last {σ α β : Type*} {g : σ → α → σ} {kept : σ → Option β}
    {write : α → Option β} (h : ∀ s x, kept (g s x) = (write x).or (kept s)) (s : σ) (xs : List α) :
    kept (xs.foldl g s) = (xs.filterMap write).getLast?.or (kept s) := by
  induction xs generalizing s with
  | nil => rfl
  | cons x rest ih =>
    rw [List.foldl_cons, ih, h, List.filterMap_cons]
    cases write x with
    | none => rfl
    | some b =>
      rw [List.getLast?_cons]
      cases (rest.filterMap write).getLast? <;> rfl

/-- A loop that collects a value for each item, without a refusal. -/
theorem mapM_ok_iff {f : α → Except ε β} {xs : List α} {ys : List β} :
    xs.mapM f = .ok ys ↔ List.Forall₂ (fun x y => f x = .ok y) xs ys := by
  induction xs generalizing ys with
  | nil =>
    rw [List.mapM_nil, List.forall₂_nil_left_iff]
    exact ⟨fun h => (Except.ok.inj h).symm, fun h => h ▸ rfl⟩
  | cons x rest ih =>
    rw [List.mapM_cons]
    constructor
    · intro h
      obtain ⟨y, hy, h⟩ := bind_ok h
      obtain ⟨ys', hys, h⟩ := bind_ok h
      cases h
      exact .cons hy (ih.1 hys)
    · intro h
      cases h with
      | cons hy hrest => rw [bind_of hy, bind_of (ih.2 hrest)]; rfl

end

/-! ## Sequences that stop -/

/-- The sequence is refused, with an answer in `P` or with the one a whole family of sequences gives. -/
def Stops {ι : Sort*} (P : ε → Prop) (x : Except ε α) (y : ι → Except ε α) : Prop :=
  ∃ e, x = .error e ∧ (P e ∨ ∀ i, y i = .error e)

namespace Stops

variable {ι : Sort*} {P : ε → Prop}

/-- A step the family shares, and the rest. -/
theorem bind {x : Except ε α} {y : ι → Except ε α} {f : α → Except ε β} {g : ι → α → Except ε β}
    (hx : ∀ i, y i = x) (hf : ∀ a, Stops P (f a) fun i => g i a) :
    Stops P (x >>= f) fun i => y i >>= g i := by
  obtain rfl : y = fun _ => x := funext hx
  cases x with
  | error e => exact ⟨e, rfl, .inr fun _ => rfl⟩
  | ok a => exact hf a

/-- A guard the family shares, and the rest. -/
theorem seq {β : Type} {c : Bool} {answer : ε} {f : Unit → Except ε β} {g : ι → Unit → Except ε β}
    (hf : Stops P (f ()) fun i => g i ()) :
    Stops P (refuseIf c answer >>= f) fun i => refuseIf c answer >>= g i :=
  .bind (fun _ => rfl) fun _ => hf

/-- The sequence stops here, whatever the family does. -/
theorem here {x : Except ε α} {f : α → Except ε β} {y : ι → Except ε β} {e : ε}
    (hx : x = .error e) (he : P e) : Stops P (x >>= f) y :=
  ⟨e, by rw [hx]; rfl, .inl he⟩

end Stops

end Guard
