import Mathlib.Logic.Function.Basic
import Mathlib.Tactic.Common

/-!
# Encodings that show where they end

`Delimited P f`: two encodings of values in `P`, each with something behind it, agree only if the
values and what follows agree. Words of a fixed length are delimited (`of_length`), so are texts
behind their length (`prefixed`) and records of delimited parts (`append`); a sequence of delimited
items, none of them empty, is told from every other one by its bytes (`flatMap_inj`).
-/

namespace Framing

universe u v w

variable {α : Type u} {γ : Type v} {β : Type w}

/-- What is read of an encoding does not depend on what follows it. -/
def Delimited (P : α → Prop) (f : α → List β) : Prop :=
  ∀ ⦃a b : α⦄, P a → P b → ∀ r s : List β, f a ++ r = f b ++ s → a = b ∧ r = s

namespace Delimited

variable {P : α → Prop} {Q : γ → Prop} {f : α → List β} {g : γ → List β}

theorem inj (h : Delimited P f) {a b : α} (ha : P a) (hb : P b) (hab : f a = f b) : a = b := by
  have happend : f a ++ [] = f b ++ [] := by rw [hab]
  exact (h ha hb [] [] happend).1

theorem mono {P' : α → Prop} (h : Delimited P f) (hsub : ∀ a, P' a → P a) : Delimited P' f :=
  fun _ _ ha hb => h (hsub _ ha) (hsub _ hb)

/-- Words of one length. -/
theorem of_length (hlen : ∀ a b, (f a).length = (f b).length) (hinj : Function.Injective f) :
    Delimited (fun _ => True) f := by
  intro a b _ _ r s h
  obtain ⟨hword, hrest⟩ := List.append_inj h (hlen a b)
  exact ⟨hinj hword, hrest⟩

/-- A value read through a field of it. -/
theorem comap {δ : Type*} {field : δ → α} (h : Delimited P f) (hinj : Function.Injective field) :
    Delimited (fun d => P (field d)) fun d => f (field d) := by
  intro a b ha hb r s hab
  obtain ⟨hfield, hrest⟩ := h ha hb r s hab
  exact ⟨hinj hfield, hrest⟩

/-- One part behind another. -/
theorem append (hf : Delimited P f) (hg : Delimited Q g) :
    Delimited (fun p : α × γ => P p.1 ∧ Q p.2) fun p => f p.1 ++ g p.2 := by
  rintro ⟨a, c⟩ ⟨b, d⟩ ⟨ha, hc⟩ ⟨hb, hd⟩ r s h
  simp only [List.append_assoc] at h
  obtain ⟨hab, hrest⟩ := hf ha hb _ _ h
  obtain ⟨hcd, hrs⟩ := hg hc hd _ _ hrest
  exact ⟨by simp_all, hrs⟩

/-- A text behind its length, for the lengths that the length word tells apart. -/
theorem prefixed {size : Nat → List β} {N : Nat → Prop} (hsize : Delimited N size) :
    Delimited (fun t : List β => N t.length) fun t => size t.length ++ t := by
  intro a b ha hb r s h
  simp only [List.append_assoc] at h
  obtain ⟨hlen, hrest⟩ := hsize ha hb _ _ h
  exact List.append_inj hrest hlen

/-- A sequence of items that are not empty. -/
theorem flatMap_inj (h : Delimited P f) (hne : ∀ a, f a ≠ []) {as bs : List α}
    (ha : ∀ a ∈ as, P a) (hb : ∀ b ∈ bs, P b) (hab : as.flatMap f = bs.flatMap f) : as = bs := by
  induction as generalizing bs with
  | nil =>
    cases bs with
    | nil => rfl
    | cons b bs => simp [hne] at hab
  | cons a as ih =>
    cases bs with
    | nil => simp [hne] at hab
    | cons b bs =>
      simp only [List.flatMap_cons] at hab
      obtain ⟨hhead, htail⟩ := h (ha a List.mem_cons_self) (hb b List.mem_cons_self) _ _ hab
      have hrest := ih (fun x hx => ha x (List.mem_cons_of_mem _ hx))
        (fun x hx => hb x (List.mem_cons_of_mem _ hx)) htail
      rw [hhead, hrest]

end Delimited

end Framing
