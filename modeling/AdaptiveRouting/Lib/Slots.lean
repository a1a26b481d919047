import Mathlib.Data.List.Induction
import Mathlib.Data.List.Perm.Subperm
import Mathlib.Tactic.Common

/-!
# Weights of slots

A list of slots that are added at the end and changed one at a time. `weigh f slots` sums a weight over
them: changing a slot changes the sum by the difference (`weigh_set`). `weighAt f slots keys` sums over
the slots named by a list of positions, which is no more than all of them when no position is named twice
(`weighAt_le`).
-/

namespace Slots

variable {α : Type*} {f g : α → Nat}

def weigh (f : α → Nat) : List α → Nat
  | [] => 0
  | a :: rest => f a + weigh f rest

theorem weigh_append (f : α → Nat) (front back : List α) :
    weigh f (front ++ back) = weigh f front + weigh f back := by
  induction front with
  | nil => simp [weigh]
  | cons a rest ih =>
    simp only [List.cons_append, weigh, ih]
    omega

theorem weigh_snoc (f : α → Nat) (slots : List α) (a : α) :
    weigh f (slots ++ [a]) = weigh f slots + f a := by
  rw [weigh_append]
  rfl

/-- A changed slot. -/
theorem weigh_set (f : α → Nat) {slots : List α} {i : Nat} {a : α} (h : slots[i]? = some a) (b : α) :
    weigh f (slots.set i b) + f a = weigh f slots + f b := by
  induction slots generalizing i with
  | nil => simp at h
  | cons c rest ih =>
    cases i with
    | zero =>
      cases h
      simp only [List.set_cons_zero, weigh]
      omega
    | succ i =>
      have hrest := ih (by simpa using h)
      simp only [List.set_cons_succ, weigh]
      omega

theorem weigh_mono {slots : List α} (h : ∀ a ∈ slots, f a ≤ g a) : weigh f slots ≤ weigh g slots := by
  induction slots with
  | nil => exact Nat.le_refl _
  | cons a rest ih =>
    have hfirst := h a List.mem_cons_self
    have hrest := ih fun b hb => h b (List.mem_cons_of_mem _ hb)
    simp only [weigh]
    omega

theorem weigh_congr {slots : List α} (h : ∀ a ∈ slots, f a = g a) : weigh f slots = weigh g slots :=
  Nat.le_antisymm (weigh_mono fun a ha => Nat.le_of_eq (h a ha))
    (weigh_mono fun a ha => Nat.le_of_eq (h a ha).symm)

theorem weigh_eq_zero {slots : List α} (h : ∀ a ∈ slots, f a = 0) : weigh f slots = 0 := by
  induction slots with
  | nil => rfl
  | cons a rest ih =>
    rw [weigh, h a List.mem_cons_self, ih fun b hb => h b (List.mem_cons_of_mem _ hb)]

theorem weigh_perm {slots other : List α} (h : slots.Perm other) : weigh f slots = weigh f other := by
  induction h with
  | nil => rfl
  | cons a _ ih => simp only [weigh, ih]
  | swap a b rest =>
    simp only [weigh]
    omega
  | trans _ _ ih₁ ih₂ => exact ih₁.trans ih₂

theorem weigh_sublist {slots other : List α} (h : slots.Sublist other) :
    weigh f slots ≤ weigh f other := by
  induction h with
  | slnil => exact Nat.le_refl _
  | cons a _ ih =>
    simp only [weigh]
    omega
  | cons_cons a _ ih =>
    simp only [weigh]
    omega

theorem set_cases {slots : List α} {i j : Nat} {a b : α} (h : (slots.set i b)[j]? = some a) :
    (j = i ∧ a = b) ∨ (j ≠ i ∧ slots[j]? = some a) := by
  by_cases hj : j = i
  · subst hj
    obtain ⟨hlt, hget⟩ := List.getElem?_eq_some_iff.1 h
    rw [List.getElem_set_self] at hget
    exact .inl ⟨rfl, hget.symm⟩
  · rw [List.getElem?_set_ne (Ne.symm hj)] at h
    exact .inr ⟨hj, h⟩

theorem set_same {slots : List α} {i : Nat} {a : α} (h : slots[i]? = some a) (b : α) :
    (slots.set i b)[i]? = some b := by
  obtain ⟨hlt, -⟩ := List.getElem?_eq_some_iff.1 h
  rw [List.getElem?_set_self hlt]

theorem snoc_cases {slots : List α} {j : Nat} {a b : α} (h : (slots ++ [b])[j]? = some a) :
    (j = slots.length ∧ a = b) ∨ (j ≠ slots.length ∧ slots[j]? = some a) := by
  rcases Nat.lt_or_ge j slots.length with hlt | hge
  · rw [List.getElem?_append_left hlt] at h
    exact .inr ⟨Nat.ne_of_lt hlt, h⟩
  · rw [List.getElem?_append_right hge] at h
    obtain ⟨hlt, hget⟩ := List.getElem?_eq_some_iff.1 h
    simp only [List.length_singleton] at hlt
    refine .inl ⟨by omega, ?_⟩
    simpa using hget.symm

theorem snoc_some {slots : List α} {j : Nat} {a : α} (h : slots[j]? = some a) (b : α) :
    (slots ++ [b])[j]? = some a := by
  obtain ⟨hlt, -⟩ := List.getElem?_eq_some_iff.1 h
  rw [List.getElem?_append_left hlt, h]

theorem modify_eq_set {slots : List α} {i : Nat} {a : α} (h : slots[i]? = some a) (change : α → α) :
    slots.modify i change = slots.set i (change a) := by
  rw [List.modify_eq_set_getElem?, h]
  rfl

/-! ## Named slots -/

/-- What the slot at a position weighs; a slot that is not there weighs nothing. -/
def weightAt (f : α → Nat) (slots : List α) (i : Nat) : Nat := (slots[i]?.map f).getD 0

def weighAt (f : α → Nat) (slots : List α) (keys : List Nat) : Nat := weigh (weightAt f slots) keys

theorem weigh_eq_weighAt (f : α → Nat) (slots : List α) :
    weigh f slots = weighAt f slots (List.range slots.length) := by
  induction slots using List.reverseRecOn with
  | nil => rfl
  | append_singleton front a ih =>
    have hfront : weighAt f (front ++ [a]) (List.range front.length) =
        weighAt f front (List.range front.length) := weigh_congr fun i hi => by
      unfold weightAt
      rw [List.getElem?_append_left (List.mem_range.1 hi)]
    have hlast : weightAt f (front ++ [a]) front.length = f a := by
      simp [weightAt]
    rw [weigh_snoc, ih, List.length_append, List.length_singleton, List.range_succ, weighAt, weighAt,
      weigh_snoc, hlast]
    exact congrArg (· + f a) hfront.symm

/-- The slots at some positions weigh no more than those of another list do. -/
theorem weighAt_mono {slots other : List α} (h : ∀ i, weightAt f slots i ≤ weightAt g other i)
    (keys : List Nat) : weighAt f slots keys ≤ weighAt g other keys :=
  weigh_mono fun i _ => h i

theorem weightAt_set_le {slots : List α} {i : Nat} {a b : α} (h : slots[i]? = some a) (hle : f b ≤ f a)
    (j : Nat) : weightAt f (slots.set i b) j ≤ weightAt f slots j := by
  unfold weightAt
  by_cases hj : j = i
  · subst hj
    rw [set_same h, h]
    exact hle
  · exact Nat.le_of_eq (by rw [List.getElem?_set_ne (Ne.symm hj)])

theorem weighAt_le {slots : List α} {keys : List Nat} (hnodup : keys.Nodup) :
    weighAt f slots keys ≤ weigh f slots := by
  have hsplit : weighAt f slots keys ≤ weighAt f slots (keys.filter (· < slots.length)) := by
    clear hnodup
    induction keys with
    | nil => exact Nat.le_refl _
    | cons i rest ih =>
      unfold weighAt at ih ⊢
      rw [List.filter_cons]
      split
      · simp only [weigh]
        omega
      · rename_i hout
        have hnone : weightAt f slots i = 0 := by
          unfold weightAt
          rw [List.getElem?_eq_none (by simpa using hout)]
          rfl
        simp only [weigh]
        omega
  refine Nat.le_trans hsplit ?_
  rw [weigh_eq_weighAt]
  have hsub : (keys.filter (· < slots.length)).Subperm (List.range slots.length) :=
    List.subperm_of_subset (hnodup.filter _) fun i hi =>
      List.mem_range.2 (by simpa using (List.mem_filter.1 hi).2)
  obtain ⟨middle, hperm, hsublist⟩ := hsub
  unfold weighAt
  rw [← weigh_perm hperm]
  exact weigh_sublist hsublist

end Slots
