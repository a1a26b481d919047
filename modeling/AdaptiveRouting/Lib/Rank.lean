import Mathlib.Data.List.Sort
import Mathlib.Order.MinMax
import Mathlib.Tactic.Common

/-!
# Order statistics

The element of a rank, counted from one: fewer than `rank` elements are smaller, and at least `rank` are
no larger. At most one value has a rank (`OrderStatistic.unique`), whatever the order of the list
(`OrderStatistic.of_perm`); the sorted list has it at the position before its rank
(`orderStatistic_sort`).
-/

namespace Rank

variable {α : Type*} [LinearOrder α] {xs ys : List α} {rank : Nat} {a b : α}

/-- `a` is the element of `xs` of the rank. -/
structure OrderStatistic (xs : List α) (rank : Nat) (a : α) : Prop where
  mem : a ∈ xs
  smaller : (xs.countP fun x => x < a) < rank
  noLarger : rank ≤ xs.countP fun x => x ≤ a

theorem OrderStatistic.of_perm (h : OrderStatistic xs rank a) (hperm : xs.Perm ys) :
    OrderStatistic ys rank a where
  mem := hperm.mem_iff.1 h.mem
  smaller := hperm.countP_eq _ ▸ h.smaller
  noLarger := hperm.countP_eq _ ▸ h.noLarger

theorem OrderStatistic.le (h : OrderStatistic xs rank a) (hb : OrderStatistic xs rank b) : a ≤ b := by
  by_contra hlt
  have hle : (xs.countP fun x => x ≤ b) ≤ xs.countP fun x => x < a :=
    List.countP_mono_left fun x _ hx =>
      decide_eq_true ((of_decide_eq_true hx).trans_lt (not_le.1 hlt))
  exact absurd (Nat.le_trans hb.noLarger hle) (Nat.not_le.2 h.smaller)

theorem OrderStatistic.unique (h : OrderStatistic xs rank a) (hb : OrderStatistic xs rank b) : a = b :=
  le_antisymm (h.le hb) (hb.le h)

/-- In a sorted list, nothing from a position on is smaller than the element there, and nothing up to it
is larger. -/
theorem orderStatistic_of_sorted {i : Nat} (h : xs.Pairwise (· ≤ ·)) (hi : xs[i]? = some a) :
    OrderStatistic xs (i + 1) a := by
  obtain ⟨hil, rfl⟩ := List.getElem?_eq_some_iff.1 hi
  have hget := List.pairwise_iff_getElem.1 h
  refine ⟨List.getElem_mem hil, ?_, ?_⟩
  · have hdrop : (xs.drop i).countP (fun x => x < xs[i]) = 0 := by
      refine List.countP_eq_zero.2 fun x hx => ?_
      obtain ⟨k, hk, rfl⟩ := List.mem_drop_iff_getElem.1 hx
      have hle : xs[i] ≤ xs[i + k] := by
        rcases Nat.eq_zero_or_pos k with rfl | hpos
        · exact le_refl _
        · exact hget i (i + k) hil _ (Nat.lt_add_of_pos_right hpos)
      exact fun hlt => absurd (of_decide_eq_true hlt) (not_lt.2 hle)
    have htake : (xs.take i).countP (fun x => x < xs[i]) ≤ i :=
      Nat.le_trans List.countP_le_length (List.length_take_le ..)
    have hsplit := congrArg (List.countP fun x => x < xs[i]) (List.take_append_drop i xs)
    rw [List.countP_append, hdrop] at hsplit
    omega
  · have htake : (xs.take (i + 1)).countP (fun x => x ≤ xs[i]) = i + 1 := by
      rw [List.countP_eq_length.2, List.length_take, Nat.min_eq_left hil]
      intro x hx
      obtain ⟨k, hk, rfl⟩ := List.mem_take_iff_getElem.1 hx
      refine decide_eq_true ?_
      rcases Nat.lt_or_eq_of_le (Nat.le_of_lt_succ (Nat.lt_of_lt_of_le hk (Nat.min_le_left ..))) with
        hlt | rfl
      · exact hget k i _ hil hlt
      · exact le_refl _
    have hsplit := congrArg (List.countP fun x => x ≤ xs[i]) (List.take_append_drop (i + 1) xs)
    rw [List.countP_append, htake] at hsplit
    omega

theorem orderStatistic_sort {i : Nat} (hi : (xs.insertionSort (· ≤ ·))[i]? = some a) :
    OrderStatistic xs (i + 1) a :=
  (orderStatistic_of_sorted (List.pairwise_insertionSort (· ≤ ·) xs) hi).of_perm
    (List.perm_insertionSort (· ≤ ·) xs)

end Rank
