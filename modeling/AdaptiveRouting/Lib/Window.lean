import Mathlib.Data.List.Infix
import Mathlib.Tactic.Common

/-!
# Counting over a pruned log

A log grows at its end and forgets from its front. `Kept bound log kept`: what is kept is an end of
the log, and no entry is forgotten while fewer than `bound` are kept. A property that later entries
have when earlier ones do, as being recent, then holds of fewer than `n ≤ bound` entries of the log
when it holds of fewer than `n` kept ones (`Kept.countP_lt`).
-/

namespace Windows

variable {α : Type*}

/-- What is kept of a log. -/
structure Kept (bound : Nat) (log kept : List α) : Prop where
  suffix : kept <:+ log
  enough : min bound log.length ≤ kept.length

namespace Kept

variable {bound : Nat} {log kept : List α}

theorem refl (bound : Nat) (log : List α) : Kept bound log log :=
  ⟨List.suffix_refl log, Nat.min_le_right ..⟩

theorem push (h : Kept bound log kept) (a : α) : Kept bound (log ++ [a]) (kept ++ [a]) where
  suffix := by
    obtain ⟨front, rfl⟩ := h.suffix
    exact ⟨front, by simp⟩
  enough := by
    have henough := h.enough
    simp only [List.length_append, List.length_singleton]
    omega

/-- Old entries are dropped while more than `bound` are kept. -/
theorem prune (h : Kept bound log kept) : Kept bound log (kept.drop (kept.length - bound)) where
  suffix := (List.drop_suffix _ _).trans h.suffix
  enough := by
    have henough := h.enough
    rw [List.length_drop]
    omega

theorem countP_lt {older recent : List α} (h : Kept bound (older ++ recent) kept) {p : α → Bool}
    (hp : recent.Pairwise fun a b => p a = true → p b = true) {n : Nat} (hn : n ≤ bound)
    (hcount : kept.countP p < n) : recent.countP p < n := by
  have hrecent : recent <:+ older ++ recent := List.suffix_append older recent
  rcases Nat.le_total recent.length kept.length with hle | hle
  · have hsub := List.suffix_of_suffix_length_le hrecent h.suffix hle
    exact Nat.lt_of_le_of_lt hsub.sublist.countP_le hcount
  · obtain ⟨front, rfl⟩ := List.suffix_of_suffix_length_le h.suffix hrecent hle
    have hfront : front.countP p = 0 := by
      rw [List.countP_eq_zero]
      intro a ha hpa
      -- a counted entry ahead of the kept ones makes all of these count, and they are too many
      have hall : kept.countP p = kept.length :=
        List.countP_eq_length.2 fun b hb => (List.pairwise_append.1 hp).2.2 a ha b hb hpa
      have hlength := List.length_pos_of_mem ha
      have henough := h.enough
      simp only [List.length_append] at henough
      omega
    rw [List.countP_append, hfront]
    omega

end Kept

end Windows
