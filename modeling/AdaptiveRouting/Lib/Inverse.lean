import Mathlib.Logic.Function.Basic
import Mathlib.Tactic.Common

/-!
# Indexes

An index finds the keys of a table by the labels of their values. `Inverse index table label`: the
index sends a label to a key exactly when the table's value at the key has the label, so no two
values share a label (`eq_of_label`). Changing values without their labels keeps it (`relabel`), and
so do adding a fresh key with a fresh label (`add`) and removing a key with its label (`remove`).
-/

namespace Indexes

universe u v w

variable {κ : Type u} {ι : Type v} {ρ : Type w}

/-- The index finds exactly the keys whose values have the label. -/
def Inverse (index : κ → Option ι) (table : ι → Option ρ) (label : ρ → κ) : Prop :=
  ∀ k i, index k = some i ↔ ∃ r, table i = some r ∧ label r = k

namespace Inverse

variable {index : κ → Option ι} {table table' : ι → Option ρ} {label : ρ → κ}

theorem empty : Inverse (fun _ : κ => none) (fun _ : ι => none) label := by
  intro k i
  simp

/-- Keys whose values share a label are one key. -/
theorem eq_of_label (h : Inverse index table label) {i j : ι} {r r' : ρ} (hi : table i = some r)
    (hj : table j = some r') (hlabel : label r = label r') : i = j := by
  have hfirst : index (label r) = some i := (h _ _).2 ⟨r, hi, rfl⟩
  have hsecond : index (label r) = some j := (h _ _).2 ⟨r', hj, hlabel.symm⟩
  rw [hfirst] at hsecond
  exact Option.some.inj hsecond

theorem relabel (h : Inverse index table label)
    (hlabels : ∀ i, (table' i).map label = (table i).map label) : Inverse index table' label := by
  intro k i
  have hmap (t : ι → Option ρ) : (∃ r, t i = some r ∧ label r = k) ↔ (t i).map label = some k := by
    rw [Option.map_eq_some_iff]
  rw [h k i, hmap, hmap, hlabels]

theorem add [DecidableEq κ] [DecidableEq ι] (h : Inverse index table label) {i : ι} {r : ρ}
    (hkey : table i = none) (hlabel : index (label r) = none) :
    Inverse (Function.update index (label r) (some i)) (Function.update table i (some r)) label := by
  intro k j
  by_cases hj : j = i
  · subst hj
    by_cases hk : k = label r
    · subst hk
      simp
    · have hold : index k ≠ some j := fun hc => by
        obtain ⟨r', hr', -⟩ := (h k j).1 hc
        rw [hkey] at hr'
        cases hr'
      simp [Function.update_of_ne hk, hold, Ne.symm hk]
  · by_cases hk : k = label r
    · subst hk
      have hnew : ¬ ∃ r', table j = some r' ∧ label r' = label r := fun hc => by
        have hfound := (h (label r) j).2 hc
        rw [hlabel] at hfound
        cases hfound
      simp [Function.update_of_ne hj, hnew, Ne.symm hj]
    · simp [Function.update_of_ne hk, Function.update_of_ne hj, h k j]

theorem remove [DecidableEq κ] [DecidableEq ι] (h : Inverse index table label) {i : ι} {r : ρ}
    (hkey : table i = some r) :
    Inverse (Function.update index (label r) none) (Function.update table i none) label := by
  intro k j
  by_cases hj : j = i
  · subst hj
    by_cases hk : k = label r
    · subst hk
      simp
    · have hold : index k ≠ some j := fun hc => by
        obtain ⟨r', hr', hlabel⟩ := (h k j).1 hc
        rw [hkey] at hr'
        cases hr'
        exact hk hlabel.symm
      simp [Function.update_of_ne hk, hold]
  · by_cases hk : k = label r
    · subst hk
      have hother : ¬ ∃ r', table j = some r' ∧ label r' = label r := fun ⟨r', hr', hlabel⟩ =>
        hj (h.eq_of_label hr' hkey hlabel)
      simp [Function.update_of_ne hj, hother]
    · simp [Function.update_of_ne hk, Function.update_of_ne hj, h k j]

end Inverse

end Indexes
