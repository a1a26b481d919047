import Mathlib.Data.List.Perm.Subperm
import Mathlib.Tactic.Common
import Std.Data.ExtTreeMap
import Std.Data.ExtTreeSet

/-!
# Multimaps

A table from keys to sets of values, as an index of a relation keeps one: `Enlists t a b` is the
relation, `add` and `remove` are its single changes (`enlists_add`, `enlists_remove`), and a `Tidy` table
keeps no empty set.
-/

namespace Multimap

universe u v w

variable {α : Type u} {β : Type v} {γ : Type w} [Ord α] [Ord β] [Std.TransOrd α] [Std.TransOrd β]

/-- The table enlists the value under the key. -/
def Enlists (t : Std.ExtTreeMap α (Std.ExtTreeSet β)) (a : α) (b : β) : Prop :=
  ∃ bs, t[a]? = some bs ∧ b ∈ bs

/-- No key has an empty set. -/
def Tidy (t : Std.ExtTreeMap α (Std.ExtTreeSet β)) : Prop :=
  ∀ (a : α) (bs : Std.ExtTreeSet β), t[a]? = some bs → ¬ bs.isEmpty

def add (t : Std.ExtTreeMap α (Std.ExtTreeSet β)) (a : α) (b : β) :
    Std.ExtTreeMap α (Std.ExtTreeSet β) :=
  t.insert a ((t[a]?.getD {}).insert b)

/-- Removes a value under a key, and the key with its last value. -/
def remove (t : Std.ExtTreeMap α (Std.ExtTreeSet β)) (a : α) (b : β) :
    Std.ExtTreeMap α (Std.ExtTreeSet β) :=
  match t[a]? with
  | none => t
  | some bs => if (bs.erase b).isEmpty then t.erase a else t.insert a (bs.erase b)

section
variable {t : Std.ExtTreeMap α (Std.ExtTreeSet β)} {a : α} {b : β}

theorem isEmpty_iff {bs : Std.ExtTreeSet β} : bs.isEmpty ↔ ∀ b, b ∉ bs := by
  rw [Std.ExtTreeSet.isEmpty_iff, Std.ExtTreeSet.eq_empty_iff_forall_not_mem]

theorem not_enlists_empty : ¬ Enlists (∅ : Std.ExtTreeMap α (Std.ExtTreeSet β)) a b := by
  rintro ⟨bs, hbs, -⟩
  simp at hbs

omit [Std.TransOrd β] in
theorem tidy_empty : Tidy (∅ : Std.ExtTreeMap α (Std.ExtTreeSet β)) := by
  intro a bs hbs
  simp at hbs

theorem Tidy.filled (h : Tidy t) {bs : Std.ExtTreeSet β} (ht : t[a]? = some bs) : ∃ b, b ∈ bs := by
  have hfilled := h a bs ht
  rw [isEmpty_iff] at hfilled
  push Not at hfilled
  exact hfilled

theorem Tidy.add (h : Tidy t) : Tidy (add t a b) := by
  intro a' bs hbs
  unfold Multimap.add at hbs
  rw [Std.ExtTreeMap.getElem?_insert] at hbs
  split at hbs
  · cases hbs
    rw [isEmpty_iff]
    intro hnone
    exact hnone b Std.ExtTreeSet.mem_insert_self
  · exact h a' bs hbs

theorem Tidy.remove (h : Tidy t) : Tidy (remove t a b) := by
  unfold Multimap.remove
  cases ht : t[a]? with
  | none => exact h
  | some bs =>
    dsimp only
    intro a' bs' hbs
    split at hbs
    · rw [Std.ExtTreeMap.getElem?_erase] at hbs
      split at hbs
      · cases hbs
      · exact h a' bs' hbs
    · rename_i hempty
      rw [Std.ExtTreeMap.getElem?_insert] at hbs
      split at hbs
      · cases hbs
        exact hempty
      · exact h a' bs' hbs

omit [Std.TransOrd β] in
theorem Tidy.foldl (f : Std.ExtTreeMap α (Std.ExtTreeSet β) → γ → Std.ExtTreeMap α (Std.ExtTreeSet β))
    (hf : ∀ t x, Tidy t → Tidy (f t x)) (h : Tidy t) (xs : List γ) : Tidy (xs.foldl f t) := by
  induction xs generalizing t with
  | nil => exact h
  | cons x xs ih => exact ih (hf t x h)

/-- The keys of a tidy table are those it lists a value under. -/
theorem Tidy.mem_iff (h : Tidy t) : a ∈ t ↔ ∃ b, Enlists t a b := by
  rw [Std.ExtTreeMap.mem_iff_isSome_getElem?, Option.isSome_iff_exists]
  refine ⟨fun ⟨bs, hbs⟩ => ?_, fun ⟨b, bs, hbs, _⟩ => ⟨bs, hbs⟩⟩
  obtain ⟨b, hb⟩ := h.filled hbs
  exact ⟨b, bs, hbs, hb⟩

end

section
variable [Std.LawfulEqOrd α] [Std.LawfulEqOrd β] {t t' : Std.ExtTreeMap α (Std.ExtTreeSet β)}
  {a a' : α} {b b' : β}

/-! ## Single changes -/

theorem enlists_add : Enlists (add t a b) a' b' ↔ (a = a' ∧ b = b') ∨ Enlists t a' b' := by
  unfold Enlists add
  rw [Std.ExtTreeMap.getElem?_insert]
  by_cases ha : a = a'
  · subst ha
    cases ht : t[a]? with
    | none => simp [Std.ExtTreeSet.mem_insert]
    | some bs => simp [Std.ExtTreeSet.mem_insert]
  · simp [ha]

theorem enlists_remove : Enlists (remove t a b) a' b' ↔ Enlists t a' b' ∧ ¬ (a = a' ∧ b = b') := by
  unfold remove
  cases ht : t[a]? with
  | none =>
    refine ⟨fun h => ⟨h, ?_⟩, fun h => h.1⟩
    rintro ⟨rfl, -⟩
    obtain ⟨bs, hbs, -⟩ := h
    rw [ht] at hbs
    cases hbs
  | some bs =>
    dsimp only
    unfold Enlists
    by_cases ha : a = a'
    · subst ha
      split
      · rename_i hempty
        rw [isEmpty_iff] at hempty
        have hnone : b' ∈ bs → b = b' := by
          intro hb
          by_contra hne
          exact hempty b' (by simp [Std.ExtTreeSet.mem_erase, hne, hb])
        simpa [Std.ExtTreeMap.getElem?_erase, ht] using hnone
      · simp [Std.ExtTreeSet.mem_erase, ht, and_comm]
    · split
      · simp [Std.ExtTreeMap.getElem?_erase, ha]
      · simp [Std.ExtTreeMap.getElem?_insert, ha]

/-! ## Many changes -/

theorem enlists_foldl_add (f : γ → α) (xs : List γ) :
    Enlists (xs.foldl (fun t x => add t (f x) b) t) a' b' ↔
      (b = b' ∧ ∃ x ∈ xs, f x = a') ∨ Enlists t a' b' := by
  induction xs generalizing t with
  | nil => simp
  | cons x xs ih =>
    rw [List.foldl_cons, ih, enlists_add]
    by_cases hb : b = b' <;> by_cases ha : f x = a' <;> simp [hb, ha]

theorem enlists_foldl_remove (f : γ → α) (xs : List γ) :
    Enlists (xs.foldl (fun t x => remove t (f x) b) t) a' b' ↔
      Enlists t a' b' ∧ ¬ (b = b' ∧ ∃ x ∈ xs, f x = a') := by
  induction xs generalizing t with
  | nil => simp
  | cons x xs ih =>
    rw [List.foldl_cons, ih, enlists_remove]
    by_cases hb : b = b' <;> by_cases ha : f x = a' <;> simp [hb, ha]

theorem enlists_foldl_values (bs : List β) :
    Enlists (bs.foldl (fun t b => add t a b) t) a' b' ↔ (a = a' ∧ b' ∈ bs) ∨ Enlists t a' b' := by
  induction bs generalizing t with
  | nil => simp
  | cons b bs ih =>
    rw [List.foldl_cons, ih, enlists_add, List.mem_cons]
    have hcomm : b = b' ↔ b' = b := eq_comm
    tauto

/-! ## Sizes -/

omit [Std.TransOrd β] [Std.LawfulEqOrd β] in
/-- A table whose keys another one has is no larger. -/
theorem size_le_of_keys (h : ∀ a, a ∈ t → a ∈ t') : t.size ≤ t'.size := by
  rw [← Std.ExtTreeMap.length_keys, ← Std.ExtTreeMap.length_keys]
  apply List.Subperm.length_le
  apply List.Nodup.subperm Std.ExtTreeMap.nodup_keys
  intro a ha
  exact Std.ExtTreeMap.mem_keys.2 (h a (Std.ExtTreeMap.mem_keys.1 ha))

omit [Std.TransOrd β] [Std.LawfulEqOrd β] in
/-- And smaller when it lacks one of them. -/
theorem size_lt_of_keys (h : ∀ a, a ∈ t → a ∈ t') (hin : a ∈ t') (hout : a ∉ t) :
    t.size < t'.size := by
  have hsize : (t.insert a ∅).size ≤ t'.size := by
    refine size_le_of_keys fun a' ha' => ?_
    rw [Std.ExtTreeMap.mem_insert, Std.LawfulEqCmp.compare_eq_iff_eq] at ha'
    rcases ha' with rfl | ha'
    · exact hin
    · exact h a' ha'
  rw [Std.ExtTreeMap.size_insert, if_neg (by simpa using hout)] at hsize
  omega

end

end Multimap
