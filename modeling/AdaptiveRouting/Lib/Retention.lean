import AdaptiveRouting.Lib.Pointwise
import Std.Data.ExtTreeMap

/-!
# Bounded tables

A table with the order its keys were inserted in, from which the oldest keys are erased when the
order grows beyond a bound. `Consistent`: the order lists exactly the keys of the table, each once.
Inserting a fresh key at the end and erasing a front of the order keep it; erasing touches the keys
of the front only (`eraseAll_get`).
-/

namespace Retention

variable {κ β : Type} [Ord κ] [Std.TransOrd κ] [Std.LawfulEqOrd κ] [DecidableEq κ]

/-- The table without some keys. -/
def eraseAll (keys : List κ) (table : Std.ExtTreeMap κ β) : Std.ExtTreeMap κ β :=
  keys.foldl (fun table key => table.erase key) table

theorem erase_local : Pointwise.Local (fun (t : Std.ExtTreeMap κ β) k => t[k]?) id
    (fun (_ : κ) _ => none) (fun table key => table.erase key) := by
  intro table key k
  show (table.erase key)[k]? = _
  rw [Std.ExtTreeMap.getElem?_erase]
  simp only [Std.LawfulEqCmp.compare_eq_iff_eq, id]

theorem eraseAll_get_of_notMem {keys : List κ} {k : κ} (h : k ∉ keys)
    (table : Std.ExtTreeMap κ β) : (eraseAll keys table)[k]? = table[k]? :=
  erase_local.foldl_of_forall_ne (fun key hkey heq => h (by rwa [← heq])) table

theorem eraseAll_get_of_mem {keys : List κ} {k : κ} (h : k ∈ keys)
    (table : Std.ExtTreeMap κ β) : (eraseAll keys table)[k]? = none := by
  induction keys generalizing table with
  | nil => cases h
  | cons key rest ih =>
    show (eraseAll rest (table.erase key))[k]? = none
    by_cases hrest : k ∈ rest
    · exact ih hrest _
    · rw [eraseAll_get_of_notMem hrest]
      rcases List.mem_cons.1 h with rfl | hin
      · simp
      · exact absurd hin hrest

/-- An erased table has a key's value, or nothing. -/
theorem eraseAll_get_or (keys : List κ) (table : Std.ExtTreeMap κ β) (k : κ) :
    (eraseAll keys table)[k]? = none ∨ (eraseAll keys table)[k]? = table[k]? := by
  by_cases h : k ∈ keys
  · exact .inl (eraseAll_get_of_mem h table)
  · exact .inr (eraseAll_get_of_notMem h table)

/-- The order lists the keys of the table, each once. -/
structure Consistent (table : Std.ExtTreeMap κ β) (order : List κ) : Prop where
  nodup : order.Nodup
  mem_iff : ∀ k, k ∈ order ↔ (table[k]?).isSome = true

namespace Consistent

variable {table : Std.ExtTreeMap κ β} {order : List κ}

omit [Std.LawfulEqOrd κ] [DecidableEq κ] in
theorem empty : Consistent ({} : Std.ExtTreeMap κ β) [] where
  nodup := List.nodup_nil
  mem_iff := fun k => by simp

/-- A fresh key goes to the end of the order. -/
theorem insert (h : Consistent table order) {k : κ} (hk : table[k]? = none) (v : β) :
    Consistent (table.insert k v) (order ++ [k]) where
  nodup := by
    refine List.nodup_append.2 ⟨h.nodup, by simp, ?_⟩
    rintro a ha b hb rfl
    rw [List.mem_singleton] at hb
    subst hb
    rw [h.mem_iff, hk] at ha
    cases ha
  mem_iff := fun k' => by
    rw [List.mem_append, List.mem_singleton, h.mem_iff, Std.ExtTreeMap.getElem?_insert]
    by_cases hkk : k = k'
    · subst hkk
      simp
    · rw [if_neg fun hc => hkk (Std.LawfulEqCmp.eq_of_compare hc)]
      simp [Ne.symm hkk]

/-- The oldest keys give way. -/
theorem prune (h : Consistent table order) (n : Nat) :
    Consistent (eraseAll (order.take n) table) (order.drop n) where
  nodup := h.nodup.sublist (List.drop_sublist n order)
  mem_iff := fun k => by
    have hsplit : k ∈ order ↔ k ∈ order.take n ∨ k ∈ order.drop n := by
      rw [← List.mem_append, List.take_append_drop]
    have hdisjoint : k ∈ order.take n → k ∉ order.drop n := by
      intro htake hdrop
      have hnodup := h.nodup
      rw [← List.take_append_drop n order] at hnodup
      exact (List.nodup_append.1 hnodup).2.2 k htake k hdrop rfl
    by_cases htake : k ∈ order.take n
    · rw [eraseAll_get_of_mem htake]
      simpa using hdisjoint htake
    · rw [eraseAll_get_of_notMem htake, ← h.mem_iff, hsplit]
      simp [htake]

omit [DecidableEq κ] in
/-- There are as many keys as entries. -/
theorem size_eq (h : Consistent table order) : table.size = order.length := by
  have hkeys : table.keys.Nodup :=
    table.distinct_keys.imp fun h heq => h (Std.LawfulEqCmp.compare_eq_iff_eq.2 heq)
  have hperm : table.keys.Perm order := (List.perm_ext_iff_of_nodup hkeys h.nodup).2 fun k => by
    rw [h.mem_iff, Std.ExtTreeMap.mem_keys, Std.ExtTreeMap.isSome_getElem?_iff_mem]
  rw [← Std.ExtTreeMap.length_keys, hperm.length_eq]

end Consistent

end Retention
