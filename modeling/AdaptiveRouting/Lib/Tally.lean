import Mathlib.Algebra.BigOperators.Group.Finset.Piecewise
import Mathlib.Algebra.Order.BigOperators.Group.Finset
import Mathlib.Data.List.Perm.Subperm
import Std.Data.ExtTreeMap

/-!
# Counting the entries of a table

`tally p table` counts the entries that pass a test. It is the number of keys that hit the test
(`tally_eq`), so tables are compared key by key: a table each of whose hits is a hit of another has no
larger tally (`tally_le`), also when the hits are those of listed items (`tally_le_countP`), and one
key more is one hit more at most (`tally_le_except`).

`total f table` sums a weight over the entries. It is the sum of what the keys weigh over any set that
has them all (`total_eq_sum`), so totals are compared key by key as well: `total_le` where no key gains,
`total_gain` where one key gains.
-/

namespace Tally

variable {κ β γ α : Type} [Ord κ] [Std.TransOrd κ] [Std.LawfulEqOrd κ]

/-- The number of entries that pass a test. -/
def tally (p : κ → β → Bool) (table : Std.ExtTreeMap κ β) : Nat :=
  table.toList.countP fun entry => p entry.1 entry.2

/-- The keys whose entries pass it. -/
def hits (p : κ → β → Bool) (table : Std.ExtTreeMap κ β) : List κ :=
  (table.toList.filter fun entry => p entry.1 entry.2).map Prod.fst

variable {p : κ → β → Bool} {q : κ → γ → Bool} {table : Std.ExtTreeMap κ β}
  {other : Std.ExtTreeMap κ γ}

omit [Std.LawfulEqOrd κ] in
theorem tally_eq : tally p table = (hits p table).length := by
  rw [tally, hits, List.length_map, List.countP_eq_length_filter]

theorem mem_hits {k : κ} : k ∈ hits p table ↔ ∃ v, table[k]? = some v ∧ p k v = true := by
  unfold hits
  simp only [List.mem_map, List.mem_filter, Prod.exists,
    Std.ExtTreeMap.mem_toList_iff_getElem?_eq_some]
  constructor
  · intro h
    obtain ⟨k', v, ⟨hget, hp⟩, rfl⟩ := h
    exact ⟨v, hget, hp⟩
  · intro h
    obtain ⟨v, hget, hp⟩ := h
    exact ⟨k, v, ⟨hget, hp⟩, rfl⟩

theorem nodup_hits : (hits p table).Nodup := by
  have hdistinct : table.toList.Pairwise fun a b => a.1 ≠ b.1 :=
    table.distinct_keys_toList.imp fun h heq => h (Std.LawfulEqCmp.compare_eq_iff_eq.2 heq)
  unfold hits
  exact List.pairwise_map.2 (hdistinct.filter _)

/-- The hits of a table are among listed keys. -/
theorem tally_le_length {keys : List κ} (h : ∀ k ∈ hits p table, k ∈ keys) :
    tally p table ≤ keys.length := by
  rw [tally_eq]
  exact (List.subperm_of_subset nodup_hits h).length_le

theorem tally_le (h : ∀ k v, table[k]? = some v → p k v = true →
    ∃ v', other[k]? = some v' ∧ q k v' = true) : tally p table ≤ tally q other := by
  rw [tally_eq (p := q)]
  refine tally_le_length fun k hk => ?_
  obtain ⟨v, hget, hp⟩ := mem_hits.1 hk
  exact mem_hits.2 (h k v hget hp)

/-- One key aside, the hits of a table are hits of another. -/
theorem tally_le_except (k₀ : κ) (h : ∀ k v, k ≠ k₀ → table[k]? = some v → p k v = true →
    ∃ v', other[k]? = some v' ∧ q k v' = true) : tally p table ≤ tally q other + 1 := by
  classical
  have hle : tally p table ≤ (hits q other ++ [k₀]).length := by
    refine tally_le_length fun k hk => ?_
    obtain ⟨v, hget, hp⟩ := mem_hits.1 hk
    by_cases hne : k = k₀
    · simp [hne]
    · exact List.mem_append_left _ (mem_hits.2 (h k v hne hget hp))
  rwa [List.length_append, List.length_singleton, ← tally_eq] at hle

/-- The hits of a table come from listed items that pass a test. -/
theorem tally_le_countP {items : List α} (key : α → κ) (r : α → Bool)
    (h : ∀ k v, table[k]? = some v → p k v = true → ∃ item ∈ items, key item = k ∧ r item = true) :
    tally p table ≤ items.countP r := by
  have hle : tally p table ≤ ((items.filter r).map key).length := by
    refine tally_le_length fun k hk => ?_
    obtain ⟨v, hget, hp⟩ := mem_hits.1 hk
    obtain ⟨item, hmem, rfl, hr⟩ := h k v hget hp
    exact List.mem_map.2 ⟨item, List.mem_filter.2 ⟨hmem, hr⟩, rfl⟩
  rwa [List.length_map, ← List.countP_eq_length_filter] at hle

/-! ## Totals -/

/-- The weights of the entries, summed. -/
def total (f : β → Nat) (table : Std.ExtTreeMap κ β) : Nat :=
  table.toList.foldr (fun entry sum => f entry.2 + sum) 0

/-- The weight of the entry of a key; a key that is not there weighs nothing. -/
def weight (f : β → Nat) (table : Std.ExtTreeMap κ β) (k : κ) : Nat := (table[k]?.map f).getD 0

variable {f : β → Nat} {g : γ → Nat}

theorem total_eq_sum [DecidableEq κ] {keys : Finset κ}
    (hkeys : ∀ k v, table[k]? = some v → k ∈ keys) : total f table = ∑ k ∈ keys, weight f table k := by
  have hdistinct : (table.toList.map Prod.fst).Nodup :=
    List.pairwise_map.2 (table.distinct_keys_toList.imp fun h heq =>
      h (Std.LawfulEqCmp.compare_eq_iff_eq.2 heq))
  have hweigh : table.toList.map (fun entry => f entry.2) =
      (table.toList.map Prod.fst).map (weight f table) := by
    rw [List.map_map]
    refine List.map_congr_left fun entry hentry => ?_
    have hget : table[entry.1]? = some entry.2 :=
      Std.ExtTreeMap.mem_toList_iff_getElem?_eq_some.1 hentry
    simp [weight, hget]
  have htotal : total f table = (table.toList.map fun entry => f entry.2).sum := by
    rw [total, List.sum, List.foldr_map]
  rw [htotal, hweigh, ← List.sum_toFinset _ hdistinct]
  refine Finset.sum_subset (fun k hk => ?_) fun k _ hk => ?_
  · obtain ⟨entry, hentry, rfl⟩ := List.mem_map.1 (List.mem_toFinset.1 hk)
    exact hkeys _ _ (Std.ExtTreeMap.mem_toList_iff_getElem?_eq_some.1 hentry)
  · cases hget : table[k]? with
    | none => simp [weight, hget]
    | some v =>
      refine absurd (List.mem_toFinset.2 (List.mem_map.2 ⟨(k, v), ?_, rfl⟩)) hk
      exact Std.ExtTreeMap.mem_toList_iff_getElem?_eq_some.2 hget

/-- A set that has the keys of two tables. -/
theorem exists_keys (table : Std.ExtTreeMap κ β) (other : Std.ExtTreeMap κ γ) : ∃ keys : Finset κ,
    (∀ k v, table[k]? = some v → k ∈ keys) ∧ ∀ k v, other[k]? = some v → k ∈ keys := by
  classical
  refine ⟨(table.toList.map Prod.fst).toFinset ∪ (other.toList.map Prod.fst).toFinset,
    fun k v hget => ?_, fun k v hget => ?_⟩
  · have hmem : (k, v) ∈ table.toList := Std.ExtTreeMap.mem_toList_iff_getElem?_eq_some.2 hget
    exact Finset.mem_union_left _ (List.mem_toFinset.2 (List.mem_map.2 ⟨_, hmem, rfl⟩))
  · have hmem : (k, v) ∈ other.toList := Std.ExtTreeMap.mem_toList_iff_getElem?_eq_some.2 hget
    exact Finset.mem_union_right _ (List.mem_toFinset.2 (List.mem_map.2 ⟨_, hmem, rfl⟩))

/-- A table where no key weighs more has no larger total. -/
theorem total_le (h : ∀ k, weight f table k ≤ weight g other k) : total f table ≤ total g other := by
  classical
  obtain ⟨keys, hkeys, hother⟩ := exists_keys table other
  rw [total_eq_sum hkeys, total_eq_sum hother]
  exact Finset.sum_le_sum fun k _ => h k

/-- A table where one key, that is there, weighs more by some gain has a total larger by that gain. -/
theorem total_gain [DecidableEq κ] {k₀ : κ} {gain : Nat} (hmem : k₀ ∈ table)
    (h : ∀ k, weight g other k = weight f table k + if k₀ = k then gain else 0) :
    total g other = total f table + gain := by
  obtain ⟨keys, hkeys, hother⟩ := exists_keys table other
  have hin : k₀ ∈ keys := hkeys k₀ _ (Std.ExtTreeMap.getElem?_eq_some_getElem hmem)
  rw [total_eq_sum hkeys, total_eq_sum hother, Finset.sum_congr rfl fun k _ => h k,
    Finset.sum_add_distrib, Finset.sum_ite_eq, if_pos hin]

end Tally
