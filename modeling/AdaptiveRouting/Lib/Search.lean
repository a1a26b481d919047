import Mathlib.Data.List.Basic
import Mathlib.Data.List.Sort
import Mathlib.Tactic.Common

/-!
# Binary search by a monotone test

`lowerBound before xs` is the loop `low = 0, high = size; while low < high …` that halves the
interval on the test `before` of the middle element. On a list that is partitioned by the test (every
element before a rejected one is accepted first) it ends at the first rejected position
(`lowerBound_spec`), so the search for a key in a strictly sorted list finds it exactly when it is
there (`findIdx_some`, `findIdx_of_getElem?`).
-/

namespace Search

variable {α κ : Type*}

/-- The search loop on `[low, high)`; each round halves the interval, so `high - low` rounds are
enough. -/
def loop (before : α → Bool) (xs : List α) : Nat → Nat → Nat → Nat
  | 0, low, _ => low
  | fuel + 1, low, high =>
    if low < high then
      let middle := low + (high - low) / 2
      match xs[middle]? with
      | some element =>
        if before element then loop before xs fuel (middle + 1) high
        else loop before xs fuel low middle
      | none => low
    else low

/-- The first position whose element `before` rejects. -/
def lowerBound (before : α → Bool) (xs : List α) : Nat :=
  loop before xs xs.length 0 xs.length

/-- Everything the test accepts stands before everything it rejects. -/
def Partitioned (before : α → Bool) (xs : List α) : Prop :=
  ∀ (i j : Nat) (a b : α), i < j → xs[i]? = some a → xs[j]? = some b → before b = true →
    before a = true

/-- Where the search of `[low, high)` ends: no earlier than `low`, no later than `high`, with
accepted elements below and rejected ones from there on. -/
theorem loop_spec {before : α → Bool} {xs : List α} (hp : Partitioned before xs) :
    ∀ (fuel low high : Nat), high - low ≤ fuel → low ≤ high → high ≤ xs.length →
      (∀ i a, i < low → xs[i]? = some a → before a = true) →
      (∀ i a, high ≤ i → xs[i]? = some a → before a = false) →
      loop before xs fuel low high ≤ high ∧
      (∀ i a, i < loop before xs fuel low high → xs[i]? = some a → before a = true) ∧
      (∀ i a, loop before xs fuel low high ≤ i → xs[i]? = some a → before a = false)
  | 0, low, high, hf, hlh, _, hlow, hhigh => by
    obtain rfl : low = high := by omega
    exact ⟨Nat.le_refl _, hlow, hhigh⟩
  | fuel + 1, low, high, hf, hlh, hlen, hlow, hhigh => by
    unfold loop
    by_cases hlt : low < high
    · have hmid : low + (high - low) / 2 < xs.length := by omega
      simp only [hlt, ↓reduceIte, List.getElem?_eq_getElem hmid]
      have hget := List.getElem?_eq_getElem hmid
      generalize hm : low + (high - low) / 2 = middle at *
      by_cases hb : before xs[middle] = true
      · simp only [hb, ↓reduceIte]
        refine loop_spec hp fuel (middle + 1) high (by omega) (by omega) hlen (fun i a hi ha => ?_) hhigh
        rcases Nat.lt_or_eq_of_le (Nat.le_of_lt_succ hi) with h | rfl
        · exact hp i middle a _ h ha hget hb
        · rw [hget] at ha
          cases ha
          exact hb
      · simp only [hb, Bool.false_eq_true, ↓reduceIte]
        obtain ⟨h₁, h₂, h₃⟩ := loop_spec hp fuel low middle (by omega) (by omega) (by omega) hlow
          (fun i a hi ha => by
            rcases Nat.lt_or_eq_of_le hi with h | rfl
            · by_contra hc
              exact hb (hp middle i _ a h hget ha (by simpa using hc))
            · rw [hget] at ha
              cases ha
              simpa using hb)
        exact ⟨by omega, h₂, h₃⟩
    · obtain rfl : low = high := by omega
      simp only [Nat.lt_irrefl, ↓reduceIte]
      exact ⟨Nat.le_refl _, hlow, hhigh⟩

theorem lowerBound_spec {before : α → Bool} {xs : List α} (hp : Partitioned before xs) :
    lowerBound before xs ≤ xs.length ∧
    (∀ i a, i < lowerBound before xs → xs[i]? = some a → before a = true) ∧
    (∀ i a, lowerBound before xs ≤ i → xs[i]? = some a → before a = false) :=
  loop_spec hp xs.length 0 xs.length (by omega) (Nat.zero_le _) (Nat.le_refl _)
    (fun _ _ hi => absurd hi (Nat.not_lt_zero _))
    (fun i _ hi ha => by rw [List.getElem?_eq_none hi] at ha; cases ha)

example : lowerBound (fun n : Nat => n < 4) [1, 3, 4, 4, 8] = 2 := by decide

/-- The loop as it runs, without a bound on its rounds: from `[low, high)` it ends at `last`. -/
inductive Ends (before : α → Bool) (xs : List α) : Nat → Nat → Nat → Prop
  | done {low high : Nat} (h : ¬ low < high) : Ends before xs low high low
  | after {low high last : Nat} {element : α} (h : low < high)
    (hmiddle : xs[low + (high - low) / 2]? = some element) (hbefore : before element = true)
    (rest : Ends before xs (low + (high - low) / 2 + 1) high last) : Ends before xs low high last
  | within {low high last : Nat} {element : α} (h : low < high)
    (hmiddle : xs[low + (high - low) / 2]? = some element) (hbefore : before element = false)
    (rest : Ends before xs low (low + (high - low) / 2) last) : Ends before xs low high last

/-- As many rounds as the interval is long are enough. -/
theorem loop_ends {before : α → Bool} {xs : List α} :
    ∀ (fuel low high : Nat), high - low ≤ fuel → high ≤ xs.length →
      Ends before xs low high (loop before xs fuel low high)
  | 0, low, high, hfuel, _ => .done (by omega)
  | fuel + 1, low, high, hfuel, hlength => by
    unfold loop
    by_cases hlt : low < high
    · have hmiddle : low + (high - low) / 2 < xs.length := by omega
      have hget := List.getElem?_eq_getElem hmiddle
      simp only [hlt, ↓reduceIte, hget]
      by_cases hbefore : before xs[low + (high - low) / 2] = true
      · simp only [hbefore, ↓reduceIte]
        exact .after hlt hget hbefore (loop_ends fuel _ high (by omega) hlength)
      · simp only [hbefore, Bool.false_eq_true, ↓reduceIte]
        exact .within hlt hget (by simpa using hbefore) (loop_ends fuel low _ (by omega) (by omega))
    · simp only [hlt, ↓reduceIte]
      exact .done hlt

theorem lowerBound_ends (before : α → Bool) (xs : List α) :
    Ends before xs 0 xs.length (lowerBound before xs) :=
  loop_ends xs.length 0 xs.length (Nat.sub_le ..) (Nat.le_refl _)

/-- A rejected element after accepted ones is where the search ends. -/
theorem lowerBound_eq {before : α → Bool} {xs : List α} (hp : Partitioned before xs) {i : Nat} {a : α}
    (hi : xs[i]? = some a) (ha : before a = false)
    (hlow : ∀ j b, j < i → xs[j]? = some b → before b = true) : lowerBound before xs = i := by
  obtain ⟨-, haccepted, hrejected⟩ := lowerBound_spec hp
  obtain ⟨hil, rfl⟩ := List.getElem?_eq_some_iff.1 hi
  rcases Nat.lt_trichotomy (lowerBound before xs) i with hlt | heq | hgt
  · have hget := List.getElem?_eq_getElem (Nat.lt_trans hlt hil)
    have hbefore := hlow _ _ hlt hget
    rw [hrejected _ _ (Nat.le_refl _) hget] at hbefore
    cases hbefore
  · exact heq
  · rw [haccepted i _ hgt hi] at ha
    cases ha

/-- The loop reads the elements through the test only. -/
theorem loop_map {β : Type*} (f : α → β) (before : β → Bool) (xs : List α) (fuel low high : Nat) :
    loop before (xs.map f) fuel low high = loop (fun a => before (f a)) xs fuel low high := by
  induction fuel generalizing low high with
  | zero => rfl
  | succ fuel ih =>
    unfold loop
    simp only [List.getElem?_map]
    split
    · cases xs[low + (high - low) / 2]? with
      | none => rfl
      | some a => simp only [Option.map_some, ih]
    · rfl

/-! ## Keys -/

section
variable [Ord κ] (key : α → κ)

/-- The keys of `xs` increase strictly. -/
def Sorted (xs : List α) : Prop := xs.Pairwise fun a b => compare (key a) (key b) = .lt

/-- The position of the element with key `k`, when the search ends on it. -/
def findIdx (xs : List α) (k : κ) : Option Nat :=
  match xs[lowerBound (fun a => compare (key a) k == .lt) xs]? with
  | some a =>
    if compare (key a) k = .eq then some (lowerBound (fun a => compare (key a) k == .lt) xs)
    else none
  | none => none

variable {key}

/-- The search reads the keys only. -/
theorem findIdx_map (xs : List α) (k : κ) : findIdx key xs k = findIdx id (xs.map key) k := by
  have hbound : lowerBound (fun a => compare (id a) k == .lt) (xs.map key) =
      lowerBound (fun a => compare (key a) k == .lt) xs := by
    unfold lowerBound
    rw [loop_map, List.length_map]
    rfl
  unfold findIdx
  rw [hbound, List.getElem?_map]
  cases xs[lowerBound (fun a => compare (key a) k == .lt) xs]? <;> rfl

theorem findIdx_congr {xs ys : List α} (h : xs.map key = ys.map key) (k : κ) :
    findIdx key xs k = findIdx key ys k := by
  rw [findIdx_map xs, findIdx_map ys, h]

/-- What the search returns holds the key (on any list). -/
theorem findIdx_some [Std.LawfulEqOrd κ] {xs : List α} {k : κ} {i : Nat} (h : findIdx key xs k = some i) :
    ∃ a, xs[i]? = some a ∧ key a = k := by
  unfold findIdx at h
  split at h
  · rename_i a ha
    split at h
    · rename_i hk
      cases h
      exact ⟨a, ha, Std.LawfulEqCmp.eq_of_compare hk⟩
    · cases h
  · cases h

theorem partitioned_of_sorted [Std.TransOrd κ] {xs : List α} (h : Sorted key xs) (k : κ) :
    Partitioned (fun a => compare (key a) k == .lt) xs := by
  intro i j a b hij ha hb hbk
  rw [List.getElem?_eq_some_iff] at ha hb
  obtain ⟨hi, rfl⟩ := ha
  obtain ⟨hj, rfl⟩ := hb
  have hlt := List.pairwise_iff_getElem.1 h i j hi hj hij
  simp only [beq_iff_eq] at hbk ⊢
  exact Std.TransCmp.lt_trans hlt hbk

variable [Std.TransOrd κ] [Std.LawfulEqOrd κ]

/-- Where the search ends: at the key's position when the key is there. -/
theorem lowerBound_of_mem {xs : List α} (hs : Sorted key xs) {i : Nat} {a : α}
    (hi : xs[i]? = some a) : lowerBound (fun b => compare (key b) (key a) == .lt) xs = i := by
  refine lowerBound_eq (partitioned_of_sorted hs (key a)) hi (by simp) fun j b hj hb => ?_
  obtain ⟨hil, rfl⟩ := List.getElem?_eq_some_iff.1 hi
  obtain ⟨hjl, rfl⟩ := List.getElem?_eq_some_iff.1 hb
  exact beq_iff_eq.2 (List.pairwise_iff_getElem.1 hs j i hjl hil hj)

/-- In a strictly sorted list the search finds the key of every element. -/
theorem findIdx_of_getElem? {xs : List α} (hs : Sorted key xs) {i : Nat} {a : α}
    (hi : xs[i]? = some a) : findIdx key xs (key a) = some i := by
  unfold findIdx
  rw [lowerBound_of_mem hs hi, hi]
  simp only [Std.ReflCmp.compare_self, ↓reduceIte]

/-- In a strictly sorted list a key that is not found is not there. -/
theorem findIdx_none {xs : List α} {k : κ} (hs : Sorted key xs) (h : findIdx key xs k = none) :
    ∀ a ∈ xs, key a ≠ k := by
  rintro a ha rfl
  obtain ⟨i, hi⟩ := List.mem_iff_getElem?.1 ha
  rw [findIdx_of_getElem? hs hi] at h
  cases h

omit [Std.LawfulEqOrd κ] in
/-- Sorting elements with distinct keys sorts them strictly. -/
theorem sorted_insertionSort {xs : List α} (h : xs.Pairwise fun a b => compare (key a) (key b) ≠ .eq) :
    Sorted key (xs.insertionSort fun a b => (compare (key a) (key b)).isLE) := by
  have : Std.Total fun a b => (compare (key a) (key b)).isLE = true := ⟨fun a b => by
    have hswap : compare (key b) (key a) = (compare (key a) (key b)).swap := Std.OrientedCmp.eq_swap
    rw [hswap]
    cases compare (key a) (key b) <;> simp⟩
  have : IsTrans α fun a b => (compare (key a) (key b)).isLE = true :=
    ⟨fun _ _ _ => Std.TransCmp.isLE_trans⟩
  have hle := List.pairwise_insertionSort (fun a b => (compare (key a) (key b)).isLE = true) xs
  have hne := ((List.perm_insertionSort (fun a b => (compare (key a) (key b)).isLE = true) xs).pairwise_iff
    fun hab hba => hab (Std.OrientedCmp.eq_symm hba)).2 h
  refine (hle.and hne).imp fun hab => ?_
  exact (Ordering.isLE_iff_eq_lt_or_eq_eq.1 hab.1).resolve_right hab.2

/-- Keys of a strictly sorted list name their elements. -/
theorem eq_of_key_eq {xs : List α} (hs : Sorted key xs) {a b : α} (ha : a ∈ xs) (hb : b ∈ xs)
    (h : key a = key b) : a = b := by
  obtain ⟨i, hi⟩ := List.mem_iff_getElem?.1 ha
  obtain ⟨j, hj⟩ := List.mem_iff_getElem?.1 hb
  have hij := findIdx_of_getElem? hs hi
  rw [h, findIdx_of_getElem? hs hj] at hij
  cases hij
  exact Option.some.inj (hi.symm.trans hj)

omit [Std.TransOrd κ] in
/-- The keys of a strictly sorted list are distinct. -/
theorem keys_nodup {xs : List α} (hs : Sorted key xs) : (xs.map key).Nodup :=
  List.pairwise_map.2 (hs.imp fun hlt heq => by rw [heq] at hlt; simp at hlt)

/-- Strictly sorted lists with the same set of keys have the same row of keys. -/
theorem keys_eq_of_mem_iff {xs ys : List α} (hs : Sorted key xs) (hs' : Sorted key ys)
    (h : ∀ k, k ∈ xs.map key ↔ k ∈ ys.map key) : xs.map key = ys.map key := by
  have : Std.Irrefl fun a b : κ => compare a b = .lt := ⟨fun a hlt => by simp at hlt⟩
  have : Std.Antisymm fun a b : κ => compare a b = .lt := ⟨fun a b hab hba => by
    have hswap : compare b a = (compare a b).swap := Std.OrientedCmp.eq_swap
    rw [hab, hba] at hswap
    cases hswap⟩
  refine List.Pairwise.eq_of_mem_iff (r := fun a b : κ => compare a b = .lt) ?_ ?_ h
  · exact List.pairwise_map.2 hs
  · exact List.pairwise_map.2 hs'

end

end Search
