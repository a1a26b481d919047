import Mathlib.Data.List.Sort
import Mathlib.Tactic.Common

/-!
# Ranking by a comparator

A list is ranked by a test "ranks ahead" that need not be an order on the whole type. `Decides`: on
the list the test is the strict part of a comparator that tells the elements of the list apart. Then
it is a strict total order there (`Decides.strictlyOrders`), the ranking is sorted by it
(`ranked_pairwise`) and does not depend on the order of the list (`ranked_eq`), and the first element
with a property is the one that is ahead of all others with it (`find?_ranked_iff`). Two lists sorted
by a key that tells their elements apart agree when they are permutations (`sortedBy_eq_iff`).
-/

namespace Ranking

variable {α : Type*} {cmp : α → α → Ordering} {ahead : α → α → Bool} {xs ys : List α}

/-- The stable order in which nothing stands behind what it is ahead of. -/
def ranked (ahead : α → α → Bool) (xs : List α) : List α := xs.insertionSort fun a b => !ahead b a

/-- Sorting by a key forgets the order of a list that its keys tell apart, and nothing else. -/
theorem sortedBy_eq_iff {κ : Type*} (key : α → κ) (le : κ → κ → Prop) [DecidableRel le]
    (htotal : ∀ a b, le a b ∨ le b a) (htrans : ∀ a b c, le a b → le b c → le a c)
    (hanti : ∀ a b, le a b → le b a → a = b) (hkey : ∀ a ∈ xs, ∀ b ∈ xs, key a = key b → a = b) :
    xs.insertionSort (fun a b => le (key a) (key b)) = ys.insertionSort (fun a b => le (key a) (key b)) ↔
      xs.Perm ys := by
  have hstdTotal : Std.Total fun a b => le (key a) (key b) := ⟨fun a b => htotal (key a) (key b)⟩
  have hstdTrans : IsTrans α fun a b => le (key a) (key b) := ⟨fun a b c => htrans _ _ _⟩
  have hxs := List.perm_insertionSort (fun a b => le (key a) (key b)) xs
  have hys := List.perm_insertionSort (fun a b => le (key a) (key b)) ys
  constructor
  · intro h
    rw [h] at hxs
    exact hxs.symm.trans hys
  · intro hperm
    refine List.Perm.eq_of_pairwise (fun a b ha hb hab hba => ?_) (List.pairwise_insertionSort _ xs)
      (List.pairwise_insertionSort _ ys) (hxs.trans (hperm.trans hys.symm))
    exact hkey a (hxs.mem_iff.1 ha) b (hperm.mem_iff.2 (hys.mem_iff.1 hb)) (hanti _ _ hab hba)

/-- On the list, the test is the strict part of a comparator that tells its elements apart. -/
structure Decides (cmp : α → α → Ordering) (ahead : α → α → Bool) (xs : List α) : Prop where
  ahead_eq : ∀ a ∈ xs, ∀ b ∈ xs, ahead a b = (cmp a b).isLT
  separates : ∀ a ∈ xs, ∀ b ∈ xs, cmp a b = .eq → a = b

/-- On the list, the test is a strict total order. -/
structure StrictlyOrders (ahead : α → α → Bool) (xs : List α) : Prop where
  irrefl : ∀ a ∈ xs, ahead a a = false
  trans : ∀ a ∈ xs, ∀ b ∈ xs, ∀ c ∈ xs, ahead a b = true → ahead b c = true → ahead a c = true
  trichotomous : ∀ a ∈ xs, ∀ b ∈ xs, ahead a b = true ∨ a = b ∨ ahead b a = true

theorem ranked_perm (ahead : α → α → Bool) (xs : List α) : (ranked ahead xs).Perm xs :=
  List.perm_insertionSort _ xs

theorem mem_ranked {a : α} : a ∈ ranked ahead xs ↔ a ∈ xs := (ranked_perm ahead xs).mem_iff

theorem Decides.of_perm (h : Decides cmp ahead xs) (hperm : ys.Perm xs) : Decides cmp ahead ys where
  ahead_eq a ha b hb := h.ahead_eq a (hperm.mem_iff.1 ha) b (hperm.mem_iff.1 hb)
  separates a ha b hb := h.separates a (hperm.mem_iff.1 ha) b (hperm.mem_iff.1 hb)

/-- A list is ranked by the order the comparator is on the whole type. -/
theorem Decides.ranked_sorted (h : Decides cmp ahead xs) :
    ranked ahead xs = xs.insertionSort fun a b => cmp b a ≠ .lt := by
  have hle : ∀ a ∈ xs, ∀ b ∈ xs, ((!ahead b a) = true ↔ cmp (id b) (id a) ≠ .lt) := by
    intro a ha b hb
    rw [h.ahead_eq b hb a ha, Bool.not_eq_true', Bool.eq_false_iff, ne_eq, Ordering.isLT_iff_eq_lt]
    rfl
  have hmap := List.map_insertionSort (fun a b => (!ahead b a) = true) (fun a b => cmp b a ≠ .lt)
    id xs hle
  rwa [List.map_id, List.map_id] at hmap

section
variable [Std.TransCmp cmp]

theorem cmp_swap (cmp : α → α → Ordering) [Std.TransCmp cmp] (a b : α) :
    cmp a b = (cmp b a).swap := Std.OrientedCmp.eq_swap

theorem cmp_self (cmp : α → α → Ordering) [Std.TransCmp cmp] (a : α) : cmp a a = .eq :=
  Std.ReflCmp.compare_self

namespace Decides

theorem irrefl (h : Decides cmp ahead xs) {a : α} (ha : a ∈ xs) : ahead a a = false := by
  rw [h.ahead_eq a ha a ha, cmp_self cmp]
  rfl

theorem trans (h : Decides cmp ahead xs) {a b c : α} (ha : a ∈ xs) (hb : b ∈ xs) (hc : c ∈ xs)
    (hab : ahead a b = true) (hbc : ahead b c = true) : ahead a c = true := by
  rw [h.ahead_eq a ha b hb, Ordering.isLT_iff_eq_lt] at hab
  rw [h.ahead_eq b hb c hc, Ordering.isLT_iff_eq_lt] at hbc
  rw [h.ahead_eq a ha c hc, Ordering.isLT_iff_eq_lt]
  exact Std.TransCmp.lt_trans hab hbc

theorem asymm (h : Decides cmp ahead xs) {a b : α} (ha : a ∈ xs) (hb : b ∈ xs)
    (hab : ahead a b = true) : ahead b a = false := by
  by_contra hba
  have hloop := h.trans ha hb ha hab (by simpa using hba)
  rw [h.irrefl ha] at hloop
  cases hloop

theorem trichotomous (h : Decides cmp ahead xs) {a b : α} (ha : a ∈ xs) (hb : b ∈ xs) :
    ahead a b = true ∨ a = b ∨ ahead b a = true := by
  rw [h.ahead_eq a ha b hb, h.ahead_eq b hb a ha, cmp_swap cmp b a]
  cases hcmp : cmp a b with
  | lt => exact .inl rfl
  | eq => exact .inr (.inl (h.separates a ha b hb hcmp))
  | gt => exact .inr (.inr rfl)

theorem strictlyOrders (h : Decides cmp ahead xs) : StrictlyOrders ahead xs where
  irrefl _ ha := h.irrefl ha
  trans _ ha _ hb _ hc := h.trans ha hb hc
  trichotomous _ ha _ hb := h.trichotomous ha hb

/-- Of two elements of the ranking the front one is ahead. -/
theorem ranked_pairwise (h : Decides cmp ahead xs) (hnodup : xs.Nodup) :
    (ranked ahead xs).Pairwise fun a b => ahead a b = true := by
  have hsorted : (ranked ahead xs).Pairwise fun a b => cmp b a ≠ .lt := by
    rw [h.ranked_sorted]
    have htotal : Std.Total fun a b => cmp b a ≠ .lt := ⟨fun a b => by
      rw [cmp_swap cmp b a]
      cases cmp a b <;> simp⟩
    have htrans : IsTrans α fun a b => cmp b a ≠ .lt := ⟨fun a b c hba hcb => by
      have hle {x y : α} (hyx : cmp y x ≠ .lt) : (cmp x y).isLE := by
        rw [cmp_swap cmp x y]
        revert hyx
        cases cmp y x <;> simp
      have hac := Std.TransCmp.isLE_trans (hle hba) (hle hcb)
      rw [cmp_swap cmp a c] at hac
      intro hlt
      rw [hlt] at hac
      cases hac⟩
    exact List.pairwise_insertionSort _ xs
  have hdistinct : (ranked ahead xs).Nodup := (ranked_perm ahead xs).nodup_iff.2 hnodup
  refine (hsorted.and hdistinct).imp_of_mem fun {a b} ha hb hab => ?_
  rcases h.trichotomous (mem_ranked.1 ha) (mem_ranked.1 hb) with hahead | heq | hahead
  · exact hahead
  · exact absurd heq hab.2
  · rw [h.ahead_eq b (mem_ranked.1 hb) a (mem_ranked.1 ha), Ordering.isLT_iff_eq_lt] at hahead
    exact absurd hahead hab.1

/-- The ranking does not depend on the order of the list. -/
theorem ranked_eq (h : Decides cmp ahead xs) (hnodup : xs.Nodup) (hperm : ys.Perm xs) :
    ranked ahead ys = ranked ahead xs := by
  have hys := (h.of_perm hperm).ranked_pairwise (hperm.nodup_iff.2 hnodup)
  have hxs := h.ranked_pairwise hnodup
  refine List.Perm.eq_of_pairwise (fun a b ha hb hab hba => ?_) hys hxs
    ((ranked_perm ahead ys).trans (hperm.trans (ranked_perm ahead xs).symm))
  have hasymm := h.asymm (hperm.mem_iff.1 (mem_ranked.1 ha)) (mem_ranked.1 hb) hab
  rw [hba] at hasymm
  cases hasymm

end Decides

end

/-- In a list in which every element is ahead of those behind it, the test compares positions. -/
theorem Decides.of_pairwise [DecidableEq α]
    (h : ys.Pairwise fun a b => ahead a b = true ∧ ahead b a = false)
    (hirrefl : ∀ a ∈ ys, ahead a a = false) : Decides (compareOn ys.idxOf) ahead ys where
  ahead_eq a ha b hb := by
    have ha' := List.idxOf_lt_length_of_mem ha
    have hb' := List.idxOf_lt_length_of_mem hb
    have hpairs := List.pairwise_iff_getElem.1 h
    unfold compareOn
    rcases Nat.lt_trichotomy (ys.idxOf a) (ys.idxOf b) with hlt | heq | hgt
    · have hahead := hpairs _ _ ha' hb' hlt
      rw [List.getElem_idxOf ha', List.getElem_idxOf hb'] at hahead
      rw [hahead.1, Nat.compare_eq_lt.2 hlt]
      rfl
    · obtain rfl : a = b := (List.idxOf_inj ha).1 heq
      rw [hirrefl a ha, Nat.compare_eq_eq.2 heq]
      rfl
    · have hahead := hpairs _ _ hb' ha' hgt
      rw [List.getElem_idxOf ha', List.getElem_idxOf hb'] at hahead
      rw [hahead.2, Nat.compare_eq_gt.2 hgt]
      rfl
  separates a ha b _ hab := (List.idxOf_inj ha).1 (Nat.compare_eq_eq.1 hab)

/-- A ranking is the one arrangement in which every element is ahead of those behind it. -/
theorem ranked_of_pairwise [DecidableEq α]
    (h : ys.Pairwise fun a b => ahead a b = true ∧ ahead b a = false)
    (hirrefl : ∀ a ∈ ys, ahead a a = false) (hperm : xs.Perm ys) : ranked ahead xs = ys := by
  have hdecides := Decides.of_pairwise h hirrefl
  have hnodup : ys.Nodup := h.imp_of_mem fun {a b} ha _ hab heq => by
    rw [← heq, hirrefl a ha] at hab
    cases hab.1
  rw [hdecides.ranked_eq hnodup hperm]
  refine List.Perm.eq_of_pairwise (fun a b ha hb hab hba => ?_) (hdecides.ranked_pairwise hnodup)
    (h.imp And.left) (ranked_perm ahead ys)
  have hasymm := hdecides.asymm (mem_ranked.1 ha) hb hab
  rw [hba] at hasymm
  cases hasymm

section
variable [Std.TransCmp cmp]

namespace Decides

/-- The first element with a property is the one ahead of all others that have it. -/
theorem find?_ranked_iff (h : Decides cmp ahead xs) (hnodup : xs.Nodup) {p : α → Bool} {b : α} :
    (ranked ahead xs).find? p = some b ↔
      b ∈ xs ∧ p b = true ∧ ∀ a ∈ xs, p a = true → a = b ∨ ahead b a = true := by
  have hpairwise := h.ranked_pairwise hnodup
  constructor
  · intro hfind
    obtain ⟨hp, front, rest, hsplit, hfront⟩ := List.find?_eq_some_iff_append.1 hfind
    have hb : b ∈ ranked ahead xs := by
      rw [hsplit]
      simp
    refine ⟨mem_ranked.1 hb, hp, fun a ha hpa => ?_⟩
    have hmem : a ∈ front ++ b :: rest := hsplit ▸ mem_ranked.2 ha
    rcases List.mem_append.1 hmem with hin | hin
    · have hnot := hfront a hin
      rw [hpa] at hnot
      cases hnot
    · rcases List.mem_cons.1 hin with heq | hin
      · exact .inl heq
      · rw [hsplit] at hpairwise
        exact .inr ((List.pairwise_cons.1 (List.pairwise_append.1 hpairwise).2.1).1 a hin)
  · rintro ⟨hb, hp, hahead⟩
    obtain ⟨front, rest, hsplit⟩ := List.append_of_mem (mem_ranked.2 hb)
    refine List.find?_eq_some_iff_append.2 ⟨hp, front, rest, hsplit, fun a hin => ?_⟩
    by_contra hpa
    have ha : a ∈ ranked ahead xs := by
      rw [hsplit]
      simp [hin]
    rw [hsplit] at hpairwise
    have hab := (List.pairwise_append.1 hpairwise).2.2 a hin b List.mem_cons_self
    rcases hahead a (mem_ranked.1 ha) (by simpa using hpa) with heq | hba
    · subst heq
      rw [h.irrefl hb] at hab
      cases hab
    · rw [h.asymm (mem_ranked.1 ha) hb hab] at hba
      cases hba

end Decides

end

end Ranking
