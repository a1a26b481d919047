import Mathlib.Logic.Basic
import Mathlib.Tactic.Common
import Std.Data.ExtTreeMap

/-!
# Folds of keyed updates

A step that changes what is read at the key of its update only (`Pointwise.Local`). Folding such steps
over a list does at each key what the updates of that key do, in their order (`Local.foldl`), and
leaves a key alone that no update names (`Local.foldl_of_forall_ne`). When the updates are listed from
a table, the entry of a key makes all the updates of that key (`Local.foldl_table`).
-/

namespace Pointwise

variable {σ β κ γ : Type*} [DecidableEq κ]

/-- `step` reads differently at the key of its update only: there it is `update` of what was. -/
def Local (get : σ → κ → γ) (key : β → κ) (update : β → γ → γ) (step : σ → β → σ) : Prop :=
  ∀ s b k, get (step s b) k = if key b = k then update b (get s k) else get s k

namespace Local

variable {get : σ → κ → γ} {key : β → κ} {update : β → γ → γ} {step : σ → β → σ}

theorem self (h : Local get key update step) (s : σ) (b : β) :
    get (step s b) (key b) = update b (get s (key b)) := by
  rw [h s b (key b), if_pos rfl]

theorem other (h : Local get key update step) (s : σ) {b : β} {k : κ} (hk : key b ≠ k) :
    get (step s b) k = get s k := by
  rw [h s b k, if_neg hk]

/-- At each key, the updates of that key in their order. -/
theorem foldl (h : Local get key update step) (bs : List β) (s : σ) (k : κ) :
    get (bs.foldl step s) k =
      (bs.filter fun b => key b = k).foldl (fun v b => update b v) (get s k) := by
  induction bs generalizing s with
  | nil => rfl
  | cons b bs ih =>
    rw [List.foldl_cons, ih]
    by_cases hk : key b = k
    · subst hk
      simp [h.self]
    · simp [h.other s hk, hk]

theorem foldl_of_forall_ne (h : Local get key update step) {bs : List β} {k : κ}
    (hk : ∀ b ∈ bs, key b ≠ k) (s : σ) : get (bs.foldl step s) k = get s k := by
  rw [h.foldl, List.filter_eq_nil_iff.2 (by simpa using hk)]
  rfl

end Local

/-! ## Updates listed from a table -/

section
variable {κ ν β : Type} [Ord κ] [Std.TransOrd κ]

theorem values_eq (table : Std.ExtTreeMap κ ν) : table.values = table.toList.map Prod.snd := by
  obtain ⟨⟨tree⟩⟩ := table
  induction tree using Quotient.inductionOn with
  | h tree =>
    show tree.values = (Std.DTreeMap.Const.toList tree).map Prod.snd
    unfold Std.DTreeMap.values Std.DTreeMap.Const.toList
    rw [Std.DTreeMap.Internal.Impl.values_eq_map_snd,
      Std.DTreeMap.Internal.Impl.Const.toList_eq_toListModel_map]
    simp [Function.comp_def]

variable [Std.LawfulEqOrd κ] [DecidableEq κ]

omit [Ord κ] [Std.TransOrd κ] [Std.LawfulEqOrd κ] in
theorem filter_entry {entries : List (κ × ν)} (hdistinct : entries.Pairwise fun a b => a.1 ≠ b.1)
    {entry : κ × ν} (hmem : entry ∈ entries) :
    entries.filter (fun other => other.1 = entry.1) = [entry] := by
  induction entries with
  | nil => cases hmem
  | cons first rest ih =>
    obtain ⟨hfirst, hrest⟩ := List.pairwise_cons.1 hdistinct
    rcases List.mem_cons.1 hmem with rfl | hmem
    · have hnone : rest.filter (fun other => other.1 = entry.1) = [] :=
        List.filter_eq_nil_iff.2 fun other hother => by simpa using (hfirst other hother).symm
      simp [hnone]
    · have hne : first.1 ≠ entry.1 := hfirst entry hmem
      simp [hne, ih hrest hmem]

/-- The entries of one key. -/
theorem filter_toList (table : Std.ExtTreeMap κ ν) (k : κ) :
    table.toList.filter (fun entry => entry.1 = k) = (table[k]?).elim [] fun v => [(k, v)] := by
  have hdistinct : table.toList.Pairwise fun a b => a.1 ≠ b.1 :=
    table.distinct_keys_toList.imp fun h heq => h (Std.LawfulEqCmp.compare_eq_iff_eq.2 heq)
  cases hk : table[k]? with
  | none =>
    refine List.filter_eq_nil_iff.2 fun entry hmem => ?_
    have hfound := Std.ExtTreeMap.mem_toList_iff_getElem?_eq_some.1 hmem
    simp only [decide_eq_true_eq]
    rintro rfl
    rw [hk] at hfound
    cases hfound
  | some v =>
    have hmem : (k, v) ∈ table.toList := Std.ExtTreeMap.mem_toList_iff_getElem?_eq_some.2 hk
    exact filter_entry hdistinct hmem

omit [DecidableEq κ] in
/-- Tables that agree on the keys of a test list the same entries under these keys. -/
theorem filter_toList_congr {table table' : Std.ExtTreeMap κ ν} (q : κ → Bool)
    (h : ∀ k, q k = true → table'[k]? = table[k]?) :
    table'.toList.filter (fun entry => q entry.1) = table.toList.filter (fun entry => q entry.1) := by
  have hsorted (table : Std.ExtTreeMap κ ν) :
      (table.toList.filter fun entry => q entry.1).Pairwise fun a b => compare a.1 b.1 = .lt :=
    table.ordered_keys_toList.filter _
  have hnodup (table : Std.ExtTreeMap κ ν) :
      (table.toList.filter fun entry => q entry.1).Nodup := by
    refine (hsorted table).imp ?_
    intro a b hlt heq
    subst heq
    simp at hlt
  refine List.Perm.eq_of_pairwise (fun a b _ _ hlt hgt => ?_) (hsorted table') (hsorted table)
    ((List.perm_ext_iff_of_nodup (hnodup table') (hnodup table)).2 fun entry => ?_)
  · rw [Std.OrientedCmp.gt_of_lt hlt] at hgt
    cases hgt
  · obtain ⟨k, v⟩ := entry
    simp only [List.mem_filter, Std.ExtTreeMap.mem_toList_iff_getElem?_eq_some]
    exact and_congr_left fun hkey => by rw [h k hkey]

omit [DecidableEq κ] in
/-- A fold over a table that skips the other entries reads the table under these keys only. -/
theorem foldl_toList_congr {α : Type} {table table' : Std.ExtTreeMap κ ν} {f : α → κ × ν → α}
    (q : κ → Bool) (h : ∀ k, q k = true → table'[k]? = table[k]?)
    (hskip : ∀ acc entry, q entry.1 = false → f acc entry = acc) (acc : α) :
    table'.toList.foldl f acc = table.toList.foldl f acc := by
  have hfilter (entries : List (κ × ν)) : ∀ acc : α,
      entries.foldl f acc = (entries.filter fun entry => q entry.1).foldl f acc := by
    induction entries with
    | nil => intro acc; rfl
    | cons entry rest ih =>
      intro acc
      cases hkey : q entry.1 with
      | true => simp only [List.filter_cons, hkey, if_true, List.foldl_cons, ih]
      | false => simp [hskip acc entry hkey, hkey, ih]
  rw [hfilter, hfilter table.toList, filter_toList_congr q h]

omit [DecidableEq κ] in
/-- Tables that agree through readings of their values are listed alike through them. -/
theorem map_toList_congr {α ν' : Type} {table : Std.ExtTreeMap κ ν} {table' : Std.ExtTreeMap κ ν'}
    {f : ν → α} {f' : ν' → α} (h : ∀ k : κ, table'[k]?.map f' = table[k]?.map f) :
    table'.toList.map (fun entry => (entry.1, f' entry.2)) =
      table.toList.map fun entry => (entry.1, f entry.2) := by
  have hmap : table'.map (fun _ => f') = table.map fun _ => f := by
    refine Std.ExtTreeMap.ext_getElem? fun {k} => ?_
    simp [h]
  have hlist := congrArg Std.ExtTreeMap.toList hmap
  simpa [Std.ExtTreeMap.toList_map] using hlist

omit [DecidableEq κ] in
/-- Tables that list the same values under renamed keys agree at every key and its name. -/
theorem getElem?_renamed {α ν' : Type} {table : Std.ExtTreeMap κ ν} {table' : Std.ExtTreeMap κ ν'}
    {f : ν → α} {f' : ν' → α} {rename : κ → κ} (hrename : Function.Injective rename)
    (h : (table'.toList.map fun entry => (entry.1, f' entry.2)).Perm
      (table.toList.map fun entry => (rename entry.1, f entry.2))) (k : κ) :
    table'[rename k]?.map f' = table[k]?.map f := by
  have hlisted {ν : Type} (table : Std.ExtTreeMap κ ν) (f : ν → α) (name : κ → κ)
      (hname : Function.Injective name) (k : κ) (a : α) :
      table[k]?.map f = some a ↔ (name k, a) ∈ table.toList.map fun entry => (name entry.1, f entry.2) := by
    rw [Option.map_eq_some_iff, List.mem_map]
    constructor
    · rintro ⟨v, hv, rfl⟩
      exact ⟨(k, v), Std.ExtTreeMap.mem_toList_iff_getElem?_eq_some.2 hv, rfl⟩
    · rintro ⟨⟨key, v⟩, hmem, heq⟩
      obtain ⟨hkey, rfl⟩ := Prod.mk.inj heq
      obtain rfl := hname hkey
      exact ⟨v, Std.ExtTreeMap.mem_toList_iff_getElem?_eq_some.1 hmem, rfl⟩
  refine Option.ext fun a => ?_
  rw [hlisted table' f' id Function.injective_id, hlisted table f rename hrename]
  exact h.mem_iff

/-- Updates that the entries of a table make at their own keys. -/
theorem Local.foldl_table {σ γ : Type} {get : σ → κ → γ} {key : β → κ} {update : β → γ → γ}
    {step : σ → β → σ} (h : Local get key update step) (table : Std.ExtTreeMap κ ν)
    {f : κ × ν → List β} (hf : ∀ entry ∈ table.toList, ∀ b ∈ f entry, key b = entry.1) (s : σ)
    (k : κ) :
    get ((table.toList.flatMap f).foldl step s) k =
      ((table[k]?).elim [] fun v => f (k, v)).foldl (fun v b => update b v) (get s k) := by
  have hfilter : (table.toList.flatMap f).filter (fun b => key b = k) =
      (table.toList.filter fun entry => entry.1 = k).flatMap f := by
    generalize table.toList = entries at hf
    induction entries with
    | nil => rfl
    | cons entry rest ih =>
      have hrest := ih fun entry hmem => hf entry (List.mem_cons_of_mem _ hmem)
      have hentry := hf entry List.mem_cons_self
      rw [List.flatMap_cons, List.filter_append, hrest]
      by_cases hk : entry.1 = k
      · have hall : (f entry).filter (fun b => key b = k) = f entry :=
          List.filter_eq_self.2 fun b hb => by simp [hentry b hb, hk]
        simp [hk, hall]
      · have hnone : (f entry).filter (fun b => key b = k) = [] :=
          List.filter_eq_nil_iff.2 fun b hb => by simp [hentry b hb, hk]
        simp [hk, hnone]
  rw [h.foldl, hfilter, filter_toList]
  cases table[k]? with
  | none => rfl
  | some v => simp

/-- One update for each entry. -/
theorem Local.foldl_table_map {σ γ : Type} {get : σ → κ → γ} {key : β → κ} {update : β → γ → γ}
    {step : σ → β → σ} (h : Local get key update step) (table : Std.ExtTreeMap κ ν)
    {f : κ × ν → β} (hf : ∀ entry ∈ table.toList, key (f entry) = entry.1) (s : σ) (k : κ) :
    get ((table.toList.map f).foldl step s) k =
      (table[k]?).elim (get s k) fun v => update (f (k, v)) (get s k) := by
  rw [List.map_eq_flatMap, h.foldl_table table fun entry hmem b hb => by
    rw [List.mem_singleton.1 hb]
    exact hf entry hmem]
  cases table[k]? <;> rfl

end

end Pointwise
