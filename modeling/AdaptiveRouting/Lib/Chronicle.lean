import Mathlib.Data.List.Infix

/-!
# Chronicles

A list that grows at its end and is cut at its front. Some of its entries are landmarks; the others
belong to the last landmark before them. `Chronicle` says how each landmark follows the one before
it, and what the latest one says of the present. An entry extends a chronicle when it continues the
present (`Chronicle.mark`, `Chronicle.plain`), and what is left of a chronicle is one
(`Chronicle.suffix`).
-/

/-- How the entries of a chronicle go together: which are landmarks, how a landmark follows another,
what an entry has to do with the landmark it belongs to, and what the latest says of the present. -/
structure Chronicle.Rules (α σ : Type*) where
  marks : α → Prop
  follows : α → α → Prop
  belongs : α → α → Prop
  tells : α → σ → Prop

structure Chronicle {α σ : Type*} (rules : Chronicle.Rules α σ) (entries : List α) (now : σ) :
    Prop where
  consecutive : ∀ before first between second after,
    entries = before ++ first :: (between ++ second :: after) → rules.marks first →
    (∀ entry ∈ between, ¬ rules.marks entry) → rules.marks second → rules.follows first second
  between : ∀ before first between entry after,
    entries = before ++ first :: (between ++ entry :: after) → rules.marks first →
    (∀ entry ∈ between, ¬ rules.marks entry) → ¬ rules.marks entry → rules.belongs first entry
  latest : ∀ before last after, entries = before ++ last :: after → rules.marks last →
    (∀ entry ∈ after, ¬ rules.marks entry) → rules.tells last now

namespace Chronicle

variable {α σ : Type*} {rules : Rules α σ} {entries : List α} {now now' : σ} {x : α}

theorem nil : Chronicle rules ([] : List α) now where
  consecutive _ _ _ _ _ h := by simp at h
  between _ _ _ _ _ h := by simp at h
  latest _ _ _ h := by simp at h

/-- An entry of a list that was extended is the new one, or was there. -/
theorem of_snoc {before after : List α} {y : α} (h : entries ++ [x] = before ++ y :: after) :
    (after = [] ∧ before = entries ∧ y = x) ∨
      ∃ rest, after = rest ++ [x] ∧ entries = before ++ y :: rest := by
  rcases List.eq_nil_or_concat after with rfl | ⟨rest, z, rfl⟩
  · obtain ⟨rfl, hlast⟩ := List.append_inj' h rfl
    cases hlast
    exact .inl ⟨rfl, rfl, rfl⟩
  · rw [List.concat_eq_append, ← List.cons_append, ← List.append_assoc] at h
    obtain ⟨rfl, hlast⟩ := List.append_inj' h rfl
    cases hlast
    exact .inr ⟨rest, List.concat_eq_append, rfl⟩

/-- A landmark that follows whatever the latest one says of the present extends a chronicle. -/
theorem mark (h : Chronicle rules entries now) (hx : rules.marks x)
    (hfollows : ∀ last, rules.marks last → rules.tells last now → rules.follows last x)
    (htells : rules.tells x now') : Chronicle rules (entries ++ [x]) now' where
  consecutive before first between second after heq hfirst hbetween hsecond := by
    rw [← List.cons_append, ← List.append_assoc] at heq
    rcases of_snoc heq with ⟨-, hentries, rfl⟩ | ⟨rest, -, hentries⟩
    · exact hfollows first hfirst (h.latest before first between hentries.symm hfirst hbetween)
    · rw [List.append_assoc, List.cons_append] at hentries
      exact h.consecutive before first between second rest hentries hfirst hbetween hsecond
  between before first between entry after heq hfirst hbetween hentry := by
    rw [← List.cons_append, ← List.append_assoc] at heq
    rcases of_snoc heq with ⟨-, -, rfl⟩ | ⟨rest, -, hentries⟩
    · exact absurd hx hentry
    · rw [List.append_assoc, List.cons_append] at hentries
      exact h.between before first between entry rest hentries hfirst hbetween hentry
  latest before last after heq _ hafter := by
    rcases of_snoc heq with ⟨-, -, rfl⟩ | ⟨rest, rfl, -⟩
    · exact htells
    · exact absurd hx (hafter x (by simp))

/-- An entry that belongs to whatever landmark speaks of the present extends a chronicle. -/
theorem plain (h : Chronicle rules entries now) (hx : ¬ rules.marks x)
    (hbelongs : ∀ last, rules.marks last → rules.tells last now → rules.belongs last x)
    (htells : ∀ last, rules.tells last now → rules.tells last now') :
    Chronicle rules (entries ++ [x]) now' where
  consecutive before first between second after heq hfirst hbetween hsecond := by
    rw [← List.cons_append, ← List.append_assoc] at heq
    rcases of_snoc heq with ⟨-, -, rfl⟩ | ⟨rest, -, hentries⟩
    · exact absurd hsecond hx
    · rw [List.append_assoc, List.cons_append] at hentries
      exact h.consecutive before first between second rest hentries hfirst hbetween hsecond
  between before first between entry after heq hfirst hbetween hentry := by
    rw [← List.cons_append, ← List.append_assoc] at heq
    rcases of_snoc heq with ⟨-, hentries, rfl⟩ | ⟨rest, -, hentries⟩
    · exact hbelongs first hfirst (h.latest before first between hentries.symm hfirst hbetween)
    · rw [List.append_assoc, List.cons_append] at hentries
      exact h.between before first between entry rest hentries hfirst hbetween hentry
  latest before last after heq hlast hafter := by
    rcases of_snoc heq with ⟨-, -, rfl⟩ | ⟨rest, rfl, hentries⟩
    · exact absurd hlast hx
    · apply htells
      exact h.latest before last rest hentries hlast fun entry hentry => hafter entry (by simp [hentry])

theorem suffix {kept : List α} (h : Chronicle rules entries now) (hkept : kept <:+ entries) :
    Chronicle rules kept now := by
  obtain ⟨dropped, rfl⟩ := hkept
  refine ⟨fun before first between second after heq => ?_,
    fun before first between entry after heq => ?_, fun before last after heq => ?_⟩
  · apply h.consecutive (dropped ++ before) first between second after
    rw [heq, List.append_assoc]
  · apply h.between (dropped ++ before) first between entry after
    rw [heq, List.append_assoc]
  · apply h.latest (dropped ++ before) last after
    rw [heq, List.append_assoc]

/-- Entries may be rewritten in what the rules do not look at. -/
theorem map {f : α → α} (h : Chronicle rules entries now)
    (hmarks : ∀ x, rules.marks (f x) ↔ rules.marks x)
    (hfollows : ∀ x y, rules.follows x y → rules.follows (f x) (f y))
    (hbelongs : ∀ x y, rules.belongs x y → rules.belongs (f x) (f y))
    (htells : ∀ x, rules.tells x now → rules.tells (f x) now') :
    Chronicle rules (entries.map f) now' := by
  have hplain {xs : List α} (hxs : ∀ entry ∈ xs.map f, ¬ rules.marks entry) :
      ∀ entry ∈ xs, ¬ rules.marks entry := by
    intro entry hentry hmark
    exact hxs (f entry) (List.mem_map_of_mem hentry) ((hmarks entry).2 hmark)
  refine ⟨fun before first between second after heq hfirst hbetween hsecond => ?_,
    fun before first between entry after heq hfirst hbetween hentry => ?_,
    fun before last after heq hlast hafter => ?_⟩
  · obtain ⟨before, tail, hentries, rfl, hfrom⟩ := List.map_eq_append_iff.1 heq
    obtain ⟨first, later, rfl, rfl, hlater⟩ := List.map_eq_cons_iff.1 hfrom
    obtain ⟨between, last, rfl, rfl, hlast⟩ := List.map_eq_append_iff.1 hlater
    obtain ⟨second, after, rfl, rfl, rfl⟩ := List.map_eq_cons_iff.1 hlast
    exact hfollows _ _ (h.consecutive before first between second after hentries
      ((hmarks first).1 hfirst) (hplain hbetween) ((hmarks second).1 hsecond))
  · obtain ⟨before, tail, hentries, rfl, hfrom⟩ := List.map_eq_append_iff.1 heq
    obtain ⟨first, later, rfl, rfl, hlater⟩ := List.map_eq_cons_iff.1 hfrom
    obtain ⟨between, last, rfl, rfl, hlast⟩ := List.map_eq_append_iff.1 hlater
    obtain ⟨entry, after, rfl, rfl, rfl⟩ := List.map_eq_cons_iff.1 hlast
    exact hbelongs _ _ (h.between before first between entry after hentries
      ((hmarks first).1 hfirst) (hplain hbetween) fun hmark => hentry ((hmarks entry).2 hmark))
  · obtain ⟨before, tail, hentries, rfl, hfrom⟩ := List.map_eq_append_iff.1 heq
    obtain ⟨last, after, rfl, rfl, rfl⟩ := List.map_eq_cons_iff.1 hfrom
    exact htells _ (h.latest before last after hentries ((hmarks last).1 hlast) (hplain hafter))

end Chronicle
