import AdaptiveRouting.Diff
import AdaptiveRouting.Lib.Ranking

/-!
# Diffs

The notes of a diff stand in one fixed order of the facets (`entries_eq`), whatever differs. So a diff
has at most one note for a field, is empty for snapshots that agree (`Alike`), reads backwards when it is
taken the other way round, and notes no field that neither half of a detour notes (`diff_laws`).
-/

namespace AdaptiveRouting

open Ranking

/-! ## The order of the notes -/

namespace Facet

/-- Every note of the one is ahead of every note of the other. -/
def ahead (f g : Facet) : Bool :=
  [f.raised, f.lowered].all fun kind => [g.raised, g.lowered].all fun other =>
    let a : DiffEntry := { kind, field := f.field, before := [], after := [] }
    let b : DiffEntry := { kind := other, field := g.field, before := [], after := [] }
    a.precedes b && !b.precedes a

end Facet

/-- Where the facets stand in a diff. -/
def facetOrder : List Nat := [2, 0, 1, 4, 5, 6, 14, 9, 10, 3, 11, 12, 13, 7, 8]

def orderedFacets : List Facet := facetOrder.filterMap fun i => facets[i]?

theorem orderedFacets_perm : orderedFacets.Perm facets := by
  have hperm : facetOrder.Perm (List.range 15) := by decide
  exact hperm.filterMap fun i => facets[i]?

theorem orderedFacets_ahead : orderedFacets.Pairwise fun f g => f.ahead g = true := by
  decide +kernel

theorem orderedFacets_fields : orderedFacets.Pairwise fun f g => f.field ≠ g.field := by
  decide +kernel

section
variable {a b : AdaptationSnapshot} {f g : Facet} {note other : DiffEntry}

theorem Facet.entry_some (h : f.entry a b = some note) : f.differs a b = true ∧
    note = { kind := f.kind b, field := f.field, before := f.text a, after := f.text b } := by
  unfold Facet.entry at h
  split at h
  · rename_i hdiffers
    cases h
    exact ⟨hdiffers, rfl⟩
  · cases h

theorem Facet.kind_mem (f : Facet) (s : AdaptationSnapshot) : f.kind s ∈ [f.raised, f.lowered] := by
  unfold Facet.kind
  split <;> simp

theorem Facet.ahead_precedes (h : f.ahead g = true) (hf : f.entry a b = some note)
    (hg : g.entry a b = some other) : note.precedes other = true ∧ other.precedes note = false := by
  obtain ⟨-, rfl⟩ := Facet.entry_some hf
  obtain ⟨-, rfl⟩ := Facet.entry_some hg
  have hkinds := List.all_eq_true.1 (List.all_eq_true.1 h _ (f.kind_mem b)) _ (g.kind_mem b)
  obtain ⟨hfront, hback⟩ := Bool.and_eq_true_iff.1 hkinds
  exact ⟨hfront, Bool.not_eq_eq_eq_not.1 hback⟩

theorem DiffEntry.not_precedes_self (note : DiffEntry) : note.precedes note = false := by
  unfold DiffEntry.precedes
  rw [if_neg (by simp)]
  exact decide_eq_false (List.lt_irrefl note.field)

variable (a b) in
/-- Of two notes the front one is ahead. -/
theorem notes_pairwise : (orderedFacets.filterMap fun facet => facet.entry a b).Pairwise
    fun note other => note.precedes other = true ∧ other.precedes note = false :=
  orderedFacets_ahead.filterMap (fun facet : Facet => facet.entry a b)
    fun _ _ hahead _ hnote _ hother => Facet.ahead_precedes hahead hnote hother

variable (a b) in
/-- The notes of the facets that differ, in the order of the facets. -/
theorem entries_eq :
    (computeDiff a b).entries = orderedFacets.filterMap fun facet => facet.entry a b :=
  ranked_of_pairwise (notes_pairwise a b) (fun note _ => note.not_precedes_self)
    (orderedFacets_perm.symm.filterMap _)

theorem mem_entries : note ∈ (computeDiff a b).entries ↔ ∃ facet ∈ facets, facet.entry a b = some note := by
  rw [entries_eq, List.mem_filterMap]
  exact exists_congr fun facet => and_congr_left' orderedFacets_perm.mem_iff

end

/-! ## The facets -/

/-- What a diff calls a change when it is taken the other way round. -/
def DiffKind.mirror : DiffKind → DiffKind
  | .holdDownEntered => .holdDownExited
  | .holdDownExited => .holdDownEntered
  | .cooldownEntered => .cooldownExited
  | .cooldownExited => .cooldownEntered
  | kind => kind

def DiffEntry.mirror (note : DiffEntry) : DiffEntry where
  kind := note.kind.mirror
  field := note.field
  before := note.after
  after := note.before

/-- A facet compares a value, and its kind turns with the comparison. -/
structure Facet.Fair (f : Facet) : Prop where
  symm : ∀ a b, f.differs b a = f.differs a b
  trans : ∀ a b c, f.differs a c = true → f.differs a b = true ∨ f.differs b c = true
  kind : ∀ a b, f.differs a b = true → f.kind a = (f.kind b).mirror

namespace Facet

theorem Fair.of {β : Type} [DecidableEq β] {kind : DiffKind} (hkind : kind.mirror = kind) (field : Text)
    (value : AdaptationSnapshot → β) (text : AdaptationSnapshot → Text) :
    (Facet.of kind field value text).Fair where
  symm a b := bne_comm
  trans a b c h := by
    simp only [Facet.of, bne_iff_ne] at h ⊢
    by_cases hab : value a = value b
    · exact .inr (hab ▸ h)
    · exact .inl hab
  kind a b _ := hkind.symm

theorem Fair.timer {entered exited : DiffKind} (hentered : entered.mirror = exited)
    (hexited : exited.mirror = entered) (field : Text) (active : AdaptationSnapshot → Bool) :
    (Facet.timer entered exited field active).Fair where
  symm a b := bne_comm
  trans a b c h := by
    simp only [Facet.timer, Facet.of, bne_iff_ne] at h ⊢
    by_cases hab : active a = active b
    · exact .inr (hab ▸ h)
    · exact .inl hab
  kind a b h := by
    simp only [Facet.timer, Facet.of, bne_iff_ne] at h
    unfold Facet.kind Facet.timer Facet.of
    cases ha : active a <;> cases hb : active b <;> simp [ha, hb, hentered, hexited] at h ⊢

theorem Fair.entry {f : Facet} (hf : f.Fair) (a b : AdaptationSnapshot) :
    f.entry b a = (f.entry a b).map DiffEntry.mirror := by
  unfold Facet.entry
  rw [hf.symm a b]
  split
  · rename_i hdiffers
    rw [hf.kind a b hdiffers]
    rfl
  · rfl

end Facet

theorem facets_fair : ∀ f ∈ facets, f.Fair := by
  simp only [facets, List.forall_mem_cons, List.not_mem_nil, false_implies, implies_true, and_true]
  exact ⟨.of rfl .., .of rfl .., .of rfl .., .of rfl .., .of rfl ..,
    .of rfl .., .of rfl .., .of rfl .., .of rfl .., .timer rfl rfl ..,
    .timer rfl rfl .., .of rfl .., .of rfl .., .of rfl .., .of rfl ..⟩

/-! ## Laws -/

/-- Two snapshots agree in everything a diff compares. -/
structure AdaptationSnapshot.Alike (a b : AdaptationSnapshot) : Prop where
  digest : a.digest = b.digest
  lifecycle : a.lifecycle = b.lifecycle
  policyGeneration : a.policyGeneration = b.policyGeneration
  authority : a.authorityGeneration = b.authorityGeneration ∧ a.epoch = b.epoch
  candidates : renderCandidateSet a = renderCandidateSet b
  evidenceGeneration : a.evidenceGeneration = b.evidenceGeneration
  preferred : preferredText a = preferredText b
  adaptationGeneration : a.adaptationGeneration = b.adaptationGeneration
  transitionGeneration : a.transitionGeneration = b.transitionGeneration
  holdDown : a.holdDownActive = b.holdDownActive
  cooldown : a.cooldownActive = b.cooldownActive
  currentness : a.currentness = b.currentness
  stable : a.stable.established = b.stable.established ∧ a.stable.path = b.stable.path
  dampening : a.dampeningPenalty = b.dampeningPenalty
  outcome : lastOutcome a = lastOutcome b

theorem alike_iff {a b : AdaptationSnapshot} :
    (∀ f ∈ facets, f.differs a b = false) ↔ a.Alike b := by
  simp only [facets, List.forall_mem_cons, List.not_mem_nil, false_implies, implies_true, and_true,
    Facet.ofText, Facet.timer, Facet.of, bne_eq_false_iff_eq, Prod.mk.injEq]
  constructor
  · rintro ⟨h₁, h₂, h₃, h₄, h₅, h₆, h₇, h₈, h₉, h₁₀, h₁₁, h₁₂, h₁₃, h₁₄, h₁₅⟩
    exact ⟨h₁, h₂, h₃, h₄, h₅, h₆, h₇, h₈, h₉, h₁₀, h₁₁, h₁₂, h₁₃, h₁₄, h₁₅⟩
  · rintro ⟨h₁, h₂, h₃, h₄, h₅, h₆, h₇, h₈, h₉, h₁₀, h₁₁, h₁₂, h₁₃, h₁₄, h₁₅⟩
    exact ⟨h₁, h₂, h₃, h₄, h₅, h₆, h₇, h₈, h₉, h₁₀, h₁₁, h₁₂, h₁₃, h₁₄, h₁₅⟩

/-- The fields a diff notes. -/
def AdaptationDiff.fields (diff : AdaptationDiff) : List Text := diff.entries.map (·.field)

theorem mem_fields {a b : AdaptationSnapshot} {field : Text} :
    field ∈ (computeDiff a b).fields ↔ ∃ f ∈ facets, f.field = field ∧ f.differs a b = true := by
  unfold AdaptationDiff.fields
  rw [List.mem_map]
  constructor
  · rintro ⟨note, hnote, rfl⟩
    obtain ⟨f, hf, hentry⟩ := mem_entries.1 hnote
    obtain ⟨hdiffers, rfl⟩ := Facet.entry_some hentry
    exact ⟨f, hf, rfl, hdiffers⟩
  · rintro ⟨f, hf, rfl, hdiffers⟩
    have hentry : f.entry a b = some
        { kind := f.kind b, field := f.field, before := f.text a, after := f.text b } :=
      if_pos hdiffers
    exact ⟨_, mem_entries.2 ⟨f, hf, hentry⟩, rfl⟩

structure DiffLaws : Prop where
  /-- The notes stand in the order of their kinds, then of their fields. -/
  sorted : ∀ a b, (computeDiff a b).entries.Pairwise fun note other => note.precedes other = true
  /-- No field is noted twice. -/
  distinct : ∀ a b, (computeDiff a b).fields.Nodup
  empty : ∀ a b, (computeDiff a b).entries = [] ↔ a.Alike b
  /-- The other way round, every note reads backwards, in the same order. -/
  mirrored : ∀ a b, (computeDiff b a).entries = (computeDiff a b).entries.map DiffEntry.mirror
  /-- What changed on the whole changed in one half or in the other. -/
  composed : ∀ a b c, (computeDiff a c).fields ⊆ (computeDiff a b).fields ++ (computeDiff b c).fields

theorem diff_laws : DiffLaws where
  sorted a b := by
    rw [entries_eq]
    exact (notes_pairwise a b).imp And.left
  distinct a b := by
    unfold AdaptationDiff.fields
    rw [entries_eq]
    refine List.pairwise_map.2 (orderedFacets_fields.filterMap (fun facet : Facet => facet.entry a b) ?_)
    intro f g hfields note hnote other hother
    obtain ⟨-, rfl⟩ := Facet.entry_some hnote
    obtain ⟨-, rfl⟩ := Facet.entry_some hother
    exact hfields
  empty a b := by
    rw [entries_eq, List.filterMap_eq_nil_iff, ← alike_iff]
    constructor
    · intro h f hf
      have hnone := h f (orderedFacets_perm.mem_iff.2 hf)
      unfold Facet.entry at hnone
      split at hnone
      · cases hnone
      · rename_i hsame
        simpa using hsame
    · intro h f hf
      exact if_neg (by simp [h f (orderedFacets_perm.mem_iff.1 hf)])
  mirrored a b := by
    rw [entries_eq, entries_eq, List.map_filterMap]
    refine List.filterMap_congr fun f hf => ?_
    exact (facets_fair f (orderedFacets_perm.mem_iff.1 hf)).entry a b
  composed a b c field hfield := by
    obtain ⟨f, hf, hname, hdiffers⟩ := mem_fields.1 hfield
    rcases (facets_fair f hf).trans a b c hdiffers with h | h
    · exact List.mem_append_left _ (mem_fields.2 ⟨f, hf, hname, h⟩)
    · exact List.mem_append_right _ (mem_fields.2 ⟨f, hf, hname, h⟩)

end AdaptiveRouting
