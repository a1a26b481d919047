import AdaptiveRouting.Lib.Runs
import AdaptiveRouting.StoreFile

/-!
# The store file

What is left on disk when saves are refused or cut short. As long as one save is under way at a time, the
store is never a part of what was saved (`store_survives`): it holds the bytes of the last save that
reported success, or all the bytes of a save begun since, and it is missing only after a rename was
refused. Two saves that overlap share the sibling, and may leave no store at all
(`overlap_loses_store`).
-/

namespace AdaptiveRouting

open Runs

namespace StoreFile

/-! ## One save at a time -/

/-- What a save has written where it stands. -/
def Ready (s : StoreFile) (saver : Saver) : Prop :=
  match saver.stage with
  | .writing file written => s.disk.temporary = some file ∧
      s.disk.files[file]? = some (saver.bytes.take written) ∧ written ≤ saver.bytes.length
  | .flushed => ∃ file, s.disk.temporary = some file ∧ s.disk.files[file]? = some saver.bytes
  | .refused | .cleared => s.refused = true ∧
      ∃ file, s.disk.temporary = some file ∧ s.disk.files[file]? = some saver.bytes

/-- What a reader of the store finds. -/
structure Intact (s : StoreFile) : Prop where
  /-- The bytes of the save acknowledged last, or all the bytes of one that was begun since. -/
  whole : ∀ content, s.disk.content = some content →
    s.acknowledged = some content ∨ content ∈ s.attempted
  missing : s.disk.content = none → s.acknowledged = none ∨ s.refused = true
  /-- Until the next save is begun. -/
  settled : s.attempted = [] → s.disk.content = s.acknowledged

structure Inv (s : StoreFile) : Prop where
  single : s.savers = [] ∨ ∃ saver, s.savers = [saver] ∧ saver.bytes ∈ s.attempted ∧ s.Ready saver
  apart : ∀ file, s.disk.temporary = some file → file < s.disk.files.length ∧ s.disk.store ≠ some file
  stored : ∀ file, s.disk.store = some file → file < s.disk.files.length
  whole : ∀ content, s.disk.content = some content →
    s.acknowledged = some content ∨ content ∈ s.attempted
  missing : s.disk.content = none → s.acknowledged = none ∨ s.refused = true
  begun : s.refused = true → s.attempted ≠ []

variable {s s' : StoreFile}

theorem Inv.intact (h : Inv s) : s.Intact where
  whole := h.whole
  missing := h.missing
  settled := by
    intro hnone
    cases hcontent : s.disk.content with
    | none =>
      rcases h.missing hcontent with hack | hrefused
      · exact hack.symm
      · exact absurd hnone (h.begun hrefused)
    | some content =>
      rcases h.whole content hcontent with hack | hattempted
      · exact hack.symm
      · rw [hnone] at hattempted
        cases hattempted

theorem start_inv : Inv {} where
  single := .inl rfl
  apart := fun _ h => by cases h
  stored := fun _ h => by cases h
  whole := fun _ h => by cases h
  missing := fun _ => .inl rfl
  begun := fun h => by cases h

instance (s : StoreFile) (event : FileEvent) : Decidable (s.Alone event) :=
  match event with
  | .begin .. => decidable_of_iff (s.savers.isEmpty = true) List.isEmpty_iff
  | .write .. | .fail .. | .flush _ | .rename .. | .remove .. | .crash => .isTrue trivial

/-! ### Steps -/

/-- The sibling is opened empty, and the store is not touched. -/
theorem openTemporary_spec {d : Disk}
    (hapart : ∀ file, d.temporary = some file → file < d.files.length ∧ d.store ≠ some file)
    (hstored : ∀ file, d.store = some file → file < d.files.length) :
    ∃ disk file, d.openTemporary = (disk, file) ∧ disk.content = d.content ∧ disk.store = d.store ∧
      disk.temporary = some file ∧ disk.files[file]? = some [] ∧ file < disk.files.length ∧
      d.files.length ≤ disk.files.length ∧ d.store ≠ some file := by
  unfold Disk.openTemporary
  cases htemporary : d.temporary with
  | some file =>
    obtain ⟨hlt, hne⟩ := hapart file htemporary
    refine ⟨_, _, rfl, ?_, rfl, rfl, by simp [hlt], by simpa using hlt, by simp, hne⟩
    unfold Disk.content
    cases hstore : d.store with
    | none => rfl
    | some stored =>
      have hdistinct : file ≠ stored := by
        rintro rfl
        exact hne hstore
      exact List.getElem?_set_ne hdistinct
  | none =>
    refine ⟨_, _, rfl, ?_, rfl, rfl, by simp, by simp, by simp, fun hstore => ?_⟩
    · unfold Disk.content
      cases hstore : d.store with
      | none => rfl
      | some stored => exact List.getElem?_append_left (hstored stored hstore)
    · exact Nat.lt_irrefl _ (hstored _ hstore)

/-- Writing to another file does not change the store. -/
theorem writeAt_content {d : Disk} {file : Nat} (hne : d.store ≠ some file) (offset : Nat)
    (bytes : Text) : (d.writeAt file offset bytes).content = d.content := by
  unfold Disk.writeAt Disk.content
  cases hstore : d.store with
  | none => rfl
  | some stored =>
    have hdistinct : file ≠ stored := by
      rintro rfl
      exact hne hstore
    exact List.getElem?_modify_ne _ _ hdistinct

/-- What is written behind what was written is the next part of it. -/
theorem writeAt_next {d : Disk} {file written : Nat} {bytes : Text} (count : Nat)
    (hfile : d.files[file]? = some (bytes.take written)) (hwritten : written ≤ bytes.length) :
    (d.writeAt file written ((bytes.drop written).take count)).files[file]? =
        some (bytes.take (written + ((bytes.drop written).take count).length)) ∧
      written + ((bytes.drop written).take count).length ≤ bytes.length := by
  generalize hnext : (bytes.drop written).take count = next
  have hlength : next.length ≤ bytes.length - written := by
    rw [← hnext, List.length_take, List.length_drop]
    omega
  have hprefix : next = (bytes.drop written).take next.length := by
    rw [← List.prefix_iff_eq_take, ← hnext]
    exact List.take_prefix ..
  have hold : (bytes.take written).length = written := List.length_take_of_le hwritten
  refine ⟨?_, by omega⟩
  unfold Disk.writeAt
  rw [List.getElem?_modify_eq, hfile, Option.map_eq_map, Option.map_some, hold, Nat.sub_self, List.take_take,
    Nat.min_self, List.drop_eq_nil_of_le (by omega), List.take_add, ← hprefix]
  simp

/-- A move over the store puts what the sibling holds there. -/
theorem rename_some {d disk : Disk} {granted : Bool} (h : d.rename granted = some disk) :
    ∃ file, d.temporary = some file ∧ disk = { d with store := some file, temporary := none } := by
  unfold Disk.rename at h
  split at h
  · obtain ⟨file, hfile, rfl⟩ := Option.map_eq_some_iff.1 h
    exact ⟨file, hfile, rfl⟩
  · cases h

theorem removeTemporary_spec (d : Disk) (removed : Bool) :
    (d.removeTemporary removed).content = d.content ∧
      (d.removeTemporary removed).store = d.store ∧ (d.removeTemporary removed).files = d.files ∧
      ∀ file, (d.removeTemporary removed).temporary = some file → d.temporary = some file := by
  unfold Disk.removeTemporary
  split
  · exact ⟨rfl, rfl, rfl, fun _ h => by cases h⟩
  · exact ⟨rfl, rfl, rfl, fun _ h => h⟩

/-- The save at the index is the one under way. -/
theorem Inv.only (h : Inv s) {index : Nat} {saver : Saver} (hsaver : s.savers[index]? = some saver) :
    s.savers = [saver] ∧ index = 0 ∧ saver.bytes ∈ s.attempted ∧ s.Ready saver := by
  rcases h.single with hnone | ⟨only, honly, hattempted, hready⟩
  · simp [hnone] at hsaver
  · rw [honly] at hsaver
    have hindex : index = 0 := by
      have hlt := (List.getElem?_eq_some_iff.1 hsaver).1
      simp only [List.length_singleton] at hlt
      omega
    subst hindex
    cases hsaver
    exact ⟨honly, rfl, hattempted, hready⟩

/-- A save gives up, or the process ends. -/
theorem Inv.gaveUp (h : Inv s) (removed : Bool) (hsavers : s'.savers = [])
    (hdisk : s'.disk = s.disk ∨ s'.disk = s.disk.removeTemporary removed)
    (hacknowledged : s'.acknowledged = s.acknowledged) (hattempted : s'.attempted = s.attempted)
    (hrefused : s'.refused = s.refused) : Inv s' := by
  have hspec : s'.disk.content = s.disk.content ∧ s'.disk.store = s.disk.store ∧
      s'.disk.files = s.disk.files ∧
      ∀ file, s'.disk.temporary = some file → s.disk.temporary = some file := by
    rcases hdisk with hdisk | hdisk <;> rw [hdisk]
    · exact ⟨rfl, rfl, rfl, fun _ h => h⟩
    · exact removeTemporary_spec s.disk removed
  obtain ⟨hcontent, hstore, hfiles, htemporary⟩ := hspec
  refine ⟨.inl hsavers, fun file hfile => ?_, fun file hfile => ?_, fun content hc => ?_, fun hc => ?_,
    fun hr => ?_⟩
  · rw [hfiles, hstore]
    exact h.apart file (htemporary file hfile)
  · rw [hfiles]
    exact h.stored file (hstore ▸ hfile)
  · rw [hacknowledged, hattempted]
    exact h.whole content (hcontent ▸ hc)
  · rw [hacknowledged, hrefused]
    exact h.missing (hcontent ▸ hc)
  · rw [hattempted]
    exact h.begun (hrefused ▸ hr)

/-- A save comes further without touching the store. -/
theorem Inv.proceeded (h : Inv s) {saver : Saver} {stage : SaveStage} {disk : Disk} {refused : Bool}
    (honly : s.savers = [saver]) (hattempted : saver.bytes ∈ s.attempted)
    (hcontent : disk.content = s.disk.content) (hstore : disk.store = s.disk.store)
    (htemporary : disk.temporary = s.disk.temporary)
    (hfiles : disk.files.length = s.disk.files.length) (hrefused : s.refused = true → refused = true)
    (hready : Ready { s with disk, refused } { saver with stage }) :
    Inv { s.proceed 0 saver stage disk with refused } := by
  refine ⟨.inr ⟨{ saver with stage }, ?_, hattempted, hready⟩, fun file hfile => ?_, fun file hfile => ?_,
    fun content hc => ?_, fun hc => ?_, fun _ => ?_⟩
  · simp [proceed, honly]
  · simp only [proceed, hfiles, hstore]
    exact h.apart file (htemporary ▸ hfile)
  · simp only [proceed, hfiles]
    exact h.stored file (hstore ▸ hfile)
  · exact h.whole content (hcontent ▸ hc)
  · exact (h.missing (hcontent ▸ hc)).imp_right hrefused
  · exact List.ne_nil_of_mem hattempted

/-- A save that moved its bytes over the store reports success. -/
theorem Inv.acknowledged (h : Inv s) {saver : Saver} {disk : Disk} {granted : Bool} {file : Nat}
    (honly : s.savers = [saver]) (hfile : s.disk.temporary = some file)
    (hbytes : s.disk.files[file]? = some saver.bytes) (hrename : s.disk.rename granted = some disk) :
    Inv (s.acknowledge 0 saver disk) := by
  obtain ⟨moved, hmoved, rfl⟩ := rename_some hrename
  rw [hfile] at hmoved
  cases hmoved
  have hcontent : Disk.content { s.disk with store := some file, temporary := none } =
      some saver.bytes := hbytes
  refine ⟨.inl (by simp [acknowledge, honly]), fun other hother => ?_, fun other hother => ?_,
    fun content hc => ?_, fun hc => ?_, fun hrefused => ?_⟩
  · cases hother
  · cases hother
    exact (h.apart file hfile).1
  · exact .inl (hcontent.symm.trans hc)
  · rw [show (s.acknowledge 0 saver _).disk.content = _ from hcontent] at hc
    cases hc
  · cases hrefused

/-- A step keeps the invariant when no save begins while another is under way. -/
theorem Inv.step (h : Inv s) {event : FileEvent} {result : Option (Except Text Unit)}
    (halone : s.Alone event) (hstep : s.step event = some (s', result)) : Inv s' := by
  cases event with
  | begin bytes granted =>
    have hnone : s.savers = [] := halone
    unfold StoreFile.step at hstep
    dsimp only at hstep
    split at hstep
    · obtain ⟨disk, file, hopen, hcontent, hstore, htemporary, hfile, hlt, hfiles, hne⟩ :=
        openTemporary_spec h.apart h.stored
      rw [hopen] at hstep
      obtain rfl : _ = s' := congrArg Prod.fst (Option.some.inj hstep)
      refine ⟨.inr ⟨{ bytes, stage := .writing file 0 }, by simp [hnone], by simp, ?_⟩, ?_, ?_, ?_, ?_, ?_⟩
      · exact ⟨htemporary, by simpa using hfile, Nat.zero_le _⟩
      · intro other hother
        have hsame := htemporary.symm.trans hother
        cases hsame
        exact ⟨hlt, by rw [hstore]; exact hne⟩
      · intro other hother
        exact Nat.lt_of_lt_of_le (h.stored other (hstore ▸ hother)) hfiles
      · intro content hc
        exact (h.whole content (hcontent ▸ hc)).imp_right (List.mem_append_left _)
      · intro hc
        exact h.missing (hcontent ▸ hc)
      · intro _
        simp
    · obtain rfl : _ = s' := congrArg Prod.fst (Option.some.inj hstep)
      exact h
  | crash =>
    obtain rfl : _ = s' := congrArg Prod.fst (Option.some.inj hstep)
    exact h.gaveUp false rfl (.inl rfl) rfl rfl rfl
  | write index count =>
    obtain ⟨saver, hs, hstep⟩ := Option.bind_eq_some_iff.1 hstep
    obtain ⟨honly, rfl, hattempted, hready⟩ := h.only hs
    unfold advance at hstep
    dsimp only at hstep
    split at hstep
    · rename_i file written hstage
      obtain rfl : _ = s' := congrArg Prod.fst (Option.some.inj hstep)
      unfold Ready at hready
      rw [hstage] at hready
      obtain ⟨htemporary, hfile, hwritten⟩ := hready
      obtain ⟨hnext, hle⟩ := writeAt_next count hfile hwritten
      exact h.proceeded honly hattempted (writeAt_content (h.apart file htemporary).2 ..) rfl rfl
        (by simp) id ⟨htemporary, hnext, hle⟩
    · cases hstep
  | fail index removed =>
    obtain ⟨saver, hs, hstep⟩ := Option.bind_eq_some_iff.1 hstep
    obtain ⟨honly, rfl, -, -⟩ := h.only hs
    unfold advance at hstep
    dsimp only at hstep
    split at hstep
    · obtain rfl : _ = s' := congrArg Prod.fst (Option.some.inj hstep)
      exact h.gaveUp removed (by simp [giveUp, honly]) (.inr rfl) rfl rfl rfl
    · cases hstep
  | flush index =>
    obtain ⟨saver, hs, hstep⟩ := Option.bind_eq_some_iff.1 hstep
    obtain ⟨honly, rfl, hattempted, hready⟩ := h.only hs
    unfold advance at hstep
    dsimp only at hstep
    split at hstep
    · rename_i file written hstage
      split at hstep
      · rename_i hall
        obtain rfl : _ = s' := congrArg Prod.fst (Option.some.inj hstep)
        unfold Ready at hready
        rw [hstage] at hready
        obtain ⟨htemporary, hbytes, -⟩ := hready
        rw [hall, List.take_length] at hbytes
        exact h.proceeded honly hattempted rfl rfl rfl rfl id ⟨file, htemporary, hbytes⟩
      · cases hstep
    · cases hstep
  | rename index granted removed =>
    obtain ⟨saver, hs, hstep⟩ := Option.bind_eq_some_iff.1 hstep
    obtain ⟨honly, rfl, hattempted, hready⟩ := h.only hs
    unfold advance at hstep
    dsimp only at hstep
    split at hstep
    · rename_i hstage
      unfold Ready at hready
      rw [hstage] at hready
      obtain ⟨file, htemporary, hbytes⟩ := hready
      split at hstep
      · rename_i disk hrename
        obtain rfl : _ = s' := congrArg Prod.fst (Option.some.inj hstep)
        exact h.acknowledged honly htemporary hbytes hrename
      · obtain rfl : _ = s' := congrArg Prod.fst (Option.some.inj hstep)
        exact h.proceeded honly hattempted rfl rfl rfl rfl (fun _ => rfl)
          ⟨rfl, file, htemporary, hbytes⟩
    · rename_i hstage
      unfold Ready at hready
      rw [hstage] at hready
      obtain ⟨-, file, htemporary, hbytes⟩ := hready
      split at hstep
      · rename_i disk hrename
        obtain rfl : _ = s' := congrArg Prod.fst (Option.some.inj hstep)
        exact h.acknowledged honly htemporary hbytes hrename
      · obtain rfl : _ = s' := congrArg Prod.fst (Option.some.inj hstep)
        exact h.gaveUp removed (by simp [giveUp, honly]) (.inr rfl) rfl rfl rfl
    · cases hstep
  | remove index granted =>
    obtain ⟨saver, hs, hstep⟩ := Option.bind_eq_some_iff.1 hstep
    obtain ⟨honly, rfl, hattempted, hready⟩ := h.only hs
    unfold advance at hstep
    dsimp only at hstep
    split at hstep
    · rename_i hstage
      obtain rfl : _ = s' := congrArg Prod.fst (Option.some.inj hstep)
      unfold Ready at hready
      rw [hstage] at hready
      unfold Disk.removeStore
      split
      · obtain ⟨hrefused, file, htemporary, hbytes⟩ := hready
        refine ⟨.inr ⟨{ saver with stage := .cleared }, by simp [proceed, honly], hattempted, hrefused,
          file, htemporary, hbytes⟩, ?_, ?_, ?_, fun _ => .inr hrefused, h.begun⟩
        · exact fun other hother => ⟨(h.apart other hother).1, fun hstore => by cases hstore⟩
        · exact fun other hother => by cases hother
        · exact fun content hc => by cases hc
      · exact h.proceeded honly hattempted rfl rfl rfl rfl id hready
    · cases hstep

/-- Whatever is refused and wherever the process ends, the store is whole as long as saves take turns. -/
theorem store_survives (hrun : Run step Alone {} s) : s.Intact :=
  (hrun.inv (fun _ _ _ _ halone h hstep => h.step halone hstep) start_inv).intact

/-- A save that is refused its first rename, and a process that ends behind the removal. -/
def cutShort : List FileEvent :=
  [.begin [1, 2] true, .write 0 2, .flush 0, .rename 0 true false, .begin [3] true, .write 0 1, .flush 0,
   .rename 0 false false, .remove 0 true, .crash]

theorem cut_short_survives : ∃ s : StoreFile, s.disk.content = none ∧ s.acknowledged = some [1, 2] ∧
    Run step Alone {} s ∧ s.Intact := by
  obtain ⟨s, hs, hlost⟩ := exists_run_of_runAll (show ((runAll step {} cutShort).any fun s =>
    s.acknowledged == some [1, 2] && s.disk.content == none) = true by decide)
  simp only [Bool.and_eq_true, beq_iff_eq] at hlost
  have hrun : Run step Alone {} s := runAll_where hs (by decide)
  exact ⟨s, hlost.2, hlost.1, hrun, store_survives hrun⟩

/-! ## Two saves at once -/

section
variable {file : Nat} {b : Text}

theorem begins (s : StoreFile) (b : Text) : ∃ s' file, s.step (.begin b true) = some (s', none) ∧
    s'.savers = s.savers ++ [⟨b, .writing file 0⟩] ∧ s'.disk.temporary = some file := by
  cases htemporary : s.disk.temporary with
  | some file =>
    have hopen : s.disk.openTemporary = ({ s.disk with files := s.disk.files.set file [] }, file) := by
      simp only [Disk.openTemporary, htemporary]
    exact ⟨_, file, rfl, by rw [hopen], by rw [hopen]; exact htemporary⟩
  | none =>
    have hopen : s.disk.openTemporary = ({ s.disk with
        temporary := some s.disk.files.length, files := s.disk.files ++ [[]] },
        s.disk.files.length) := by
      simp only [Disk.openTemporary, htemporary]
    exact ⟨_, s.disk.files.length, rfl, by rw [hopen], by rw [hopen]⟩

/-- All the bytes of a save may be written in one step. -/
theorem writes (index : Nat) (hsaver : s.savers[index]? = some ⟨b, .writing file 0⟩) :
    ∃ s', s.step (.write index b.length) = some (s', none) ∧
      s'.savers = s.savers.set index ⟨b, .writing file b.length⟩ ∧
      s'.disk.temporary = s.disk.temporary := by
  refine ⟨_, Option.bind_eq_some_iff.2 ⟨_, hsaver, rfl⟩, ?_, rfl⟩
  simp only [proceed, List.drop_zero, List.take_length, Nat.zero_add]

theorem flushes (index : Nat) (hsaver : s.savers[index]? = some ⟨b, .writing file b.length⟩) :
    ∃ s', s.step (.flush index) = some (s', none) ∧
      s'.savers = s.savers.set index ⟨b, .flushed⟩ ∧ s'.disk = s.disk :=
  ⟨_, Option.bind_eq_some_iff.2 ⟨_, hsaver, if_pos rfl⟩, rfl, rfl⟩

end

/-- The steps of two saves up to where both have written the sibling, none of them refused. -/
def bothWritten (a b : Text) : List FileEvent :=
  [.begin a true, .write 0 a.length, .begin b true, .write 1 b.length, .flush 0, .flush 1]

theorem both_flushed (hnone : s.savers = []) (a b : Text) : ∃ s' file,
    runAll step s (bothWritten a b) = some s' ∧ s'.savers = [⟨a, .flushed⟩, ⟨b, .flushed⟩] ∧
      s'.disk.temporary = some file := by
  obtain ⟨s₁, one, hs₁, hsavers₁, -⟩ := begins s a
  rw [hnone, List.nil_append] at hsavers₁
  obtain ⟨s₂, hs₂, hsavers₂, -⟩ := writes (s := s₁) 0 (congrArg (·[0]?) hsavers₁)
  rw [hsavers₁] at hsavers₂
  obtain ⟨s₃, two, hs₃, hsavers₃, hfile₃⟩ := begins s₂ b
  rw [hsavers₂] at hsavers₃
  obtain ⟨s₄, hs₄, hsavers₄, hfile₄⟩ := writes (s := s₃) 1 (congrArg (·[1]?) hsavers₃)
  rw [hsavers₃] at hsavers₄
  obtain ⟨s₅, hs₅, hsavers₅, hdisk₅⟩ := flushes (s := s₄) 0 (congrArg (·[0]?) hsavers₄)
  rw [hsavers₄] at hsavers₅
  obtain ⟨s₆, hs₆, hsavers₆, hdisk₆⟩ := flushes (s := s₅) 1 (congrArg (·[1]?) hsavers₅)
  rw [hsavers₅] at hsavers₆
  refine ⟨s₆, two, ?_, hsavers₆, ?_⟩
  · simp only [bothWritten, runAll, hs₁, hs₂, hs₃, hs₄, hs₅, hs₆, Option.bind_some]
  · rw [hdisk₆, hdisk₅, hfile₄, hfile₃]

theorem rename_gone {d : Disk} (hgone : d.temporary = none) (granted : Bool) :
    d.rename granted = none := by
  unfold Disk.rename
  split
  · rw [hgone]
    rfl
  · rfl

section
variable {b : Text} (index : Nat) (granted removed : Bool)

theorem step_flushed (hsaver : s.savers[index]? = some ⟨b, .flushed⟩) :
    s.step (.rename index granted removed) = match s.disk.rename granted with
      | some disk => some (s.acknowledge index ⟨b, .flushed⟩ disk, some (.ok ()))
      | none => some
          ({ s.proceed index ⟨b, .flushed⟩ .refused s.disk with refused := true }, none) := by
  change (s.savers[index]?.bind fun saver => s.advance index saver (.rename index granted removed)) = _
  rw [hsaver]
  rfl

theorem step_refused (hsaver : s.savers[index]? = some ⟨b, .refused⟩) :
    s.step (.remove index granted) =
      some (s.proceed index ⟨b, .refused⟩ .cleared (s.disk.removeStore granted), none) := by
  change (s.savers[index]?.bind fun saver => s.advance index saver (.remove index granted)) = _
  rw [hsaver]
  rfl

theorem step_cleared (hsaver : s.savers[index]? = some ⟨b, .cleared⟩) :
    s.step (.rename index granted removed) = match s.disk.rename granted with
      | some disk => some (s.acknowledge index ⟨b, .cleared⟩ disk, some (.ok ()))
      | none => some (s.giveUp index (s.disk.removeTemporary removed),
          some (.error "could not replace the store")) := by
  change (s.savers[index]?.bind fun saver => s.advance index saver (.rename index granted removed)) = _
  rw [hsaver]
  rfl

/-- A save that finds no sibling to move removes the store, and ends. -/
theorem clears_store (hsavers : s.savers = [⟨b, .flushed⟩]) (hgone : s.disk.temporary = none) :
    ∃ s₁ s', runAll step s [.rename 0 true true, .remove 0 true] = some s₁ ∧
      s₁.step (.rename 0 true true) = some (s', some (.error "could not replace the store")) ∧
      s'.savers = [] ∧ s'.disk.content = none ∧ s'.acknowledged = s.acknowledged := by
  have hfirst := step_flushed (s := s) (b := b) 0 true true (congrArg (·[0]?) hsavers)
  rw [rename_gone hgone] at hfirst
  generalize hrefused : { s.proceed 0 ⟨b, .flushed⟩ .refused s.disk with refused := true } = refused
    at hfirst
  have hsavers₁ : refused.savers = [⟨b, .refused⟩] := by
    rw [← hrefused]
    simp only [proceed, hsavers, List.set_cons_zero]
  have hsecond := step_refused (s := refused) (b := b) 0 true (congrArg (·[0]?) hsavers₁)
  generalize hcleared : refused.proceed 0 ⟨b, .refused⟩ .cleared (refused.disk.removeStore true) =
    cleared at hsecond
  have hsavers₂ : cleared.savers = [⟨b, .cleared⟩] := by
    rw [← hcleared]
    simp only [proceed, hsavers₁, List.set_cons_zero]
  have hdisk : cleared.disk = { s.disk with store := none } := by
    rw [← hcleared, ← hrefused]
    rfl
  have hthird := step_cleared (s := cleared) (b := b) 0 true true
    (congrArg (·[0]?) hsavers₂)
  rw [rename_gone (by rw [hdisk]; exact hgone)] at hthird
  refine ⟨cleared, _, ?_, hthird, ?_, ?_, ?_⟩
  · simp only [runAll, hfirst, hsecond, Option.bind_some]
  · simp only [giveUp, hsavers₂, List.eraseIdx_cons_zero]
  · change (cleared.disk.removeTemporary true).content = none
    rw [(removeTemporary_spec cleared.disk true).1, hdisk]
    rfl
  · change cleared.acknowledged = _
    rw [← hcleared, ← hrefused]
    rfl

end

/-- Two saves share the sibling. When both have written it, whichever moves it over the store reports
success, and the other one then leaves no store: nothing but the overlap is needed for that. -/
theorem overlap_loses_store (hnone : s.savers = []) (a b : Text) :
    ∃ both, runAll step s (bothWritten a b) = some both ∧ ∀ i < 2, ∃ s₁ s₂ s',
      both.step (.rename i true true) = some (s₁, some (.ok ())) ∧
      runAll step s₁ [.rename 0 true true, .remove 0 true] = some s₂ ∧
      s₂.step (.rename 0 true true) = some (s', some (.error "could not replace the store")) ∧
      s'.savers = [] ∧ s'.acknowledged = [a, b][i]? ∧ s'.disk.content = none := by
  obtain ⟨both, file, hboth, hsavers, hfile⟩ := both_flushed hnone a b
  refine ⟨both, hboth, fun i hi => ?_⟩
  have hrename : both.disk.rename true =
      some { both.disk with store := some file, temporary := none } := congrArg (Option.map _) hfile
  -- Whichever goes first, the other one is the only save left.
  have hturn : ∃ mine other, both.savers[i]? = some ⟨mine, .flushed⟩ ∧ [a, b][i]? = some mine ∧
      both.savers.eraseIdx i = [⟨other, .flushed⟩] := by
    rw [hsavers]
    obtain rfl | rfl : i = 0 ∨ i = 1 := by omega
    · exact ⟨a, b, rfl, rfl, rfl⟩
    · exact ⟨b, a, rfl, rfl, rfl⟩
  obtain ⟨mine, other, hmine, hbytes, hother⟩ := hturn
  have hmoves := step_flushed i true true hmine
  rw [hrename] at hmoves
  obtain ⟨s₂, s', hrun, hends, hleft, hcontent, hacknowledged⟩ := clears_store
    (s := both.acknowledge i ⟨mine, .flushed⟩
      { both.disk with store := some file, temporary := none }) hother rfl
  exact ⟨_, s₂, s', hmoves, hrun, hends, hleft, hacknowledged.trans hbytes.symm, hcontent⟩

/-- A save that is done. -/
def savedOnce : List FileEvent := [.begin [7] true, .write 0 1, .flush 0, .rename 0 true true]

theorem saved_store_lost : ∃ s s₁ s₂ s₃ s' : StoreFile, runAll step {} savedOnce = some s ∧
    s.disk.content = some [7] ∧ runAll step s (bothWritten [1, 2] [3]) = some s₁ ∧
    s₁.step (.rename 1 true true) = some (s₂, some (.ok ())) ∧
    runAll step s₂ [.rename 0 true true, .remove 0 true] = some s₃ ∧
    s₃.step (.rename 0 true true) = some (s', some (.error "could not replace the store")) ∧
    s'.savers = [] ∧ s'.acknowledged = some [3] ∧ s'.disk.content = none := by
  obtain ⟨s, hs, hsaved⟩ := exists_run_of_runAll (show ((runAll step {} savedOnce).any fun s =>
    s.savers == [] && s.disk.content == some [7]) = true by decide)
  simp only [Bool.and_eq_true, beq_iff_eq] at hsaved
  obtain ⟨s₁, hboth, hlost⟩ := overlap_loses_store hsaved.1 [1, 2] [3]
  obtain ⟨s₂, s₃, s', hmoves, hrun, hends, hleft, hack, hcontent⟩ := hlost 1 (by decide)
  exact ⟨s, s₁, s₂, s₃, s', hs, hsaved.2, hboth, hmoves, hrun, hends, hleft, hack, hcontent⟩

end StoreFile

end AdaptiveRouting
