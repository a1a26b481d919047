import AdaptiveRouting.Installation
import AdaptiveRouting.Lib.Slots
import AdaptiveRouting.Proof.Overtake
import AdaptiveRouting.Proof.StoreFile

/-!
# What a crash leaves

The process of a coordinator may end at any step of a save. When a session encodes its image only while no
other image is on its way to the store (`TakesTurns`), the sessions run as if each save were one step, and
what the path holds is all of the image written last, with everything that was answered behind it
(`answers_outlive_process`).
-/

namespace AdaptiveRouting

open Runs

/-! ## The files -/

namespace StoreFile

variable {s s' : StoreFile}

/-- What a step of the only save under way does. -/
inductive Turn (s : StoreFile) (saver : Saver) (s' : StoreFile) : Option (Except Text Unit) → Prop
  | goesOn {stage : SaveStage} (savers : s'.savers = [{ saver with stage }])
      (content : s'.disk.content = s.disk.content ∧ (s.refused = true → s'.refused = true) ∨
        s'.disk.content = none ∧ s'.refused = true) : Turn s saver s' none
  | replaces (savers : s'.savers = []) (content : s'.disk.content = some saver.bytes) :
      Turn s saver s' (some (.ok ()))
  | fails (detail : Text) (savers : s'.savers = []) (content : s'.disk.content = s.disk.content)
      (refused : s'.refused = s.refused) : Turn s saver s' (some (.error detail))

/-- Moving the sibling over the store. -/
theorem rename_content {d disk : Disk} {granted : Bool} {file : Nat} {bytes : Text}
    (h : d.rename granted = some disk) (hfile : d.temporary = some file)
    (hbytes : d.files[file]? = some bytes) : disk.content = some bytes := by
  obtain ⟨moved, hmoved, rfl⟩ := rename_some h
  rw [hfile] at hmoved
  cases hmoved
  exact hbytes

/-- The only save under way has come further. -/
theorem proceed_only {saver : Saver} (honly : s.savers = [saver]) (stage : SaveStage) (disk : Disk) :
    (s.proceed 0 saver stage disk).savers = [{ saver with stage }] :=
  congrArg (·.set 0 { saver with stage }) honly

theorem Inv.turn (h : Inv s) {event : FileEvent} {place : Nat} {result : Option (Except Text Unit)}
    (hplace : event.place = some place) (hstep : s.step event = some (s', result)) :
    place = 0 ∧ ∃ saver, s.savers = [saver] ∧ Turn s saver s' result := by
  cases event with
  | begin | crash => cases hplace
  | write index count =>
    cases hplace
    obtain ⟨saver, hs, hstep⟩ := Option.bind_eq_some_iff.1 hstep
    obtain ⟨honly, rfl, -, hready⟩ := h.only hs
    refine ⟨rfl, saver, honly, ?_⟩
    unfold advance at hstep
    dsimp only at hstep
    split at hstep
    · rename_i file written hstage
      obtain rfl : _ = s' := congrArg Prod.fst (Option.some.inj hstep)
      obtain rfl : _ = result := congrArg Prod.snd (Option.some.inj hstep)
      unfold Ready at hready
      rw [hstage] at hready
      exact .goesOn (proceed_only honly _ _)
        (.inl ⟨writeAt_content (h.apart file hready.1).2 .., id⟩)
    · cases hstep
  | fail index removed =>
    cases hplace
    obtain ⟨saver, hs, hstep⟩ := Option.bind_eq_some_iff.1 hstep
    obtain ⟨honly, rfl, -, -⟩ := h.only hs
    refine ⟨rfl, saver, honly, ?_⟩
    unfold advance at hstep
    dsimp only at hstep
    split at hstep
    · obtain rfl : _ = s' := congrArg Prod.fst (Option.some.inj hstep)
      obtain rfl : _ = result := congrArg Prod.snd (Option.some.inj hstep)
      exact .fails _ (by simp [giveUp, honly]) (removeTemporary_spec s.disk removed).1 rfl
    · cases hstep
  | flush index =>
    cases hplace
    obtain ⟨saver, hs, hstep⟩ := Option.bind_eq_some_iff.1 hstep
    obtain ⟨honly, rfl, -, -⟩ := h.only hs
    refine ⟨rfl, saver, honly, ?_⟩
    unfold advance at hstep
    dsimp only at hstep
    split at hstep
    · split at hstep
      · obtain rfl : _ = s' := congrArg Prod.fst (Option.some.inj hstep)
        obtain rfl : _ = result := congrArg Prod.snd (Option.some.inj hstep)
        exact .goesOn (proceed_only honly _ _) (.inl ⟨rfl, id⟩)
      · cases hstep
    · cases hstep
  | rename index granted removed =>
    cases hplace
    obtain ⟨saver, hs, hstep⟩ := Option.bind_eq_some_iff.1 hstep
    obtain ⟨honly, rfl, -, hready⟩ := h.only hs
    refine ⟨rfl, saver, honly, ?_⟩
    unfold advance at hstep
    dsimp only at hstep
    split at hstep
    · rename_i hstage
      unfold Ready at hready
      rw [hstage] at hready
      obtain ⟨file, htemporary, hbytes⟩ := hready
      split at hstep
      · rename_i disk hrename
        obtain rfl : _ = s' := congrArg Prod.fst (Option.some.inj hstep)
        obtain rfl : _ = result := congrArg Prod.snd (Option.some.inj hstep)
        exact .replaces (by simp [acknowledge, honly]) (rename_content hrename htemporary hbytes)
      · obtain rfl : _ = s' := congrArg Prod.fst (Option.some.inj hstep)
        obtain rfl : _ = result := congrArg Prod.snd (Option.some.inj hstep)
        exact .goesOn (proceed_only honly .refused s.disk) (.inl ⟨rfl, fun _ => rfl⟩)
    · rename_i hstage
      unfold Ready at hready
      rw [hstage] at hready
      obtain ⟨-, file, htemporary, hbytes⟩ := hready
      split at hstep
      · rename_i disk hrename
        obtain rfl : _ = s' := congrArg Prod.fst (Option.some.inj hstep)
        obtain rfl : _ = result := congrArg Prod.snd (Option.some.inj hstep)
        exact .replaces (by simp [acknowledge, honly]) (rename_content hrename htemporary hbytes)
      · obtain rfl : _ = s' := congrArg Prod.fst (Option.some.inj hstep)
        obtain rfl : _ = result := congrArg Prod.snd (Option.some.inj hstep)
        exact .fails _ (by simp [giveUp, honly]) (removeTemporary_spec s.disk removed).1 rfl
    · cases hstep
  | remove index granted =>
    cases hplace
    obtain ⟨saver, hs, hstep⟩ := Option.bind_eq_some_iff.1 hstep
    obtain ⟨honly, rfl, -, hready⟩ := h.only hs
    refine ⟨rfl, saver, honly, ?_⟩
    unfold advance at hstep
    dsimp only at hstep
    split at hstep
    · rename_i hstage
      obtain rfl : _ = s' := congrArg Prod.fst (Option.some.inj hstep)
      obtain rfl : _ = result := congrArg Prod.snd (Option.some.inj hstep)
      unfold Ready at hready
      rw [hstage] at hready
      refine .goesOn (proceed_only honly _ _) ?_
      cases granted with
      | true => exact .inr ⟨rfl, hready.1⟩
      | false => exact .inl ⟨rfl, id⟩
    · cases hstep

/-- Opening the sibling does not touch the store. -/
theorem Inv.begins (h : Inv s) {bytes : Text} {granted : Bool} {result : Option (Except Text Unit)}
    (hstep : s.step (.begin bytes granted) = some (s', result)) :
    (∃ detail, result = some (.error detail) ∧ s' = s) ∨
      result = none ∧ (∃ stage, s'.savers = s.savers ++ [Saver.mk bytes stage]) ∧
        s'.disk.content = s.disk.content ∧ s'.refused = s.refused := by
  unfold StoreFile.step at hstep
  dsimp only at hstep
  split at hstep
  · obtain ⟨disk, file, hopen, hcontent, -⟩ := openTemporary_spec h.apart h.stored
    rw [hopen] at hstep
    obtain rfl : _ = s' := congrArg Prod.fst (Option.some.inj hstep)
    obtain rfl : _ = result := congrArg Prod.snd (Option.some.inj hstep)
    exact .inr ⟨rfl, ⟨_, rfl⟩, hcontent, rfl⟩
  · obtain rfl : _ = s' := congrArg Prod.fst (Option.some.inj hstep)
    obtain rfl : _ = result := congrArg Prod.snd (Option.some.inj hstep)
    exact .inl ⟨_, rfl, rfl⟩

end StoreFile

/-! ## Sessions that take turns -/

namespace Service

/-- A session encodes its image while no other image is on its way to the store. -/
def TakesTurns (c : Service) : Move → Prop
  | .encode .. => ∀ worker ∈ c.workers, worker.progress.image = none
  | _ => True

instance (c : Service) (move : Move) : Decidable (c.TakesTurns move) :=
  match move with
  | .encode .. => inferInstanceAs (Decidable (∀ worker ∈ c.workers, worker.progress.image = none))
  | .accept _ | .frame .. | .lost _ | .replace _ | .refuse .. | .respond _ => .isTrue trivial

/-- One image at most is on its way, and it is not older than what was written. -/
structure Turned (c : Service) : Prop where
  one : ∀ (i j : Nat) (worker other : Worker), c.workers[i]? = some worker →
    c.workers[j]? = some other → worker.progress.image ≠ none → other.progress.image ≠ none → i = j
  newest : ∀ worker ∈ c.workers, ∀ image, worker.progress.image = some image →
    ∀ update ∈ c.saved, update.version ≤ image.version

section
variable {config : EngineConfig} {c c' : Service} {index : Nat} {worker after : Worker} {move : Move}
  {reply : Reply}

/-- The images that are on their way when a thread has moved on to something else. -/
theorem carrier_of_set (hworkers : c'.workers = c.workers.set index after)
    (hblank : after.progress.image = none) {i : Nat} {other : Worker}
    (hother : c'.workers[i]? = some other) (hcarries : other.progress.image ≠ none) :
    i ≠ index ∧ c.workers[i]? = some other := by
  rw [hworkers, List.getElem?_set] at hother
  split at hother
  · split at hother
    · cases hother
      exact absurd hblank hcarries
    · cases hother
  · rename_i hne
    exact ⟨fun h => hne h.symm, hother⟩

/-- No image is on its way that was not, and nothing is written that was not. -/
theorem Turned.of_carriers (h : c.Turned)
    (hcarriers : ∀ (i : Nat) (other : Worker), c'.workers[i]? = some other →
      other.progress.image ≠ none → c.workers[i]? = some other)
    (hsaved : ∀ update ∈ c'.saved, update ∈ c.saved) : c'.Turned where
  one i j worker other hworker hother hcarries hcarried :=
    h.one i j worker other (hcarriers i worker hworker hcarries) (hcarriers j other hother hcarried)
      hcarries hcarried
  newest worker hworker image himage update hupdate := by
    obtain ⟨i, hi⟩ := List.getElem?_of_mem hworker
    have hold := hcarriers i worker hi (by rw [himage]; exact Option.some_ne_none _)
    exact h.newest worker (List.mem_of_getElem? hold) image himage update (hsaved update hupdate)

theorem Turned.of_set (h : c.Turned) (hworkers : c'.workers = c.workers.set index after)
    (hblank : after.progress.image = none) (hsaved : ∀ update ∈ c'.saved, update ∈ c.saved) :
    c'.Turned :=
  h.of_carriers (fun _ _ hother hcarries => (carrier_of_set hworkers hblank hother hcarries).2) hsaved

theorem tracks_of_saved {update : Update} (h : update ∈ c.saved) : c.Tracks update := by
  rcases mem_saved.1 h with hanswered | ⟨worker, hworker, hsaved⟩
  · exact .inl hanswered
  · exact .inr ⟨worker, hworker, Progress.saved_update hsaved⟩

theorem Turned.advances (hdated : c.Dated config) (h : c.Turned)
    (hworker : c.workers[index]? = some worker) (hturn : c.TakesTurns move)
    (hmove : Advances config c index worker move c') : c'.Turned := by
  cases hmove with
  | @operated _ after engine later carries =>
    have hblank : after.progress.image = none := by
      cases hprogress : after.progress with
      | encoded update image =>
        have happlied := (carries update (by rw [hprogress]; rfl)).1
        rw [hprogress] at happlied
        cases happlied
      | _ => rfl
    refine h.of_set rfl hblank fun update hupdate => ?_
    rcases saved_of_set c hupdate rfl rfl with hupdate | hupdate
    · exact hupdate
    · rw [(carries update (Progress.saved_update hupdate)).1] at hupdate
      cases hupdate
  | @idle _ after carries =>
    refine h.of_set rfl (Progress.image_of_update carries) fun update hupdate => ?_
    rcases saved_of_set c hupdate rfl rfl with hupdate | hupdate
    · exact hupdate
    · rw [Progress.saved_update hupdate] at carries
      cases carries
  | @encoded update now carried =>
    have honly : ∀ (i : Nat) (other : Worker), (c.workers.set index { worker with
        progress := .encoded update { version := c.version, source := c.engine, now } })[i]? =
          some other → other.progress.image ≠ none → i = index := by
      intro i other hother hcarries
      rw [List.getElem?_set] at hother
      split at hother
      · rename_i hsame
        exact hsame.symm
      · exact absurd (hturn other (List.mem_of_getElem? hother)) hcarries
    refine ⟨fun i j one other hone hother hcarries hcarried => ?_,
      fun other hother image himage written hwritten => ?_⟩
    · rw [honly i one hone hcarries, honly j other hother hcarried]
    · rcases mem_set hother with hother | rfl
      · rw [hturn other hother] at himage
        cases himage
      · cases himage
        rcases saved_of_set c hwritten rfl rfl with hwritten | hwritten
        · exact (hdated.updates written (tracks_of_saved hwritten)).1
        · cases hwritten
  | @replaced update image carried =>
    -- The only image that was on its way is in the store now.
    have hcarried : worker.progress.image ≠ none := by
      rw [carried]
      exact Option.some_ne_none image
    have hnone : ∀ (i : Nat) (other : Worker), (c.workers.set index { worker with
        progress := .written update })[i]? = some other → other.progress.image = none := by
      intro i other hother
      by_contra hcarries
      obtain ⟨hne, hold⟩ := @carrier_of_set c { c with workers := _ } _ _ rfl rfl _ _ hother hcarries
      exact hne (h.one i index other worker hold hworker hcarries hcarried)
    refine ⟨fun i j one other hone hother hcarries => absurd (hnone i one hone) hcarries,
      fun other hother later himage => ?_⟩
    obtain ⟨i, hi⟩ := List.getElem?_of_mem hother
    rw [hnone i other hi] at himage
    cases himage
  | @answered update after carried carries =>
    refine h.of_set rfl (Progress.image_of_update carries) fun other hother => ?_
    rcases mem_saved.1 hother with hanswered | ⟨saver, hsaver, hsaves⟩
    · rcases List.mem_append.1 hanswered with hanswered | hanswered
      · exact mem_saved.2 (.inl hanswered)
      · rw [List.mem_singleton.1 hanswered]
        exact mem_saved.2 (.inr ⟨worker, List.mem_of_getElem? hworker, by rw [carried]; rfl⟩)
    · rcases mem_set hsaver with hsaver | rfl
      · exact mem_saved.2 (.inr ⟨saver, hsaver, hsaves⟩)
      · rw [Progress.saved_update hsaves] at carries
        cases carries

theorem Turned.accept (h : c.Turned) (hready : worker.progress = .ready) :
    Turned { c with workers := c.workers ++ [worker] } := by
  refine h.of_carriers (fun i other hother hcarries => ?_) fun update hupdate => ?_
  · rcases Slots.snoc_cases hother with ⟨-, rfl⟩ | ⟨-, hold⟩
    · rw [hready] at hcarries
      exact absurd rfl hcarries
    · exact hold
  · rcases mem_saved.1 hupdate with hanswered | ⟨saver, hsaver, hsaves⟩
    · exact mem_saved.2 (.inl hanswered)
    · rcases List.mem_append.1 hsaver with hsaver | hsaver
      · exact mem_saved.2 (.inr ⟨saver, hsaver, hsaves⟩)
      · rw [List.mem_singleton.1 hsaver, hready] at hsaves
        cases hsaves

/-- Images that take turns are written in order. -/
theorem Turned.inOrder (h : c.Turned) (move : Move) : c.InOrder move := by
  cases move with
  | replace index =>
    intro image himage update hupdate
    obtain ⟨worker, hworker, hcarries⟩ := Option.bind_eq_some_iff.1 himage
    exact h.newest worker (List.mem_of_getElem? hworker) image hcarries update hupdate
  | _ => trivial

/-- A session with an image on its way waits for the files. -/
theorem step_carrier {update : Update} {image : Image} {i : Nat}
    (hstep : c.step config move = some (c', reply)) (hreplace : ∀ j, move ≠ .replace j)
    (hrefuse : ∀ j refusal, move ≠ .refuse j refusal) (hworker : c.workers[i]? = some worker)
    (hcarries : worker.progress = .encoded update image) : c'.workers[i]? = some worker := by
  have hothers : ∀ {j : Nat} {mover : Worker}, c.workers[j]? = some mover → j ≠ i →
      Advances config c j mover move c' → c'.workers[i]? = some worker := by
    intro j mover _ hne hmove
    obtain ⟨after, hafter⟩ : ∃ after, c'.workers = c.workers.set j after := by
      cases hmove <;> exact ⟨_, rfl⟩
    rw [hafter, List.getElem?_set_ne hne]
    exact hworker
  cases move with
  | accept session =>
    cases hstep
    exact (List.getElem?_append_left (List.getElem?_eq_some_iff.1 hworker).1).trans hworker
  | replace j => exact absurd rfl (hreplace j)
  | refuse j refusal => exact absurd rfl (hrefuse j refusal)
  | frame j frame reading =>
    obtain ⟨mover, hmover, hadvance⟩ := Option.bind_eq_some_iff.1 hstep
    unfold advance at hadvance
    dsimp only at hadvance
    split at hadvance
    · rename_i hready
      refine hothers hmover ?_ (serve_advances hadvance)
      rintro rfl
      rw [hworker] at hmover
      cases hmover
      rw [hcarries] at hready
      cases hready
    · cases hadvance
  | lost j =>
    obtain ⟨mover, hmover, hadvance⟩ := Option.bind_eq_some_iff.1 hstep
    have hne : mover.progress = .ready ∨ mover.progress = .ending → j ≠ i := by
      rintro hstands rfl
      rw [hworker] at hmover
      cases hmover
      rw [hcarries] at hstands
      rcases hstands with h | h <;> cases h
    unfold advance at hadvance
    dsimp only at hadvance
    split at hadvance
    · rename_i hready
      cases hadvance
      exact hothers hmover (hne (.inl hready)) (lose_advances config c j mover)
    · rename_i hending
      cases hadvance
      exact hothers hmover (hne (.inr hending)) (lose_advances config c j mover)
    · cases hadvance
  | encode j now =>
    obtain ⟨mover, hmover, hadvance⟩ := Option.bind_eq_some_iff.1 hstep
    unfold advance at hadvance
    dsimp only at hadvance
    split at hadvance
    · rename_i applied happlied
      cases hadvance
      refine hothers hmover ?_ (.encoded happlied)
      rintro rfl
      rw [hworker] at hmover
      cases hmover
      rw [hcarries] at happlied
      cases happlied
    · cases hadvance
  | respond j =>
    obtain ⟨mover, hmover, hadvance⟩ := Option.bind_eq_some_iff.1 hstep
    unfold advance at hadvance
    dsimp only at hadvance
    split at hadvance
    · rename_i written hwritten
      have hne : j ≠ i := by
        rintro rfl
        rw [hworker] at hmover
        cases hmover
        rw [hcarries] at hwritten
        cases hwritten
      cases hadvance
      exact (List.getElem?_set_ne hne).trans hworker
    · cases hadvance

/-- Nothing but a replacement writes the store. -/
theorem step_store (hstep : c.step config move = some (c', reply)) (hreplace : ∀ j, move ≠ .replace j) :
    c'.store = c.store := by
  rcases step_advances hstep with ⟨worker, rfl, -⟩ | ⟨index, worker, -, hmove⟩
  · rfl
  · cases hmove with
    | replaced => exact absurd rfl (hreplace index)
    | operated | idle | encoded | answered => rfl

theorem step_replace {update : Update} {image : Image} (hworker : c.workers[index]? = some worker)
    (hcarries : worker.progress = .encoded update image)
    (hstep : c.step config (.replace index) = some (c', reply)) : c'.store = some image := by
  obtain ⟨mover, hmover, hadvance⟩ := Option.bind_eq_some_iff.1 hstep
  rw [hworker] at hmover
  cases hmover
  unfold advance at hadvance
  dsimp only at hadvance
  rw [hcarries] at hadvance
  cases hadvance
  rfl

/-! ### The sessions of a launch -/

/-- The sessions of a process that was launched with what it found at the path. -/
structure Sound (config : EngineConfig) (found : Option Text) (c : Service) : Prop where
  launched : ∃ nonce origin now start, Coordinator.start config nonce origin now found = some start ∧
    Run (step config) InOrder { engine := start.engine } c
  dated : c.Dated config
  upToDate : c.UpToDate
  turned : c.Turned

theorem Sound.launch {found : Option Text} {nonce origin : Text} {now : Ticks} {start : Coordinator}
    (h : Coordinator.start config nonce origin now found = some start) :
    Sound config found { engine := start.engine } where
  launched := ⟨nonce, origin, now, start, h, .refl _⟩
  dated := by
    refine ⟨fun update hupdate => ?_, fun image himage => ?_, fun worker hworker => (by cases hworker),
      fun update image hupdate => ?_⟩
    · rcases hupdate with hmem | ⟨_, hmem, -⟩ <;> cases hmem
    · rcases himage with hmem | ⟨_, hmem, -⟩ <;> cases hmem
    · rcases hupdate with hmem | ⟨_, hmem, -⟩ <;> cases hmem
  upToDate := fun update hupdate => by cases hupdate
  turned := ⟨fun _ _ _ _ h => by simp at h, fun _ h => by cases h⟩

theorem Sound.step {found : Option Text} (h : Sound config found c) (hturn : c.TakesTurns move)
    (hstep : c.step config move = some (c', reply)) : Sound config found c' where
  launched := by
    obtain ⟨nonce, origin, now, start, hstart, hrun⟩ := h.launched
    exact ⟨nonce, origin, now, start, hstart, .tail hrun (h.turned.inOrder move) hstep⟩
  dated := h.dated.step hstep
  upToDate := h.upToDate.step h.dated (h.turned.inOrder move) hstep
  turned := by
    rcases step_advances hstep with ⟨worker, rfl, hready⟩ | ⟨index, worker, hworker, hmove⟩
    · exact h.turned.accept hready
    · exact h.turned.advances h.dated hworker hturn hmove

theorem Sound.lossless {found : Option Text} (h : Sound config found c) : c.Lossless config := by
  intro update hupdate
  obtain ⟨image, hstore, hversion⟩ := h.upToDate update (mem_saved.2 (.inl hupdate))
  exact ⟨image, hstore, h.dated.contains update image (.inl hupdate) (.inl hstore) hversion⟩

end

end Service

/-! ## The process and its files -/

namespace Installation

/-- A session encodes its image while no other image is on its way to the store. -/
def TakesTurns (d : Installation) : Incident → Prop
  | .serve move => ∀ c, d.live = some c → c.TakesTurns move
  | _ => True

instance (d : Installation) (incident : Incident) : Decidable (d.TakesTurns incident) :=
  match incident with
  | .serve move => decidable_of_iff ((d.live.all fun c => c.TakesTurns move) = true) (by
      simp [TakesTurns, Option.all_eq_true])
  | .launch .. | .save .. | .file _ | .crash => .isTrue trivial

/-- The path holds all of the image its sessions wrote last, or what the process found there when they
have written none; it holds nothing only when a rename was refused. -/
def Holds (d : Installation) (c : Service) : Prop :=
  d.file.disk.content = (c.store.map Image.bytes).or d.found ∨
    d.file.disk.content = none ∧ d.file.refused = true

/-- What there is of a process and its sessions, also when it has ended. -/
structure Kept (config : EngineConfig) (d : Installation) (c : Service) : Prop where
  /-- Its sessions ran as if each save were one step. -/
  launched : ∃ nonce origin now start, Coordinator.start config nonce origin now d.found = some start ∧
    Run (Service.step config) Service.InOrder { engine := start.engine } c
  holds : d.Holds c
  /-- The image has everything behind it that was answered. -/
  answered : c.Lossless config

/-- A session whose save is under way. -/
structure Saves (d : Installation) (index : Nat) (saver : Saver) (c : Service) (worker : Worker)
    (update : Update) (image : Image) : Prop where
  savers : d.savers = [index]
  file : d.file.savers = [saver]
  live : d.live = some c
  stands : c.workers[index]? = some worker
  carries : worker.progress = .encoded update image
  bytes : saver.bytes = image.bytes

/-- One save at most is under way. -/
def Saving (d : Installation) : Prop :=
  d.savers = [] ∧ d.file.savers = [] ∨
    ∃ index saver c worker update image, d.Saves index saver c worker update image

structure Inv (config : EngineConfig) (d : Installation) : Prop where
  file : d.file.Inv
  saving : d.Saving
  sound : ∀ c, d.service = some c → c.Sound config d.found ∧ d.Holds c

section
variable {maxStoreBytes : Nat} {config : EngineConfig} {d d' : Installation} {c : Service}
  {reply : Reply}

theorem start_inv : Inv config {} where
  file := StoreFile.start_inv
  saving := .inl ⟨rfl, rfl⟩
  sound := fun _ h => by cases h

theorem live_service (h : d.live = some c) : d.running = true ∧ d.service = some c := by
  unfold live at h
  split at h
  · exact ⟨‹_›, h⟩
  · cases h

theorem move_some {move : Move} (h : d.move config move = some (d', reply)) :
    ∃ c c' answer, d.live = some c ∧ c.step config move = some (c', answer) ∧
      d' = { d with service := some c' } := by
  obtain ⟨c, hlive, hmoved⟩ := Option.bind_eq_some_iff.1 h
  obtain ⟨⟨c', answer⟩, hstep, hd⟩ := Option.map_eq_some_iff.1 hmoved
  cases hd
  exact ⟨c, c', answer, hlive, hstep, rfl⟩

theorem live_move (c' : Service) (hlive : d.live = some c) :
    live { d with service := some c' } = some c' := by
  unfold live
  exact if_pos (live_service hlive).1

/-- A session moves. -/
theorem Inv.of_move {move : Move} (h : d.move config move = some (d', reply)) (hfile : d.file.Inv)
    (hsound : ∀ c, d.live = some c → c.Sound config d.found ∧ c.TakesTurns move)
    (hmoved : ∀ c c' answer, d.live = some c → c.step config move = some (c', answer) →
      Saving { d with service := some c' } ∧ d.Holds c') : Inv config d' := by
  obtain ⟨c, c', answer, hlive, hstep, rfl⟩ := move_some h
  obtain ⟨hc, hturn⟩ := hsound c hlive
  obtain ⟨hsaving, hholds⟩ := hmoved c c' answer hlive hstep
  refine ⟨hfile, hsaving, fun other hother => ?_⟩
  cases hother
  exact ⟨hc.step hturn hstep, hholds⟩

/-- A save is refused. -/
theorem Inv.of_refuse {index : Nat} {refusal : Outcome × Text}
    (h : d.move config (.refuse index refusal) = some (d', reply)) (hfile : d.file.Inv)
    (hnone : d.savers = [] ∧ d.file.savers = [])
    (hsound : ∀ c, d.service = some c → c.Sound config d.found ∧ d.Holds c) : Inv config d' := by
  refine Inv.of_move h hfile (fun c hlive => ⟨(hsound c (live_service hlive).2).1, trivial⟩)
    fun c c' answer hlive hstep => ⟨.inl hnone, ?_⟩
  have hholds := (hsound c (live_service hlive).2).2
  unfold Holds at hholds ⊢
  rw [Service.step_store hstep fun _ h => by cases h]
  exact hholds

/-- A save starts only when none is under way. -/
theorem Inv.startSave {index : Nat} {worker : Worker} {update : Update} {image : Image} {granted : Bool}
    (h : Inv config d) (hlive : d.live = some c) (hworker : c.workers[index]? = some worker)
    (hcarries : worker.progress = .encoded update image)
    (hstarts : d.startSave maxStoreBytes config index image granted = some (d', reply)) :
    Inv config d' := by
  unfold Installation.startSave at hstarts
  split at hstarts
  · cases hstarts
  · rename_i hidle
    have himage : worker.progress.image ≠ none := by
      rw [hcarries]
      exact Option.some_ne_none image
    have hnone : d.savers = [] ∧ d.file.savers = [] := by
      rcases h.saving with hnone | ⟨other, saver, c', mover, begun, earlier, hsaves⟩
      · exact hnone
      · have hsame := hsaves.live
        rw [hlive] at hsame
        cases hsame
        have hmover : mover.progress.image ≠ none := by
          rw [hsaves.carries]
          exact Option.some_ne_none earlier
        obtain rfl := (h.sound c (live_service hlive).2).1.turned.one other index mover worker
          hsaves.stands hworker hmover himage
        rw [hsaves.savers] at hidle
        exact absurd List.mem_cons_self hidle
    split at hstarts
    · exact Inv.of_refuse hstarts h.file hnone h.sound
    · obtain ⟨⟨file, result⟩, hopened, hstarts⟩ := Option.bind_eq_some_iff.1 hstarts
      have hfile : file.Inv := 
        h.file.step (show d.file.Alone (.begin image.bytes granted) from hnone.2) hopened
      rcases h.file.begins hopened with ⟨detail, rfl, rfl⟩ | ⟨rfl, ⟨stage, hsavers⟩, hcontent, hrefused⟩
      · exact Inv.of_refuse hstarts hfile hnone h.sound
      · cases hstarts
        rw [hnone.2] at hsavers
        refine ⟨hfile, .inr ⟨index, _, c, worker, update, image, congrArg (· ++ [index]) hnone.1,
          hsavers, hlive, hworker, hcarries, rfl⟩, fun other hother => ?_⟩
        obtain ⟨hsound, hholds⟩ := h.sound other hother
        refine ⟨hsound, ?_⟩
        unfold Holds at hholds ⊢
        rw [hcontent, hrefused]
        exact hholds

/-- The save under way goes on. -/
theorem Inv.goOn {event : FileEvent} {place index : Nat} (h : Inv config d)
    (hplace : event.place = some place) (hindex : d.savers[place]? = some index)
    (hstep : d.goOn config place index event = some (d', reply)) : Inv config d' := by
  obtain ⟨⟨file, result⟩, hwritten, hstep⟩ := Option.bind_eq_some_iff.1 hstep
  obtain ⟨rfl, saver, honly, hturn⟩ := h.file.turn hplace hwritten
  have halone : d.file.Alone event := by
    cases event with
    | begin | crash => cases hplace
    | write | fail | flush | rename | remove => trivial
  have hfile : file.Inv := h.file.step halone hwritten
  rcases h.saving with ⟨-, hnone⟩ | ⟨saving, other, c, worker, update, image, hsaves⟩
  · rw [hnone] at honly
    cases honly
  · have hsavers := hsaves.savers
    have hsame := hsaves.file
    rw [honly] at hsame
    cases hsame
    rw [hsavers] at hindex
    cases hindex
    have hgone : d.savers.eraseIdx 0 = [] := by
      rw [hsavers]
      rfl
    cases hturn with
    | goesOn savers content =>
      cases hstep
      refine ⟨hfile, .inr ⟨index, _, c, worker, update, image, hsavers, savers, hsaves.live, hsaves.stands,
        hsaves.carries, hsaves.bytes⟩, fun other hother => ?_⟩
      obtain ⟨hsound, hholds⟩ := h.sound other hother
      refine ⟨hsound, ?_⟩
      unfold Holds at hholds ⊢
      rcases content with ⟨hcontent, hrefused⟩ | hlost
      · rw [hcontent]
        exact hholds.imp_right fun hlost => ⟨hlost.1, hrefused hlost.2⟩
      · exact .inr hlost
    | replaces savers content =>
      refine Inv.of_move hstep hfile (fun c hlive => ⟨(h.sound c (live_service hlive).2).1, trivial⟩)
        fun c' after answer hlive hreplaced => ⟨.inl ⟨hgone, savers⟩, .inl ?_⟩
      have hsame : some c' = some c := hlive.symm.trans hsaves.live
      cases hsame
      rw [Service.step_replace hsaves.stands hsaves.carries hreplaced, content, hsaves.bytes]
      rfl
    | fails detail savers content refused =>
      refine Inv.of_refuse hstep hfile ⟨hgone, savers⟩ fun other hother => ?_
      obtain ⟨hsound, hholds⟩ := h.sound other hother
      refine ⟨hsound, ?_⟩
      unfold Holds at hholds ⊢
      rw [content, refused]
      exact hholds

theorem Inv.step {incident : Incident} (h : Inv config d) (hturn : d.TakesTurns incident)
    (hstep : d.step maxStoreBytes config incident = some (d', reply)) : Inv config d' := by
  cases incident with
  | launch nonce origin now =>
    unfold Installation.step at hstep
    dsimp only at hstep
    split at hstep
    · cases hstep
    · rename_i hstopped
      obtain ⟨start, hstart, hd⟩ := Option.map_eq_some_iff.1 hstep
      cases hd
      have hnone : d.savers = [] ∧ d.file.savers = [] := by
        rcases h.saving with hnone | ⟨_, _, _, _, _, _, hsaves⟩
        · exact hnone
        · exact absurd (live_service hsaves.live).1 hstopped
      refine ⟨h.file, .inl hnone, fun c hc => ?_⟩
      cases hc
      exact ⟨.launch hstart, .inl rfl⟩
  | serve move =>
    have hmoved : d.move config move = some (d', reply) ∧ (∀ j, move ≠ .replace j) ∧
        ∀ j refusal, move ≠ .refuse j refusal := by
      unfold Installation.step at hstep
      dsimp only at hstep
      split at hstep
      · cases hstep
      · cases hstep
      · rename_i hreplace hrefuse
        exact ⟨hstep, hreplace, hrefuse⟩
    obtain ⟨hmove, hreplace, hrefuse⟩ := hmoved
    refine Inv.of_move hmove h.file
      (fun c hlive => ⟨(h.sound c (live_service hlive).2).1, hturn c hlive⟩)
      fun c c' answer hlive hserved => ⟨?_, ?_⟩
    · rcases h.saving with hnone | ⟨index, saver, other, worker, update, image, hsaves⟩
      · exact .inl hnone
      · have hsame := hsaves.live
        rw [hlive] at hsame
        cases hsame
        exact .inr ⟨index, saver, c', worker, update, image, hsaves.savers, hsaves.file,
          live_move c' hlive, Service.step_carrier hserved hreplace hrefuse hsaves.stands hsaves.carries,
          hsaves.carries, hsaves.bytes⟩
    · have hholds := (h.sound c (live_service hlive).2).2
      unfold Holds at hholds ⊢
      rw [Service.step_store hserved hreplace]
      exact hholds
  | save index granted =>
    obtain ⟨worker, hworker, hstarts⟩ := Option.bind_eq_some_iff.1 hstep
    obtain ⟨c, hlive, hworker⟩ := Option.bind_eq_some_iff.1 hworker
    split at hstarts
    · rename_i update image hcarries
      exact h.startSave hlive hworker hcarries hstarts
    · cases hstarts
  | file event =>
    obtain ⟨place, hplace, hstep⟩ := Option.bind_eq_some_iff.1 hstep
    obtain ⟨index, hindex, hstep⟩ := Option.bind_eq_some_iff.1 hstep
    exact h.goOn hplace hindex hstep
  | crash =>
    unfold Installation.step at hstep
    dsimp only at hstep
    split at hstep
    · cases hstep
      exact ⟨h.file.step (show d.file.Alone .crash from trivial) rfl, .inl ⟨rfl, rfl⟩, h.sound⟩
    · cases hstep

end

/-- However often the process ends and wherever it does, the path holds all of what the sessions wrote
last, and they wrote what they answered, as long as their images take turns. -/
theorem answers_outlive_process {maxStoreBytes : Nat} {config : EngineConfig} {d : Installation}
    {c : Service} (hrun : Run (step maxStoreBytes config) TakesTurns {} d)
    (hservice : d.service = some c) : d.Kept config c := by
  have hinv : Inv config d :=
    hrun.inv (fun _ _ _ _ hturn h hstep => h.step hturn hstep) start_inv
  obtain ⟨hsound, hholds⟩ := hinv.sound c hservice
  exact ⟨hsound.launched, hholds, hsound.lossless⟩

end Installation

namespace Scenario

/-- A registration is saved and answered, and the process ends in the save of the policy that is created
next. -/
def interrupted : List Incident :=
  [.launch "n" [] 1, .serve (.accept session), .serve (asks 0 (registers publisher boot)),
    .serve (.encode 0 2), .save 0 true, .file (.write 0 1000), .file (.flush 0),
    .file (.rename 0 true true), .serve (.respond 0),
    .serve (asks 0 (.createPolicy (some
      { name := (create 1).name, scope := (create 1).scope, semantics }))),
    .serve (.encode 0 3), .save 0 true, .file (.write 0 7), .crash]

end Scenario

open Scenario in
/-- What the path holds then has the registration behind it. -/
theorem interrupted_keeps : ∃ (d : Installation) (c : Service), d.running = false ∧
    d.service = some c ∧ c.answered.length = 1 ∧ d.file.disk.content.isSome = true ∧
    d.Kept config c := by
  obtain ⟨d, hd, hends⟩ := exists_run_of_runAll
    (show ((runAll (Installation.step 100000 config) {} interrupted).any fun d => !d.running &&
      d.service.any (fun c => c.answered.length == 1) && d.file.disk.content.isSome) = true by
      decide +kernel)
  simp only [Bool.and_eq_true, Bool.not_eq_true', Option.any_eq_true, beq_iff_eq] at hends
  obtain ⟨⟨hrunning, c, hservice, hanswered⟩, hcontent⟩ := hends
  exact ⟨d, c, hrunning, hservice, hanswered, hcontent,
    Installation.answers_outlive_process (runAll_where hd (by decide +kernel)) hservice⟩

end AdaptiveRouting
