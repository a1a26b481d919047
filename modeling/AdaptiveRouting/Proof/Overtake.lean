import AdaptiveRouting.Proof.Acknowledge
import AdaptiveRouting.Proof.Fencing

/-!
# Saves that run side by side

A session mutates the engine, encodes its state and replaces the store in three steps, and only the
first two hold the engine's lock. An image can therefore be written over a newer one. As long as no
session writes an image that it encoded before the operation of an update already written (`InOrder`),
what was answered stays in the store (`answered_updates_survive`).
-/

namespace AdaptiveRouting

open Engine

/-! ## Later engines -/

/-- The second engine is the first after further operations. -/
def Later (config : EngineConfig) : Engine → Engine → Prop :=
  RunUnder config fun _ op => op.recovers config.limits = none

section
variable {config : EngineConfig} {e e' : Engine}

theorem Later.epoch_le (h : Later config e e') : e.state.epoch ≤ e'.state.epoch :=
  (Runs.Run.rel h (R := fun e e' : Engine => e.state.Grows e'.state) (fun _ => .of_standing rfl)
    State.Grows.trans fun _ _ _ _ hop hstep => step_grows hstep hop).epoch

theorem dispatch_later {session : Session} {frame : Frame} {reading : Reading} {served : Served}
    (h : dispatch config e session frame reading = some served) : Later config e served.engine := by
  cases dispatch_performs h with
  | idle same => rw [same]; exact .refl e
  | operated asks steps => exact .single (Frame.operation_recovers asks) steps

theorem fence_later (config : EngineConfig) (e : Engine) (publisher : PublisherId)
    (boot : WorkerBootId) (cause : Text) :
    Later config e { e with state := (e.state.fencePublisher publisher boot cause).1 } :=
  .single (i := .fencePublisher publisher boot cause) rfl rfl

end

/-- The operation a thread is saving. -/
def Progress.update : Progress → Option Update
  | .applied update | .encoded update _ | .written update => some update
  | _ => none

/-- The image a thread is about to write. -/
def Progress.image : Progress → Option Image
  | .encoded _ image => some image
  | _ => none

/-- The operation whose image the thread has written. -/
def Progress.saved : Progress → Option Update
  | .written update => some update
  | _ => none

theorem Progress.saved_update {progress : Progress} {update : Update}
    (h : progress.saved = some update) : progress.update = some update := by
  cases progress <;> simp_all [Progress.update, Progress.saved]

theorem Progress.image_of_update {progress : Progress} (h : progress.update = none) :
    progress.image = none := by
  cases progress <;> simp_all [Progress.update, Progress.image]

theorem Update.next_update (update : Update) : update.next.update = none := by
  unfold Update.next
  split <;> rfl

namespace Service

/-! ## What one move does -/

inductive Advances (config : EngineConfig) (c : Service) (index : Nat) (worker : Worker) :
    Move → Service → Prop
  | operated {move : Move} {after : Worker} {engine : Engine} (later : Later config c.engine engine)
      (carries : ∀ update, after.progress.update = some update →
        after.progress = .applied update ∧ update.version = c.version + 1 ∧ update.after = engine) :
      Advances config c index worker move
        { c with engine, version := c.version + 1, workers := c.workers.set index after }
  | idle {move : Move} {after : Worker} (carries : after.progress.update = none) :
      Advances config c index worker move { c with workers := c.workers.set index after }
  | encoded {update : Update} {now : Ticks} (carried : worker.progress = .applied update) :
      Advances config c index worker (.encode index now)
        { c with workers := c.workers.set index { worker with
            progress := .encoded update { version := c.version, source := c.engine, now } } }
  | replaced {update : Update} {image : Image} (carried : worker.progress = .encoded update image) :
      Advances config c index worker (.replace index)
        { c with
          store := some image
          workers := c.workers.set index { worker with progress := .written update } }
  | answered {update : Update} {after : Worker} (carried : worker.progress = .written update)
      (carries : after.progress.update = none) :
      Advances config c index worker (.respond index)
        { c with answered := c.answered ++ [update], workers := c.workers.set index after }

section
variable {config : EngineConfig} {c c' : Service} {index : Nat} {worker : Worker} {reply : Reply}

theorem serve_advances {frame : Frame} {reading : Reading}
    (h : c.serve config index worker frame reading = some (c', reply)) :
    Advances config c index worker (.frame index frame reading) c' := by
  obtain ⟨served, hdispatch, hserved⟩ := Option.map_eq_some_iff.1 h
  have hlater := dispatch_later hdispatch
  dsimp only at hserved
  split at hserved
  · cases hserved
    exact .operated hlater (by simp [Progress.update])
  · cases hserved
    exact .operated hlater (by simp [Progress.update])
  · split at hserved
    · split at hserved
      · cases hserved
        exact .operated hlater (by simp [Progress.update])
      · cases hserved
        exact .operated hlater (by simp [Progress.update])
    · cases hserved
      exact .operated hlater (by simp [Progress.update])

theorem lose_advances (config : EngineConfig) (c : Service) (index : Nat) (worker : Worker) :
    Advances config c index worker (.lost index) (c.lose index worker) := by
  have hlater := fence_later config c.engine worker.session.publisher worker.session.workerBoot
    "SESSION_LOST"
  unfold lose
  dsimp only
  split
  · split
    · exact .operated hlater (by simp [Progress.update])
    · exact .operated hlater (by simp [Progress.update])
  · exact .idle rfl

theorem step_advances {move : Move} (h : c.step config move = some (c', reply)) :
    (∃ session, c' = { c with workers := c.workers ++ [session] } ∧ session.progress = .ready) ∨
      ∃ index worker, c.workers[index]? = some worker ∧ Advances config c index worker move c' := by
  cases move with
  | accept session =>
    cases h
    exact .inl ⟨_, rfl, rfl⟩
  | frame index frame reading =>
    obtain ⟨worker, hworker, hadvance⟩ := Option.bind_eq_some_iff.1 h
    refine .inr ⟨index, worker, hworker, ?_⟩
    unfold advance at hadvance
    dsimp only at hadvance
    split at hadvance
    · exact serve_advances hadvance
    · cases hadvance
  | lost index =>
    obtain ⟨worker, hworker, hadvance⟩ := Option.bind_eq_some_iff.1 h
    refine .inr ⟨index, worker, hworker, ?_⟩
    unfold advance at hadvance
    dsimp only at hadvance
    split at hadvance
    · cases hadvance
      exact lose_advances config c index worker
    · cases hadvance
      exact lose_advances config c index worker
    · cases hadvance
  | encode index now =>
    obtain ⟨worker, hworker, hadvance⟩ := Option.bind_eq_some_iff.1 h
    refine .inr ⟨index, worker, hworker, ?_⟩
    unfold advance at hadvance
    dsimp only at hadvance
    split at hadvance
    · rename_i update hcarried
      cases hadvance
      exact .encoded hcarried
    · cases hadvance
  | replace index =>
    obtain ⟨worker, hworker, hadvance⟩ := Option.bind_eq_some_iff.1 h
    refine .inr ⟨index, worker, hworker, ?_⟩
    unfold advance at hadvance
    dsimp only at hadvance
    split at hadvance
    · rename_i update image hcarried
      cases hadvance
      exact .replaced hcarried
    · cases hadvance
  | refuse index refusal =>
    obtain ⟨worker, hworker, hadvance⟩ := Option.bind_eq_some_iff.1 h
    refine .inr ⟨index, worker, hworker, ?_⟩
    unfold advance at hadvance
    dsimp only at hadvance
    split at hadvance
    · rename_i update image hcarried
      cases hadvance
      exact .idle update.next_update
    · cases hadvance
  | respond index =>
    obtain ⟨worker, hworker, hadvance⟩ := Option.bind_eq_some_iff.1 h
    refine .inr ⟨index, worker, hworker, ?_⟩
    unfold advance at hadvance
    dsimp only at hadvance
    split at hadvance
    · rename_i update hcarried
      cases hadvance
      cases update.awaited with
      | true => exact .answered hcarried update.next_update
      | false => exact .idle update.next_update
    · cases hadvance

end

/-! ## Updates and images -/

/-- The service answered the operation, or a thread is saving it. -/
def Tracks (c : Service) (update : Update) : Prop :=
  update ∈ c.answered ∨ ∃ worker ∈ c.workers, worker.progress.update = some update

/-- The operations whose images their threads have written. -/
def saved (c : Service) : List Update :=
  c.answered ++ c.workers.filterMap fun worker => worker.progress.saved

/-- The image is in the store, or a thread is about to write it. -/
def Carries (c : Service) (image : Image) : Prop :=
  c.store = some image ∨ ∃ worker ∈ c.workers, worker.progress.image = some image

/-- No image is written that was encoded before the operation of an update already written. -/
def InOrder (c : Service) : Move → Prop
  | .replace index => ∀ image ∈ c.workers[index]?.bind fun worker => worker.progress.image,
    ∀ update ∈ c.saved, update.version ≤ image.version
  | _ => True

/-- Every update an image was encoded after is in that image. -/
structure Dated (config : EngineConfig) (c : Service) : Prop where
  updates : ∀ update, c.Tracks update →
    update.version ≤ c.version ∧ Later config update.after c.engine
  images : ∀ image, c.Carries image → image.version ≤ c.version
  own : ∀ worker ∈ c.workers, ∀ update image, worker.progress = .encoded update image →
    update.version ≤ image.version
  contains : ∀ update image, c.Tracks update → c.Carries image → update.version ≤ image.version →
    Later config update.after image.source

/-- The store is newer than every update that was written. -/
def UpToDate (c : Service) : Prop :=
  ∀ update ∈ c.saved, ∃ image, c.store = some image ∧ update.version ≤ image.version

/-- The store is an image of an engine that has every answered operation behind it. -/
def Lossless (config : EngineConfig) (c : Service) : Prop :=
  ∀ update ∈ c.answered, ∃ image, c.store = some image ∧ Later config update.after image.source

section
variable {config : EngineConfig} {c c' : Service} {index : Nat} {worker after : Worker}
  {update : Update} {image : Image}

theorem mem_set {workers : List Worker} {other : Worker} (h : other ∈ workers.set index after) :
    other ∈ workers ∨ other = after :=
  List.mem_or_eq_of_mem_set h

/-- A thread that moves on: what is tracked was tracked, or the thread saves it now. -/
theorem Tracks.of_set (c : Service) (h : c'.Tracks update) (hanswered : c'.answered = c.answered)
    (hworkers : c'.workers = c.workers.set index after) :
    c.Tracks update ∨ after.progress.update = some update := by
  rcases h with hmem | ⟨other, hother, hsaves⟩
  · rw [hanswered] at hmem
    exact .inl (.inl hmem)
  · rw [hworkers] at hother
    rcases mem_set hother with hother | hother
    · exact .inl (.inr ⟨other, hother, hsaves⟩)
    · subst hother
      exact .inr hsaves

theorem Carries.of_set (c : Service) (h : c'.Carries image) (hstore : c'.store = c.store)
    (hworkers : c'.workers = c.workers.set index after) :
    c.Carries image ∨ after.progress.image = some image := by
  rcases h with hmem | ⟨other, hother, hcarries⟩
  · rw [hstore] at hmem
    exact .inl (.inl hmem)
  · rw [hworkers] at hother
    rcases mem_set hother with hother | hother
    · exact .inl (.inr ⟨other, hother, hcarries⟩)
    · subst hother
      exact .inr hcarries

/-- Nothing new is tracked or carried, and the engine stays. -/
theorem Dated.of_old (h : c.Dated config) (hversion : c'.version = c.version)
    (hengine : c'.engine = c.engine) (htracks : ∀ update, c'.Tracks update → c.Tracks update)
    (hcarries : ∀ image, c'.Carries image → c.Carries image)
    (hown : ∀ worker ∈ c'.workers, ∀ update image, worker.progress = .encoded update image →
      worker ∈ c.workers) : c'.Dated config where
  updates update hupdate := by
    rw [hversion, hengine]
    exact h.updates update (htracks update hupdate)
  images image himage := by
    rw [hversion]
    exact h.images image (hcarries image himage)
  own worker hworker update image hencoded :=
    h.own worker (hown worker hworker update image hencoded) update image hencoded
  contains update image hupdate himage :=
    h.contains update image (htracks update hupdate) (hcarries image himage)

theorem Dated.advances {move : Move} (h : c.Dated config) (hworker : c.workers[index]? = some worker)
    (hmove : Advances config c index worker move c') : c'.Dated config := by
  have hmem : worker ∈ c.workers := List.mem_of_getElem? hworker
  cases hmove with
  | @operated _ after engine later carries =>
    have hblank : after.progress.image = none := by
      cases hprogress : after.progress with
      | encoded update image =>
        have happlied := (carries update (by rw [hprogress]; rfl)).1
        rw [hprogress] at happlied
        cases happlied
      | _ => rfl
    have himages : ∀ image, Carries { c with
        engine, version := c.version + 1, workers := c.workers.set index after } image →
        c.Carries image := by
      intro image himage
      rcases himage.of_set c rfl rfl with himage | himage
      · exact himage
      · rw [hblank] at himage
        cases himage
    refine ⟨fun update hupdate => ?_, fun image himage => ?_, fun other hother update image hsaves => ?_,
      fun update image hupdate himage hle => ?_⟩
    · rcases hupdate.of_set c rfl rfl with hupdate | hupdate
      · obtain ⟨hversion, hlater⟩ := h.updates update hupdate
        exact ⟨Nat.le_succ_of_le hversion, hlater.trans later⟩
      · obtain ⟨-, hversion, hafter⟩ := carries update hupdate
        exact ⟨Nat.le_of_eq hversion, by rw [hafter]; exact .refl _⟩
    · exact Nat.le_succ_of_le (h.images image (himages image himage))
    · rcases mem_set hother with hother | hother
      · exact h.own other hother update image hsaves
      · subst hother
        rw [hsaves] at hblank
        cases hblank
    · rcases hupdate.of_set c rfl rfl with hupdate | hupdate
      · exact h.contains update image hupdate (himages image himage) hle
      · obtain ⟨-, hversion, -⟩ := carries update hupdate
        have hold := h.images image (himages image himage)
        omega
  | @idle _ after carries =>
    refine h.of_old rfl rfl (fun update hupdate => ?_) (fun image himage => ?_)
      fun other hother update image hsaves => ?_
    · rcases hupdate.of_set c rfl rfl with hupdate | hupdate
      · exact hupdate
      · rw [carries] at hupdate
        cases hupdate
    · rcases himage.of_set c rfl rfl with himage | himage
      · exact himage
      · rw [Progress.image_of_update carries] at himage
        cases himage
    · rcases mem_set hother with hother | hother
      · exact hother
      · subst hother
        rw [hsaves] at carries
        cases carries
  | @encoded update now carried =>
    have hupdate : c.Tracks update := .inr ⟨worker, hmem, by rw [carried]; rfl⟩
    have htracks : ∀ other, Tracks { c with workers := c.workers.set index { worker with
        progress := .encoded update { version := c.version, source := c.engine, now } } } other →
        c.Tracks other := by
      intro other hother
      rcases hother.of_set c rfl rfl with hother | hother
      · exact hother
      · cases hother
        exact hupdate
    refine ⟨fun other hother => h.updates other (htracks other hother), fun image himage => ?_,
      fun other hother saved image hsaves => ?_, fun other image hother himage hle => ?_⟩
    · rcases himage.of_set c rfl rfl with himage | himage
      · exact h.images image himage
      · cases himage
        exact Nat.le_refl _
    · rcases mem_set hother with hother | hother
      · exact h.own other hother saved image hsaves
      · subst hother
        cases hsaves
        exact (h.updates update hupdate).1
    · rcases himage.of_set c rfl rfl with himage | himage
      · exact h.contains other image (htracks other hother) himage hle
      · cases himage
        exact (h.updates other (htracks other hother)).2
  | @replaced update image carried =>
    have hupdate : c.Tracks update := .inr ⟨worker, hmem, by rw [carried]; rfl⟩
    have himage : c.Carries image := .inr ⟨worker, hmem, by rw [carried]; rfl⟩
    refine h.of_old rfl rfl (fun other hother => ?_) (fun other hother => ?_)
      fun other hother saved found hsaves => ?_
    · rcases hother.of_set c rfl rfl with hother | hother
      · exact hother
      · cases hother
        exact hupdate
    · rcases hother with hstored | ⟨carrier, hcarrier, hcarries⟩
      · cases hstored
        exact himage
      · rcases mem_set hcarrier with hcarrier | hcarrier
        · exact .inr ⟨carrier, hcarrier, hcarries⟩
        · subst hcarrier
          cases hcarries
    · rcases mem_set hother with hother | hother
      · exact hother
      · subst hother
        cases hsaves
  | @answered update after carried carries =>
    have hupdate : c.Tracks update := .inr ⟨worker, hmem, by rw [carried]; rfl⟩
    refine h.of_old rfl rfl (fun other hother => ?_) (fun image himage => ?_)
      fun other hother saved found hsaves => ?_
    · rcases hother with hanswered | ⟨saver, hsaver, hsaves⟩
      · rcases List.mem_append.1 hanswered with hanswered | hanswered
        · exact .inl hanswered
        · rw [List.mem_singleton.1 hanswered]
          exact hupdate
      · rcases mem_set hsaver with hsaver | hsaver
        · exact .inr ⟨saver, hsaver, hsaves⟩
        · subst hsaver
          rw [carries] at hsaves
          cases hsaves
    · rcases himage.of_set c rfl rfl with himage | himage
      · exact himage
      · rw [Progress.image_of_update carries] at himage
        cases himage
    · rcases mem_set hother with hother | hother
      · exact hother
      · subst hother
        rw [hsaves] at carries
        cases carries

theorem mem_saved : update ∈ c.saved ↔
    update ∈ c.answered ∨ ∃ worker ∈ c.workers, worker.progress.saved = some update := by
  unfold saved
  rw [List.mem_append, List.mem_filterMap]

/-- A thread that moves on: what is written was written, or the thread has just written it. -/
theorem saved_of_set (c : Service) (h : update ∈ c'.saved) (hanswered : c'.answered = c.answered)
    (hworkers : c'.workers = c.workers.set index after) :
    update ∈ c.saved ∨ after.progress.saved = some update := by
  rw [mem_saved, hanswered, hworkers] at h
  rcases h with hmem | ⟨other, hother, hsaves⟩
  · exact .inl (mem_saved.2 (.inl hmem))
  · rcases mem_set hother with hother | hother
    · exact .inl (mem_saved.2 (.inr ⟨other, hother, hsaves⟩))
    · subst hother
      exact .inr hsaves

theorem UpToDate.advances {move : Move} (hdated : c.Dated config) (h : c.UpToDate)
    (hworker : c.workers[index]? = some worker) (horder : c.InOrder move)
    (hmove : Advances config c index worker move c') : c'.UpToDate := by
  have hmem : worker ∈ c.workers := List.mem_of_getElem? hworker
  cases hmove with
  | @operated _ after engine later carries =>
    intro update hupdate
    rcases saved_of_set c hupdate rfl rfl with hupdate | hupdate
    · exact h update hupdate
    · rw [(carries update (Progress.saved_update hupdate)).1] at hupdate
      cases hupdate
  | @idle _ after carries =>
    intro update hupdate
    rcases saved_of_set c hupdate rfl rfl with hupdate | hupdate
    · exact h update hupdate
    · rw [Progress.saved_update hupdate] at carries
      cases carries
  | @encoded update now carried =>
    intro other hother
    rcases saved_of_set c hother rfl rfl with hother | hother
    · exact h other hother
    · cases hother
  | @replaced update image carried =>
    have himage : image ∈ c.workers[index]?.bind fun worker => worker.progress.image := by
      rw [hworker, Option.bind_some, carried]
      exact rfl
    intro other hother
    refine ⟨image, rfl, ?_⟩
    rcases saved_of_set c hother rfl rfl with hother | hother
    · exact horder image himage other hother
    · cases hother
      exact hdated.own worker hmem update image carried
  | @answered update after carried carries =>
    intro other hother
    rcases mem_saved.1 hother with hanswered | ⟨saver, hsaver, hsaves⟩
    · rcases List.mem_append.1 hanswered with hanswered | hanswered
      · exact h other (mem_saved.2 (.inl hanswered))
      · rw [List.mem_singleton.1 hanswered]
        exact h update (mem_saved.2 (.inr ⟨worker, hmem, by rw [carried]; rfl⟩))
    · rcases mem_set hsaver with hsaver | hsaver
      · exact h other (mem_saved.2 (.inr ⟨saver, hsaver, hsaves⟩))
      · subst hsaver
        rw [Progress.saved_update hsaves] at carries
        cases carries

end

/-! ## Runs -/

section
variable {config : EngineConfig} {c c' : Service} {move : Move} {reply : Reply}

theorem Dated.accept {worker : Worker} (h : c.Dated config) (hready : worker.progress = .ready) :
    Dated config { c with workers := c.workers ++ [worker] } := by
  have hold : ∀ {other : Worker}, other ∈ c.workers ++ [worker] →
      other ∈ c.workers ∨ other.progress = .ready := by
    intro other hother
    rcases List.mem_append.1 hother with hother | hother
    · exact .inl hother
    · rw [List.mem_singleton.1 hother]
      exact .inr hready
  refine h.of_old rfl rfl (fun update hupdate => ?_) (fun image himage => ?_)
    fun other hother update image hsaves => ?_
  · rcases hupdate with hmem | ⟨other, hother, hsaves⟩
    · exact .inl hmem
    · rcases hold hother with hother | hother
      · exact .inr ⟨other, hother, hsaves⟩
      · rw [hother] at hsaves
        cases hsaves
  · rcases himage with hmem | ⟨other, hother, hcarries⟩
    · exact .inl hmem
    · rcases hold hother with hother | hother
      · exact .inr ⟨other, hother, hcarries⟩
      · rw [hother] at hcarries
        cases hcarries
  · rcases hold hother with hother | hother
    · exact hother
    · rw [hsaves] at hother
      cases hother

theorem UpToDate.accept {worker : Worker} (h : c.UpToDate) (hready : worker.progress = .ready) :
    UpToDate { c with workers := c.workers ++ [worker] } := by
  intro update hupdate
  refine h update (mem_saved.2 ?_)
  rcases mem_saved.1 hupdate with hmem | ⟨other, hother, hsaves⟩
  · exact .inl hmem
  · rcases List.mem_append.1 hother with hother | hother
    · exact .inr ⟨other, hother, hsaves⟩
    · rw [List.mem_singleton.1 hother, hready] at hsaves
      cases hsaves

theorem Dated.step (h : c.Dated config) (hstep : c.step config move = some (c', reply)) :
    c'.Dated config := by
  rcases step_advances hstep with ⟨worker, rfl, hready⟩ | ⟨index, worker, hworker, hmove⟩
  · exact h.accept hready
  · exact h.advances hworker hmove

theorem UpToDate.step (hdated : c.Dated config) (h : c.UpToDate) (horder : c.InOrder move)
    (hstep : c.step config move = some (c', reply)) : c'.UpToDate := by
  rcases step_advances hstep with ⟨worker, rfl, hready⟩ | ⟨index, worker, hworker, hmove⟩
  · exact h.accept hready
  · exact h.advances hdated hworker horder hmove

end

/-- What was answered stays in the store, when no image is written over the image of a later
operation. -/
theorem answered_updates_survive {config : EngineConfig} {engine : Engine} {c : Service}
    (hrun : Runs.Run (step config) InOrder { engine } c) : c.Lossless config := by
  have hdated : c.Dated config ∧ c.UpToDate := by
    refine hrun.inv (I := fun c => c.Dated config ∧ c.UpToDate)
      (fun c move c' reply horder h hstep =>
        ⟨h.1.step hstep, UpToDate.step h.1 h.2 horder hstep⟩) ⟨?_, fun update hupdate => by cases hupdate⟩
    refine ⟨fun update hupdate => ?_, fun image himage => ?_, fun worker hworker => (by cases hworker),
      fun update image hupdate => ?_⟩
    · rcases hupdate with hmem | ⟨_, hmem, -⟩ <;> cases hmem
    · rcases himage with hmem | ⟨_, hmem, -⟩ <;> cases hmem
    · rcases hupdate with hmem | ⟨_, hmem, -⟩ <;> cases hmem
  intro update hupdate
  obtain ⟨image, hstore, hversion⟩ := hdated.2 update (mem_saved.2 (.inl hupdate))
  exact ⟨image, hstore, hdated.1.contains update image (.inl hupdate) (.inl hstore) hversion⟩

end Service

namespace Scenario

/-! ## Two sessions -/

def otherPublisher : PublisherId := name "other-publisher"

/-- A frame of a session in the first epoch. -/
def asks (index : Nat) (frame : Frame) : Move :=
  .frame index frame { epoch := ⟨1⟩, begun := 2, now := 2 }

/-- A frame of a session, saved and answered. -/
def completes (index : Nat) (frame : Frame) : List Move :=
  [asks index frame, .encode index 2, .replace index, .respond index]

def registers (publisher : PublisherId) (boot : WorkerBootId) : Frame :=
  .registerPublisher (some { publisher, workerBoot := boot, scope })

/-- While the first session writes its image, the second advances the epoch and is answered. -/
def overtaken : List Move :=
  [.accept session, .accept (name "other-session")] ++
    completes 0 (registers publisher boot) ++ completes 1 (registers otherPublisher nextBoot) ++
    [asks 0 (.createPolicy (some { name := (create 1).name, scope := (create 1).scope, semantics })),
      .encode 0 2] ++
    completes 1 (.advanceEpoch (some [])) ++ [.replace 0]

def service (moves : List Move) : Service :=
  (Runs.runAll (Service.step config) { engine } moves).getD { engine }

end Scenario

instance (c : Service) (move : Move) : Decidable (c.InOrder move) :=
  match move with
  | .replace index => inferInstanceAs (Decidable (∀ image ∈ c.workers[index]?.bind fun worker =>
      worker.progress.image, ∀ update ∈ c.saved, update.version ≤ image.version))
  | .accept _ | .frame .. | .encode .. | .refuse .. | .respond _ | .lost _ => .isTrue trivial

namespace Scenario

/-- One session at a time: its registration and its policy are written and answered. -/
def founding : List Move :=
  .accept session :: completes 0 (registers publisher boot) ++
    completes 0 (.createPolicy (some
      { name := (create 1).name, scope := (create 1).scope, semantics }))

end Scenario

open Scenario in
/-- The policy is in the store when its creation is answered. -/
theorem creation_survives : (service founding).answered.length = 2 ∧
    ((service founding).store.any fun image => image.source.state.policies.contains policy) = true ∧
      (service founding).Lossless config := by
  refine ⟨by decide +kernel, by decide +kernel, ?_⟩
  have hreturns : (Runs.runAll (Service.step config) { engine } founding).isSome = true := by
    decide +kernel
  obtain ⟨c, hc⟩ := Option.isSome_iff_exists.1 hreturns
  have hend : service founding = c := by
    rw [service, hc]
    rfl
  rw [hend]
  exact Service.answered_updates_survive (Runs.runAll_where hc (by decide +kernel))

open Scenario in
/-- The store is left in the epoch before the one the second session was told of. -/
theorem older_image_is_written_last :
    Runs.Run (Service.step config) (fun _ _ => True) { engine } (service overtaken) ∧
      ¬ (service overtaken).Lossless config := by
  constructor
  · have hreturns : (Runs.runAll (Service.step config) { engine } overtaken).isSome = true := by
      decide +kernel
    obtain ⟨c, hc⟩ := Option.isSome_iff_exists.1 hreturns
    unfold service
    rw [hc]
    exact Runs.runAll_run hc
  · intro hlossless
    have hanswered : ((service overtaken).answered.any fun update =>
        update.after.state.epoch == ⟨2⟩) = true := by decide +kernel
    have hstored : ((service overtaken).store.all fun image =>
        image.source.state.epoch == ⟨1⟩) = true := by decide +kernel
    obtain ⟨update, hmem, hepoch⟩ := List.any_eq_true.1 hanswered
    obtain ⟨image, hstore, hlater⟩ := hlossless update hmem
    rw [hstore] at hstored
    have hgrows := hlater.epoch_le
    rw [beq_iff_eq.1 hepoch, beq_iff_eq.1 hstored] at hgrows
    exact absurd hgrows (by decide)

end AdaptiveRouting
